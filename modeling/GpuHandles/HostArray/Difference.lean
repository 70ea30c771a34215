import GpuHandles.HostArray.Printed
/-!
How two arrays of floating elements differ.

The report counts the places where the elements are not equal, names the largest
distance there, as such and in proportion to the element that was expected, and
shows both arrays.  Arrays that agree everywhere have no report.
-/

namespace GpuHandles

namespace Binary

/-- The distance between two values, rounded to a format. -/
def distance (f : Format) : Binary → Binary → Binary
  | .finite s m e, .finite t n k =>
    let low := min e k
    let gap := signedMantissa s m * 2 ^ (e - low).toNat - signedMantissa t n * 2 ^ (k - low).toNat
    let (num, den) := scaleFraction gap.natAbs 1 low
    round f false num den
  | .nan .., _ | _, .nan .. => undefined false
  | _, _ => .infinite false

/-- A distance in proportion to the size of a value that is not zero. -/
def proportion (f : Format) : Binary → Binary → Binary
  | .finite _ m e, .finite _ n k =>
    let (num, den) := scaleFraction m n (e - k)
    round f false num den
  | .finite .., .infinite _ => .finite false 0 f.lowest
  | .infinite _, .finite .. => .infinite false
  | _, _ => undefined false

/-- The larger of two values. -/
def larger (a b : Binary) : Binary := if a.order b == some .lt then b else a

/-- The largest of some values. -/
def largest? : List Binary → Option Binary
  | [] => none
  | x :: xs => some (xs.foldl larger x)

/-- Are two elements taken for the same?  Two that are no numbers are. -/
def agrees (a b : Binary) : Bool := a.order b == some .eq || (a.isUndefined && b.isUndefined)

end Binary

namespace HostArray

/-- A positive fraction with three significant digits and no zeros at the end, for one below
a thousand. -/
def threeDigits (num den : Nat) : String :=
  let places := (List.range 20).find? (fun p => 100 * den ≤ num * 10 ^ p) |>.getD 20
  let d := Binary.divideToEven (num * 10 ^ places) den
  let whole := toString (d / 10 ^ places)
  let part := toString (d % 10 ^ places)
  let digits := Binary.zeros (places - part.length) ++ part
  let kept := (digits.toList.reverse.dropWhile (· == '0')).reverse
  if kept.isEmpty || places = 0 then whole else whole ++ "." ++ String.ofList kept

/-- How far apart elements are: the largest distance, and the largest in proportion to an
expected element that is not zero. -/
def distances (f : Format) (wrong : List (Binary × Binary)) : Binary × Binary :=
  let gaps := wrong.map fun p => p.1.distance f p.2
  let shares := wrong.filterMap fun p =>
    if p.2.order (.exact 0) == some .eq then none else some ((p.1.distance f p.2).proportion f p.2)
  ((Binary.largest? gaps).getD (.undefined false), (Binary.largest? shares).getD (.infinite false))

/-- The report on two arrays of one shape, if they differ. -/
def difference? (actual expected : HostArray) : Option String :=
  let f := actual.type.format?.getD .double
  let values (a : HostArray) : List Binary := a.elements.map (Element.asReal f)
  let pairs := (values actual).zip (values expected)
  let wrong := pairs.filter fun p => !p.1.agrees p.2
  if wrong.isEmpty then none
  else
    let (gap, share) := distances f wrong
    let alone (x : Binary) : String := realWriter f false [x] x
    some ("\n".intercalate
      ["", "Arrays are not equal", "",
        "Mismatched elements: " ++ toString wrong.length ++ " / " ++ toString pairs.length ++
          " (" ++ threeDigits (100 * wrong.length) pairs.length ++ "%)",
        "Max absolute difference among violations: " ++ alone gap,
        "Max relative difference among violations: " ++ alone share,
        " ACTUAL: " ++ actual.shown, " DESIRED: " ++ expected.shown])

end HostArray
end GpuHandles
