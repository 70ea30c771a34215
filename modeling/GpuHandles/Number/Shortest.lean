import GpuHandles.Number.Binary
/-!
The shortest decimal text of a floating value.

The reals that round to `m · 2 ^ e` form an interval, with its ends included
exactly when `m` is even.  `digits` looks at the grids of one, two, three, …
digits and takes the first grid with a point in that interval, the nearer of two
such points, and of two equally near ones the even one.
-/

namespace GpuHandles
namespace Binary

/-- `a · 2 ^ e` against `d · 10 ^ t`, exactly. -/
def compareDecimal (a : Nat) (e : Int) (d : Nat) (t : Int) : Ordering :=
  compare (a * 2 ^ e.toNat * 10 ^ (-t).toNat) (d * 10 ^ t.toNat * 2 ^ (-e).toNat)

/-- Does `d · 10 ^ t` round to `m · 2 ^ e`?  Below a power of two the gap is half as
wide, except at the bottom of the format. -/
def readsBack (f : Format) (m : Nat) (e : Int) (d : Nat) (t : Int) : Bool :=
  let below := if m = 2 ^ (f.precision - 1) && f.lowest < e then 4 * m - 1 else 4 * m - 2
  let low := compareDecimal below (e - 2) d t
  let high := compareDecimal (4 * m + 2) (e - 2) d t
  if m % 2 = 0 then low != .gt && high != .lt else low == .lt && high == .gt

/-- The least `k` with `m · 2 ^ e < 10 ^ k`, for positive `m`. -/
def decimalScale (m : Nat) (e : Int) : Int :=
  let guess := ((Nat.log2 m : Int) + e) * 30103 / 100000
  if compareDecimal m e 1 guess == .lt then guess
  else if compareDecimal m e 1 (guess + 1) == .lt then guess + 1
  else guess + 2

/-- The largest `d` with `d · 10 ^ t ≤ m · 2 ^ e`. -/
def decimalFloor (m : Nat) (e t : Int) : Nat :=
  m * 2 ^ e.toNat * 10 ^ (-t).toNat / (10 ^ t.toNat * 2 ^ (-e).toNat)

/-- Of two neighbours on a grid that both read back, the nearer one. -/
def nearer (m : Nat) (e : Int) (d : Nat) (t : Int) : Nat :=
  match compareDecimal (2 * m) e (2 * d + 1) t with
  | .lt => d
  | .gt => d + 1
  | .eq => d + d % 2

/-- The point of the grid `10 ^ t` that reads back, if there is one. -/
def onGrid (f : Format) (m : Nat) (e t : Int) : Option Nat :=
  let d := decimalFloor m e t
  match readsBack f m e d t, readsBack f m e (d + 1) t with
  | true, true => some (nearer m e d t)
  | true, false => some d
  | false, true => some (d + 1)
  | false, false => none

/-- Trailing zeros moved into the exponent; `fuel` bounds their number. -/
def stripZeros : Nat → Nat → Int → Nat × Int
  | 0, d, t => (d, t)
  | fuel + 1, d, t => if d % 10 = 0 then stripZeros fuel (d / 10) (t + 1) else (d, t)

/-- The fewest decimal digits that read back as `m · 2 ^ e`, as `d · 10 ^ t`. -/
def digits (f : Format) (m : Nat) (e : Int) : Nat × Int :=
  let k := decimalScale m e
  let found := (List.range 17).findSome? fun (n : Nat) =>
    (onGrid f m e (k - (n + 1))).map fun d => (d, k - (n + 1))
  let (d, t) := found.getD (decimalFloor m e (k - 17), k - 17)
  stripZeros 20 d t

/-- A run of zeros. -/
def zeros (n : Nat) : String := String.ofList (List.replicate n '0')

/-- An exponent of at least two digits, with its sign. -/
def exponentText (x : Int) : String :=
  let size := toString x.natAbs
  (if x < 0 then "e-" else "e+") ++ zeros (2 - size.length) ++ size

/-- Digits with a point: positional from `10 ^ -4` up to `10 ^ 16`, with an exponent
outside, and always with a point or an exponent. -/
def layOut (d : Nat) (t : Int) : String :=
  let ds := toString d
  let point : Int := ds.length + t
  if -4 < point && point ≤ 16 then
    if point ≤ 0 then "0." ++ zeros (-point).toNat ++ ds
    else if ds.length ≤ point.toNat then ds ++ zeros (point.toNat - ds.length) ++ ".0"
    else String.ofList (ds.toList.take point.toNat) ++ "." ++
      String.ofList (ds.toList.drop point.toNat)
  else
    let rest := ds.toList.drop 1
    String.ofList (ds.toList.take 1) ++ (if rest.isEmpty then "" else "." ++ String.ofList rest) ++
      exponentText (point - 1)

/-- The shortest text that reads back as the value. -/
def text (f : Format) : Binary → String
  | .nan .. => "nan"
  | .infinite negative => if negative then "-inf" else "inf"
  | .finite negative m e =>
    (if negative then "-" else "") ++
      if m = 0 then "0.0" else let (d, t) := digits f m e; layOut d t

end Binary
end GpuHandles
