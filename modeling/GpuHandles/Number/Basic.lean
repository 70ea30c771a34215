import GpuHandles.Number.Complex
/-!
Numbers of all kinds: whole numbers of any size, truth values, floating values, and
complex values, which have two floating parts.  They compare across kinds by what they
are exactly, and by their second parts where the first ones are equal.
-/

namespace GpuHandles

/-- A number as a script holds it. -/
inductive Number where
  | int (n : Int)
  | truth (b : Bool)
  | real (x : Binary)
  | complex (re im : Binary)
  deriving Repr, DecidableEq, Inhabited

namespace Number

/-- The whole number that a truth value counts as. -/
def ofTruth (b : Bool) : Int := if b then 1 else 0

/-- The first part of a number as an exact binary value. -/
def exact : Number → Binary
  | int n => .exact n
  | truth b => .exact (ofTruth b)
  | real x | complex x _ => x

/-- The second part of a number; only a complex one has a part that is not zero. -/
def second : Number → Binary
  | complex _ y => y
  | _ => .exact 0

/-- The number as a whole number, if it is one by kind. -/
def whole? : Number → Option Int
  | int n => some n
  | truth b => some (ofTruth b)
  | _ => none

/-- The first part of a number rounded to a format; a whole number is a value of eight bytes
first. -/
def inFormat (f : Format) : Number → Binary
  | int n => (Binary.ofInt .double n).convert f
  | truth b => .ofInt f (ofTruth b)
  | real x | complex x _ => x.convert f

/-- A number with its parts rounded to a format. -/
def rounded (f : Format) : Number → Number
  | complex x y => complex (x.convert f) (y.convert f)
  | n => real (n.inFormat f)

/-- The first part of a number without its fraction. -/
def truncate : Number → Except Binary.NotWhole Int
  | int n => .ok n
  | truth b => .ok (ofTruth b)
  | real x | complex x _ => x.truncate

/-- The order of two numbers of any kind: by their first parts, then by their second ones. -/
def order (a b : Number) : Option Ordering :=
  match a.exact.order b.exact with
  | some .eq => a.second.order b.second
  | o => o

/-- Are two numbers equal, whatever their kinds? -/
def equal (a b : Number) : Bool := a.order b == some .eq

/-- The number as it prints, a floating one with the digits that its format needs. -/
def text (f : Format) : Number → String
  | int n => toString n
  | truth b => if b then "True" else "False"
  | real x => (x.convert f).text f
  | complex x y => Binary.complexText f x y

end Number
end GpuHandles
