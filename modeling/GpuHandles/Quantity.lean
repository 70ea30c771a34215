import GpuHandles.HostArray.Element
/-!
Numbers with the type of element that they are.

A plain number stands for itself.  An element of an array belongs to its type, and
is compared with another number in the format that the two share: floating
elements round a plain number to their own format first, whole elements stay exact.
-/

namespace GpuHandles

/-- A number, and the type of element that it is, if it is one. -/
structure Quantity where
  number : Number
  type : Option ElementType
  deriving Repr, DecidableEq

namespace Quantity

/-- A number that is no element of an array. -/
def plain (n : Number) : Quantity := ⟨n, none⟩

/-- Are the elements of a type whole numbers or truth values? -/
def isExact (t : ElementType) : Bool := t.isWhole || t == .bool

/-- The format in which an element of a type is compared with a plain number. -/
def mixedFormat? (t : ElementType) (n : Number) : Option Format :=
  match t.format?, n with
  | some f, _ => some f
  | none, .real _ => some .double
  | none, _ => none

/-- The format in which two numbers are compared; none where they are compared exactly. -/
def commonFormat? (a b : Quantity) : Option Format :=
  match a.type, b.type with
  | none, none => none
  | some s, none => mixedFormat? s b.number
  | none, some t => mixedFormat? t a.number
  | some s, some t => if isExact s && isExact t then none else (s.join t).format?

/-- The order of two numbers. -/
def order (a b : Quantity) : Option Ordering :=
  match commonFormat? a b with
  | some f => (a.number.rounded f).order (b.number.rounded f)
  | none => a.number.order b.number

/-- Are two numbers equal where they are compared? -/
def equal (a b : Quantity) : Bool := a.order b == some .eq

end Quantity
end GpuHandles
