import GpuHandles.Fault
/-!
Order and truth of values.

Numbers of every kind have an order among each other, texts among each other, and
lists among each other; no other two values have one.  An array takes the place of
its only element, and with more elements, or none, it is neither true nor false.
`compare_int` says what a comparison of whole numbers is.
-/

namespace GpuHandles

/-- A question about the order of two values. -/
inductive Relation where
  | below
  | atMost
  | above
  deriving Repr, DecidableEq

namespace Relation

/-- The sign of the relation. -/
def symbol : Relation → String
  | below => "<"
  | atMost => "<="
  | above => ">"

/-- The name of the relation where elements are compared one by one. -/
def elementwise : Relation → String
  | below => "less"
  | atMost => "less_equal"
  | above => "greater"

/-- The same name, seen from the other side. -/
def elementwiseFlipped : Relation → String
  | below => "greater"
  | atMost => "greater_equal"
  | above => "less"

/-- Does the relation hold between values of an order?  Values without one are in no
relation. -/
def holds : Relation → Option Ordering → Bool
  | below, o => o == some .lt
  | atMost, o => o == some .lt || o == some .eq
  | above, o => o == some .gt

end Relation

namespace Value

/-- The only element of an array as a value. -/
def onlyItem (a : HostArray) : Except Fault Value :=
  if a.count = 0 then .error .noTruth
  else if 1 < a.count then .error .manyTruths
  else
    match a.onlyElement? with
    | some (.number n) => .ok (.scalar a.type .usual n)
    | some (.text codes) => .ok (.text (Element.characters codes))
    | some (.bytes bs) => .ok (.text (Element.characters (bs.map UInt8.toNat)))
    | _ => .ok (.array a)

/-- A value, or the only element of an array. -/
def item : Value → Except Fault Value
  | .array a => onlyItem a
  | v => .ok v

/-- The fault of asking for the order of values that have none. -/
def noOrder (r : Relation) (a b : Value) : Fault :=
  .unordered r.symbol a.qualifiedType b.qualifiedType

/-- The order of two texts, by their characters. -/
def textOrder (s t : String) : Ordering :=
  if s < t then .lt else if t < s then .gt else .eq

/-- Are two values in a relation, by themselves? -/
def compareItem (r : Relation) (a b : Value) : Except Fault Bool :=
  match a, b with
  | .int m, .int n => .ok (r.holds (some (compare m n)))
  | .text s, .text t => .ok (r.holds (some (textOrder s t)))
  | a, b =>
    match a.quantity?, b.quantity? with
    | some x, some y => .ok (r.holds (x.order y))
    | _, _ => .error (noOrder r a b)

/-- Are two lists in a relation?  The first two items that differ decide, else the
lengths. -/
def compareItems (r : Relation) : List Value → List Value → Except Fault Bool
  | a :: as, b :: bs => if a.equal b then compareItems r as bs else compareItem r a b
  | as, bs => .ok (r.holds (some (compare as.length bs.length)))

/-- The class of elements that have no order with numbers, by its name. -/
def orderlessClass? : ElementType → Option String
  | .text .. => some "StrDType"
  | .byteString _ => some "BytesDType"
  | .raw _ => some "VoidDType"
  | _ => none

/-- The fault of comparing an array with a number that its elements have no order with. -/
def noElementOrder? (r : Relation) : Value → Value → Option Fault
  | .array x, .int _ => (orderlessClass? x.type).map (.unorderedElements r.elementwise)
  | .int _, .array y => (orderlessClass? y.type).map (.unorderedElements r.elementwiseFlipped)
  | _, _ => none

/-- Are two values in a relation? -/
def compare (a : Value) (r : Relation) (b : Value) : Except Fault Bool := do
  match a, b with
  | .list as, .list bs => compareItems r as bs
  | .array _, _ | _, .array _ =>
    match noElementOrder? r a b with
    | some f => .error f
    | none => compareItem r (← a.item) (← b.item)
  | a, b => compareItem r a b

theorem compare_int (r : Relation) (m n : Int) :
    (Value.int m).compare r (.int n) = .ok (r.holds (some (Ord.compare m n))) := rfl

/-- Is a value compared with an array element by element? -/
def meetsElements (v : Value) : Bool :=
  v.quantity?.isSome || (v matches .text _) || (v matches .array _)

/-- Is a value equal to another, as far as that is true or false? -/
def sameAs (a b : Value) : Except Fault Bool := do
  match a, b with
  | .array x, b => if b.meetsElements then return (← onlyItem x).equal (← b.item) else return false
  | a, .array y => if a.meetsElements then return a.equal (← onlyItem y) else return false
  | a, b => return a.equal b

/-- The length of device memory of a size: the size has to be a count. -/
def lengthOfSize (size : Value) : Except Fault Int := do
  let n ← size.toIndex
  if n < 0 then .error .negativeLength
  else if 2 ^ 63 ≤ n then .error .lengthOverflow
  else return n

/-- The length of a value; `size` gives the sizes of device memory. -/
def length (size : Nat → Value) : Value → Except Fault Int
  | .handle id .pointer => lengthOfSize (size id)
  | .text s => .ok s.length
  | .array a =>
    match a.shape with
    | n :: _ => .ok n
    | [] => .error .noLengthOfElement
  | v =>
    match v.items? with
    | some vs => .ok vs.length
    | none => .error (.noLength v.qualifiedType)

/-- Does a value count as true?  `size` gives the sizes of device memory, which counts as
false without a byte. -/
def countsAsTrue (size : Nat → Value) (v : Value) : Except Fault Bool := do
  match ← v.item with
  | .null => return false
  | .truth b => return b
  | .text s => return !s.isEmpty
  | .address a => return a.isSome
  | .handle id .pointer => return (← lengthOfSize (size id)) != 0
  | v =>
    match v.items?, v.number? with
    | some vs, _ => return !vs.isEmpty
    | none, some n => return !n.equal (.int 0)
    | none, none => return true

end Value
end GpuHandles
