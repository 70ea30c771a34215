import GpuHandles.Fault
/-!
Host values as arrays.

A transfer takes any value.  An array is taken as it is, numbers and texts stand for
one element, and a list stands for its items along a new axis, so all items must
have the same shape.  `Survey` goes through a value once, depth first, and finds its
shape and its element types; `parts` then lists its elements in C order, and each is
written in the type that holds them all.
-/

namespace GpuHandles.HostArray

/-- The most axes that an array can have. -/
def mostAxes : Nat := 64

/-- The element type of a whole number. -/
def wholeType (n : Int) : ElementType :=
  if -2 ^ 63 ≤ n ∧ n < 2 ^ 63 then .int64
  else if 0 ≤ n ∧ n < 2 ^ 64 then .uint64
  else .object

/-- A value that is one element: its type, and the element. -/
def single : Value → ElementType × Element
  | .text s => (.text s.length false, .text (s.toList.map Char.toNat))
  | .scalar t _ n => (t, .number n)
  | .float x => (.float64, .number (.real x))
  | .truth b => (.bool, .number (.truth b))
  | v =>
    match v.integer? with
    | some n => (wholeType n, .number (.int n))
    | none => (.object, .reference)

/-! ## Shape and types -/

/-- What has been found out about a value on the way through it. -/
structure Survey where
  /-- the number of axes that is still possible -/
  most : Nat
  /-- lengths of the axes found so far -/
  shape : List Nat
  /-- has an element been reached? -/
  settled : Bool
  /-- do the items differ in shape? -/
  ragged : Bool
  /-- the type that holds all elements so far -/
  type : Option ElementType
  deriving Repr

namespace Survey

/-- Nothing has been looked at. -/
def start : Survey := ⟨mostAxes, [], false, false, none⟩

/-- How many lengths agree with those found before, counted from the first. -/
def agreeing : List Nat → List Nat → Nat
  | n :: ns, k :: ks => if n = k then agreeing ns ks + 1 else 0
  | _, _ => 0

/-- The shape of an element, or of an array among the items, at some depth. -/
def settle (s : Survey) (depth : Nat) (axes : List Nat) : Survey :=
  let tooMany := decide (s.most < depth + axes.length)
  let axes := axes.take (s.most - depth)
  let other := s.settled && s.most != depth + axes.length
  let most := if tooMany then s.most else depth + axes.length
  if !s.settled then
    { s with
      most := most
      shape := s.shape.take depth ++ axes
      settled := true
      ragged := s.ragged || tooMany }
  else
    let same := agreeing axes (s.shape.drop depth)
    { s with
      most := if same = axes.length then most else depth + same
      ragged := s.ragged || tooMany || other || same != axes.length }

/-- A list at some depth, and whether its items are to be visited: not where no axis is left,
nor where its length differs from one found before, nor where it has none. -/
def enter (s : Survey) (depth length : Nat) : Survey × Bool :=
  if s.most = depth then ({ s.settle depth [] with ragged := true }, false)
  else if s.settled && s.shape[depth]? != some length then
    ({ s with most := depth, ragged := true }, false)
  else
    let s := if s.settled then s else { s with shape := s.shape.take depth ++ [length] }
    if length = 0 then ({ s with most := depth + 1, settled := true }, false) else (s, true)

/-- An element type found. -/
def add (s : Survey) (t : ElementType) : Survey :=
  { s with type := some (match s.type with | some u => u.join t | none => t) }

/-- An item that is an element. -/
def element (s : Survey) (depth : Nat) (v : Value) : Survey :=
  (s.settle depth []).add (single v).1

mutual
/-- A value at some depth. -/
def visit (s : Survey) (depth : Nat) : Value → Survey
  | .array a => (s.settle depth a.shape).add a.type
  | .list items | .tuple items =>
    match s.enter depth items.length with
    | (s, true) => visitAll s (depth + 1) items
    | (s, false) => s
  | .version _ parts =>
    match s.enter depth parts.length with
    | (s, true) => parts.foldl (fun s p => s.element (depth + 1) (.ofNumber p.2)) s
    | (s, false) => s
  | v => s.element depth v

/-- Several items at one depth, in order. -/
def visitAll (s : Survey) (depth : Nat) : List Value → Survey
  | [] => s
  | v :: vs => visitAll (visit s depth v) depth vs
end

/-- The shape found, if the items agree on one. -/
def result (s : Survey) : Except Fault (List Nat) :=
  if !s.ragged then .ok (s.shape.take s.most)
  else if s.most = mostAxes then .error (.tooDeep mostAxes)
  else .error (.ragged (s.shape.take s.most))

/-- The type that holds all elements; none at all count as floats. -/
def elementType (s : Survey) : ElementType :=
  match s.type with
  | none => .float64
  | some (.text 0 swapped) => .text 1 swapped
  | some t => t

end Survey

/-! ## Elements -/

/-- An element of one type as it is stored in another; bytes that become text have to be
ASCII. -/
def stored (source target : ElementType) (e : Element) : Except Fault (List UInt8) :=
  match target, e with
  | .text .., .bytes bs =>
    match Text.Ascii.decode bs with
    | .ok _ => .ok (e.encode source target)
    | .error (b, position) => .error (.notAsciiByte b position)
  | _, _ => .ok (e.encode source target)

/-- A value that is one element as it is stored in a type. -/
def storedValue (target : ElementType) (v : Value) : Except Fault (List UInt8) :=
  let (type, e) := single v
  stored type target e

mutual
/-- The elements of a value in C order, each as it is stored in a type. -/
def parts (target : ElementType) : Value → Except Fault (List (List UInt8))
  | .array a =>
    if a.type = target then .ok a.copiedElements
    else a.elements.mapM (stored a.type target)
  | .list items | .tuple items => partsOfAll target items
  | .version _ ps => ps.mapM fun p => storedValue target (.ofNumber p.2)
  | v => do return [← storedValue target v]

/-- The elements of several values in order. -/
def partsOfAll (target : ElementType) : List Value → Except Fault (List (List UInt8))
  | [] => .ok []
  | v :: vs => do return (← parts target v) ++ (← partsOfAll target vs)
end

/-- The array that a value stands for. -/
def ofValue : Value → Except Fault HostArray
  | .array a => .ok a
  | v => do
    let survey := Survey.start.visit 0 v
    let shape ← survey.result
    let type := survey.elementType
    return ofBytes type shape (← parts type v).flatten

end GpuHandles.HostArray
