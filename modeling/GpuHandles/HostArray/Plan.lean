import GpuHandles.Fault
/-!
Arrays described step by step.

A plan names an element type and some bytes, and then what is done to the array
over them: a shape given to it, its axes reversed, slices taken from its leading
axes, its memory locked.  `Plan.build` carries a plan out, or says which step
cannot be done.
-/

namespace GpuHandles

/-- The elements, or blocks of them, with a written name. -/
def ElementBlock.ofName (s : String) : Except Fault ElementBlock :=
  match ElementBlock.ofText? s with
  | some type => .ok type
  | none => .error (.unknownType s)

namespace HostArray

/-- The description of an array. -/
structure Plan where
  /-- no name: floats of eight bytes -/
  typeName : Option String
  bytes : List UInt8
  /-- how often the bytes stand one behind the other -/
  copies : Nat
  /-- lengths of the axes; a negative one is worked out from the others -/
  shape : Option (List Int)
  transposed : Bool
  slices : List Slice
  locked : Bool
  deriving Repr, Inhabited

namespace Plan

/-- The array of blocks along one axis over some bytes. -/
def overBytes (type : ElementBlock) (bs : List UInt8) : Except Fault HostArray :=
  if type.size = 0 then .error .emptyItem
  else if bs.length % type.size ≠ 0 then .error .partialBuffer
  else .ok (.ofBytes type.item (bs.length / type.size :: type.axes) bs)

/-- The lengths of the axes of `count` elements, the negative one among them worked out. -/
def resolveShape (count : Nat) (asked : List Int) : Except Fault (List Nat) :=
  let known := ((asked.filter (0 ≤ ·)).map Int.toNat).foldl (· * ·) 1
  match (asked.filter (· < 0)).length with
  | 0 =>
    if known = count then .ok (asked.map Int.toNat) else .error (.badShape count asked)
  | 1 =>
    if known = 0 || count % known ≠ 0 then .error (.badShape count asked)
    else .ok (asked.map fun n => if n < 0 then count / known else n.toNat)
  | _ => .error .unknownLengths

/-- The same elements in C order along other axes. -/
def reshape (a : HostArray) (asked : List Int) : Except Fault HostArray := do
  return .ofBytes a.type (← resolveShape a.count asked) a.bytes

/-- One slice for each leading axis. -/
def takeSlices (a : HostArray) (cs : List Slice) : Except Fault HostArray :=
  if a.shape.length < cs.length then .error (.tooManyIndices a.shape.length cs.length)
  else if cs.any fun c => c.step == some 0 then .error .zeroStep
  else .ok (a.slice cs)

/-- The array of a plan. -/
def build (p : Plan) : Except Fault HostArray := do
  let type ← match p.typeName with
    | some s => ElementBlock.ofName s
    | none => pure ElementType.float64
  let a ← overBytes type (List.replicate p.copies p.bytes).flatten
  let a ← match p.shape with
    | some ns => reshape a ns
    | none => pure a
  let a := if p.transposed then a.transpose else a
  let a ← takeSlices a p.slices
  return if p.locked then a.readOnly else a

end Plan
end HostArray
end GpuHandles
