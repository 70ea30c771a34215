import GpuHandles.Script.Expression
import GpuHandles.World
/-!
What values share.

A value holds the resources in it, and a resource those in what it was made from.  An
array that a copy has filled is one array under all its names: what the next copy stores
in it shows wherever it stands.  An array that no copy has filled stands in one place
only.
-/

namespace GpuHandles.Script

/-! ## Resources -/

mutual
/-- The resources that a value holds. -/
def heldBy : Value → List Nat
  | .handle id _ => [id]
  | .list vs | .tuple vs => heldByAll vs
  | .device v => heldBy v
  | .poolProps a b c d e => heldBy a ++ heldBy b ++ heldBy c ++ heldBy d ++ heldBy e
  | _ => []

/-- The resources that several values hold. -/
def heldByAll : List Value → List Nat
  | [] => []
  | v :: vs => heldBy v ++ heldByAll vs
end

/-- The resources that a resource holds. -/
def heldInside (r : Resource) : List Nat :=
  match r.payload with
  | .plain v => heldBy v ++ heldBy r.owned
  | .pointer _ size => heldBy r.owned ++ heldBy size
  | .pool _ (some p) => heldBy r.owned ++ heldBy p.toValue
  | _ => heldBy r.owned

/-! ## Arrays -/

mutual
/-- A value with the present state of an array in place of earlier ones. -/
def renew (present : HostArray) : Value → Value
  | .array a => .array (if a.identity = present.identity then present else a)
  | .list vs => .list (renewAll present vs)
  | .tuple vs => .tuple (renewAll present vs)
  | .device v => .device (renew present v)
  | .poolProps a b c d e =>
    .poolProps (renew present a) (renew present b) (renew present c) (renew present d)
      (renew present e)
  | v => v

/-- Several values with the present state of an array. -/
def renewAll (present : HostArray) : List Value → List Value
  | [] => []
  | v :: vs => renew present v :: renewAll present vs
end

/-- The array that a value is, if a copy has filled it. -/
def filled? : Value → Option HostArray
  | .array a => if a.identity = 0 then none else some a
  | _ => none

/-- Names with the present state of the array that a result is. -/
def renewNames (result : Value) (names : Bindings) : Bindings :=
  match filled? result with
  | some a => names.map fun e => (e.1, renew a e.2)
  | none => names

/-- A description of a pool with the present state of an array. -/
def renewProps (present : HostArray) (p : PoolProps) : PoolProps :=
  (PoolProps.ofValue? (renew present p.toValue)).getD p

/-- What a resource stands for, with the present state of an array. -/
def renewPayload (present : HostArray) : Payload → Payload
  | .pointer a size => .pointer a (renew present size)
  | .stream a => .stream a
  | .pool a props => .pool a (props.map (renewProps present))
  | .plain v => .plain (renew present v)

/-- A resource with the present state of an array. -/
def renewResource (present : HostArray) (r : Resource) : Resource :=
  { r with payload := renewPayload present r.payload, owned := renew present r.owned }

/-- A world with the present state of the array that a result is. -/
def renewWorld (result : Value) (w : World) : World :=
  match filled? result with
  | some a => { w with resources := w.resources.map (renewResource a) }
  | none => w

end GpuHandles.Script
