import GpuHandles.Fault
/-!
Devices as members of a set: two are the same member if their numbers have the same
key, whatever kinds of number they are.  Two numbers may be equal where they are
compared and still have different keys.
-/

namespace GpuHandles.DeviceSet

/-- What several devices are as a set. -/
structure Summary where
  shown : List String
  /-- how many different ones there are -/
  distinct : Nat
  /-- which of them are equal to the first -/
  equalToFirst : List Bool
  deriving Repr

/-- A value added to those that differ from each other. -/
def insert (seen : List Value) (v : Value) : List Value :=
  if seen.any v.sameKey then seen else seen ++ [v]

/-- Is a value equal to the first of a list?  The first one is, whatever it is. -/
def equalFlags : List Value → List Bool
  | [] => []
  | first :: rest => true :: rest.map first.equal

/-- Devices by their numbers; a number must be able to stand as a key. -/
def summary (ids : List Value) : Except Fault Summary :=
  match ids.findSome? Value.unhashable? with
  | some type => .error (.unhashable type)
  | none =>
    .ok
      { shown := ids.map fun v => (Value.device v).shown Value.nameless
        distinct := (ids.foldl insert []).length
        equalToFirst := equalFlags ids }

end GpuHandles.DeviceSet
