import GpuHandles.Machine.Basic
import GpuHandles.Text.Digest
/-!
What can be seen of a machine: its tables in the order of their keys.
-/

namespace GpuHandles

/-- A pool as it is shown. -/
structure PoolView where
  handle : Nat
  allocationType : Int
  handleTypes : Int
  device : Int
  maxSize : Nat
  /-- are all bytes zero that carry nothing? -/
  reservedZero : Bool
  trimmedTo : Option Value

/-- A machine as it is shown. -/
structure Snapshot where
  initialized : Bool
  currentDevice : Value
  allocations : List (Nat × Text.Digest)
  streams : List (Nat × Int)
  pools : List PoolView
  defaultPools : List (Value × Nat)

namespace Machine

/-- The view of a pool. -/
def poolView (handle : Nat) (r : PoolRecord) : PoolView where
  handle := handle
  allocationType := r.props.allocationType
  handleTypes := r.props.handleTypes
  device := r.props.locationId
  maxSize := r.props.maxSize
  reservedZero := (r.props.bytes.drop 32).all (· == 0)
  trimmedTo := r.trimmedTo

/-- Entries by rising key. -/
def byKey {α : Type} (t : Table Nat α) : Table Nat α := t.mergeSort fun a b => a.1 ≤ b.1

/-- Does the number of one device come before that of another, or with it? -/
def deviceBefore (a b : Value) : Bool :=
  match a.number?, b.number? with
  | some x, some y => x.order y != some .gt
  | _, _ => true

/-- What can be seen of a machine. -/
def snapshot (m : Machine) : Snapshot where
  initialized := m.initialized
  currentDevice := m.currentDevice
  allocations := (byKey m.allocations).map fun e => (e.1, Text.Digest.ofBytes e.2)
  streams := byKey m.streams
  pools := (byKey m.pools).map fun e => poolView e.1 e.2
  defaultPools := m.defaultPools.mergeSort fun a b => deviceBefore a.1 b.1

end Machine
end GpuHandles
