import GpuHandles.Proofs.HostBytes
import GpuHandles.Proofs.Session
/-!
Memory as a store of independent byte arrays.

The store knows no addresses and no machine: to each resource it gives its bytes, and an
operation that succeeded puts a new array, or writes over the start of one (`Store.step`).  An
operation that failed does nothing to it.  Whatever is not the target of a write stays as it is
(`write_of_ne`), and no write changes a length (`length_write`).
-/

namespace GpuHandles

/-- The bytes of each resource; what is no memory has none. -/
abbrev Store := Nat → List UInt8

/-- The count that a value stands for. -/
def Value.count (v : Value) : Nat := (v.index?.getD 0).toNat

namespace Store

/-- No memory at all. -/
def empty : Store := fun _ => []

/-- A new array. -/
def put (s : Store) (id : Nat) (bs : List UInt8) : Store := fun k => if k = id then bs else s k

/-- Bytes written over the start of an array. -/
def write (s : Store) (id : Nat) (bs : List UInt8) : Store :=
  s.put id (bs ++ (s id).drop bs.length)

/-- An allocation of `n` bytes that ended with a value. -/
def allocate (s : Store) (n : Nat) : Value → Store
  | .handle id _ => s.put id (List.replicate n 0)
  | _ => s

/-- The number of bytes that a fill writes over an array. -/
def filled (s : Store) (id : Nat) : Value → Nat
  | .null => (s id).length
  | size => size.count

/-- An operation that ended with a value. -/
def succeed (s : Store) : Operation → Value → Store
  | .allocate size, v => s.allocate size.count v
  | .allocateFlagged size _, v => s.allocate size.count v
  | .allocateOrdered size _, v => s.allocate size.count v
  | .allocateFromPool _ size _, v => s.allocate size.count v
  | .copyFromHost id source, _ =>
    match HostArray.ofValue source with
    | .ok host => s.write id host.content
    | .error _ => s
  | .copyTo id (.handle target _) _, _ => s.write target (s id)
  | .fill id value size, _ =>
    s.write id (List.replicate (s.filled id size) (UInt8.ofNat value.count))
  | _, _ => s

/-- An operation with what it ended with: a fault leaves everything as it was. -/
def step (s : Store) (op : Operation) : Except Fault Value → Store
  | .ok v => s.succeed op v
  | .error _ => s

/-- One turn of a session. -/
def take (s : Store) (w : World) : Turn → Store
  | .operate op _ => s.step op (op.perform.outcome w).1
  | _ => s

/-- A session that starts in the world `w`. -/
def after (s : Store) (w : World) : List Turn → Store
  | [] => s
  | t :: ts => (s.take w t).after (t.take w) ts

variable {s : Store} {id k : Nat} {bs : List UInt8}

@[simp] theorem put_self : s.put id bs id = bs := if_pos rfl

theorem put_of_ne (h : k ≠ id) : s.put id bs k = s k := if_neg h

theorem put_same (h : s id = bs) : s.put id bs = s := by
  funext k
  by_cases same : k = id
  · rw [same, put_self, h]
  · exact put_of_ne same

theorem write_at : s.write id bs id = bs ++ (s id).drop bs.length := put_self

theorem write_of_ne (h : k ≠ id) : s.write id bs k = s k := put_of_ne h

/-- An array over another of the same length takes its place. -/
theorem write_whole (same : bs.length = (s id).length) : s.write id bs = s.put id bs := by
  unfold write
  rw [same, List.drop_length, List.append_nil]

/-- Nothing written changes nothing. -/
@[simp] theorem write_nil : s.write id [] = s := put_same rfl

theorem length_write (fits : bs.length ≤ (s id).length) :
    (s.write id bs k).length = (s k).length := by
  by_cases same : k = id
  · rw [same, write_at, List.length_append, List.length_drop]
    omega
  · rw [write_of_ne same]

/-- An array is as long as it was, so a write that fits leaves bytes where there were some. -/
theorem write_eq_nil (fits : bs.length ≤ (s id).length) : s.write id bs k = [] ↔ s k = [] := by
  rw [← List.length_eq_zero_iff, ← List.length_eq_zero_iff, length_write fits]

/-- Only operations on memory reach the store. -/
theorem succeed_of_idle {op : Operation} {v : Value} (sizeless : op.asked? = none)
    (copies : .copy ∉ op.entries) (fills : .fill ∉ op.entries) : s.succeed op v = s := by
  cases op with
  | allocate | allocateFlagged | allocateOrdered | allocateFromPool => cases sizeless
  | copyFromHost | copyTo => exact absurd (.head _) copies
  | fill => exact absurd (.head _) fills
  | _ => rfl

theorem succeed_of_asked {op : Operation} {v size : Value} (asked : op.asked? = some size) :
    s.succeed op v = s.allocate size.count v := by
  cases op with
  | allocate | allocateFlagged | allocateOrdered | allocateFromPool =>
    cases asked
    rfl
  | _ => cases asked

end Store
end GpuHandles
