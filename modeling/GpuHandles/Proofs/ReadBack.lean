import GpuHandles.Proofs.Mirror
/-!
What a copy to the host gives.

A session drives the machine and, beside it, the store of byte arrays, which sees of every
operation only whether it succeeded.  A copy to the host, whenever it is made, gives what the
store holds then (`copyToHost_reads_store`): it can fail only for a reason that has nothing to
do with the bytes.
-/

namespace GpuHandles

/-- What a copy to the host gives of an allocation with the bytes `bs`: the array that was given,
with the first of them, or a new one with all of them, in elements or blocks of the type. -/
structure Reads (name : Nat → String) (bs : List UInt8) (type out : Value) (a : HostArray) :
    Prop where
  room : a.byteCount ≤ bs.length
  content : a.content = bs.take a.byteCount
  given : ∀ b, out = .array b → a.type = b.type ∧ a.shape = b.shape
  fresh : out = .null → ∃ t, Memory.elementType name type = .ok t ∧ a.type = t.item ∧
    a.shape = bs.length / t.size :: t.axes ∧ a.byteCount = bs.length

namespace Memory.Target

variable {name : Nat → String} {bs : List UInt8} {type out : Value} {a b : HostArray}

/-- The array to be filled, once it holds the bytes. -/
theorem reads (h : Target name bs.length type out a) (same : b.type = a.type)
    (shape : b.shape = a.shape) (content : b.content = bs.take a.byteCount) :
    Reads name bs type out b := by
  have count : b.byteCount = a.byteCount := by
    unfold HostArray.byteCount HostArray.count
    rw [same, shape]
  refine ⟨count ▸ h.room, count ▸ content, ?_, ?_⟩
  · intro o ho
    rw [same, shape, h.given o ho]
    exact ⟨rfl, rfl⟩
  · intro null
    obtain ⟨t, known, rfl, whole⟩ := h.fresh null
    exact ⟨t, known, same, shape, count.trans whole⟩

end Memory.Target

theorem HostArray.content_withBytes {a : HostArray} {bs : List UInt8} (k : Nat)
    (fits : bs.length = a.byteCount) :
    HostArray.content { a.withBytes bs with identity := k } = bs := by
  show (a.withBytes bs).bytes.take a.byteCount = bs
  rw [withBytes_bytes fits, List.take_of_length_le (Nat.le_of_eq fits)]

/-- A request to a library that has the entry point, answered with success. -/
theorem Loading.request_ok {w : World} {c : NativeCall} {out : Output}
    (direct : w.library = some .direct) (success : (w.machine.call c).1 = .code 0 out)
    (present : ¬Absent w c.entryPoint) : ∃ w', (request c).outcome w = (.ok out, w') := by
  obtain ⟨f, w', _, absent | ⟨g, refused⟩, _⟩ | ⟨c', w', arrived, _, ended⟩ :=
    request_cases direct c
  · exact absurd absent present
  · cases refused
  · cases arrived
    rw [success] at ended
    exact ⟨w', ended⟩

namespace Mirrors

variable {s : Store} {w : World}

/-- A copy to the host that ends with a value gives the bytes of the store. -/
theorem reads (h : Mirrors s w.resources w.machine.tables) (direct : w.library = some .direct)
    {id : Nat} {type out v : Value}
    (ended : ((Memory.copyToHost id type out).outcome w).1 = .ok v) :
    ∃ a, v = .array a ∧ Reads w.name (s id) type out a := by
  have way := Memory.copyToHost_transfer direct h.sizes id type out
  rw [ended] at way
  generalize ((Memory.copyToHost id type out).outcome w).2 = w' at way
  have length {r : Resource} {n : Nat} (there : w.resources[id]? = some r)
      (size : r.payload.size = .int n) : n = (s id).length := by
    have same := size.symm.trans (h.sized id r there)
    injection same with same
    exact Int.ofNat.inj same
  cases way with
  | idled nothing way =>
    obtain ⟨r, n, a, there, active, size, target, empty, rfl⟩ := nothing
    rw [length there size] at target
    refine ⟨a, rfl, target.reads rfl rfl ?_⟩
    rw [HostArray.content, empty, List.take_zero, List.take_zero]
  | moved _ success value way =>
    obtain ⟨a, ⟨r, n, there, active, size, target, some_bytes, rfl⟩, stored⟩ := value
    obtain ⟨k, buffer, address, found, room, rfl, _⟩ := Machine.call_copyOut success
    obtain ⟨j, rfl⟩ := stored _ rfl
    rw [length there size] at target
    have filled : s id ≠ [] := fun none => by
      have := target.room
      rw [none] at this
      exact some_bytes (Nat.le_zero.1 this)
    obtain ⟨_, k', address', holds⟩ := h.held id r there active filled
    cases address.symm.trans address'
    cases found.symm.trans holds
    refine ⟨_, rfl, target.reads rfl rfl (HostArray.content_withBytes j ?_)⟩
    rw [List.length_take]
    omega

section

variable (h : Mirrors s w.resources w.machine.tables) (direct : w.library = some .direct)
  (present : ¬Loading.Absent w .copy) (none : w.machine.injected .copy = 0) {id : Nat}
  {type out : Value} {r : Resource} {a : HostArray} (there : w.resources[id]? = some r)
  (active : r.released = false) (target : (Memory.targetArray r type out).outcome w = (.ok a, w))

include h direct present none there active target

/-- A copy to the host of active memory to an array that it can fill, and that has elements. -/
theorem copyToHost_value (some_bytes : a.byteCount ≠ 0) :
    ∃ k, ((Memory.copyToHost id type out).outcome w).1 =
      .ok (.array { a.withBytes ((s id).take a.byteCount) with identity := k }) := by
  obtain ⟨result, reads, known⟩ := Memory.targetArray_reads (h.sized id r there) type out w
  cases target.symm.trans reads
  have room := (known a rfl).room
  have filled : s id ≠ [] := fun none => by
    rw [none] at room
    exact some_bytes (Nat.le_zero.1 room)
  obtain ⟨_, k, address, holds⟩ := h.held id r there active filled
  have success : (w.machine.call (.copy (.host []) (.device r.payload.address)
      (.int a.byteCount) Memory.deviceToHost)).1 =
        .code 0 (.bytes ((s id).take a.byteCount)) := by
    rw [address]
    exact Machine.call_copyOut_fits [] none holds room
  obtain ⟨w', ended⟩ := Loading.request_ok direct success present
  obtain ⟨j, same⟩ := Memory.numbered_eq w' (a.withBytes ((s id).take a.byteCount))
  refine ⟨j, ?_⟩
  unfold Memory.copyToHost
  rw [Action.outcome_bind_ok (Ownership.active_ok there active), Action.outcome_bind_ok target,
    if_neg some_bytes, Action.outcome_bind_ok ended, ← same]
  rfl

/-- A copy to the host of active memory to an array that it can fill. -/
theorem copyToHost_ok : ∃ v, ((Memory.copyToHost id type out).outcome w).1 = .ok v := by
  by_cases empty : a.byteCount = 0
  · unfold Memory.copyToHost
    rw [Action.outcome_bind_ok (Ownership.active_ok there active), Action.outcome_bind_ok target,
      if_pos empty]
    exact ⟨_, rfl⟩
  · obtain ⟨k, ended⟩ := h.copyToHost_value direct present none there active target empty
    exact ⟨_, ended⟩

end

end Mirrors

/-- **The bytes of the store are what is read.** -/
theorem copyToHost_reads_store (host : Host) (m : Machine) (ts : List Turn) (id : Nat)
    (type out : Value) :
    let w := (World.opening host m .direct).after ts
    let s := Store.empty.after (World.opening host m .direct) ts
    let result := ((Operation.copyToHost id type out).perform.outcome w).1
    (∀ v, result = .ok v → ∃ a, v = .array a ∧ Reads w.name (s id) type out a) ∧
      ∀ r a, w.resources[id]? = some r → r.released = false →
        (Memory.targetArray r type out).outcome w = (.ok a, w) → ¬Loading.Absent w .copy →
        w.machine.injected .copy = 0 → ∃ v, result = .ok v := by
  have orderly := orderly_opening host m .direct
  have mirrors := Mirrors.opening host m ts
  have direct := World.direct_after orderly rfl ts
  exact ⟨fun v ended => mirrors.reads direct ended, fun r a there active target present none =>
    mirrors.copyToHost_ok direct present none there active target⟩

/-- Two allocations; the second is filled, and then the first, with four bytes from the host, is
copied to its start. -/
def copiedSession : List Turn :=
  [.operate (.allocate (.int 4)) rfl, .operate (.allocate (.int 8)) rfl,
    .operate (.fill 1 (.int 9) .null) rfl,
    .operate (.copyFromHost 0 (.array (.ofBytes (.whole false 1 false) [4] [1, 2, 3, 4]))) rfl,
    .operate (.copyTo 0 (.handle 1 .pointer) (.int 3)) rfl]

theorem copyToHost_reads_store_copied :
    let w := (World.opening .bare .fresh .direct).after copiedSession
    let out := Value.array (.blank ElementType.uint8 6)
    ∃ a, ((Operation.copyToHost 1 .null out).perform.outcome w).1 = .ok (.array a) ∧
      a.content = [1, 2, 3, 4, 9, 9] := by
  intro w out
  obtain ⟨reads, returns⟩ := copyToHost_reads_store .bare .fresh copiedSession 1 .null out
  obtain ⟨v, ended⟩ := returns _ _ rfl rfl rfl Bool.false_ne_true rfl
  obtain ⟨a, rfl, gives⟩ := reads v ended
  refine ⟨a, ended, ?_⟩
  obtain ⟨type, shape⟩ := gives.given _ rfl
  have count : a.byteCount = 6 := by
    unfold HostArray.byteCount HostArray.count
    rw [type, shape]
    rfl
  rw [gives.content, count]
  rfl

end GpuHandles
