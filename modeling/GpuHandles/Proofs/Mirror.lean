import GpuHandles.Proofs.Apart
import GpuHandles.Proofs.ByteStore
import GpuHandles.Proofs.Transfer
/-!
The machine holds what the store holds.

`Mirrors` is the simulation: the size of a resource is the length of its array in the store, and
the allocation behind an active one holds the array itself.  There is one lemma for each thing
that can happen to the tables, and one for each kind of operation; `Mirrors.after` is the run.
-/

namespace GpuHandles

/-- The sizes of resources, and the bytes behind the active ones, are those of the store. -/
structure Mirrors (s : Store) (rs : List Resource) (t : Tables) : Prop where
  bounded : ∀ k ∈ t.bytes.keys, k ≤ t.lastHandle
  unused : ∀ id, rs.length ≤ id → s id = []
  sized : ∀ (id : Nat) (r : Resource), rs[id]? = some r → r.payload.size = .int (s id).length
  held : ∀ (id : Nat) (r : Resource), rs[id]? = some r → r.released = false → s id ≠ [] →
    r.owned = .truth true ∧ ∃ a, r.payload.address = some a ∧ t.bytes.get? a = some (s id)
  /-- memory at an address is some memory -/
  filled : ∀ (id : Nat) (r : Resource) (a : Nat), rs[id]? = some r → r.payload.cls = .pointer →
    r.payload.address = some a → s id ≠ []
  /-- addresses reach all bytes of a memory -/
  reached : ∀ id, (s id).length < addressable

/-! ## Values -/

theorem Store.filled_of_valid {s : Store} {id k : Nat} {size : Value}
    (given : Memory.validSize size = .ok (k : Int)) : s.filled id size = k := by
  obtain ⟨index, _⟩ := Memory.validSize_index given
  have count : size.count = k := by simp [Value.count, index]
  cases size with
  | null => cases index
  | _ => exact count

theorem Machine.byteOf_count {v : Value} {b : UInt8} (h : byteOf v = .ok b) :
    b = UInt8.ofNat v.count := by
  obtain ⟨n, index, h⟩ := bind_ok h
  have known : v.index? = some n := by
    unfold Value.toIndex at index
    split at index
    next given =>
      cases index
      exact given
    all_goals cases index
  split at h
  · cases h
    rw [Value.count, known, Option.getD_some]
  · cases h

/-! ## Calls -/

namespace Machine.Change

variable {m m' : Machine} {c : NativeCall} {reply : Reply}

/-- A call that fails leaves all bytes as they were. -/
theorem bytes_of_failure (h : Change m c reply m') (failure : ∀ out, reply ≠ .code 0 out) :
    m'.tables.bytes = m.tables.bytes := by
  cases h with
  | kept same => rw [same]
  | overwrote => exact absurd rfl (failure _)
  | issued => exact absurd rfl (failure _)
  | taken _ same | lent _ same => rw [same]
  | dropped => exact absurd rfl (failure _)

/-- So does a call that neither moves bytes nor makes or releases memory. -/
theorem bytes_of_idle (h : Change m c reply m') (copies : c.entryPoint ≠ .copy)
    (fills : c.entryPoint ≠ .fill) (frees : ∀ k, c.released? ≠ some (.pointer, k))
    (makes : c.entryPoint.makes? ≠ some (.pointer, true)) :
    m'.tables.bytes = m.tables.bytes := by
  cases h with
  | kept same => rw [same]
  | overwrote entry => rcases entry with entry | entry <;> contradiction
  | @issued cls _ entry _ same =>
    rw [same]
    cases cls with
    | pointer => exact absurd entry makes
    | _ => rfl
  | taken entry => exact absurd entry makes
  | lent _ same => rw [same]
  | @dropped cls k _ entry same =>
    rw [same]
    cases cls with
    | pointer => exact absurd entry (frees k)
    | _ => rfl

/-- A release drops the bytes behind the address that it is about, or none. -/
theorem bytes_of_release {p : Payload} (h : Change m c reply m') (call : p.releaseCall? = some c) :
    m'.tables.bytes = m.tables.bytes ∨
      ∃ a, p.address = some a ∧ m'.tables.bytes = m.tables.bytes.erase a := by
  cases h with
  | kept same => exact .inl (by rw [same])
  | overwrote entry => cases p <;> cases call <;> rcases entry with entry | entry <;> cases entry
  | issued entry => cases p <;> cases call <;> cases entry
  | taken entry => cases p <;> cases call <;> cases entry
  | lent entry => cases p <;> cases call <;> cases entry
  | @dropped cls k _ entry same =>
    rw [same]
    cases p with
    | plain v => cases call
    | pointer a n =>
      cases call
      cases a with
      | none => cases entry
      | some a =>
        cases entry
        exact .inr ⟨k, rfl, rfl⟩
    | stream a | pool a props =>
      cases call
      cases a with
      | none => cases entry
      | some a =>
        cases entry
        exact .inl rfl

end Machine.Change

namespace Operation

variable {op : Operation}

/-- What is asked of memory is what an operation is for that makes memory. -/
theorem asked_of_makes {e : EntryPoint} {own : Bool} (entry : e ∈ op.entries)
    (kind : e.makes? = some (.pointer, own)) : ∃ size, op.asked? = some size := by
  cases op with
  | allocate | allocateFlagged | allocateOrdered | allocateFromPool => exact ⟨_, rfl⟩
  | ask device question =>
    rw [List.mem_singleton.1 entry] at kind
    cases question <;> cases kind
  | selectDevice =>
    rcases List.mem_cons.1 entry with rfl | entry
    · cases kind
    · rw [List.mem_singleton.1 entry] at kind
      cases kind
  | free | wrap | readHandle | readAddress | release | enter | leave | finalize => cases entry
  | _ =>
    rw [List.mem_singleton.1 entry] at kind
    cases kind

theorem makes_of_asked {size : Value} (asked : op.asked? = some size) :
    op.makes = true ∧ ∀ e ∈ op.entries, e.makes? = some (.pointer, true) := by
  cases op with
  | allocate | allocateFlagged | allocateOrdered | allocateFromPool =>
    refine ⟨rfl, ?_⟩
    intro e he
    rw [List.mem_singleton.1 he]
    rfl
  | _ => cases asked

theorem asked_of_uses (uses : op.makes = false) : op.asked? = none := by
  cases asked : op.asked? with
  | none => rfl
  | some size =>
    rw [(makes_of_asked asked).1] at uses
    cases uses

/-- A call of an operation that is not about copies or fills and makes no memory. -/
theorem Allows.bytes {rs : List Resource} {m : Machine} {c : NativeCall} (allowed : op.Allows rs c)
    (copies : .copy ∉ op.entries) (fills : .fill ∉ op.entries)
    (makes : c.entryPoint.makes? ≠ some (.pointer, true)) :
    (m.call c).2.tables.bytes = m.tables.bytes := by
  refine (Machine.call_change m c).bytes_of_idle (fun e => copies (e ▸ allowed.1))
    (fun e => fills (e ▸ allowed.1)) ?_ makes
  intro k released
  rw [NativeCall.released_of_keeps (entries_keep allowed.1).2] at released
  cases released

theorem Tries.bytes {rs : List Resource} {m : Machine} {c : NativeCall} (tries : op.Tries rs m c)
    (copies : .copy ∉ op.entries) (fills : .fill ∉ op.entries) :
    (m.call c).2.tables.bytes = m.tables.bytes := by
  cases makes : c.entryPoint.makes? with
  | none => exact tries.1.bytes copies fills (by rw [makes]; exact nofun)
  | some kind =>
    exact (Machine.call_change m c).bytes_of_failure (tries.2 (by rw [makes]; rfl))

end Operation

namespace Mirrors

variable {s : Store} {rs : List Resource} {t t' : Tables}

theorem nil (t : Tables) (none : t.bytes = []) : Mirrors .empty [] t where
  bounded := by simp [none]
  unused _ _ := rfl
  sized := by simp
  held := by simp
  filled := by simp
  reached _ := show 0 < addressable by decide

theorem sizes (h : Mirrors s rs t) : Sized rs := by
  intro r hr
  obtain ⟨id, there⟩ := List.mem_iff_getElem?.1 hr
  exact ⟨_, h.sized id r there⟩

/-- The bytes stay. -/
theorem keep (h : Mirrors s rs t) (same : t'.bytes = t.bytes)
    (older : t.lastHandle ≤ t'.lastHandle) : Mirrors s rs t' where
  bounded k hk := Nat.le_trans (h.bounded k (same ▸ hk)) older
  unused := h.unused
  sized := h.sized
  held := same ▸ h.held
  filled := h.filled
  reached := h.reached

/-- A resource is marked as released, and its memory may go. -/
theorem retire {id : Nat} {r : Resource} (h : Mirrors s rs t) (there : rs[id]? = some r)
    (keys : ∀ k ∈ t'.bytes.keys, k ∈ t.bytes.keys) (older : t.lastHandle ≤ t'.lastHandle)
    (others : ∀ (k : Nat) (u : Resource) (a : Nat), k ≠ id → rs[k]? = some u →
      u.owned = .truth true → u.payload.address = some a → t'.bytes.get? a = t.bytes.get? a) :
    Mirrors s (rs.set id r.retired) t' where
  bounded k hk := Nat.le_trans (h.bounded k (keys k hk)) older
  unused k hk := h.unused k (by simpa using hk)
  sized k u hu := by
    obtain ⟨u', hu', payload, _⟩ := Later.of_set there hu
    rw [payload]
    exact h.sized k u' hu'
  held k u hu active some_bytes := by
    obtain ⟨u', hu', _, _, still⟩ := Later.of_set there hu
    obtain ⟨other, rfl⟩ := still active
    obtain ⟨owned, a, address, holds⟩ := h.held k u hu' active some_bytes
    exact ⟨owned, a, address, (others k u a other hu' owned address).trans holds⟩
  filled k u a hu cls address := by
    obtain ⟨u', hu', payload, _⟩ := Later.of_set there hu
    rw [payload] at cls address
    exact h.filled k u' a hu' cls address
  reached := h.reached

/-- A resource more, with its array. -/
theorem add {r : Resource} {bs : List UInt8} (h : Mirrors s rs t)
    (bounded : ∀ k ∈ t'.bytes.keys, k ≤ t'.lastHandle)
    (old : ∀ k b, t.bytes.get? k = some b → t'.bytes.get? k = some b)
    (size : r.payload.size = .int bs.length)
    (held : bs ≠ [] → r.owned = .truth true ∧
      ∃ a, r.payload.address = some a ∧ t'.bytes.get? a = some bs)
    (filled : r.payload.cls = .pointer → ∀ a, r.payload.address = some a → bs ≠ [])
    (reached : bs.length < addressable) : Mirrors (s.put rs.length bs) (rs ++ [r]) t' := by
  have before {id : Nat} {u : Resource} (hu : rs[id]? = some u) : id ≠ rs.length := by
    obtain ⟨bound, _⟩ := List.getElem?_eq_some_iff.1 hu
    exact Nat.ne_of_lt bound
  refine ⟨bounded, ?_, ?_, ?_, ?_, ?_⟩
  · intro id hid
    rw [List.length_append, List.length_singleton] at hid
    rw [Store.put_of_ne (by omega)]
    exact h.unused id (by omega)
  · intro id u hu
    rcases Later.of_append hu with hu | ⟨rfl, rfl⟩
    · rw [Store.put_of_ne (before hu)]
      exact h.sized id u hu
    · rw [Store.put_self]
      exact size
  · intro id u hu active some_bytes
    rcases Later.of_append hu with hu | ⟨rfl, rfl⟩
    · rw [Store.put_of_ne (before hu)] at some_bytes ⊢
      obtain ⟨owned, a, address, holds⟩ := h.held id u hu active some_bytes
      exact ⟨owned, a, address, old a _ holds⟩
    · rw [Store.put_self] at some_bytes ⊢
      exact held some_bytes
  · intro id u a hu cls address
    rcases Later.of_append hu with hu | ⟨rfl, rfl⟩
    · rw [Store.put_of_ne (before hu)]
      exact h.filled id u a hu cls address
    · rw [Store.put_self]
      exact filled cls a address
  · intro id
    by_cases new : id = rs.length
    · rw [new, Store.put_self]
      exact reached
    · rw [Store.put_of_ne new]
      exact h.reached id

/-- No byte written over the start of an allocation. -/
theorem write_nothing {m m' : Machine} {a : Address} (h : Mirrors s rs m.tables)
    (wrote : m.Overwrites m' a []) : Mirrors s rs m'.tables := by
  obtain ⟨k, buffer, _, found, _, same⟩ := wrote
  have found : m.tables.bytes.get? k = some buffer := found
  rw [same]
  refine ⟨?_, h.unused, h.sized, ?_, h.filled, h.reached⟩
  · intro j hj
    rw [Table.keys_set] at hj
    exact h.bounded j hj
  · intro j u hu active some_bytes
    obtain ⟨owned, b, address, holds⟩ := h.held j u hu active some_bytes
    refine ⟨owned, b, address, ?_⟩
    rw [Table.get?_set]
    split
    next eq =>
      subst eq
      rw [found] at holds
      cases holds
      exact congrArg _ found
    next => exact holds

/-- Bytes written over the start of an allocation.  No other active resource has its address. -/
theorem write {m m' : Machine} {id : Nat} {r : Resource} {bs : List UInt8}
    (h : Mirrors s rs m.tables) (apart : Apart rs m.tables) (there : rs[id]? = some r)
    (active : r.released = false) (fits : bs.length ≤ (s id).length)
    (wrote : m.Overwrites m' r.payload.address bs) : Mirrors (s.write id bs) rs m'.tables := by
  by_cases none : s id = []
  · -- the resource stands for no bytes, so none are written
    have nothing : bs = [] := by
      rw [none] at fits
      exact List.eq_nil_of_length_eq_zero (Nat.le_zero.1 fits)
    subst nothing
    rw [Store.write_nil]
    exact h.write_nothing wrote
  · obtain ⟨k, buffer, address, found, _, same⟩ := wrote
    have found : m.tables.bytes.get? k = some buffer := found
    obtain ⟨owned, a, address', holds⟩ := h.held id r there active none
    cases address.symm.trans address'
    cases found.symm.trans holds
    rw [same]
    refine ⟨?_, ?_, ?_, ?_, ?_, ?_⟩
    · intro j hj
      rw [Table.keys_set] at hj
      exact h.bounded j hj
    · intro j hj
      exact (Store.write_eq_nil fits).2 (h.unused j hj)
    · intro j u hu
      rw [Store.length_write fits]
      exact h.sized j u hu
    · intro j u hu going some_bytes
      have some_before : s j ≠ [] := fun e => some_bytes ((Store.write_eq_nil fits).2 e)
      obtain ⟨owned', b, address', holds'⟩ := h.held j u hu going some_before
      refine ⟨owned', b, address', ?_⟩
      rw [Table.get?_set]
      by_cases target : j = id
      · subst target
        cases hu.symm.trans there
        cases address.symm.trans address'
        rw [if_pos rfl, Store.write_at]
        exact congrArg _ found
      · have other : k ≠ b := by
          intro e
          exact target (apart.sole j id u r b hu there owned' address' (e ▸ address))
        rw [if_neg other, Store.write_of_ne target]
        exact holds'
    · intro j u b hu cls address' e
      exact h.filled j u b hu cls address' ((Store.write_eq_nil fits).1 e)
    · intro j
      rw [Store.length_write fits]
      exact h.reached j

/-! ## Operations -/

variable {w w' : World} {op : Operation}

/-- The next handle is behind none of the bytes. -/
theorem get?_next (h : Mirrors s rs t) : t.bytes.get? t.next = none :=
  Tables.Counted.get?_next h.bounded

/-- Memory that an operation has made. -/
theorem allocated {m m' : Machine} {c : NativeCall} {r : Resource} {out : Output} {own : Bool}
    (h : Mirrors s rs m.tables) (change : Machine.Change m c (.code 0 out) m')
    (kind : c.entryPoint.makes? = some (.pointer, own))
    (owned : r.owned = .truth own) (address : r.payload.address = out.storedAddress)
    (size : r.payload.size = .int c.requested) (count : 0 ≤ c.requested) :
    Mirrors (s.put rs.length (List.replicate c.requested.toNat 0)) (rs ++ [r]) m'.tables := by
  have length : r.payload.size = .int (List.replicate c.requested.toNat (0 : UInt8)).length := by
    rw [size, List.length_replicate, Int.toNat_of_nonneg count]
  cases change with
  | kept same stored idle =>
    rw [same]
    have none : c.requested = 0 := by
      rcases idle out rfl with plain | ⟨_, none⟩
      · rw [plain] at kind
        cases kind
      · exact none
    rw [none] at length ⊢
    refine h.add h.bounded (fun _ _ => id) length (fun some => absurd rfl some) ?_ (by decide)
    intro _ a ha
    rw [address] at ha
    cases stored.symm.trans ha
  | overwrote entry => rcases entry with entry | entry <;> rw [entry] at kind <;> cases kind
  | issued entry bounds same =>
    rw [kind] at entry
    cases entry
    rw [same]
    obtain ⟨some_bytes, within⟩ := bounds rfl
    have next : ((m.tables.issue c.requested.toNat .pointer).bytes).get? m.tables.next =
        some (List.replicate c.requested.toNat 0) := by
      rw [Tables.bytes_issue, Table.get?_append, h.get?_next, Table.get?_cons, if_pos rfl]
      rfl
    refine h.add ?_ ?_ length (fun _ => ⟨owned, m.tables.next, address, next⟩) ?_ ?_
    · intro k hk
      show k ≤ m.tables.next
      rcases (Tables.mem_keys_issue (k := .pointer) (by decide)).1 hk with old | ⟨_, rfl⟩
      · exact Nat.le_trans (h.bounded k old) (Nat.le_add_right _ _)
      · exact Nat.le_refl _
    · intro k b found
      rw [Tables.bytes_issue, Table.get?_append, found]
      rfl
    · intro _ _ _ none
      rw [List.replicate_eq_nil_iff] at none
      omega
    · rw [List.length_replicate]
      omega
  | lent entry =>
    rw [entry] at kind
    cases kind
  | dropped entry =>
    rw [EntryPoint.makes_of_releases (NativeCall.releases_of_released entry)] at kind
    cases kind

/-- A way on which no call touches the bytes. -/
theorem uses {P : Machine → NativeCall → Prop} (h : Mirrors s w.resources w.machine.tables)
    (way : Uses P w w') (idle : ∀ m c, P m c → (m.call c).2.tables.bytes = m.tables.bytes) :
    Mirrors s w'.resources w'.machine.tables := by
  induction way with
  | refl => exact h
  | quiet _ way ih =>
    rw [way.machine, way.resources]
    exact ih
  | call _ allowed way ih =>
    rw [way.machine, way.resources]
    exact ih.keep (idle _ _ allowed) (Machine.call_change _ _).counter.1

/-- A release, with its call or without it. -/
theorem releases {id : Nat} {r : Resource} (h : Mirrors s w.resources w.machine.tables)
    (apart : Apart w.resources w.machine.tables) (there : w.resources[id]? = some r)
    (gone : Releases w id r w') : Mirrors s w'.resources w'.machine.tables := by
  cases gone with
  | @called c _ _ owned call _ way =>
    have change := Machine.call_change w.machine c
    rw [way.machine, way.resources]
    obtain same | ⟨a, address, same⟩ := change.bytes_of_release call
    · refine h.retire there ?_ change.counter.1 ?_
      · intro k hk
        rw [same] at hk
        exact hk
      · intro k u b _ _ _ _
        rw [same]
    · refine h.retire there ?_ change.counter.1 ?_
      · intro k hk
        rw [same, Table.keys_erase] at hk
        exact (List.mem_filter.1 hk).1
      · intro k u b other hu owned' address'
        rw [same]
        refine Table.get?_erase_of_ne _ ?_
        intro eq
        exact other (apart.sole k id u r b hu there owned' address' (eq ▸ address))
  | marked _ way =>
    rw [way.machine, way.resources]
    exact h.retire there (fun _ hk => hk) (Nat.le_refl _) fun _ _ _ _ _ _ _ => rfl

/-- A resource that an operation has made: memory, or one that stands for no bytes. -/
theorem made {c : NativeCall} {r : Resource} {own : Bool} {out : Output}
    (h : Mirrors s w.resources w.machine.tables) (allowed : op.Allows w.resources c)
    (copies : .copy ∉ op.entries) (fills : .fill ∉ op.entries)
    (kind : c.entryPoint.makes? = some (r.payload.cls, own)) (owned : r.owned = .truth own)
    (reply : (w.machine.call c).1 = .code 0 out) (address : r.payload.address = out.storedAddress)
    (size : r.payload.cls = .pointer → r.payload.size = .int c.requested)
    (asked : ∀ v, op.asked? = some v → Memory.validSize v = .ok c.requested) :
    Mirrors (s.succeed op (.handle w.resources.length r.payload.cls)) (w.resources ++ [r])
      (w.machine.call c).2.tables := by
  have change := Machine.call_change w.machine c
  cases wanted : op.asked? with
  | some v =>
    have cls : r.payload.cls = .pointer := by
      have makes := (Operation.makes_of_asked wanted).2 _ allowed.1
      rw [kind] at makes
      injection makes with makes
      injection makes
    obtain ⟨index, count⟩ := Memory.validSize_index (asked v wanted)
    rw [reply] at change
    rw [cls] at kind ⊢
    rw [Store.succeed_of_asked wanted]
    simp only [Store.allocate, Value.count, index, Option.getD_some]
    exact h.allocated change kind owned address (size cls) count
  | none =>
    have other : r.payload.cls ≠ .pointer := by
      intro cls
      obtain ⟨v, hv⟩ := Operation.asked_of_makes allowed.1 (cls ▸ kind)
      rw [wanted] at hv
      cases hv
    have same : (w.machine.call c).2.tables.bytes = w.machine.tables.bytes := by
      refine allowed.bytes copies fills ?_
      intro memory
      rw [kind] at memory
      injection memory with memory
      injection memory with memory
      exact other memory
    have later := h.keep same change.counter.1
    rw [Store.succeed_of_idle wanted copies fills,
      ← Store.put_same (h.unused w.resources.length (Nat.le_refl _))]
    refine later.add later.bounded (fun _ _ => id) ?_ (fun some => absurd rfl some) ?_ (by decide)
    · cases r with
      | mk payload =>
        cases payload with
        | pointer => exact absurd rfl other
        | _ => rfl
    · intro cls
      exact absurd cls other

/-- **An operation that neither copies nor fills.** -/
theorem effect {result : Except Fault Value} (h : Mirrors s w.resources w.machine.tables)
    (apart : Apart w.resources w.machine.tables) (copies : .copy ∉ op.entries)
    (fills : .fill ∉ op.entries) (effect : Effect .direct op w result w') :
    Mirrors (s.step op result) w'.resources w'.machine.tables := by
  cases effect with
  | used way failed idle =>
    have still : s.step op result = s := by
      cases result with
      | error f => rfl
      | ok v =>
        cases makes : op.makes with
        | true =>
          obtain ⟨f, error⟩ := failed makes
          cases error
        | false => exact Store.succeed_of_idle (Operation.asked_of_uses makes) copies fills
    rw [still]
    exact h.uses way fun m c tries => tries.bytes copies fills
  | @made _ _ _ _ code _ allowed kind owned _ reply success address size asked way =>
    have zero : code = 0 := success
    rw [zero] at reply
    rw [way.machine, way.resources]
    exact h.made allowed copies fills kind owned reply address (size rfl) (asked rfl)
  | @released _ _ id r subject there active gone =>
    have still : s.step op result = s := by
      cases result with
      | error f => rfl
      | ok v =>
        exact Store.succeed_of_idle (Operation.asked_of_uses (Operation.makes_of_subject subject))
          copies fills
    rw [still]
    exact h.releases apart there gone

/-- An operation that moves bytes: nothing happens unless its call succeeds. -/
theorem transfer {idle : Value → Prop} {asks : NativeCall → Prop}
    {gives : NativeCall → Output → Value → Prop} {result : Except Fault Value}
    (h : Mirrors s w.resources w.machine.tables)
    (idled : ∀ v, idle v → s.succeed op v = s)
    (moved : ∀ c out v, asks c → (w.machine.call c).1 = .code 0 out →
      Mirrors (s.succeed op v) w.resources (w.machine.call c).2.tables)
    (way : Transfers w idle asks gives result w') :
    Mirrors (s.step op result) w'.resources w'.machine.tables := by
  cases way with
  | refused way =>
    rw [way.machine, way.resources]
    exact h
  | @idled v _ nothing way =>
    rw [way.machine, way.resources, show s.step op (.ok v) = s from idled v nothing]
    exact h
  | @failed c _ _ _ failure way =>
    have change := Machine.call_change w.machine c
    rw [way.machine, way.resources]
    exact h.keep (change.bytes_of_failure failure) change.counter.1
  | moved asked success _ way =>
    rw [way.machine, way.resources]
    exact moved _ _ _ asked success

theorem copyFromHost (h : Mirrors s w.resources w.machine.tables)
    (apart : Apart w.resources w.machine.tables) (direct : w.library = some .direct) (id : Nat)
    (source : Value) :
    let op := Operation.copyFromHost id source
    Mirrors (s.step op (op.perform.outcome w).1) (op.perform.outcome w).2.resources
      (op.perform.outcome w).2.machine.tables := by
  refine h.transfer ?_ ?_ (Memory.copyFromHost_transfer direct h.sizes id source).silent
  · intro v idle
    obtain ⟨host, given, empty⟩ := idle
    simp only [Store.succeed, given, HostArray.content, empty, List.take_zero, Store.write_nil]
  · intro c out v asked success
    obtain ⟨r, host, n, there, active, size, given, _, room, rfl⟩ := asked
    have length := (h.sized id r there).symm.trans size
    injection length with length
    simp only [Store.succeed, given]
    refine h.write apart there active ?_ (Machine.call_copyIn success)
    refine Nat.le_trans (List.length_take_le _ _) ?_
    omega

theorem copyTo (h : Mirrors s w.resources w.machine.tables)
    (apart : Apart w.resources w.machine.tables) (direct : w.library = some .direct) (id : Nat)
    (target kind : Value) :
    let op := Operation.copyTo id target kind
    Mirrors (s.step op (op.perform.outcome w).1) (op.perform.outcome w).2.resources
      (op.perform.outcome w).2.machine.tables := by
  refine h.transfer (fun v idle => idle.elim) ?_
    (Memory.copyTo_transfer direct h.sizes id target kind).silent
  intro c out v asked success
  obtain ⟨j, source, destination, n, room, k, there, active, rfl, there', active', size, size',
    fits, _, _, _, rfl⟩ := asked
  have length := (h.sized id source there).symm.trans size
  injection length with length
  have length' := (h.sized j destination there').symm.trans size'
  injection length' with length'
  obtain ⟨a, new, address, found, _, wrote⟩ := Machine.call_copyAcross success
  have whole : new.take n = s id := by
    by_cases none : s id = []
    · have : n = 0 := by
        rw [none] at length
        exact (Int.ofNat.inj length).symm
      rw [none, this, List.take_zero]
    · obtain ⟨_, a', address', holds⟩ := h.held id source there active none
      cases address.symm.trans address'
      cases found.symm.trans holds
      exact List.take_of_length_le (by omega)
  rw [whole] at wrote
  exact h.write apart there' active' (by omega) wrote

theorem fill (h : Mirrors s w.resources w.machine.tables)
    (apart : Apart w.resources w.machine.tables) (direct : w.library = some .direct) (id : Nat)
    (value size : Value) :
    let op := Operation.fill id value size
    Mirrors (s.step op (op.perform.outcome w).1) (op.perform.outcome w).2.resources
      (op.perform.outcome w).2.machine.tables := by
  have counted {r : Resource} {n k : Nat} (there : w.resources[id]? = some r)
      (length : r.payload.size = .int n) (filled : Memory.Filled size n k) :
      s.filled id size = k := by
    have same := (h.sized id r there).symm.trans length
    injection same with same
    rcases filled with ⟨rfl, rfl⟩ | given
    · exact Int.ofNat.inj same
    · exact Store.filled_of_valid given
  refine h.transfer ?_ ?_ (Memory.fill_transfer direct h.sizes id value size).silent
  · intro v idle
    obtain ⟨r, n, there, active, length, nothing⟩ := idle
    simp only [Store.succeed, counted there length nothing, List.replicate_zero, Store.write_nil]
  · intro c out v asked success
    obtain ⟨r, n, k, there, active, length, filled, _, room, rfl⟩ := asked
    obtain ⟨b, byte, wrote⟩ := Machine.call_fill success
    have same := (h.sized id r there).symm.trans length
    injection same with same
    simp only [Store.succeed, counted there length filled]
    refine h.write apart there active ?_ ?_
    · rw [List.length_replicate]
      omega
    · rw [← Machine.byteOf_count byte]
      exact wrote

theorem copyToHost (h : Mirrors s w.resources w.machine.tables)
    (direct : w.library = some .direct) (id : Nat) (type out : Value) :
    let op := Operation.copyToHost id type out
    Mirrors (s.step op (op.perform.outcome w).1) (op.perform.outcome w).2.resources
      (op.perform.outcome w).2.machine.tables := by
  refine h.transfer (fun v _ => rfl) ?_ (Memory.copyToHost_transfer direct h.sizes id type out)
  intro c reply v asked success
  obtain ⟨a, r, n, _, _, _, _, _, rfl⟩ := asked
  obtain ⟨_, _, _, _, _, _, same⟩ := Machine.call_copyOut success
  have still : Mirrors s w.resources (w.machine.call _).2.tables := same.symm ▸ h
  exact still

/-- **What one turn keeps.** -/
theorem take (h : Mirrors s w.resources w.machine.tables) (orderly : Orderly w)
    (direct : w.library = some .direct) (t : Turn) :
    Mirrors (s.take w t) (t.take w).resources (t.take w).machine.tables := by
  cases t with
  | failNext entry code => exact h
  | adjust setting => exact h.keep (congrArg Tables.bytes (setting.tables_apply _)) (Nat.le_of_eq
      (congrArg Tables.lastHandle (setting.tables_apply w.machine)).symm)
  | operate op own =>
    cases moved : op.moves? with
    | none =>
      obtain ⟨copies, fills⟩ := Operation.entries_of_still moved
      exact h.effect orderly.apart copies fills
        (op.perform_effect direct orderly.apart.native own)
    | some id =>
      cases op with
      | copyTo id target kind => exact h.copyTo orderly.apart direct id target kind
      | copyFromHost id source => exact h.copyFromHost orderly.apart direct id source
      | copyToHost id type out => exact h.copyToHost direct id type out
      | fill id value size => exact h.fill orderly.apart direct id value size
      | _ => cases moved

/-- **What a whole session keeps.** -/
theorem after (h : Mirrors s w.resources w.machine.tables) (orderly : Orderly w)
    (direct : w.library = some .direct) (ts : List Turn) :
    Mirrors (s.after w ts) (w.after ts).resources (w.after ts).machine.tables := by
  induction ts generalizing s w with
  | nil => exact h
  | cons t ts ih =>
    obtain ⟨⟨_, _, way⟩, _⟩ := t.calls_cases orderly
    exact ih (h.take orderly direct t) (t.orderly orderly) (way.direct direct)

theorem opening (host : Host) (m : Machine) (ts : List Turn) :
    let w := World.opening host m .direct
    Mirrors (Store.empty.after w ts) (w.after ts).resources (w.after ts).machine.tables :=
  after (nil _ rfl) (orderly_opening host m .direct) rfl ts

end Mirrors
end GpuHandles
