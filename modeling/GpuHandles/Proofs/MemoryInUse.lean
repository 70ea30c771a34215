import GpuHandles.Proofs.Agreement
import GpuHandles.Proofs.AllocationSize
import GpuHandles.Proofs.Mirror
import Mathlib.Data.List.Induction
/-!
The memory that is in use.

The machine counts the bytes of its live allocations.  Over the machine itself a turn does one of
three things to that number (`Turn.Posts`): it keeps it, or it makes a resource and adds the size
of it, or it releases a resource by a call that succeeds and takes the size of it away.  Copies
and fills write over allocations of the same length.  So the bytes in use are always those that
the resources stand for, where one stands for its size until its release call has succeeded
(`usedMemory_eq_outstanding`).
-/

namespace GpuHandles

/-! ## Bytes in a table -/

namespace Table

/-- The bytes of all entries. -/
def volume (t : Table Nat (List UInt8)) : Nat := (t.map fun e => e.2.length).sum

variable {t : Table Nat (List UInt8)} {k : Nat} {bs buffer : List UInt8}

theorem volume_cons (e : Nat × List UInt8) (t : Table Nat (List UInt8)) :
    volume (e :: t) = e.2.length + t.volume := List.sum_cons

theorem volume_concat (t : Table Nat (List UInt8)) (k : Nat) (bs : List UInt8) :
    volume (t ++ [(k, bs)]) = t.volume + bs.length := by
  simp [volume]

/-- An absent key has no entry to replace. -/
theorem set_of_not_mem (absent : k ∉ t.keys) (bs : List UInt8) : t.set k bs = t := by
  induction t with
  | nil => rfl
  | cons e t ih =>
    have other : e.1 ≠ k := fun same => absent (List.mem_cons.2 (.inl same.symm))
    have rest : k ∉ keys t := fun later => absent (List.mem_cons_of_mem _ later)
    show (if e.1 = k then (k, bs) else e) :: set t k bs = _
    rw [if_neg other, ih rest]

/-- Nor one to erase. -/
theorem erase_of_not_mem (absent : k ∉ t.keys) : t.erase k = t := by
  refine List.filter_eq_self.2 fun e he => ?_
  have other : e.1 ≠ k := fun same => absent (same ▸ List.mem_map_of_mem he)
  exact decide_eq_true other

/-- An entry replaced by one of the same length. -/
theorem volume_set (distinct : t.keys.Nodup) (there : t.get? k = some buffer)
    (same : bs.length = buffer.length) : (t.set k bs).volume = t.volume := by
  induction t with
  | nil => cases there
  | cons e t ih =>
    obtain ⟨absent, distinct⟩ := List.nodup_cons.1 distinct
    rw [get?_cons] at there
    show volume ((if e.1 = k then (k, bs) else e) :: set t k bs) = _
    by_cases here : e.1 = k
    · subst here
      rw [if_pos rfl] at there ⊢
      cases there
      rw [set_of_not_mem absent, volume_cons, volume_cons, same]
    · rw [if_neg here] at there ⊢
      rw [volume_cons, volume_cons, ih distinct there]

/-- An entry erased: its bytes are gone, and no others. -/
theorem volume_erase (distinct : t.keys.Nodup) (there : t.get? k = some buffer) :
    (t.erase k).volume + buffer.length = t.volume := by
  induction t with
  | nil => cases there
  | cons e t ih =>
    obtain ⟨absent, distinct⟩ := List.nodup_cons.1 distinct
    rw [get?_cons] at there
    by_cases here : e.1 = k
    · subst here
      rw [if_pos rfl] at there
      cases there
      have gone : erase (e :: t) e.1 = erase t e.1 := List.filter_cons_of_neg (by simp)
      rw [gone, erase_of_not_mem absent, volume_cons, Nat.add_comm]
    · rw [if_neg here] at there
      have stays : erase (e :: t) k = e :: erase t k :=
        List.filter_cons_of_pos (decide_eq_true here)
      rw [stays, volume_cons, volume_cons, Nat.add_assoc, ih distinct there]

end Table

/-! ## Calls -/

namespace Machine

variable {m m' : Machine} {c : NativeCall}

theorem used_of_bytes (same : m'.tables.bytes = m.tables.bytes) : m'.usedMemory = m.usedMemory :=
  congrArg Table.volume same

/-- No handle comes to be twice among the allocations. -/
theorem Change.distinct {reply : Reply} (h : Change m c reply m') (counted : m.tables.Counted)
    (distinct : m.tables.bytes.keys.Nodup) : m'.tables.bytes.keys.Nodup := by
  cases h with
  | kept same => rw [same]; exact distinct
  | overwrote _ _ same =>
    rw [same]
    dsimp only
    rwa [Table.keys_set]
  | @issued cls _ _ _ same =>
    rw [same]
    cases cls with
    | pointer =>
      have fresh : m.tables.next ∉ m.tables.bytes.keys := by
        intro old
        have bound : m.tables.lastHandle + 0x1000 ≤ m.tables.lastHandle := counted _ old
        omega
      rw [Tables.bytes_issue, Table.keys, List.map_append]
      refine List.nodup_append.2 ⟨distinct, by simp, ?_⟩
      rintro k old _ new rfl
      rw [List.mem_singleton.1 new] at old
      exact fresh old
    | _ => exact distinct
  | taken _ same | lent _ same => rw [same]; exact distinct
  | @dropped cls k _ _ same =>
    rw [same]
    cases cls with
    | pointer => exact Table.nodup_keys_erase distinct k
    | _ => exact distinct

/-- Bytes written over the start of an allocation leave its length. -/
theorem Overwrites.used {a : Address} {bs : List UInt8} (wrote : m.Overwrites m' a bs)
    (distinct : m.tables.bytes.keys.Nodup) : m'.usedMemory = m.usedMemory := by
  obtain ⟨k, buffer, _, there, fits, same⟩ := wrote
  have whole : (overwrite buffer bs).length = buffer.length := by
    simp only [overwrite, List.length_append, List.length_drop]
    omega
  show m'.tables.bytes.volume = m.tables.bytes.volume
  rw [same]
  exact Table.volume_set distinct there whole

/-- A call that writes over an allocation, or changes nothing, when it succeeds. -/
theorem call_used (distinct : m.tables.bytes.keys.Nodup)
    (wrote : ∀ out, (m.call c).1 = .code 0 out →
      (∃ a bs, m.Overwrites (m.call c).2 a bs) ∨ (m.call c).2.tables = m.tables) :
    (m.call c).2.usedMemory = m.usedMemory := by
  by_cases success : ∃ out, (m.call c).1 = .code 0 out
  · obtain ⟨out, success⟩ := success
    obtain ⟨a, bs, wrote⟩ | same := wrote out success
    · exact wrote.used distinct
    · exact used_of_bytes (congrArg Tables.bytes same)
  · exact used_of_bytes
      ((call_change m c).bytes_of_failure fun out same => success ⟨out, same⟩)

/-- Memory that is made: as many bytes more as were asked for. -/
theorem Change.allocated {out : Output} (h : Change m c (.code 0 out) m')
    (makes : c.entryPoint.makes? = some (.pointer, true)) :
    m'.usedMemory = m.usedMemory + c.requested.toNat := by
  cases h with
  | kept same _ idle =>
    have none : c.requested = 0 := by
      rcases idle out rfl with plain | ⟨_, none⟩
      · rw [plain] at makes
        cases makes
      · exact none
    rw [none]
    exact used_of_bytes (congrArg Tables.bytes same)
  | overwrote entry => rcases entry with entry | entry <;> rw [entry] at makes <;> cases makes
  | issued entry _ same =>
    rw [makes] at entry
    cases entry
    show m'.tables.bytes.volume = _
    rw [same, Tables.bytes_issue, Table.volume_concat, List.length_replicate]
    rfl
  | lent entry => rw [entry] at makes; cases makes
  | dropped entry =>
    rw [EntryPoint.makes_of_releases (NativeCall.releases_of_released entry)] at makes
    cases makes

/-- The release of a live allocation that succeeds: its bytes are in use no more. -/
theorem call_release_used {p : Payload} {a : Nat} {bs : List UInt8} {out : Output}
    (distinct : m.tables.bytes.keys.Nodup) (pointer : p.cls = .pointer)
    (call : p.releaseCall? = some c) (address : p.address = some a)
    (there : m.tables.bytes.get? a = some bs) (success : (m.call c).1 = .code 0 out) :
    (m.call c).2.usedMemory + bs.length = m.usedMemory := by
  have key : a ∈ m.tables.keys p.cls := by
    rw [pointer]
    refine (Table.has_iff_mem_keys _ _).1 ?_
    rw [Table.has_eq_isSome_get?, there]
    rfl
  obtain ⟨known, tables⟩ := call_release call address key
  rw [success] at known
  injection known with none
  rw [if_pos none.symm, pointer] at tables
  show (m.call c).2.tables.bytes.volume + bs.length = m.tables.bytes.volume
  rw [tables]
  exact Table.volume_erase distinct there

end Machine

/-- A way on which no call touches the bytes. -/
theorem Uses.bytes {P : Machine → NativeCall → Prop} {w w' : World} (way : Uses P w w')
    (idle : ∀ m c, P m c → (m.call c).2.tables.bytes = m.tables.bytes) :
    w'.machine.tables.bytes = w.machine.tables.bytes := by
  induction way with
  | refl => rfl
  | quiet _ way ih => rw [way.machine]; exact ih
  | call _ allowed way ih => rw [way.machine]; exact (idle _ _ allowed).trans ih

/-! ## Sessions over the machine itself -/

/-- What the accounts rest on: handles are apart, and `s` holds the bytes behind the resources. -/
structure Booked (s : Store) (w : World) : Prop where
  orderly : Orderly w
  direct : w.library = some .direct
  mirrors : Mirrors s w.resources w.machine.tables
  distinct : w.machine.tables.bytes.keys.Nodup

namespace Booked

variable {s : Store} {w : World}

theorem take (h : Booked s w) (t : Turn) : Booked (s.take w t) (t.take w) where
  orderly := t.orderly h.orderly
  direct := World.direct_after h.orderly h.direct [t]
  mirrors := h.mirrors.take h.orderly h.direct t
  distinct := by
    refine (t.keeps (P := fun tables => tables.Counted ∧ tables.bytes.keys.Nodup) h.orderly ?_
      ⟨h.mirrors.bounded, h.distinct⟩).2
    rintro m c ⟨counted, distinct⟩
    have change := Machine.call_change m c
    exact ⟨counted.change change, change.distinct counted distinct⟩

theorem after (h : Booked s w) (ts : List Turn) : Booked (s.after w ts) (w.after ts) := by
  induction ts generalizing s w with
  | nil => exact h
  | cons t ts ih => exact ih (h.take t)

theorem opening (host : Host) (m : Machine) : Booked .empty (.opening host m .direct) where
  orderly := orderly_opening host m .direct
  direct := rfl
  mirrors := .nil _ rfl
  distinct := .nil

end Booked

namespace Operation

/-- The bytes that an operation has been granted, by what it ended with. -/
def granted (op : Operation) (result : Except Fault Value) : Nat :=
  match op.asked?, result with
  | some size, .ok _ => size.count
  | _, _ => 0

variable {op : Operation}

theorem granted_of_none (sizeless : op.asked? = none) (result : Except Fault Value) :
    op.granted result = 0 := by
  unfold granted
  rw [sizeless]

theorem granted_of_error (f : Fault) : op.granted (.error f) = 0 := by
  unfold granted
  cases op.asked? <;> rfl

theorem granted_of_valid {size : Value} {n : Int} (asked : op.asked? = some size)
    (valid : Memory.validSize size = .ok n) (v : Value) : op.granted (.ok v) = n.toNat := by
  obtain ⟨index, _⟩ := Memory.validSize_index valid
  unfold granted Value.count
  rw [asked]
  dsimp only
  rw [index]
  rfl

end Operation

namespace Turn

variable {w : World} {id : Nat}

/-- The bytes that a turn has been granted: the size of the allocation that it made. -/
def granted (t : Turn) (w : World) : Nat :=
  match t with
  | operate op _ => op.granted (op.perform.outcome w).1
  | _ => 0

/-- Has a turn released a resource by a call that succeeded? -/
def settles (t : Turn) (id : Nat) (w : World) : Bool := (t.releases id w).any fun e => e.2 == 0

/-- The bytes that a turn has returned: the size of the resource that it has released by a call
that succeeded. -/
def returned (t : Turn) (w : World) : Nat :=
  match t.subject with
  | some id => if t.settles id w then (w.sizeOf id).count else 0
  | none => 0

theorem settles_of_ne {t : Turn} (other : t.subject ≠ some id) : t.settles id w = false := by
  unfold settles releases
  rw [if_neg other]
  rfl

theorem settles_of_nil {t : Turn} (none : t.calls w = []) : t.settles id w = false := by
  unfold settles releases
  rw [none]
  split <;> rfl

theorem settles_of_calls {t : Turn} {c : NativeCall} {code : Int} (subject : t.subject = some id)
    (release : c.entryPoint.releases = true) (made : t.calls w = [(c, code)]) :
    t.settles id w = (code == 0) := by
  unfold settles releases
  have one : [(c, code)].filter (fun e => e.1.entryPoint.releases) = [(c, code)] :=
    List.filter_cons_of_pos release
  rw [if_pos subject, made, one]
  exact Bool.or_false _

theorem returned_of_none {t : Turn} (keeps : t.subject = none) : t.returned w = 0 := by
  unfold returned
  rw [keeps]

theorem returned_of_subject {t : Turn} (subject : t.subject = some id) :
    t.returned w = if t.settles id w then (w.sizeOf id).count else 0 := by
  unfold returned
  rw [subject]

end Turn

/-- What a turn does to the memory in use and to the resources, by the bytes that it has been
granted and has returned. -/
inductive Turn.Posts (t : Turn) (w : World) : Nat → Nat → Prop
  | kept (used : (t.take w).machine.usedMemory = w.machine.usedMemory)
      (length : (t.take w).resources.length = w.resources.length)
      (sizes : ∀ id, (t.take w).sizeOf id = w.sizeOf id)
      (unsettled : ∀ id, t.settles id w = false) : Posts t w 0 0
  | granted {r : Resource} {n : Nat}
      (used : (t.take w).machine.usedMemory = w.machine.usedMemory + n)
      (resources : (t.take w).resources = w.resources ++ [r]) (size : r.payload.size = .int n)
      (unsettled : ∀ id, t.settles id w = false) : Posts t w n 0
  | returned {id : Nat} {r : Resource} {n : Nat}
      (used : (t.take w).machine.usedMemory + n = w.machine.usedMemory)
      (there : w.resources[id]? = some r) (active : r.released = false)
      (size : r.payload.size = .int n)
      (resources : (t.take w).resources = w.resources.set id r.retired)
      (settled : t.settles id w = true) (others : ∀ k, k ≠ id → t.settles k w = false) :
      Posts t w 0 n

namespace Booked

variable {s : Store} {w w' : World} {op : Operation}

/-! ## Copies and fills -/

theorem transfer_used {α : Type} {idle : α → Prop} {asks : NativeCall → Prop}
    {gives : NativeCall → Output → α → Prop} {result : Except Fault α} (h : Booked s w)
    (way : Transfers w idle asks gives result w')
    (wrote : ∀ c out, asks c → (w.machine.call c).1 = .code 0 out →
      (∃ a bs, w.machine.Overwrites (w.machine.call c).2 a bs) ∨
        (w.machine.call c).2.tables = w.machine.tables) :
    w'.machine.usedMemory = w.machine.usedMemory ∧ w'.resources = w.resources := by
  obtain way | ⟨c, same, way⟩ := way.passes
    (P := fun c => (w.machine.call c).2.usedMemory = w.machine.usedMemory)
    fun c asked => Machine.call_used h.distinct fun out => wrote c out asked
  · exact ⟨congrArg Machine.usedMemory way.machine, way.resources⟩
  · exact ⟨(congrArg Machine.usedMemory way.machine).trans same, way.resources⟩

/-- An operation that moves bytes. -/
theorem moved_used {id : Nat} (h : Booked s w) (moved : op.moves? = some id) :
    (op.perform.outcome w).2.machine.usedMemory = w.machine.usedMemory ∧
      (op.perform.outcome w).2.resources = w.resources := by
  have sized := h.mirrors.sizes
  cases op with
  | copyTo id target kind =>
    refine h.transfer_used (Memory.copyTo_transfer h.direct sized id target kind).silent ?_
    rintro c out ⟨_, _, _, _, _, _, _, _, _, _, _, _, _, _, _, _, _, rfl⟩ success
    obtain ⟨_, _, _, _, _, wrote⟩ := Machine.call_copyAcross success
    exact .inl ⟨_, _, wrote⟩
  | copyFromHost id source =>
    refine h.transfer_used (Memory.copyFromHost_transfer h.direct sized id source).silent ?_
    rintro c out ⟨_, _, _, _, _, _, _, _, _, rfl⟩ success
    exact .inl ⟨_, _, Machine.call_copyIn success⟩
  | copyToHost id type out =>
    refine h.transfer_used (Memory.copyToHost_transfer h.direct sized id type out) ?_
    rintro c out ⟨_, _, _, _, _, _, _, _, rfl⟩ success
    obtain ⟨_, _, _, _, _, _, same⟩ := Machine.call_copyOut success
    exact .inr same
  | fill id value size =>
    refine h.transfer_used (Memory.fill_transfer h.direct sized id value size).silent ?_
    rintro c out ⟨_, _, _, _, _, _, _, _, _, rfl⟩ success
    obtain ⟨_, _, wrote⟩ := Machine.call_fill success
    exact .inl ⟨_, _, wrote⟩
  | _ => cases moved

/-! ## Releases -/

/-- A release call that fails leaves the memory in use, whatever it was about. -/
theorem failed_used {c : NativeCall} {code : Int} {out : Output} (failure : code ≠ 0)
    (reply : (w.machine.call c).1 = .code code out) :
    (w.machine.call c).2.usedMemory = w.machine.usedMemory := by
  refine Machine.used_of_bytes ((Machine.call_change _ c).bytes_of_failure fun out' same => ?_)
  rw [reply] at same
  injection same with zero
  exact failure zero

/-- A release call that succeeds: the size of the resource is in use no more. -/
theorem released_used {id : Nat} {r : Resource} {c : NativeCall} {out : Output}
    (h : Booked s w) (there : w.resources[id]? = some r) (active : r.released = false)
    (call : r.payload.releaseCall? = some c) (success : (w.machine.call c).1 = .code 0 out) :
    (w.machine.call c).2.usedMemory + (s id).length = w.machine.usedMemory := by
  have change := Machine.call_change w.machine c
  have sized := h.mirrors.sized id r there
  by_cases none : s id = []
  · rw [none]
    refine Machine.used_of_bytes ?_
    obtain same | ⟨a, address, _⟩ := change.bytes_of_release call
    · exact same
    · -- an address with no bytes behind it is not one of memory
      have other : r.payload.cls ≠ .pointer := fun cls => h.mirrors.filled id r a there cls address none
      cases payload : r.payload with
      | pointer => rw [payload] at other; exact absurd rfl other
      | plain => rw [payload] at call; cases call
      | stream b | pool b =>
        rw [payload] at call
        cases call
        refine change.bytes_of_idle nofun nofun ?_ nofun
        intro k
        cases b <;> exact nofun
  · obtain ⟨_, a, address, bytes⟩ := h.mirrors.held id r there active none
    have pointer : r.payload.cls = .pointer := by
      cases payload : r.payload with
      | pointer => rfl
      | _ =>
        rw [payload] at sized
        injection sized with empty
        exact absurd (List.eq_nil_of_length_eq_zero (Int.ofNat.inj empty).symm) none
    exact Machine.call_release_used h.distinct pointer call address bytes success

end Booked

/-! ## Turns -/

namespace World

variable {w w' : World}

theorem sizeOf_of_getElem? {id : Nat} {r : Resource} (there : w.resources[id]? = some r) :
    w.sizeOf id = r.payload.size := by
  rw [sizeOf, resource_of_getElem? there]

theorem sizeOf_append {r : Resource} (resources : w'.resources = w.resources ++ [r]) {id : Nat}
    (old : id < w.resources.length) : w'.sizeOf id = w.sizeOf id := by
  unfold sizeOf resource
  rw [resources, List.getElem?_append_left old]

/-- A release changes no size. -/
theorem sizeOf_retire {k : Nat} {r : Resource} (there : w.resources[k]? = some r)
    (resources : w'.resources = w.resources.set k r.retired) (id : Nat) :
    w'.sizeOf id = w.sizeOf id := by
  by_cases same : k = id
  · subst same
    obtain ⟨bound, _⟩ := List.getElem?_eq_some_iff.1 there
    have now : w'.resources[k]? = some r.retired := by
      rw [resources, List.getElem?_set_self bound]
    rw [sizeOf_of_getElem? now, sizeOf_of_getElem? there]
    rfl
  · unfold sizeOf resource
    rw [resources, List.getElem?_set_ne same]

end World

namespace Booked

variable {s : Store} {w : World} {op : Operation} {t : Turn}

theorem posts_kept (used : (t.take w).machine.usedMemory = w.machine.usedMemory)
    (resources : (t.take w).resources = w.resources) (unsettled : ∀ id, t.settles id w = false) :
    t.Posts w 0 0 := by
  refine .kept used (congrArg List.length resources) (fun id => ?_) unsettled
  unfold World.sizeOf World.resource
  rw [resources]

/-- A release, with its call or without it. -/
theorem posts_released {id : Nat} {r : Resource} (h : Booked s w) (subject : t.subject = some id)
    (there : w.resources[id]? = some r) (active : r.released = false)
    (gone : Releases w id r (t.take w)) : t.Posts w 0 (t.returned w) := by
  have sized := h.mirrors.sized id r there
  have others (k : Nat) (other : k ≠ id) : t.settles k w = false := by
    refine Turn.settles_of_ne fun same => other ?_
    exact (Option.some.inj (subject.symm.trans same)).symm
  have marked (used : (t.take w).machine.usedMemory = w.machine.usedMemory)
      (resources : (t.take w).resources = w.resources.set id r.retired)
      (unsettled : t.settles id w = false) : t.Posts w 0 (t.returned w) := by
    rw [Turn.returned_of_subject subject, unsettled]
    refine .kept used (by rw [resources, List.length_set])
      (World.sizeOf_retire there resources) fun k => ?_
    by_cases same : k = id
    · exact same ▸ unsettled
    · exact others k same
  cases gone with
  | @called c code out owned call reply way =>
    have settles := Turn.settles_of_calls subject (Payload.releaseCall_releases call)
      (Turn.calls_eq way)
    by_cases success : code = 0
    · rw [success] at reply settles
      have settled : t.settles id w = true := settles
      have size : (w.sizeOf id).count = (s id).length := by
        rw [World.sizeOf_of_getElem? there, sized]
        rfl
      rw [Turn.returned_of_subject subject, if_pos settled, size]
      refine .returned ?_ there active sized way.resources settled others
      rw [way.machine]
      exact h.released_used there active call reply
    · refine marked ?_ way.resources (settles.trans (beq_false_of_ne success))
      rw [way.machine]
      exact failed_used success reply
  | marked _ way =>
    exact marked (congrArg Machine.usedMemory way.machine) way.resources
      (Turn.settles_of_nil (Turn.calls_eq way))

/-- A resource that an operation has made: memory, or one that stands for no bytes. -/
theorem posts_made {c : NativeCall} {r : Resource} {own : Bool} {out : Output}
    (allowed : op.Allows w.resources c) (still : op.moves? = none)
    (kind : c.entryPoint.makes? = some (r.payload.cls, own))
    (reply : (w.machine.call c).1 = .code 0 out)
    (size : r.payload.cls = .pointer → r.payload.size = .int c.requested)
    (asked : ∀ v, op.asked? = some v → Memory.validSize v = .ok c.requested)
    (machine : (t.take w).machine = (w.machine.call c).2)
    (resources : (t.take w).resources = w.resources ++ [r])
    (unsettled : ∀ id, t.settles id w = false) {v : Value} :
    t.Posts w (op.granted (.ok v)) 0 := by
  have change := Machine.call_change w.machine c
  cases wanted : op.asked? with
  | some given =>
    have makes := (Operation.makes_of_asked wanted).2 _ allowed.1
    have cls : r.payload.cls = .pointer := by
      rw [kind] at makes
      injection makes with makes
      injection makes
    have count := Memory.validSize_nonneg (asked given wanted)
    rw [reply] at change
    rw [Operation.granted_of_valid wanted (asked given wanted)]
    refine .granted ?_ resources ?_ unsettled
    · rw [machine]
      exact change.allocated makes
    · rw [size cls, Int.toNat_of_nonneg count]
  | none =>
    have other : r.payload.cls ≠ .pointer := by
      intro cls
      obtain ⟨given, wanted'⟩ := Operation.asked_of_makes allowed.1 (cls ▸ kind)
      rw [wanted] at wanted'
      cases wanted'
    have sizeless : r.payload.size = .int (0 : Nat) := by
      cases payload : r.payload with
      | pointer => rw [payload] at other; exact absurd rfl other
      | _ => rfl
    obtain ⟨copies, fills⟩ := Operation.entries_of_still still
    have same : (w.machine.call c).2.tables.bytes = w.machine.tables.bytes := by
      refine allowed.bytes copies fills fun memory => other ?_
      rw [kind] at memory
      injection memory with memory
      injection memory
    rw [Operation.granted_of_none wanted]
    refine .granted ?_ resources sizeless unsettled
    rw [machine]
    exact Machine.used_of_bytes same

/-- An operation that leaves the resources alone and moves no bytes. -/
theorem posts_used {w' : World} {result : Except Fault Value} (still : op.moves? = none)
    (same : t.subject = op.subject) (orderly : Orderly w) (took : t.take w = w')
    (way : Uses (op.Tries w.resources) w w') (failed : op.makes → ∃ f, result = .error f)
    (idle : ∀ id, op.subject = some id → (w.resource id).released = true) :
    t.Posts w (op.granted result) (t.returned w) := by
  obtain ⟨copies, fills⟩ := Operation.entries_of_still still
  obtain ⟨cs, passage, _⟩ := way.passage
  have bytes := way.bytes fun m c tries => Operation.Tries.bytes tries copies fills
  have unsettled (id : Nat) : t.settles id w = false := by
    unfold Turn.settles
    obtain none | ⟨r, _, _, subject, there, active, _⟩ := t.releases_cases orderly id
    · rw [none]
      rfl
    · have released := idle id (same.symm.trans subject)
      rw [World.resource_of_getElem? there, active] at released
      cases released
  have granted : op.granted result = 0 := by
    cases makes : op.makes with
    | true =>
      obtain ⟨f, rfl⟩ := failed makes
      exact Operation.granted_of_error f
    | false => exact Operation.granted_of_none (Operation.asked_of_uses makes) result
  have returned : t.returned w = 0 := by
    unfold Turn.returned
    split
    next id _ => rw [unsettled id]; rfl
    next => rfl
  rw [granted, returned]
  refine posts_kept ?_ ?_ unsettled
  · rw [took]
    exact Machine.used_of_bytes bytes
  · rw [took, passage.resources]

/-- An operation that moves no bytes. -/
theorem posts_effect {result : Except Fault Value} (h : Booked s w) (still : op.moves? = none)
    (same : t.subject = op.subject) (effect : Effect .direct op w result (t.take w)) :
    t.Posts w (op.granted result) (t.returned w) := by
  generalize took : t.take w = w' at effect
  cases effect with
  | used way failed idle => exact posts_used still same h.orderly took way failed idle
  | @made _ c r own code out allowed kind owned active reply success address size asked way =>
    have zero : code = 0 := success
    have keeps : t.subject = none := same.trans (Operation.entries_keep allowed.1).1
    rw [zero] at reply
    rw [Turn.returned_of_none keeps]
    refine posts_made allowed still kind reply (size rfl) (asked rfl) (took ▸ way.machine)
      (took ▸ way.resources) fun id => Turn.settles_of_ne ?_
    rw [keeps]
    exact nofun
  | @released _ _ id r subject there active gone =>
    rw [Operation.granted_of_none (Operation.asked_of_uses (Operation.makes_of_subject subject))]
    exact h.posts_released (same.trans subject) there active (took ▸ gone)

/-- **What one turn posts.** -/
theorem posts (h : Booked s w) (t : Turn) : t.Posts w (t.granted w) (t.returned w) := by
  cases t with
  | failNext entry code => exact posts_kept rfl rfl fun _ => Turn.settles_of_ne nofun
  | adjust setting =>
    exact posts_kept (Machine.used_of_bytes (congrArg Tables.bytes (setting.tables_apply _))) rfl
      fun _ => Turn.settles_of_ne nofun
  | operate op own =>
    cases moved : op.moves? with
    | none =>
      exact h.posts_effect moved rfl (op.perform_effect h.direct h.orderly.apart.native own)
    | some id =>
      obtain ⟨used, resources⟩ := h.moved_used moved
      have plain : op.subject = none ∧ op.asked? = none := by
        cases op with
        | copyTo | copyFromHost | copyToHost | fill => exact ⟨rfl, rfl⟩
        | _ => cases moved
      have keeps : (Turn.operate op own).subject = none := plain.1
      have granted : (Turn.operate op own).granted w = 0 := Operation.granted_of_none plain.2 _
      rw [granted, Turn.returned_of_none keeps]
      refine posts_kept used resources fun id => Turn.settles_of_ne ?_
      rw [keeps]
      exact nofun

end Booked

/-- **What a turn does to the memory in use**: what it has been granted is added, and what it has
returned is taken away. -/
theorem Turn.Posts.used {t : Turn} {w : World} {granted returned : Nat}
    (h : t.Posts w granted returned) :
    (t.take w).machine.usedMemory + returned = w.machine.usedMemory + granted := by
  cases h with
  | kept used => exact used
  | granted used => exact used
  | returned used => exact used

/-! ## Sessions -/

theorem releases_append (id : Nat) (w : World) (ts us : List Turn) :
    releases id w (ts ++ us) = releases id w ts ++ releases id (w.after ts) us := by
  induction ts generalizing w with
  | nil => rfl
  | cons t ts ih =>
    show t.releases id w ++ releases id (t.take w) (ts ++ us) = _
    rw [ih, ← List.append_assoc]
    rfl

/-- Has a session released a resource by a call that succeeded? -/
def settled (w : World) (ts : List Turn) (id : Nat) : Bool :=
  (releases id w ts).any fun e => e.2 == 0

/-- The bytes that a resource stands for after a session: its size, until a session has released
it by a call that succeeded. -/
def outstanding (w : World) (ts : List Turn) (id : Nat) : Nat :=
  if settled w ts id then 0 else ((w.after ts).sizeOf id).count

/-- The bytes that all resources stand for. -/
def totalOutstanding (w : World) (ts : List Turn) : Nat :=
  ((List.range (w.after ts).resources.length).map (outstanding w ts)).sum

theorem settled_concat (w : World) (ts : List Turn) (t : Turn) (id : Nat) :
    settled w (ts ++ [t]) id = (settled w ts id || t.settles id (w.after ts)) := by
  have one : releases id (w.after ts) [t] = t.releases id (w.after ts) := List.append_nil _
  unfold settled
  rw [releases_append, List.any_append, one]
  rfl

/-- What was not there, or is still active, has not been released. -/
theorem settled_of_active {w : World} {ts : List Turn} {id : Nat} (orderly : Orderly w)
    (active : ∀ r, (w.after ts).resources[id]? = some r → r.released = false) :
    settled w ts id = false := by
  unfold settled
  obtain none | ⟨r, _, _, there, released, _⟩ := releases_cases orderly id ts
  · rw [none]
    rfl
  · rw [active r there] at released
    cases released

/-- A sum in which one part is paid off. -/
theorem sum_range_pay {f g : Nat → Nat} {n i : Nat} (bound : i < n) (paid : g i = 0)
    (others : ∀ k, k ≠ i → g k = f k) :
    ((List.range n).map g).sum + f i = ((List.range n).map f).sum := by
  induction n with
  | zero => cases bound
  | succ n ih =>
    simp only [List.range_succ, List.map_append, List.sum_append, List.map_cons, List.map_nil,
      List.sum_cons, List.sum_nil]
    rcases Nat.lt_succ_iff_lt_or_eq.1 bound with before | last
    · have rest := ih before
      rw [others n (Nat.ne_of_gt before)]
      omega
    · subst last
      have same : (List.range i).map g = (List.range i).map f :=
        List.map_congr_left fun k hk => others k (Nat.ne_of_lt (List.mem_range.1 hk))
      rw [same, paid]
      omega

section Outstanding

variable {w : World} {ts : List Turn} {t : Turn} {id : Nat} {r : Resource} {n : Nat}

/-- A turn that does not release a resource, and leaves its size, leaves what it stands for. -/
theorem outstanding_kept (unsettled : t.settles id (w.after ts) = false)
    (size : (w.after (ts ++ [t])).sizeOf id = (w.after ts).sizeOf id) :
    outstanding w (ts ++ [t]) id = outstanding w ts id := by
  unfold outstanding
  rw [settled_concat, unsettled, Bool.or_false, size]

/-- An active resource stands for its size. -/
theorem outstanding_active (orderly : Orderly w) (there : (w.after ts).resources[id]? = some r)
    (active : r.released = false) (size : r.payload.size = .int n) : outstanding w ts id = n := by
  have still : settled w ts id = false :=
    settled_of_active orderly fun u hu => by cases there.symm.trans hu; exact active
  unfold outstanding
  rw [still, World.sizeOf_of_getElem? there, size]
  rfl

/-- One that a turn has made stands for its size from then on. -/
theorem outstanding_made (orderly : Orderly w) (absent : (w.after ts).resources[id]? = none)
    (unsettled : t.settles id (w.after ts) = false)
    (there : (w.after (ts ++ [t])).resources[id]? = some r) (size : r.payload.size = .int n) :
    outstanding w (ts ++ [t]) id = n := by
  have fresh : settled w ts id = false :=
    settled_of_active orderly fun u hu => by cases absent.symm.trans hu
  unfold outstanding
  rw [settled_concat, fresh, unsettled, World.sizeOf_of_getElem? there, size]
  rfl

/-- One that a turn has released by a call that succeeded stands for nothing. -/
theorem outstanding_settled (settles : t.settles id (w.after ts) = true) :
    outstanding w (ts ++ [t]) id = 0 := by
  unfold outstanding
  rw [settled_concat, settles, Bool.or_true, if_pos rfl]

end Outstanding

/-- What a turn does to the bytes that the resources stand for: the same as to those in use. -/
theorem Turn.Posts.total {t : Turn} {w : World} {ts : List Turn} {granted returned : Nat}
    (h : t.Posts (w.after ts) granted returned) (orderly : Orderly w) :
    totalOutstanding w (ts ++ [t]) + returned = totalOutstanding w ts + granted := by
  have later : w.after (ts ++ [t]) = t.take (w.after ts) := World.after_append w ts [t]
  unfold totalOutstanding
  cases h with
  | kept _ length sizes unsettled =>
    have same (id : Nat) : outstanding w (ts ++ [t]) id = outstanding w ts id :=
      outstanding_kept (unsettled id) (later ▸ sizes id)
    rw [later, length]
    exact congrArg List.sum (List.map_congr_left fun id _ => same id)
  | @granted r _ _ resources size unsettled =>
    have old : (List.range (w.after ts).resources.length).map (outstanding w (ts ++ [t])) =
        (List.range (w.after ts).resources.length).map (outstanding w ts) :=
      List.map_congr_left fun id hid => outstanding_kept (unsettled id)
        (later ▸ World.sizeOf_append resources (List.mem_range.1 hid))
    have new : outstanding w (ts ++ [t]) (w.after ts).resources.length = granted := by
      refine outstanding_made orderly (List.getElem?_eq_none (Nat.le_refl _)) (unsettled _) ?_ size
      rw [later, resources]
      exact List.getElem?_concat_length
    rw [later, resources, List.length_append, List.length_singleton, List.range_succ,
      List.map_append, List.sum_append, old, List.map_singleton, List.sum_singleton, new]
    rfl
  | @returned id r _ _ there active size resources settles others =>
    obtain ⟨bound, _⟩ := List.getElem?_eq_some_iff.1 there
    have total := sum_range_pay bound (outstanding_settled settles) fun k other =>
      outstanding_kept (others k other) (later ▸ World.sizeOf_retire there resources k)
    rw [outstanding_active orderly there active size] at total
    rw [later, resources, List.length_set]
    exact total

/-- **The memory in use is what the resources stand for**, all through a session. -/
theorem usedMemory_eq_outstanding (host : Host) (m : Machine) (ts : List Turn) :
    let w := World.opening host m .direct
    (w.after ts).machine.usedMemory = totalOutstanding w ts := by
  intro w
  induction ts using List.reverseRecOn with
  | nil => rfl
  | append_singleton ts t same =>
    have posts := ((Booked.opening host m).after ts).posts t
    have stands := posts.total (orderly_opening host m .direct)
    rw [World.after_append]
    exact Nat.add_right_cancel (posts.used.trans ((congrArg (· + _) same).trans stands.symm))

end GpuHandles
