import GpuHandles.Proofs.DefaultPools
import GpuHandles.Proofs.MemoryInUse
import GpuHandles.Proofs.Twin
/-!
The accounts of memory.

Over the machine itself the free memory is what of the total no live allocation has.  It never
falls below zero, so it is told as it is; an allocation succeeds if and only if it finds room and
addresses reach that many bytes; and the free memory changes by what was granted or returned and
by nothing else (`memory_accounts`).
-/

namespace GpuHandles

/-! ## What was set up -/

namespace Machine

/-- No call changes the total, or what is set up to be reported. -/
theorem call_setUp (m : Machine) (c : NativeCall) : (m.call c).2.setUp = m.setUp := by
  have same := congrArg setUp (m.call_rest_device c)
  exact same

/-- The memory in use is part of the total, the total is a size, and it is told as it is. -/
structure Solvent (m : Machine) : Prop where
  used : (m.usedMemory : Int) ≤ m.totalMemory
  total : m.totalMemory < 2 ^ 64
  standard : m.reports.memoryInfo = none

/-- A buffer can be made if and only if addresses reach its bytes. -/
theorem bufferFault?_eq (n : Int) : bufferFault? n =
    if n < addressable then none else some (if n < 2 ^ 63 then .noBuffer else .lengthOverflow) := by
  have reach : (addressable : Int) ≤ 2 ^ 63 := by decide
  unfold bufferFault?
  by_cases within : n < addressable
  · rw [if_pos within, if_neg (by omega), if_neg (by omega)]
  · rw [if_neg within]
    by_cases counted : n < 2 ^ 63
    · rw [if_pos counted, if_neg (Int.not_le.2 counted), if_pos (Int.not_lt.1 within)]
    · rw [if_neg counted, if_pos (Int.not_lt.1 counted)]

/-- Memory for some bytes, asked of the machine. -/
theorem reserve_reply (m : Machine) {n : Int} (some_bytes : 0 < n) :
    (m.reserve n).1 =
      if n ≤ m.freeMemory then
        if n < addressable then .code 0 (.address (some m.nextHandle))
        else .fault (if n < 2 ^ 63 then .noBuffer else .lengthOverflow)
      else .code Status.Kind.outOfMemory.code .nothing := by
  unfold reserve
  rw [if_neg (Int.ne_of_gt some_bytes)]
  by_cases room : n ≤ m.freeMemory
  · rw [if_neg (Int.not_lt.2 room), if_pos room]
    unfold placeZeros
    rw [bufferFault?_eq]
    by_cases within : n < addressable
    · rw [if_pos within, if_pos within]
      rfl
    · rw [if_neg within, if_neg within]
  · rw [if_pos (Int.not_le.1 room), if_neg room]
    rfl

/-- Memory that was reserved has found room. -/
theorem reserve_fits {m : Machine} {n : Int} {out : Output}
    (success : (m.reserve n).1 = .code 0 out) : n = 0 ∨ n ≤ m.freeMemory := by
  unfold reserve at success
  by_cases none : n = 0
  · exact .inl none
  · right
    rw [if_neg none] at success
    by_cases full : m.freeMemory < n
    · rw [if_pos full] at success
      cases success
    · exact Int.not_lt.1 full

/-- A call that makes memory and succeeds has found room for it. -/
theorem call_fits {m : Machine} {c : NativeCall} {out : Output}
    (makes : c.entryPoint.makes? = some (.pointer, true)) (success : (m.call c).1 = .code 0 out) :
    c.requested = 0 ∨ c.requested ≤ m.freeMemory := by
  rw [call_of_success success] at success
  obtain ⟨f, fault⟩ | ⟨k, failure, refused⟩ | reserved := perform_memory _ makes
  · rw [fault] at success
    cases success
  · rw [refused] at success
    cases k with
    | success => exact absurd rfl failure
    | _ => cases success
  · rw [reserved] at success
    exact reserve_fits (m := m.spend [c.entryPoint]) success

/-- The machine has no objection to a call but that it may have no room for it. -/
def Serves (m : Machine) (c : NativeCall) : Prop := m.perform c = m.reserve c.requested

end Machine

namespace Memory

variable {w : World} {size : Value} {n : Int} {call : Int → NativeCall}

/-- An allocation of a number of bytes, by what the machine answers. -/
theorem allocateBy_result (direct : w.library = some .direct) (valid : validSize size = .ok n)
    (present : w.machine.missing.contains (call n).entryPoint.name = false) :
    ((allocateBy call size).outcome w).1 =
      (Loading.checked .direct (w.machine.call (call n)).1).map fun _ =>
        .handle w.resources.length .pointer := by
  have asked := Loading.request_direct direct (call n)
  rw [present, if_neg Bool.false_ne_true] at asked
  unfold allocateBy
  rw [valid, Action.outcome_bind_ok (Action.outcome_ofExcept (.ok n) w)]
  cases ended : Loading.checked .direct (w.machine.call (call n)).1 with
  | error f =>
    rw [ended] at asked
    rw [Action.outcome_bind_error asked]
    rfl
  | ok out =>
    rw [ended] at asked
    rw [Action.outcome_bind_ok asked]
    rfl

/-- **An allocation that the machine serves succeeds if and only if there is room for it, and
addresses reach its bytes.** -/
theorem allocateBy_served (direct : w.library = some .direct) (valid : validSize size = .ok n)
    (some_bytes : 0 < n) (requested : (call n).requested = n)
    (present : w.machine.missing.contains (call n).entryPoint.name = false)
    (calm : w.machine.injected (call n).entryPoint = 0)
    (serves : (w.machine.spend [(call n).entryPoint]).Serves (call n)) :
    ((allocateBy call size).outcome w).1 =
      if n ≤ w.machine.freeMemory then
        if n < addressable then .ok (.handle w.resources.length .pointer)
        else .error (if n < 2 ^ 63 then .noBuffer else .lengthOverflow)
      else .error (.ofCode Status.Kind.outOfMemory.code) := by
  have reply : (w.machine.call (call n)).1 =
      ((w.machine.spend [(call n).entryPoint]).reserve n).1 := by
    rw [Machine.call_of_none calm]
    refine (congrArg Prod.fst serves).trans ?_
    rw [requested]
  rw [allocateBy_result direct valid present, reply, Machine.reserve_reply _ some_bytes]
  show Except.map _ (Loading.checked .direct (if n ≤ w.machine.freeMemory then _ else _)) = _
  by_cases room : n ≤ w.machine.freeMemory
  · rw [if_pos room, if_pos room]
    by_cases within : n < addressable
    · rw [if_pos within, if_pos within]
      rfl
    · rw [if_neg within, if_neg within]
      rfl
  · rw [if_neg room, if_neg room]
    rfl

end Memory

/-! ## Streams and pools that are known -/

/-- What is made and not owned is the default pool of a device. -/
theorem EntryPoint.makes_borrowed {e : EntryPoint} {cls : HandleClass}
    (h : e.makes? = some (cls, false)) : e = .defaultPool ∧ cls = .pool := by
  cases e with
  | defaultPool =>
    cases h
    exact ⟨rfl, rfl⟩
  | _ => cases h

namespace Machine

/-- A call for a default pool that succeeds. -/
theorem call_lent {m : Machine} {c : NativeCall} {out : Output}
    (entry : c.entryPoint = .defaultPool) (success : (m.call c).1 = .code 0 out) :
    ∃ e ∈ (m.call c).2.defaultPools, out.storedAddress = some e.2 := by
  cases c with
  | defaultPool device =>
    have lends := m.call_lends device
    rw [success] at lends
    obtain ⟨failed, _⟩ | ⟨h, same⟩ := lends.reply_cases
    · cases failed
    · cases same
      obtain ⟨e, he, handle, _⟩ := lends.answers.entry
      exact ⟨e, he, congrArg some handle.symm⟩
  | _ => cases entry

theorem isStream_of_key {m : Machine} {a : Nat} (key : a ∈ m.streams.keys) :
    m.isStream (.address (some a)) = .ok true := by
  have found := (Table.has_iff_mem_keys _ _).2 key
  rw [Table.has_eq_isSome_get?] at found
  exact congrArg Except.ok found

theorem isPool_of_key {m : Machine} {a : Nat} (key : a ∈ m.pools.keys) :
    m.isPool (some a) = true := by
  have found := (Table.has_iff_mem_keys _ _).2 key
  rw [Table.has_eq_isSome_get?] at found
  exact Bool.or_eq_true_iff.2 (.inl found)

theorem isPool_of_lent {m : Machine} {e : Value × Nat} (lent : e ∈ m.defaultPools) :
    m.isPool (some e.2) = true :=
  Bool.or_eq_true_iff.2 (.inr (List.any_eq_true.2 ⟨e, lent, decide_eq_true rfl⟩))

end Machine

/-- The handles of active resources are known to the machine: those of owning resources are in
the tables, and a borrowed resource is the default pool of a device. -/
structure Known (w : World) : Prop where
  agrees : Agrees w.resources w.machine.tables fun _ => True
  borrowed : ∀ r ∈ w.resources, r.owned = .truth false → r.payload.cls = .pool ∧
    ∃ e ∈ w.machine.tables.lent, r.payload.address = some e.2

namespace Known

variable {w w' : World} {op : Operation} {result : Except Fault Value}

theorem effect (h : Known w) (effect : Effect .direct op w result w') : Known w' := by
  have lends := effect.keeps
    (P := fun m => ∀ e ∈ w.machine.tables.lent, e ∈ m.tables.lent)
    (fun m c before e he => (m.pools_grow c).subset (before e he)) fun _ he => he
  have old {r u : Resource} (hu : u ∈ w.resources) (payload : r.payload = u.payload)
      (same : r.owned = u.owned) (lent : r.owned = .truth false) : r.payload.cls = .pool ∧
        ∃ e ∈ w'.machine.tables.lent, r.payload.address = some e.2 := by
    obtain ⟨cls, e, he, address⟩ := h.borrowed u hu (same ▸ lent)
    rw [payload]
    exact ⟨cls, e, lends e he, address⟩
  refine ⟨(h.agrees.effect (fun _ _ _ _ _ _ _ => trivial) effect).mono fun _ _ _ _ _ => trivial, ?_⟩
  intro r hr lent
  cases effect with
  | used way =>
    obtain ⟨cs, passage, _⟩ := way.passage
    rw [passage.resources] at hr
    exact old hr rfl rfl lent
  | @made _ c u own code out _ kind owned _ reply success address _ _ way =>
    rw [way.resources] at hr
    rcases List.mem_append.1 hr with before | new
    · exact old before rfl rfl lent
    · rw [List.mem_singleton.1 new] at lent ⊢
      cases owned.symm.trans lent
      obtain ⟨entry, cls⟩ := EntryPoint.makes_borrowed kind
      have zero : code = 0 := success
      rw [zero] at reply
      obtain ⟨e, he, stored⟩ := Machine.call_lent entry reply
      refine ⟨cls, e, ?_, address.trans stored⟩
      rw [way.machine]
      exact he
  | @released _ _ id u _ there _ gone =>
    rw [gone.resources] at hr
    obtain ⟨k, v, hv, payload, same, _⟩ := Agrees.before_set there hr
    exact old (List.mem_of_getElem? hv) payload same lent

theorem take (h : Known w) (orderly : Orderly w) (direct : w.library = some .direct) (t : Turn) :
    Known (t.take w) := by
  obtain ⟨m, _, same, way⟩ | ⟨l, op, result, installed, _, effect⟩ := t.take_cases orderly
  · refine ⟨?_, ?_⟩
    · rw [way.resources, way.machine, same]
      exact h.agrees
    · rw [way.resources, way.machine, same]
      exact h.borrowed
  · cases direct.symm.trans installed
    exact h.effect effect

theorem after (h : Known w) (orderly : Orderly w) (direct : w.library = some .direct)
    (ts : List Turn) : Known (w.after ts) := by
  induction ts generalizing w with
  | nil => exact h
  | cons t ts ih =>
    exact ih (h.take orderly direct t) (t.orderly orderly)
      (World.direct_after orderly direct [t])

theorem opening (host : Host) (m : Machine) : Known (.opening host m .direct) where
  agrees := (agrees_opening host m).mono fun _ _ _ _ _ => trivial
  borrowed := nofun

end Known

/-- The resource with a number is there, active, and of a class. -/
def World.Active (w : World) (cls : HandleClass) (id : Nat) : Prop :=
  (w.resource id).released = false ∧ (w.resource id).payload.cls = cls

namespace Known

variable {w : World} {id : Nat}

/-- The handle of an active resource that is no memory. -/
theorem of_active {cls : HandleClass} (h : Known w) (active : w.Active cls id)
    (other : cls ≠ .pointer) : ∃ a, (w.resource id).payload.address = some a ∧
      (a ∈ w.machine.tables.keys cls ∨
        cls = .pool ∧ ∃ e ∈ w.machine.defaultPools, e.2 = a) := by
  obtain ⟨going, rfl⟩ := active
  have mem := List.mem_of_getElem? (World.getElem?_of_active going)
  obtain ⟨_, own, owned⟩ := h.agrees.apart.native _ mem
  cases own with
  | false =>
    obtain ⟨cls, e, he, address⟩ := h.borrowed _ mem owned
    exact ⟨e.2, address, .inr ⟨cls, e, he, rfl⟩⟩
  | true =>
    obtain ⟨a, address⟩ := Option.isSome_iff_exists.1 (h.agrees.named _ mem owned other)
    exact ⟨a, address, .inl (h.agrees.present _ mem owned going a address)⟩

theorem isStream (h : Known w) (active : w.Active .stream id) (es : List EntryPoint) :
    (w.machine.spend es).isStream (w.resource id).payload.value = .ok true := by
  obtain ⟨a, address, key | ⟨pool, _⟩⟩ := h.of_active active nofun
  · have value : (w.resource id).payload.value = .address (some a) := by
      rw [← address]
      cases payload : (w.resource id).payload with
      | plain => rw [payload] at address; cases address
      | _ => rfl
    rw [value]
    exact Machine.isStream_of_key key
  · cases pool

theorem isPool (h : Known w) (active : w.Active .pool id) (es : List EntryPoint) :
    (w.machine.spend es).isPool (w.resource id).payload.address = true := by
  obtain ⟨a, address, key | ⟨_, e, he, rfl⟩⟩ := h.of_active active nofun
  · rw [address]
    exact Machine.isPool_of_key key
  · rw [address]
    exact Machine.isPool_of_lent he

end Known

/-! ## Allocations -/

namespace Operation

/-- What else an allocation is given: flags in their range, an active stream, an active pool. -/
def Supplied (op : Operation) (w : World) : Prop :=
  match op with
  | allocate _ => True
  | allocateFlagged _ flags => ∃ k, flags.toWhole = .ok k ∧ 0 ≤ k ∧ k ≤ 4
  | allocateOrdered _ stream => ∃ id, stream = .handle id .stream ∧ w.Active .stream id
  | allocateFromPool pool _ stream =>
    w.Active .pool pool ∧ ∃ id, stream = .handle id .stream ∧ w.Active .stream id
  | _ => False

/-- Nothing keeps the entry points of an operation from being called: they are there, and no code
is set up for them. -/
def Unharmed (op : Operation) (w : World) : Prop :=
  ∀ e ∈ op.entries, w.machine.missing.contains e.name = false ∧ w.machine.injected e = 0

variable {op : Operation} {w : World} {size : Value} {n : Int}

theorem handleOf_active {id : Nat} (active : w.Active .stream id) :
    (Memory.handleOf (.handle id .stream)).outcome w =
      (.ok (w.resource id).payload.value, w) := by
  have going := Ownership.active_ok (World.getElem?_of_active active.1) active.1
  show (Ownership.active id >>= fun r => pure r.payload.value).outcome w = _
  rw [Action.outcome_bind_ok going]
  rfl

/-- **An allocation succeeds if and only if there is room for it, and addresses reach its
bytes.** -/
theorem allocation_result (known : Known w) (direct : w.library = some .direct)
    (asked : op.asked? = some size) (valid : Memory.validSize size = .ok n) (some_bytes : 0 < n)
    (supplied : op.Supplied w) (unharmed : op.Unharmed w) :
    (op.perform.outcome w).1 =
      if n ≤ w.machine.freeMemory then
        if n < addressable then .ok (.handle w.resources.length .pointer)
        else .error (if n < 2 ^ 63 then .noBuffer else .lengthOverflow)
      else .error (.ofCode Status.Kind.outOfMemory.code) := by
  cases op with
  | allocate given =>
    cases asked
    obtain ⟨present, calm⟩ := unharmed _ (.head _)
    exact Memory.allocateBy_served direct valid some_bytes rfl present calm rfl
  | allocateFlagged given flags =>
    cases asked
    obtain ⟨present, calm⟩ := unharmed _ (.head _)
    obtain ⟨k, whole, low, high⟩ := supplied
    show ((Action.ofExcept flags.toWhole >>= fun k => Memory.allocateBy _ size).outcome w).1 = _
    rw [whole, Action.outcome_bind_ok (Action.outcome_ofExcept (.ok k) w)]
    refine Memory.allocateBy_served direct valid some_bytes rfl present calm ?_
    refine if_pos ?_
    simp [low, high]
  | allocateOrdered given stream =>
    cases asked
    obtain ⟨present, calm⟩ := unharmed _ (.head _)
    obtain ⟨id, rfl, active⟩ := supplied
    show ((Memory.handleOf _ >>= fun handle => Memory.allocateBy _ size).outcome w).1 = _
    rw [Action.outcome_bind_ok (handleOf_active active)]
    refine Memory.allocateBy_served direct valid some_bytes rfl present calm ?_
    show Machine.after _ (Machine.isStream _ _) _ = _
    rw [known.isStream active]
    rfl
  | allocateFromPool pool given stream =>
    cases asked
    obtain ⟨present, calm⟩ := unharmed _ (.head _)
    obtain ⟨source, id, rfl, active⟩ := supplied
    have going := Ownership.active_ok (World.getElem?_of_active source.1) source.1
    show ((Ownership.active pool >>= fun p => Memory.handleOf _ >>= fun handle =>
      Memory.allocateBy _ size).outcome w).1 = _
    rw [Action.outcome_bind_ok going, Action.outcome_bind_ok (handleOf_active active)]
    refine Memory.allocateBy_served direct valid some_bytes rfl present calm ?_
    refine (if_pos (known.isPool source _)).trans ?_
    rw [known.isStream active]
    rfl
  | _ => cases asked

/-- What an operation has been granted fitted. -/
theorem granted_le (op : Operation) (direct : w.library = some .direct) :
    op.granted (op.perform.outcome w).1 = 0 ∨
      (op.granted (op.perform.outcome w).1 : Int) ≤ w.machine.freeMemory := by
  cases asked : op.asked? with
  | none => exact .inl (granted_of_none asked _)
  | some size =>
    rcases ended : op.perform.outcome w with ⟨f | v, w'⟩
    · exact .inl (granted_of_error f)
    · obtain ⟨call, kind, run⟩ := asked_ok asked ended
      obtain ⟨n, c, code, out, valid, arrived, reply, success, _⟩ :=
        Memory.allocateBy_ok direct run
      cases arrived
      have zero : code = 0 := success
      rw [zero] at reply
      have fits := Machine.call_fits (kind n).2.1 reply
      rw [(kind n).2.2] at fits
      have count := Memory.validSize_nonneg valid
      show op.granted (.ok v) = 0 ∨ (op.granted (.ok v) : Int) ≤ _
      rw [granted_of_valid asked valid]
      omega

end Operation

/-! ## Sessions -/

/-- In a session the total is only set to a size that covers what is in use at that time. -/
def Affords (w : World) (ts : List Turn) : Prop :=
  ∀ before n later, ts = before ++ .adjust (.totalMemory n) :: later →
    ((w.after before).machine.usedMemory : Int) ≤ n ∧ n < 2 ^ 64

namespace Machine.Solvent

variable {s : Store} {w : World}

/-- An operation leaves what was set up. -/
theorem setUp_perform (booked : Booked s w) (op : Operation) (own : op.isWrap = false) :
    (op.perform.outcome w).2.machine.setUp = w.machine.setUp :=
  (op.perform_effect booked.direct booked.orderly.apart.native own).keeps
    (P := fun m => m.setUp = w.machine.setUp) (fun m c same => (m.call_setUp c).trans same) rfl

/-- What one turn keeps. -/
theorem take (h : w.machine.Solvent) (booked : Booked s w) (t : Turn)
    (affords : ∀ n, t = .adjust (.totalMemory n) →
      (w.machine.usedMemory : Int) ≤ n ∧ n < 2 ^ 64) : (t.take w).machine.Solvent := by
  cases t with
  | failNext entry code => exact ⟨h.used, h.total, h.standard⟩
  | adjust setting =>
    cases setting with
    | totalMemory n =>
      obtain ⟨used, total⟩ := affords n rfl
      exact ⟨used, total, h.standard⟩
    | _ => exact ⟨h.used, h.total, h.standard⟩
  | operate op own =>
    have same := setUp_perform booked op own
    obtain ⟨total, reports⟩ := Prod.mk.inj same
    have used := (booked.posts (.operate op own)).used
    have fits := op.granted_le booked.direct
    have before := h.used
    change (op.perform.outcome w).2.machine.usedMemory + _ =
      w.machine.usedMemory + op.granted (op.perform.outcome w).1 at used
    unfold Machine.freeMemory at fits
    refine ⟨?_, ?_, ?_⟩
    · show ((op.perform.outcome w).2.machine.usedMemory : Int) ≤ _
      rw [show ((Turn.operate op own).take w).machine.totalMemory = _ from total]
      omega
    · rw [show ((Turn.operate op own).take w).machine.totalMemory = _ from total]
      exact h.total
    · rw [show ((Turn.operate op own).take w).machine.reports = _ from reports]
      exact h.standard

theorem after (h : w.machine.Solvent) (booked : Booked s w) (ts : List Turn)
    (affords : Affords w ts) : (w.after ts).machine.Solvent := by
  induction ts generalizing s w with
  | nil => exact h
  | cons t ts ih =>
    refine ih (h.take booked t fun n first => affords [] n ts (by rw [first]; rfl))
      (booked.take t) fun before n later rest => ?_
    exact affords (t :: before) n later (by rw [rest]; rfl)

end Machine.Solvent

/-- What is told of memory: what is free, and the total. -/
theorem Memory.info_result {w : World} (direct : w.library = some .direct)
    (solvent : w.machine.Solvent) (unharmed : Operation.memoryInfo.Unharmed w) :
    (Operation.memoryInfo.perform.outcome w).1 =
      .ok (.tuple [.int w.machine.freeMemory, .int w.machine.totalMemory]) := by
  obtain ⟨present, calm⟩ :
      w.machine.missing.contains NativeCall.memoryInfo.entryPoint.name = false ∧
        w.machine.injected NativeCall.memoryInfo.entryPoint = 0 := unharmed _ (.head _)
  have reply : (w.machine.call .memoryInfo).1 =
      .code 0 (.pair w.machine.freeMemory w.machine.totalMemory) := by
    rw [Machine.call_of_none calm]
    dsimp only [Machine.perform]
    rw [solvent.standard]
    rfl
  have asked := Loading.request_direct direct .memoryInfo
  rw [present, if_neg Bool.false_ne_true, reply] at asked
  have used := solvent.used
  have total := solvent.total
  have free : Width.InSize w.machine.freeMemory := by
    unfold Machine.freeMemory Width.InSize
    omega
  have whole : Width.InSize w.machine.totalMemory := by
    unfold Width.InSize
    omega
  show (Memory.info.outcome w).1 = _
  unfold Memory.info
  rw [Action.outcome_bind_ok asked]
  show Except.ok (Value.tuple [.int (Width.uint64 w.machine.freeMemory),
    .int (Width.uint64 w.machine.totalMemory)]) = _
  rw [Width.uint64_of_in free, Width.uint64_of_in whole]

/-- A session that leaves the total alone affords it. -/
theorem affords_of_unset {ts : List Turn} (unset : ∀ n, .adjust (.totalMemory n) ∉ ts) (w : World) :
    Affords w ts := by
  rintro before n later rfl
  exact absurd (List.mem_append_right before (.head later)) (unset n)

/-- When each pointer has been released by a call that succeeded, no bytes are outstanding. -/
theorem totalOutstanding_eq_zero {w : World} {ts : List Turn}
    (settles : ∀ (id : Nat) (r : Resource), (w.after ts).resources[id]? = some r →
      r.payload.cls = .pointer → settled w ts id = true) : totalOutstanding w ts = 0 := by
  unfold totalOutstanding
  rw [List.sum_eq_zero_iff_forall_eq_nat]
  intro n hn
  obtain ⟨id, bound, rfl⟩ := List.mem_map.1 hn
  obtain ⟨r, there⟩ : ∃ r, (w.after ts).resources[id]? = some r :=
    ⟨_, List.getElem?_eq_getElem (List.mem_range.1 bound)⟩
  have due := settles id r there
  unfold outstanding
  by_cases paid : settled w ts id = true
  · rw [if_pos paid]
  · rw [if_neg paid, World.sizeOf_of_getElem? there]
    cases payload : r.payload with
    | pointer =>
      rw [payload] at due
      exact absurd (due rfl) paid
    | _ => rfl

/-- **The accounts of memory**, at any time in a session over the machine itself:

* the free memory is what of the total no live allocation has; it is not negative and no more
  than the total, and the question for memory is answered with the two, as long as the total is
  only ever set to a size that covers what is in use;
* an allocation of some bytes, with what else it needs, is out of memory if there is no room for
  them; if there is, it succeeds, unless there are too many of them for a buffer;
* an operation lowers the free memory by the size of an allocation that it makes, raises it by
  the size of a resource that it releases by a call that succeeds, and does nothing else to it;
* the memory in use is the sum of the sizes of the resources that have not been released by a
  call that succeeded, so all memory is free once each pointer has been. -/
theorem memory_accounts (host : Host) (m : Machine) (ts : List Turn)
    (standard : m.reports.memoryInfo = none) (total : 0 ≤ m.totalMemory ∧ m.totalMemory < 2 ^ 64) :
    let start := World.opening host m .direct
    let w := start.after ts
    let free := w.machine.freeMemory
    free = w.machine.totalMemory - (w.machine.allocations.map fun e => e.2.length).sum ∧
    (Affords start ts → 0 ≤ free ∧ free ≤ w.machine.totalMemory ∧
      (Operation.memoryInfo.Unharmed w → (Operation.memoryInfo.perform.outcome w).1 =
        .ok (.tuple [.int free, .int w.machine.totalMemory]))) ∧
    (∀ (op : Operation) (size : Value) (n : Int), op.asked? = some size →
      Memory.validSize size = .ok n → 0 < n → op.Supplied w → op.Unharmed w →
      (op.perform.outcome w).1 =
        if n ≤ free then
          if n < addressable then .ok (.handle w.resources.length .pointer)
          else .error (if n < 2 ^ 63 then .noBuffer else .lengthOverflow)
        else .error (.ofCode Status.Kind.outOfMemory.code)) ∧
    (∀ op own, let t := Turn.operate op own
      (t.take w).machine.totalMemory = w.machine.totalMemory ∧
        (t.take w).machine.freeMemory = free - t.granted w + t.returned w) ∧
    w.machine.usedMemory = totalOutstanding start ts ∧
    ((∀ (id : Nat) (r : Resource), w.resources[id]? = some r → r.payload.cls = .pointer →
      settled start ts id = true) → free = w.machine.totalMemory) := by
  intro start w free
  have booked := Booked.opening host m
  have now : Booked _ w := booked.after ts
  have known : Known w := (Known.opening host m).after booked.orderly rfl ts
  have owed : w.machine.usedMemory = totalOutstanding start ts :=
    usedMemory_eq_outstanding host m ts
  refine ⟨rfl, ?_, ?_, ?_, owed, ?_⟩
  · intro affords
    have opens : start.machine.Solvent := ⟨total.1, total.2, standard⟩
    have solvent : w.machine.Solvent := opens.after booked ts affords
    have used := solvent.used
    refine ⟨?_, ?_, Memory.info_result now.direct solvent⟩
    · show 0 ≤ w.machine.totalMemory - _
      omega
    · show w.machine.totalMemory - _ ≤ _
      omega
  · intro op size n asked valid some_bytes supplied unharmed
    exact Operation.allocation_result known now.direct asked valid some_bytes supplied unharmed
  · intro op own t
    have same : (t.take w).machine.totalMemory = w.machine.totalMemory :=
      (Prod.mk.inj (Machine.Solvent.setUp_perform now op own)).1
    have used := (now.posts t).used
    refine ⟨same, ?_⟩
    show (t.take w).machine.totalMemory - (t.take w).machine.usedMemory =
      w.machine.totalMemory - w.machine.usedMemory - t.granted w + t.returned w
    omega
  · intro settles
    have none := totalOutstanding_eq_zero settles
    show w.machine.totalMemory - w.machine.usedMemory = _
    rw [owed, none]
    exact Int.sub_zero _

/-- Two allocations, of which the first is released. -/
def accountedSession : List Turn :=
  [.operate (.allocate (.int 40)) rfl, .operate (.allocate (.int 12)) rfl, .drop 0]

theorem memory_accounts_told :
    let w := (World.opening .bare .fresh .direct).after accountedSession
    (Operation.memoryInfo.perform.outcome w).1 = .ok (.tuple [.int 1048564, .int 1048576]) ∧
      ((Operation.allocate (.int 1048565)).perform.outcome w).1 = .error (.ofCode 2) := by
  intro w
  obtain ⟨-, told, fits, -⟩ := memory_accounts .bare .fresh accountedSession rfl (by decide)
  have affords : Affords (World.opening .bare .fresh .direct) accountedSession :=
    affords_of_unset (fun n mem => by simp [accountedSession, Turn.drop] at mem) _
  have unharmed {e : EntryPoint} :
      w.machine.missing.contains e.name = false ∧ w.machine.injected e = 0 := ⟨rfl, rfl⟩
  refine ⟨(told affords).2.2 fun _ _ => unharmed, ?_⟩
  exact fits (.allocate (.int 1048565)) (.int 1048565) 1048565 rfl rfl (by decide) trivial
    fun _ _ => unharmed

/-- Two to the power of 63 bytes are free, and an allocation of as many fails: they cannot be
counted in a buffer. -/
theorem allocation_of_all_memory_fails :
    let w := World.opening .bare { Machine.fresh with totalMemory := 2 ^ 63 } .direct
    w.machine.freeMemory = 2 ^ 63 ∧
      ((Operation.allocate (.int (2 ^ 63))).perform.outcome w).1 = .error .lengthOverflow :=
  ⟨rfl, rfl⟩

end GpuHandles
