import GpuHandles.Proofs.Passage
/-!
What a call can do to the tables of the machine.

Ownership is about a part of the machine only: the handle that was given out last, the live
allocations with their bytes, the handles of streams and pools, the default pools, and the
missing symbols (`Machine.tables`).  A call does one of six things to them (`Change`): it
keeps them, overwrites the start of a live allocation, issues the next handle to a class, takes
that handle for a buffer that cannot be made, lends the default pool of a device, or drops one
handle.  `call_change` says so of every call, and no later proof looks into the machine to see
what happened to a table.
-/

namespace GpuHandles

/-- The class of handle that an entry point makes, and whether its caller owns it. -/
def EntryPoint.makes? : EntryPoint → Option (HandleClass × Bool)
  | .allocate | .allocateFlagged | .allocateOrdered | .allocateFromPool => some (.pointer, true)
  | .streamCreate => some (.stream, true)
  | .poolCreate => some (.pool, true)
  | .defaultPool => some (.pool, false)
  | _ => none

theorem EntryPoint.makes_real {e : EntryPoint} {cls : HandleClass} {own : Bool}
    (h : e.makes? = some (cls, own)) : cls ≠ .plain := by
  cases e <;> cases h <;> exact nofun

/-- Does an entry point release what a handle stands for? -/
def EntryPoint.releases : EntryPoint → Bool
  | .free | .streamDestroy | .poolDestroy => true
  | _ => false

theorem EntryPoint.makes_of_releases {e : EntryPoint} (h : e.releases = true) :
    e.makes? = none := by
  cases e with
  | free | streamDestroy | poolDestroy => rfl
  | _ => cases h

/-- The bytes that a call asks for. -/
def NativeCall.requested : NativeCall → Int
  | .allocate n | .allocateFlagged n _ | .allocateOrdered n _ | .allocateFromPool n _ _ => n
  | _ => 0

/-- The handle that a call releases, with its class. -/
def NativeCall.released? : NativeCall → Option (HandleClass × Nat)
  | .free (some h) => some (.pointer, h)
  | .streamDestroy (some h) => some (.stream, h)
  | .poolDestroy (some h) => some (.pool, h)
  | _ => none

theorem NativeCall.releases_of_released {c : NativeCall} {p : HandleClass × Nat}
    (h : c.released? = some p) : c.entryPoint.releases = true := by
  cases c with
  | free | streamDestroy | poolDestroy => rfl
  | _ => cases h

theorem NativeCall.released_of_keeps {c : NativeCall} (keeps : c.entryPoint.releases = false) :
    c.released? = none := by
  cases released : c.released? with
  | none => rfl
  | some p =>
    rw [releases_of_released released] at keeps
    cases keeps

/-- The address that a reply stores. -/
def Reply.stored : Reply → Address
  | .code _ out => out.storedAddress
  | .fault _ => none

/-- The part of a machine that ownership is about. -/
structure Tables where
  lastHandle : Nat
  bytes : Table Nat (List UInt8)
  streams : List Nat
  pools : List Nat
  lent : List (Value × Nat)
  missing : List String

namespace Tables

/-- The live handles of a class. -/
def keys (t : Tables) : HandleClass → List Nat
  | .pointer => t.bytes.keys
  | .stream => t.streams
  | .pool => t.pools
  | .plain => []

/-- The handle that comes next. -/
def next (t : Tables) : Nat := t.lastHandle + 0x1000

/-- The next handle issued to a class; an allocation gets `n` zero bytes. -/
def issue (t : Tables) (n : Nat) : HandleClass → Tables
  | .pointer => { t with
      lastHandle := t.next, bytes := t.bytes ++ [(t.next, List.replicate n 0)] }
  | .stream => { t with lastHandle := t.next, streams := t.streams ++ [t.next] }
  | .pool => { t with lastHandle := t.next, pools := t.pools ++ [t.next] }
  | .plain => t

/-- A handle of a class dropped. -/
def drop (t : Tables) (h : Nat) : HandleClass → Tables
  | .pointer => { t with bytes := t.bytes.erase h }
  | .stream => { t with streams := t.streams.filter (· ≠ h) }
  | .pool => { t with pools := t.pools.filter (· ≠ h) }
  | .plain => t

theorem bytes_issue (t : Tables) (n : Nat) :
    (t.issue n .pointer).bytes = t.bytes ++ [(t.next, List.replicate n 0)] := rfl

theorem mem_keys_issue {t : Tables} {n h : Nat} {cls k : HandleClass} (real : cls ≠ .plain) :
    h ∈ (t.issue n cls).keys k ↔ h ∈ t.keys k ∨ k = cls ∧ h = t.next := by
  cases cls <;> cases k <;> simp_all [issue, keys, Table.keys]

theorem mem_keys_drop {t : Tables} {g h : Nat} {cls k : HandleClass} :
    h ∈ (t.drop g cls).keys k ↔ h ∈ t.keys k ∧ ¬(k = cls ∧ h = g) := by
  cases cls <;> cases k <;> simp [drop, keys, Table.keys_erase]

@[simp] theorem lastHandle_issue (t : Tables) (n : Nat) {cls : HandleClass} (real : cls ≠ .plain) :
    (t.issue n cls).lastHandle = t.next := by
  cases cls <;> first | rfl | exact absurd rfl real

@[simp] theorem lent_issue (t : Tables) (n : Nat) (cls : HandleClass) :
    (t.issue n cls).lent = t.lent := by
  cases cls <;> rfl

@[simp] theorem missing_issue (t : Tables) (n : Nat) (cls : HandleClass) :
    (t.issue n cls).missing = t.missing := by
  cases cls <;> rfl

@[simp] theorem lastHandle_drop (t : Tables) (h : Nat) (cls : HandleClass) :
    (t.drop h cls).lastHandle = t.lastHandle := by
  cases cls <;> rfl

@[simp] theorem lent_drop (t : Tables) (h : Nat) (cls : HandleClass) :
    (t.drop h cls).lent = t.lent := by
  cases cls <;> rfl

@[simp] theorem missing_drop (t : Tables) (h : Nat) (cls : HandleClass) :
    (t.drop h cls).missing = t.missing := by
  cases cls <;> rfl

theorem mem_keys_set {t : Tables} {g h : Nat} {bs : List UInt8} {k : HandleClass} :
    h ∈ ({ t with bytes := t.bytes.set g bs } : Tables).keys k ↔ h ∈ t.keys k := by
  cases k with
  | pointer => simp only [keys, Table.keys_set]
  | _ => rfl

end Tables

namespace Machine

/-- The tables of a machine. -/
def tables (m : Machine) : Tables where
  lastHandle := m.lastHandle
  bytes := m.allocations
  streams := m.streams.keys
  pools := m.pools.keys
  lent := m.defaultPools
  missing := m.missing

/-- What a call with some reply does to the tables. -/
inductive Change (m : Machine) (c : NativeCall) : Reply → Machine → Prop
  /-- nothing; a call that makes handles and still succeeds was asked for no bytes -/
  | kept {reply : Reply} {m' : Machine} (same : m'.tables = m.tables)
      (stored : reply.stored = none)
      (idle : ∀ out, reply = .code 0 out → c.entryPoint.makes? = none ∨
        c.entryPoint.makes? = some (.pointer, true) ∧ c.requested = 0) :
      Change m c reply m'
  | overwrote {k : Nat} {buffer bs : List UInt8} {m' : Machine}
      (entry : c.entryPoint = .copy ∨ c.entryPoint = .fill)
      (there : m.allocations.get? k = some buffer)
      (same : m'.tables =
        { m.tables with bytes := m.allocations.set k (overwrite buffer bs) }) :
      Change m c (.code 0 .nothing) m'
  | issued {cls : HandleClass} {m' : Machine} (entry : c.entryPoint.makes? = some (cls, true))
      (bounds : cls = .pointer → c.requested ≠ 0 ∧ c.requested < addressable)
      (same : m'.tables = m.tables.issue c.requested.toNat cls) :
      Change m c (.code 0 (.address (some m.tables.next))) m'
  | taken {f : Fault} {m' : Machine} (entry : c.entryPoint.makes? = some (.pointer, true))
      (same : m'.tables = { m.tables with lastHandle := m.tables.next }) :
      Change m c (.fault f) m'
  | lent {reply : Reply} {m' : Machine} {pools : List (Value × Nat)}
      (entry : c.entryPoint = .defaultPool)
      (same : m'.tables = { m.tables with lastHandle := m.tables.next, lent := pools })
      (grown : ∀ e ∈ pools, e ∈ m.defaultPools ∨ e.2 = m.tables.next)
      (stored : ∀ h, reply.stored = some h → ∃ e ∈ pools, e.2 = h) :
      Change m c reply m'
  | dropped {cls : HandleClass} {h : Nat} {m' : Machine} (entry : c.released? = some (cls, h))
      (same : m'.tables = m.tables.drop h cls) :
      Change m c (.code 0 .nothing) m'

namespace Change

variable {m m' : Machine} {c : NativeCall}

theorem ofRefuse (k : Status.Kind) (failure : k.code ≠ 0) :
    Change m c (m.refuse k).1 (m.refuse k).2 :=
  kept rfl rfl fun out h => by
    injection h with code _
    exact absurd code failure

theorem ofAnswer {out : Output} (same : m'.tables = m.tables) (stored : out.storedAddress = none)
    (plain : c.entryPoint.makes? = none) : Change m c (m'.answer out).1 (m'.answer out).2 :=
  kept same stored fun _ _ => .inl plain

theorem ofFault {f : Fault} : Change m c (.fault f) m :=
  kept rfl rfl fun _ h => by cases h

/-- A step inside the machine that may fail. -/
theorem after {α : Type} {result : Except Fault α} {reply : α → Reply × Machine}
    (h : ∀ a, result = .ok a → Change m c (reply a).1 (reply a).2) :
    Change m c (m.after result reply).1 (m.after result reply).2 := by
  cases result with
  | ok a => exact h a rfl
  | error f => exact ofFault

theorem onDevice {device : Value} {reply : Unit → Reply × Machine}
    (h : Change m c (reply ()).1 (reply ()).2) :
    Change m c (m.onDevice device reply).1 (m.onDevice device reply).2 := by
  refine after ?_
  intro known _
  cases known with
  | true => exact h
  | false => exact ofRefuse _ (by decide)

theorem placeZeros (n : Int) (entry : c.entryPoint.makes? = some (.pointer, true))
    (asked : c.requested = n) (some_bytes : n ≠ 0) :
    Change m c (m.placeZeros n).1 (m.placeZeros n).2 := by
  unfold Machine.placeZeros
  cases made : bufferFault? n with
  | some f => exact taken entry rfl
  | none =>
    have within : n < addressable := by
      refine Int.not_le.1 fun beyond => ?_
      unfold bufferFault? at made
      rw [if_pos beyond] at made
      split at made <;> cases made
    exact issued entry (fun _ => asked ▸ ⟨some_bytes, within⟩) (by rw [asked]; rfl)

theorem reserve (n : Int) (entry : c.entryPoint.makes? = some (.pointer, true))
    (asked : c.requested = n) : Change m c (m.reserve n).1 (m.reserve n).2 := by
  unfold Machine.reserve
  by_cases h : n = 0
  · rw [if_pos h]
    exact kept rfl rfl fun _ _ => .inr ⟨entry, asked.trans h⟩
  · rw [if_neg h]
    by_cases full : m.freeMemory < n
    · rw [if_pos full]
      exact ofRefuse _ (by decide)
    · rw [if_neg full]
      exact placeZeros n entry asked h

/-- Bytes stored over the start of a live allocation. -/
theorem store {k : Nat} {buffer bs : List UInt8}
    (entry : c.entryPoint = .copy ∨ c.entryPoint = .fill)
    (there : m.allocations.get? k = some buffer) :
    Change m c (m.store k buffer bs).1 (m.store k buffer bs).2 :=
  overwrote entry there rfl

theorem copyIn {k : Address} {bs : List UInt8} {size : Value} (entry : c.entryPoint = .copy) :
    Change m c (m.copyIn k bs size).1 (m.copyIn k bs size).2 := by
  unfold Machine.copyIn
  split
  next k buffer there =>
    refine after ?_
    intro fits _
    cases fits with
    | true => exact after fun n _ => store (.inl entry) there
    | false => exact ofRefuse _ (by decide)
  next => exact ofRefuse _ (by decide)

theorem copyOut {k : Address} {size : Value} (entry : c.entryPoint = .copy) :
    Change m c (m.copyOut k size).1 (m.copyOut k size).2 := by
  unfold Machine.copyOut
  split
  next buffer _ =>
    refine after ?_
    intro fits _
    cases fits with
    | true => exact after fun n _ => ofAnswer rfl rfl (by rw [entry]; rfl)
    | false => exact ofRefuse _ (by decide)
  next => exact ofRefuse _ (by decide)

theorem copyAcross {j k : Address} {size : Value} (entry : c.entryPoint = .copy) :
    Change m c (m.copyAcross j k size).1 (m.copyAcross j k size).2 := by
  unfold Machine.copyAcross
  split
  next k old new _ there =>
    refine after ?_
    intro fits _
    cases fits with
    | true =>
      refine after ?_
      intro fits _
      cases fits with
      | true => exact after fun n _ => store (.inl entry) there
      | false => exact ofRefuse _ (by decide)
    | false => exact ofRefuse _ (by decide)
  next => exact ofRefuse _ (by decide)

theorem copy {target source : Place} {size : Value} {kind : Int} (entry : c.entryPoint = .copy) :
    Change m c (m.copy target source size kind).1 (m.copy target source size kind).2 := by
  unfold Machine.copy
  refine after ?_
  intro negative _
  cases negative with
  | true => exact ofRefuse _ (by decide)
  | false =>
    rw [if_neg Bool.false_ne_true]
    split
    · split
      · exact copyIn entry
      · exact ofRefuse _ (by decide)
    · split
      · split
        · exact copyOut entry
        · exact ofRefuse _ (by decide)
      · split
        · split
          · exact copyAcross entry
          · exact ofRefuse _ (by decide)
        · exact ofRefuse _ (by decide)

theorem fill {target : Address} {value size : Value} (entry : c.entryPoint = .fill) :
    Change m c (m.fill target value size).1 (m.fill target value size).2 := by
  unfold Machine.fill
  split
  next k buffer there =>
    refine after ?_
    intro fits _
    cases fits with
    | true => exact after fun b _ => after fun n _ => store (.inr entry) there
    | false => exact ofRefuse _ (by decide)
  next => exact ofRefuse _ (by decide)

theorem defaultPool {device : Value} (entry : c.entryPoint = .defaultPool) :
    Change m c (m.defaultPool device).1 (m.defaultPool device).2 := by
  refine onDevice ?_
  dsimp only
  split
  · exact lent entry rfl (fun e he => .inl he) fun h hs => by cases hs
  · split
    next h found =>
      refine lent entry rfl (fun e he => .inl he) ?_
      intro h' hs
      cases hs
      obtain ⟨e, he, rfl⟩ := Option.map_eq_some_iff.1 found
      exact ⟨e, List.mem_of_find?_eq_some he, rfl⟩
    next =>
      refine lent entry rfl ?_ ?_
      · intro e he
        rcases List.mem_append.1 he with he | he
        · exact .inl he
        · rw [List.mem_singleton.1 he]
          exact .inr rfl
      · intro h hs
        cases hs
        exact ⟨_, List.mem_append_right _ (List.mem_singleton_self _), rfl⟩

/-- The codes that are set up are in no table. -/
theorem ofPending {pending : Table EntryPoint Int} {reply : Reply}
    (h : Change { m with pending := pending } c reply m') : Change m c reply m' := by
  cases h with
  | kept same stored idle => exact kept same stored idle
  | overwrote entry there same => exact overwrote entry there same
  | issued entry bounds same => exact issued entry bounds same
  | taken entry same => exact taken entry same
  | lent entry same grown stored => exact lent entry same grown stored
  | dropped entry same => exact dropped entry same

/-- No call changes which symbols are missing. -/
theorem missing {reply : Reply} (h : Change m c reply m') : m'.missing = m.missing := by
  show m'.tables.missing = m.tables.missing
  cases h with
  | kept same => rw [same]
  | overwrote _ _ same => rw [same]
  | issued _ _ same => rw [same, Tables.missing_issue]
  | taken _ same => rw [same]
  | lent _ same => rw [same]
  | dropped _ same => rw [same, Tables.missing_drop]

end Change

/-- What a call that no set-up code stands in for does to the tables. -/
theorem perform_change (m : Machine) (c : NativeCall) :
    Change m c (m.perform c).1 (m.perform c).2 := by
  cases c with
  | start => exact .ofAnswer rfl rfl rfl
  | runtimeVersion => exact .ofAnswer rfl rfl rfl
  | driverVersion => exact .ofAnswer rfl rfl rfl
  | deviceCount => exact .ofAnswer rfl rfl rfl
  | currentDevice => exact .after fun n _ => .ofAnswer rfl rfl rfl
  | setDevice => exact .onDevice (.ofAnswer rfl rfl rfl)
  | synchronize => exact .ofAnswer rfl rfl rfl
  | deviceName => exact .onDevice (.ofAnswer rfl rfl rfl)
  | totalMemory => exact .onDevice (.ofAnswer rfl rfl rfl)
  | computeCapability => exact .onDevice (.ofAnswer rfl rfl rfl)
  | deviceUuid device =>
    refine .onDevice ?_
    unfold uuidReply
    split
    · exact .ofAnswer rfl rfl rfl
    · exact .after fun b _ => .ofAnswer rfl rfl rfl
  | busId => exact .onDevice (.after fun text _ => .ofAnswer rfl rfl rfl)
  | deviceByBusId text =>
    dsimp only [perform]
    split
    · split
      · exact .ofAnswer rfl rfl rfl
      · exact .ofRefuse _ (by decide)
    · exact .ofRefuse _ (by decide)
  | deviceAttribute => exact .onDevice (.ofAnswer rfl rfl rfl)
  | peerAttribute =>
    refine .onDevice (.onDevice (.after ?_))
    intro same _
    cases same with
    | true => exact .ofRefuse _ (by decide)
    | false => exact .ofAnswer rfl rfl rfl
  | defaultPool => exact .defaultPool rfl
  | allocate n => exact .reserve n rfl rfl
  | allocateFlagged n flags =>
    dsimp only [perform]
    split
    · exact .reserve n rfl rfl
    · exact .ofRefuse _ (by decide)
  | allocateOrdered n =>
    refine .after fun known _ => ?_
    cases known with
    | true => exact .reserve n rfl rfl
    | false => exact .ofRefuse _ (by decide)
  | free a =>
    cases a with
    | none => exact .ofAnswer rfl rfl rfl
    | some h =>
      dsimp only [perform]
      split
      · exact .dropped rfl rfl
      · exact .ofRefuse _ (by decide)
  | copy => exact .copy rfl
  | fill => exact .fill rfl
  | memoryInfo =>
    dsimp only [perform]
    split <;> exact .ofAnswer rfl rfl rfl
  | streamCreate =>
    refine .issued rfl (fun h => by cases h) ?_
    simp [perform, tables, Tables.issue, Tables.next, streamCreate, answer, Table.keys, nextHandle]
  | streamDestroy a =>
    cases a with
    | none => exact .ofRefuse _ (by decide)
    | some h =>
      dsimp only [perform]
      split
      · refine .dropped rfl ?_
        simp only [tables, Tables.drop, answer, Table.keys_erase]
      · exact .ofRefuse _ (by decide)
  | streamQuery a =>
    dsimp only [perform]
    split
    · exact .kept rfl rfl fun _ _ => .inl rfl
    · exact .ofRefuse _ (by decide)
  | streamSynchronize a =>
    cases a with
    | none => exact .ofRefuse _ (by decide)
    | some h =>
      dsimp only [perform]
      split
      · exact .ofAnswer (by simp only [tables, Table.keys_set]) rfl rfl
      · exact .ofRefuse _ (by decide)
  | poolCreate props =>
    dsimp only [perform, poolCreate]
    split
    · refine .issued rfl (fun h => by cases h) ?_
      simp [tables, Tables.issue, Tables.next, answer, Table.keys, nextHandle]
    · exact .ofRefuse _ (by decide)
  | poolDestroy a =>
    cases a with
    | none => exact .ofRefuse _ (by decide)
    | some h =>
      dsimp only [perform]
      split
      · refine .dropped rfl ?_
        simp only [tables, Tables.drop, answer, Table.keys_erase]
      · exact .ofRefuse _ (by decide)
  | poolTrim a keep =>
    dsimp only [perform]
    split
    · exact .ofAnswer (by simp only [tables, Table.keys_set]) rfl rfl
    · exact .ofRefuse _ (by decide)
  | allocateFromPool n pool stream =>
    dsimp only [perform]
    split
    · refine .after fun known _ => ?_
      cases known with
      | true => exact .reserve n rfl rfl
      | false => exact .ofRefuse _ (by decide)
    · exact .ofRefuse _ (by decide)

/-- The code set up for the next call of an entry point; zero stands for none. -/
def injected (m : Machine) (e : EntryPoint) : Int := (m.pending.get? e).getD 0

theorem call_of_injected {m : Machine} {c : NativeCall} (failing : m.injected c.entryPoint ≠ 0) :
    m.call c = (.code (m.injected c.entryPoint) .nothing,
      { m with pending := m.pending.erase c.entryPoint }) := if_neg failing

theorem call_of_none {m : Machine} {c : NativeCall} (none : m.injected c.entryPoint = 0) :
    m.call c = perform { m with pending := m.pending.erase c.entryPoint } c := if_pos none

/-- **What a call does to the tables.**  A code that was set up does nothing to them. -/
theorem call_change (m : Machine) (c : NativeCall) : Change m c (m.call c).1 (m.call c).2 := by
  by_cases h : m.injected c.entryPoint = 0
  · rw [call_of_none h]
    exact (perform_change _ c).ofPending
  · rw [call_of_injected h]
    exact .kept rfl rfl fun out same => by
      injection same with code _
      exact absurd code h

end Machine
end GpuHandles
