import GpuHandles.Proofs.Apart
/-!
The size that an allocation is recorded with.

An allocation keeps the size that was asked for, and the machine allots the size that arrives.
Called as it is, the machine gets the size itself; through a loaded library it gets the low 64
bits of it (`Library.passed`).  So the recorded size is the length of the memory behind the
handle for every size up to 64 bits, and a longer size, which is refused nowhere on its way, is
recorded over less memory (`recorded_size`).
-/

namespace GpuHandles

/-- A size as it is when it has passed a library. -/
def Library.passed : Library → Int → Int
  | .direct, n => n
  | .loaded .., n => NativeCall.size n

/-- The number of bytes behind an address; there are none behind null. -/
def Machine.bytesBehind (m : Machine) (a : Address) : Nat :=
  ((at? m.allocations a).map List.length).getD 0

namespace Library

variable {l l' : Library}

theorem passed_of_file (same : l.file = l'.file) : l.passed = l'.passed := by
  cases l <;> cases l' <;> first | rfl | cases same

theorem passed_nonneg (l : Library) {n : Int} (h : 0 ≤ n) : 0 ≤ l.passed n := by
  cases l with
  | direct => exact h
  | loaded => exact Int.natCast_nonneg _

/-- What passes a library unchanged. -/
theorem passed_eq_iff (l : Library) {n : Int} (h : 0 ≤ n) :
    l.passed n = n ↔ l = .direct ∨ n < 2 ^ 64 := by
  cases l with
  | direct => exact ⟨fun _ => .inl rfl, fun _ => rfl⟩
  | loaded path found =>
    have low : (loaded path found).passed n = n % 2 ^ 64 := by
      show ((n % (2 ^ 64 : Nat)).toNat : Int) = _
      omega
    rw [low]
    constructor
    · intro kept
      right
      omega
    · rintro (direct | short)
      · cases direct
      · omega

end Library

theorem NativeCall.requested_narrow {c c' : NativeCall} (h : c.narrow = .ok c') :
    c'.requested = NativeCall.size c.requested := by
  cases c with
  | setDevice | deviceName | totalMemory | computeCapability | deviceUuid | busId
  | deviceAttribute | defaultPool | poolTrim | allocateOrdered | allocateFromPool =>
    obtain ⟨_, _, rfl⟩ := map_ok h
    rfl
  | copy =>
    obtain ⟨_, _, h⟩ := bind_ok h
    cases h
    rfl
  | peerAttribute | fill =>
    obtain ⟨_, _, h⟩ := bind_ok h
    obtain ⟨_, _, h⟩ := bind_ok h
    cases h
    rfl
  | _ =>
    cases h
    rfl

theorem Loading.requested_arriving {l : Library} {c c' : NativeCall}
    (h : arriving l c = .ok c') : c'.requested = l.passed c.requested := by
  cases l with
  | direct => cases h; rfl
  | loaded => exact NativeCall.requested_narrow h

theorem Loading.returning_code (l : Library) (k : Status.Kind) : returning l k.code = k.code :=
  returning_of_fits l (by cases k <;> decide) (by cases k <;> decide)

theorem Memory.validSize_nonneg {v : Value} {n : Int} (h : validSize v = .ok n) : 0 ≤ n := by
  unfold validSize at h
  dsimp only at h
  split at h
  · split at h
    · cases h
    · cases h
      omega
  · cases h

/-! ## The counter of handles -/

namespace Tables.Counted

variable {m m' : Machine} {c : NativeCall} {reply : Reply}

theorem change (h : m.tables.Counted) (change : Machine.Change m c reply m') :
    m'.tables.Counted := change.counted .pointer h

/-- **The counter is ahead all through a session.** -/
theorem after {w : World} (orderly : Orderly w) (h : w.machine.tables.Counted) (ts : List Turn) :
    (w.after ts).machine.tables.Counted :=
  World.keeps_after orderly (fun m c counted => counted.change (Machine.call_change m c)) h ts

end Tables.Counted

/-- The file behind the library stays the same all through a session. -/
theorem World.file_after {w : World} (orderly : Orderly w) (ts : List Turn) :
    (w.after ts).library.map Library.file = w.library.map Library.file := by
  induction ts generalizing w with
  | nil => rfl
  | cons t ts ih =>
    obtain ⟨⟨_, _, way⟩, _⟩ := t.calls_cases orderly
    exact (ih (t.orderly orderly)).trans way.library

/-! ## Memory from the machine -/

namespace Machine

variable {m : Machine} {c : NativeCall}

/-- A call that makes memory fails before the memory, or reserves what it asks for. -/
theorem perform_memory (m : Machine) (makes : c.entryPoint.makes? = some (.pointer, true)) :
    (∃ f, m.perform c = (.fault f, m)) ∨ (∃ k, k ≠ .success ∧ m.perform c = m.refuse k) ∨
      m.perform c = m.reserve c.requested := by
  have streamed (stream : Value) :
      (∃ f, (m.after (m.isStream stream) fun known =>
        if known then m.reserve c.requested else m.refuse .invalidHandle) = (.fault f, m)) ∨
      (∃ k, k ≠ .success ∧ (m.after (m.isStream stream) fun known =>
        if known then m.reserve c.requested else m.refuse .invalidHandle) = m.refuse k) ∨
      (m.after (m.isStream stream) fun known =>
        if known then m.reserve c.requested else m.refuse .invalidHandle) =
          m.reserve c.requested := by
    cases m.isStream stream with
    | error f => exact .inl ⟨f, rfl⟩
    | ok known =>
      cases known with
      | true => exact .inr (.inr rfl)
      | false => exact .inr (.inl ⟨.invalidHandle, nofun, rfl⟩)
  cases c with
  | allocate n => exact .inr (.inr rfl)
  | allocateFlagged n flags =>
    dsimp only [perform]
    split
    · exact .inr (.inr rfl)
    · exact .inr (.inl ⟨.invalidValue, nofun, rfl⟩)
  | allocateOrdered n stream => exact streamed stream
  | allocateFromPool n pool stream =>
    dsimp only [perform]
    split
    · exact streamed stream
    · exact .inr (.inl ⟨.invalidHandle, nofun, rfl⟩)
  | _ => cases makes

/-- The memory that is reserved: none for no bytes, and otherwise as many as asked for. -/
theorem reserve_bytes {l : Library} {n : Int} {code : Int} {out : Output}
    (counted : m.tables.Counted) (reply : (m.reserve n).1 = .code code out)
    (success : Loading.returning l code = 0) :
    (m.reserve n).2.bytesBehind out.storedAddress = n.toNat ∧
      (out.storedAddress = none ↔ n = 0) := by
  unfold reserve at reply ⊢
  by_cases empty : n = 0
  · rw [if_pos empty] at reply ⊢
    cases reply
    simp [bytesBehind, at?, Output.storedAddress, empty]
  · rw [if_neg empty] at reply ⊢
    by_cases full : m.freeMemory < n
    · rw [if_pos full] at reply
      cases reply
      rw [Loading.returning_code] at success
      cases success
    · rw [if_neg full] at reply ⊢
      unfold placeZeros at reply ⊢
      cases made : bufferFault? n with
      | some f =>
        rw [made] at reply
        cases reply
      | none =>
        rw [made] at reply
        cases reply
        have fresh : m.allocations.get? m.nextHandle = none := counted.get?_next
        simp [bytesBehind, at?, Output.storedAddress, Table.get?_append, fresh, Table.get?_cons,
          empty, answer]

/-- A call that makes memory and succeeds, without a failure set up for it. -/
theorem call_memory {l : Library} {code : Int} {out : Output} (counted : m.tables.Counted)
    (makes : c.entryPoint.makes? = some (.pointer, true)) (calm : m.injected c.entryPoint = 0)
    (reply : (m.call c).1 = .code code out) (success : Loading.returning l code = 0) :
    (m.call c).2.bytesBehind out.storedAddress = c.requested.toNat ∧
      (out.storedAddress = none ↔ c.requested = 0) := by
  rw [call_of_none calm] at reply ⊢
  obtain ⟨f, fault⟩ | ⟨k, failure, refused⟩ | reserved := perform_memory _ makes
  · rw [fault] at reply
    cases reply
  · rw [refused] at reply
    cases reply
    rw [Loading.returning_code] at success
    cases k with
    | success => exact absurd rfl failure
    | _ => cases success
  · rw [reserved] at reply ⊢
    exact reserve_bytes counted reply success

end Machine

/-! ## Allocations -/

/-- What comes first only reads, and the sequence ends with a value. -/
theorem Action.ok_of_reading {α β : Type} {a : Action α} {f : α → Action β} {w w' : World} {v : β}
    (same : ∀ w, (a.outcome w).2 = w) (run : (a >>= f).outcome w = (.ok v, w')) :
    ∃ x, (f x).outcome w = (.ok v, w') := by
  have world := same w
  rw [outcome_bind] at run
  rcases first : a.outcome w with ⟨_ | x, w₁⟩
  · rw [first] at run
    cases run
  · rw [first] at run world
    cases world
    exact ⟨x, run⟩

namespace Memory

theorem handleOf_world (stream : Value) (w : World) : ((handleOf stream).outcome w).2 = w := by
  unfold handleOf
  split
  next id _ =>
    rw [Action.outcome_bind, Ownership.active_outcome]
    split <;> simp_all
  next => rw [Action.outcome_ofExcept]

variable {l : Library} {w w' : World} {v : Value}

/-- An allocation that ends with a value: the call that was made, and the resource for it. -/
theorem allocateBy_ok {call : Int → NativeCall} {size : Value} (installed : w.library = some l)
    (run : (allocateBy call size).outcome w = (.ok v, w')) :
    ∃ n c code out, validSize size = .ok n ∧ Loading.arriving l (call n) = .ok c ∧
      (w.machine.call c).1 = .code code out ∧ Loading.returning l code = 0 ∧
      w'.machine = (w.machine.call c).2 ∧ v = .handle w.resources.length .pointer ∧
      w'.resources = w.resources ++ [.owning (.pointer out.storedAddress (.int n))] := by
  unfold allocateBy at run
  cases valid : validSize size with
  | error f =>
    rw [valid, Action.outcome_bind_error (Action.outcome_ofExcept _ w)] at run
    cases run
  | ok n =>
    rw [valid, Action.outcome_bind_ok (Action.outcome_ofExcept (.ok n) w)] at run
    obtain ⟨f, _, _, _, ended⟩ | ⟨c, w₁, arrived, way, ended⟩ :=
      Loading.request_cases installed (call n)
    · rw [Action.outcome_bind_error ended] at run
      cases run
    · obtain ⟨f, error, _⟩ | ⟨code, out, reply, success, ok⟩ :=
        Loading.checked_cases l (w.machine.call c).1
      · rw [error] at ended
        rw [Action.outcome_bind_error ended] at run
        cases run
      · rw [ok] at ended
        rw [Action.outcome_bind_ok ended] at run
        cases run
        refine ⟨n, c, code, out, rfl, arrived, reply, success, way.machine, ?_, ?_⟩
        · exact congrArg (Value.handle ·.length .pointer) way.resources
        · exact congrArg (· ++ _) way.resources

end Memory

/-- An operation that asks for memory and ends with a value has allocated by one of the entry
points that take a size. -/
theorem Operation.asked_ok {op : Operation} {size v : Value} {w w' : World}
    (asked : op.asked? = some size) (run : op.perform.outcome w = (.ok v, w')) :
    ∃ call : Int → NativeCall, (∀ n, (call n).entryPoint ∈ op.entries ∧
        (call n).entryPoint.makes? = some (.pointer, true) ∧ (call n).requested = n) ∧
      (Memory.allocateBy call size).outcome w = (.ok v, w') := by
  cases op with
  | allocate =>
    cases asked
    exact ⟨.allocate, fun n => ⟨.head _, rfl, rfl⟩, run⟩
  | allocateFlagged _ flags =>
    cases asked
    obtain ⟨k, run⟩ := Action.ok_of_reading (fun w => congrArg Prod.snd
      (Action.outcome_ofExcept flags.toWhole w)) run
    exact ⟨_, fun n => ⟨.head _, rfl, rfl⟩, run⟩
  | allocateOrdered _ stream =>
    cases asked
    obtain ⟨handle, run⟩ := Action.ok_of_reading (Memory.handleOf_world stream) run
    exact ⟨_, fun n => ⟨.head _, rfl, rfl⟩, run⟩
  | allocateFromPool id _ stream =>
    cases asked
    obtain ⟨pool, run⟩ := Action.ok_of_reading
      (fun w => congrArg Prod.snd (Ownership.active_outcome id w)) run
    obtain ⟨handle, run⟩ := Action.ok_of_reading (Memory.handleOf_world stream) run
    exact ⟨_, fun n => ⟨.head _, rfl, rfl⟩, run⟩
  | _ => cases asked

/-- **The memory behind a pointer**, at any time in a session over any library, as long as no
failure is set up for the call: the size is recorded as it was asked for, and there are as many
bytes behind the handle as were left of it when it had passed the library.  These are the same
if and only if the machine is called as it is, or the size has no more than 64 bits. -/
theorem recorded_size (host : Host) (m : Machine) (l : Library) (ts : List Turn) (op : Operation)
    (size v : Value) (w' : World) (asked : op.asked? = some size)
    (calm : ∀ e ∈ op.entries, ((World.opening host m l).after ts).machine.injected e = 0)
    (run : op.perform.outcome ((World.opening host m l).after ts) = (.ok v, w')) :
    let w := (World.opening host m l).after ts
    ∃ (n : Int) (a : Address), Memory.validSize size = .ok n ∧
      v = .handle w.resources.length .pointer ∧
      w'.resources = w.resources ++ [.owning (.pointer a (.int n))] ∧
      (w'.machine.bytesBehind a : Int) = l.passed n ∧ (a = none ↔ l.passed n = 0) ∧
      ((w'.machine.bytesBehind a : Int) = n ↔ l = .direct ∨ n < 2 ^ 64) := by
  intro w
  have orderly : Orderly w := World.orderly_after (orderly_opening host m l) ts
  have counted : w.machine.tables.Counted :=
    .after (orderly_opening host m l) (by intro k hk; cases hk) ts
  obtain ⟨l', installed⟩ := Option.isSome_iff_exists.1 orderly.installed
  have same : l'.passed = l.passed := by
    have file := World.file_after (orderly_opening host m l) ts
    rw [installed] at file
    exact Library.passed_of_file (Option.some.inj file)
  obtain ⟨call, kind, run⟩ := Operation.asked_ok asked run
  obtain ⟨n, c, code, out, valid, arrived, reply, success, machine, value, resources⟩ :=
    Memory.allocateBy_ok installed run
  have nonneg : 0 ≤ l.passed n := l.passed_nonneg (Memory.validSize_nonneg valid)
  have requested : c.requested = l.passed n := by
    rw [Loading.requested_arriving arrived, (kind n).2.2, same]
  have entry := (Loading.arriving_keeps arrived).1
  obtain ⟨bytes, null⟩ := Machine.call_memory counted (entry ▸ (kind n).2.1)
    (calm _ (entry ▸ (kind n).1)) reply success
  rw [requested] at bytes null
  have behind : (w'.machine.bytesBehind out.storedAddress : Int) = l.passed n := by
    rw [machine, bytes]
    omega
  refine ⟨n, out.storedAddress, valid, value, resources, behind, null, ?_⟩
  rw [behind]
  exact l.passed_eq_iff (Memory.validSize_nonneg valid)

theorem recorded_size_loaded :
    let w := World.opening .bare .fresh (.loaded none [])
    let w' := ((Operation.allocate (.int 4096)).perform.outcome w).2
    ∃ a, w'.resources = [.owning (.pointer a (.int 4096))] ∧ w'.machine.bytesBehind a = 4096 := by
  intro w w'
  obtain ⟨n, a, valid, _, resources, _, _, whole⟩ :=
    recorded_size .bare .fresh (.loaded none []) [] (.allocate (.int 4096)) (.int 4096)
      (.handle 0 .pointer) w' rfl (fun _ _ => rfl) rfl
  have given : Memory.validSize (.int 4096) = .ok 4096 := rfl
  obtain rfl : 4096 = n := Except.ok.inj (given.symm.trans valid)
  have bytes := whole.2 (.inr (by decide))
  exact ⟨a, resources, by omega⟩

/-- A size of 65 bits over a loaded library: it is recorded as it is, over sixteen bytes. -/
theorem recorded_size_exceeds :
    let w := World.opening .bare .fresh (.loaded none [])
    let out := (Operation.allocate (.int (2 ^ 64 + 16))).perform.outcome w
    out.1 = .ok (.handle 0 .pointer) ∧ ∃ a,
      out.2.resources = [.owning (.pointer a (.int (2 ^ 64 + 16)))] ∧
      out.2.machine.bytesBehind a = 16 := by
  refine ⟨rfl, some 0x7f0000001000, rfl, rfl⟩

end GpuHandles
