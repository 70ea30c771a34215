import GpuHandles.Proofs.AllocationSize
import GpuHandles.Proofs.DeviceNumbers
import GpuHandles.Proofs.HeldHandles
import GpuHandles.Proofs.NumericValues
/-!
Trimming pools.

A trim is given the number of bytes to keep, and looks at its sign alone.  A negative number is
refused before any call.  Any other goes to the machine as far as it passes the library
(`Library.kept`): the machine itself takes every number, and a loaded library the low bits of a
whole one.  So a whole number below 2 ^ 64 is kept as it was given over either (`trim_gate`), and
what else gets through is kept as something that was not asked for (`trim_gate_passed`).
-/

namespace GpuHandles

namespace Machine

/-- The machine once a pool was told how many bytes to keep. -/
def withTrim (m : Machine) (key : Nat) (record : PoolRecord) (keep : Value) : Machine :=
  { m with pools := m.pools.set key { record with trimmedTo := some keep } }

/-- A trim is remembered by the pool, or there is none. -/
theorem perform_poolTrim (m : Machine) (a : Address) (keep : Value) :
    (∃ key record, a = some key ∧ m.pools.get? key = some record ∧
        m.perform (.poolTrim a keep) = (m.withTrim key record keep).answer .nothing) ∨
      at? m.pools a = none ∧ m.perform (.poolTrim a keep) = m.refuse .invalidHandle := by
  cases a with
  | none => exact .inr ⟨rfl, rfl⟩
  | some key =>
    dsimp only [perform]
    cases there : at? m.pools (some key) with
    | none => exact .inr ⟨rfl, rfl⟩
    | some record => exact .inl ⟨key, record, rfl, there, rfl⟩

/-- A call of the trim fails with the code that was set up for it, or for want of a pool. -/
theorem call_poolTrim (m : Machine) (a : Address) (keep : Value) :
    (∃ key record, a = some key ∧ m.pools.get? key = some record ∧
        m.call (.poolTrim a keep) =
          (.code 0 .nothing, (m.spend [.poolTrim]).withTrim key record keep)) ∨
      ∃ code, code ≠ 0 ∧ (code = m.injected .poolTrim ∨
          code = Status.Kind.invalidHandle.code ∧ at? m.pools a = none) ∧
        m.call (.poolTrim a keep) = (.code code .nothing, m.spend [.poolTrim]) := by
  by_cases quiet : m.injected .poolTrim = 0
  · rw [call_quiet (c := .poolTrim a keep) quiet]
    obtain ⟨key, record, rfl, there, done⟩ | ⟨nobody, refused⟩ :=
      (m.spend [.poolTrim]).perform_poolTrim a keep
    · exact .inl ⟨key, record, rfl, there, done⟩
    · exact .inr ⟨_, by decide, .inr ⟨rfl, nobody⟩, refused⟩
  · rw [call_failing (c := .poolTrim a keep) quiet]
    exact .inr ⟨_, quiet, .inl rfl, rfl⟩

end Machine

/-! ## Numbers of bytes -/

/-- A number of bytes as it is when it has passed a library, if it passes. -/
def Library.kept : Library → Value → Option Value
  | .direct, v => some v
  | .loaded .., v => v.index?.map fun n => .int (NativeCall.size n)

/-- A number below zero. -/
def Value.BelowZero (v : Value) : Prop := v.compare .below (.int 0) = .ok true

/-- A number of bytes that is not refused and is no `size_t`: it is not whole and the machine is
called as it is, or it has more than 64 bits. -/
def Value.Astray (l : Library) (v : Value) : Prop :=
  ¬v.BelowZero ∧ (l = .direct ∧ v.index? = none ∨ ∃ n, v.index? = some n ∧ 2 ^ 64 ≤ n)

namespace Value

variable {v : Value} {n : Int}

theorem IsWhole.belowZero_iff (h : v.IsWhole n) : v.BelowZero ↔ n < 0 := by
  unfold BelowZero
  rw [h.below 0, Except.ok.injEq, decide_eq_true_iff]

theorem Numeric.not_belowZero (h : v.Numeric) (other : ¬v.BelowZero) :
    v.compare .below (.int 0) = .ok false := by
  obtain ⟨q, -, compared⟩ := h.compared
  obtain ⟨-, known⟩ := compared .below 0
  unfold BelowZero at other
  rw [known] at other ⊢
  cases answer : Relation.below.holds (q.order (.plain (.int 0))) with
  | true => exact absurd (congrArg Except.ok answer) other
  | false => rfl

end Value

/-- What a whole number is when it has passed a library. -/
theorem Library.kept_whole (l : Library) {v : Value} {n : Int} (h : v.IsWhole n) :
    ∃ k, l.kept v = some k ∧ k.IsWhole (l.passed n) := by
  cases l with
  | direct => exact ⟨v, rfl, h⟩
  | loaded =>
    refine ⟨.int (NativeCall.size n), ?_, Value.isWhole_int _⟩
    show v.index?.map _ = _
    rw [h.2]
    rfl

/-- A number that is not below zero, and neither a `size_t` nor astray, does not pass the
library. -/
theorem Library.kept_none {l : Library} {v : Value} (numeric : v.Numeric) (other : ¬v.BelowZero)
    (unfit : ¬∃ n, v.index? = some n ∧ 0 ≤ n ∧ n < 2 ^ 64) (straight : ¬v.Astray l) :
    l.kept v = none := by
  have fraction : v.index? = none := by
    by_contra whole
    obtain ⟨n, whole⟩ := Option.ne_none_iff_exists'.1 whole
    have low : ¬n < 0 := mt (Value.IsWhole.belowZero_iff ⟨numeric, whole⟩).2 other
    have high : ¬2 ^ 64 ≤ n := fun long => straight ⟨other, .inr ⟨n, whole, long⟩⟩
    exact unfit ⟨n, whole, by omega, by omega⟩
  cases l with
  | direct => exact absurd ⟨other, .inl ⟨rfl, fraction⟩⟩ straight
  | loaded => exact Option.map_eq_none_iff.2 fraction

/-- What an astray number is when it has passed a library. -/
theorem Library.kept_astray {l : Library} {v : Value} (numeric : v.Numeric) (h : v.Astray l) :
    ∃ k, l.kept v = some k ∧ (l = .direct → k = v) ∧
      ∀ n, v.index? = some n → k.IsWhole (l.passed n) := by
  obtain ⟨-, ⟨rfl, fraction⟩ | ⟨n, whole, -⟩⟩ := h
  · refine ⟨v, rfl, fun _ => rfl, fun n whole => ?_⟩
    cases fraction.symm.trans whole
  · obtain ⟨k, passes, same⟩ := l.kept_whole ⟨numeric, whole⟩
    refine ⟨k, passes, ?_, ?_⟩
    · rintro rfl
      exact (Option.some.inj passes).symm
    · intro n' whole'
      cases whole.symm.trans whole'
      exact same

theorem NativeCall.arriving_poolTrim {l : Library} {v k : Value} (passes : l.kept v = some k)
    (a : Address) : Loading.arriving l (.poolTrim a v) = .ok (.poolTrim a k) := by
  cases l with
  | direct =>
    cases passes
    rfl
  | loaded =>
    obtain ⟨n, whole, rfl⟩ := Option.map_eq_some_iff.1 passes
    show poolTrim a <$> narrowWhole 2 size v = _
    unfold narrowWhole
    rw [whole]
    rfl

theorem NativeCall.arriving_poolTrim_none {l : Library} {v : Value} (stops : l.kept v = none)
    (a : Address) : Loading.arriving l (.poolTrim a v) = .error (.badArgument 2) := by
  cases l with
  | direct => cases stops
  | loaded =>
    have none := Option.map_eq_none_iff.1 stops
    show poolTrim a <$> narrowWhole 2 size v = _
    unfold narrowWhole
    rw [none]
    rfl

/-! ## The operation -/

namespace Pool

variable {w : World} {l : Library} {id : Nat} {r : Resource} {keep k : Value}

theorem trim_negative (there : w.resources[id]? = some r) (active : r.released = false)
    (negative : keep.BelowZero) :
    (trim id keep).outcome w = (.error (.negativeKeep (keep.inSentence w.name)), w) := by
  unfold trim
  rw [Action.outcome_bind_ok (Ownership.active_ok there active),
    Action.outcome_bind_ok (Action.outcome_get w), negative,
    Action.outcome_bind_ok (Action.outcome_ofExcept (.ok true) w)]
  rfl

theorem trim_asks (there : w.resources[id]? = some r) (active : r.released = false)
    (numeric : keep.Numeric) (other : ¬keep.BelowZero) : (trim id keep).outcome w =
      (discard (Loading.request (.poolTrim r.payload.address keep))).outcome w := by
  unfold trim
  rw [Action.outcome_bind_ok (Ownership.active_ok there active),
    Action.outcome_bind_ok (Action.outcome_get w), numeric.not_belowZero other,
    Action.outcome_bind_ok (Action.outcome_ofExcept (.ok false) w)]
  rfl

/-- How a trim ends that asks the machine to keep some number of bytes: its entry point is missing,
or there is one call, with exactly that number.  The pool remembers the number, or the call fails
and nothing has changed; a code that no `int` holds may come back as success. -/
inductive TrimEnd (w : World) (l : Library) (a : Address) (kept : Value) :
    Except Fault Value → World → Prop
  | missing {w' : World} (absent : Loading.Absent w .poolTrim)
      (way : Passage w w' w.machine w.resources []) :
      TrimEnd w l a kept (.error (.undefinedSymbol EntryPoint.poolTrim.name)) w'
  | failed {code : Int} {w' : World} (failure : code ≠ 0)
      (cause : code = w.machine.injected .poolTrim ∨
        code = Status.Kind.invalidHandle.code ∧ Machine.at? w.machine.pools a = none)
      (way : Passage w w' (w.machine.spend [.poolTrim]) w.resources [(.poolTrim a kept, code)]) :
      TrimEnd w l a kept ((Loading.checked l (.code code .nothing)).map fun _ => .null) w'
  | trimmed {key : Nat} {record : PoolRecord} {w' : World} (address : a = some key)
      (there : w.machine.pools.get? key = some record)
      (way : Passage w w' ((w.machine.spend [.poolTrim]).withTrim key record kept) w.resources
        [(.poolTrim a kept, 0)]) :
      TrimEnd w l a kept (.ok .null) w'

/-- A trim of a pool that the machine knows, with nothing in its way, is remembered by the pool. -/
theorem TrimEnd.recorded {key : Nat} {kept : Value} {result : Except Fault Value} {w' : World}
    (h : TrimEnd w l (some key) kept result w')
    (known : ∃ record, w.machine.pools.get? key = some record)
    (present : ¬Loading.Absent w .poolTrim) (quiet : w.machine.injected .poolTrim = 0) :
    result = .ok .null ∧ (w'.machine.pools.get? key).bind PoolRecord.trimmedTo = some kept := by
  obtain ⟨record, known⟩ := known
  cases h with
  | missing absent => exact absurd absent present
  | failed failure cause =>
    rcases cause with injected | ⟨-, none⟩
    · exact absurd (injected.trans quiet) failure
    · cases known.symm.trans none
  | trimmed address there way =>
    cases address
    refine ⟨rfl, ?_⟩
    rw [way.machine]
    show ((w.machine.pools.set _ _).get? _).bind _ = _
    rw [Table.get?_set, if_pos rfl, there]
    rfl

theorem trim_ends (installed : w.library = some l) (there : w.resources[id]? = some r)
    (active : r.released = false) (numeric : keep.Numeric) (other : ¬keep.BelowZero)
    (passes : l.kept keep = some k) : TrimEnd w l r.payload.address k
      ((Operation.silent (trim id keep)).outcome w).1
      ((Operation.silent (trim id keep)).outcome w).2 := by
  rw [Operation.silent_outcome, trim_asks there active numeric other, Action.outcome_discard]
  obtain ⟨absent, w', way, ended⟩ | ⟨w', way, ended⟩ := Loading.request_arriving installed
    (NativeCall.arriving_poolTrim passes r.payload.address)
  · rw [ended]
    exact .missing absent way
  · rw [ended]
    obtain ⟨key, record, address, known, done⟩ | ⟨code, failure, cause, failed⟩ :=
      w.machine.call_poolTrim r.payload.address k
    · rw [done] at way ⊢
      rw [Loading.checked_zero]
      exact .trimmed address known way
    · rw [failed] at way ⊢
      have once (x : Except Fault Output) :
          (x.map fun _ => PUnit.unit).map (fun _ => Value.null) = x.map fun _ => .null := by
        cases x <;> rfl
      dsimp only
      rw [once]
      exact .failed failure cause way

theorem trim_stopped (installed : w.library = some l) (there : w.resources[id]? = some r)
    (active : r.released = false) (numeric : keep.Numeric) (other : ¬keep.BelowZero)
    (stops : l.kept keep = none) :
    ∃ f w', (Operation.silent (trim id keep)).outcome w = (.error f, w') ∧
      Passage w w' w.machine w.resources [] := by
  rw [Operation.silent_outcome, trim_asks there active numeric other, Action.outcome_discard]
  have refused := NativeCall.arriving_poolTrim_none stops r.payload.address
  obtain ⟨f, w', way, -, ended⟩ | ⟨c, w', arrived, -, -⟩ :=
    Loading.request_cases installed (.poolTrim r.payload.address keep)
  · rw [ended]
    exact ⟨f, w', rfl, way⟩
  · cases refused.symm.trans arrived

end Pool

open Pool in
/-- **The gate of a trim**, at any time in a session over any library, for a pool that is made and
not released.  The machine has a record of the pool, if it has a handle.  A whole number below
2 ^ 64 that is not negative is kept exactly as it was given, with one native call, if any.  Every
other number is refused with no call and no change, but for two kinds: the machine itself keeps any
number that is not below zero, and a loaded library keeps the low 64 bits of a whole one. -/
theorem trim_gate (host : Host) (m : Machine) {l l' : Library} (ts : List Turn) {id : Nat}
    {a : Address} {p : PoolProps} {keep : Value}
    (installed : ((World.opening host m l').after ts).library = some l)
    (there : ((World.opening host m l').after ts).resources[id]? =
      some (.owning (.pool a (some p))))
    (numeric : keep.Numeric) :
    let w := (World.opening host m l').after ts
    let ended := (Operation.trimPool id keep).perform.outcome w
    (∀ h, a = some h → ∃ record, w.machine.pools.get? h = some record) ∧
      (∀ n, keep.index? = some n → 0 ≤ n → n < 2 ^ 64 →
        ∃ k, k.IsWhole n ∧ TrimEnd w l a k ended.1 ended.2 ∧
          ∀ h, a = some h → ¬Loading.Absent w .poolTrim → w.machine.injected .poolTrim = 0 →
            ended.1 = .ok .null ∧
              (ended.2.machine.pools.get? h).bind PoolRecord.trimmedTo = some k) ∧
      ((¬∃ n, keep.index? = some n ∧ 0 ≤ n ∧ n < 2 ^ 64) → ¬keep.Astray l →
        (∃ f, ended.1 = .error f) ∧ Passage w ended.2 w.machine w.resources [] ∧
          (keep.BelowZero → ended = (.error (.negativeKeep (keep.inSentence w.name)), w))) ∧
      (keep.Astray l → ∃ k, TrimEnd w l a k ended.1 ended.2 ∧
        (l = .direct → k = keep) ∧ ∀ n, keep.index? = some n → k.IsWhole (l.passed n)) := by
  intro w ended
  have run : ended = (Operation.silent (trim id keep)).outcome w := rfl
  clear_value ended
  subst run
  have known (h : Nat) (address : a = some h) : ∃ record, w.machine.pools.get? h = some record := by
    have present := World.present_after (.nil _ rfl) (orderly_opening host m l') ts
    have key : h ∈ w.machine.pools.keys :=
      present.held _ (List.mem_of_getElem? there) rfl rfl h address
    rwa [← Table.has_iff_mem_keys, Table.has_eq_isSome_get?, Option.isSome_iff_exists] at key
  have ends {k : Value} (other : ¬keep.BelowZero) (passes : l.kept keep = some k) :
      TrimEnd w l a k ((Operation.silent (trim id keep)).outcome w).1
        ((Operation.silent (trim id keep)).outcome w).2 :=
    trim_ends installed there rfl numeric other passes
  refine ⟨known, ?_, ?_, ?_⟩
  · intro n whole low high
    have spelled : keep.IsWhole n := ⟨numeric, whole⟩
    obtain ⟨k, passes, same⟩ := l.kept_whole spelled
    have ended := ends (mt spelled.belowZero_iff.1 (by omega)) passes
    rw [(l.passed_eq_iff low).2 (.inr high)] at same
    refine ⟨k, same, ended, fun h address present quiet => ?_⟩
    subst address
    exact ended.recorded (known h rfl) present quiet
  · intro unfit straight
    by_cases negative : keep.BelowZero
    · rw [Operation.silent_outcome, trim_negative there rfl negative]
      exact ⟨⟨_, rfl⟩, .refl w, fun _ => rfl⟩
    · obtain ⟨f, w', ended, way⟩ := trim_stopped installed there rfl numeric negative
        (Library.kept_none numeric negative unfit straight)
      rw [ended]
      exact ⟨⟨f, rfl⟩, way, fun below => absurd below negative⟩
  · intro astray
    obtain ⟨k, passes, same⟩ := Library.kept_astray numeric astray
    exact ⟨k, ends astray.1 passes, same⟩

/-- A pool that is to keep four kilobytes, over a loaded library. -/
theorem trim_gate_kept :
    let made := [Turn.operate (.createPool .null) rfl]
    let w := (World.opening .bare .fresh (.loaded none [])).after made
    let ended := (Operation.trimPool 0 (.int 4096)).perform.outcome w
    ∃ k, k.IsWhole 4096 ∧ ended.1 = .ok .null ∧
      (ended.2.machine.pools.get? 0x7f0000001000).bind PoolRecord.trimmedTo = some k := by
  intro made w ended
  have there : w.resources[0]? = some (.owning (.pool (some 0x7f0000001000) (some .standard))) := rfl
  have numeric : (Value.int 4096).Numeric := trivial
  obtain ⟨-, kept, -⟩ := trim_gate .bare .fresh made rfl there numeric
  obtain ⟨k, same, -, recorded⟩ := kept 4096 rfl (by decide) (by decide)
  exact ⟨k, same, recorded _ rfl Bool.false_ne_true rfl⟩

/-- A pool over a loaded library that is to keep 2 ^ 64 bytes keeps none, and the machine itself is
told to keep two and a half; neither is refused. -/
theorem trim_gate_passed :
    let made := [Turn.operate (.createPool .null) rfl]
    let w := (World.opening .bare .fresh (.loaded none [])).after made
    let v := (World.opening .bare .fresh .direct).after made
    let half := Value.float (.finite false 5 (-1))
    let ended := (Operation.trimPool 0 (.int 18446744073709551616)).perform.outcome w
    let ended' := (Operation.trimPool 0 half).perform.outcome v
    half.Numeric ∧ half.index? = none ∧
      ended.1 = .ok .null ∧ ended'.1 = .ok .null ∧
      calls (ended.2.trace.drop w.trace.length) = [(.poolTrim (some 0x7f0000001000) (.int 0), 0)] ∧
      calls (ended'.2.trace.drop v.trace.length) = [(.poolTrim (some 0x7f0000001000) half, 0)] ∧
      ended.2.machine.pools.map (fun e => e.2.trimmedTo) = [some (.int 0)] ∧
      ended'.2.machine.pools.map (fun e => e.2.trimmedTo) = [some half] :=
  ⟨trivial, rfl, rfl, rfl, rfl, rfl, rfl, rfl⟩

end GpuHandles
