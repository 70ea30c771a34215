import GpuHandles.Proofs.DeviceBytes
import GpuHandles.Proofs.NumericValues
/-!
The gate of a fill.

A fill is given a value and a size.  The value is let through by two comparisons, with 0 and with
255, and no look at its kind; the size by its kind, its sign and the length of the allocation.
Where the value is a whole number, this is a gate for bytes (`inByteRange_iff`), and the machine is
called with a byte and a size that fits, or not at all (`fill_gate`).  Numbers that are not whole
pass it as well (`Stray`): the machine gets them and finds out itself (`fill_gate_passed`).
-/

namespace GpuHandles

namespace Value

/-- A value that the two comparisons of a fill let through. -/
def InByteRange (v : Value) : Prop :=
  (int 0).compare .atMost v = .ok true ∧ v.compare .atMost (int 255) = .ok true

/-- A number from 0 to 255 that is not a whole number by kind. -/
def Stray (v : Value) : Prop := v.index? = none ∧ v.InByteRange

/-- A whole number by kind, and no truth value. -/
def IsCount : Value → Nat → Prop
  | int n, k => n = k
  | scalar t _ n, k => t.isWhole = true ∧ n.whole? = some (k : Int)
  | member e m, k => e.isNumeric = true ∧ m.constant = .number k
  | _, _ => False

/-- The number of bytes that a size stands for, of an allocation of `n`: all of them for none. -/
def Spans (size : Value) (n k : Nat) : Prop := size = null ∧ k = n ∨ size.IsCount k

variable {v : Value} {b : Int}

/-- For whole numbers, the two comparisons say that it is a byte. -/
theorem Numeric.inByteRange_iff (h : v.Numeric) (whole : v.index? = some b) :
    v.InByteRange ↔ 0 ≤ b ∧ b < 256 := by
  obtain ⟨q, known, compared⟩ := h.compared
  unfold InByteRange
  rw [(compared .atMost 0).1, (compared .atMost 255).2, (h.order_whole whole known 0).1,
    (h.order_whole whole known 255).2, Except.ok.injEq, Except.ok.injEq, atMost_iff, atMost_iff]
  omega

end Value

/-! ## In the machine -/

namespace Machine

variable {m : Machine} {a : Address} {value : Value} {b : UInt8} {k : Nat}

theorem byteOf_index (byte : value.index? = some (b.toNat : Int)) : byteOf value = .ok b := by
  have small := b.toNat_lt
  have same : byteOf value = byteOf (.int b.toNat) := by
    unfold byteOf Value.toIndex
    rw [byte]
    rfl
  rw [same, byteOf_byte ⟨by omega, by omega⟩, Int.toNat_natCast, UInt8.ofNat_toNat]

theorem byteOf_stray (stray : value.index? = none) : ∃ f, byteOf value = .error f := by
  obtain ⟨f, index⟩ : ∃ f, value.toIndex = .error f := by
    unfold Value.toIndex
    rw [stray]
    split
    next known => cases known
    · exact ⟨_, rfl⟩
    · exact ⟨_, rfl⟩
  exact ⟨f, by unfold byteOf; rw [index]; rfl⟩

theorem lt_of_not_backs (some_bytes : k ≠ 0) (short : ¬m.Backs a k) : (m.behind a).length < k := by
  cases a with
  | none => exact Nat.pos_of_ne_zero some_bytes
  | some key =>
    cases there : m.allocations.get? key with
    | none =>
      unfold behind at?
      rw [Option.bind_some, there]
      exact Nat.pos_of_ne_zero some_bytes
    | some buffer =>
      rw [behind_some there]
      exact Nat.not_le.1 fun fits => short ⟨key, buffer, rfl, there, fits⟩

theorem fill_short (short : ¬m.Backs a k) : m.fill a value (.int k) = m.refuse .invalidValue := by
  unfold fill
  split
  next key buffer there =>
    rw [after_holds, if_neg fun fits => short ⟨key, buffer, rfl, there, fits⟩]
  next => rfl

/-- A fill with a byte puts it over the first bytes, or it fails with the code that was set up for
it, or because there are not as many bytes, and no table is changed. -/
theorem fill_reply (m : Machine) (a : Address) (some_bytes : k ≠ 0)
    (byte : value.index? = some (b.toNat : Int)) :
    (k ≤ (m.behind a).length ∧ (m.call (.fill a value (.int k))).1 = .code 0 .nothing ∧
        m.Overwrites (m.call (.fill a value (.int k))).2 a (List.replicate k b)) ∨
      ∃ code, code ≠ 0 ∧ (code = m.injected .fill ∨
          code = Status.Kind.invalidValue.code ∧ (m.behind a).length < k) ∧
        (m.call (.fill a value (.int k))).1 = .code code .nothing ∧
        (m.call (.fill a value (.int k))).2.tables = m.tables := by
  by_cases quiet : m.injected .fill = 0
  · have run : m.call (.fill a value (.int k)) = (m.spend [.fill]).fill a value (.int k) :=
      call_quiet (c := .fill a value (.int k)) quiet
    by_cases live : m.Backs a k
    · obtain ⟨key, buffer, rfl, there, fits⟩ := live
      have success : (m.call (.fill (some key) value (.int k))).1 = .code 0 .nothing := by
        rw [run, fill_fits (m := m.spend [.fill]) value there fits, byteOf_index byte]
        rfl
      obtain ⟨b', same, wrote⟩ := call_fill success
      rw [byteOf_index byte] at same
      cases same
      exact .inl ⟨by rwa [behind_some there], success, wrote⟩
    · rw [run, fill_short (m := m.spend [.fill]) live]
      exact .inr ⟨_, by decide, .inr ⟨rfl, lt_of_not_backs some_bytes live⟩, rfl, rfl⟩
  · rw [call_failing (c := .fill a value (.int k)) quiet]
    exact .inr ⟨_, quiet, .inl rfl, rfl, rfl⟩

end Machine

/-! ## The operation -/

namespace Memory

variable {w : World} {id n k : Nat} {r : Resource} {value size : Value} {b : UInt8}

theorem checkByte_passed (passes : value.InByteRange) (w : World) :
    (checkByte value).outcome w = (.ok (), w) := by
  unfold checkByte
  rw [Action.outcome_bind_ok (Action.outcome_get w), passes.1,
    Action.outcome_bind_ok (Action.outcome_ofExcept (.ok true) w), if_pos rfl, passes.2]
  rfl

theorem checkByte_refused (numeric : value.Numeric) (outside : ¬value.InByteRange) (w : World) :
    (checkByte value).outcome w = (.error (.notByte (value.inSentence w.name)), w) := by
  obtain ⟨q, -, compared⟩ := numeric.compared
  obtain ⟨low, -⟩ := compared .atMost 0
  obtain ⟨-, high⟩ := compared .atMost 255
  unfold checkByte
  rw [Action.outcome_bind_ok (Action.outcome_get w), low,
    Action.outcome_bind_ok (Action.outcome_ofExcept (.ok _) w)]
  cases enough : Relation.atMost.holds ((Quantity.plain (.int 0)).order q) with
  | false => rfl
  | true =>
    have above : Relation.atMost.holds (q.order (.plain (.int 255))) = false := by
      refine Bool.eq_false_iff.2 fun fits => outside ?_
      unfold Value.InByteRange
      rw [low, high, enough, fits]
      exact ⟨rfl, rfl⟩
    rw [if_pos rfl, high, above]
    rfl

/-- A size says how many bytes are to be filled, or it is refused for its sign or its kind. -/
theorem filled_or_refused (size : Value) (n : Nat) : (∃ k, Filled size n k) ∨
    ∃ f, size ≠ .null ∧ validSize size = .error f ∧
      (f.kind = "ValueError" ∨ f.kind = "TypeError") := by
  by_cases whole : size = .null
  · exact .inl ⟨n, .inl ⟨whole, rfl⟩⟩
  · cases valid : validSize size with
    | ok m =>
      obtain ⟨k, rfl⟩ := Int.eq_ofNat_of_zero_le (validSize_index valid).2
      exact .inl ⟨k, .inr valid⟩
    | error f =>
      refine .inr ⟨f, whole, rfl, ?_⟩
      unfold validSize at valid
      dsimp only at valid
      split at valid
      · split at valid
        · cases valid
          exact .inl rfl
        · cases valid
      · cases valid
        exact .inr rfl

/-- A fill whose value and size are let through. -/
theorem fill_sized (there : w.resources[id]? = some r) (active : r.released = false)
    (length : r.payload.size = .int n) (passes : value.InByteRange) (filled : Filled size n k) :
    (fill id value size).outcome w = (fillTo r value (.int k)).outcome w := by
  unfold fill
  rw [Action.outcome_bind_ok (Ownership.active_ok there active),
    Action.outcome_bind_ok (checkByte_passed passes w)]
  dsimp only
  obtain ⟨rfl, rfl⟩ | valid := filled
  · rw [← length]
    rfl
  · have given :
        (Value.int <$> Action.ofExcept (validSize size)).outcome w = (.ok (.int k), w) := by
      rw [Action.outcome_map, Action.outcome_ofExcept, valid]
      rfl
    cases size with
    | null => cases valid
    | _ => exact Action.outcome_bind_ok given

/-- A fill whose size is refused. -/
theorem fill_unsized {f : Fault} (there : w.resources[id]? = some r) (active : r.released = false)
    (passes : value.InByteRange) (given : size ≠ .null) (refused : validSize size = .error f) :
    (fill id value size).outcome w = (.error f, w) := by
  unfold fill
  rw [Action.outcome_bind_ok (Ownership.active_ok there active),
    Action.outcome_bind_ok (checkByte_passed passes w)]
  dsimp only
  have fault : (Value.int <$> Action.ofExcept (validSize size)).outcome w = (.error f, w) := by
    rw [Action.outcome_map, Action.outcome_ofExcept, refused]
    rfl
  cases size with
  | null => exact absurd rfl given
  | _ => exact Action.outcome_bind_error fault

/-- A fill whose value is refused. -/
theorem fill_outside (there : w.resources[id]? = some r) (active : r.released = false)
    (numeric : value.Numeric) (outside : ¬value.InByteRange) (size : Value) :
    (fill id value size).outcome w = (.error (.notByte (value.inSentence w.name)), w) := by
  unfold fill
  rw [Action.outcome_bind_ok (Ownership.active_ok there active),
    Action.outcome_bind_error (checkByte_refused numeric outside w)]

theorem fillTo_eq (length : r.payload.size = .int n) (value : Value) (k : Nat) (w : World) :
    (fillTo r value (.int k)).outcome w =
      if n < k then (.error (exceeds "memset" k n), w)
      else if k = 0 then (.ok (), w)
      else (discard (Loading.request (.fill r.payload.address value (.int k)))).outcome w := by
  have gate := checkFits_eq n k "memset" w
  unfold fillTo
  rw [length]
  by_cases long : n < k
  · rw [if_pos long] at gate ⊢
    rw [Action.outcome_bind_error gate]
  · rw [if_neg long] at gate ⊢
    rw [Action.outcome_bind_ok gate, Value.sameAs_zero,
      Action.outcome_bind_ok (Action.outcome_ofExcept (.ok (decide (k = 0))) w)]
    by_cases none : k = 0
    · rw [if_pos (decide_eq_true none), if_pos none]
      rfl
    · rw [if_neg (by simpa using none), if_neg none]

theorem validSize_iff (v : Value) (k : Nat) : validSize v = .ok (k : Int) ↔ v.IsCount k := by
  have counted (n : Int) :
      (if n < 0 then (.error (.negativeSize n) : Except Fault Int) else .ok n) = .ok (k : Int) ↔
        n = k := by
    split
    next negative => exact ⟨fun h => (nomatch h), fun h => by omega⟩
    next => exact ⟨Except.ok.inj, congrArg _⟩
  cases v with
  | int n => exact counted n
  | scalar t cls n =>
    show validSize (.scalar t cls n) = .ok (k : Int) ↔ t.isWhole = true ∧ n.whole? = some (k : Int)
    unfold validSize
    dsimp only
    cases t.isWhole with
    | false => exact ⟨fun h => (nomatch h), fun h => (nomatch h.1)⟩
    | true =>
      rw [if_pos rfl]
      cases n.whole? with
      | none => exact ⟨fun h => (nomatch h), fun h => (nomatch h.2)⟩
      | some m =>
        exact (counted m).trans ⟨fun h => ⟨rfl, congrArg some h⟩, fun h => Option.some.inj h.2⟩
  | member e m =>
    obtain ⟨s, constant⟩ := m
    show validSize (.member e ⟨s, constant⟩) = .ok (k : Int) ↔
      e.isNumeric = true ∧ constant = .number (k : Int)
    cases constant with
    | word => exact ⟨fun h => (nomatch h), fun h => (nomatch h.2)⟩
    | number m =>
      unfold validSize
      dsimp only
      cases numeric : e.isNumeric with
      | false =>
        have unknown : (Value.member e ⟨s, .number m⟩).integer? = none :=
          if_neg (by rw [numeric]; decide)
        rw [unknown]
        exact ⟨fun h => (nomatch h), fun h => (nomatch h.1)⟩
      | true =>
        rw [Value.integer?_member numeric]
        exact (counted m).trans
          ⟨fun h => ⟨rfl, congrArg _ h⟩, fun h => Enumeration.Constant.number.inj h.2⟩
  | _ => exact ⟨fun h => (nomatch h), fun h => h.elim⟩

theorem filled_iff (size : Value) (n k : Nat) : Filled size n k ↔ size.Spans n k :=
  or_congr_right (validSize_iff size k)

/-- How a fill with a byte ends that is let through: its entry point is missing, or there is one
native call, with the value and the number of bytes as they are, and the code of that decides. -/
inductive FillEnd (w : World) (id : Nat) (a : Address) (value : Value) (b : UInt8) (k : Nat) :
    Except Fault Value → World → Prop
  | missing {w' : World} (absent : Loading.Absent w .fill)
      (way : Passage w w' w.machine w.resources []) :
      FillEnd w id a value b k (.error (.undefinedSymbol EntryPoint.fill.name)) w'
  | failed {code : Int} {w' : World} (failure : code ≠ 0)
      (cause : code = w.machine.injected .fill ∨
        code = Status.Kind.invalidValue.code ∧ (w.memory id).length < k)
      (way : Passage w w' w'.machine w.resources [(.fill a value (.int k), code)])
      (still : w'.machine.tables = w.machine.tables) :
      FillEnd w id a value b k (.error (.ofCode code)) w'
  | filled {w' : World} (way : Passage w w' w'.machine w.resources [(.fill a value (.int k), 0)])
      (bytes : w'.memory id = List.replicate k b ++ (w.memory id).drop k)
      (others : ∀ key, a ≠ some key →
        w'.machine.allocations.get? key = w.machine.allocations.get? key) :
      FillEnd w id a value b k (.ok .null) w'

theorem fill_ends (direct : w.library = some .direct) (there : w.resources[id]? = some r)
    (active : r.released = false) (length : r.payload.size = .int n) (passes : value.InByteRange)
    (byte : value.index? = some (b.toNat : Int)) (filled : Filled size n k) (some_bytes : k ≠ 0)
    (room : k ≤ n) : FillEnd w id r.payload.address value b k
      ((Operation.silent (fill id value size)).outcome w).1
      ((Operation.silent (fill id value size)).outcome w).2 := by
  have reply := w.machine.fill_reply r.payload.address some_bytes byte
  rw [← World.memory_of_getElem? there] at reply
  rw [Operation.silent_outcome, fill_sized there active length passes filled, fillTo_eq length,
    if_neg (Nat.not_lt.2 room), if_neg some_bytes, Action.outcome_discard]
  obtain ⟨absent, w', way, ended⟩ | ⟨w', way, ended⟩ := Loading.request_arriving
    (c := .fill r.payload.address value (.int k)) direct rfl
  · rw [ended]
    exact .missing absent way
  · rw [← way.machine] at reply
    have own : Passage w w' w'.machine w.resources _ := ⟨rfl, way.resources, way.library, way.trace⟩
    obtain ⟨-, success, wrote⟩ | ⟨code, failure, cause, failed, still⟩ := reply
    · rw [success] at ended own
      rw [ended]
      refine .filled own ?_ fun _ => wrote.others
      rw [World.memory_of_getElem? (way.resources ▸ there), wrote.behind, List.length_replicate,
        ← World.memory_of_getElem? there]
    · rw [failed] at ended own
      have checked : Loading.checked .direct (.code code .nothing) = .error (.ofCode code) :=
        if_neg failure
      rw [ended, checked]
      exact .failed failure cause own still

/-- What a fill with a number that is not whole comes to: nothing is filled, whatever is asked. -/
structure FillStays (w : World) (size : Value) (n : Nat) (result : Except Fault Value)
    (w' : World) : Prop where
  resources : w'.resources = w.resources
  bytes : w'.machine.allocations = w.machine.allocations
  idle : ∀ v, result = .ok v → size.Spans n 0

theorem fill_stays (direct : w.library = some .direct) (there : w.resources[id]? = some r)
    (active : r.released = false) (length : r.payload.size = .int n) (stray : value.Stray)
    (size : Value) : FillStays w size n ((Operation.silent (fill id value size)).outcome w).1
      ((Operation.silent (fill id value size)).outcome w).2 := by
  rw [Operation.silent_outcome]
  obtain ⟨k, filled⟩ | ⟨f, given, refused, -⟩ := filled_or_refused size n
  · rw [fill_sized there active length stray.2 filled]
    have ends := fillTo_transfer direct value there active length filled
    generalize (fillTo r value (.int k)).outcome w = ended at ends ⊢
    obtain ⟨result, w'⟩ := ended
    cases ends with
    | refused way =>
      exact ⟨way.resources, by rw [way.machine], fun _ same => nomatch same⟩
    | idled nothing way =>
      obtain ⟨r', n', there', -, length', filled'⟩ := nothing
      cases there.symm.trans there'
      cases length.symm.trans length'
      exact ⟨way.resources, by rw [way.machine], fun _ _ => (filled_iff size n 0).1 filled'⟩
    | @failed c _ _ _ failure way =>
      have bytes := (w.machine.call_change c).bytes_of_failure failure
      refine ⟨way.resources, ?_, fun _ same => nomatch same⟩
      rw [way.machine]
      exact bytes
    | moved asked success =>
      -- the machine looks at the value, and it is no byte
      obtain ⟨r', n', k', -, -, -, -, -, -, rfl⟩ := asked
      obtain ⟨b, byte, -⟩ := Machine.call_fill success
      obtain ⟨f, fault⟩ := Machine.byteOf_stray stray.1
      cases fault.symm.trans byte
  · rw [fill_unsized there active stray.2 given refused]
    exact ⟨rfl, rfl, fun _ same => nomatch same⟩

end Memory

open Memory in
/-- **The gate of a fill.**  With a byte and a size that fits, a fill of nothing asks nobody, and
any other makes one native call, with exactly these, if any.  With every other value and size but
one it is refused with a `ValueError`, a `TypeError` or a `HipError` for an invalid value, and
nobody is asked.  The one is a number from 0 to 255 that is not whole by kind: it may get to the
machine, which fills nothing. -/
theorem fill_gate (w : World) {id n : Nat} {r : Resource} {value : Value} (size : Value)
    (direct : w.library = some .direct) (there : w.resources[id]? = some r)
    (active : r.released = false) (length : r.payload.size = .int n) (numeric : value.Numeric) :
    let ended := (Operation.fill id value size).perform.outcome w
    (∀ (b : UInt8) (k : Nat), value.index? = some (b.toNat : Int) → size.Spans n k → k ≤ n →
        (k = 0 → ended = (.ok .null, w)) ∧
        (k ≠ 0 → FillEnd w id r.payload.address value b k ended.1 ended.2)) ∧
      (¬value.Stray →
        (¬∃ (b : UInt8) (k : Nat), value.index? = some (b.toNat : Int) ∧ size.Spans n k ∧ k ≤ n) →
          ∃ f, ended = (.error f, w) ∧
            (f.kind = "ValueError" ∨ f.kind = "TypeError" ∨ ∃ k, f = exceeds "memset" k n)) ∧
      (value.Stray → FillStays w size n ended.1 ended.2) := by
  intro ended
  have run : ended = (Operation.silent (fill id value size)).outcome w := rfl
  clear_value ended
  subst run
  have passes {b : UInt8} (byte : value.index? = some (b.toNat : Int)) : value.InByteRange :=
    (numeric.inByteRange_iff byte).2 (by have := b.toNat_lt; omega)
  refine ⟨fun b k byte spans room => ⟨?_, ?_⟩, fun whole other => ?_, fun stray => ?_⟩
  · intro none
    rw [Operation.silent_outcome, fill_sized there active length (passes byte)
      ((filled_iff size n k).2 spans), fillTo_eq length, if_neg (Nat.not_lt.2 room), if_pos none]
    rfl
  · intro some_bytes
    exact fill_ends direct there active length (passes byte) byte ((filled_iff size n k).2 spans)
      some_bytes room
  · rw [Operation.silent_outcome]
    by_cases range : value.InByteRange
    · obtain ⟨b, byte⟩ : ∃ b : UInt8, value.index? = some (b.toNat : Int) := by
        cases index : value.index? with
        | none => exact absurd ⟨index, range⟩ whole
        | some i =>
          obtain ⟨low, high⟩ := (numeric.inByteRange_iff index).1 range
          refine ⟨UInt8.ofNat i.toNat, congrArg some ?_⟩
          rw [UInt8.toNat_ofNat', Nat.mod_eq_of_lt (by omega)]
          omega
      obtain ⟨k, filled⟩ | ⟨f, given, refused, kind⟩ := filled_or_refused size n
      · have long : n < k := Nat.not_le.1 fun room =>
          other ⟨b, k, byte, (filled_iff size n k).1 filled, room⟩
        rw [fill_sized there active length range filled, fillTo_eq length, if_pos long]
        exact ⟨_, rfl, .inr (.inr ⟨k, rfl⟩)⟩
      · rw [fill_unsized there active range given refused]
        exact ⟨f, rfl, kind.imp_right .inl⟩
    · rw [fill_outside there active numeric range]
      exact ⟨_, rfl, .inl rfl⟩
  · exact fill_stays direct there active length stray size

/-- Sixteen bytes filled with a truth value. -/
theorem fill_gate_truth :
    let w := (World.opening .bare .fresh .direct).after [.operate (.allocate (.int 16)) rfl]
    ∃ w', (Operation.fill 0 (.truth true) .null).perform.outcome w = (.ok .null, w') ∧
      w'.memory 0 = List.replicate 16 1 := by
  intro w
  have there : w.resources[0]? = some (.owning (.pointer (some 0x7f0000001000) (.int 16))) := rfl
  obtain ⟨-, ends⟩ := (fill_gate (n := 16) w .null rfl there rfl rfl
    (show (Value.truth true).Numeric from trivial)).1 1 16 rfl (.inl ⟨rfl, rfl⟩) (Nat.le_refl 16)
  have ends := ends (by decide)
  generalize (Operation.fill 0 (.truth true) .null).perform.outcome w = ended at ends ⊢
  obtain ⟨result, w'⟩ := ended
  cases ends with
  | missing absent => exact absurd absent Bool.false_ne_true
  | failed failure cause =>
    rcases cause with none | ⟨-, short⟩
    · exact absurd none failure
    · exact absurd short (by decide)
  | filled _ bytes => exact ⟨w', rfl, bytes⟩

/-- Two and a half is no whole number, and the machine is called with it: what comes back is the
code that was set up for this call.  Without a byte to fill it is not refused at all. -/
theorem fill_gate_passed :
    let w := (World.opening .bare .fresh .direct).after
      [.operate (.allocate (.int 16)) rfl, .failNext .fill 719]
    let value := Value.float (.finite false 5 (-1))
    let ended := (Operation.fill 0 value .null).perform.outcome w
    value.Numeric ∧ value.index? = none ∧ ended.1 = .error (.ofCode 719) ∧
      Status.Kind.ofCode 719 ≠ .invalidValue ∧
      calls (ended.2.trace.drop w.trace.length) =
        [(.fill (some 0x7f0000001000) value (.int 16), 719)] ∧
      (Operation.fill 0 value (.int 0)).perform.outcome w = (.ok .null, w) :=
  ⟨trivial, rfl, rfl, by decide, rfl, rfl⟩

end GpuHandles
