import GpuHandles.Proofs.Change
/-!
Copies and fills in the machine.

Sizes of memory are whole numbers, so the comparisons in the machine are comparisons of whole
numbers.  A copy or a fill then has its effect if its device operands are live and hold that
many bytes (`copyIn_fits` and so on), and fails everywhere else (`copyIn_success` and so on).
-/

namespace GpuHandles

/-! ## Whole numbers -/

theorem Value.below_zero (n : Nat) : (Value.int n).compare .below (.int 0) = .ok false := by
  rw [Value.compare_int]
  have : Ord.compare (n : Int) 0 ≠ .lt := fun h => by
    have := Int.compare_eq_lt.1 h
    omega
  simp [Relation.holds, this]

theorem Value.above_nat (n k : Nat) :
    (Value.int n).compare .above (.int k) = .ok (decide (k < n)) := by
  rw [Value.compare_int]
  by_cases h : k < n
  · have : Ord.compare (n : Int) k = .gt := Int.compare_eq_gt.2 (by omega)
    simp [Relation.holds, this, h]
  · have : Ord.compare (n : Int) k ≠ .gt := fun above => by
      have := Int.compare_eq_gt.1 above
      omega
    simp [Relation.holds, this, h]

theorem Value.sameAs_zero (n : Nat) :
    (Value.int n).sameAs (.int 0) = .ok (decide (n = 0)) := by
  show Except.ok ((Value.int n).equal (.int 0)) = _
  unfold Value.equal
  by_cases h : n = 0 <;> simp [h]

/-! ## In the machine -/

namespace Machine

variable {m : Machine}

theorem holdsBytes_nat (length n : Nat) :
    holdsBytes length (.int n) = .ok (decide (n ≤ length)) := by
  unfold holdsBytes
  rw [Value.below_zero, Value.above_nat]
  by_cases h : n ≤ length
  · simp [h, Nat.not_lt.2 h, bind, Except.bind, pure, Except.pure]
  · simp [h, Nat.not_le.1 h, bind, Except.bind, pure, Except.pure]

theorem refuse_ne {k : Status.Kind} {out : Output} (failure : k.code ≠ 0) :
    (m.refuse k).1 ≠ .code 0 out := fun h => by
  injection h with code _
  exact failure code

/-- A question whether a live allocation holds some bytes, and what comes after it. -/
theorem after_holds {length n : Nat} {reply : Reply × Machine} :
    (m.after (holdsBytes length (.int n)) fun fits =>
      if fits then reply else m.refuse .invalidValue) =
      if n ≤ length then reply else m.refuse .invalidValue := by
  rw [holdsBytes_nat]
  by_cases h : n ≤ length <;> simp [after, h]

theorem endOf_nat (n : Nat) : endOf (.int n) = .ok n := rfl

theorem timesOf_nat (n : Nat) : timesOf (.int n) = .ok n := rfl

/-- A live allocation is behind an address, and it has at least `n` bytes. -/
def Backs (m : Machine) (a : Address) (n : Nat) : Prop :=
  ∃ k buffer, a = some k ∧ m.allocations.get? k = some buffer ∧ n ≤ buffer.length

/-! A copy or a fill of a whole number of bytes has an effect where its device operands are
live and hold that many bytes, and fails everywhere else. -/

theorem copyIn_fits {k n : Nat} {buffer : List UInt8} (bs : List UInt8)
    (there : m.allocations.get? k = some buffer) (fits : n ≤ buffer.length) :
    m.copy (.device (some k)) (.host bs) (.int n) 1 = m.store k buffer (bs.take n) := by
  unfold copy
  rw [Value.below_zero]
  show m.copyIn (some k) bs (.int n) = _
  simp only [copyIn, at?, Option.bind_some, there]
  rw [after_holds, if_pos fits, endOf_nat]
  rfl

theorem copyIn_success {a : Address} {bs : List UInt8} {n : Nat} {out : Output}
    (success : (m.copy (.device a) (.host bs) (.int n) 1).1 = .code 0 out) : m.Backs a n := by
  unfold copy at success
  rw [Value.below_zero] at success
  change (m.copyIn a bs (.int n)).1 = .code 0 out at success
  unfold copyIn at success
  split at success
  next k buffer there =>
    rw [after_holds] at success
    by_cases fits : n ≤ buffer.length
    · exact ⟨k, buffer, rfl, there, fits⟩
    · rw [if_neg fits] at success
      exact absurd success (refuse_ne (by decide))
  next => exact absurd success (refuse_ne (by decide))

theorem copyOut_fits {k n : Nat} {buffer : List UInt8} (bs : List UInt8)
    (there : m.allocations.get? k = some buffer) (fits : n ≤ buffer.length) :
    m.copy (.host bs) (.device (some k)) (.int n) 2 = m.answer (.bytes (buffer.take n)) := by
  unfold copy
  rw [Value.below_zero]
  show m.copyOut (some k) (.int n) = _
  simp only [copyOut, at?, Option.bind_some, there]
  rw [after_holds, if_pos fits, endOf_nat]
  rfl

theorem copyOut_success {a : Address} {bs : List UInt8} {n : Nat} {out : Output}
    (success : (m.copy (.host bs) (.device a) (.int n) 2).1 = .code 0 out) : m.Backs a n := by
  unfold copy at success
  rw [Value.below_zero] at success
  change (m.copyOut a (.int n)).1 = .code 0 out at success
  unfold copyOut at success
  cases a with
  | none => exact absurd success (refuse_ne (by decide))
  | some k =>
    split at success
    next buffer there =>
      rw [after_holds] at success
      by_cases fits : n ≤ buffer.length
      · exact ⟨k, buffer, rfl, there, fits⟩
      · rw [if_neg fits] at success
        exact absurd success (refuse_ne (by decide))
    next => exact absurd success (refuse_ne (by decide))

theorem copyAcross_fits {j k n : Nat} {old new : List UInt8}
    (target : m.allocations.get? j = some old) (source : m.allocations.get? k = some new)
    (room : n ≤ old.length) (fits : n ≤ new.length) :
    m.copy (.device (some j)) (.device (some k)) (.int n) 3 = m.store j old (new.take n) := by
  unfold copy
  rw [Value.below_zero]
  show m.copyAcross (some j) (some k) (.int n) = _
  simp only [copyAcross, at?, Option.bind_some, target, source]
  rw [after_holds, if_pos fits, after_holds, if_pos room, endOf_nat]
  rfl

/-- Between allocations only a copy of the third kind succeeds. -/
theorem copyAcross_success {a b : Address} {n : Nat} {kind : Int} {out : Output}
    (success : (m.copy (.device a) (.device b) (.int n) kind).1 = .code 0 out) :
    kind = 3 ∧ m.Backs a n ∧ m.Backs b n := by
  unfold copy at success
  rw [Value.below_zero] at success
  by_cases across : kind = 3
  · subst across
    change (m.copyAcross a b (.int n)).1 = .code 0 out at success
    unfold copyAcross at success
    split at success
    next j old new source target =>
      rw [after_holds] at success
      by_cases fits : n ≤ new.length
      · rw [if_pos fits, after_holds] at success
        by_cases room : n ≤ old.length
        · cases b with
          | none => cases source
          | some k => exact ⟨rfl, ⟨j, old, rfl, target, room⟩, k, new, rfl, source, fits⟩
        · rw [if_neg room] at success
          exact absurd success (refuse_ne (by decide))
      · rw [if_neg fits] at success
        exact absurd success (refuse_ne (by decide))
    next => exact absurd success (refuse_ne (by decide))
  · simp only [after, Bool.false_eq_true, if_false, if_neg across] at success
    split at success
    · exact absurd success (refuse_ne (by decide))
    · split at success <;> exact absurd success (refuse_ne (by decide))

theorem fill_fits {k n : Nat} {buffer : List UInt8} (value : Value)
    (there : m.allocations.get? k = some buffer) (fits : n ≤ buffer.length) :
    m.fill (some k) value (.int n) =
      m.after (byteOf value) fun b => m.store k buffer (List.replicate n b) := by
  simp only [fill, at?, Option.bind_some, there]
  rw [after_holds, if_pos fits, timesOf_nat]
  rfl

theorem fill_success {a : Address} {value : Value} {n : Nat} {out : Output}
    (success : (m.fill a value (.int n)).1 = .code 0 out) : m.Backs a n := by
  unfold fill at success
  split at success
  next k buffer there =>
    rw [after_holds] at success
    by_cases fits : n ≤ buffer.length
    · exact ⟨k, buffer, rfl, there, fits⟩
    · rw [if_neg fits] at success
      exact absurd success (refuse_ne (by decide))
  next => exact absurd success (refuse_ne (by decide))

/-! A call has these effects if no code was set up for it, so whenever it succeeds. -/

/-- A live allocation has got some bytes in place of its first ones. -/
def Overwrites (m m' : Machine) (a : Address) (bs : List UInt8) : Prop :=
  ∃ k buffer, a = some k ∧ m.allocations.get? k = some buffer ∧ bs.length ≤ buffer.length ∧
    m'.tables = { m.tables with bytes := m.allocations.set k (overwrite buffer bs) }

theorem call_of_success {c : NativeCall} {out : Output} (success : (m.call c).1 = .code 0 out) :
    m.call c = perform { m with pending := m.pending.erase c.entryPoint } c := by
  by_cases h : m.injected c.entryPoint = 0
  · exact call_of_none h
  · rw [call_of_injected h] at success
    injection success with code
    exact absurd code h

theorem call_copyIn {a : Address} {bs : List UInt8} {n : Nat} {out : Output}
    (success : (m.call (.copy (.device a) (.host bs) (.int n) 1)).1 = .code 0 out) :
    m.Overwrites (m.call (.copy (.device a) (.host bs) (.int n) 1)).2 a (bs.take n) := by
  have run := call_of_success success
  rw [run] at success ⊢
  obtain ⟨k, buffer, rfl, there, fits⟩ := copyIn_success success
  refine ⟨k, buffer, rfl, there, Nat.le_trans (List.length_take_le _ _) fits, ?_⟩
  dsimp only [perform]
  rw [copyIn_fits bs there fits]
  rfl

theorem call_copyOut {a : Address} {bs : List UInt8} {n : Nat} {out : Output}
    (success : (m.call (.copy (.host bs) (.device a) (.int n) 2)).1 = .code 0 out) :
    ∃ k buffer, a = some k ∧ m.allocations.get? k = some buffer ∧ n ≤ buffer.length ∧
      out = .bytes (buffer.take n) ∧
      (m.call (.copy (.host bs) (.device a) (.int n) 2)).2.tables = m.tables := by
  have run := call_of_success success
  rw [run] at success ⊢
  change (copy _ (.host bs) (.device a) (.int n) 2).1 = _ at success
  obtain ⟨k, buffer, rfl, there, fits⟩ := copyOut_success success
  dsimp only [perform] at success ⊢
  rw [copyOut_fits bs there fits] at success ⊢
  cases success
  exact ⟨k, buffer, rfl, there, fits, rfl, rfl⟩

theorem call_copyOut_fits {k n : Nat} {buffer : List UInt8} (bs : List UInt8)
    (none : m.injected .copy = 0) (there : m.allocations.get? k = some buffer)
    (fits : n ≤ buffer.length) :
    (m.call (.copy (.host bs) (.device (some k)) (.int n) 2)).1 =
      .code 0 (.bytes (buffer.take n)) := by
  rw [call_of_none none]
  have there : ({ m with pending := m.pending.erase .copy }).allocations.get? k = some buffer :=
    there
  exact congrArg Prod.fst (copyOut_fits bs there fits)

theorem call_copyAcross {a b : Address} {n : Nat} {kind : Int} {out : Output}
    (success : (m.call (.copy (.device a) (.device b) (.int n) kind)).1 = .code 0 out) :
    ∃ k new, b = some k ∧ m.allocations.get? k = some new ∧ n ≤ new.length ∧
      m.Overwrites (m.call (.copy (.device a) (.device b) (.int n) kind)).2 a (new.take n) := by
  have run := call_of_success success
  rw [run] at success ⊢
  obtain ⟨rfl, ⟨j, old, rfl, target, room⟩, k, new, rfl, source, fits⟩ :=
    copyAcross_success success
  refine ⟨k, new, rfl, source, fits, j, old, rfl, target,
    Nat.le_trans (List.length_take_le _ _) room, ?_⟩
  dsimp only [perform]
  rw [copyAcross_fits target source room fits]
  rfl

theorem call_fill {a : Address} {value : Value} {n : Nat} {out : Output}
    (success : (m.call (.fill a value (.int n))).1 = .code 0 out) :
    ∃ b, byteOf value = .ok b ∧
      m.Overwrites (m.call (.fill a value (.int n))).2 a (List.replicate n b) := by
  have run := call_of_success success
  rw [run] at success ⊢
  obtain ⟨k, buffer, rfl, there, fits⟩ := fill_success success
  dsimp only [perform] at success ⊢
  rw [fill_fits value there fits] at success ⊢
  cases known : byteOf value with
  | error f =>
    rw [known] at success
    cases success
  | ok b => exact ⟨b, rfl, k, buffer, rfl, there, by simpa using fits, rfl⟩

/-! ## Bounds -/

/-- A copy or a fill of at least one byte whose device operands are live and have that many. -/
def InBounds (m : Machine) : NativeCall → Prop
  | .copy target source size _ => ∃ n : Nat, size = .int n ∧ 0 < n ∧
      (∀ a, target = .device a → m.Backs a n) ∧ ∀ a, source = .device a → m.Backs a n
  | .fill a _ size => ∃ n : Nat, size = .int n ∧ 0 < n ∧ m.Backs a n
  | _ => False

/-- The kind of a copy is that of its two sides. -/
def Directed : NativeCall → Prop
  | .copy (.device _) (.host _) _ kind => kind = 1
  | .copy (.host _) (.device _) _ kind => kind = 2
  | .copy (.device _) (.device _) _ kind => kind = 3
  | .copy (.host _) (.host _) .. => False
  | _ => True

theorem perform_of_inBounds {c : NativeCall} {code : Int} {out : Output} (bounds : m.InBounds c)
    (directed : Directed c) (reply : (m.perform c).1 = .code code out) : code = 0 := by
  cases c with
  | copy target source size kind =>
    obtain ⟨n, rfl, _, first, second⟩ := bounds
    change (m.copy target source (.int n) kind).1 = _ at reply
    cases target with
    | device a =>
      obtain ⟨j, old, rfl, target, room⟩ := first _ rfl
      cases source with
      | device b =>
        obtain ⟨k, new, rfl, source, fits⟩ := second _ rfl
        rw [show kind = 3 from directed, copyAcross_fits target source room fits] at reply
        cases reply
        rfl
      | host bs =>
        rw [show kind = 1 from directed, copyIn_fits bs target room] at reply
        cases reply
        rfl
    | host bs =>
      cases source with
      | device b =>
        obtain ⟨k, new, rfl, source, fits⟩ := second _ rfl
        rw [show kind = 2 from directed, copyOut_fits bs source fits] at reply
        cases reply
        rfl
      | host bs' => exact directed.elim
  | fill a value size =>
    obtain ⟨n, rfl, _, k, buffer, rfl, there, fits⟩ := bounds
    change (m.fill (some k) value (.int n)).1 = _ at reply
    rw [fill_fits value there fits] at reply
    cases known : byteOf value with
    | error f =>
      rw [known] at reply
      cases reply
    | ok b =>
      rw [known] at reply
      cases reply
      rfl
  | _ => exact bounds.elim

/-- The machine has no objection of its own to a call in bounds. -/
theorem code_of_inBounds {c : NativeCall} {code : Int} {out : Output} (bounds : m.InBounds c)
    (directed : Directed c) (reply : (m.call c).1 = .code code out) :
    code = m.injected c.entryPoint := by
  by_cases none : m.injected c.entryPoint = 0
  · rw [call_of_none none] at reply
    rw [none]
    have bounds : InBounds { m with pending := m.pending.erase c.entryPoint } c := bounds
    exact perform_of_inBounds bounds directed reply
  · rw [call_of_injected none] at reply
    injection reply with code
    exact code.symm

end Machine
end GpuHandles
