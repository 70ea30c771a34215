import GpuHandles.Proofs.DeviceBytes
/-!
A copy to the host into a new array.

Without an array to fill, a copy to the host makes one of the type that is asked for, over all bytes
of the allocation.  They have to be a whole number of elements, which is found out by division:
where elements have no size it is the division that fails, and no check comes before it
(`new_array_of_empty_elements`).  With elements of some size the copy is refused if and only if
they leave bytes over, and the array has all bytes otherwise (`new_array_has_all_bytes`).
-/

namespace GpuHandles

namespace Memory

variable {w : World} {l : Library} {id n : Nat} {r : Resource} {type : Value} {t : ElementBlock}
  {shown : Option String}

theorem arrayOfWhole_empty (empty : t.size = 0) (n : Int) :
    arrayOfWhole n shown t = .error .emptyElement := if_pos empty

theorem arrayOfWhole_partial (some_bytes : t.size ≠ 0) (left : ¬t.size ∣ n) :
    arrayOfWhole n shown t = .error (.partialElement shown t) := by
  have rest : (n : Int) % t.size ≠ 0 := fun none =>
    left (Int.natCast_dvd_natCast.1 (Int.dvd_of_emod_eq_zero none))
  unfold arrayOfWhole
  rw [if_neg some_bytes, if_pos rest]

/-- A new array that addresses do not reach is refused for its length or its bytes. -/
theorem arrayOfWhole_whole (shown : Option String) (some_bytes : t.size ≠ 0) (whole : t.size ∣ n) :
    n < addressable ∧ arrayOfWhole n shown t = .ok (.blank t (n / t.size)) ∨
      addressable ≤ n ∧ ∃ f, arrayOfWhole n shown t = .error f ∧ f.kind ≠ "ZeroDivisionError" := by
  have rest : ¬(n : Int) % t.size ≠ 0 := fun left =>
    left (Int.emod_eq_zero_of_dvd (Int.natCast_dvd_natCast.2 whole))
  have shorter : n / t.size ≤ n := Nat.div_le_self _ _
  have places : ((n : Int) / t.size).toNat = n / t.size := by
    rw [← Int.natCast_ediv, Int.toNat_natCast]
  unfold arrayOfWhole
  rw [if_neg some_bytes, if_neg rest, if_neg (by omega)]
  dsimp only
  rw [places]
  by_cases reached : n < addressable
  · have small : n < 2 ^ 47 := reached
    rw [if_neg (by omega), if_neg (by omega), if_neg (by unfold addressable; omega)]
    exact .inl ⟨reached, rfl⟩
  · refine .inr ⟨Nat.not_lt.1 reached, ?_⟩
    split
    · exact ⟨_, rfl, by decide⟩
    · split
      · exact ⟨_, rfl, by decide⟩
      · rw [if_pos (by exact_mod_cast Nat.not_lt.1 reached)]
        exact ⟨_, rfl, show "MemoryError" ≠ _ by decide⟩

/-- The array that is made for all bytes of an allocation. -/
theorem targetArray_new (size : r.payload.size = .int n)
    (known : elementType w.name type = .ok t) :
    (targetArray r type .null).outcome w = (arrayOfWhole n (Text.written? n) t, w) := by
  unfold targetArray
  dsimp only
  rw [Action.outcome_bind_ok (Action.outcome_get w), known,
    Action.outcome_bind_ok (Action.outcome_ofExcept (.ok t) w), Action.outcome_ofExcept, size]
  rfl

end Memory

namespace HostArray

/-- A new array for a whole number of blocks. -/
theorem byteCount_whole {t : ElementBlock} {n : Nat} (divides : t.size ∣ n) :
    (blank t (n / t.size)).byteCount = n := by
  rw [blank, byteCount_blocks, Nat.div_mul_cancel divides]

end HostArray

/-- A copy to the host of memory that is a whole number of elements. -/
theorem Memory.copyToHost_whole {w : World} {l : Library} {id n : Nat} {r : Resource}
    {type : Value} {t : ElementBlock} (installed : w.library = some l)
    (there : w.resources[id]? = some r) (active : r.released = false)
    (size : r.payload.size = .int n) (known : elementType w.name type = .ok t)
    (carries : l.Carries w n) {ended : Except Fault Value × World}
    (run : (copyToHost id type .null).outcome w = ended) (some_bytes : t.size ≠ 0)
    (divides : t.size ∣ n) :
    n < addressable ∧ (n = 0 ∧ ended = (.ok (.array (.blank t 0)), w) ∨ n ≠ 0 ∧
        ReadEnd w id (readCall r.payload.address n) (.blank t (n / t.size)) ended.1 ended.2) ∨
      addressable ≤ n ∧ ∃ f, ended = (.error f, w) ∧ f.kind ≠ "ZeroDivisionError" := by
  subst run
  have target := targetArray_new size known
  obtain ⟨reached, made⟩ | ⟨beyond, f, refused, kind⟩ :=
    arrayOfWhole_whole (Text.written? n) some_bytes divides
  · rw [made] at target
    have count := HostArray.byteCount_whole divides
    refine .inl ⟨reached, ?_⟩
    by_cases none : n = 0
    · have ends := copyToHost_empty there active target (count.trans none)
      rw [none, Nat.zero_div] at ends
      exact .inl ⟨none, ends⟩
    · have ends := copyToHost_ends installed there active target (count.symm ▸ none)
        (count.symm ▸ carries)
      rw [count] at ends
      exact .inr ⟨none, ends⟩
  · rw [refused] at target
    exact .inr ⟨beyond, f, copyToHost_refused there active target, kind⟩

open Memory in
/-- **A copy to the host without an array to fill** ends in a division by zero if and only if the
elements that are asked for have no size.  If they have one and leave bytes over, it is refused
with a `ValueError`; if they leave none over, it gives a new array of these elements over all bytes
of the allocation, unless the native copy fails, which is a `ValueError` only where the code of the
failure cannot be written. -/
theorem new_array_has_all_bytes (w : World) {l : Library} {id n : Nat} {r : Resource}
    {type : Value} {t : ElementBlock} (installed : w.library = some l)
    (there : w.resources[id]? = some r) (active : r.released = false)
    (size : r.payload.size = .int n) (known : elementType w.name type = .ok t)
    (carries : l.Carries w n) :
    let ended := (Operation.copyToHost id type .null).perform.outcome w
    ((∃ f, ended.1 = .error f ∧ f.kind = "ZeroDivisionError") ↔ t.size = 0) ∧
      (t.size = 0 → ended = (.error .emptyElement, w)) ∧
      (t.size ≠ 0 → ¬t.size ∣ n → ended = (.error (.partialElement (Text.written? n) t), w)) ∧
      (t.size ≠ 0 → t.size ∣ n → n < addressable →
        (∀ f, ended.1 = .error f → f.kind = "ValueError" →
          f = .longNumber ∧ Text.isWritable (w.machine.injected .copy) = false) ∧
        (n = 0 → ended = (.ok (.array (.blank t 0)), w)) ∧
        (n ≠ 0 → ReadEnd w id (readCall r.payload.address n) (.blank t (n / t.size)) ended.1
          ended.2) ∧
        ∀ b, ended.1 = .ok (.array b) → b.type = t.item ∧ b.shape = n / t.size :: t.axes ∧
          b.byteCount = n ∧ b.bytes = (w.memory id).take n) := by
  intro ended
  have target := targetArray_new size known
  have empty (none : t.size = 0) : ended = (.error .emptyElement, w) := by
    rw [arrayOfWhole_empty none] at target
    exact copyToHost_refused there active target
  have left (some_bytes : t.size ≠ 0) (rest : ¬t.size ∣ n) :
      ended = (.error (.partialElement (Text.written? n) t), w) := by
    rw [arrayOfWhole_partial some_bytes rest] at target
    exact copyToHost_refused there active target
  have whole := copyToHost_whole installed there active size known carries (rfl : _ = ended)
  clear_value ended
  refine ⟨⟨?_, fun none => ⟨_, congrArg Prod.fst (empty none), rfl⟩⟩, empty, left, ?_⟩
  · rintro ⟨f, fault, kind⟩
    by_contra some_bytes
    by_cases divides : t.size ∣ n
    · obtain ⟨-, ⟨-, rfl⟩ | ⟨-, native⟩⟩ | ⟨-, g, rfl, other⟩ := whole some_bytes divides
      · cases fault
      · rw [fault] at native
        rcases native.kind_of_error with status | status | ⟨-, rfl⟩
        · exact absurd (status.symm.trans kind) (by decide)
        · exact absurd (status.symm.trans kind) (by decide)
        · exact absurd kind (show "ValueError" ≠ _ by decide)
      · cases fault
        exact other kind
    · rw [left some_bytes divides] at fault
      cases fault
      exact absurd kind (show "ValueError" ≠ _ by decide)
  · intro some_bytes divides reached
    have count := HostArray.byteCount_whole divides
    obtain ⟨-, ⟨rfl, rfl⟩ | ⟨moved, native⟩⟩ | ⟨beyond, -⟩ := whole some_bytes divides
    · refine ⟨fun _ fault => (nomatch fault), fun _ => rfl, (absurd rfl ·), ?_⟩
      intro b value
      cases value
      rw [Nat.zero_div] at count ⊢
      exact ⟨rfl, rfl, count, rfl⟩
    · refine ⟨?_, fun none => absurd none moved, fun _ => native, ?_⟩
      · intro f fault kind
        rw [fault] at native
        exact native.of_valueError kind
      · intro b value
        rw [value] at native
        cases native with
        | filled _ full =>
          exact ⟨full.type, full.shape, full.count.trans count, by rw [full.bytes, count]⟩
    · omega

/-- Sixteen bytes, filled with sevens, as eight numbers. -/
theorem new_array_has_all_bytes_filled :
    let w := (World.opening .bare .fresh .direct).after
      [.operate (.allocate (.int 16)) rfl, .operate (.fill 0 (.int 7) .null) rfl]
    ∃ b, ((Operation.copyToHost 0 (.text "u2") .null).perform.outcome w).1 = .ok (.array b) ∧
      b.shape = [8] ∧ b.bytes = List.replicate 16 7 := by
  intro w
  have there : w.resources[0]? = some (.owning (.pointer (some 0x7f0000001000) (.int 16))) := rfl
  have known : Memory.elementType w.name (.text "u2") = .ok ElementType.uint16 := rfl
  obtain ⟨-, native, covers⟩ := (new_array_has_all_bytes (n := 16) w rfl there rfl rfl known
    (.inl rfl)).2.2.2 (by decide) (by decide) (by decide) |>.2
  obtain ⟨b, value, -⟩ := (native (by decide)).filled_of ⟨Bool.false_ne_true, rfl⟩ (by decide)
  obtain ⟨-, shape, -, bytes⟩ := covers b value
  exact ⟨b, value, shape, bytes⟩

/-- Elements of no size, by each of the types that have them. -/
theorem new_array_of_empty_elements :
    let w := (World.opening .bare .fresh .direct).after [.operate (.allocate (.int 16)) rfl]
    ∀ name ∈ ["S", "U", "V"], (Operation.copyToHost 0 (.text name) .null).perform.outcome w =
      (.error .emptyElement, w) ∧ Fault.emptyElement.kind = "ZeroDivisionError" := by
  intro w name mem
  simp only [List.mem_cons, List.not_mem_nil, or_false] at mem
  rcases mem with rfl | rfl | rfl <;> exact ⟨rfl, rfl⟩

end GpuHandles
