import GpuHandles.Lookup
import GpuHandles.Proofs.NumericValues
import GpuHandles.Proofs.Requests
/-!
Versions and the numbers they are packed into.

Unpacking takes the numbers from zero on to the versions whose parts keep their room
(`Version.Proper`), and packing takes these back (`Version.packed_ofPacked`,
`Version.ofPacked_packed`).  Both keep the order (`Version.packed_le_packed_iff`), so versions can
be compared by their numbers.  What the runtime reports is such a number as far as an `int` holds it
(`StartUp.told`).
-/

namespace GpuHandles

namespace Version

/-! ## Packing -/

/-- A version whose parts keep the room that they have in a packed number. -/
structure Proper (v : Version) : Prop where
  major : 0 ≤ v.major
  minor : 0 ≤ v.minor ∧ v.minor < 100
  patch : 0 ≤ v.patch ∧ v.patch < 100000

variable {v a b : Version} {m n : Int}

/-- A number below zero stands for no version. -/
theorem ofPacked_of_neg (h : n < 0) : ofPacked n = ⟨0, 0, 0⟩ := if_pos h

theorem ofPacked_of_nonneg (h : 0 ≤ n) :
    ofPacked n = ⟨n / 10000000, n % 10000000 / 100000, n % 10000000 % 100000⟩ :=
  if_neg (Int.not_lt.2 h)

theorem proper_ofPacked (h : 0 ≤ n) : (ofPacked n).Proper := by
  rw [ofPacked_of_nonneg h]
  refine ⟨?_, ⟨?_, ?_⟩, ?_, ?_⟩ <;> dsimp only <;> omega

/-- Packing undoes unpacking. -/
theorem packed_ofPacked (h : 0 ≤ n) : (ofPacked n).packed = n := by
  rw [ofPacked_of_nonneg h]
  unfold packed
  dsimp only
  omega

theorem Proper.packed_nonneg (h : v.Proper) : 0 ≤ v.packed := by
  obtain ⟨major, ⟨minor, -⟩, patch, -⟩ := h
  unfold packed
  omega

/-- Unpacking undoes packing. -/
theorem ofPacked_packed (h : v.Proper) : ofPacked v.packed = v := by
  rw [ofPacked_of_nonneg h.packed_nonneg]
  obtain ⟨major, minor, patch⟩ := v
  obtain ⟨-, minor, patch⟩ := h
  unfold packed
  dsimp only at minor patch ⊢
  congr <;> omega

/-- The order of packed numbers is that of the parts, from the first on. -/
theorem packed_le_packed_iff (ha : a.Proper) (hb : b.Proper) :
    a.packed ≤ b.packed ↔ a.before b := by
  obtain ⟨-, minor, patch⟩ := ha
  obtain ⟨-, minor', patch'⟩ := hb
  unfold packed before
  omega

theorem le_iff_before (hm : 0 ≤ m) (hn : 0 ≤ n) : m ≤ n ↔ (ofPacked m).before (ofPacked n) := by
  rw [← packed_le_packed_iff (proper_ofPacked hm) (proper_ofPacked hn), packed_ofPacked hm,
    packed_ofPacked hn]

end Version

/-! ## Versions of numbers -/

/-- A value that is whole by its kind. -/
theorem Value.isWhole_of_integer? {v : Value} {n : Int} (whole : v.integer? = some n) :
    v.IsWhole n := by
  cases v with
  | truth | int => exact ⟨trivial, whole⟩
  | member e m =>
    obtain ⟨s, k⟩ := m
    cases k with
    | number k =>
      cases numeric : e.isNumeric with
      | true => exact ⟨⟨numeric, k, rfl⟩, whole⟩
      | false =>
        unfold integer? at whole
        simp [numeric] at whole
    | word => cases whole
  | _ => cases whole

/-- The version that a whole number stands for is the unpacked number. -/
theorem Lookup.version_of_integer? {v : Value} {n : Int} (whole : v.integer? = some n) :
    version v = .ok (.ofVersion (.ofPacked n)) := by
  have number := Value.isWhole_of_integer? whole
  unfold version
  rw [number.below 0]
  by_cases negative : n < 0
  · rw [decide_eq_true negative, Version.ofPacked_of_neg negative]
    rfl
  · rw [decide_eq_false negative]
    cases v with
    | scalar | float => cases whole
    | _ => exact congrArg (· >>= fun k => Except.ok (Value.ofVersion (.ofPacked k))) number.toIndex

/-! ## Reported versions -/

/-- A request for a version tells the version of the number that is stored, as far as an `int`
holds it. -/
theorem StartUp.told {w : World} {l : Library} {c : NativeCall} {n : Int}
    (had : (Loading.library.outcome w).1 = .ok l) (plain : ∀ l, Loading.arriving l c = .ok c)
    (present : ¬Loading.Absent w c.entryPoint) (quiet : w.machine.injected c.entryPoint = 0)
    (stored : (w.machine.spend [c.entryPoint]).perform c =
      (w.machine.spend [c.entryPoint]).answer (.int n)) :
    ((Loading.request c >>= fun out =>
        pure (Value.ofVersion (.ofPacked (out.storedInt (-1))))).outcome w).1 =
      .ok (Value.ofVersion (.ofPacked (Width.int32 n))) := by
  obtain ⟨w', ended⟩ := Loading.request_had_replied had (plain l) present quiet
  rw [stored] at ended
  rw [Action.outcome_bind_ok (ended.trans (congrArg (·, w') (Loading.checked_zero l _)))]
  rfl

/-- **Versions and packed numbers are in order.**  Unpacking and packing undo each other between the
numbers from zero on and the versions with proper parts, and keep the order; a number below zero
stands for the version of zeros.  This is the version of every whole number, and of what the
runtime and the driver report, cut to an `int`, wherever the library can be had. -/
theorem versions_in_order :
    (∀ v n, Value.integer? v = some n →
      Lookup.version v = .ok (.ofVersion (.ofPacked n))) ∧
    (∀ n, 0 ≤ n → (Version.ofPacked n).Proper ∧ (Version.ofPacked n).packed = n) ∧
    (∀ v : Version, v.Proper → 0 ≤ v.packed ∧ Version.ofPacked v.packed = v) ∧
    (∀ m n, 0 ≤ m → 0 ≤ n → (m ≤ n ↔ (Version.ofPacked m).before (Version.ofPacked n))) ∧
    (∀ n < 0, Version.ofPacked n = ⟨0, 0, 0⟩) ∧
    ∀ (w : World) (l : Library), (Loading.library.outcome w).1 = .ok l →
      (¬Loading.Absent w .runtimeVersion → w.machine.injected .runtimeVersion = 0 →
        (Operation.runtimeVersion.perform.outcome w).1 =
          .ok (.ofVersion (.ofPacked (Width.int32 w.machine.reports.runtimeVersion)))) ∧
      (¬Loading.Absent w .driverVersion → w.machine.injected .driverVersion = 0 →
        (Operation.driverVersion.perform.outcome w).1 =
          .ok (.ofVersion (.ofPacked (Width.int32 w.machine.reports.driverVersion)))) := by
  refine ⟨fun v n => Lookup.version_of_integer?,
    fun n h => ⟨Version.proper_ofPacked h, Version.packed_ofPacked h⟩,
    fun v h => ⟨h.packed_nonneg, Version.ofPacked_packed h⟩,
    fun m n => Version.le_iff_before, fun n => Version.ofPacked_of_neg, fun w l had => ⟨?_, ?_⟩⟩
  · intro present quiet
    exact StartUp.told (c := .runtimeVersion) had (fun l => by cases l <;> rfl) present quiet rfl
  · intro present quiet
    exact StartUp.told (c := .driverVersion) had (fun l => by cases l <;> rfl) present quiet rfl

/-- A library that is still to be loaded, and a number of 33 bits, which an `int` cuts. -/
theorem versions_in_order_cut :
    let reports := { Reports.standard with runtimeVersion := 2 ^ 32 + 60032830 }
    let w := World.start
      { Host.bare with environment := [("HIPRT_LIBRARY", "/x.so")], files := ["/x.so"] }
      { Machine.fresh with reports := reports } none
    (Operation.runtimeVersion.perform.outcome w).1 = .ok (.ofVersion ⟨6, 0, 32830⟩) ∧
      (Version.ofPacked 59999999).before (Version.ofPacked 60032830) ∧
      Version.ofPacked (Version.packed ⟨6, 0, 32830⟩) = ⟨6, 0, 32830⟩ := by
  intro reports w
  obtain ⟨-, -, packed, order, -, told⟩ := versions_in_order
  have had : (Loading.library.outcome w).1 = .ok (.loaded (some "/x.so") []) := rfl
  exact ⟨(told w _ had).1 Bool.false_ne_true rfl, (order _ _ (by decide) (by decide)).1 (by decide),
    (packed ⟨6, 0, 32830⟩ ⟨by decide, by decide, by decide⟩).2⟩

end GpuHandles
