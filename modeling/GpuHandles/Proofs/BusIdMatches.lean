import GpuHandles.Proofs.BusIdLookup
/-!
Which texts find a device.

A text is looked up as it arrives: the machine gets all of it when it is called as it is, and what
stands before the first zero when it is called through a loaded library (`Library.carriedText`).
What arrives finds a device exactly if it is the bus id that the device tells
(`bus_id_lookup`).  So a text that is no device's finds none, unless it is cut to one that is.
-/

namespace GpuHandles

/-! ## Texts on their way -/

/-- A text as it is when it has passed a library. -/
def Library.carriedText : Library → String → String
  | .direct, s => s
  | .loaded .., s => String.ofList (s.toList.takeWhile (· != '\x00'))

/-- What passes a library unchanged. -/
theorem Library.carriedText_eq_iff (l : Library) (s : String) :
    l.carriedText s = s ↔ l = .direct ∨ '\x00' ∉ s.toList := by
  cases l with
  | direct => exact ⟨fun _ => .inl rfl, fun _ => rfl⟩
  | loaded path found =>
    have whole : (Library.loaded path found).carriedText s = s ↔
        s.toList.takeWhile (· != '\x00') = s.toList :=
      ⟨fun same => (String.toList_ofList ..).symm.trans (congrArg String.toList same),
        fun same => (congrArg String.ofList same).trans (String.ofList_toList ..)⟩
    rw [whole, List.takeWhile_eq_self_iff]
    constructor
    · intro kept
      exact .inr fun zero => by simpa using kept _ zero
    · rintro (direct | free) c mem
      · cases direct
      · have other : c ≠ '\x00' := fun zero => free (zero ▸ mem)
        simpa using other

theorem Library.carriedText_plain (l : Library) {s : String}
    (plain : ∀ c ∈ s.toList, c.toNat < 128) : ∀ c ∈ (l.carriedText s).toList, c.toNat < 128 := by
  cases l with
  | direct => exact plain
  | loaded path found =>
    intro c mem
    have kept : c ∈ s.toList.takeWhile (· != '\x00') := by
      rwa [← String.toList_ofList (l := s.toList.takeWhile (· != '\x00'))]
    exact plain c ((List.takeWhile_prefix _).subset kept)

namespace BusId

/-- Plain text with the bytes of a bus id is that bus id. -/
theorem bytes_eq_toBytes_iff {s : String} (plain : ∀ c ∈ s.toList, c.toNat < 128) (n : Nat) :
    bytes n = toBytes s.toList ↔ text n = s := by
  constructor
  · intro same
    have chars : chars n = s.toList := by
      have ascii : ∀ c ∈ chars n, c.toNat < 128 := fun c mem => (chars_plain mem).2
      rw [← map_toBytes ascii, ← map_toBytes plain]
      exact congrArg (List.map fun b : UInt8 => Char.ofNat b.toNat) same
    unfold text
    rw [chars, String.ofList_toList]
  · rintro rfl
    exact congrArg toBytes (String.toList_ofList ..).symm

/-- The first zero byte of plain text is its first zero character. -/
theorem takeWhile_toBytes {cs : List Char} (plain : ∀ c ∈ cs, c.toNat < 128) :
    (toBytes cs).takeWhile (· != 0) = toBytes (cs.takeWhile (· != '\x00')) := by
  induction cs with
  | nil => rfl
  | cons c cs ih =>
    have zero : UInt8.ofNat c.toNat = 0 ↔ c = '\x00' := by
      constructor
      · intro none
        have number : c.toNat = 0 :=
          (toNat_toBytes (plain c (.head _))).symm.trans (congrArg UInt8.toNat none)
        rw [← Char.ofNat_toNat c, number]
      · rintro rfl
        rfl
    have same : (UInt8.ofNat c.toNat != 0) = (c != '\x00') := by
      rw [Bool.eq_iff_iff, bne_iff_ne, bne_iff_ne, Ne, zero]
    show ((UInt8.ofNat c.toNat) :: toBytes cs).takeWhile (· != 0) = _
    rw [List.takeWhile_cons, List.takeWhile_cons, same,
      ih fun d mem => plain d (.tail _ mem)]
    split <;> rfl

end BusId

/-- A text that is looked up arrives as it was carried. -/
theorem Loading.arriving_deviceByBusId (l : Library) {s : String}
    (plain : ∀ c ∈ s.toList, c.toNat < 128) :
    arriving l (.deviceByBusId (BusId.toBytes s.toList)) =
      .ok (.deviceByBusId (BusId.toBytes (l.carriedText s).toList)) := by
  cases l with
  | direct => rfl
  | loaded path found =>
    unfold Library.carriedText
    rw [String.toList_ofList, ← BusId.takeWhile_toBytes plain]
    rfl

/-- Plain text that arrives finds the one device that it is the bus id of, or none. -/
theorem Machine.perform_deviceByBusId_cases (m : Machine) {t : String}
    (plain : ∀ c ∈ t.toList, c.toNat < 128) :
    (∃ n : Nat, m.Visible n ∧ BusId.text n = t ∧
        m.perform (.deviceByBusId (BusId.toBytes t.toList)) = m.answer (.int n)) ∨
      (∀ n : Nat, m.Visible n → BusId.text n ≠ t) ∧
        m.perform (.deviceByBusId (BusId.toBytes t.toList)) = m.refuse .invalidDevice := by
  have spelled := BusId.bytes_eq_toBytes_iff plain
  rw [perform_deviceByBusId]
  cases found : (List.range m.deviceCount.toNat).find? fun device =>
      BusId.bytes device == BusId.toBytes t.toList with
  | some n =>
    obtain ⟨same, there, -⟩ := List.find?_range_eq_some.1 found
    have below : n < m.deviceCount.toNat := List.mem_range.1 there
    exact .inl ⟨n, ⟨by omega, by omega⟩, (spelled n).1 (eq_of_beq same), rfl⟩
  | none =>
    refine .inr ⟨fun n known same => ?_, rfl⟩
    have below : n < m.deviceCount.toNat := by
      have := known.2
      omega
    have differs := List.find?_range_eq_none.1 found n below
    rw [(spelled n).2 same, beq_self_eq_true] at differs
    cases differs

/-- A device tells a text as its bus id. -/
def World.Tells (w : World) (device : Int) (s : String) : Prop :=
  ((Operation.ask (.int device) .busId).perform.outcome w).1 = .ok (.text s)

variable {w : World} {l : Library}

/-- The text that a device tells is its bus id. -/
theorem World.tells_iff (installed : w.library = some l) (present : ¬Loading.Absent w .busId)
    (quiet : w.machine.injected .busId = 0) (unset : w.machine.reports.busId = none)
    {n : Nat} (known : w.machine.Visible n) (fits : n + 3 < 2 ^ 24) (s : String) :
    w.Tells n s ↔ BusId.text n = s := by
  obtain ⟨w', ended, -⟩ := Device.busId_outcome installed present quiet unset known fits
  have told : ((Operation.ask (.int n) .busId).perform.outcome w).1 = .ok (.text (BusId.text n)) :=
    congrArg Prod.fst ended
  unfold World.Tells
  rw [told]
  simp

/-- What comes of a text that is looked up: the device that it is the bus id of, as it arrives, or
a refusal. -/
theorem Device.ofBusId_cases (installed : w.library = some l)
    (present : ¬Loading.Absent w .deviceByBusId) (quiet : w.machine.injected .deviceByBusId = 0)
    (few : w.machine.deviceCount ≤ 2 ^ 24 - 3) {s : String}
    (plain : ∀ c ∈ s.toList, c.toNat < 128) :
    (∃ n : Nat, w.machine.Visible n ∧ BusId.text n = l.carriedText s ∧
        ((ofBusId (.text s)).outcome w).1 = .ok (.device (.int n))) ∨
      (∀ n : Nat, w.machine.Visible n → BusId.text n ≠ l.carriedText s) ∧
        ((ofBusId (.text s)).outcome w).1 = .error (.ofCode Status.Kind.invalidDevice.code) := by
  obtain ⟨w', ended, -⟩ := Loading.request_replied installed
    (Loading.arriving_deviceByBusId l plain) present quiet
  rw [ofBusId_asks (BusId.encode_plain plain)]
  obtain ⟨n, known, same, reply⟩ | ⟨none, reply⟩ :=
    (w.machine.spend [.deviceByBusId]).perform_deviceByBusId_cases (l.carriedText_plain plain)
  · refine .inl ⟨n, known, same, ?_⟩
    have below : (n : Int) < w.machine.deviceCount := known.2
    have kept : Width.int32 n = n := Width.int32_of_in ⟨by omega, by omega⟩
    have answered : Loading.checked l (.code 0 (.int n)) = .ok (.int n) := Loading.checked_zero l _
    dsimp only [NativeCall.entryPoint] at ended
    rw [reply] at ended
    rw [Action.outcome_bind_ok (ended.trans (congrArg (·, w') answered)), Action.outcome_pure,
      Output.storedInt, kept]
  · refine .inr ⟨none, ?_⟩
    have refused : Loading.checked l (.code Status.Kind.invalidDevice.code .nothing) =
        .error (.ofCode Status.Kind.invalidDevice.code) := by
      cases l <;> rfl
    dsimp only [NativeCall.entryPoint] at ended
    rw [reply] at ended
    rw [Action.outcome_bind_error (ended.trans (congrArg (·, w') refused))]

/-- **A text finds a device** exactly if, as it arrives, it is the bus id that the device tells;
any other is refused as no device's.  What arrives is the text itself if the machine is called as
it is, or if there is no zero in the text, and only then. -/
theorem bus_id_lookup {w : World} {l : Library} (installed : w.library = some l)
    (few : w.machine.deviceCount ≤ 2 ^ 24 - 3) (unset : w.machine.reports.busId = none)
    (whole : ∀ e ∈ [EntryPoint.busId, .deviceByBusId], ¬Loading.Absent w e)
    (quiet : ∀ e ∈ [EntryPoint.busId, .deviceByBusId], w.machine.injected e = 0)
    (s : String) (plain : ∀ c ∈ s.toList, c.toNat < 128) :
    let found := ((Operation.deviceOfBusId (.text s)).perform.outcome w).1
    (∀ v, found = .ok v ↔
      ∃ device, w.machine.Visible device ∧ w.Tells device (l.carriedText s) ∧
        v = .device (.int device)) ∧
    ((¬∃ device, w.machine.Visible device ∧ w.Tells device (l.carriedText s)) →
      found = .error (.ofCode Status.Kind.invalidDevice.code)) ∧
    (l.carriedText s = s ↔ l = .direct ∨ '\x00' ∉ s.toList) := by
  intro found
  have tells {device : Int} (known : w.machine.Visible device) :
      ∃ n : Nat, device = n ∧ ∀ t, w.Tells device t ↔ BusId.text n = t := by
    obtain ⟨n, rfl⟩ := Int.eq_ofNat_of_zero_le known.1
    have fits : n + 3 < 2 ^ 24 := by
      have := known.2
      omega
    exact ⟨n, rfl, World.tells_iff installed (whole _ (.head _)) (quiet _ (.head _)) unset known
      fits⟩
  obtain ⟨n, known, same, ended⟩ | ⟨none, ended⟩ := Device.ofBusId_cases installed
    (whole _ (.tail _ (.head _))) (quiet _ (.tail _ (.head _))) few plain
  · have ended : found = .ok (.device (.int n)) := ended
    have told : w.Tells n (l.carriedText s) := by
      obtain ⟨k, number, spelled⟩ := tells known
      rw [spelled, ← Int.ofNat.inj number]
      exact same
    refine ⟨fun v => ⟨fun answer => ?_, ?_⟩, fun missing => (missing ⟨n, known, told⟩).elim,
      l.carriedText_eq_iff s⟩
    · exact ⟨n, known, told, Except.ok.inj (answer.symm.trans ended)⟩
    · rintro ⟨device, known', told', rfl⟩
      obtain ⟨k, rfl, spelled⟩ := tells known'
      have one : k = n := BusId.text_injective (((spelled _).1 told').trans same.symm)
      rw [ended, one]
  · have ended : found = .error (.ofCode Status.Kind.invalidDevice.code) := ended
    refine ⟨fun v => ⟨fun answer => ?_, ?_⟩, fun _ => ended, l.carriedText_eq_iff s⟩
    · cases ended.symm.trans answer
    · rintro ⟨device, known, told, rfl⟩
      obtain ⟨k, rfl, spelled⟩ := tells known
      exact absurd ((spelled _).1 told) (none k known)

/-- The second of two devices behind a loaded library. -/
theorem bus_id_lookup_second :
    let w := World.opening .bare .fresh (.loaded none [])
    w.machine.Visible 1 ∧ w.Tells 1 "0000:04:00.0" ∧
      ((Operation.deviceOfBusId (.text "0000:04:00.0")).perform.outcome w).1 =
        .ok (.device (.int 1)) := by
  intro w
  have visible : w.machine.Visible 1 := by decide
  have told : w.Tells 1 "0000:04:00.0" := rfl
  have lookup := bus_id_lookup (w := w) rfl (by decide) rfl (fun _ _ => Bool.false_ne_true)
    (fun _ _ => rfl) "0000:04:00.0" (by simp)
  exact ⟨visible, told, (lookup.1 _).2 ⟨1, visible, told, rfl⟩⟩

/-- A text with a zero in it over a loaded library: no device tells it, and it finds one. -/
theorem bus_id_lookup_cut :
    let w := World.opening .bare .fresh (.loaded none [])
    (∀ device, w.machine.Visible device → ¬w.Tells device "0000:03:00.0\x00x") ∧
      ((Operation.deviceOfBusId (.text "0000:03:00.0\x00x")).perform.outcome w).1 =
        .ok (.device (.int 0)) := by
  intro w
  constructor
  · intro device known told
    obtain ⟨n, rfl⟩ := Int.eq_ofNat_of_zero_le known.1
    have few : n < 2 := Int.ofNat_lt.1 known.2
    have spelled : BusId.text n = "0000:03:00.0\x00x" :=
      (World.tells_iff (w := w) rfl Bool.false_ne_true rfl rfl known (by omega) _).1 told
    have zero : '\x00' ∈ BusId.chars n := by
      rw [← String.toList_ofList (l := BusId.chars n)]
      show '\x00' ∈ (BusId.text n).toList
      rw [spelled]
      decide
    exact absurd (BusId.chars_plain zero).1 (by decide)
  · have cut : (Library.loaded none []).carriedText "0000:03:00.0\x00x" = BusId.text 0 := by
      decide +kernel
    obtain ⟨n, -, same, ended⟩ | ⟨none, -⟩ := Device.ofBusId_cases (w := w) rfl
      Bool.false_ne_true rfl (by decide) (s := "0000:03:00.0\x00x") (by simp)
    · obtain rfl := BusId.text_injective (same.trans cut)
      exact ended
    · exact absurd cut.symm (none 0 (by decide))

end GpuHandles
