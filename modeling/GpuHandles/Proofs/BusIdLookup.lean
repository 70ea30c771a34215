import GpuHandles.Proofs.BusIds
import GpuHandles.Proofs.DeviceNumbers
/-!
Devices found by their bus ids.

A device is asked for its bus id, and the text is looked up again.  The machine goes through the
devices from the first one on (`Machine.perform_deviceByBusId`), and since no two have the same id
the first match is the device that was asked (`bus_ids_identify`).
-/

namespace GpuHandles

namespace Machine

variable {m : Machine} {n : Nat}

/-- The machine's answer to the question for a bus id. -/
theorem busId_answered (unset : m.reports.busId = none) (known : m.Visible n)
    (fits : n + 3 < 2 ^ 24) : m.perform (.busId Device.busIdLength (.int n)) =
      m.answer (.bytes (fillBuffer 16 (BusId.bytes n))) := by
  show m.onDevice (.int n) (fun _ => m.busIdReply Device.busIdLength (.int n)) = _
  rw [onDevice_visible known]
  unfold busIdReply
  rw [busIdText_bytes fits, unset]
  rfl

/-- A bus id is looked up among all devices, from the first on. -/
theorem perform_deviceByBusId (m : Machine) (bs : List UInt8) :
    m.perform (.deviceByBusId bs) =
      match (List.range m.deviceCount.toNat).find? (fun device => BusId.bytes device == bs) with
      | some device => m.answer (.int device)
      | none => m.refuse .invalidDevice := by
  rw [BusId.find?_bytes]
  dsimp only [perform]
  cases BusId.device? bs with
  | none => rfl
  | some device =>
    have same : device < m.deviceCount.toNat ↔ (device : Int) < m.deviceCount := by omega
    rw [Option.filter_some]
    dsimp only
    by_cases there : (device : Int) < m.deviceCount
    · rw [if_pos there, if_pos (decide_eq_true (same.2 there))]
    · rw [if_neg there, if_neg (by simpa using mt same.1 there)]

/-- The first device with the bus id of a device is that device. -/
theorem find?_busId (known : m.Visible n) : (List.range m.deviceCount.toNat).find?
    (fun device => BusId.bytes device == BusId.bytes n) = some n := by
  have there : n < m.deviceCount.toNat := by
    have := known.2
    omega
  rw [BusId.find?_bytes, BusId.device?_bytes, Option.filter_some,
    if_pos (decide_eq_true there)]

end Machine

namespace Device

variable {w : World} {l : Library} {n : Nat}

/-- The bus id of a device that is there. -/
theorem busId_outcome (installed : w.library = some l) (present : ¬Loading.Absent w .busId)
    (quiet : w.machine.injected .busId = 0) (unset : w.machine.reports.busId = none)
    (known : w.machine.Visible n) (fits : n + 3 < 2 ^ 24) :
    ∃ w', (busId (.int n)).outcome w = (.ok (.text (BusId.text n)), w') ∧
      Passage w w' (w.machine.spend [.busId]) w.resources
        [(.busId busIdLength (.int n), 0)] := by
  have inside : (NativeCall.busId busIdLength (.int n)).Fits :=
    ⟨by decide, n, rfl, by omega, by omega⟩
  have arrived : Loading.arriving l (.busId busIdLength (.int n)) =
      .ok (.busId busIdLength (.int n)) := by
    cases l with
    | direct => rfl
    | loaded => exact NativeCall.narrow_of_fits inside
  obtain ⟨w', ended, way⟩ := Loading.request_answered installed arrived present quiet
    (Machine.busId_answered (m := w.machine.spend _) unset known fits)
  refine ⟨w', ?_, way⟩
  unfold busId
  rw [Action.outcome_bind_ok ended]
  dsimp only [Output.storedBytes]
  rw [busId_decodes fits]
  rfl

/-- A text in ASCII is looked up by one request. -/
theorem ofBusId_asks {s : String} {bs : List UInt8} (plain : Text.Ascii.encode s = .ok bs) :
    ofBusId (.text s) = Loading.request (.deviceByBusId bs) >>= fun out =>
      pure (.device (.int (out.storedInt (-1)))) := by
  have bytes : busIdBytes (.text s) = .ok bs := by
    unfold busIdBytes
    dsimp only
    rw [plain]
  simp only [ofBusId, Loading.request, bytes, Action.ofExcept, pure_bind, bind_assoc]
  rfl

/-- The lookup of a device by its bus id. -/
theorem ofBusId_outcome (installed : w.library = some l)
    (present : ¬Loading.Absent w .deviceByBusId) (quiet : w.machine.injected .deviceByBusId = 0)
    (known : w.machine.Visible n) (fits : n + 3 < 2 ^ 24) :
    ((ofBusId (.text (BusId.text n))).outcome w).1 = .ok (.device (.int n)) := by
  have inside : (NativeCall.deviceByBusId (BusId.bytes n)).Fits := fun zero =>
    BusId.bytes_ne_zero n 0 zero rfl
  have arrived : Loading.arriving l (.deviceByBusId (BusId.bytes n)) =
      .ok (.deviceByBusId (BusId.bytes n)) := by
    cases l with
    | direct => rfl
    | loaded => exact NativeCall.narrow_of_fits inside
  have found : (w.machine.spend [.deviceByBusId]).perform (.deviceByBusId (BusId.bytes n)) =
      (w.machine.spend [.deviceByBusId]).answer (.int n) := by
    rw [Machine.perform_deviceByBusId, Machine.find?_busId (m := w.machine.spend _) known]
  obtain ⟨w', ended, -⟩ := Loading.request_answered installed arrived present quiet found
  have kept : Width.int32 n = n := Width.int32_of_in ⟨by omega, by omega⟩
  rw [ofBusId_asks (BusId.encode_text n), Action.outcome_bind_ok ended, Action.outcome_pure,
    Output.storedInt, kept]

end Device

/-- **Bus ids identify devices.**  With no more devices than three bytes of bus numbers name, each
device that is there tells a text of its own, which survives the buffer; the first device with that
text is the device itself, and the lookup gives it back. -/
theorem bus_ids_identify {w : World} {l : Library} (installed : w.library = some l)
    (few : w.machine.deviceCount ≤ 2 ^ 24 - 3) (unset : w.machine.reports.busId = none)
    (whole : ∀ e ∈ [EntryPoint.busId, .deviceByBusId], ¬Loading.Absent w e)
    (quiet : ∀ e ∈ [EntryPoint.busId, .deviceByBusId], w.machine.injected e = 0)
    (n : Nat) (there : (n : Int) < w.machine.deviceCount) :
    let told := (Operation.ask (.int n) .busId).perform.outcome w
    told.1 = .ok (.text (BusId.text n)) ∧
      ((Operation.deviceOfBusId (.text (BusId.text n))).perform.outcome told.2).1 =
        .ok (.device (.int n)) ∧
      (∀ k, BusId.text k = BusId.text n → k = n) ∧
      Device.untilZero (Machine.fillBuffer 16 (BusId.bytes n)) = BusId.bytes n ∧
      (List.range w.machine.deviceCount.toNat).find?
        (fun device => BusId.bytes device == BusId.bytes n) = some n := by
  have fits : n + 3 < 2 ^ 24 := by omega
  have known : w.machine.Visible n := ⟨by omega, there⟩
  obtain ⟨w', ended, way⟩ := Device.busId_outcome installed (whole _ (.head _)) (quiet _ (.head _))
    unset known fits
  obtain ⟨l', installed'⟩ := Option.isSome_iff_exists.1 (way.isSome (by rw [installed]; rfl))
  have present : ¬Loading.Absent w' .deviceByBusId := by
    unfold Loading.Absent
    rw [way.machine]
    exact whole _ (.tail _ (.head _))
  have calm : w'.machine.injected .deviceByBusId = 0 := by
    rw [way.machine, Machine.injected_spend]
    exact quiet _ (.tail _ (.head _))
  have told : (Operation.ask (.int n) .busId).perform.outcome w = _ := ended
  intro asked
  refine ⟨congrArg Prod.fst told, ?_, fun k same => BusId.text_injective same,
    BusId.untilZero_fillBuffer (BusId.length_bytes fits), Machine.find?_busId known⟩
  show ((Device.ofBusId _).outcome asked.2).1 = _
  rw [show asked.2 = w' from congrArg Prod.snd told]
  exact Device.ofBusId_outcome installed' present calm (way.machine ▸ known) fits

/-- The last of the devices that have an id of six digits, over a loaded library: its id fills the
buffer to the last byte. -/
theorem bus_ids_identify_last :
    let w := World.opening .bare { Machine.fresh with deviceCount := 2 ^ 24 - 3 } (.loaded none [])
    let told := (Operation.ask (.int 16777212) .busId).perform.outcome w
    told.1 = .ok (.text "0000:ffffff:00.0") ∧
      ((Operation.deviceOfBusId (.text "0000:ffffff:00.0")).perform.outcome told.2).1 =
        .ok (.device (.int 16777212)) ∧
      (BusId.bytes 16777212).length = Device.busIdLength := by
  intro w
  have spelled : BusId.text 16777212 = "0000:ffffff:00.0" := by decide +kernel
  obtain ⟨told, found, -⟩ := bus_ids_identify (w := w) rfl (by decide) rfl
    (fun _ _ => Bool.false_ne_true) (fun _ _ => rfl) 16777212 (by decide)
  rw [spelled] at told found
  exact ⟨told, found, by decide +kernel⟩

end GpuHandles
