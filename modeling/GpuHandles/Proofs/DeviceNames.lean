import GpuHandles.Proofs.BusIds
import GpuHandles.Proofs.DeviceNumbers
import GpuHandles.Proofs.EncodedText
/-!
Names of devices.

The runtime writes a name into a buffer of 256 bytes (`World.Writes`), and what is told is the text
of the bytes before the first zero (`Device.name_told`).  Any bytes are told as some text.  A text
that is written without a zero is told as it is if it fits the buffer, and else as its front with a
mark for a character that is cut in two; and a text without a mark is told only of its own bytes
(`device_names_decode`).
-/

namespace GpuHandles

/-- Bytes are written for the name of a device: the library can be had, nothing keeps the call from
the machine, the value that arrives is that of a device, and the buffer holds the bytes as far as
there is room, then zeros. -/
structure World.Writes (w : World) (device : Value) (bs : List UInt8) : Prop where
  arrives : ∃ l d, (Loading.library.outcome w).1 = .ok l ∧
    Loading.arriving l (.deviceName Device.nameLength device) =
      .ok (.deviceName Device.nameLength d) ∧
    w.machine.hasDevice d = .ok true ∧
    w.machine.nameBuffer Device.nameLength d = Machine.fillBuffer 256 bs
  present : ¬Loading.Absent w .deviceName
  quiet : w.machine.injected .deviceName = 0

/-- A name that is set up is written for every number that arrives as that of a device. -/
theorem World.writes_of_visible {w : World} {l : Library} {n : Int} {bs : List UInt8}
    (had : (Loading.library.outcome w).1 = .ok l) (known : w.machine.Visible (l.carried n))
    (name : w.machine.reports.name = some bs) (present : ¬Loading.Absent w .deviceName)
    (quiet : w.machine.injected .deviceName = 0) : w.Writes (.int n) bs where
  arrives := by
    refine ⟨l, .int (l.carried n), had, ?_, ?_, ?_⟩
    · cases l <;> rfl
    · rw [Machine.hasDevice_visible, decide_eq_true known]
    · unfold Machine.nameBuffer
      rw [name]
      rfl
  present := present
  quiet := quiet

/-- What a device is told to be named. -/
def World.nameTold (w : World) (device : Value) : Except Fault Value :=
  ((Operation.ask device .name).perform.outcome w).1

section

variable {w : World} {device : Value} {bs : List UInt8}

/-- What is told of a name: the text of the bytes before the first zero. -/
theorem Device.name_told (writes : w.Writes device bs) :
    w.nameTold device = .ok (.text (Text.Utf8.decode (untilZero (bs.take 256)))) := by
  obtain ⟨l, d, had, arrived, known, written⟩ := writes.arrives
  obtain ⟨w', ended⟩ := Loading.request_had_replied had arrived writes.present writes.quiet
  have reply : ((w.machine.spend [.deviceName]).perform (.deviceName nameLength d)).1 =
      .code 0 (.bytes (Machine.fillBuffer 256 bs)) := by
    have seen : (w.machine.spend [.deviceName]).hasDevice d = .ok true := known
    have buffer : (w.machine.spend [.deviceName]).nameBuffer nameLength d =
      Machine.fillBuffer 256 bs := written
    dsimp only [Machine.perform]
    unfold Machine.onDevice
    rw [seen, buffer]
    rfl
  dsimp only [NativeCall.entryPoint] at ended
  rw [reply, Loading.checked_zero] at ended
  show ((name device).outcome w).1 = _
  unfold name
  rw [Action.outcome_bind_ok ended]
  dsimp only [Output.storedBytes]
  rw [untilZero_fillBuffer]
  rfl

/-- Bytes without a zero are read to the end of the buffer. -/
theorem Device.untilZero_take {length : Nat} (free : 0 ∉ bs) :
    untilZero (bs.take length) = bs.take length := by
  refine List.takeWhile_eq_self_iff.2 fun b mem => ?_
  have other : b ≠ 0 := fun zero => free (zero ▸ List.mem_of_mem_take mem)
  simpa using other

/-- **Names of devices.**  Whatever bytes are written for a name, a text is told, and

* it depends on no more than the bytes before the first zero, all 256 if there is none: the same
  are told alike of every device, in every world and through every library;
* a text without a zero is told as it is if its bytes fit, and else up to the first character that
  does not, with a mark if that is cut in two;
* a text without a mark is told exactly if the bytes are its own. -/
theorem device_names_decode (writes : w.Writes device bs) :
    let read := Device.untilZero (bs.take 256)
    w.nameTold device = .ok (.text (Text.Utf8.decode read)) ∧
    (∀ (v : World) other bs', v.Writes other bs' → Device.untilZero (bs'.take 256) = read →
      v.nameTold other = w.nameTold device) ∧
    (∀ t : String, '\x00' ∉ t.toList → bs = Text.Utf8.encode t →
      w.nameTold device = .ok (.text (String.ofList (Text.Utf8.cut 256 t.toList))) ∧
      (bs.length ≤ 256 → w.nameTold device = .ok (.text t))) ∧
    ∀ t : String, Text.Utf8.replacement ∉ t.toList →
      (w.nameTold device = .ok (.text t) ↔ read = Text.Utf8.encode t) := by
  intro read
  have told : w.nameTold device = .ok (.text (Text.Utf8.decode read)) := Device.name_told writes
  refine ⟨told, ?_, ?_, ?_⟩
  · intro v other bs' writes' same
    rw [told, Device.name_told writes', same]
  · rintro t free rfl
    have whole : read = (Text.Utf8.encode t).take 256 :=
      Device.untilZero_take (Text.Utf8.zero_notMem_encode free)
    have cut : Text.Utf8.decode read = String.ofList (Text.Utf8.cut 256 t.toList) := by
      rw [whole]
      exact congrArg String.ofList (Text.Utf8.decodeFrom_take_encode 256 t.toList)
    rw [told, cut]
    refine ⟨rfl, fun fits => ?_⟩
    rw [Text.Utf8.cut_eq_self fits, String.ofList_toList]
  · intro t unmarked
    constructor
    · intro same
      have spelled : Text.Utf8.decode read = t :=
        Value.text.inj (Except.ok.inj (told.symm.trans same))
      have characters : Text.Utf8.decodeFrom none read = t.toList := by
        rw [← spelled]
        exact (String.toList_ofList ..).symm
      rw [← characters] at unmarked
      rw [Text.Utf8.eq_encode_of_unmarked unmarked, characters]
      rfl
    · intro own
      rw [told, own, Text.Utf8.decode_encode]

end

/-- A name of 86 characters of three bytes each, through a loaded library: the last one is cut. -/
theorem device_names_decode_cut :
    let bs := Text.Utf8.encode (String.ofList (List.replicate 86 '€'))
    let w := World.opening .bare
      { Machine.fresh with reports := { Reports.standard with name := some bs } } (.loaded none [])
    w.Writes (.int 1) bs ∧ bs.length = 258 ∧
      w.nameTold (.int 1) =
        .ok (.text (String.ofList (List.replicate 85 '€' ++ [Text.Utf8.replacement]))) := by
  intro bs w
  have writes : w.Writes (.int 1) bs :=
    World.writes_of_visible (l := .loaded none []) rfl (by decide) rfl Bool.false_ne_true rfl
  have letters : (String.ofList (List.replicate 86 '€')).toList = List.replicate 86 '€' :=
    String.toList_ofList
  have long : bs.length = 258 := by
    unfold bs Text.Utf8.encode
    rw [letters]
    decide +kernel
  have left : Text.Utf8.cut 256 (List.replicate 86 '€') =
      List.replicate 85 '€' ++ [Text.Utf8.replacement] := by decide +kernel
  have free : '\x00' ∉ (String.ofList (List.replicate 86 '€')).toList := by
    rw [letters]
    decide +kernel
  obtain ⟨-, -, cut, -⟩ := device_names_decode writes
  refine ⟨writes, long, (cut _ free rfl).1.trans ?_⟩
  rw [letters, left]

end GpuHandles
