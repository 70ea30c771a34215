import GpuHandles.Device
import Mathlib.Data.List.TakeWhile
/-!
Bus ids as text.

The characters of a bus id are few (`BusId.mem_chars`): it is ASCII, and has no zero byte, so that
it is read as it was written.  Reading its digits gives the number of the bus back
(`hexNumber_hexPadded`), so that no two devices have the same id (`BusId.device?_eq_some_iff`).  Up
to six digits the text fits the buffer, and fills it at six, with no zero byte behind it
(`BusId.untilZero_fillBuffer`).
-/

namespace GpuHandles

/-- What is read of a buffer ends where it was filled with zeros. -/
theorem Device.untilZero_fillBuffer (length : Nat) (bs : List UInt8) :
    untilZero (Machine.fillBuffer length bs) = untilZero (bs.take length) := by
  unfold untilZero Machine.fillBuffer
  have filling (n : Nat) : (List.replicate n (0 : UInt8)).takeWhile (· != 0) = [] := by
    rw [List.takeWhile_replicate, if_neg (by decide)]
  rw [List.takeWhile_append]
  split
  next whole =>
    rw [filling, List.append_nil]
    exact ((List.takeWhile_prefix _).eq_of_length whole).symm
  next => rfl

namespace BusId

/-! ## Characters -/

theorem mem_hexDigits (n : Nat) : ∀ c ∈ Text.hexDigits n, ∃ d < 16, c = Nat.digitChar d := by
  unfold Text.hexDigits
  induction n using Nat.strongRecOn with
  | ind n ih =>
    by_cases short : n < 16
    · rw [Nat.toDigits_of_lt_base short]
      intro c hc
      exact ⟨n, short, List.mem_singleton.1 hc⟩
    · rw [Nat.toDigits_of_base_le (by decide) (Nat.le_of_not_lt short)]
      intro c hc
      rcases List.mem_append.1 hc with front | last
      · exact ih (n / 16) (Nat.div_lt_self (by omega) (by decide)) c front
      · exact ⟨n % 16, Nat.mod_lt _ (by decide), List.mem_singleton.1 last⟩

/-- The characters that occur in a bus id. -/
theorem mem_chars {device : Nat} {c : Char} (hc : c ∈ chars device) :
    c = '0' ∨ c = ':' ∨ c = '.' ∨ ∃ d < 16, c = Nat.digitChar d := by
  unfold chars Text.hexPadded at hc
  simp only [List.mem_append, List.mem_replicate] at hc
  rcases hc with (front | ⟨-, rfl⟩ | digit) | back
  · have front : c = '0' ∨ c = ':' := by simpa using front
    exact front.imp_right .inl
  · exact .inl rfl
  · exact .inr (.inr (.inr (mem_hexDigits _ c digit)))
  · have back : c = ':' ∨ c = '0' ∨ c = '.' ∨ c = '0' := by simpa using back
    rcases back with colon | zero | point | zero
    · exact .inr (.inl colon)
    · exact .inl zero
    · exact .inr (.inr (.inl point))
    · exact .inl zero

/-- A bus id is plain text, without a zero character. -/
theorem chars_plain {device : Nat} {c : Char} (hc : c ∈ chars device) :
    0 < c.toNat ∧ c.toNat < 128 := by
  have digit : ∀ d < 16, 0 < (Nat.digitChar d).toNat ∧ (Nat.digitChar d).toNat < 128 := by decide
  rcases mem_chars hc with rfl | rfl | rfl | ⟨d, small, rfl⟩
  · decide
  · decide
  · decide
  · exact digit d small

/-- A byte of plain text is the number of its character. -/
theorem toNat_toBytes {c : Char} (plain : c.toNat < 128) : (UInt8.ofNat c.toNat).toNat = c.toNat :=
  (UInt8.toNat_ofNat' ..).trans (Nat.mod_eq_of_lt (by omega))

theorem bytes_ne_zero (device : Nat) : ∀ b ∈ bytes device, b ≠ 0 := by
  intro b hb
  obtain ⟨c, hc, rfl⟩ := List.mem_map.1 hb
  obtain ⟨positive, small⟩ := chars_plain hc
  intro zero
  have same : (UInt8.ofNat c.toNat).toNat = 0 := congrArg UInt8.toNat zero
  rw [toNat_toBytes small] at same
  omega

/-- Plain text is read back from its bytes. -/
theorem map_toBytes {cs : List Char} (plain : ∀ c ∈ cs, c.toNat < 128) :
    (toBytes cs).map (fun b => Char.ofNat b.toNat) = cs := by
  unfold toBytes
  rw [List.map_map]
  refine (List.map_congr_left fun c hc => ?_).trans (List.map_id cs)
  show Char.ofNat (UInt8.ofNat c.toNat).toNat = c
  rw [toNat_toBytes (plain c hc), Char.ofNat_toNat]

/-! ## Digits -/

theorem hexValue?_digitChar : ∀ d < 16, Text.hexValue? (Nat.digitChar d) = some d := by decide

/-- The last digit comes off the end. -/
theorem hexNumber_concat (cs : List Char) {d : Nat} (small : d < 16) :
    hexNumber (cs ++ [Nat.digitChar d]) = 16 * hexNumber cs + d := by
  unfold hexNumber
  rw [List.foldl_append, List.foldl_cons, List.foldl_nil, hexValue?_digitChar d small]
  rfl

theorem hexNumber_hexDigits (n : Nat) : hexNumber (Text.hexDigits n) = n := by
  unfold Text.hexDigits
  induction n using Nat.strongRecOn with
  | ind n ih =>
    by_cases short : n < 16
    · rw [Nat.toDigits_of_lt_base short]
      exact (hexNumber_concat [] short).trans (Nat.zero_add n)
    · rw [Nat.toDigits_of_base_le (by decide) (Nat.le_of_not_lt short),
        hexNumber_concat _ (Nat.mod_lt n (by decide)),
        ih (n / 16) (Nat.div_lt_self (by omega) (by decide))]
      exact Nat.div_add_mod n 16

theorem hexNumber_zeros (k : Nat) (cs : List Char) :
    hexNumber (List.replicate k '0' ++ cs) = hexNumber cs := by
  induction k with
  | zero => rfl
  | succ k ih => exact ih

/-- The digits of a number, however far they are filled with zeros, spell it. -/
theorem hexNumber_hexPadded (width n : Nat) : hexNumber (Text.hexPadded width n) = n :=
  (hexNumber_zeros _ _).trans (hexNumber_hexDigits n)

/-! ## Devices -/

/-- A bus id is a domain of five bytes, the digits, and a slot of five bytes. -/
theorem bytes_parts (device : Nat) : ∃ front back, front.length = 5 ∧ back.length = 5 ∧
    bytes device = front ++ (toBytes (Text.hexPadded 2 (device + 3)) ++ back) := by
  refine ⟨toBytes "0000:".toList, toBytes ":00.0".toList, rfl, rfl, ?_⟩
  unfold bytes chars toBytes
  rw [List.map_append, List.map_append, List.append_assoc]

/-- The digits between the domain and the slot. -/
theorem digits_bytes (device : Nat) :
    ((bytes device).drop 5).take ((bytes device).length - 10) =
      toBytes (Text.hexPadded 2 (device + 3)) := by
  obtain ⟨front, back, domain, slot, parts⟩ := bytes_parts device
  rw [parts, List.drop_left' domain]
  refine List.take_left' ?_
  rw [List.length_append, List.length_append]
  omega

/-- The device of a bus id is the one that it was written for. -/
theorem device?_bytes (device : Nat) : device? (bytes device) = some device := by
  have plain : ∀ c ∈ Text.hexPadded 2 (device + 3), c.toNat < 128 := fun c hc =>
    (chars_plain (List.mem_append_left _ (List.mem_append_right _ hc))).2
  have number : hexNumber ((((bytes device).drop 5).take ((bytes device).length - 10)).map
      fun b => Char.ofNat b.toNat) - 3 = device := by
    rw [digits_bytes, map_toBytes plain, hexNumber_hexPadded, Nat.add_sub_cancel]
  unfold device?
  dsimp only
  rw [number, if_pos rfl]

/-- Bytes are the bus id of one device at most. -/
theorem device?_eq_some_iff {bs : List UInt8} {device : Nat} :
    device? bs = some device ↔ bytes device = bs := by
  constructor
  · intro found
    unfold device? at found
    dsimp only at found
    split at found
    next same => exact Option.some.inj found ▸ same
    next => cases found
  · rintro rfl
    exact device?_bytes device

theorem bytes_injective : Function.Injective bytes := fun _ _ same =>
  Option.some.inj ((device?_bytes _).symm.trans (same ▸ device?_bytes _))

/-- A device is looked up by its bus id among all there are, from the first on. -/
theorem find?_bytes (count : Nat) (bs : List UInt8) :
    (List.range count).find? (fun device => bytes device == bs) =
      (device? bs).filter (· < count) := by
  cases found : device? bs with
  | some device =>
    obtain rfl := device?_eq_some_iff.1 found
    by_cases there : device < count
    · rw [Option.filter_some, if_pos (decide_eq_true there), List.find?_range_eq_some]
      refine ⟨beq_self_eq_true _, List.mem_range.2 there, fun other before => ?_⟩
      simpa using fun same => Nat.ne_of_lt before (bytes_injective same)
    · rw [Option.filter_some, if_neg (by simpa using there), List.find?_range_eq_none]
      intro other before
      have differs : bytes other ≠ bytes device := fun same => by
        cases bytes_injective same
        exact there before
      simpa using differs
  | none =>
    rw [Option.filter_none, List.find?_range_eq_none]
    intro other _
    simpa using fun same => Option.some_ne_none _ ((device?_eq_some_iff.2 same).symm.trans found)

/-! ## Texts -/

/-- The bus id of a device as a text. -/
def text (device : Nat) : String := String.ofList (chars device)

theorem decode_bytes (device : Nat) : Text.Ascii.decode (bytes device) = .ok (text device) := by
  have plain : ∀ c ∈ chars device, c.toNat < 128 := fun c hc => (chars_plain hc).2
  have all : (bytes device).dropWhile (· < 128) = [] := by
    rw [List.dropWhile_eq_nil_iff]
    intro b hb
    obtain ⟨c, hc, rfl⟩ := List.mem_map.1 hb
    refine decide_eq_true (UInt8.lt_iff_toNat_lt.2 ?_)
    rw [toNat_toBytes (plain c hc)]
    exact plain c hc
  unfold Text.Ascii.decode
  rw [all]
  exact congrArg (fun cs => Except.ok (String.ofList cs)) (map_toBytes plain)

/-- Plain text becomes bytes character by character. -/
theorem encode_plain {s : String} (plain : ∀ c ∈ s.toList, c.toNat < 128) :
    Text.Ascii.encode s = .ok (toBytes s.toList) := by
  have all : s.toList.dropWhile Text.Ascii.isAscii = [] := by
    rw [List.dropWhile_eq_nil_iff]
    exact fun c mem => decide_eq_true (plain c mem)
  unfold Text.Ascii.encode
  dsimp only
  rw [all]
  rfl

theorem encode_text (device : Nat) : Text.Ascii.encode (text device) = .ok (bytes device) := by
  have same : (text device).toList = chars device := String.toList_ofList
  rw [encode_plain fun c hc => (chars_plain (same ▸ hc)).2, same]
  rfl

theorem text_injective : Function.Injective text := fun d e same =>
  bytes_injective (Except.ok.inj ((encode_text d).symm.trans (same ▸ encode_text e)))

/-! ## The buffer -/

/-- Six digits are enough for a bus number of three bytes. -/
theorem length_bytes {device : Nat} (fits : device + 3 < 2 ^ 24) : (bytes device).length ≤ 16 := by
  have digits : (Text.hexDigits (device + 3)).length ≤ 6 :=
    (Nat.length_toDigits_le_iff (by decide) (by decide)).2 fits
  have padded : (toBytes (Text.hexPadded 2 (device + 3))).length ≤ 6 := by
    unfold toBytes Text.hexPadded
    rw [List.length_map, List.length_append, List.length_replicate]
    omega
  obtain ⟨front, back, domain, slot, parts⟩ := bytes_parts device
  rw [parts, List.length_append, List.length_append]
  omega

/-- A bus id survives a buffer that is long enough, also one that it fills to the last byte. -/
theorem untilZero_fillBuffer {device length : Nat} (fits : (bytes device).length ≤ length) :
    Device.untilZero (Machine.fillBuffer length (bytes device)) = bytes device := by
  rw [Device.untilZero_fillBuffer, List.take_of_length_le fits]
  exact List.takeWhile_eq_self_iff.2 fun b hb => by simpa using bytes_ne_zero device b hb

end BusId

/-- The bus id of a device is read as it was written. -/
theorem Device.busId_decodes {n : Nat} (fits : n + 3 < 2 ^ 24) :
    Text.Ascii.decode (untilZero (Machine.fillBuffer 16 (BusId.bytes n))) =
      .ok (BusId.text n) := by
  rw [BusId.untilZero_fillBuffer (BusId.length_bytes fits), BusId.decode_bytes]

namespace Machine

/-- What the machine writes into the buffer for the bus id of a device. -/
theorem busIdText_bytes {n : Nat} (fits : n + 3 < 2 ^ 24) :
    busIdText Device.busIdLength (.int n) = .ok (fillBuffer 16 (BusId.bytes n)) := by
  have bus : busNumber (.int n) = .ok ((n : Int) + 3) := rfl
  have written : BusId.ofBus ((n : Int) + 3) = BusId.bytes n := by
    unfold BusId.ofBus
    rw [if_pos (by omega), Int.add_sub_cancel, Int.toNat_natCast]
  unfold busIdText
  rw [bus]
  show (if (16 : Int).toNat < (BusId.ofBus ((n : Int) + 3)).length then _ else _) = _
  have short : ¬(16 : Int).toNat < (BusId.bytes n).length :=
    Nat.not_lt.2 (BusId.length_bytes fits)
  rw [written, if_neg short]
  rfl

end Machine

end GpuHandles
