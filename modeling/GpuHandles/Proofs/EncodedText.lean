import GpuHandles.Text.Utf8
/-!
Text written as bytes and read again.

A run of bytes settles a character if the decoder tells it at the last of them and nothing before
(`Settles`).  The bytes of a character settle it (`settles_encodeChar`), and apart from the mark
nothing else does (`Settles.eq_encodeChar`).  So a text is read back from its bytes whatever follows
them (`decodeFrom_encode_append`), and bytes that are read without a mark are those of the text
(`eq_encode_of_unmarked`).  Of a text that is cut at some byte the whole characters stay, and one
mark stands for the character that is cut in two (`decodeFrom_take_encode`).
-/

namespace GpuHandles.Text.Utf8

/-! ## Bytes that settle a character -/

/-- Bytes that settle one character, at the last of them. -/
inductive Settles : Option Pending → List UInt8 → Char → Prop
  | last {p : Option Pending} {b : UInt8} {c : Char} (told : step p b = ([c], none)) :
      Settles p [b] c
  | more {p : Option Pending} {q : Pending} {b : UInt8} {bs : List UInt8} {c : Char}
      (silent : step p b = ([], some q)) (rest : Settles (some q) bs c) : Settles p (b :: bs) c

namespace Settles

variable {p : Option Pending} {bs : List UInt8} {c : Char}

/-- The decoder starts anew behind a character. -/
theorem decodeFrom_append (h : Settles p bs c) (rest : List UInt8) :
    decodeFrom p (bs ++ rest) = c :: decodeFrom none rest := by
  induction h with
  | last told =>
    rw [List.singleton_append, decodeFrom, told]
    rfl
  | more silent _ ih =>
    rw [List.cons_append, decodeFrom, silent]
    exact ih

/-- A character of which the last bytes are missing is a mark. -/
theorem decodeFrom_take (h : Settles p bs c) {n : Nat} (short : n < bs.length)
    (begun : p = none → 0 < n) : decodeFrom p (bs.take n) = [replacement] := by
  induction h generalizing n with
  | @last p b c told =>
    obtain rfl : n = 0 := Nat.lt_one_iff.1 short
    cases p with
    | none => exact absurd (begun rfl) (Nat.lt_irrefl 0)
    | some p => rfl
  | @more p q b bs c silent _ ih =>
    cases n with
    | zero =>
      cases p with
      | none => exact absurd (begun rfl) (Nat.lt_irrefl 0)
      | some p => rfl
    | succ n =>
      rw [List.take_succ_cons, decodeFrom, silent]
      exact ih (Nat.lt_of_succ_lt_succ short) nofun

end Settles

/-! ## Steps by the ranges of bytes -/

section Steps

variable {b : UInt8}

theorem lead_ascii (small : b.toNat < 0x80) : lead b = .character (Char.ofNat b.toNat) := by
  unfold lead
  dsimp only
  rw [if_pos small]

theorem lead_two (least : 0xc2 ≤ b.toNat) (most : b.toNat < 0xe0) :
    lead b = .sequence ⟨b.toNat - 0xc0, 1, 0x80, 0xbf⟩ := by
  unfold lead
  dsimp only
  rw [if_neg (by omega), if_neg (by omega), if_pos most]

theorem lead_three (least : 0xe0 ≤ b.toNat) (most : b.toNat < 0xf0) :
    lead b = .sequence ⟨b.toNat - 0xe0, 2,
      if b.toNat = 0xe0 then 0xa0 else 0x80, if b.toNat = 0xed then 0x9f else 0xbf⟩ := by
  unfold lead
  dsimp only
  rw [if_neg (by omega), if_neg (by omega), if_neg (by omega), if_pos most]

theorem lead_four (least : 0xf0 ≤ b.toNat) (most : b.toNat < 0xf5) :
    lead b = .sequence ⟨b.toNat - 0xf0, 3,
      if b.toNat = 0xf0 then 0x90 else 0x80, if b.toNat = 0xf4 then 0x8f else 0xbf⟩ := by
  unfold lead
  dsimp only
  rw [if_neg (by omega), if_neg (by omega), if_neg (by omega), if_neg (by omega), if_pos most]

theorem lead_broken (outside : 0x80 ≤ b.toNat ∧ b.toNat < 0xc2 ∨ 0xf5 ≤ b.toNat) :
    lead b = .broken := by
  unfold lead
  dsimp only
  rcases outside with ⟨least, most⟩ | least
  · rw [if_neg (by omega), if_pos most]
  · rw [if_neg (by omega), if_neg (by omega), if_neg (by omega), if_neg (by omega),
      if_neg (by omega)]

/-- A byte that may come next continues the sequence. -/
theorem step_within {p : Pending} (least : p.least ≤ b.toNat) (most : b.toNat ≤ p.greatest) :
    step (some p) b = advance p b :=
  if_pos (by simp [least, most])

/-- A byte that may not come next leaves a mark. -/
theorem step_outside {p : Pending} (outside : ¬(p.least ≤ b.toNat ∧ b.toNat ≤ p.greatest)) :
    step (some p) b = (replacement :: (start b).1, (start b).2) :=
  if_neg (by simpa using outside)

end Steps

/-! ## The bytes of a character -/

section Ranges

variable {c : Char}

/-- The numbers of characters: the surrogates are none. -/
theorem toNat_valid (c : Char) : c.toNat < 0xd800 ∨ 0xdfff < c.toNat ∧ c.toNat < 0x110000 := c.valid

theorem toNat_ofNat {n : Nat} (valid : n < 0xd800 ∨ 0xdfff < n ∧ n < 0x110000) :
    (Char.ofNat n).toNat = n := by
  unfold Char.ofNat
  rw [dif_pos valid]
  rfl

theorem encodeChar_one (most : c.toNat ≤ 127) : String.utf8EncodeChar c = [UInt8.ofNat c.toNat] :=
  if_pos most

theorem encodeChar_two (least : 127 < c.toNat) (most : c.toNat ≤ 2047) :
    String.utf8EncodeChar c =
      [UInt8.ofNat (c.toNat / 64 % 32 + 192), UInt8.ofNat (c.toNat % 64 + 128)] :=
  (if_neg (Nat.not_le.2 least)).trans (if_pos most)

theorem encodeChar_three (least : 2047 < c.toNat) (most : c.toNat ≤ 65535) :
    String.utf8EncodeChar c =
      [UInt8.ofNat (c.toNat / 4096 % 16 + 224), UInt8.ofNat (c.toNat / 64 % 64 + 128),
        UInt8.ofNat (c.toNat % 64 + 128)] :=
  (if_neg (Nat.not_le.2 (Nat.lt_trans (by decide) least))).trans
    ((if_neg (Nat.not_le.2 least)).trans (if_pos most))

theorem encodeChar_four (least : 65535 < c.toNat) : String.utf8EncodeChar c =
    [UInt8.ofNat (c.toNat / 262144 % 8 + 240), UInt8.ofNat (c.toNat / 4096 % 64 + 128),
      UInt8.ofNat (c.toNat / 64 % 64 + 128), UInt8.ofNat (c.toNat % 64 + 128)] :=
  (if_neg (Nat.not_le.2 (Nat.lt_trans (by decide) least))).trans
    ((if_neg (Nat.not_le.2 (Nat.lt_trans (by decide) least))).trans (if_neg (Nat.not_le.2 least)))

/-- The ranges of characters of one, two, three and four bytes. -/
theorem encodeChar_ranges (c : Char) : c.toNat ≤ 127 ∨ (127 < c.toNat ∧ c.toNat ≤ 2047) ∨
    (2047 < c.toNat ∧ c.toNat ≤ 65535) ∨ 65535 < c.toNat := by
  omega

end Ranges

/-! ## Characters read from their bytes -/

theorem toNat_byte {n : Nat} (small : n < 256) : (UInt8.ofNat n).toNat = n :=
  (UInt8.toNat_ofNat' ..).trans (Nat.mod_eq_of_lt small)

/-- A later byte of a character adds six bits of its number. -/
theorem step_tail {p : Pending} {n : Nat} (bits : p.bits = n / 64)
    (least : p.least ≤ n % 64 + 128) (most : n % 64 + 128 ≤ p.greatest) :
    step (some p) (UInt8.ofNat (n % 64 + 128)) =
      if p.owed ≤ 1 then ([Char.ofNat n], none) else ([], some ⟨n, p.owed - 1, 0x80, 0xbf⟩) := by
  have number : (UInt8.ofNat (n % 64 + 128)).toNat = n % 64 + 128 := toNat_byte (by omega)
  have joined : 64 * p.bits + (n % 64 + 128 - 0x80) = n := by omega
  rw [step_within (by rwa [number]) (by rwa [number])]
  unfold advance
  dsimp only
  rw [number, joined]

/-- The last byte of several. -/
theorem settles_one (c : Char) :
    Settles (some ⟨c.toNat / 64, 1, 0x80, 0xbf⟩) [UInt8.ofNat (c.toNat % 64 + 128)] c := by
  refine .last ((step_tail rfl (Nat.le_add_left 128 _) ?_).trans ?_)
  · dsimp only
    omega
  · rw [if_pos (Nat.le_refl 1), Char.ofNat_toNat]

/-- The last two bytes of several; what came before may narrow the first of them. -/
theorem settles_two (c : Char) {least most : Nat} (above : least ≤ c.toNat / 64 % 64 + 128)
    (below : c.toNat / 64 % 64 + 128 ≤ most) :
    Settles (some ⟨c.toNat / 4096, 2, least, most⟩)
      [UInt8.ofNat (c.toNat / 64 % 64 + 128), UInt8.ofNat (c.toNat % 64 + 128)] c := by
  refine .more ((step_tail ?_ above below).trans rfl) (settles_one c)
  exact (Nat.div_div_eq_div_mul c.toNat 64 64).symm

/-- The last three bytes of four. -/
theorem settles_three (c : Char) {least most : Nat} (above : least ≤ c.toNat / 4096 % 64 + 128)
    (below : c.toNat / 4096 % 64 + 128 ≤ most) :
    Settles (some ⟨c.toNat / 262144, 3, least, most⟩)
      [UInt8.ofNat (c.toNat / 4096 % 64 + 128), UInt8.ofNat (c.toNat / 64 % 64 + 128),
        UInt8.ofNat (c.toNat % 64 + 128)] c := by
  refine .more ((step_tail ?_ above below).trans rfl)
    (settles_two c (Nat.le_add_left 128 _) (by omega))
  exact (Nat.div_div_eq_div_mul c.toNat 4096 64).symm

/-- A byte that begins a sequence tells nothing yet. -/
theorem step_lead {b : UInt8} {p : Pending} (begins : lead b = .sequence p) :
    step none b = ([], some p) := by
  show start b = _
  unfold start
  rw [begins]

/-- **A character is settled by the bytes that it is written as.** -/
theorem settles_encodeChar (c : Char) : Settles none (String.utf8EncodeChar c) c := by
  have valid := toNat_valid c
  obtain one | ⟨least, two⟩ | ⟨least, three⟩ | four := encodeChar_ranges c
  · have number : (UInt8.ofNat c.toNat).toNat = c.toNat := toNat_byte (by omega)
    rw [encodeChar_one one]
    refine .last ?_
    show start _ = _
    unfold start
    rw [lead_ascii (by omega), number, Char.ofNat_toNat]
  · have first : (UInt8.ofNat (c.toNat / 64 % 32 + 192)).toNat = c.toNat / 64 + 192 :=
      (toNat_byte (by omega)).trans (by omega)
    rw [encodeChar_two least two]
    refine .more (step_lead (lead_two (by omega) (by omega))) ?_
    rw [first, Nat.add_sub_cancel]
    exact settles_one c
  · have first : (UInt8.ofNat (c.toNat / 4096 % 16 + 224)).toNat = c.toNat / 4096 + 224 :=
      (toNat_byte (by omega)).trans (by omega)
    rw [encodeChar_three least three]
    refine .more (step_lead (lead_three (by omega) (by omega))) ?_
    rw [first, Nat.add_sub_cancel]
    exact settles_two c (by split <;> omega) (by split <;> omega)
  · have first : (UInt8.ofNat (c.toNat / 262144 % 8 + 240)).toNat = c.toNat / 262144 + 240 :=
      (toNat_byte (by omega)).trans (by omega)
    rw [encodeChar_four four]
    refine .more (step_lead (lead_four (by omega) (by omega))) ?_
    rw [first, Nat.add_sub_cancel]
    exact settles_three c (by split <;> omega) (by split <;> omega)

/-! ## Bytes of what is read -/

section Unmarked

variable {p : Pending} {b : UInt8} {bs : List UInt8} {c : Char}

/-- The first byte of what settles a character within a sequence, unless that is the mark. -/
theorem Settles.tail (h : Settles (some p) bs c) (unmarked : c ≠ replacement) :
    ∃ b rest, bs = b :: rest ∧ (p.least ≤ b.toNat ∧ b.toNat ≤ p.greatest) ∧
      if p.owed ≤ 1 then rest = [] ∧ c = Char.ofNat (64 * p.bits + (b.toNat - 0x80))
      else Settles (some ⟨64 * p.bits + (b.toNat - 0x80), p.owed - 1, 0x80, 0xbf⟩) rest c := by
  cases h with
  | @last _ b _ told =>
    by_cases within : p.least ≤ b.toNat ∧ b.toNat ≤ p.greatest
    · rw [step_within within.1 within.2] at told
      unfold advance at told
      dsimp only at told
      split at told
      next last =>
        refine ⟨b, [], rfl, within, ?_⟩
        rw [if_pos last]
        exact ⟨rfl, by simpa using told.symm⟩
      next => cases told
    · rw [step_outside within] at told
      exact absurd (List.cons.inj (congrArg Prod.fst told)).1.symm unmarked
  | @more _ q b rest _ silent settled =>
    by_cases within : p.least ≤ b.toNat ∧ b.toNat ≤ p.greatest
    · rw [step_within within.1 within.2] at silent
      unfold advance at silent
      dsimp only at silent
      split at silent
      next => cases silent
      next more =>
        obtain rfl := Option.some.inj (Prod.mk.inj silent).2
        refine ⟨b, rest, rfl, within, ?_⟩
        rw [if_neg more]
        exact settled
    · rw [step_outside within] at silent
      cases silent

/-- The first byte of a character is all of it, or begins a sequence. -/
theorem Settles.head (h : Settles none bs c) (unmarked : c ≠ replacement) :
    (∃ b, bs = [b] ∧ lead b = .character c) ∨
      ∃ b p rest, bs = b :: rest ∧ lead b = .sequence p ∧ Settles (some p) rest c := by
  cases h with
  | @last _ b _ told =>
    have told : start b = ([c], none) := told
    unfold start at told
    cases begins : lead b with
    | character d =>
      rw [begins] at told
      obtain rfl := (List.cons.inj (congrArg Prod.fst told)).1
      exact .inl ⟨b, rfl, begins⟩
    | sequence p =>
      rw [begins] at told
      cases told
    | broken =>
      rw [begins] at told
      exact absurd (List.cons.inj (congrArg Prod.fst told)).1.symm unmarked
  | @more _ q b rest _ silent settled =>
    have silent : start b = ([], some q) := silent
    unfold start at silent
    cases begins : lead b with
    | sequence p =>
      rw [begins] at silent
      obtain rfl := Option.some.inj (Prod.mk.inj silent).2
      exact .inr ⟨b, p, rest, rfl, begins, settled⟩
    | character d =>
      rw [begins] at silent
      cases silent
    | broken =>
      rw [begins] at silent
      cases silent

/-- The last byte of several. -/
theorem Settles.last_one {n : Nat} (h : Settles (some ⟨n, 1, 0x80, 0xbf⟩) bs c)
    (unmarked : c ≠ replacement) : ∃ b, bs = [b] ∧ (0x80 ≤ b.toNat ∧ b.toNat ≤ 0xbf) ∧
      c = Char.ofNat (64 * n + (b.toNat - 0x80)) := by
  obtain ⟨b, rest, rfl, within, ended⟩ := h.tail unmarked
  rw [if_pos (Nat.le_refl 1)] at ended
  exact ⟨b, ended.1 ▸ rfl, within, ended.2⟩

/-- The last two bytes of several. -/
theorem Settles.last_two {n least most : Nat} (h : Settles (some ⟨n, 2, least, most⟩) bs c)
    (unmarked : c ≠ replacement) : ∃ b₁ b₂, bs = [b₁, b₂] ∧ (least ≤ b₁.toNat ∧ b₁.toNat ≤ most) ∧
      (0x80 ≤ b₂.toNat ∧ b₂.toNat ≤ 0xbf) ∧
      c = Char.ofNat (64 * (64 * n + (b₁.toNat - 0x80)) + (b₂.toNat - 0x80)) := by
  obtain ⟨b₁, rest, rfl, within, settled⟩ := h.tail unmarked
  rw [if_neg (Nat.not_le.2 (by decide : 1 < 2))] at settled
  obtain ⟨b₂, rfl, within', number⟩ := settled.last_one unmarked
  exact ⟨b₁, b₂, rfl, within, within', number⟩

/-- The last three bytes of four. -/
theorem Settles.last_three {n least most : Nat} (h : Settles (some ⟨n, 3, least, most⟩) bs c)
    (unmarked : c ≠ replacement) : ∃ b₁ b₂ b₃, bs = [b₁, b₂, b₃] ∧
      (least ≤ b₁.toNat ∧ b₁.toNat ≤ most) ∧ (0x80 ≤ b₂.toNat ∧ b₂.toNat ≤ 0xbf) ∧
      (0x80 ≤ b₃.toNat ∧ b₃.toNat ≤ 0xbf) ∧
      c = Char.ofNat (64 * (64 * (64 * n + (b₁.toNat - 0x80)) + (b₂.toNat - 0x80)) +
        (b₃.toNat - 0x80)) := by
  obtain ⟨b₁, rest, rfl, within, settled⟩ := h.tail unmarked
  rw [if_neg (Nat.not_le.2 (by decide : 1 < 3))] at settled
  obtain ⟨b₂, b₃, rfl, within', within'', number⟩ := settled.last_two unmarked
  exact ⟨b₁, b₂, b₃, rfl, within, within', within'', number⟩

theorem eq_byte {n : Nat} (same : b.toNat = n) : b = UInt8.ofNat n := by
  rw [← same, UInt8.ofNat_toNat]

/-- The ranges of what a byte between characters may be. -/
theorem lead_ranges (b : UInt8) : b.toNat < 0x80 ∨ (0xc2 ≤ b.toNat ∧ b.toNat < 0xe0) ∨
    (0xe0 ≤ b.toNat ∧ b.toNat < 0xf0) ∨ (0xf0 ≤ b.toNat ∧ b.toNat < 0xf5) ∨
    (0x80 ≤ b.toNat ∧ b.toNat < 0xc2 ∨ 0xf5 ≤ b.toNat) := by
  omega

/-- **Bytes that settle a character are those that it is written as**, unless it is the mark. -/
theorem Settles.eq_encodeChar (h : Settles none bs c) (unmarked : c ≠ replacement) :
    bs = String.utf8EncodeChar c := by
  obtain ⟨b, rfl, begins⟩ | ⟨b, p, rest, rfl, begins, settled⟩ := h.head unmarked
  · obtain ascii | ⟨least, most⟩ | ⟨least, most⟩ | ⟨least, most⟩ | outside := lead_ranges b
    · obtain rfl := Lead.character.inj ((lead_ascii ascii).symm.trans begins)
      have number := toNat_ofNat (n := b.toNat) (by omega)
      rw [encodeChar_one (by omega), number, UInt8.ofNat_toNat]
    · cases (lead_two least most).symm.trans begins
    · cases (lead_three least most).symm.trans begins
    · cases (lead_four least most).symm.trans begins
    · cases (lead_broken outside).symm.trans begins
  · obtain ascii | ⟨least, most⟩ | ⟨least, most⟩ | ⟨least, most⟩ | outside := lead_ranges b
    · cases (lead_ascii ascii).symm.trans begins
    · have same := Lead.sequence.inj (begins.symm.trans (lead_two least most))
      rw [same] at settled
      obtain ⟨b₁, rfl, within, spelled⟩ := settled.last_one unmarked
      have number := (congrArg Char.toNat spelled).trans (toNat_ofNat (by omega))
      rw [encodeChar_two (by omega) (by omega), number, ← eq_byte (by omega : b.toNat = _),
        ← eq_byte (by omega : b₁.toNat = _)]
    · have same := Lead.sequence.inj (begins.symm.trans (lead_three least most))
      rw [same] at settled
      obtain ⟨b₁, b₂, rfl, within, within', spelled⟩ := settled.last_two unmarked
      have narrowed : (0x80 ≤ b₁.toNat ∧ b₁.toNat ≤ 0xbf) ∧ (b.toNat = 0xe0 → 0xa0 ≤ b₁.toNat) ∧
          (b.toNat = 0xed → b₁.toNat ≤ 0x9f) := by grind
      have number := (congrArg Char.toNat spelled).trans (toNat_ofNat (by omega))
      rw [encodeChar_three (by omega) (by omega), number, ← eq_byte (by omega : b.toNat = _),
        ← eq_byte (by omega : b₁.toNat = _), ← eq_byte (by omega : b₂.toNat = _)]
    · have same := Lead.sequence.inj (begins.symm.trans (lead_four least most))
      rw [same] at settled
      obtain ⟨b₁, b₂, b₃, rfl, within, within', within'', spelled⟩ := settled.last_three unmarked
      have narrowed : (0x80 ≤ b₁.toNat ∧ b₁.toNat ≤ 0xbf) ∧ (b.toNat = 0xf0 → 0x90 ≤ b₁.toNat) ∧
          (b.toNat = 0xf4 → b₁.toNat ≤ 0x8f) := by grind
      have number := (congrArg Char.toNat spelled).trans (toNat_ofNat (by omega))
      rw [encodeChar_four (by omega), number, ← eq_byte (by omega : b.toNat = _),
        ← eq_byte (by omega : b₁.toNat = _), ← eq_byte (by omega : b₂.toNat = _),
        ← eq_byte (by omega : b₃.toNat = _)]
    · cases (lead_broken outside).symm.trans begins

/-- A byte tells a character, or continues a sequence in silence, or leaves a mark. -/
theorem step_cases (p : Option Pending) (b : UInt8) :
    (∃ c, step p b = ([c], none)) ∨ (∃ q, step p b = ([], some q)) ∨
      replacement ∈ (step p b).1 := by
  cases p with
  | none =>
    show (∃ c, start b = _) ∨ (∃ q, start b = _) ∨ _
    unfold start
    cases lead b with
    | character c => exact .inl ⟨c, rfl⟩
    | sequence q => exact .inr (.inl ⟨q, rfl⟩)
    | broken => exact .inl ⟨replacement, rfl⟩
  | some p =>
    by_cases within : p.least ≤ b.toNat ∧ b.toNat ≤ p.greatest
    · rw [step_within within.1 within.2]
      unfold advance
      dsimp only
      split
      · exact .inl ⟨_, rfl⟩
      · exact .inr (.inl ⟨_, rfl⟩)
    · rw [step_outside within]
      exact .inr (.inr List.mem_cons_self)

/-- Bytes that are read without a mark begin with those of a character. -/
theorem unmarked_cases {p : Option Pending} (unmarked : replacement ∉ decodeFrom p bs) :
    p = none ∧ bs = [] ∨ ∃ part rest c, bs = part ++ rest ∧ Settles p part c := by
  induction bs generalizing p with
  | nil =>
    cases p with
    | none => exact .inl ⟨rfl, rfl⟩
    | some p => exact absurd List.mem_cons_self unmarked
  | cons b bs ih =>
    refine .inr ?_
    rw [decodeFrom, List.mem_append, not_or] at unmarked
    obtain ⟨c, told⟩ | ⟨q, silent⟩ | marked := step_cases p b
    · exact ⟨[b], bs, c, rfl, .last told⟩
    · rw [silent] at unmarked
      obtain ⟨none, -⟩ | ⟨part, rest, c, rfl, settled⟩ := ih unmarked.2
      · cases none
      · exact ⟨b :: part, rest, c, rfl, .more silent settled⟩
    · exact absurd marked unmarked.1

end Unmarked

/-! ## Texts -/

/-- **A text is read back from its bytes**, whatever follows them. -/
theorem decodeFrom_encode_append (cs : List Char) (bs : List UInt8) :
    decodeFrom none (cs.flatMap String.utf8EncodeChar ++ bs) = cs ++ decodeFrom none bs := by
  induction cs with
  | nil => rfl
  | cons c cs ih =>
    rw [List.flatMap_cons, List.append_assoc, (settles_encodeChar c).decodeFrom_append, ih]
    rfl

theorem decode_encode (s : String) : decode (encode s) = s := by
  have whole := decodeFrom_encode_append s.toList []
  rw [List.append_nil, show decodeFrom none [] = [] from rfl, List.append_nil] at whole
  exact (congrArg String.ofList whole).trans (String.ofList_toList ..)

/-- **Bytes that are read without a mark are those of the text.** -/
theorem eq_encode_of_unmarked {bs : List UInt8} (unmarked : replacement ∉ decodeFrom none bs) :
    bs = (decodeFrom none bs).flatMap String.utf8EncodeChar := by
  induction size : bs.length using Nat.strongRecOn generalizing bs with
  | ind n ih =>
    obtain ⟨-, rfl⟩ | ⟨part, rest, c, rfl, settled⟩ := unmarked_cases unmarked
    · rfl
    · rw [settled.decodeFrom_append, List.mem_cons, not_or] at unmarked
      have own := settled.eq_encodeChar (Ne.symm unmarked.1)
      have shorter : rest.length < n := by
        have filled := List.length_pos_iff.2 (own ▸ String.utf8EncodeChar_ne_nil : part ≠ [])
        rw [List.length_append] at size
        omega
      rw [settled.decodeFrom_append, List.flatMap_cons, ← own, ← ih _ shorter unmarked.2 rfl]

/-- What is read of the characters of a text in a number of bytes: those that fit, and a mark where
the next is cut in two. -/
def cut : Nat → List Char → List Char
  | _, [] => []
  | room, c :: cs =>
    if c.utf8Size ≤ room then c :: cut (room - c.utf8Size) cs
    else if room = 0 then []
    else [replacement]

/-- **Of a text that is cut** the whole characters stay, and at most one mark. -/
theorem decodeFrom_take_encode (room : Nat) (cs : List Char) :
    decodeFrom none ((cs.flatMap String.utf8EncodeChar).take room) = cut room cs := by
  induction cs generalizing room with
  | nil =>
    rw [List.flatMap_nil, List.take_nil]
    rfl
  | cons c cs ih =>
    have size := String.length_utf8EncodeChar c
    rw [List.flatMap_cons, List.take_append, size, cut]
    by_cases fits : c.utf8Size ≤ room
    · rw [if_pos fits, List.take_of_length_le (size ▸ fits),
        (settles_encodeChar c).decodeFrom_append, ih]
    · have short : room < (String.utf8EncodeChar c).length := by omega
      rw [if_neg fits, Nat.sub_eq_zero_of_le (by omega), List.take_zero, List.append_nil]
      by_cases empty : room = 0
      · rw [if_pos empty, empty]
        rfl
      · rw [if_neg empty]
        exact (settles_encodeChar c).decodeFrom_take short fun _ => Nat.pos_of_ne_zero empty

/-- A text that fits is not cut. -/
theorem cut_eq_self {room : Nat} {cs : List Char}
    (fits : (cs.flatMap String.utf8EncodeChar).length ≤ room) : cut room cs = cs := by
  rw [← decodeFrom_take_encode, List.take_of_length_le fits,
    ← List.append_nil (cs.flatMap String.utf8EncodeChar), decodeFrom_encode_append]
  exact List.append_nil cs

/-! ## Zeros -/

/-- Only the zero character is written with a zero byte. -/
theorem zero_notMem_encodeChar {c : Char} (other : c ≠ '\x00') : 0 ∉ String.utf8EncodeChar c := by
  have byte {n : Nat} (positive : 0 < n) (small : n < 256) : 0 ≠ UInt8.ofNat n := fun zero => by
    have number := congrArg UInt8.toNat zero
    rw [toNat_byte small] at number
    exact absurd number.symm (Nat.ne_of_gt positive)
  have positive : 0 < c.toNat := Nat.pos_of_ne_zero fun zero => other <| by
    rw [← Char.ofNat_toNat c, zero]
  obtain one | ⟨least, two⟩ | ⟨least, three⟩ | four := encodeChar_ranges c
  · rw [encodeChar_one one, List.mem_singleton]
    exact byte positive (by omega)
  · rw [encodeChar_two least two]
    simp only [List.mem_cons, List.not_mem_nil, or_false, not_or]
    exact ⟨byte (by omega) (by omega), byte (by omega) (by omega)⟩
  · rw [encodeChar_three least three]
    simp only [List.mem_cons, List.not_mem_nil, or_false, not_or]
    exact ⟨byte (by omega) (by omega), byte (by omega) (by omega), byte (by omega) (by omega)⟩
  · rw [encodeChar_four four]
    simp only [List.mem_cons, List.not_mem_nil, or_false, not_or]
    exact ⟨byte (by omega) (by omega), byte (by omega) (by omega), byte (by omega) (by omega),
      byte (by omega) (by omega)⟩

/-- A text without a zero character has no zero byte. -/
theorem zero_notMem_encode {s : String} (free : '\x00' ∉ s.toList) : 0 ∉ encode s := by
  intro zero
  obtain ⟨c, mem, zero⟩ := List.mem_flatMap.1 zero
  exact zero_notMem_encodeChar (fun same => free (same ▸ mem)) zero

end GpuHandles.Text.Utf8
