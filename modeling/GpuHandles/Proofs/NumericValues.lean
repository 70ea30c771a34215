import GpuHandles.Proofs.Bare
/-!
Numbers among the values.

What the interface calls a number comes in many kinds (`Value.Numeric`), and each is compared with
whole numbers as the quantity that it is (`Numeric.compared`).  A whole number of any of these kinds
(`Value.IsWhole`) has the place of that number among the whole numbers, and stands for it wherever
one is asked for.
-/

namespace GpuHandles

namespace Number

variable {n : Number} {b : Int}

/-- A whole number of any kind has its place among the whole numbers. -/
theorem order_whole (whole : n.whole? = some b) (a : Int) :
    (int a).order n = some (compare a b) ∧ n.order (int a) = some (compare b a) := by
  cases n with
  | int n =>
    cases whole
    exact ⟨order_int a b, order_int b a⟩
  | truth c =>
    cases whole
    exact ⟨order_int a (ofTruth c), order_int (ofTruth c) a⟩
  | real | complex => cases whole

end Number

/-- The kind of number that elements of a type are. -/
def ElementType.Holds : ElementType → Number → Prop
  | bool, .truth _ | whole .., .int _ | real .., .real _ | complex .., .complex .. => True
  | _, _ => False

/-- Elements that are whole numbers have no format that others are rounded to. -/
theorem ElementType.Holds.format?_whole {t : ElementType} {n : Number} {b : Int} (h : t.Holds n)
    (whole : n.whole? = some b) : t.format? = none := by
  cases t with
  | bool | whole => rfl
  | real | complex =>
    cases n with
    | real | complex => cases whole
    | _ => exact h.elim
  | _ => cases n <;> exact h.elim

namespace Value

/-- Numbers of every kind: truth values, whole and floating numbers, elements of arrays, and the
members of numeric enumerations. -/
def Numeric : Value → Prop
  | truth _ | int _ | float _ => True
  | scalar t _ n => t.Holds n
  | member e m => e.isNumeric = true ∧ ∃ n, m.constant = .number n
  | _ => False

/-- A whole number of any kind: also a truth value, an element of an array, or a member of a numeric
enumeration. -/
def IsWhole (v : Value) (n : Int) : Prop := v.Numeric ∧ v.index? = some n

variable {v : Value} {b n : Int}

/-- A number of any kind is compared as the quantity that it is. -/
theorem Numeric.compared (h : v.Numeric) : ∃ q, v.quantity? = some q ∧ ∀ r a,
    (int a).compare r v = .ok (r.holds ((Quantity.plain (.int a)).order q)) ∧
      v.compare r (int a) = .ok (r.holds (q.order (.plain (.int a)))) := by
  cases v with
  | truth | float | scalar => exact ⟨_, rfl, fun r a => ⟨rfl, rfl⟩⟩
  | int n =>
    have order (m n : Int) := Number.order_int m n
    exact ⟨_, rfl, fun r a => ⟨congrArg (Except.ok <| r.holds ·) (order a n).symm,
      congrArg (Except.ok <| r.holds ·) (order n a).symm⟩⟩
  | member e m =>
    obtain ⟨s, k⟩ := m
    obtain ⟨numeric, n, rfl⟩ := h
    refine ⟨_, quantity?_member numeric, fun r a => ?_⟩
    rw [compare_member numeric, compare_of_member numeric]
    exact ⟨congrArg (Except.ok <| r.holds ·) (Number.order_int a n).symm,
      congrArg (Except.ok <| r.holds ·) (Number.order_int n a).symm⟩
  | _ => exact h.elim

/-- The quantity of a whole number has the place of that number among the whole numbers. -/
theorem Numeric.order_whole (h : v.Numeric) (whole : v.index? = some b) {q : Quantity}
    (known : v.quantity? = some q) (a : Int) :
    (Quantity.plain (.int a)).order q = some (Ord.compare a b) ∧
      q.order (.plain (.int a)) = some (Ord.compare b a) := by
  cases v with
  | truth c =>
    cases known
    exact Number.order_whole (n := .truth c) whole a
  | int n =>
    cases known
    exact Number.order_whole (n := .int n) whole a
  | float => cases whole
  | scalar t cls n =>
    cases known
    have exact : t.format? = none := ElementType.Holds.format?_whole h whole
    have order := Number.order_whole whole a
    unfold Quantity.order Quantity.commonFormat? Quantity.mixedFormat?
    dsimp only [Quantity.plain]
    rw [exact]
    exact order
  | member e m =>
    obtain ⟨s, k⟩ := m
    obtain ⟨numeric, n, rfl⟩ := h
    rw [index?_member numeric] at whole
    rw [quantity?_member numeric] at known
    cases known
    exact Number.order_whole (n := .int n) whole a
  | _ => exact h.elim

theorem atMost_iff (a b : Int) : Relation.atMost.holds (some (Ord.compare a b)) = true ↔ a ≤ b := by
  rw [← Int.isLE_compare]
  cases Ord.compare a b <;> decide

theorem below_iff (a b : Int) : Relation.below.holds (some (Ord.compare a b)) = true ↔ a < b := by
  rw [← Int.compare_eq_lt]
  cases Ord.compare a b <;> decide

theorem isWhole_int (n : Int) : (int n).IsWhole n := ⟨trivial, rfl⟩

namespace IsWhole

variable (h : v.IsWhole n)

include h

theorem unique {m : Int} (h' : v.IsWhole m) : n = m := Option.some.inj (h.2.symm.trans h'.2)

theorem toIndex : v.toIndex = .ok n := by
  unfold Value.toIndex
  rw [h.2]

theorem toWhole : v.toWhole = .ok n := by
  obtain ⟨numeric, whole⟩ := h
  cases v with
  | truth | int =>
    cases whole
    rfl
  | float => cases whole
  | scalar t cls k =>
    cases k with
    | int | truth =>
      cases whole
      rfl
    | real | complex => cases whole
  | member e m =>
    obtain ⟨s, k⟩ := m
    obtain ⟨named, k, rfl⟩ := numeric
    cases (index?_member named).symm.trans whole
    unfold Value.toWhole
    dsimp only
    rw [number?_member named]
    rfl
  | _ => exact numeric.elim

/-- Whole numbers of all kinds are compared as whole numbers. -/
theorem below (a : Int) : v.compare .below (int a) = .ok (decide (n < a)) := by
  obtain ⟨numeric, whole⟩ := h
  obtain ⟨q, known, compared⟩ := numeric.compared
  rw [(compared .below a).2, (numeric.order_whole whole known a).2]
  congr 1
  rw [Bool.eq_iff_iff, below_iff, decide_eq_true_iff]

end IsWhole

end Value
end GpuHandles
