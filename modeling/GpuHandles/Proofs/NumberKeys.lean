import GpuHandles.Proofs.Bare
/-!
Numbers as keys.

Numbers of different kinds are equal by what they are exactly (`Binary.Same`), but elements of
arrays are compared after they are rounded to a format, and a key has to pass both tests.
Rounding goes by the exact value alone: a power of two that numerator and denominator share makes
no difference (`round_scale`), so equal values round to equal ones (`Same.convert`), and a value
that the format holds is kept (`same_convert`).  A whole number goes through a value of eight
bytes on its way to a format; that keeps it if a value of eight bytes is equal to it at all
(`Number.inFormat_same`).  So numbers have the same key exactly if they are equal
(`Value.sameKey_of_numbers`), and values that have the same key are the same number whatever
they are (`SameNumber.of_sameKey`).
-/

namespace GpuHandles.Binary

/-! ## Equal values -/

/-- The order says that two values are equal. -/
def Same (x y : Binary) : Prop := x.order y = some .eq

theorem compareScaled_eq_iff {a b e f low : Int} (he : low ≤ e) (hf : low ≤ f) :
    compareScaled a e b f = .eq ↔ a * 2 ^ (e - low).toNat = b * 2 ^ (f - low).toNat := by
  have split (n : Int) (hn : low ≤ n) (hm : min e f ≤ n) :
      (n - low).toNat = (n - min e f).toNat + (min e f - low).toNat := by omega
  have positive : (2 : Int) ^ (min e f - low).toNat ≠ 0 :=
    Int.pow_ne_zero (by decide)
  unfold compareScaled
  rw [Int.compare_eq_eq, split e he (by omega), split f hf (by omega), Int.pow_add, Int.pow_add,
    ← Int.mul_assoc, ← Int.mul_assoc, Int.mul_eq_mul_right_iff positive]

theorem signedMantissa_mul (s : Bool) (m k : Nat) :
    signedMantissa s m * 2 ^ k = signedMantissa s (m * 2 ^ k) := by
  cases s with
  | false => exact (Int.natCast_mul _ _).symm
  | true =>
    show -(m : Int) * 2 ^ k = -((m * 2 ^ k : Nat) : Int)
    rw [Int.neg_mul, Int.natCast_mul, Int.natCast_pow]
    rfl

theorem signedMantissa_inj {s t : Bool} {m n : Nat}
    (same : signedMantissa s m = signedMantissa t n) : m = n ∧ (m ≠ 0 → s = t) := by
  cases s <;> cases t <;> simp [signedMantissa] at same ⊢ <;> omega

/-- Equal finite values have equal mantissas, once they have the same exponent. -/
theorem same_finite_iff {s t : Bool} {m n : Nat} {e f low : Int} (he : low ≤ e) (hf : low ≤ f) :
    (finite s m e).Same (finite t n f) ↔
      signedMantissa s (m * 2 ^ (e - low).toNat) = signedMantissa t (n * 2 ^ (f - low).toNat) := by
  unfold Same order
  rw [Option.some.injEq, compareScaled_eq_iff he hf, signedMantissa_mul, signedMantissa_mul]

namespace Same

variable {x y z : Binary}

theorem of_defined (defined : x.isUndefined = false) : x.Same x := by
  cases x with
  | nan => cases defined
  | infinite s => cases s <;> rfl
  | finite s m e => exact (same_finite_iff (Int.le_refl e) (Int.le_refl e)).2 rfl

/-- Values that are equal are both finite, or the same infinity. -/
theorem cases (h : x.Same y) : (∃ s, x = infinite s ∧ y = infinite s) ∨
    ∃ s m e t n f, x = finite s m e ∧ y = finite t n f := by
  cases x <;> cases y <;> try cases h
  case infinite.infinite s t =>
    refine .inl ⟨s, rfl, ?_⟩
    cases s <;> cases t <;> first | rfl | cases h
  case infinite.finite s t n f => cases s <;> cases h
  case finite.infinite s m e t => cases t <;> cases h
  case finite.finite => exact .inr ⟨_, _, _, _, _, _, rfl, rfl⟩

theorem defined (h : x.Same y) : x.isUndefined = false := by
  cases x with
  | nan => cases h
  | _ => rfl

theorem symm (h : x.Same y) : y.Same x := by
  obtain ⟨s, rfl, rfl⟩ | ⟨s, m, e, t, n, f, rfl, rfl⟩ := h.cases
  · exact h
  · have he := Int.min_le_left e f
    have hf := Int.min_le_right e f
    exact (same_finite_iff hf he).2 ((same_finite_iff he hf).1 h).symm

theorem trans (h : x.Same y) (h' : y.Same z) : x.Same z := by
  obtain ⟨s, rfl, rfl⟩ | ⟨s, m, e, t, n, f, rfl, rfl⟩ := h.cases
  · exact h'
  · obtain ⟨_, none, _⟩ | ⟨_, _, _, u, k, g, same, rfl⟩ := h'.cases
    · cases none
    · cases same
      have he : min e (min f g) ≤ e := by omega
      have hf : min e (min f g) ≤ f := by omega
      have hg : min e (min f g) ≤ g := by omega
      exact (same_finite_iff he hg).2
        (((same_finite_iff he hf).1 h).trans ((same_finite_iff hf hg).1 h'))

end Same

/-- Zero is zero, whatever its sign and its exponent. -/
theorem same_zero (s t : Bool) (e f : Int) : (finite s 0 e).Same (finite t 0 f) := by
  rw [same_finite_iff (Int.min_le_left e f) (Int.min_le_right e f), Nat.zero_mul, Nat.zero_mul]
  cases s <;> cases t <;> rfl

/-! ## Rounding a fraction -/

theorem log2_mul_pow {n : Nat} (nonzero : n ≠ 0) (k : Nat) :
    (n * 2 ^ k).log2 = n.log2 + k := by
  have positive : n * 2 ^ k ≠ 0 := Nat.mul_ne_zero nonzero (Nat.ne_of_gt (Nat.two_pow_pos k))
  rw [Nat.log2_eq_iff positive, Nat.pow_add, Nat.add_right_comm, Nat.pow_add]
  exact ⟨Nat.mul_le_mul_right _ (Nat.log2_self_le nonzero),
    Nat.mul_lt_mul_of_pos_right Nat.lt_log2_self (Nat.two_pow_pos k)⟩

theorem scaleFraction_scale (n d k : Nat) (e : Int) :
    scaleFraction (n * 2 ^ k) (d * 2 ^ k) e =
      ((scaleFraction n d e).1 * 2 ^ k, (scaleFraction n d e).2 * 2 ^ k) := by
  unfold scaleFraction
  split
  · rw [Nat.mul_right_comm]
  · rw [Nat.mul_right_comm]

theorem divideToEven_scale (n d k : Nat) :
    divideToEven (n * 2 ^ k) (d * 2 ^ k) = divideToEven n d := by
  have positive := Nat.two_pow_pos k
  unfold divideToEven
  rw [Nat.mul_div_mul_right _ _ positive, Nat.mul_mod_mul_right, ← Nat.mul_assoc]
  simp only [Nat.mul_lt_mul_right positive]

variable (f : Format)

theorem exponentFor_scale {n d : Nat} (hn : n ≠ 0) (hd : d ≠ 0) (k : Nat) :
    exponentFor f (n * 2 ^ k) (d * 2 ^ k) = exponentFor f n d := by
  have first : ((n * 2 ^ k).log2 : Int) - (d * 2 ^ k).log2 = n.log2 - d.log2 := by
    rw [log2_mul_pow hn, log2_mul_pow hd]
    omega
  unfold exponentFor
  rw [first]
  dsimp only
  rw [scaleFraction_scale, Nat.mul_div_mul_right _ _ (Nat.two_pow_pos k)]

/-- **Rounding goes by the fraction alone.** -/
theorem round_scale (s : Bool) (n : Nat) {d : Nat} (hd : d ≠ 0) (k : Nat) :
    round f s (n * 2 ^ k) (d * 2 ^ k) = round f s n d := by
  have positive := Nat.two_pow_pos k
  unfold round
  by_cases hn : n = 0
  · rw [if_pos hn, if_pos (by simp [hn])]
  · rw [if_neg hn, if_neg (Nat.mul_ne_zero hn (Nat.ne_of_gt positive)),
      exponentFor_scale f hn hd]
    dsimp only
    rw [scaleFraction_scale, divideToEven_scale]

/-- A finite value as a fraction whose denominator is any power of two that serves. -/
theorem convert_finite (s : Bool) (m : Nat) {e low : Int} (he : low ≤ e) (hz : low ≤ 0) :
    convert f (finite s m e) = round f s (m * 2 ^ (e - low).toNat) (2 ^ (-low).toNat) := by
  show round f s (scaleFraction m 1 e).1 (scaleFraction m 1 e).2 = _
  unfold scaleFraction
  by_cases whole : 0 ≤ e
  · have exponent : (e - low).toNat = e.toNat + (-low).toNat := by omega
    have scaled := round_scale f s (m * 2 ^ e.toNat) (Nat.one_ne_zero) (-low).toNat
    rw [if_pos whole, exponent, Nat.pow_add, ← Nat.mul_assoc, ← scaled, Nat.one_mul]
  · have exponent : (-low).toNat = (-e).toNat + (e - low).toNat := by omega
    have nonzero : 2 ^ (-e).toNat ≠ 0 := Nat.ne_of_gt (Nat.two_pow_pos _)
    rw [if_neg whole, exponent, Nat.pow_add, round_scale f s m nonzero, Nat.one_mul]

theorem isUndefined_round (s : Bool) (n d : Nat) : (round f s n d).isUndefined = false := by
  unfold round
  split
  · rfl
  · dsimp only
    split <;> split <;> rfl

/-- **Equal values round to equal values.** -/
theorem Same.convert {x y : Binary} (h : x.Same y) : (x.convert f).Same (y.convert f) := by
  obtain ⟨s, rfl, rfl⟩ | ⟨s, m, e, t, n, g, rfl, rfl⟩ := h.cases
  · exact h
  · have he : min (min e g) 0 ≤ e := by omega
    have hg : min (min e g) 0 ≤ g := by omega
    have hz : min (min e g) 0 ≤ 0 := by omega
    obtain ⟨size, sign⟩ := signedMantissa_inj ((same_finite_iff he hg).1 h)
    rw [convert_finite f s m he hz, convert_finite f t n hg hz, ← size]
    by_cases zero : m * 2 ^ (e - min (min e g) 0).toNat = 0
    · rw [zero]
      exact same_zero s t f.lowest f.lowest
    · rw [sign zero]
      exact .of_defined (isUndefined_round f t _ _)

/-! ## Values that a format holds -/

/-- The format holds a value as it is. -/
def Held : Binary → Prop
  | .finite _ m e => m < 2 ^ f.precision ∧ f.lowest ≤ e ∧ e ≤ f.highest
  | _ => True

/-- A finite value over a power of two below its own: the quotient is exact. -/
theorem scaleFraction_exact (m : Nat) {e low E : Int} (he : low ≤ e) (hz : low ≤ 0) (hE : E ≤ e) :
    ∃ d, d ≠ 0 ∧ scaleFraction (m * 2 ^ (e - low).toNat) (2 ^ (-low).toNat) (-E) =
      (m * 2 ^ (e - E).toNat * d, d) := by
  unfold scaleFraction
  by_cases up : 0 ≤ -E
  · refine ⟨2 ^ (-low).toNat, Nat.ne_of_gt (Nat.two_pow_pos _), ?_⟩
    have exponent : (e - low).toNat + (-E).toNat = (e - E).toNat + (-low).toNat := by omega
    rw [if_pos up, Nat.mul_assoc, ← Nat.pow_add, exponent, Nat.pow_add, ← Nat.mul_assoc]
  · refine ⟨2 ^ (-low).toNat * 2 ^ (- -E).toNat, ?_, ?_⟩
    · exact Nat.mul_ne_zero (Nat.ne_of_gt (Nat.two_pow_pos _)) (Nat.ne_of_gt (Nat.two_pow_pos _))
    · have exponent : (e - low).toNat = (e - E).toNat + ((-low).toNat + (- -E).toNat) := by omega
      rw [if_neg up, exponent, Nat.pow_add, Nat.pow_add, ← Nat.mul_assoc]

theorem divideToEven_exact (q : Nat) {d : Nat} (hd : d ≠ 0) : divideToEven (q * d) d = q := by
  unfold divideToEven
  rw [Nat.mul_div_cancel _ (Nat.pos_of_ne_zero hd), Nat.mul_mod_left]
  simp [Nat.pos_of_ne_zero hd]

/-- A finite value that is not zero takes the exponent with which its mantissa is full. -/
theorem exponentFor_finite {m : Nat} {e low : Int} (nonzero : m ≠ 0) (fits : m < 2 ^ f.precision)
    (he : low ≤ e) (hz : low ≤ 0) :
    exponentFor f (m * 2 ^ (e - low).toNat) (2 ^ (-low).toNat) =
      max (m.log2 + e - f.precision + 1) f.lowest := by
  have small : m.log2 < f.precision := (Nat.log2_lt nonzero).2 fits
  have first : ((m * 2 ^ (e - low).toNat).log2 : Int) - (2 ^ (-low).toNat).log2 - f.precision + 1 =
      m.log2 + e - f.precision + 1 := by
    rw [log2_mul_pow nonzero, Nat.log2_two_pow]
    omega
  unfold exponentFor
  rw [first]
  obtain ⟨d, hd, exact⟩ := scaleFraction_exact m he hz
    (E := m.log2 + e - f.precision + 1) (by omega)
  dsimp only
  rw [exact, Nat.mul_div_cancel _ (Nat.pos_of_ne_zero hd), if_neg]
  rw [Nat.not_lt]
  calc 2 ^ (f.precision - 1)
      = 2 ^ m.log2 * 2 ^ (e - (m.log2 + e - f.precision + 1)).toNat := by
        rw [← Nat.pow_add]
        congr 1
        omega
    _ ≤ m * 2 ^ (e - (m.log2 + e - f.precision + 1)).toNat :=
        Nat.mul_le_mul_right _ (Nat.log2_self_le nonzero)

/-- **A value that a format holds** is kept by rounding to it. -/
theorem same_convert {x : Binary} (defined : x.isUndefined = false) (held : x.Held f) :
    (x.convert f).Same x := by
  cases x with
  | nan => cases defined
  | infinite s => exact .of_defined rfl
  | finite s m e =>
    obtain ⟨fits, low, high⟩ := held
    have he : min e 0 ≤ e := by omega
    have hz : min e 0 ≤ 0 := by omega
    rw [convert_finite f s m he hz]
    unfold round
    by_cases zero : m = 0
    · subst zero
      rw [if_pos (Nat.zero_mul _)]
      exact same_zero s s f.lowest e
    · have small : m.log2 < f.precision := (Nat.log2_lt zero).2 fits
      have positive := Nat.two_pow_pos (e - min e 0).toNat
      rw [if_neg (Nat.mul_ne_zero zero (Nat.ne_of_gt positive)),
        exponentFor_finite f zero fits he hz]
      have fine : max (m.log2 + e - f.precision + 1) f.lowest ≤ e := by omega
      have full : m.log2 + e - f.precision + 1 ≤ max (m.log2 + e - f.precision + 1) f.lowest := by
        omega
      generalize max (m.log2 + e - f.precision + 1) f.lowest = E at fine full
      obtain ⟨d, hd, exact⟩ := scaleFraction_exact m he hz fine
      dsimp only
      rw [exact, divideToEven_exact _ hd]
      have below : m * 2 ^ (e - E).toNat ≠ 2 ^ f.precision := by
        refine Nat.ne_of_lt ?_
        calc m * 2 ^ (e - E).toNat
            < 2 ^ (m.log2 + 1) * 2 ^ (e - E).toNat :=
              Nat.mul_lt_mul_of_pos_right Nat.lt_log2_self (Nat.two_pow_pos _)
          _ ≤ 2 ^ f.precision := by
              rw [← Nat.pow_add]
              exact Nat.pow_le_pow_right (by decide) (by omega)
      rw [if_neg below]
      dsimp only
      rw [if_neg (by omega), same_finite_iff (Int.le_refl E) fine]
      simp

theorem isUndefined_convert {x : Binary} (defined : x.isUndefined = false) :
    (x.convert f).isUndefined = false := by
  cases x with
  | nan => cases defined
  | infinite s => rfl
  | finite s m e => exact isUndefined_round f s _ _

/-- A whole number rounds as its exact value does. -/
theorem ofInt_eq_convert (n : Int) : ofInt f n = (exact n).convert f := by
  show _ = round f _ (n.natAbs * 2 ^ 0) 1
  rw [Nat.pow_zero, Nat.mul_one]
  rfl

end GpuHandles.Binary

/-! ## Numbers -/

namespace GpuHandles.Number

open Binary (Same)

/-- The floating parts of a number are values of eight bytes. -/
def Held : Number → Prop
  | real x => x.Held .double
  | complex x y => x.Held .double ∧ y.Held .double
  | _ => True

variable {x y z : Number} (f : Format)

theorem equal_iff : x.equal y = true ↔ x.exact.Same y.exact ∧ x.second.Same y.second := by
  unfold equal order Same
  split
  next same => simp [same]
  next other =>
    constructor
    · intro same
      exact absurd (by simpa using same) other
    · rintro ⟨same, _⟩
      exact absurd same other

theorem equal_symm (h : x.equal y = true) : y.equal x = true := by
  obtain ⟨first, second⟩ := equal_iff.1 h
  exact equal_iff.2 ⟨first.symm, second.symm⟩

theorem equal_trans (h : x.equal y = true) (h' : y.equal z = true) : x.equal z = true := by
  obtain ⟨first, second⟩ := equal_iff.1 h
  obtain ⟨first', second'⟩ := equal_iff.1 h'
  exact equal_iff.2 ⟨first.trans first', second.trans second'⟩

/-- A whole number that a value of eight bytes is equal to is kept by rounding to eight bytes. -/
theorem ofInt_same {n : Int} {z : Binary} (same : (Binary.exact n).Same z) (held : z.Held .double) :
    (Binary.ofInt .double n).Same (Binary.exact n) := by
  have kept := Binary.same_convert .double same.symm.defined held
  rw [Binary.ofInt_eq_convert]
  exact ((same.convert .double).trans kept).trans same.symm

theorem held_exact (held : x.Held) (other : ∀ n, x ≠ .int n) : x.exact.Held .double := by
  cases x with
  | int n => exact absurd rfl (other n)
  | truth b => cases b <;> exact ⟨by decide, by decide, by decide⟩
  | real z => exact held
  | complex z _ => exact held.1

/-- The first part of a number rounds as its exact value does, if a whole number is kept on its
way through eight bytes. -/
theorem inFormat_same_convert (defined : x.exact.isUndefined = false)
    (kept : ∀ n, x = .int n → (Binary.ofInt .double n).Same (Binary.exact n)) :
    (x.inFormat f).Same (x.exact.convert f) := by
  have itself := Same.of_defined (Binary.isUndefined_convert f defined)
  cases x with
  | int n => exact (kept n rfl).convert f
  | truth b =>
    show (Binary.ofInt f _).Same _
    rw [Binary.ofInt_eq_convert]
    exact itself
  | real | complex => exact itself

/-- **Numbers that are equal** have equal first parts in every format. -/
theorem inFormat_same (same : x.exact.Same y.exact) (hx : x.Held) (hy : y.Held) :
    (x.inFormat f).Same (y.inFormat f) := by
  by_cases whole : ∃ m n, x = .int m ∧ y = .int n
  · obtain ⟨m, n, rfl, rfl⟩ := whole
    have equal : m = n := by
      simpa [Same, Number.exact, Binary.order_exact] using same
    rw [equal]
    exact .of_defined (Binary.isUndefined_convert f (Binary.isUndefined_round _ _ _ _))
  · have first : (x.inFormat f).Same (x.exact.convert f) := by
      refine inFormat_same_convert f same.defined ?_
      rintro m rfl
      exact ofInt_same same (held_exact hy fun n hn => whole ⟨m, n, rfl, hn⟩)
    have second : (y.inFormat f).Same (y.exact.convert f) := by
      refine inFormat_same_convert f same.symm.defined ?_
      rintro n rfl
      exact ofInt_same same.symm (held_exact hx fun m hm => whole ⟨m, n, hm, rfl⟩)
    exact (first.trans (same.convert f)).trans second.symm

theorem exact_rounded (x : Number) : (x.rounded f).exact = x.inFormat f := by
  cases x <;> rfl

theorem second_rounded (defined : x.second.isUndefined = false) :
    (x.rounded f).second.Same (x.second.convert f) := by
  have zero : (Binary.exact 0).Same ((Binary.exact 0).convert f) :=
    Binary.same_zero false false 0 f.lowest
  cases x with
  | complex z t => exact .of_defined (Binary.isUndefined_convert f defined)
  | _ => exact zero

/-- **Equal numbers round to equal numbers.** -/
theorem rounded_equal (h : x.equal y = true) (hx : x.Held) (hy : y.Held) :
    (x.rounded f).equal (y.rounded f) = true := by
  obtain ⟨first, second⟩ := equal_iff.1 h
  rw [equal_iff, exact_rounded, exact_rounded]
  refine ⟨inFormat_same f first hx hy, ?_⟩
  exact ((second_rounded f second.defined).trans (second.convert f)).trans
    (second_rounded f second.symm.defined).symm

end GpuHandles.Number

/-! ## Keys -/

namespace GpuHandles.Value

theorem quantity?_number (v : Value) : v.quantity?.map Quantity.number = v.number? := by
  cases v with
  | scalar => rfl
  | _ => simp [quantity?, Quantity.plain, Function.comp_def]

theorem quantity_of_number {v : Value} {x : Number} (number : v.number? = some x) :
    ∃ q, v.quantity? = some q ∧ q.number = x := by
  rw [← quantity?_number] at number
  exact Option.map_eq_some_iff.1 number

theorem quantity?_bare (v : Value) : v.bare.quantity? = v.quantity? := by
  obtain same | ⟨e, s, n, numeric, rfl, bare⟩ := v.bare_cases
  · rw [same]
  · rw [bare]
    simp [quantity?, number?, numeric]

/-- The values that count as numbers, once their names are taken away. -/
theorem bare_of_quantity {v : Value} {q : Quantity} (known : v.quantity? = some q) :
    (∃ b, v.bare = truth b) ∨ (∃ n, v.bare = int n) ∨ (∃ z, v.bare = float z) ∨
      ∃ t c n, v.bare = scalar t c n := by
  rw [← quantity?_bare] at known
  obtain same | ⟨e, s, n, _, rfl, bare⟩ := v.bare_cases
  · rw [same] at known ⊢
    cases v with
    | truth b => exact .inl ⟨b, rfl⟩
    | int n => exact .inr (.inl ⟨n, rfl⟩)
    | float z => exact .inr (.inr (.inl ⟨z, rfl⟩))
    | scalar t c n => exact .inr (.inr (.inr ⟨t, c, n, rfl⟩))
    | member e m =>
      obtain ⟨s, n | word⟩ := m
      · by_cases numeric : e.isNumeric = true
        · rw [bare, if_pos numeric] at same
          cases same
        · exact absurd known (by simp [quantity?, number?, numeric])
      · cases known
    | _ => cases known
  · exact .inr (.inl ⟨n, bare⟩)

/-- Numbers have the same key if they are equal where they are compared, and exactly. -/
theorem sameKey_eq {a b : Value} {q r : Quantity} (ha : a.quantity? = some q)
    (hb : b.quantity? = some r) : a.sameKey b = (q.equal r && q.number.equal r.number) := by
  have first := bare_of_quantity ha
  have second := bare_of_quantity hb
  rw [← sameKey_bare]
  rw [← quantity?_bare] at ha hb
  generalize a.bare = v at ha first
  generalize b.bare = w at hb second
  obtain ⟨_, rfl⟩ | ⟨m, rfl⟩ | ⟨_, rfl⟩ | ⟨_, _, _, rfl⟩ := first <;>
    obtain ⟨_, rfl⟩ | ⟨n, rfl⟩ | ⟨_, rfl⟩ | ⟨_, _, _, rfl⟩ := second <;> cases ha <;> cases hb
  case inr.inl.inr.inl =>
    show (m == n && _) = (Quantity.equal (.plain (.int m)) (.plain (.int n)) && _)
    rw [Quantity.equal_int]
    rfl
  all_goals rfl

/-- **Numbers have the same key exactly if they are equal.** -/
theorem sameKey_of_numbers {a b : Value} {x y : Number} (ha : a.number? = some x)
    (hb : b.number? = some y) (hx : x.Held) (hy : y.Held) : a.sameKey b = x.equal y := by
  obtain ⟨q, hq, rfl⟩ := quantity_of_number ha
  obtain ⟨r, hr, rfl⟩ := quantity_of_number hb
  rw [sameKey_eq hq hr]
  cases equal : q.number.equal r.number with
  | false => exact Bool.and_false _
  | true =>
    have compared : q.order r = some .eq := by
      unfold Quantity.order
      split
      next f _ => simpa [Number.equal] using Number.rounded_equal f equal hx hy
      next => simpa [Number.equal] using equal
    rw [Bool.and_true, Quantity.equal, compared]
    rfl

/-- The values are the same number, whatever their kinds. -/
def SameNumber (a b : Value) : Prop :=
  ∃ x y, a.number? = some x ∧ b.number? = some y ∧ x.equal y = true

namespace SameNumber

variable {a b c : Value}

theorem symm (h : a.SameNumber b) : b.SameNumber a := by
  obtain ⟨x, y, hx, hy, same⟩ := h
  exact ⟨y, x, hy, hx, Number.equal_symm same⟩

theorem trans (h : a.SameNumber b) (h' : b.SameNumber c) : a.SameNumber c := by
  obtain ⟨x, y, hx, hy, same⟩ := h
  obtain ⟨y', z, hy', hz, same'⟩ := h'
  cases hy.symm.trans hy'
  exact ⟨x, z, hx, hz, Number.equal_trans same same'⟩

theorem of_sameKey (ha : a.number?.isSome) (hb : b.number?.isSome)
    (same : a.sameKey b = true) : a.SameNumber b := by
  obtain ⟨x, hx⟩ := Option.isSome_iff_exists.1 ha
  obtain ⟨y, hy⟩ := Option.isSome_iff_exists.1 hb
  obtain ⟨q, hq, rfl⟩ := quantity_of_number hx
  obtain ⟨r, hr, rfl⟩ := quantity_of_number hy
  rw [sameKey_eq hq hr, Bool.and_eq_true] at same
  exact ⟨_, _, hx, hy, same.2⟩

end SameNumber

/-- The number that a value may be can be a key: it is equal to itself, and its floating parts are
values of eight bytes. -/
def Regular (v : Value) : Prop := ∀ x, v.number? = some x → x.Held ∧ x.equal x = true

namespace Regular

variable {a b : Value}

theorem sameNumber_self (h : a.Regular) (number : a.number?.isSome) : a.SameNumber a := by
  obtain ⟨x, hx⟩ := Option.isSome_iff_exists.1 number
  exact ⟨x, x, hx, hx, (h x hx).2⟩

theorem sameKey (ha : a.Regular) (hb : b.Regular) (same : a.SameNumber b) :
    a.sameKey b = true := by
  obtain ⟨x, y, hx, hy, equal⟩ := same
  rw [sameKey_of_numbers hx hy (ha x hx).1 (hb y hy).1]
  exact equal

end Regular

theorem regular_int (n : Int) : (int n).Regular := by
  intro x hx
  cases hx
  exact ⟨trivial, (Number.equal_int n n).trans (beq_self_eq_true n)⟩

@[simp] theorem sameNumber_int (m n : Int) : (int m).SameNumber (int n) ↔ m = n := by
  constructor
  · rintro ⟨x, y, hx, hy, same⟩
    cases hx
    cases hy
    rw [Number.equal_int] at same
    exact eq_of_beq same
  · rintro rfl
    exact (regular_int m).sameNumber_self rfl

end GpuHandles.Value
