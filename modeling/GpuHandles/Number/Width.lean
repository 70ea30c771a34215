import GpuHandles.Number.Power
/-!
Fixed-width integers.

A number that crosses into a native call or a native structure keeps only the
low bits of its field.  Two facts are used everywhere:

* `signed_eq_self`, `unsigned_eq_self`: a number that fits its field is
  unchanged by the cut;
* `ofLittleEndian_littleEndian`: the bytes of a field hold the number modulo
  the field's width, and nothing else.
-/

namespace GpuHandles.Width

/-- The low `bits` bits of `n`, read as an unsigned number. -/
def unsigned (bits : Nat) (n : Int) : Nat := (n % (2 ^ bits : Nat)).toNat

/-- The low `bits` bits of `n`, read in two's complement. -/
def signed (bits : Nat) (n : Int) : Int := n.bmod (2 ^ bits)

/-- A C `int`. -/
abbrev int32 (n : Int) : Int := signed 32 n

/-- A C `unsigned`. -/
abbrev uint32 (n : Int) : Nat := unsigned 32 n

/-- A C `size_t`, and the width of an address. -/
abbrev uint64 (n : Int) : Nat := unsigned 64 n

theorem unsigned_lt (bits : Nat) (n : Int) : unsigned bits n < 2 ^ bits := by
  have hpos : 0 < 2 ^ bits := Nat.two_pow_pos bits
  have h1 := Int.emod_lt_of_pos n (b := ((2 ^ bits : Nat) : Int)) (by exact_mod_cast hpos)
  have h0 := Int.emod_nonneg n (b := ((2 ^ bits : Nat) : Int)) (by omega)
  unfold unsigned
  omega

theorem unsigned_eq_self {bits n : Nat} (h : n < 2 ^ bits) : unsigned bits n = n := by
  unfold unsigned
  rw [← Int.natCast_emod, Int.toNat_natCast, Nat.mod_eq_of_lt h]

theorem signed_eq_self {bits : Nat} {n : Int} (lo : -(2 ^ bits : Nat) ≤ 2 * n)
    (hi : 2 * n < (2 ^ bits : Nat)) : signed bits n = n := by
  unfold signed
  exact Int.bmod_eq_of_le_mul_two (by omega) (by omega)

/-- The `w` bytes of a field that holds `n`, least significant first. -/
def littleEndian : Nat → Nat → List UInt8
  | 0, _ => []
  | w + 1, n => UInt8.ofNat (n % 256) :: littleEndian w (n / 256)

/-- The number that little-endian bytes spell. -/
def ofLittleEndian : List UInt8 → Nat
  | [] => 0
  | b :: bs => b.toNat + 256 * ofLittleEndian bs

@[simp] theorem length_littleEndian (w n : Nat) : (littleEndian w n).length = w := by
  induction w generalizing n with
  | zero => rfl
  | succ w ih => simp [littleEndian, ih]

theorem ofLittleEndian_littleEndian (w n : Nat) :
    ofLittleEndian (littleEndian w n) = n % 256 ^ w := by
  induction w generalizing n with
  | zero => simp [littleEndian, ofLittleEndian, Nat.mod_one]
  | succ w ih =>
    have hb : (UInt8.ofNat (n % 256)).toNat = n % 256 := by
      rw [UInt8.toNat_ofNat']; omega
    rw [littleEndian, ofLittleEndian, ih, hb, Nat.pow_succ, Nat.mul_comm (256 ^ w), Nat.mod_mul]

end GpuHandles.Width
