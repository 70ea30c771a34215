import GpuHandles.Number.Power
/-!
Binary floating numbers, held exactly.

A finite value is `± mantissa · 2 ^ exponent` over big numbers, so that reading,
comparing, truncating and printing are exact arithmetic.  A `Format` says how
many bits the mantissa may have and how small the exponent may get; `round`
takes a quotient to the nearest value of a format, ties to the even mantissa.
-/

namespace GpuHandles

/-- The shape of a binary interchange format. -/
structure Format where
  /-- bits of the mantissa, the leading one included -/
  precision : Nat
  /-- exponent of the smallest positive value -/
  lowest : Int
  /-- largest exponent of a full mantissa -/
  highest : Int
  /-- bytes of a stored value -/
  width : Nat
  deriving Repr, DecidableEq

namespace Format

/-- Two bytes, eleven bits of mantissa. -/
def half : Format := ⟨11, -24, 5, 2⟩

/-- Four bytes, twenty-four bits of mantissa. -/
def single : Format := ⟨24, -149, 104, 4⟩

/-- Eight bytes, fifty-three bits of mantissa. -/
def double : Format := ⟨53, -1074, 971, 8⟩

end Format

/-- A floating value: not a number, an infinity, or `± mantissa · 2 ^ exponent`.  What is not
a number has a sign and a payload, the bits of its fraction as eight bytes hold them. -/
inductive Binary where
  | nan (negative : Bool) (payload : Nat)
  | infinite (negative : Bool)
  | finite (negative : Bool) (mantissa : Nat) (exponent : Int)
  deriving Repr, DecidableEq

namespace Binary

/-- The bit of a payload that marks a value which raises no alarm. -/
def quietBit : Nat := 2 ^ 51

/-- The value that is not a number, as a computation or a text gives it. -/
def undefined (negative : Bool) : Binary := .nan negative quietBit

/-- Is a value not a number? -/
def isUndefined : Binary → Bool
  | .nan .. => true
  | _ => false

/-- `num / den` rounded to a whole number, a tie to the even side. -/
def divideToEven (num den : Nat) : Nat :=
  let whole := num / den
  let twice := 2 * (num % den)
  if twice < den then whole
  else if den < twice then whole + 1
  else whole + whole % 2

/-- `n · 2 ^ e` as a fraction. -/
def scaleFraction (n den : Nat) (e : Int) : Nat × Nat :=
  if 0 ≤ e then (n * 2 ^ e.toNat, den) else (n, den * 2 ^ (-e).toNat)

/-- The exponent at which `num / den` has a mantissa of exactly `precision` bits,
or the lowest exponent of the format if that is larger. -/
def exponentFor (f : Format) (num den : Nat) : Int :=
  let first := (Nat.log2 num : Int) - Nat.log2 den - f.precision + 1
  let (n, d) := scaleFraction num den (-first)
  let full := if n / d < 2 ^ (f.precision - 1) then first - 1 else first
  max full f.lowest

/-- The value of the format nearest to `± num / den`. -/
def round (f : Format) (negative : Bool) (num den : Nat) : Binary :=
  if num = 0 then .finite negative 0 f.lowest
  else
    let e := exponentFor f num den
    let (n, d) := scaleFraction num den (-e)
    let m := divideToEven n d
    let (m, e) := if m = 2 ^ f.precision then (2 ^ (f.precision - 1), e + 1) else (m, e)
    if f.highest < e then .infinite negative else .finite negative m e

/-- The value of the format nearest to a whole number. -/
def ofInt (f : Format) (n : Int) : Binary := round f (decide (n < 0)) n.natAbs 1

/-- The smallest payload of a format, as eight bytes hold it. -/
def payloadUnit (f : Format) : Nat := 2 ^ (Format.double.precision - f.precision)

/-- A payload without the bits that a format does not hold; some bit always stays. -/
def cutPayload (f : Format) (payload : Nat) : Nat :=
  max (payloadUnit f) (payload / payloadUnit f * payloadUnit f)

/-- A value cut to another format. -/
def convert (f : Format) : Binary → Binary
  | .finite negative m e =>
    let (n, d) := scaleFraction m 1 e
    round f negative n d
  | .nan negative payload => .nan negative (cutPayload f payload)
  | .infinite negative => .infinite negative

/-- A value with the quiet bit set, if it is not a number. -/
def quieted : Binary → Binary
  | .nan negative payload =>
    .nan negative (if payload / quietBit % 2 = 1 then payload else payload + quietBit)
  | x => x

/-- A stored value of one format as one of another.  The processor converts between four and
eight bytes, and quiets on the way; to and from two bytes the bits are moved as they are. -/
def recast (source target : Format) (x : Binary) : Binary :=
  if source = target ∨ source = .half ∨ target = .half then x.convert target
  else x.quieted.convert target

/-- Why a value has no whole part. -/
inductive NotWhole where
  | nan
  | infinite
  deriving Repr, DecidableEq

/-- The whole part of a value: the fraction is dropped. -/
def truncate : Binary → Except NotWhole Int
  | .nan .. => .error .nan
  | .infinite _ => .error .infinite
  | .finite negative m e =>
    let size : Nat := if 0 ≤ e then m * 2 ^ e.toNat else m / 2 ^ (-e).toNat
    .ok (if negative then -(size : Int) else size)

/-- `a · 2 ^ e` against `b · 2 ^ f`, exactly. -/
def compareScaled (a : Int) (e : Int) (b : Int) (f : Int) : Ordering :=
  let low := min e f
  compare (a * 2 ^ (e - low).toNat) (b * 2 ^ (f - low).toNat)

/-- The signed mantissa of a finite value. -/
def signedMantissa (negative : Bool) (m : Nat) : Int := if negative then -(m : Int) else m

/-- The order of two values; a value that is not a number has no place in it. -/
def order : Binary → Binary → Option Ordering
  | .nan .., _ => none
  | _, .nan .. => none
  | .infinite a, .infinite b => some (compare b a)
  | .infinite a, .finite .. => some (if a then .lt else .gt)
  | .finite .., .infinite b => some (if b then .gt else .lt)
  | .finite s m e, .finite t n f =>
    some (compareScaled (signedMantissa s m) e (signedMantissa t n) f)

/-- A whole number as an exact value, of any size. -/
def exact (n : Int) : Binary := .finite (decide (n < 0)) n.natAbs 0

/-- The stored bits of a value, in the format's own layout. -/
def toBits (f : Format) : Binary → Nat
  | .nan negative payload => bits negative (top f) (payload / payloadUnit f)
  | .infinite negative => bits negative (top f) 0
  | .finite negative m e =>
    if m < 2 ^ (f.precision - 1) then bits negative 0 m
    else bits negative ((e - f.lowest).toNat + 1) (m - 2 ^ (f.precision - 1))
where
  /-- the exponent field of the values past the largest finite one -/
  top (f : Format) : Nat := (f.highest - f.lowest).toNat + 2
  /-- sign, exponent field and fraction side by side -/
  bits (negative : Bool) (field fraction : Nat) : Nat :=
    (if negative then 2 ^ (8 * f.width - 1) else 0) + field * 2 ^ (f.precision - 1) + fraction

/-- The value that stored bits hold. -/
def ofBits (f : Format) (n : Nat) : Binary :=
  let negative := n / 2 ^ (8 * f.width - 1) % 2 == 1
  let field := n % 2 ^ (8 * f.width - 1) / 2 ^ (f.precision - 1)
  let fraction := n % 2 ^ (f.precision - 1)
  if field = 0 then .finite negative fraction f.lowest
  else if field = (f.highest - f.lowest).toNat + 2 then
    if fraction = 0 then .infinite negative else .nan negative (fraction * payloadUnit f)
  else .finite negative (fraction + 2 ^ (f.precision - 1)) (f.lowest + field - 1)

end Binary
end GpuHandles
