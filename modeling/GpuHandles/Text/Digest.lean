import GpuHandles.Number.Power
import GpuHandles.Text.Hex
/-!
Byte strings as they are shown.

A short one is written out in hexadecimal.  A long one is shown by its length, its
first bytes and a number that depends on every byte.
-/

namespace GpuHandles.Text

/-- A byte string as it is shown. -/
inductive Digest where
  | whole (hex : String)
  | summary (length : Nat) (head : String) (hash : Nat)
  deriving Repr, DecidableEq

namespace Digest

/-- The most bytes that are written out. -/
def limit : Nat := 256

/-- A byte taken into the number. -/
def mix (h : Nat) (b : UInt8) : Nat := (h * 31 + b.toNat) % 2 ^ 32

/-- How a byte string is shown. -/
def ofBytes (bs : List UInt8) : Digest :=
  if bs.length ≤ limit then .whole (hexBytes bs)
  else .summary bs.length (hexBytes (bs.take 16)) (bs.foldl mix 0)

end Digest
end GpuHandles.Text
