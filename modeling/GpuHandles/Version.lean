/-!
Packed version numbers.

A version is stored as `major · 10^7 + minor · 10^5 + patch`.
-/

namespace GpuHandles

/-- A version of the runtime or of the driver. -/
structure Version where
  major : Int
  minor : Int
  patch : Int
  deriving Repr, DecidableEq

namespace Version

/-- Two digits of minor version and five of patch. -/
def ofPacked (v : Int) : Version :=
  if v < 0 then ⟨0, 0, 0⟩
  else ⟨v / 10000000, v % 10000000 / 100000, v % 10000000 % 100000⟩

/-- The number that a version is stored as. -/
def packed (v : Version) : Int := v.major * 10000000 + v.minor * 100000 + v.patch

/-- Major before minor before patch. -/
def before (a b : Version) : Prop :=
  a.major < b.major ∨
    a.major = b.major ∧ (a.minor < b.minor ∨ a.minor = b.minor ∧ a.patch ≤ b.patch)

end Version
end GpuHandles
