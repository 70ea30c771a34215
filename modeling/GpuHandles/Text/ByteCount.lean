import GpuHandles.Number.Shortest
/-!
Counts of bytes in units that people read.

Each unit is 1024 of the one before it.  A count is written in the largest unit that
it fills, with three digits, or with all that stand before its point.
-/

namespace GpuHandles.Text

/-- The units, from small to large. -/
def byteUnits : List String := ["bytes", "KiB", "MiB", "GiB", "TiB", "PiB", "EiB"]

/-- A fraction that is at least one, with three digits or all that stand before its point. -/
def briefly (num den : Nat) : String :=
  let scaled (places : Nat) : Nat := Binary.divideToEven (num * 10 ^ places) den
  match [2, 1].find? fun places => scaled places < 1000 with
  | some places =>
    let part := toString (scaled places % 10 ^ places)
    toString (scaled places / 10 ^ places) ++ "." ++ Binary.zeros (places - part.length) ++ part
  | none => toString (scaled 0) ++ "."

/-- A count of bytes in the largest unit that it fills. -/
def byteCount (n : Nat) : String :=
  let level := min (Nat.log2 n / 10) (byteUnits.length - 1)
  let unit (i : Nat) : String := " " ++ byteUnits.getD i ""
  match level, Binary.round .double false n (1024 ^ level) with
  | 0, _ => toString n ++ unit 0
  | _, .finite _ m e =>
    let (num, den) := Binary.scaleFraction m 1 e
    if Binary.divideToEven num den = 1024 then briefly num (1024 * den) ++ unit (level + 1)
    else briefly num den ++ unit level
  | _, _ => unit level

end GpuHandles.Text
