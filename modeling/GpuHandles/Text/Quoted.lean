import GpuHandles.Text.Hex
import GpuHandles.Text.Printable
/-!
Quoted text.

A text is put between apostrophes, or between double quotes if it holds an
apostrophe and no double quote.  The quote, the backslash, the line controls and
every character that does not print are written as escapes.  Characters are given by
their numbers, so a text may hold halves of pairs; of bytes only the printable ASCII
characters stand for themselves.
-/

namespace GpuHandles.Text

/-- The escape of a character by its number: `\xNN`, `\uNNNN` or `\UNNNNNNNN`. -/
def numberEscape (n : Nat) : List Char :=
  if n ≤ 0xff then '\x5c' :: 'x' :: hexPadded 2 n
  else if n ≤ 0xffff then '\x5c' :: 'u' :: hexPadded 4 n
  else '\x5c' :: 'U' :: hexPadded 8 n

/-- A character as it stands inside quotes; `plain` says which stand for themselves. -/
def quotedCode (plain : Nat → Bool) (quote : Char) (n : Nat) : List Char :=
  let c := Char.ofNat n
  if c == quote || c == '\x5c' then ['\x5c', c]
  else if c == '\n' then ['\x5c', 'n']
  else if c == '\r' then ['\x5c', 'r']
  else if c == '\t' then ['\x5c', 't']
  else if plain n then [c]
  else numberEscape n

/-- The quote that characters are put between. -/
def quoteFor (codes : List Nat) : Char :=
  if codes.contains 0x27 && !codes.contains 0x22 then '\x22' else '\x27'

/-- Characters between quotes. -/
def quotedWith (plain : Nat → Bool) (codes : List Nat) : String :=
  let q := quoteFor codes
  String.ofList (q :: codes.flatMap (quotedCode plain q) ++ [q])

/-- Characters between quotes, by their numbers. -/
def quotedCodes (codes : List Nat) : String := quotedWith isPrintable codes

/-- A text between quotes. -/
def quoted (s : String) : String := quotedCodes (s.toList.map Char.toNat)

/-- Bytes between quotes, with the mark of bytes in front. -/
def quotedBytes (bs : List UInt8) : String :=
  "b" ++ quotedWith (fun n => 0x20 ≤ n && n < 0x7f) (bs.map UInt8.toNat)

/-- Bytes between quotes, each as an escape in capitals. -/
def escapedBytes (bs : List UInt8) : String :=
  let escape (b : UInt8) : List Char := '\x5c' :: 'x' :: (hexByte b).map Char.toUpper
  String.ofList ('b' :: '\x27' :: bs.flatMap escape ++ ['\x27'])

end GpuHandles.Text
