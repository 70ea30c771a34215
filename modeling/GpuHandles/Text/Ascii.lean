/-!
Text that must be ASCII.

`encode` and `decode` convert between texts and bytes, and name the first
character or byte that is outside.
-/

namespace GpuHandles.Text.Ascii

/-- The first run of characters outside ASCII: its first character and the positions
of its two ends. -/
structure Outside where
  character : Char
  first : Nat
  last : Nat
  deriving Repr, DecidableEq

/-- Is a character one of the 128? -/
def isAscii (c : Char) : Bool := c.toNat < 128

/-- The bytes of a text, one for each character. -/
def encode (s : String) : Except Outside (List UInt8) :=
  let cs := s.toList
  match cs.dropWhile isAscii with
  | [] => .ok (cs.map fun c => UInt8.ofNat c.toNat)
  | c :: rest =>
    let first := (cs.takeWhile isAscii).length
    .error ⟨c, first, first + (rest.takeWhile fun d => !isAscii d).length⟩

/-- The text of bytes, or the first byte outside and its position. -/
def decode (bs : List UInt8) : Except (UInt8 × Nat) String :=
  match bs.dropWhile (· < 128) with
  | [] => .ok (String.ofList (bs.map fun b => Char.ofNat b.toNat))
  | b :: _ => .error (b, (bs.takeWhile (· < 128)).length)

end GpuHandles.Text.Ascii
