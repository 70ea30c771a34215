/-!
Reading bytes as UTF-8, with a mark for what cannot be read.

The bytes go through one at a time.  A lead byte opens a sequence and fixes the
range of the byte after it, which rules out overlong forms, surrogates and
numbers past the last character; every later byte lies in `80..BF`.  A sequence
that breaks off is one replacement mark, and the byte that broke it starts anew.
-/

namespace GpuHandles.Text.Utf8

/-- The mark for bytes that spell no character. -/
def replacement : Char := Char.ofNat 0xfffd

/-- A sequence under way. -/
structure Pending where
  /-- the bits so far -/
  bits : Nat
  /-- how many bytes are still to come -/
  owed : Nat
  /-- the least and the greatest byte that may come next -/
  least : Nat
  greatest : Nat

/-- What a byte begins, if it begins anything. -/
inductive Lead where
  | character (c : Char)
  | sequence (p : Pending)
  | broken

/-- What a byte between characters begins. -/
def lead (b : UInt8) : Lead :=
  let n := b.toNat
  if n < 0x80 then .character (Char.ofNat n)
  else if n < 0xc2 then .broken
  else if n < 0xe0 then .sequence ⟨n - 0xc0, 1, 0x80, 0xbf⟩
  else if n < 0xf0 then
    .sequence ⟨n - 0xe0, 2, if n = 0xe0 then 0xa0 else 0x80, if n = 0xed then 0x9f else 0xbf⟩
  else if n < 0xf5 then
    .sequence ⟨n - 0xf0, 3, if n = 0xf0 then 0x90 else 0x80, if n = 0xf4 then 0x8f else 0xbf⟩
  else .broken

/-- The characters that a byte between characters settles, and the sequence it opens. -/
def start (b : UInt8) : List Char × Option Pending :=
  match lead b with
  | .character c => ([c], none)
  | .sequence p => ([], some p)
  | .broken => ([replacement], none)

/-- A byte that continues a sequence. -/
def advance (p : Pending) (b : UInt8) : List Char × Option Pending :=
  let bits := 64 * p.bits + (b.toNat - 0x80)
  if p.owed ≤ 1 then ([Char.ofNat bits], none)
  else ([], some ⟨bits, p.owed - 1, 0x80, 0xbf⟩)

/-- One byte: the characters it settles and what is under way after it. -/
def step : Option Pending → UInt8 → List Char × Option Pending
  | none, b => start b
  | some p, b =>
    if p.least ≤ b.toNat && b.toNat ≤ p.greatest then advance p b
    else (replacement :: (start b).1, (start b).2)

/-- The characters of bytes that follow a sequence under way. -/
def decodeFrom : Option Pending → List UInt8 → List Char
  | none, [] => []
  | some _, [] => [replacement]
  | state, b :: bs => (step state b).1 ++ decodeFrom (step state b).2 bs

/-- The text that bytes spell. -/
def decode (bs : List UInt8) : String := String.ofList (decodeFrom none bs)

/-- The bytes of a text. -/
def encode (s : String) : List UInt8 := s.toList.flatMap String.utf8EncodeChar

end GpuHandles.Text.Utf8
