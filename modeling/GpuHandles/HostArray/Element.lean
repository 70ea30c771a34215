import GpuHandles.HostArray.ElementType
import GpuHandles.Number.Basic
import GpuHandles.Number.Width
/-!
Elements of host arrays, and the bytes that they are stored as.

`ElementType.cast` makes a number of one type out of one of another, `Element.encode`
writes an element as one of a type, and `Element.decode` reads the bytes of a type.  The
bytes of each number, and of each character, stand with the low byte first unless the
type says otherwise.
-/

namespace GpuHandles

/-- One element of an array. -/
inductive Element where
  | number (n : Number)
  /-- characters by their numbers, which are whatever four bytes hold -/
  | text (codes : List Nat)
  | bytes (bs : List UInt8)
  /-- a reference to a value that is no element by itself -/
  | reference
  deriving Repr, DecidableEq

namespace ElementType

/-- Does the high byte come first? -/
def isSwapped : ElementType → Bool
  | whole _ _ s | real _ s | complex _ s | text _ s => s
  | _ => false

/-- The bytes whose order belongs together. -/
def unit : ElementType → Nat
  | complex f _ => f.width
  | text .. => 4
  | t => t.size

/-- The format of the numbers of a type, where they are floating. -/
def format? : ElementType → Option Format
  | real f _ | complex f _ => some f
  | _ => none

/-- The bytes of an element in the other order. -/
def swapUnits (t : ElementType) (bs : List UInt8) : List UInt8 :=
  (List.range (bs.length / t.unit)).flatMap fun i => ((bs.drop (i * t.unit)).take t.unit).reverse

/-- Bytes in native order as the type stores them, and the other way round. -/
def ordered (t : ElementType) (bs : List UInt8) : List UInt8 :=
  if t.isSwapped then t.swapUnits bs else bs

/-! ## Numbers of one type as numbers of another -/

/-- A whole number kept to the low bits of a type. -/
def wrapped (signed : Bool) (width : Nat) (n : Int) : Int :=
  if signed then Width.signed (8 * width) n else Width.unsigned (8 * width) n

/-- The whole number that a register of some bits takes over; in place of none, or of one that
does not fit, it holds its lowest. -/
def register (bits : Nat) (n : Option Int) : Int :=
  let half : Int := 2 ^ (bits - 1)
  match n with
  | some k => if -half ≤ k ∧ k < half then k else -half
  | none => -half

/-- The whole number that a floating one becomes in a register: one of four bytes where the type
has no more, sign included, else one of eight.  For eight bytes without a sign, the upper half
is moved down first and back afterwards. -/
def wholeOfReal (signed : Bool) (width : Nat) (x : Binary) : Int :=
  let n := x.truncate.toOption
  let top : Int := 2 ^ 63
  if width < 4 || (signed && width == 4) then register 32 n
  else if signed || width == 4 || x.isUndefined || x.order (.exact top) == some .lt then
    register 64 n
  else register 64 (n.map (· - top)) + top

/-- A floating part of a number of one type, in a format; a whole number becomes two bytes by
way of four. -/
def castReal (source : ElementType) (f : Format) (n : Number) : Binary :=
  match n, source.format? with
  | .int k, _ =>
    if f = .half then (Binary.ofInt .single k).convert .half else .ofInt f k
  | .truth b, _ => .ofInt f (Number.ofTruth b)
  | .real x, some g | .complex x _, some g => x.recast g f
  | .real x, none | .complex x _, none => x.convert f

/-- A number of one type as a number of another, however little of it is left. -/
def cast (source target : ElementType) (n : Number) : Number :=
  match target with
  | bool => .truth (!n.equal (.int 0))
  | whole signed width _ =>
    .int (wrapped signed width
      (match n.whole? with
      | some k => k
      | none => wholeOfReal signed width n.exact))
  | real f _ => .real (castReal source f n)
  | complex f _ => .complex (castReal source f n) (castReal source f (.real n.second))
  | _ => n

end ElementType

namespace Element

/-- Characters by their numbers as text. -/
def characters (codes : List Nat) : String := String.ofList (codes.map Char.ofNat)

/-- An element of a type as text. -/
def shown (t : ElementType) : Element → String
  | number n => n.text (t.format?.getD .double)
  | text codes => characters codes
  | bytes bs => characters (bs.map UInt8.toNat)
  | reference => ""

/-- The first part of an element as a floating value. -/
def asReal (f : Format) : Element → Binary
  | number n => n.inFormat f
  | _ => .undefined false

/-- The second part of an element as a floating value. -/
def asImaginary (f : Format) : Element → Binary
  | number n => n.second.convert f
  | _ => .exact 0

/-- The whole number of an element. -/
def asWhole : Element → Int
  | number n => n.whole?.getD 0
  | _ => 0

/-- A floating value, low byte first. -/
def realBytes (f : Format) (x : Binary) : List UInt8 := Width.littleEndian f.width (x.toBits f)

/-- Bytes filled with zeros, or cut, to a length. -/
def padded (n : Nat) (bs : List UInt8) : List UInt8 :=
  bs.take n ++ List.replicate (n - bs.length) 0

/-- A number of a type as it is stored, low bytes first. -/
def numberBytes (t : ElementType) (n : Number) : List UInt8 :=
  match t with
  | .bool => [if n.equal (.int 0) then 0 else 1]
  | .whole _ w _ => Width.littleEndian w (Width.unsigned (8 * w) (n.whole?.getD 0))
  | .real f _ => realBytes f n.exact
  | .complex f _ => realBytes f n.exact ++ realBytes f n.second
  | t => List.replicate t.size 0

/-- The characters of a text, four bytes each. -/
def codeBytes (codes : List Nat) : List UInt8 := codes.flatMap (Width.littleEndian 4)

/-- An element of one type as it is stored in another, low bytes first. -/
def encodeNative (source target : ElementType) (e : Element) : List UInt8 :=
  let written := (e.shown source).toList.map Char.toNat
  match target, e with
  | .byteString n, bytes bs | .raw n, bytes bs => padded n bs
  | .byteString n, _ => padded n (written.map UInt8.ofNat)
  | .text n _, text codes => padded (4 * n) (codeBytes codes)
  | .text n _, _ => padded (4 * n) (codeBytes written)
  | t, number n => numberBytes t (source.cast t n)
  | t, _ => List.replicate t.size 0

/-- An element of one type as it is stored in another. -/
def encode (source target : ElementType) (e : Element) : List UInt8 :=
  target.ordered (encodeNative source target e)

/-- A list without the zeros at its end. -/
def untilLast {α : Type} [BEq α] (zero : α) (xs : List α) : List α :=
  (xs.reverse.dropWhile (· == zero)).reverse

/-- The numbers of the characters of a text element, four bytes each. -/
def codes : Nat → List UInt8 → List Nat
  | 0, _ => []
  | n + 1, bs => Width.ofLittleEndian (bs.take 4) :: codes n (bs.drop 4)

/-- The stored bytes of an element, with those of another store in its gaps. -/
def filledGaps (t : ElementType) (under : Nat → UInt8) (stored : List UInt8) : List UInt8 :=
  stored.mapIdx fun k b => if t.gaps.contains k then under k else b

/-- The element that bytes of a type hold. -/
def decode (t : ElementType) (stored : List UInt8) : Element :=
  let bs := t.ordered stored
  match t with
  | .bool => number (.truth (bs.any (· != 0)))
  | .whole signed w _ =>
    let n := Width.ofLittleEndian bs
    number (.int (if signed then Width.signed (8 * w) n else n))
  | .real f _ => number (.real (.ofBits f (Width.ofLittleEndian bs)))
  | .complex f _ =>
    number (.complex (.ofBits f (Width.ofLittleEndian (bs.take f.width)))
      (.ofBits f (Width.ofLittleEndian (bs.drop f.width))))
  | .byteString _ => bytes (untilLast 0 bs)
  | .raw _ => bytes bs
  | .text n _ => text (untilLast 0 (codes n bs))
  | .object => reference
  | .other .. => bytes (filledGaps t (fun _ => 0) bs)

end Element
end GpuHandles
