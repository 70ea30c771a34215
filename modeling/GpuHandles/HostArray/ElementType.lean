import GpuHandles.Number.Binary
/-!
Element types of host arrays.

`ElementType.ofText?` reads the written names of a type, `name` writes the canonical
one, which keeps the byte order of multi-byte types that store the high byte first.
`join` is the type that holds the elements of two types together: the wider of two
of one kind, the next kind up where neither holds the other, and text of a fixed
width where numbers meet text.
-/

namespace GpuHandles

/-- A type of array elements.  The flag of a multi-byte type says that the high byte comes
first. -/
inductive ElementType where
  | bool
  /-- whole numbers of some bytes, with a sign or without -/
  | whole (signed : Bool) (width : Nat) (swapped : Bool)
  | real (format : Format) (swapped : Bool)
  /-- two reals side by side -/
  | complex (format : Format) (swapped : Bool)
  | byteString (length : Nat)
  /-- bytes without a meaning -/
  | raw (length : Nat)
  /-- characters of four bytes each -/
  | text (length : Nat) (swapped : Bool)
  /-- references to values of any kind, which carry no bytes of their own -/
  | object
  /-- elements of which only the layout matters, such as times and structures: how the type is
  written by itself and as a field, the bytes of one element, and those that belong to no field -/
  | other (written field : String) (length : Nat) (gaps : List Nat)
  deriving Repr, DecidableEq, Inhabited

namespace ElementType

def int8 : ElementType := whole true 1 false
def uint8 : ElementType := whole false 1 false
def int16 : ElementType := whole true 2 false
def uint16 : ElementType := whole false 2 false
def int32 : ElementType := whole true 4 false
def uint32 : ElementType := whole false 4 false
def int64 : ElementType := whole true 8 false
def uint64 : ElementType := whole false 8 false
def float16 : ElementType := real .half false
def float32 : ElementType := real .single false
def float64 : ElementType := real .double false
def complex64 : ElementType := complex .single false
def complex128 : ElementType := complex .double false

/-- The bytes of one element. -/
def size : ElementType → Nat
  | bool => 1
  | whole _ w _ => w
  | real f _ => f.width
  | complex f _ => 2 * f.width
  | byteString n | raw n => n
  | text n _ => 4 * n
  | object => 8
  | other _ _ n _ => n

/-- The bytes of one element that belong to no field. -/
def gaps : ElementType → List Nat
  | other _ _ _ gaps => gaps
  | _ => []

/-- A letter, and a count behind it. -/
def lettered (letter : String) (n : Nat) : String := letter ++ toString n

/-- The canonical name. -/
def name : ElementType → String
  | bool => "bool"
  | whole signed w swapped =>
    if swapped && 1 < w then lettered (if signed then ">i" else ">u") w
    else lettered (if signed then "int" else "uint") (8 * w)
  | real f swapped =>
    if swapped then lettered ">f" f.width else lettered "float" (8 * f.width)
  | complex f swapped =>
    if swapped then lettered ">c" (2 * f.width) else lettered "complex" (16 * f.width)
  | byteString n => lettered "|S" n
  | raw n => lettered "|V" n
  | text n swapped => lettered (if swapped then ">U" else "<U") n
  | object => "object"
  | other written .. => written

/-- Are the elements whole numbers? -/
def isWhole : ElementType → Bool
  | whole .. => true
  | _ => false

/-- The same type with the low byte first. -/
def native : ElementType → ElementType
  | whole signed w _ => whole signed w false
  | real f _ => real f false
  | complex f _ => complex f false
  | text n _ => text n false
  | t => t

/-- The same type with the high byte first, if it has more than one. -/
def highFirst : ElementType → ElementType
  | whole signed w _ => whole signed w (decide (1 < w))
  | real f _ => real f true
  | complex f _ => complex f true
  | text n _ => text n true
  | t => t

/-! ## Written names -/

/-- Types by the names that allow no mark of byte order. -/
def named : List (String × ElementType) :=
  [("bool", bool), ("bool_", bool), ("int8", int8), ("byte", int8), ("uint8", uint8),
    ("ubyte", uint8), ("int16", int16), ("short", int16), ("uint16", uint16), ("ushort", uint16),
    ("int32", int32), ("intc", int32), ("uint32", uint32), ("uintc", uint32), ("int64", int64),
    ("int", int64), ("int_", int64), ("intp", int64), ("long", int64), ("longlong", int64),
    ("uint64", uint64), ("uint", uint64), ("uintp", uint64), ("ulong", uint64),
    ("ulonglong", uint64), ("float16", float16), ("half", float16), ("float32", float32),
    ("single", float32), ("float64", float64), ("float", float64), ("double", float64),
    ("complex64", complex64), ("csingle", complex64), ("complex128", complex128),
    ("complex", complex128), ("cdouble", complex128), ("bytes", byteString 0),
    ("bytes_", byteString 0), ("str", text 0 false), ("str_", text 0 false),
    ("unicode", text 0 false), ("void", raw 0)]

/-- Types by the short codes. -/
def coded : List (String × ElementType) :=
  [("?", bool), ("b1", bool), ("b", int8), ("i1", int8), ("B", uint8), ("u1", uint8),
    ("h", int16), ("i2", int16), ("H", uint16), ("u2", uint16), ("i", int32), ("i4", int32),
    ("I", uint32), ("u4", uint32), ("l", int64), ("q", int64), ("p", int64), ("i8", int64),
    ("L", uint64), ("Q", uint64), ("P", uint64), ("u8", uint64), ("e", float16), ("f2", float16),
    ("f", float32), ("f4", float32), ("d", float64), ("f8", float64), ("F", complex64),
    ("c8", complex64), ("c", byteString 1), ("D", complex128), ("c16", complex128)]

/-- The length after the letter of a sized type; no length counts as zero. -/
def length? (cs : List Char) : Option Nat :=
  if cs.all Char.isDigit then some (cs.foldl (fun n c => 10 * n + (c.toNat - 48)) 0) else none

/-- The largest number of bytes that one element may have. -/
def sizeLimit : Nat := 2 ^ 31 - 1

/-- A type of a written length. -/
def ofLetter? : List Char → Option ElementType
  | 'S' :: cs => (length? cs).map byteString
  | 'V' :: cs => (length? cs).map raw
  | 'U' :: cs => (length? cs).map fun n => text n false
  | _ => none

/-- The type that a code without a mark of byte order names. -/
def ofCode? (cs : List Char) : Option ElementType :=
  match coded.lookup (String.ofList cs) with
  | some t => some t
  | none => (ofLetter? cs).filter fun t => t.size ≤ sizeLimit

/-- The type that a text names. -/
def ofText? (s : String) : Option ElementType :=
  match named.lookup s with
  | some t => some t
  | none =>
    match s.toList with
    | '>' :: cs => (ofCode? cs).map highFirst
    | '<' :: cs | '=' :: cs | '|' :: cs => ofCode? cs
    | cs => ofCode? cs

/-! ## Common types -/

/-- The wider of two formats. -/
def widerFormat (f g : Format) : Format := if f.precision < g.precision then g else f

/-- The narrowest format that holds all whole numbers of some bytes, as far as any does. -/
def formatFor (width : Nat) : Format :=
  if width ≤ 1 then .half else if width ≤ 2 then .single else .double

/-- The common type of whole numbers with a sign and without. -/
def joinSigns (signed unsigned : Nat) : ElementType :=
  if unsigned < signed then whole true signed false
  else if unsigned < 8 then whole true (2 * unsigned) false
  else float64

/-- The characters that the widest element of a type needs as text. -/
def textWidth : ElementType → Nat
  | bool => 5
  | whole signed w _ =>
    if w ≤ 1 then (if signed then 4 else 3)
    else if w ≤ 2 then (if signed then 6 else 5)
    else if w ≤ 4 then (if signed then 11 else 10)
    else if signed then 21 else 20
  | real .. => 32
  | complex .. => 64
  | byteString n | raw n | text n _ => n
  | object => 0
  | other _ _ n _ => n

/-- The type that holds the elements of two types. -/
def join : ElementType → ElementType → ElementType
  | object, _ | _, object => object
  | other s f n gs, t | t, other s f n gs => if t = other s f n gs then t else object
  | raw n, raw k => if n = k then raw n else object
  | raw _, _ | _, raw _ => object
  | text n _, t | t, text n _ => text (max n t.textWidth) false
  | byteString n, t | t, byteString n => byteString (max n t.textWidth)
  | bool, t | t, bool => t.native
  | whole true v _, whole false w _ | whole false w _, whole true v _ => joinSigns v w
  | whole signed v _, whole _ w _ => whole signed (max v w) false
  | whole _ w _, real f _ | real f _, whole _ w _ => real (widerFormat f (formatFor w)) false
  | whole _ w _, complex f _ | complex f _, whole _ w _ =>
    complex (widerFormat f (formatFor w)) false
  | real f _, real g _ => real (widerFormat f g) false
  | real f _, complex g _ | complex g _, real f _ | complex f _, complex g _ =>
    complex (widerFormat f g) false

end ElementType
end GpuHandles
