import GpuHandles.Number.Reading
import GpuHandles.Status
import GpuHandles.Text.Ascii
import GpuHandles.Text.ByteCount
import GpuHandles.Value
/-!
Everything that can go wrong, by cause.

`Fault.kind` is the class that a cause is reported under and `Fault.message` its
text.  A failed native call keeps its status code; every other fault is found
before a call, or is the fault of a script's own block.
-/

namespace GpuHandles

/-- A cause of failure. -/
inductive Fault where
  /-- a native call answered with a nonzero code, or a check stands in for one -/
  | status (f : Status.Failure)
  /-- a handle was used after its release -/
  | released (cls : HandleClass)
  /-- the configured library file does not exist -/
  | missingLibrary (path : String)
  /-- no library was found on any of the tried paths -/
  | noLibrary (tried : List String)
  /-- the library file exists and cannot be loaded -/
  | unloadable (path : String)
  /-- a vendor tool failed in a way that counts as an error -/
  | toolBroke
  | badPlatform (written : String)
  | negativeSize (n : Int)
  | notByte (shown : Option String)
  | negativeKeep (shown : Option String)
  | negativeLimit (shown : Option String)
  /-- an allocation is not a whole number of elements -/
  | partialElement (size : Option String) (type : ElementBlock)
  /-- an array of elements without bytes -/
  | emptyElement
  /-- a remainder of a floating number by zero -/
  | realRemainder
  /-- a target array that is not contiguous or not writable -/
  | badTarget
  | badLiteral (written : String)
  | longLiteral (digits : Nat)
  /-- a text with a whole number in it that has too many digits to be written -/
  | longNumber
  /-- bytes that spell no whole number -/
  | badByteLiteral (written : List UInt8)
  | badReal (written : String)
  /-- underscores in a complex number that stand elsewhere than between two digits -/
  | badComplex (written : String)
  | malformedComplex
  /-- a whole number outside the range of an element type, by its printed form -/
  | outsideType (shown : String) (type : ElementType)
  /-- a whole number too large for the eight bytes that it has to pass through on the way to an
  element of a class -/
  | outsideWord (cls : ElementClass)
  /-- a whole number larger than any floating one -/
  | outsideReals
  | nanToWhole
  | infinityToWhole
  | notMember (shown : Option String) (e : Enumeration)
  /-- a text does not fit the native buffer -/
  | bufferOverflow
  | byteOverflow
  | negativeLength
  | lengthOverflow
  | negativeShape
  /-- an array of more elements, or of more bytes, than can be counted -/
  | hugeShape
  | hugeArray
  /-- an array of more bytes than there is memory -/
  | noMemory (shape : List Nat) (type : ElementType)
  /-- a buffer of more bytes than there is memory -/
  | noBuffer
  /-- elements of a class that have no order with numbers -/
  | unorderedElements (operation elementClass : String)
  /-- an array has to be true or false, and has several elements, or none -/
  | manyTruths
  | noTruth
  /-- an array has to be one whole number, or one number, and is not -/
  | arrayIndex
  | arrayNumber
  /-- items of different shapes as elements of one array -/
  | ragged (shape : List Nat)
  /-- an array of more axes than there can be -/
  | tooDeep (most : Nat)
  | zeroStep
  /-- bytes that are no whole number of elements -/
  | partialBuffer
  /-- elements without bytes, read from a buffer -/
  | emptyItem
  /-- elements that do not fill a shape -/
  | badShape (count : Nat) (shape : List Int)
  /-- a shape with more than one length to be worked out -/
  | unknownLengths
  | tooManyIndices (axes given : Nat)
  /-- an element type asked of an array, of a list of something else than fields, or of a
  tuple of a wrong length -/
  | typeOfArray
  | badField (shown : String)
  | badPair (length : Nat)
  /-- a value that is no native address -/
  | notAddress
  | notCallable (type : String)
  | sizeKind (type : String)
  | deviceKind (type : String)
  | pointerKind (type : String)
  | wholeKind (type : String)
  | realKind (type : String)
  | complexKind (type : String)
  /-- two kinds of value have no order -/
  | unordered (relation left right : String)
  | unhashable (type : String)
  | notIndex (type : String)
  | unknownType (written : String)
  | notType (shown : String)
  | noLength (type : String)
  /-- a length asked of an array without axes -/
  | noLengthOfElement
  | noBlock (type : String)
  /-- a format for whole numbers, given something else -/
  | wholeFormat (code : Char) (type : String)
  | arrayFormat
  /-- bytes repeated a number of times that is not whole -/
  | repetition (type : String)
  | sliceIndex
  /-- a remainder of values that have none, by its operator -/
  | noRemainder (operator left right : String)
  /-- a remainder of a text, which is a pattern without places -/
  | noPlaces
  /-- a name that the package of element types does not have -/
  | noElementName (name : String)
  /-- a call whose arguments do not match its parameters -/
  | badCall (words : String)
  /-- a native argument of the wrong type, by position -/
  | badArgument (position : Nat)
  | noAttribute (type name : String)
  | undefinedSymbol (name : String)
  | undeclaredSymbol (name : String)
  /-- a name or key that is not there -/
  | noKey (key : String)
  /-- the class of handle has no native release -/
  | noRelease
  | notAscii (run : Text.Ascii.Outside)
  | notAsciiByte (b : UInt8) (position : Nat)
  /-- raised by a script's own block -/
  | raised (words : String)
  /-- two arrays that should be equal are not -/
  | mismatch (report : String)
  deriving Repr

namespace Fault

/-- The failure of a status code, if the code can be written. -/
def ofCode (code : Int) : Fault :=
  match Status.Failure.ofCode? code none with
  | some f => .status f
  | none => .longNumber

/-- A failure found before a native call, in words of its own. -/
def ofKind (kind : Status.Kind) (words : String) : Fault := .status (.ofKind kind (some words))

/-- The class that a fault is reported under. -/
def kind : Fault → String
  | status _ => "HipError"
  | released _ => "ReleasedResourceError"
  | missingLibrary _ | noLibrary _ => "LibraryNotFoundError"
  | unloadable _ => "OSError"
  | toolBroke => "SubprocessError"
  | badPlatform _ | negativeSize _ | notByte _ | negativeKeep _ | negativeLimit _
  | partialElement .. | badTarget | badLiteral _ | longLiteral _ | longNumber | badByteLiteral _
  | badReal _
  | badComplex _ | malformedComplex | nanToWhole
  | notMember .. | bufferOverflow | byteOverflow | negativeLength | negativeShape | hugeShape
  | hugeArray | manyTruths | noTruth | ragged _ | tooDeep _ | zeroStep | partialBuffer | emptyItem
  | badShape .. | unknownLengths | wholeFormat .. => "ValueError"
  | emptyElement | realRemainder => "ZeroDivisionError"
  | noMemory .. | noBuffer => "MemoryError"
  | unorderedElements .. => "UFuncTypeError"
  | infinityToWhole | lengthOverflow | outsideType .. | outsideWord _ | outsideReals =>
    "OverflowError"
  | tooManyIndices .. => "IndexError"
  | sizeKind _ | deviceKind _ | pointerKind _ | wholeKind _ | realKind _ | complexKind _
  | unordered .. | unhashable _
  | notIndex _ | unknownType _ | notType _ | noLength _ | noLengthOfElement | noBlock _ | badCall _
  | notAddress | notCallable _ | arrayIndex | arrayNumber | typeOfArray | badField _ | badPair _
  | arrayFormat | repetition _ | sliceIndex | noRemainder .. | noPlaces => "TypeError"
  | badArgument _ => "ArgumentError"
  | noAttribute .. | undefinedSymbol _ | undeclaredSymbol _ | noElementName _ => "AttributeError"
  | noKey _ => "KeyError"
  | noRelease => "NotImplementedError"
  | notAscii _ => "UnicodeEncodeError"
  | notAsciiByte .. => "UnicodeDecodeError"
  | raised _ => "RuntimeError"
  | mismatch _ => "AssertionError"

/-- A piece of a sentence between apostrophes. -/
def named (s : String) : String := "'" ++ s ++ "'"

/-- A shape that elements do not fill: lengths that are to be worked out have no number, and
none is written before the first that has. -/
def askedShape (ns : List Int) : String :=
  match ns.dropWhile (· < 0) with
  | [] => "()"
  | first :: rest =>
    "(" ++ toString first ++
      String.join (rest.map fun n => if n < 0 then ",newaxis" else "," ++ toString n) ++
      (if ns.length = 1 then ",)" else ")")

/-- Where the first run of characters outside ASCII lies. -/
def asciiText (run : Text.Ascii.Outside) : String :=
  "'ascii' codec can't encode character" ++
    (if run.first = run.last then
      " '" ++ String.ofList (Text.numberEscape run.character.toNat) ++ "' in position " ++
        toString run.first
    else "s in position " ++ toString run.first ++ "-" ++ toString run.last) ++
    ": ordinal not in range(128)"

/-- A class of elements as it prints. -/
def elementClassText (c : String) : String := "<class " ++ named ("numpy.dtypes." ++ c) ++ ">"

/-- The refusal to write a whole number of too many digits. -/
def tooManyDigits : String :=
  "Exceeds the limit (4300 digits) for integer string conversion; use " ++
    "sys.set_int_max_str_digits() to increase the limit"

/-- A sentence around a value, or the refusal to write it. -/
def around (front : String) (shown : Option String) (back : String) : String :=
  (shown.map fun s => front ++ s ++ back).getD tooManyDigits

/-- The text of a fault. -/
def message : Fault → String
  | status f => f.text
  | released c =>
    c.name ++ " was already released; the " ++ c.subject ++ " cannot be used again"
  | missingLibrary path => "HIPRT_LIBRARY points to a missing file: " ++ path
  | noLibrary tried =>
    "HIP runtime library not found. Set HIPRT_LIBRARY or ROCM_PATH. Tried: " ++
      if tried.isEmpty then "nothing" else ", ".intercalate tried
  | unloadable path => path ++ ": invalid ELF header"
  | toolBroke => "tool broke"
  | badPlatform s =>
    "Invalid platform " ++ named s ++ ". Must be one of: amd, nvidia, or 'auto'"
  | negativeSize n => around "Size must be non-negative, got " (Text.written? n) ""
  | notByte s => around "memset value must be a byte, got " s ""
  | negativeKeep s => around "min_bytes_to_keep must be non-negative, got " s ""
  | negativeLimit s => around "max_size must be non-negative, got " s ""
  | partialElement size type =>
    around "" size ("-byte allocation is not a whole number of " ++ type.name ++ " elements")
  | emptyElement => "integer modulo by zero"
  | realRemainder => "float modulo"
  | badTarget => "out must be a C-contiguous, writable array"
  | badLiteral s =>
    "invalid literal for int() with base 10: " ++ String.ofList ((Text.quoted s).toList.take 200)
  | longLiteral n =>
    "Exceeds the limit (4300 digits) for integer string conversion: value has " ++ toString n ++
      " digits; use sys.set_int_max_str_digits() to increase the limit"
  | longNumber => tooManyDigits
  | badByteLiteral bs =>
    "invalid literal for int() with base 10: " ++
      String.ofList ((Text.quotedBytes bs).toList.take 200)
  | badReal s => "could not convert string to float: " ++ Text.quoted s
  | badComplex s => "could not convert string to complex: " ++ Text.quoted s
  | malformedComplex => "complex() arg is a malformed string"
  | outsideType s t => "Python integer " ++ s ++ " out of bounds for " ++ t.name
  | outsideWord c =>
    match c with
    | .usual => "Python int too large to convert to C long"
    | .long => "int too big to convert"
  | outsideReals => "int too large to convert to float"
  | nanToWhole => "cannot convert float NaN to integer"
  | infinityToWhole => "cannot convert float infinity to integer"
  | notMember s e => around "" s (" is not a valid " ++ e.name)
  | bufferOverflow => "byte string too long"
  | byteOverflow => "bytes must be in range(0, 256)"
  | negativeLength => "__len__() should return >= 0"
  | lengthOverflow => "cannot fit 'int' into an index-sized integer"
  | negativeShape => "negative dimensions are not allowed"
  | hugeShape => "Maximum allowed dimension exceeded"
  | hugeArray =>
    "array is too big; \x60arr.size * arr.dtype.itemsize\x60 is larger than the maximum " ++
      "possible size."
  | noMemory shape t =>
    "Unable to allocate " ++ Text.byteCount (shape.foldl (· * ·) t.size) ++
      " for an array with shape " ++ HostArray.shapeText shape ++ " and data type " ++ t.name
  | unorderedElements operation c =>
    "ufunc " ++ named operation ++ " did not contain a loop with signature matching types (" ++
      elementClassText c ++ ", " ++ elementClassText "_PyLongDType" ++ ") -> None"
  | manyTruths =>
    "The truth value of an array with more than one element is ambiguous. Use a.any() or a.all()"
  | noTruth =>
    "The truth value of an empty array is ambiguous. Use \x60array.size > 0\x60 to check that " ++
      "an array is not empty."
  | arrayIndex => "only integer scalar arrays can be converted to a scalar index"
  | arrayNumber => "only length-1 arrays can be converted to Python scalars"
  | ragged shape =>
    "setting an array element with a sequence. The requested array has an inhomogeneous shape " ++
      "after " ++ toString shape.length ++ " dimensions. The detected shape was " ++
      HostArray.shapeText shape ++ " + inhomogeneous part."
  | tooDeep n =>
    "setting an array element with a sequence. The requested array would exceed the maximum " ++
      "number of dimension of " ++ toString n ++ "."
  | zeroStep => "slice step cannot be zero"
  | partialBuffer => "buffer size must be a multiple of element size"
  | emptyItem => "itemsize cannot be zero in type"
  | badShape n shape =>
    "cannot reshape array of size " ++ toString n ++ " into shape " ++ askedShape shape
  | unknownLengths => "can only specify one unknown dimension"
  | tooManyIndices axes given =>
    "too many indices for array: array is " ++ toString axes ++ "-dimensional, but " ++
      toString given ++ " were indexed"
  | typeOfArray => "Cannot construct a dtype from an array"
  | badField s => "Field elements must be 2- or 3-tuples, got " ++ named s
  | badPair n => "Tuple must have size 2, but has size " ++ toString n
  | wholeFormat c t =>
    "Unknown format code " ++ named c.toString ++ " for object of type " ++ named t
  | arrayFormat => "unsupported format string passed to numpy.ndarray.__format__"
  | repetition t => "can't multiply sequence by non-int of type " ++ named t
  | sliceIndex => "slice indices must be integers or None or have an __index__ method"
  | noRemainder operator l r =>
    "unsupported operand type(s) for " ++ operator ++ ": " ++ named l ++ " and " ++ named r
  | noPlaces => "not all arguments converted during string formatting"
  | noElementName n => "module 'numpy' has no attribute " ++ named n
  | notAddress => "cannot be converted to pointer"
  | notCallable t => named t ++ " object is not callable"
  | sizeKind t => "Size must be an integer, got " ++ t
  | deviceKind t => "Expected Device or int, got " ++ t
  | pointerKind t => "Expected MemoryPointer, got " ++ t
  | wholeKind t =>
    "int() argument must be a string, a bytes-like object or a real number, not " ++ named t
  | realKind t => "float() argument must be a string or a real number, not " ++ named t
  | complexKind t => "must be real number, not " ++ t
  | unordered relation l r =>
    named relation ++ " not supported between instances of " ++ named l ++ " and " ++ named r
  | unhashable t => "unhashable type: " ++ named t
  | notIndex t => named t ++ " object cannot be interpreted as an integer"
  | unknownType s => "data type " ++ Text.quoted s ++ " not understood"
  | notType s => "Cannot interpret " ++ named s ++ " as a data type"
  | noLength t => "object of type " ++ named t ++ " has no len()"
  | noLengthOfElement => "len() of unsized object"
  | noBlock t => named t ++ " object does not support the context manager protocol"
  | badCall s => s
  | badArgument n => "argument " ++ toString n ++ ": TypeError: wrong type"
  | noAttribute t n => named t ++ " object has no attribute " ++ named n
  | undefinedSymbol n => "undefined symbol: " ++ n
  | undeclaredSymbol n => named n ++ " is not a declared HIP runtime entry point"
  | noKey k => Text.quoted k
  | noRelease | noBuffer => ""
  | notAscii run => asciiText run
  | notAsciiByte b position =>
    "'ascii' codec can't decode byte 0x" ++ String.ofList (Text.hexByte b) ++ " in position " ++
      toString position ++ ": ordinal not in range(128)"
  | raised s => s
  | mismatch s => s

end Fault

namespace Value

/-- The fault of reading an attribute that a value does not have. -/
def missing {α : Type} (v : Value) (name : String) : Except Fault α :=
  .error (.noAttribute v.qualifiedType name)

/-- The whole number that a value can stand for. -/
def toIndex (v : Value) : Except Fault Int :=
  match v.index?, v with
  | some n, _ => .ok n
  | none, .array _ => .error .arrayIndex
  | none, v => .error (.notIndex v.qualifiedType)

/-- A number without its fraction. -/
def wholePart (n : Number) : Except Fault Int :=
  match n.truncate with
  | .ok k => .ok k
  | .error .nan => .error .nanToWhole
  | .error .infinite => .error .infinityToWhole

/-- The whole number that a text spells. -/
def wholeOfText (s : String) : Except Fault Int :=
  match Text.readLiteral s with
  | .number n => .ok n
  | .tooLong digits => .error (.longLiteral digits)
  | .malformed => .error (.badLiteral s)

/-- The whole number that bytes spell. -/
def wholeOfBytes (bs : List UInt8) : Except Fault Int :=
  let character (b : UInt8) : Char := if b < 128 then Char.ofNat b.toNat else '?'
  match Text.readLiteral (String.ofList (bs.map character)) with
  | .number n => .ok n
  | .tooLong digits => .error (.longLiteral digits)
  | .malformed => .error (.badByteLiteral bs)

/-- The whole number of an array with one element. -/
def wholeOfArray (a : HostArray) : Except Fault Int :=
  match a.onlyElement? with
  | some (.number (.complex ..)) => .error (.wholeKind "complex")
  | some (.number n) => wholePart n
  | some (.text codes) => wholeOfText (Element.characters codes)
  | some (.bytes bs) => wholeOfBytes bs
  | _ => .error .arrayNumber

/-- The whole number that a value converts to: a fraction is dropped, a text read, and an
address taken for the eight bytes that hold it. -/
def toWhole : Value → Except Fault Int
  | .int n => .ok n
  | .text s => wholeOfText s
  | .array a => wholeOfArray a
  | .uuid bs => .ok (Width.ofLittleEndian bs.reverse)
  | .address a => wholeOfBytes (Width.littleEndian 8 (a.getD 0))
  | v =>
    match v.number? with
    | some n => wholePart n
    | none => .error (.wholeKind v.qualifiedType)

/-- The floating number of eight bytes that a value converts to: a text is read. -/
def toReal : Value → Except Fault Binary
  | .float x => .ok x
  | .text s =>
    match Binary.ofText? s with
    | some x => .ok x
    | none => .error (.badReal s)
  | v =>
    match v.integer? with
    | some n =>
      match Binary.ofInt .double n with
      | .infinite _ => .error .outsideReals
      | x => .ok x
    | none => .error (.realKind v.qualifiedType)

end Value
end GpuHandles
