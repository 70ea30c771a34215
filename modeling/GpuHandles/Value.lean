import GpuHandles.Enumeration
import GpuHandles.HostArray.Printed
import GpuHandles.Quantity
import GpuHandles.Text.IntegerLiteral
import GpuHandles.Version
/-!
Values that scripts pass to the interface and get back from it.

The interface is called with whatever a script holds, and part of its contract is
what it does with values of the wrong kind.  This module says what a value is,
what its kind is called, how it prints, and which number it counts as.
-/

namespace GpuHandles

/-- The classes of owned handles. -/
inductive HandleClass where
  | pointer
  | stream
  | pool
  | plain
  deriving Repr, DecidableEq

namespace HandleClass

/-- The name of the class. -/
def name : HandleClass → String
  | pointer => "MemoryPointer"
  | stream => "Stream"
  | pool => "MemPool"
  | plain => "NativeResource"

/-- What a handle of the class stands for. -/
def subject : HandleClass → String
  | pointer => "device allocation"
  | stream => "stream"
  | pool => "memory pool"
  | plain => "resource"

end HandleClass

/-- The native address behind a handle; `none` is null. -/
abbrev Address := Option Nat

/-- The classes that single elements of one type can have.  There are two for whole numbers of
eight bytes, which differ by their names alone. -/
inductive ElementClass where
  | usual
  | long
  deriving Repr, DecidableEq

/-- The name of a class of elements of a type. -/
def ElementClass.name (type : ElementType) : ElementClass → String
  | usual => type.name
  | long => if type == .uint64 then "ulonglong" else "longlong"

/-- A value of a script. -/
inductive Value where
  | null
  | truth (b : Bool)
  | int (n : Int)
  | float (x : Binary)
  | text (s : String)
  | list (items : List Value)
  | tuple (items : List Value)
  /-- a single element of an array type, by the class that it was made with -/
  | scalar (type : ElementType) (cls : ElementClass) (n : Number)
  | array (a : HostArray)
  | device (id : Value)
  | member (e : Enumeration) (m : Enumeration.Member)
  | poolProps (allocationType handleTypes locationType locationId maxSize : Value)
  /-- an owned handle, by its number in the order of construction -/
  | handle (id : Nat) (cls : HandleClass)
  | address (a : Address)
  /-- numbers with a name, printed with points between them -/
  | version (typeName : String) (parts : List (String × Number))
  | uuid (bytes : List UInt8)
  /-- a library; no path: the machine itself -/
  | library (loaded : Option (Option String))
  deriving Inhabited

namespace Value

/-- A number as a value. -/
def ofNumber : Number → Value
  | .int n => int n
  | .truth b => truth b
  | .real x => float x
  | .complex x y => scalar .complex128 .usual (.complex x y)

/-- A version of the runtime as a value. -/
def ofVersion (v : Version) : Value :=
  version "RuntimeVersion"
    [("major", .int v.major), ("minor", .int v.minor), ("patch", .int v.patch)]

/-- The name of a value's kind. -/
def typeName : Value → String
  | null => "NoneType"
  | truth _ => "bool"
  | int _ => "int"
  | float _ => "float"
  | text _ => "str"
  | list _ => "list"
  | tuple _ => "tuple"
  | scalar t c _ => c.name t
  | array _ => "ndarray"
  | device _ => "Device"
  | member e _ => e.name
  | poolProps .. => "MemPoolProps"
  | handle _ c => c.name
  | address _ => "c_void_p"
  | version t _ => t
  | uuid _ => "UUID"
  | library _ => "HipLibrary"

/-- The name of a value's kind with that of its package, where it has one. -/
def qualifiedType : Value → String
  | scalar t c _ => "numpy." ++ c.name t
  | array _ => "numpy.ndarray"
  | v => v.typeName

/-- The number that a value counts as: numbers of all kinds, truth values, and the
members of numeric enumerations. -/
def number? : Value → Option Number
  | truth b => some (.truth b)
  | int n => some (.int n)
  | float x => some (.real x)
  | scalar _ _ n => some n
  | member e ⟨_, .number n⟩ => if e.isNumeric then some (.int n) else none
  | _ => none

/-- The number that a value counts as, with the type of element that it is. -/
def quantity? : Value → Option Quantity
  | scalar t _ n => some ⟨n, some t⟩
  | v => v.number?.map .plain

/-- The whole number that a value is by kind: whole numbers, truth values, and the
members of numeric enumerations. -/
def integer? : Value → Option Int
  | truth b => some (Number.ofTruth b)
  | int n => some n
  | member e ⟨_, .number n⟩ => if e.isNumeric then some n else none
  | _ => none

/-- The whole number of an array without axes. -/
def arrayIndex? (a : HostArray) : Option Int :=
  if a.shape.isEmpty && a.type.isWhole then a.elements.head?.map Element.asWhole else none

/-- The whole number that a value can stand for wherever one is asked for: also whole and
truth elements of arrays, and whole arrays without axes. -/
def index? : Value → Option Int
  | scalar _ _ n => n.whole?
  | array a => arrayIndex? a
  | v => v.integer?

/-- The items of a value that is a sequence of values. -/
def items? : Value → Option (List Value)
  | list vs | tuple vs => some vs
  | version _ parts => some (parts.map fun p => ofNumber p.2)
  | _ => none

mutual
/-- The name of the kind that keeps a value from standing as a key. -/
def unhashable? : Value → Option String
  | list _ => some "list"
  | array _ => some "numpy.ndarray"
  | device id => unhashable? id
  | tuple vs => unhashableIn? vs
  | poolProps a b c d e =>
    (unhashable? a).or
      ((unhashable? b).or ((unhashable? c).or ((unhashable? d).or (unhashable? e))))
  | _ => none

/-- The first such name among several values. -/
def unhashableIn? : List Value → Option String
  | [] => none
  | v :: vs => (unhashable? v).or (unhashableIn? vs)
end

/-- Are two numbers equal, each in the type that it has? -/
def equalQuantities : Option Quantity → Option Quantity → Bool
  | some x, some y => x.equal y
  | _, _ => false

mutual
/-- Are two values equal?  Numbers compare across kinds, lists by their elements. -/
def equal : Value → Value → Bool
  | null, null => true
  | int m, int n => m == n
  | text s, text t => s == t
  | list xs, list ys => equalAll xs ys
  | tuple xs, tuple ys => equalAll xs ys
  | version _ ps, version _ qs => ps.map Prod.snd == qs.map Prod.snd
  | device a, device b => equal a b
  | poolProps a b c d e, poolProps a' b' c' d' e' =>
    equal a a' && equal b b' && equal c c' && equal d d' && equal e e'
  | handle i _, handle j _ => i == j
  | uuid a, uuid b => a == b
  | member e ⟨n, .word s⟩, member e' ⟨n', .word s'⟩ => e == e' && n == n' && s == s'
  | member .statusKind m, member .statusKind m' => m == m'
  | a, b => equalQuantities a.quantity? b.quantity?

/-- Are two lists equal, element by element? -/
def equalAll : List Value → List Value → Bool
  | [], [] => true
  | x :: xs, y :: ys => equal x y && equalAll xs ys
  | _, _ => false
end

mutual
/-- Have two values the same key?  Numbers that round to each other are equal where they are
compared, and still differ as keys. -/
def sameKey : Value → Value → Bool
  | device a, device b => sameKey a b
  | tuple xs, tuple ys => sameKeys xs ys
  | poolProps a b c d e, poolProps a' b' c' d' e' =>
    sameKey a a' && sameKey b b' && sameKey c c' && sameKey d d' && sameKey e e'
  | a, b =>
    equal a b &&
      match a.number?, b.number? with
      | some x, some y => x.equal y
      | _, _ => true

/-- Have the values of two lists the same keys? -/
def sameKeys : List Value → List Value → Bool
  | [], [] => true
  | x :: xs, y :: ys => sameKey x y && sameKeys xs ys
  | _, _ => false
end

/-! ## Texts -/

/-- A number of an element type as it prints. -/
def elementText (t : ElementType) (n : Number) : String := n.text (t.format?.getD .double)

/-- An element of an array type in the form that names the type. -/
def namedElement (t : ElementType) (n : Number) : String :=
  let text := elementText t n
  "np." ++
    match t with
    | .bool => text ++ "_"
    | _ => t.name ++ (if text.startsWith "(" then text else "(" ++ text ++ ")")

/-- The sixteen bytes of an identifier in groups of 8, 4, 4, 4 and 12 digits. -/
def uuidText (bs : List UInt8) : String :=
  let group (first n : Nat) := Text.hexBytes ((bs.drop first).take n)
  "-".intercalate [group 0 4, group 4 2, group 6 2, group 8 2, group 10 6]

/-- The printed form of a library: its path in quotes. -/
def libraryText (path : Option String) : String :=
  "HipLibrary(path=" ++ (match path with | some p => Text.quoted p | none => "None") ++ ")"

/-- The texts of resources where there are none. -/
def nameless : Nat → String := fun _ => ""

mutual
/-- The printed form of a value that names its kind; `name` gives the texts of the
resources. -/
def shown (name : Nat → String) : Value → String
  | null => "None"
  | truth b => if b then "True" else "False"
  | int n => toString n
  | float x => x.text .double
  | text s => Text.quoted s
  | list items => "[" ++ ", ".intercalate (shownAll name items) ++ "]"
  | tuple items =>
    match items with
    | [v] => "(" ++ shown name v ++ ",)"
    | vs => "(" ++ ", ".intercalate (shownAll name vs) ++ ")"
  | scalar t _ n => namedElement t n
  | array a => a.shown
  | device id => "Device(id=" ++ shown name id ++ ")"
  | member e ⟨n, c⟩ =>
    "<" ++ e.name ++ (match n with | some s => "." ++ s | none => "") ++ ": " ++
      (match c with | .number k => toString k | .word s => Text.quoted s) ++ ">"
  | poolProps a b c d e =>
    "MemPoolProps(alloc_type=" ++ shown name a ++ ", handle_types=" ++ shown name b ++
      ", location_type=" ++ shown name c ++ ", location_id=" ++ shown name d ++ ", max_size=" ++
      shown name e ++ ")"
  | handle id _ => name id
  | address a =>
    match a with
    | some n => "c_void_p(" ++ toString n ++ ")"
    | none => "c_void_p(None)"
  | version t parts =>
    t ++ "(" ++ ", ".intercalate (parts.map fun p => p.1 ++ "=" ++ p.2.text .double) ++ ")"
  | uuid bs => "UUID('" ++ uuidText bs ++ "')"
  | library l => match l with | some p => libraryText p | none => "direct"

/-- The printed forms of several values. -/
def shownAll (name : Nat → String) : List Value → List String
  | [] => []
  | v :: vs => shown name v :: shownAll name vs
end

/-- The plain text of a value. -/
def plain (name : Nat → String) : Value → String
  | text s => s
  | scalar t _ n => elementText t n
  | array a => a.plain
  | member e ⟨n, c⟩ =>
    match c with
    | .number k => if e.isNumeric then toString k else e.name ++ "." ++ n.getD ""
    | .word s => if e == .platform then s else e.name ++ "." ++ n.getD ""
  | version _ parts => ".".intercalate (parts.map fun p => p.2.text .double)
  | uuid bs => uuidText bs
  | v => v.shown name

/-- The type whose digits an element prints with inside a sentence: the widest of its
kind. -/
def widest : ElementType → ElementType
  | .real .. => .float64
  | .complex .. => .complex128
  | t => t

/-- The text of a value inside a sentence, with all digits of its numbers. -/
def spoken (name : Nat → String) : Value → String
  | scalar t _ n => elementText (widest t) n
  | array a =>
    match a.shape, a.elements with
    | [], [e] => HostArray.spokenElement (widest a.type) e
    | _, _ => a.plain
  | v => v.plain name

mutual
/-- Can the whole numbers in the text of a value be written? -/
def isWritable : Value → Bool
  | int n => Text.isWritable n
  | list items | tuple items => areWritable items
  | device id => isWritable id
  | member _ ⟨_, .number n⟩ => Text.isWritable n
  | poolProps a b c d e =>
    isWritable a && isWritable b && isWritable c && isWritable d && isWritable e
  | version _ parts => parts.all fun p => p.2.whole?.all Text.isWritable
  | _ => true

/-- Can those of several values be written? -/
def areWritable : List Value → Bool
  | [] => true
  | v :: vs => isWritable v && areWritable vs
end

/-- The text of a value inside a sentence, if its numbers can be written. -/
def inSentence (name : Nat → String) (v : Value) : Option String :=
  if v.isWritable then some (v.spoken name) else none

/-- The printed form of a value, if its numbers can be written. -/
def shown? (name : Nat → String) (v : Value) : Option String :=
  if v.isWritable then some (v.shown name) else none

end Value
end GpuHandles
