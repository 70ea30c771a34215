import GpuHandles.HostArray.ElementType
/-!
What is asked for where elements are named.

A text names a type of elements, or blocks of elements along axes of their own.  Beyond
the plain types it can name times, which count some unit, numbers of sixteen bytes, and
structures, whose fields stand one after another between commas.  `ElementBlock.ofText?`
reads all of them.
-/

namespace GpuHandles

/-- The lengths of axes in brackets. -/
def HostArray.shapeText (ns : List Nat) : String :=
  match ns with
  | [n] => "(" ++ toString n ++ ",)"
  | _ => "(" ++ ", ".intercalate (ns.map toString) ++ ")"

namespace ElementType

/-- The mark of byte order in front of a code. -/
def mark (swapped : Bool) : String := if swapped then ">" else "<"

/-- A type as it is written for a field. -/
def field : ElementType → String
  | bool => "|b1"
  | whole signed w swapped =>
    lettered ((if w ≤ 1 then "|" else mark swapped) ++ if signed then "i" else "u") w
  | real f swapped => lettered (mark swapped ++ "f") f.width
  | complex f swapped => lettered (mark swapped ++ "c") (2 * f.width)
  | byteString n => lettered "|S" n
  | raw n => lettered "|V" n
  | text n swapped => lettered (mark swapped ++ "U") n
  | object => "|O"
  | other _ field .. => field

/-! ## Times and long numbers -/

/-- The units of times. -/
def timeUnits : List String :=
  ["Y", "M", "W", "D", "h", "m", "s", "ms", "us", "ns", "ps", "fs", "as"]

/-- The unit in brackets behind the name of a time, with a count in front of it unless it is
one; no unit stands for any. -/
def timeUnit? (cs : List Char) : Option String :=
  match cs, cs.getLast? with
  | [], _ => some ""
  | '[' :: inner, some ']' => do
    let n ← length? (inner.takeWhile Char.isDigit)
    let unit := String.ofList ((inner.dropWhile Char.isDigit).dropLast)
    let n := if inner.head?.any Char.isDigit then n else 1
    guard (timeUnits.contains unit && 0 < n)
    return "[" ++ (if n = 1 then "" else toString n) ++ unit ++ "]"
  | _, _ => none

/-- The names of times in front of the unit: as they are asked for, and the name and the code
that they are written with. -/
def timeRoots : List (String × String × String) :=
  [("M8", "datetime64", "M8"), ("m8", "timedelta64", "m8"), ("datetime64", "datetime64", "M8"),
    ("timedelta64", "timedelta64", "m8")]

/-- A type written by a name, or by a mark of byte order and a code. -/
def marked (swapped : Bool) (name code : String) (size : Nat) : ElementType :=
  other (if swapped then mark swapped ++ code else name) (mark swapped ++ code) size []

/-- The time that a text without a mark of byte order names. -/
def ofTime? (swapped : Bool) (cs : List Char) : Option ElementType :=
  timeRoots.findSome? fun (root, name, code) =>
    if root.toList.isPrefixOf cs then
      (timeUnit? (cs.drop root.length)).map fun unit =>
        marked swapped (name ++ unit) (code ++ unit) 8
    else none

/-- The numbers of sixteen bytes, and pairs of them, by the codes that may have a mark of byte
order in front. -/
def longCodes : List (String × String × String × Nat) :=
  [("g", "float128", "f16", 16), ("f16", "float128", "f16", 16), ("G", "complex256", "c32", 32),
    ("c32", "complex256", "c32", 32)]

/-- The same by the names that may not. -/
def longNames : List (String × String) :=
  [("longdouble", "g"), ("float128", "g"), ("clongdouble", "G"), ("complex256", "G")]

/-- The long number that a text names. -/
def ofLong? (swapped : Bool) (cs : List Char) : Option ElementType :=
  (longCodes.lookup (String.ofList cs)).map fun (name, code, size) => marked swapped name code size

/-- The mark of byte order that a text begins with, and the rest of the text. -/
def splitMark : List Char → Option Char × List Char
  | '>' :: cs => (some '>', cs)
  | '<' :: cs => (some '<', cs)
  | '=' :: cs => (some '=', cs)
  | '|' :: cs => (some '|', cs)
  | cs => (none, cs)

/-- The type that a text names, plain or not. -/
def ofAnyText? (s : String) : Option ElementType :=
  let (order, cs) := splitMark ((longNames.lookup s).getD s).toList
  let swapped := order == some '>'
  (ofText? s).or ((ofTime? swapped cs).or (ofLong? swapped cs))

end ElementType

/-- Elements as they are asked for: single ones, or blocks of them along some axes. -/
structure ElementBlock where
  item : ElementType
  axes : List Nat
  deriving Repr, DecidableEq

namespace ElementBlock

instance : Coe ElementType ElementBlock := ⟨fun t => ⟨t, []⟩⟩

/-- The bytes of one block. -/
def size (b : ElementBlock) : Nat := b.axes.foldl (· * ·) b.item.size

/-- The canonical name. -/
def name (b : ElementBlock) : String :=
  if b.axes.isEmpty then b.item.name
  else "('" ++ b.item.field ++ "', " ++ HostArray.shapeText b.axes ++ ")"

/-! ## Written names -/

/-- A text without the blanks around it. -/
def trimmed (cs : List Char) : List Char :=
  ((cs.dropWhile (· == ' ')).reverse.dropWhile (· == ' ')).reverse

/-- The parts of a text between the commas that stand in no brackets. -/
def pieces (depth : Nat) (current : List Char) : List Char → List (List Char)
  | [] => [trimmed current.reverse]
  | c :: cs =>
    if c = ',' ∧ depth = 0 then trimmed current.reverse :: pieces 0 [] cs
    else if c = '(' ∨ c = '[' then pieces (depth + 1) (c :: current) cs
    else if c = ')' ∨ c = ']' then pieces (depth - 1) (c :: current) cs
    else pieces depth (c :: current) cs

/-- A length in digits. -/
def axis? (cs : List Char) : Option Nat := if cs.isEmpty then none else ElementType.length? cs

/-- The axes that a text begins with, in digits or in brackets, and the rest of the text.  One
block alone is no block. -/
def splitAxes (cs : List Char) : Option (List Nat × List Char) :=
  let alone (n : Nat) : List Nat := if n = 1 then [] else [n]
  match cs with
  | '(' :: inner =>
    let after := inner.dropWhile (· != ')')
    match pieces 0 [] (inner.takeWhile (· != ')')) with
    | [[]] => some ([], after.drop 1)
    | [one] => (axis? one).map fun n => (alone n, after.drop 1)
    | several => do
      let several := if several.getLast? = some [] then several.dropLast else several
      return (← several.mapM axis?, after.drop 1)
  | cs =>
    match axis? (cs.takeWhile Char.isDigit) with
    | some n => some (alone n, cs.dropWhile Char.isDigit)
    | none => some ([], cs)

/-- The elements or the blocks that a part of a text names: axes between two marks of byte order
that agree, and a type.  Blocks have elements of some size. -/
def ofPiece? (cs : List Char) : Option ElementBlock := do
  let (first, cs) := ElementType.splitMark cs
  let (axes, cs) ← splitAxes (trimmed cs)
  let (second, cs) := ElementType.splitMark (trimmed cs)
  guard (first.isNone || second.isNone || first == second)
  let order := (first.or second).filter (· == '>')
  let item ← ElementType.ofAnyText? (String.ofList (order.toList ++ cs))
  let block : ElementBlock := ⟨item, axes⟩
  guard ((axes.isEmpty || item.size != 0) && block.size ≤ ElementType.sizeLimit)
  return block

/-- A field of a structure as it is written, by its number. -/
def fieldText (n : Nat) (b : ElementBlock) : String :=
  "('f" ++ toString n ++ "', '" ++ b.item.field ++ "'" ++
    (if b.axes.isEmpty then "" else ", " ++ HostArray.shapeText b.axes) ++ ")"

/-- The structure of some fields, one right behind the other. -/
def structured (fields : List ElementBlock) : ElementType :=
  let text := "[" ++ ", ".intercalate (fields.mapIdx fieldText) ++ "]"
  .other text text ((fields.map size).foldl (· + ·) 0) []

/-- Does a text name blocks, or fields between commas? -/
def isComposed (cs : List Char) : Bool :=
  let (_, inner) := ElementType.splitMark cs
  inner.head?.any Char.isDigit || "()".toList.isPrefixOf inner || cs.contains ','

/-- The elements or the blocks that a text names. -/
def ofText? (s : String) : Option ElementBlock :=
  if isComposed s.toList then
    match pieces 0 [] s.toList with
    | [one] => ofPiece? one
    | several => do
      let several := if several.getLast? = some [] then several.dropLast else several
      let t := structured (← several.mapM ofPiece?)
      guard (t.size ≤ ElementType.sizeLimit)
      return t
  else (ElementType.ofAnyText? s).map fun t => ⟨t, []⟩

end ElementBlock
end GpuHandles
