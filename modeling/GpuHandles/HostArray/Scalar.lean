import GpuHandles.Comparison
import GpuHandles.HostArray.OfValue
/-!
Elements of a named type.

A script makes an element out of a value, or an array of elements out of a list.  A whole
number has to lie in the range of its type, a floating one loses its fraction first and
then keeps its low bits, and a text is read as the number that it spells.  What is an
element already is cast, and a cast never fails.
-/

namespace GpuHandles.ElementType

/-- Names of types that are not names of elements. -/
def abstractNames : List String :=
  ["int", "float", "complex", "bytes", "bytes_", "str", "unicode", "void"]

/-- The type that an element is made with, by name, and its class. -/
def ofElementName (s : String) : Except Fault (ElementType × ElementClass) :=
  match (if abstractNames.contains s then none else named.lookup s) with
  | some t => .ok (t, if s == "longlong" || s == "ulonglong" then .long else .usual)
  | none => .error (.noElementName s)

/-- Does a whole number fit the eight bytes by way of which it becomes an element? -/
def fitsWord (signed : Bool) (width : Nat) (n : Int) : Bool :=
  -2 ^ 63 ≤ n && n < (if signed || width < 4 then 2 ^ 63 else 2 ^ 64)

/-- A whole number that has to lie in the range of its type. -/
def ranged (cls : ElementClass) (signed : Bool) (width : Nat) (shown : String) (n : Int) :
    Except Fault Int :=
  if !fitsWord signed width n then .error (.outsideWord cls)
  else if wrapped signed width n = n then .ok n
  else .error (.outsideType shown (whole signed width false))

/-- The whole number of an element made of a value. -/
def wholeElement (cls : ElementClass) (signed : Bool) (width : Nat) (v : Value) :
    Except Fault Int := do
  match v.integer?, v with
  | some n, v => ranged cls signed width (v.shown Value.nameless) n
  | none, .text s =>
    let n ← Value.wholeOfText s
    ranged cls signed width (toString n) n
  | none, v =>
    let n ← v.toWhole
    if fitsWord signed width n then return wrapped signed width n
    else .error (.outsideWord cls)

/-- The floating value of an element made of a value. -/
def realElement (f : Format) (v : Value) : Except Fault Binary :=
  match v with
  | .null => .ok ((Binary.undefined false).convert f)
  | v => do return (← v.toReal).recast .double f

/-- The two parts of an element made of a value. -/
def complexElement (f : Format) (v : Value) : Except Fault Number :=
  let parts (re im : Binary) : Number :=
    .complex (re.recast .double f) (im.recast .double f)
  match v with
  | .null => .ok (parts (.undefined false) (.undefined false))
  | .text s =>
    match Binary.readComplex s with
    | .parts re im => .ok (parts re im)
    | .badUnderscores => .error (.badComplex s)
    | .malformed => .error .malformedComplex
  | v =>
    if v.number?.isSome then do return parts (← v.toReal) (.exact 0)
    else .error (.complexKind v.qualifiedType)

/-- The number of an element made of a value. -/
def numberOf (t : ElementType) (cls : ElementClass) (v : Value) : Except Fault Number :=
  match v, t with
  | .scalar s _ n, t => .ok (s.cast t n)
  | v, .bool => do return .truth (← v.countsAsTrue fun _ => .null)
  | v, .whole signed width _ => do return .int (← wholeElement cls signed width v)
  | v, .real f _ => do return .real (← realElement f v)
  | v, .complex f _ => complexElement f v
  | _, t => .error (.noElementName t.name)

/-- The number of an element made of an element of another type. -/
def numberOfElement (t : ElementType) (cls : ElementClass) (source : ElementType) (e : Element) :
    Except Fault Number :=
  match e with
  | .number n => .ok (source.cast t n)
  | e => numberOf t cls (.text (e.shown source))

mutual
/-- The numbers of the elements made of a value, in C order. -/
def numbersOf (t : ElementType) (cls : ElementClass) : Value → Except Fault (List Number)
  | .array a => a.elements.mapM (numberOfElement t cls a.type)
  | .list items | .tuple items => numbersOfAll t cls items
  | .version _ ps => ps.mapM fun p => numberOf t cls (.ofNumber p.2)
  | v => do return [← numberOf t cls v]

/-- The numbers of the elements made of several values, in order. -/
def numbersOfAll (t : ElementType) (cls : ElementClass) :
    List Value → Except Fault (List Number)
  | [] => .ok []
  | v :: vs => do return (← numbersOf t cls v) ++ (← numbersOfAll t cls vs)
end

/-- The elements of a numeric type made of a value: one, or an array in the value's shape. -/
def elements (t : ElementType) (cls : ElementClass) (v : Value) : Except Fault Value := do
  let shape ← (HostArray.Survey.start.visit 0 v).result
  match shape, ← numbersOf t cls v with
  | [], [n] => return .scalar t cls n
  | _, ns => return .array (.ofBytes t shape (ns.flatMap (Element.numberBytes t)))

/-- What is made of a value with a type: its text, an element, or elements.  An array that has
the type already stays as it is. -/
def element (t : ElementType) (cls : ElementClass) (v : Value) : Except Fault Value :=
  match t, v with
  | .text .., v => .ok (.text (v.plain Value.nameless))
  | t, .array a =>
    if a.type = t && !a.shape.isEmpty then .ok (.array a) else elements t cls (.array a)
  | t, v => elements t cls v

end GpuHandles.ElementType
