import GpuHandles.HostArray.Basic
import GpuHandles.Text.Quoted
/-!
The printed form of an array.

Elements are written in columns of one width, rows between brackets, and a row that
is too long goes on in the next line.  Of an array with many elements only the first
and last three along each axis are written.  Floating elements share one notation:
with a point, or with an exponent where their sizes lie far apart.  The second parts of
complex elements have a notation of their own, in which the sign is always written.
-/

namespace GpuHandles.HostArray

/-- An array with more elements is abridged. -/
def printLimit : Nat := 1000

/-- The longest line. -/
def lineLimit : Nat := 75

/-- The most digits behind a point. -/
def printPlaces : Int := 8

/-- The indices that are written along an axis; none marks those left out. -/
def shownIndices (brief : Bool) (n : Nat) : List (Option Nat) :=
  if brief && 6 < n then
    [some 0, some 1, some 2, none, some (n - 3), some (n - 2), some (n - 1)]
  else (List.range n).map some

/-- The numbers of the elements that are written, in C order. -/
def shownNumbers (brief : Bool) : List Nat → Nat → List Nat
  | [], start => [start]
  | n :: ns, start =>
    (shownIndices brief n).flatMap fun i =>
      match i with
      | some k => shownNumbers brief ns (start + k * ns.foldl (· * ·) 1)
      | none => []

/-- A text filled with blanks at the front. -/
def padFront (width : Nat) (s : String) : String :=
  String.ofList (List.replicate (width - s.length) ' ') ++ s

/-- A text filled with blanks at the back. -/
def padBack (width : Nat) (s : String) : String :=
  s ++ String.ofList (List.replicate (width - s.length) ' ')

/-- The longest of some texts. -/
def longest (ss : List String) : Nat := ss.foldl (fun w s => max w s.length) 0

/-- Blanks at the end of a text taken away. -/
def dropBack (s : String) : String :=
  String.ofList ((s.toList.reverse.dropWhile (· == ' ')).reverse)

/-! ## Rows -/

/-- Words of a row broken into lines: the finished lines and the line in progress. -/
def breakRow (separator indent : String) (width : Nat) : List String → String × String → String
  | [], (done, line) => done ++ line
  | word :: rest, (done, line) =>
    let full := width ≤ line.length + word.length && indent.length < line.length
    let done := if full then done ++ dropBack line ++ "\n" else done
    let line := (if full then indent else line) ++ word
    breakRow separator indent width rest
      (done, if rest.isEmpty then line else line ++ separator)

/-- The elements below an axis between brackets. -/
def layRows (brief : Bool) (separator : String) (word : Nat → String) :
    List Nat → Nat → String → Nat → String
  | [], start, _, _ => word start
  | n :: ns, start, indent, width =>
    let items := (shownIndices brief n).map fun i =>
      match i with
      | some k =>
        layRows brief separator word ns (start + k * ns.foldl (· * ·) 1) (indent ++ " ") (width - 1)
      | none => "..."
    let body :=
      if ns.isEmpty then breakRow separator indent width items ("", indent)
      else
        (dropBack separator ++ String.ofList (List.replicate ns.length '\n')).intercalate
          (items.map (indent ++ ·))
    "[" ++ String.ofList (body.toList.drop indent.length) ++ "]"

/-! ## Floating elements -/

/-- The fewest digits of a value, or its digits to a place if that is fewer: `d · 10 ^ t`. -/
def cutDigits (f : Format) (m : Nat) (e place : Int) : Nat × Int :=
  if m = 0 then (0, 0)
  else
    let (d, t) := Binary.digits f m e
    if place ≤ t then (d, t)
    else
      Binary.stripZeros 20 (Binary.nearer m e (Binary.decimalFloor m e place) place) place

/-- The sign of a value; the sign of one above zero is written only where all are. -/
def signText (always negative : Bool) : String :=
  if negative then "-" else if always then "+" else ""

/-- What stands before and behind the point of a value. -/
def pointParts (f : Format) (always negative : Bool) (m : Nat) (e : Int) : String × String :=
  let (d, t) := cutDigits f m e (-printPlaces)
  let sign := signText always negative
  if 0 ≤ t then (sign ++ toString (d * 10 ^ t.toNat), "")
  else
    let scale := 10 ^ (-t).toNat
    let rest := toString (d % scale)
    (sign ++ toString (d / scale),
      if d % scale = 0 then "" else Binary.zeros ((-t).toNat - rest.length) ++ rest)

/-- First digit, further digits and exponent of a value. -/
def exponentParts (f : Format) (always negative : Bool) (m : Nat) (e : Int) :
    String × String × Int :=
  let sign := signText always negative
  if m = 0 then (sign ++ "0", "", 0)
  else
    let (d, t) := cutDigits f m e (Binary.decimalScale m e - 1 - printPlaces)
    let ds := (toString d).toList
    (sign ++ String.ofList (ds.take 1), String.ofList (ds.drop 1), ds.length - 1 + t)

/-- Are values so large, so small, or so far apart that they are written with exponents? -/
def needsExponent (sizes : List Binary) : Bool :=
  let below (a b : Binary) : Bool := a.order b == some .lt
  let factor : Binary → Binary
    | .finite _ m e => .finite false (1000 * m) e
    | x => x
  sizes.any fun x =>
    !below x (.exact 100000000) ||
      (match x with
      | .finite _ m e => below (.finite false (10000 * m) e) (.exact 1)
      | _ => false) ||
      sizes.any fun y => below (factor y) x

/-- The text of a value without digits. -/
def wordText (f : Format) (always : Bool) (x : Binary) : String :=
  let text := x.text f
  if always && !text.startsWith "-" then "+" ++ text else text

/-- The width of values without digits: where all signs are written, that of an infinity with
its sign. -/
def wordWidth (f : Format) (always : Bool) (xs : List Binary) : Nat :=
  let words := xs.filter fun x =>
    match x with
    | .finite .. => false
    | _ => true
  if always && !words.isEmpty then 4 else longest (words.map (wordText f always))

/-- How the floating elements of an array are written; `always` asks for all signs. -/
def realWriter (f : Format) (always : Bool) (xs : List Binary) : Binary → String :=
  let finite := xs.filterMap fun x =>
    match x with
    | .finite s m e => some (s, m, e)
    | _ => none
  let word (pad : Nat) (x : Binary) : String := padFront pad (wordText f always x)
  let wide := wordWidth f always xs
  let sizes := (finite.filter fun p => p.2.1 ≠ 0).map fun p => Binary.finite false p.2.1 p.2.2
  if needsExponent sizes then
    let parts := finite.map fun p => exponentParts f always p.1 p.2.1 p.2.2
    let places := longest (parts.map fun p => p.2.1)
    let exponents := longest (parts.map fun p => Binary.exponentText p.2.2) - 2
    let front := max (longest (parts.map Prod.fst)) (wide - (exponents + 2 + places + 1))
    fun x =>
      match x with
      | .finite s m e =>
        let (first, rest, exponent) := exponentParts f always s m e
        let text := (Binary.exponentText exponent).toList
        let digits := String.ofList (text.drop 2)
        padFront front first ++ "." ++ rest ++ Binary.zeros (places - rest.length) ++
          String.ofList (text.take 2) ++ Binary.zeros (exponents - digits.length) ++ digits
      | x => word (front + exponents + 2 + places + 1) x
  else
    let parts := finite.map fun p => pointParts f always p.1 p.2.1 p.2.2
    let places := longest (parts.map Prod.snd)
    let front := max (longest (parts.map Prod.fst)) (wide - (places + 1))
    fun x =>
      match x with
      | .finite s m e =>
        let (whole, fraction) := pointParts f always s m e
        padFront front whole ++ "." ++ padBack places fraction
      | x => word (front + places + 1) x

/-- How the complex elements of an array are written: the letter of a second part stands
before the blanks at its end. -/
def complexWriter (f : Format) (xs : List (Binary × Binary)) : Binary × Binary → String :=
  let first := realWriter f false (xs.map Prod.fst)
  let second := realWriter f true (xs.map Prod.snd)
  fun x =>
    let text := second x.2
    let digits := dropBack text
    first x.1 ++ digits ++ "j" ++ padFront (text.length - digits.length) ""

/-! ## Whole arrays -/

/-- The two parts of an element in a format. -/
def partsIn (f : Format) (e : Element) : Binary × Binary := (e.asReal f, e.asImaginary f)

/-- An element of text or of bytes between quotes. -/
def quotedElement (type : ElementType) : Element → String
  | .text codes => Text.quotedCodes codes
  | .bytes bs => if type matches .raw _ then Text.escapedBytes bs else Text.quotedBytes bs
  | e => e.shown type

/-- The words for some elements of an array. -/
def elementWords (type : ElementType) (es : List Element) : Element → String :=
  match type with
  | .real f _ => fun e => realWriter f false (es.map (Element.asReal f)) (e.asReal f)
  | .complex f _ => fun e => complexWriter f (es.map (partsIn f)) (partsIn f e)
  | .text .. | .byteString _ | .raw _ => quotedElement type
  | .bool => fun e => padFront 5 (e.shown type)
  | _ =>
    let width := longest (es.map (Element.shown type))
    fun e => padFront width (e.shown type)

/-- The word for the only element of an array without axes. -/
def aloneWord (type : ElementType) (e : Element) : String :=
  match type with
  | .bool => e.shown type
  | _ => elementWords type [e] e

/-- An array with a separator between its elements, behind an opening of some length. -/
def laidOut (a : HostArray) (separator : String) (indent width : Nat) : String :=
  if a.shape.isEmpty then ((a.elements.head?).map (aloneWord a.type)).getD ""
  else if a.count = 0 then "[]"
  else
    let brief := decide (printLimit < a.count)
    let all := a.elements.toArray
    let seen := (shownNumbers brief a.shape 0).filterMap fun i => all[i]?
    let write := elementWords a.type seen
    layRows brief separator (fun i => ((all[i]?).map write).getD "") a.shape 0
      (padFront (indent + 1) "") width

/-- The element type as it stands in a printed form. -/
def typeText (t : ElementType) : String :=
  if t.name.toList.all Char.isAlphanum then t.name else Text.quoted t.name

/-- Does an array's text show its element type by itself? -/
def showsType (t : ElementType) : Bool :=
  [ElementType.bool, .int64, .float64, .complex128].contains t

/-- The only element of an array without axes inside a sentence. -/
def spokenElement (type : ElementType) (e : Element) : String :=
  match e with
  | .bytes _ => quotedElement type e
  | e => e.shown type

/-- The only element of an array without axes as it prints by itself. -/
def plainElement (type : ElementType) (e : Element) : String :=
  if type matches .byteString _ then "np.bytes_(" ++ spokenElement type e ++ ")"
  else spokenElement type e

/-- The elements alone. -/
def plain (a : HostArray) : String :=
  match a.shape, a.elements with
  | [], [e] => plainElement a.type e
  | _, _ => a.laidOut " " 0 lineLimit

/-- The printed form that names the kind of value: elements, then the shape of an abridged
or empty array, then an element type that the elements do not show. -/
def shown (a : HostArray) : String :=
  let opening := "array("
  let text := opening ++ a.laidOut ", " opening.length (lineLimit - 1)
  let shape := if printLimit < a.count || (a.count = 0 && a.shape != [0])
    then ["shape=" ++ shapeText a.shape] else []
  let type := if a.count = 0 || !showsType a.type then ["dtype=" ++ typeText a.type] else []
  let extras := ", ".intercalate (shape ++ type) ++ ")"
  if (shape ++ type).isEmpty then text ++ ")"
  else
    let lastLine := (text.toList.reverse.takeWhile (· != '\n')).length + 1
    let gap := if lineLimit < lastLine + extras.length + 1
      then "\n" ++ padFront opening.length "" else " "
    text ++ "," ++ gap ++ extras

end GpuHandles.HostArray
