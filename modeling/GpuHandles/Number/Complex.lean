import GpuHandles.Number.Reading
import GpuHandles.Number.Shortest
/-!
Texts of complex values.

A value of two parts is written as one part, or as two with a sign between them; the
second part has the letter `j` behind it.  `ofComplexText?` reads these forms with
brackets or without, and `complexText` writes the shortest one, which leaves out a first
part that is zero.
-/

namespace GpuHandles.Binary

/-! ## Reading -/

/-- The letter behind a second part, and what follows it. -/
def takeUnit : List Char → Option (List Char)
  | 'j' :: cs | 'J' :: cs => some cs
  | _ => none

/-- One or minus one: the second part that a sign alone stands for. -/
def signUnit (negative : Bool) : Binary := .finite negative 1 0

/-- The two parts at the front of a text, and what follows them. -/
def takeParts (cs : List Char) : Option ((Binary × Binary) × List Char) :=
  let zero : Binary := .exact 0
  match takeReal cs with
  | some (x, rest) =>
    match rest with
    | '+' :: more | '-' :: more =>
      let (y, after) := (takeReal rest).getD (signUnit (rest.head? == some '-'), more)
      (takeUnit after).map fun end_ => ((x, y), end_)
    | _ =>
      match takeUnit rest with
      | some end_ => some ((zero, x), end_)
      | none => some ((x, zero), rest)
  | none =>
    let (negative, rest) := takeSign cs
    (takeUnit rest).map fun end_ => ((zero, signUnit negative), end_)

/-- What stands between the brackets at the front of a text, and how much of the text has to
follow; a text without brackets stands for itself. -/
def unbracket (cs : List Char) : Option (List Char) :=
  let trimmed := Text.trimBlanks cs
  match trimmed with
  | '(' :: rest =>
    match rest.reverse with
    | ')' :: inner => some (Text.trimBlanks inner.reverse)
    | _ => none
  | _ => some trimmed

/-- What a text reads as. -/
inductive ComplexLiteral where
  | parts (re im : Binary)
  /-- underscores that stand elsewhere than between two digits -/
  | badUnderscores
  | malformed
  deriving Repr, DecidableEq

/-- A text without its underscores.  Where a zero character stands behind one of them they cannot
be taken out; in front of all of them, it spoils the text anyway. -/
def withoutUnderscores (cs : List Char) : Option (List Char) :=
  let front := cs.takeWhile (· != '\x00')
  if !front.contains '_' then some cs
  else if front.length < cs.length then none
  else dropUnderscores false cs

/-- The two parts that a text spells. -/
def readComplex (s : String) : ComplexLiteral :=
  match withoutUnderscores (plainText s.toList) with
  | none => .badUnderscores
  | some cs =>
    match (unbracket cs).bind takeParts with
    | some ((re, im), []) => .parts re im
    | _ => .malformed

/-! ## Writing -/

/-- A number without the zero behind its point. -/
def trimmedText (f : Format) (x : Binary) : String :=
  let cs := ((x.convert f).text f).toList
  String.ofList (if cs.drop (cs.length - 2) == ['.', '0'] then cs.take (cs.length - 2) else cs)

/-- A value of two parts; a first part that is zero is left out. -/
def complexText (f : Format) (re im : Binary) : String :=
  let second := trimmedText f im
  let isZero := match re with
    | .finite negative m _ => m == 0 && !negative
    | _ => false
  if isZero then second ++ "j"
  else
    "(" ++ trimmedText f re ++ (if second.startsWith "-" then second else "+" ++ second) ++ "j)"

end GpuHandles.Binary
