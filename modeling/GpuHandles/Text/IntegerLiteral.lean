import GpuHandles.Text.Blank
import GpuHandles.Text.Digit
/-!
Whole numbers written as text.

A literal is blanks, a sign or none, decimal digits of any script with single
underscores between them, and blanks.  Numbers of very many digits are neither read
nor written.
-/

namespace GpuHandles.Text

/-- The digits at the front of a literal's body, with single underscores between them, and
what follows; none if an underscore stands anywhere else among them. -/
def spanLiteral : List Char → Option (List Nat × List Char)
  | [] => some ([], [])
  | '_' :: _ => none
  | c :: '_' :: cs =>
    match digitValue? c with
    | none => some ([], c :: '_' :: cs)
    | some d =>
      match spanLiteral cs with
      | some (e :: ds, after) => some (d :: e :: ds, after)
      | _ => none
  | c :: cs =>
    match digitValue? c with
    | none => some ([], c :: cs)
    | some d => (spanLiteral cs).map fun p => (d :: p.1, p.2)

/-- The number that decimal digits spell. -/
def ofDigits (ds : List Nat) : Nat := ds.foldl (fun n d => 10 * n + d) 0

/-- A literal's sign and its body. -/
def signedBody : List Char → Bool × List Char
  | '-' :: cs => (true, cs)
  | '+' :: cs => (false, cs)
  | cs => (false, cs)

/-- What a text reads as. -/
inductive Literal where
  | number (n : Int)
  /-- more digits at the front than are read -/
  | tooLong (digits : Nat)
  | malformed
  deriving Repr, DecidableEq

/-- The most digits that are read or written. -/
def literalLimit : Nat := 4300

/-- The number that a text spells.  Too many digits are refused before what follows them
is looked at. -/
def readLiteral (s : String) : Literal :=
  let (negative, body) := signedBody (trimBlanks s.toList)
  match spanLiteral body with
  | none | some ([], _) => .malformed
  | some (ds, after) =>
    if literalLimit < ds.length then .tooLong ds.length
    else if !after.isEmpty then .malformed
    else .number (if negative then -(ofDigits ds : Int) else ofDigits ds)

/-- Has a number few enough digits to be written? -/
def isWritable (n : Int) : Bool := n.natAbs.repr.length ≤ literalLimit

/-- A number in decimal digits, if it has few enough of them. -/
def written? (n : Int) : Option String := if isWritable n then some (toString n) else none

end GpuHandles.Text
