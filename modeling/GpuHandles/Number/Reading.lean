import GpuHandles.Number.Binary
import GpuHandles.Text.Blank
import GpuHandles.Text.Digit
/-!
Decimal texts of floating values.

`Binary.ofText?` reads a sign, digits with an optional point, and an optional
exponent, or one of the words `nan`, `inf` and `infinity` in any case, and
rounds to the nearest value of eight bytes.  Digits may be those of any script,
and single underscores may stand between two of them.  `takeReal` reads the
longest such text at the front of another.
-/

namespace GpuHandles
namespace Binary

/-- The digits at the front of a text and what follows them. -/
def spanDigits (cs : List Char) : List Char × List Char :=
  (cs.takeWhile Char.isDigit, cs.dropWhile Char.isDigit)

/-- The number that decimal digits spell. -/
def digitsValue (cs : List Char) : Nat :=
  cs.foldl (fun n c => 10 * n + (c.toNat - 48)) 0

/-- A sign at the front of a text. -/
def takeSign : List Char → Bool × List Char
  | '-' :: cs => (true, cs)
  | '+' :: cs => (false, cs)
  | cs => (false, cs)

/-- An exponent at the front of a text; without digits it is none, and counts as zero. -/
def takeExponent (cs : List Char) : Int × List Char :=
  match cs with
  | [] => (0, [])
  | c :: rest =>
    if c == 'e' || c == 'E' then
      let (negative, rest) := takeSign rest
      let (ds, after) := spanDigits rest
      if ds.isEmpty then (0, cs)
      else (if negative then -(digitsValue ds : Int) else digitsValue ds, after)
    else (0, cs)

/-- `± d · 10 ^ t` rounded to eight bytes.  Exponents far outside the range are
settled without forming the power. -/
def ofDecimal (negative : Bool) (d : Nat) (t : Int) : Binary :=
  let size : Int := (toString d).length
  if d = 0 then .finite negative 0 Format.double.lowest
  else if 400 < size + t then .infinite negative
  else if size + t < -400 then .finite negative 0 Format.double.lowest
  else if 0 ≤ t then round .double negative (d * 10 ^ t.toNat) 1
  else round .double negative d (10 ^ (-t).toNat)

/-- A text with blanks and digits of all scripts as the plain ones.  A character that is
neither of them, nor one of the first 127, ends the text with a question mark. -/
def plainText : List Char → List Char
  | [] => []
  | c :: cs =>
    if c.toNat < 127 then c :: plainText cs
    else if Text.isBlank c then ' ' :: plainText cs
    else
      match Text.digitValue? c with
      | some d => Char.ofNat (48 + d) :: plainText cs
      | none => ['?']

/-- A text without its underscores, if each of them stands between two digits; the flag
says whether a digit stands in front. -/
def dropUnderscores : Bool → List Char → Option (List Char)
  | _, [] => some []
  | _, ['_'] => none
  | before, '_' :: c :: cs =>
    if before && c.isDigit then dropUnderscores false (c :: cs) else none
  | _, c :: cs => (dropUnderscores c.isDigit cs).map (c :: ·)

/-- The word for an infinity, or for a value that is not a number, at the front of a text. -/
def takeWord (negative : Bool) (cs : List Char) : Option (Binary × List Char) :=
  let startsWith (word : String) : Bool :=
    (cs.take word.length).map Char.toLower == word.toList
  if startsWith "infinity" then some (.infinite negative, cs.drop 8)
  else if startsWith "inf" then some (.infinite negative, cs.drop 3)
  else if startsWith "nan" then some (undefined negative, cs.drop 3)
  else none

/-- The longest value at the front of a text, and what follows it. -/
def takeReal (cs : List Char) : Option (Binary × List Char) :=
  let (negative, body) := takeSign cs
  let (whole, rest) := spanDigits body
  let (fraction, after) := match rest with
    | '.' :: more => spanDigits more
    | _ => ([], rest)
  if whole.isEmpty && fraction.isEmpty then takeWord negative body
  else
    let (e, after) := takeExponent after
    some (ofDecimal negative (digitsValue (whole ++ fraction)) (e - fraction.length), after)

/-- The value that a text consists of. -/
def ofPlain? (plain : List Char) : Option Binary :=
  match takeReal plain with
  | some (x, []) => some x
  | _ => none

/-- The value that a text spells. -/
def ofText? (s : String) : Option Binary :=
  (dropUnderscores false (Text.trimBlanks (plainText s.toList))).bind ofPlain?

end Binary
end GpuHandles
