/-!
Paths in their normal form.

A path is what stands in front of its first name (nothing, one slash, or exactly
two) and the names after it.  Empty names and single dots vanish; two dots stay,
because what they mean depends on the file system.
-/

namespace GpuHandles

/-- A path in normal form. -/
structure Path where
  /-- slashes in front: none, one or two -/
  slashes : Nat
  names : List String
  deriving Repr, DecidableEq

namespace Path

/-- Characters split at slashes, empty pieces included. -/
def pieces : List Char → List (List Char)
  | [] => [[]]
  | '/' :: cs => [] :: pieces cs
  | c :: cs =>
    match pieces cs with
    | [] => [[c]]
    | p :: ps => (c :: p) :: ps

/-- Does a piece name anything? -/
def isName (p : List Char) : Bool := p != [] && p != ['.']

/-- The slashes in front of a path: two are kept, more count as one. -/
def leading (cs : List Char) : Nat :=
  match (cs.takeWhile (· == '/')).length with
  | 0 => 0
  | 2 => 2
  | _ => 1

/-- The path that a text writes. -/
def ofText (s : String) : Path where
  slashes := leading s.toList
  names := ((pieces s.toList).filter isName).map String.ofList

/-- The text of a path; the empty relative path is a dot. -/
def text (p : Path) : String :=
  if p.slashes = 0 && p.names.isEmpty then "."
  else String.ofList (List.replicate p.slashes '/') ++ "/".intercalate p.names

/-- A path one name further down. -/
def child (p : Path) (name : String) : Path := { p with names := p.names ++ [name] }

/-- The normal form of a text. -/
def normalized (s : String) : String := (ofText s).text

end Path
end GpuHandles
