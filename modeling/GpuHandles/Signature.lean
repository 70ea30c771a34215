import GpuHandles.Fault
/-!
Calls by name.

A callable has named parameters, some with a value that stands in when none is
given.  `bind` matches arguments with parameters, by position and by name, or says
what is wrong with the call: first a name that does not fit, then too many
positions, then what is missing.
-/

namespace GpuHandles

/-- A parameter of a callable. -/
structure Parameter where
  name : String
  fallback : Option Value

namespace Parameter

/-- A parameter that must be given. -/
def required (name : String) : Parameter := ⟨name, none⟩

/-- A parameter with a value that stands in for it. -/
def optional (name : String) (fallback : Value) : Parameter := ⟨name, some fallback⟩

end Parameter

/-- A callable with its parameters, the receiver left out. -/
structure Signature where
  name : String
  /-- positions that a call fills by itself: one for a receiver -/
  filled : Nat
  parameters : List Parameter

namespace Signature

/-- A callable that stands by itself. -/
def free (name : String) (parameters : List Parameter) : Signature := ⟨name, 0, parameters⟩

/-- A callable that belongs to a receiver. -/
def bound (name : String) (parameters : List Parameter) : Signature := ⟨name, 1, parameters⟩

/-- A fault of a call. -/
def fault (s : Signature) (words : String) : Fault := .badCall (s.name ++ "() " ++ words)

/-- How many positions a callable takes, its receiver included, in words. -/
def takes (s : Signature) : String :=
  let most := s.parameters.length + s.filled
  let least := (s.parameters.filter fun p => p.fallback.isNone).length + s.filled
  if least = most then
    toString most ++ " positional argument" ++ (if most = 1 then "" else "s")
  else "from " ++ toString least ++ " to " ++ toString most ++ " positional arguments"

/-- How many positions a call gave, in words. -/
def gave (s : Signature) (positions : Nat) : String :=
  let n := positions + s.filled
  toString n ++ (if n = 1 then " was given" else " were given")

/-- Names in a row, the last two joined by a word. -/
def enumerated : List String → String
  | [] => ""
  | [a] => a
  | [a, b] => a ++ " and " ++ b
  | names => ", ".intercalate (names.dropLast ++ ["and " ++ names.getLast?.getD ""])

/-- The first name that fits no parameter, or one that a position has filled. -/
def badName (s : Signature) (given : Nat) : List (String × Value) → Option Fault
  | [] => none
  | (n, _) :: rest =>
    match s.parameters.findIdx? fun p => p.name == n with
    | none => some (s.fault ("got an unexpected keyword argument " ++ Fault.named n))
    | some i =>
      if i < given then some (s.fault ("got multiple values for argument " ++ Fault.named n))
      else badName s given rest

/-- The value of each parameter: its position's, its name's, or the one that stands in. -/
def values (parameters : List Parameter) (positions : List Value) (named : List (String × Value)) :
    List (Parameter × Option Value) :=
  match parameters, positions with
  | [], _ => []
  | p :: ps, v :: vs => (p, some v) :: values ps vs named
  | p :: ps, [] =>
    (p, ((named.find? fun e => e.1 == p.name).map Prod.snd).or p.fallback) :: values ps [] named

/-- The value of every parameter, in order. -/
def bind (s : Signature) (positions : List Value) (named : List (String × Value)) :
    Except Fault (List Value) :=
  match s.badName positions.length named with
  | some f => .error f
  | none =>
    if s.parameters.length < positions.length then
      .error (s.fault ("takes " ++ s.takes ++ " but " ++ s.gave positions.length))
    else
      let all := values s.parameters positions named
      let absent := (all.filter fun e => e.2.isNone).map fun e => Fault.named e.1.name
      if absent.isEmpty then .ok (all.filterMap Prod.snd)
      else
        .error (s.fault ("missing " ++ toString absent.length ++ " required positional argument" ++
          (if absent.length = 1 then "" else "s") ++ ": " ++ enumerated absent))

end Signature
end GpuHandles
