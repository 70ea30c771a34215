import GpuHandles.Comparison
import GpuHandles.EntryPoint
import GpuHandles.Number.Remainder
/-!
Constants, failures and versions looked up by values of any kind.

A code is looked up as a key, so a float or a truth value finds the number that it
equals; a value that cannot stand as a key is a fault.  A constant is looked up the
same way, but a value that is no key is compared with each of them in turn.  Making
a failure is different: it converts its code, and drops a fraction.
-/

namespace GpuHandles.Lookup

/-- The kind of a code: that of the number that it equals, if there is one. -/
def statusKind (code : Value) : Except Fault Status.Kind :=
  match code.unhashable? with
  | some type => .error (.unhashable type)
  | none =>
    .ok ((Status.Kind.all.find? fun k => code.sameKey (.int k.code)).getD .unknown)

/-- A failure made of a code and words. -/
def failure (code : Value) (words : Option String) : Except Fault Status.Failure := do
  match Status.Failure.ofCode? (← code.toWhole) words with
  | some f => return f
  | none => .error .longNumber

/-- A failure made of the name of a kind and words. -/
def failureOf (kind : String) (words : Option String) : Except Fault Status.Failure :=
  match Status.Kind.ofName? kind with
  | some k => .ok (.ofKind k words)
  | none => .error (.noKey kind)

/-- A value that is handed back if a code is success; the code counts as success if it
equals zero. -/
def checked (code value : Value) : Except Fault Value := do
  if ← code.sameAs (.int 0) then return value
  else .error (.status (← failure code none))

/-- The enumeration with a name. -/
def enumeration (name : String) : Except Fault Enumeration :=
  match Enumeration.ofName? name with
  | some e => .ok e
  | none => .error (.noKey name)

/-- The member of an enumeration with a name. -/
def memberNamed (e : Enumeration) (name : String) : Except Fault Enumeration.Member :=
  match e.named? name with
  | some m => .ok m
  | none => .error (.noKey name)

/-- A constant as a value. -/
def constantValue : Enumeration.Constant → Value
  | .number n => .int n
  | .word s => .text s

/-- The first member whose constant a value equals, for a value that is no key. -/
def memberEqual (v : Value) :
    List Enumeration.Member → Except Fault (Option Enumeration.Member)
  | [] => .ok none
  | m :: ms => do
    if ← (constantValue m.constant).sameAs v then return some m else memberEqual v ms

/-- The member whose constant a value equals, if there is one. -/
def memberListed (e : Enumeration) (v : Value) : Except Fault (Option Enumeration.Member) :=
  match v.unhashable? with
  | some _ => memberEqual v e.members
  | none => .ok (e.members.find? fun m => v.sameKey (constantValue m.constant))

/-- The member of an enumeration with a value.  A member is its own; a flag set takes
every whole number, the others only what they list. -/
def memberValued (e : Enumeration) (v : Value) : Except Fault Enumeration.Member := do
  let own := match v with
    | .member e' m => if e' == e then some m else none
    | _ => none
  match own, ← memberListed e v with
  | some m, _ | none, some m => return m
  | none, none =>
    match v.integer?.bind e.valued? with
    | some m => return m
    | none => .error (.notMember (v.shown? Value.nameless) e)

/-! ## Versions -/

/-- The factor of the first part of a packed version. -/
def majorUnit : Nat := 10000000

/-- The factor of the second part. -/
def minorUnit : Nat := 100000

/-- The parts of a packed version that is a floating number. -/
def realVersion (f : Format) (x : Binary) : Value :=
  let (major, rest) := x.divideWith f majorUnit
  let (minor, patch) := rest.divideWith f minorUnit
  .version "RuntimeVersion" [("major", .real major), ("minor", .real minor), ("patch", .real patch)]

/-- Is a type of whole numbers too narrow for a number? -/
def isTooNarrow (n : Nat) : ElementType → Bool
  | .whole signed w _ => decide ((if signed then 2 ^ (8 * w - 1) else 2 ^ (8 * w)) ≤ n)
  | _ => false

/-- The version that a packed number stands for. -/
def version (v : Value) : Except Fault Value := do
  if ← v.compare .below (.int 0) then return .ofVersion ⟨0, 0, 0⟩
  else
    match v with
    | .scalar type _ n =>
      if isTooNarrow majorUnit type then .error (.outsideType (toString majorUnit) type)
      else
        match n with
        | .real x => return realVersion (type.format?.getD .double) x
        | .complex .. => .error (.noRemainder "divmod()" v.qualifiedType "int")
        | n => return .ofVersion (.ofPacked (n.whole?.getD 0))
    | .float x => return realVersion .double x
    | v => return .ofVersion (.ofPacked (← v.toIndex))

/-- The written types of an entry point. -/
def prototype (symbol : String) : Except Fault (List String) :=
  match EntryPoint.ofName? symbol with
  | some e => .ok e.prototype
  | none => .error (.noKey symbol)

end GpuHandles.Lookup
