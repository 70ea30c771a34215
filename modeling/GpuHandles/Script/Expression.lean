import GpuHandles.HostArray.Plan
import GpuHandles.HostArray.Scalar
import GpuHandles.Machine.Table
import GpuHandles.PoolProps
import GpuHandles.Signature
/-!
Arguments as a script writes them.

An expression is evaluated when its step runs: a name stands for what is bound to
it then, a number is read from its text, a description of a pool is built up change
by change, and an array from its bytes.
-/

namespace GpuHandles.Script

/-- What the names of a script stand for, in the order in which they were first bound. -/
abbrev Bindings := Table String Value

/-- An argument as it is written. -/
inductive Expression where
  | value (v : Value)
  /-- a floating number, mostly by its text -/
  | float (content : Expression)
  /-- an element of a named type, made of a value -/
  | element (typeName : String) (content : Expression)
  | bound (name : String)
  | list (items : List Expression)
  | device (id : Expression)
  | member (enumeration name : String)
  /-- a pool description: fields by name, then changes by name with their arguments -/
  | props (fields : List (String × Expression)) (changes : List (String × List Expression))
  | array (plan : HostArray.Plan)
  deriving Inhabited

/-- The value that a name stands for. -/
def lookup (names : Bindings) (name : String) : Except Fault Value :=
  match names.get? name with
  | some v => .ok v
  | none => .error (.noKey name)

/-- The member of an enumeration, by two names. -/
def memberOf (enumeration name : String) : Except Fault Value :=
  match Enumeration.ofName? enumeration with
  | none => .error (.noKey enumeration)
  | some e =>
    match e.named? name with
    | some m => .ok (.member e m)
    | none => .error (.noKey name)

/-! ## Pool descriptions -/

/-- The fields of a pool description as parameters. -/
def propsSignature : Signature :=
  .bound "MemPoolProps.__init__"
    [.optional "alloc_type" PoolProps.standard.allocationType,
      .optional "handle_types" PoolProps.standard.handleTypes,
      .optional "location_type" PoolProps.standard.locationType,
      .optional "location_id" PoolProps.standard.locationId,
      .optional "max_size" PoolProps.standard.maxSize]

/-- A description from fields by name. -/
def describe (fields : List (String × Value)) : Except Fault PoolProps := do
  match ← propsSignature.bind [] fields with
  | [a, b, c, d, e] => return ⟨a, b, c, d, e⟩
  | _ => return .standard

/-- The field of a description with a name. -/
def fieldOf? (p : PoolProps) : String → Option Value
  | "alloc_type" => some p.allocationType
  | "handle_types" => some p.handleTypes
  | "location_type" => some p.locationType
  | "location_id" => some p.locationId
  | "max_size" => some p.maxSize
  | _ => none

/-- What the change with a name asks for. -/
def changeParameters? : String → Option (List Parameter)
  | "with_alloc_type" => some [.required "alloc_type"]
  | "with_handle_types" => some [.required "handle_types"]
  | "with_location" => some [.required "location_type", .required "location_id"]
  | "with_max_size" => some [.required "max_size"]
  | _ => none

/-- The change with a name and its arguments. -/
def changeOf : String → List Value → PoolProps.Change
  | "with_alloc_type", [v] => .allocationType v
  | "with_handle_types", [v] => .handleTypes v
  | "with_location", [type, id] => .location type id
  | _, vs => .maxSize (vs.headD .null)

/-- What the change with a name asks for; a name that is none is a fault. -/
def changeSignature (p : PoolProps) (name : String) : Except Fault Signature :=
  match changeParameters? name, fieldOf? p name with
  | some ps, _ => .ok (.bound ("MemPoolProps." ++ name) ps)
  | none, some v => .error (.notCallable v.qualifiedType)
  | none, none => p.toValue.missing name

/-- A description after the change with a name. -/
def change (p : PoolProps) (s : Signature) (name : String) (positions : List Value)
    (named : List (String × Value)) : Except Fault PoolProps := do
  p.apply (changeOf name (← s.bind positions named))

namespace Expression

mutual
/-- The value of an expression. -/
def evaluate (names : Bindings) : Expression → Except Fault Value
  | value v => .ok v
  | float content => do return .float (← (← evaluate names content).toReal)
  | element typeName content => do
    let (type, cls) ← ElementType.ofElementName typeName
    type.element cls (← evaluate names content)
  | bound n => lookup names n
  | list items => do return .list (← evaluateAll names items)
  | device id => do return .device (← evaluate names id)
  | member enumeration name => memberOf enumeration name
  | props fields changes => do
    let p ← describe (← evaluateFields names fields)
    return (← evaluateChanges names p changes).toValue
  | array plan => do return .array (← plan.build)

/-- The values of several expressions. -/
def evaluateAll (names : Bindings) : List Expression → Except Fault (List Value)
  | [] => .ok []
  | e :: es => do return (← evaluate names e) :: (← evaluateAll names es)

/-- The values of expressions with names. -/
def evaluateFields (names : Bindings) : List (String × Expression) →
    Except Fault (List (String × Value))
  | [] => .ok []
  | (n, e) :: rest => do return (n, ← evaluate names e) :: (← evaluateFields names rest)

/-- A description after changes by name, one after the other. -/
def evaluateChanges (names : Bindings) (p : PoolProps) :
    List (String × List Expression) → Except Fault PoolProps
  | [] => .ok p
  | (n, es) :: rest => do
    let s ← changeSignature p n
    evaluateChanges names (← change p s n (← evaluateAll names es) []) rest
end

end Expression
end GpuHandles.Script
