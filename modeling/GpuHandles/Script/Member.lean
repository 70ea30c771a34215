import GpuHandles.Operation
import GpuHandles.Script.Expression
/-!
What a script can ask of an object by name.

An attribute is read first and called afterwards: reading finds a value or something
that can be called, and what is no more than a value cannot be called.  Handles have
methods and properties by their class, devices answer questions, and descriptions of
pools make changed copies.
-/

namespace GpuHandles.Script

/-- Something that a handle can be told to do. -/
inductive Method where
  | release
  | free
  | destroy
  | copyTo
  | copyFromHost
  | copyToHost
  | fill
  | query
  | synchronize
  | allocate
  | trim
  | createStream
  | createPool
  | defaultPool
  deriving Repr, DecidableEq

namespace Method

/-- The methods of a class of handle. -/
def ofName? : HandleClass → String → Option Method
  | _, "release" => some .release
  | .pointer, "free" => some .free
  | .pointer, "copy_to" => some .copyTo
  | .pointer, "copy_from_host" => some .copyFromHost
  | .pointer, "copy_to_host" => some .copyToHost
  | .pointer, "memset" => some .fill
  | .stream, "destroy" => some .destroy
  | .stream, "query" => some .query
  | .stream, "synchronize" => some .synchronize
  | .stream, "create" => some .createStream
  | .pool, "destroy" => some .destroy
  | .pool, "allocate_async" => some .allocate
  | .pool, "trim_to" => some .trim
  | .pool, "create" => some .createPool
  | .pool, "default_for" => some .defaultPool
  | _, _ => none

/-- The kind of a copy within device memory. -/
def deviceToDevice : Value := .member .copyKind ⟨some "DEVICE_TO_DEVICE", .number 3⟩

/-- The parameters of a method. -/
def parameters : Method → List Parameter
  | release | free | destroy | query | synchronize | createStream => []
  | copyTo => [.required "destination", .optional "kind" deviceToDevice]
  | copyFromHost => [.required "array"]
  | copyToHost => [.optional "dtype" (.text "uint8"), .optional "out" .null]
  | fill => [.required "value", .optional "size" .null]
  | allocate => [.required "size", .required "stream"]
  | trim => [.required "min_bytes_to_keep"]
  | createPool => [.optional "props" .null]
  | defaultPool => [.required "device_id"]

/-- The class that a method is declared in. -/
def owner (c : HandleClass) : Method → HandleClass
  | release => .plain
  | _ => c

/-- A method with its name and parameters. -/
def signature (c : HandleClass) (name : String) (m : Method) : Signature :=
  .bound ((m.owner c).name ++ "." ++ name) m.parameters

/-- The operation that a method stands for. -/
def operation (id : Nat) : Method → List Value → Operation
  | copyTo, [target, kind] => .copyTo id target kind
  | copyFromHost, [source] => .copyFromHost id source
  | copyToHost, [type, out] => .copyToHost id type out
  | fill, [value, size] => .fill id value size
  | query, _ => .queryStream id
  | synchronize, _ => .synchronizeStream id
  | allocate, [size, stream] => .allocateFromPool id size stream
  | trim, [keep] => .trimPool id keep
  | createStream, _ => .createStream
  | createPool, [props] => .createPool props
  | defaultPool, [device] => .ask device .defaultPool
  | _, _ => .release id

end Method

/-- Something that can be read off a handle. -/
inductive Property where
  | released
  | handle
  | address
  | size
  | owned
  | isNull
  | props
  deriving Repr, DecidableEq

namespace Property

/-- The properties of a class of handle. -/
def ofName? : HandleClass → String → Option Property
  | _, "released" => some .released
  | _, "handle" => some .handle
  | .pointer, "address" => some .address
  | .pointer, "nbytes" | .pointer, "size" => some .size
  | .pool, "owned" => some .owned
  | .pool, "is_null" => some .isNull
  | .pool, "props" => some .props
  | _, _ => none

/-- The description that a pool was made from, or null. -/
def propsValue : Payload → Value
  | .pool _ (some p) => p.toValue
  | _ => .null

/-- The value of a property. -/
def read (id : Nat) : Property → Action Value
  | released => do return .truth ((← get).resource id).released
  | handle => (Operation.readHandle id).perform
  | address => (Operation.readAddress id).perform
  | size => do return (← get).sizeOf id
  | owned => do return ((← get).resource id).owned
  | isNull => do return .truth ((← get).resource id).payload.address.isNone
  | props => do return propsValue ((← get).resource id).payload

end Property

/-! ## Questions about a device -/

/-- What the question with a name asks for. -/
def questionParameters? : String → Option (List Parameter)
  | "attribute" => some [.required "attr"]
  | "name" | "total_mem" | "compute_capability" | "uuid" | "pci_bus_id"
  | "get_default_mem_pool" => some []
  | _ => none

/-- The question that a name and its arguments stand for. -/
def questionOf : String → List Value → DeviceQuestion
  | "total_mem", _ => .totalMemory
  | "compute_capability", _ => .computeCapability
  | "uuid", _ => .uuid
  | "pci_bus_id", _ => .busId
  | "attribute", [code] => .attributeValue code
  | "get_default_mem_pool", _ => .defaultPool
  | _, _ => .name

/-! ## Attributes -/

/-- Something that can be called with arguments. -/
inductive Callable where
  | method (id : Nat) (signature : Signature) (m : Method)
  | question (device : Value) (signature : Signature) (name : String)
  | change (p : PoolProps) (signature : Signature) (name : String)

namespace Callable

/-- A call with arguments by position and by name. -/
def call (positions : List Value) (named : List (String × Value)) : Callable → Action Value
  | method id s m => do
    (m.operation id (← Action.ofExcept (s.bind positions named))).perform
  | question device s name => do
    (Operation.ask device (questionOf name (← Action.ofExcept (s.bind positions named)))).perform
  | change p s name => do
    return (← Action.ofExcept (Script.change p s name positions named)).toValue

end Callable

/-- What an object has under a name. -/
inductive Attribute where
  | value (v : Value)
  | callable (c : Callable)

namespace Attribute

/-- What a handle has under a name. -/
def ofHandle (id : Nat) (c : HandleClass) (name : String) : Action Attribute :=
  match Method.ofName? c name, Property.ofName? c name with
  | some m, _ => return callable (.method id (m.signature c name) m)
  | none, some p => do return value (← p.read id)
  | none, none => Action.ofExcept ((Value.handle id c).missing name)

/-- What a device has under a name. -/
def ofDevice (device : Value) (name : String) : Except Fault Attribute :=
  match questionParameters? name with
  | some ps => .ok (callable (.question device (.bound ("Device." ++ name) ps) name))
  | none => if name == "id" then .ok (value device) else (Value.device device).missing name

/-- What a description of a pool has under a name. -/
def ofProps (p : PoolProps) (name : String) : Except Fault Attribute :=
  match fieldOf? p name with
  | some v => .ok (value v)
  | none => do return callable (.change p (← changeSignature p name) name)

/-- What an array has under a name. -/
def ofArray? (a : HostArray) : String → Option Value
  | "nbytes" => some (.int a.byteCount)
  | "size" => some (.int a.count)
  | "ndim" => some (.int a.shape.length)
  | "itemsize" => some (.int a.type.size)
  | "shape" => some (.tuple (a.shape.map fun (n : Nat) => .int n))
  | _ => none

/-- What a single element has under a name: what an array without axes has. -/
def ofScalar? (t : ElementType) (name : String) : Option Value := ofArray? (.ofBytes t [] []) name

/-- What a constant has under a name. -/
def ofMember? (m : Enumeration.Member) : String → Option Value
  | "name" => some ((m.name.map Value.text).getD .null)
  | "value" =>
    some (match m.constant with
      | .number n => .int n
      | .word s => .text s)
  | _ => none

/-- What an identifier has under a name. -/
def ofUuid? (bs : List UInt8) : String → Option Value
  | "hex" => some (.text (Text.hexBytes bs))
  | "int" => some (.int (bs.foldl (fun n b => 256 * n + b.toNat) 0))
  | _ => none

/-- What a library has under a name: a loaded one its path, and else only entry points. -/
def ofLibrary (loaded : Option (Option String)) (name : String) : Except Fault Attribute :=
  match loaded, name with
  | some path, "path" => .ok (value ((path.map Value.text).getD .null))
  | some _, name => .error (.undeclaredSymbol name)
  | none, name => .error (.undefinedSymbol name)

/-- What a plain value has under a name. -/
def ofValue? (v : Value) (name : String) : Option Value :=
  match v with
  | .version _ parts => (parts.lookup name).map Value.ofNumber
  | .address a => if name == "value" then some (Operation.addressValue a) else none
  | .array a => ofArray? a name
  | .scalar t .. => ofScalar? t name
  | .member _ m => ofMember? m name
  | .uuid bs => ofUuid? bs name
  | _ => none

/-- What an object has under a name. -/
def read (v : Value) (name : String) : Action Attribute :=
  match v with
  | .handle id c => ofHandle id c name
  | .device id => Action.ofExcept (ofDevice id name)
  | .poolProps a b c d e => Action.ofExcept (ofProps ⟨a, b, c, d, e⟩ name)
  | .library l => Action.ofExcept (ofLibrary l name)
  | v =>
    match ofValue? v name with
    | some x => return value x
    | none => Action.ofExcept (v.missing name)

/-- A call of an attribute; a value cannot be called. -/
def call (positions : List Value) (named : List (String × Value)) : Attribute → Action Value
  | callable c => c.call positions named
  | value v => throw (.notCallable v.qualifiedType)

end Attribute
end GpuHandles.Script
