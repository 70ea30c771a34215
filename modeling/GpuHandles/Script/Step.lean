import GpuHandles.Script.Member
/-!
Steps of a script.

A task is one thing that a script does; `Task.perform` evaluates what it names and
what it is given, in a fixed order, and then carries it out.  Some tasks act on the
test bench and not through the interface: they prepare failures, change what the
machine will answer, or look at its tables.
-/

namespace GpuHandles.Script

/-- A number of the machine that a test may set. -/
inductive Setting where
  | deviceCount (n : Int)
  | totalMemory (n : Int)
  | currentDevice (n : Int)
  | streamStatus (n : Int)
  | emptyCode (n : Int)
  deriving Repr, DecidableEq

/-- A machine after a setting. -/
def Setting.apply (m : Machine) : Setting → Machine
  | deviceCount n => { m with deviceCount := n }
  | totalMemory n => { m with totalMemory := n }
  | currentDevice n => { m with currentDevice := .int n }
  | streamStatus n => { m with streamStatus := n }
  | emptyCode n => { m with emptyCode := n }

/-- Which library a script installs. -/
inductive Installation where
  | direct
  /-- a loaded file that leads to the same machine -/
  | loaded
  | none
  deriving Repr, DecidableEq

/-- The file behind a loaded installation. -/
def standInFile : String := "fake.so"

namespace Installation

/-- The library that is installed before a script starts. -/
def library : Installation → Option Library
  | direct => some .direct
  | loaded => some (.loaded (some standInFile) [])
  | none => Option.none

/-- Install a library. -/
def install : Installation → Action Unit
  | direct => Loading.install (some .direct)
  | loaded => do Loading.install (some (← Loading.openFile standInFile))
  | none => Loading.install Option.none

end Installation

/-- What a script does in one step. -/
inductive Task where
  /-- an operation without arguments -/
  | plain (operation : Operation)
  | selectDevice (device : Expression)
  | askDevice (id : Expression) (method : String) (positions : List Expression)
  | deviceOfBusId (text : Expression)
  | peerAttribute (code source target : Expression)
  | allocate (size : Expression)
  | allocateFlagged (size flags : Expression)
  | allocateOrdered (size stream : Expression)
  | allocateFromPool (pool : String) (size stream : Expression)
  | free (pointer : Expression)
  | createPool (props : Expression)
  | defaultPool (device : Expression)
  | wrap (cls : HandleClass) (handle size owned : Expression)
  | call (name method : String) (positions : List Expression) (named : List (String × Expression))
  | read (name attr : String)
  | length (name : String)
  | describe (name : String)
  | failNext (entry : String) (code : Int)
  | change (settings : List Setting)
  | setEnvironment (entries : List (String × Option String))
  | install (target : Installation)
  | library
  | load (path : Option String)
  | symbol (name : String)

namespace Task

/-- The address in a value: null, or a number modulo the width of an address. -/
def addressOf : Value → Except Fault Address
  | .null => .ok none
  | v =>
    match v.integer? with
    | some n => .ok (NativeCall.addressOfNumber n)
    | none => .error .notAddress

/-- The resource of a class around a handle that is there already. -/
def payloadOf (cls : HandleClass) (handle size : Value) : Except Fault Payload :=
  match cls with
  | .pointer => do return .pointer (← addressOf handle) size
  | .stream => do return .stream (← addressOf handle)
  | .pool => do return .pool (← addressOf handle) none
  | .plain => .ok (.plain handle)

/-- Can a resource of a class be made that is not answerable for the release?  Memory and
streams always are. -/
def mayBorrow : HandleClass → Bool
  | .pointer | .stream => false
  | .pool | .plain => true

/-- The library as a value. -/
def libraryValue : Library → Value
  | .direct => .library none
  | .loaded path _ => .library (some path)

/-- The value of an expression. -/
def evaluate (names : Bindings) (e : Expression) : Action Value :=
  Action.ofExcept (e.evaluate names)

/-- The values of expressions, in order. -/
def evaluateAll (names : Bindings) (es : List Expression) : Action (List Value) :=
  Action.ofExcept (Expression.evaluateAll names es)

/-- What an object bound to a name has under another name. -/
def attributeOf (names : Bindings) (name attr : String) : Action Attribute := do
  Attribute.read (← Action.ofExcept (lookup names name)) attr

/-- The value of an attribute; what can only be called has none. -/
def valueOf (names : Bindings) (name attr : String) : Action Value := do
  let object ← Action.ofExcept (lookup names name)
  match ← Attribute.read object attr with
  | .value v => return v
  | .callable _ => Action.ofExcept (object.missing attr)

/-- A change of the machine from outside. -/
def adjust (f : Machine → Machine) : Action Value := do
  modify fun w => { w with machine := f w.machine }
  return .null

/-- A code for the next call of a symbol; a symbol without an entry point is never
called. -/
def prepare (symbol : String) (code : Int) (m : Machine) : Machine :=
  match EntryPoint.ofName? symbol with
  | some e => m.failNext e code
  | none => m

/-- What a task does. -/
def perform (names : Bindings) : Task → Action Value
  | plain operation => operation.perform
  | selectDevice device => do
    (Operation.selectDevice (← evaluate names device)).perform
  | askDevice id method positions => do
    let question ← Attribute.read (.device (← evaluate names id)) method
    question.call (← evaluateAll names positions) []
  | deviceOfBusId text => do (Operation.deviceOfBusId (← evaluate names text)).perform
  | peerAttribute code source target => do
    let code ← evaluate names code
    let source ← evaluate names source
    let target ← evaluate names target
    (Operation.peerAttribute code source target).perform
  | allocate size => do (Operation.allocate (← evaluate names size)).perform
  | allocateFlagged size flags => do
    let flags ← evaluate names flags
    let size ← evaluate names size
    (Operation.allocateFlagged size flags).perform
  | allocateOrdered size stream => do
    let size ← evaluate names size
    let stream ← evaluate names stream
    (Operation.allocateOrdered size stream).perform
  | allocateFromPool pool size stream => do
    let method ← attributeOf names pool "allocate_async"
    let size ← evaluate names size
    let stream ← evaluate names stream
    method.call [size, stream] []
  | free pointer => do (Operation.free (← evaluate names pointer)).perform
  | createPool props => do (Operation.createPool (← evaluate names props)).perform
  | defaultPool device => do (Operation.defaultPool (← evaluate names device)).perform
  | wrap cls handle size owned => do
    let handle ← evaluate names handle
    let size ← evaluate names size
    let payload ← Action.ofExcept (payloadOf cls handle size)
    let owned ← if mayBorrow cls then evaluate names owned else pure (.truth true)
    (Operation.wrap payload owned).perform
  | call name method positions named => do
    let named ← Action.ofExcept (Expression.evaluateFields names named)
    let method ← attributeOf names name method
    method.call (← evaluateAll names positions) named
  | read name attr => valueOf names name attr
  | length name => do return .int (← Memory.length (← Action.ofExcept (lookup names name)))
  | describe name => do
    let v ← Action.ofExcept (lookup names name)
    return .text (v.shown (← get).name)
  | failNext entry code => adjust (prepare entry code)
  | change settings => adjust fun m => settings.foldl Setting.apply m
  | setEnvironment entries => do
    modify fun w =>
      { w with host := entries.foldl (fun h v => h.setVariable v.1 v.2) w.host }
    return .null
  | install target => Operation.silent target.install
  | library => do return libraryValue (← Loading.library)
  | load path => do return libraryValue (← Loading.load path)
  | symbol name => Operation.silent (Loading.symbol name)

end Task

/-- A step of a script. -/
inductive Step where
  /-- a task; its result may get a name, and its fault may end the block around it -/
  | task (t : Task) (bind : Option String) (escapes : Bool)
  /-- the tables of the machine -/
  | snapshot
  /-- a name given up; its fault may end the block around it -/
  | drop (name : String) (escapes : Bool)
  /-- steps while an object is held, then perhaps a fault of the script's own -/
  | block (name : String) (body : List Step) (raise : Option Fault)

instance : Inhabited Step := ⟨.snapshot⟩

end GpuHandles.Script
