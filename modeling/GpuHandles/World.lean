import GpuHandles.Host
import GpuHandles.Machine.Basic
import GpuHandles.Resource
/-!
The state that operations work on, and what they leave behind.

A world is the host, the machine, the library that is installed, every resource
ever made, and two histories: the events between the interface and the outside,
and the log.  An `Action` changes the world and ends with a value or a fault; a
fault keeps what was done before it.
-/

namespace GpuHandles

/-- A library that calls go through. -/
inductive Library where
  /-- the machine itself, called with values as they are -/
  | direct
  /-- a loaded file, with the entry points that were found in it so far -/
  | loaded (path : Option String) (found : List EntryPoint)
  deriving Repr, DecidableEq

/-- Something that passed between the interface and the outside. -/
inductive Event where
  /-- a native call, as it arrived, and the code that was returned -/
  | call (call : NativeCall) (code : Int)
  /-- an entry point looked up in a loaded library -/
  | resolve (entry : EntryPoint)
  /-- a library file opened -/
  | load (path : Option String)
  /-- a vendor tool started -/
  | run (command : List String)
  /-- the system asked for a library -/
  | lookup (name : String)

/-- How grave a log record is. -/
inductive Level where
  | debug
  | error
  deriving Repr, DecidableEq

namespace Level

/-- The name of a level. -/
def name : Level → String
  | debug => "DEBUG"
  | error => "ERROR"

end Level

/-- The part of the interface that writes to the log. -/
inductive Logger where
  | library
  | startUp
  | device
  | memory
  | stream
  | pool
  | ownership
  deriving Repr, DecidableEq

namespace Logger

/-- The name of a logger. -/
def name : Logger → String
  | library => "hiprt._bindings"
  | startUp => "hiprt.runtime"
  | device => "hiprt.device"
  | memory => "hiprt.memory"
  | stream => "hiprt.stream"
  | pool => "hiprt.mempool"
  | ownership => "hiprt.resource"

end Logger

/-- A line of the log. -/
structure LogRecord where
  level : Level
  logger : Logger
  text : String
  deriving Repr, DecidableEq

/-- Everything that operations see and change. -/
structure World where
  host : Host
  machine : Machine
  /-- the installed library; none until the first use loads one -/
  library : Option Library
  /-- every resource, in the order of construction -/
  resources : List Resource
  trace : List Event
  log : List LogRecord

namespace World

/-- A resource by its number; a number that was never given out counts as released. -/
def resource (w : World) (id : Nat) : Resource :=
  (w.resources[id]?).getD ⟨.plain .null, .truth false, true⟩

/-- The resources with one of them changed. -/
def setResource (w : World) (id : Nat) (r : Resource) : World :=
  { w with resources := w.resources.set id r }

/-- The printed form of a resource.  One that stands for another was made after it, so the
number of resources bounds how deep they lie in each other. -/
def nameWithin (w : World) : Nat → Nat → String
  | 0, _ => ""
  | fuel + 1, id => (w.resource id).shown (w.nameWithin fuel)

/-- The printed form of a resource. -/
def name (w : World) (id : Nat) : String := w.nameWithin w.resources.length id

/-- The size of device memory. -/
def sizeOf (w : World) (id : Nat) : Value := (w.resource id).payload.size

/-- Does a value count as true? -/
def countsAsTrue (w : World) (v : Value) : Except Fault Bool := v.countsAsTrue w.sizeOf

/-- A world in which nothing has happened yet. -/
def start (host : Host) (machine : Machine) (library : Option Library) : World where
  host := host
  machine := machine
  library := library
  resources := []
  trace := []
  log := []

end World

/-- A step through worlds that ends with a value or a fault. -/
abbrev Action (α : Type) := ExceptT Fault (StateM World) α

namespace Action

/-- The value or fault of an action, and the world after it. -/
def outcome {α : Type} (a : Action α) (w : World) : Except Fault α × World :=
  StateT.run (ExceptT.run a) w

/-- An event added to the trace. -/
def record (e : Event) : Action Unit := modify fun w => { w with trace := w.trace ++ [e] }

/-- A line added to the log. -/
def write (level : Level) (logger : Logger) (text : String) : Action Unit :=
  modify fun w => { w with log := w.log ++ [⟨level, logger, text⟩] }

/-- A computation that touches no world. -/
def ofExcept {α : Type} : Except Fault α → Action α
  | .ok a => pure a
  | .error f => throw f

/-- The action's end as a value, with the world it left. -/
def attempt {α : Type} (a : Action α) : Action (Except Fault α) :=
  ExceptT.mk ((ExceptT.run a) >>= fun r => pure (.ok r))

end Action
end GpuHandles
