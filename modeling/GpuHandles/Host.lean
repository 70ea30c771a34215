import GpuHandles.Machine.Table
import GpuHandles.Path
/-!
What a process sees of the computer it runs on: its environment, the files that
exist, the vendor tools, and the system's own search for libraries.
-/

namespace GpuHandles

/-- What comes of running a tool. -/
inductive ToolOutcome where
  /-- it ended with a code and wrote something -/
  | finished (code : Int) (written : List UInt8)
  | missing
  | denied
  | timedOut
  /-- it failed in a way that nobody expects -/
  | broken
  deriving Repr, DecidableEq

/-- The computer as a process sees it. -/
structure Host where
  environment : Table String String
  /-- normal forms of the paths that exist -/
  files : List String
  tools : Table String ToolOutcome
  /-- what the system's search for the library answers -/
  systemLibrary : Option String
  isWindows : Bool
  /-- libraries that exist and do not load -/
  unloadable : List String
  deriving Repr

namespace Host

/-- A host with nothing on it. -/
def bare : Host where
  environment := []
  files := []
  tools := []
  systemLibrary := none
  isWindows := false
  unloadable := []

/-- A variable of the environment. -/
def setting? (h : Host) (name : String) : Option String := h.environment.get? name

/-- A variable that is there and not empty. -/
def filled? (h : Host) (name : String) : Option String :=
  (h.setting? name).filter fun s => !s.isEmpty

/-- Does a path exist? -/
def hasFile (h : Host) (path : String) : Bool := h.files.contains (Path.normalized path)

/-- What comes of running a command. -/
def outcome (h : Host) (command : String) : ToolOutcome := (h.tools.get? command).getD .missing

/-- The environment with a variable set, or taken away. -/
def setVariable (h : Host) (name : String) : Option String → Host
  | some value => { h with environment := h.environment.put name value }
  | none => { h with environment := h.environment.erase name }

end Host
end GpuHandles
