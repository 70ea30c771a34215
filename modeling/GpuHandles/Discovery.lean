import GpuHandles.Text.Lowercase
import GpuHandles.World
/-!
Finding the library.

A file named outright in the environment comes first.  Otherwise the platform is
settled from an argument or the environment, and the candidates of that platform
are tried in order, roots before folders before names; last comes the system's
own search.  The hardware is probed only to answer what `auto` means when someone
asks for the platform itself.
-/

namespace GpuHandles.Discovery

/-- The variable that names the library file. -/
def libraryVariable : String := "HIPRT_LIBRARY"

/-- The variable that names the platform. -/
def platformVariable : String := "HIP_PLATFORM"

/-- The variables that name a root to search. -/
def rootVariables : List String := ["ROCM_PATH", "HIP_PATH"]

/-- Do some bytes occur anywhere in others? -/
def occursIn (needle : List UInt8) : List UInt8 → Bool
  | [] => needle.isEmpty
  | b :: bs => needle.isPrefixOf (b :: bs) || occursIn needle bs

/-- The letters `GPU`. -/
def mark : List UInt8 := [71, 80, 85]

/-- Does a tool's outcome list a device?  A tool that cannot be run lists none; one that
fails in an unexpected way is a fault. -/
def lists : ToolOutcome → Except Fault Bool
  | .finished code written => .ok (code == 0 && occursIn mark written)
  | .missing | .denied | .timedOut => .ok false
  | .broken => .error .toolBroke

/-- Run a vendor tool and see whether it lists a device. -/
def probe (command : String) (arguments : List String) : Action Bool := do
  Action.record (.run (command :: arguments))
  Action.ofExcept (lists ((← get).host.outcome command))

/-- Is there a device of the first vendor? -/
def hasAmd : Action Bool := probe "rocm-smi" ["--showid"]

/-- Is there a device of the second vendor? -/
def hasNvidia : Action Bool := probe "nvidia-smi" ["-L"]

/-- The platform that the hardware suggests; the first vendor's if there is none. -/
def defaultPlatform : Action String := do
  if ← hasAmd then return "amd"
  else if ← hasNvidia then return "nvidia"
  else return "amd"

/-- The platforms that a text may name outright. -/
def platforms : List String := ["amd", "nvidia"]

/-- The platform that a text names; `auto` asks the hardware. -/
def platformOf (s : String) : Action String := do
  let lowered := Text.lowercase s
  if lowered == "auto" then defaultPlatform
  else if platforms.contains lowered then return lowered
  else throw (.badPlatform s)

/-- The text of a platform argument; only a text can be lowered. -/
def platformText : Value → Except Fault String
  | .text s => .ok s
  | v => v.missing "lower"

/-- The platform that a value names. -/
def validPlatform (v : Value) : Action String := do
  platformOf (← Action.ofExcept (platformText v))

/-- The platform asked for: the argument if it counts as true, else the environment's,
else `auto`. -/
def requested (argument : Value) (host : Host) : Except Fault Value := do
  if ← argument.countsAsTrue (fun _ => .null) then return argument
  else return .text ((host.setting? platformVariable).getD "auto")

/-- The file names of the library. -/
def fileNames (host : Host) : List String :=
  if host.isWindows then ["amdhip64_6.dll", "amdhip64.dll"]
  else ["libamdhip64.so.6", "libamdhip64.so"]

/-- The roots to search: those of the environment, then the usual one. -/
def roots (host : Host) : List Path :=
  (rootVariables.filterMap host.filled? ++ ["/opt/rocm"]).map Path.ofText

/-- Every candidate path, roots before folders before names. -/
def candidatePaths (host : Host) : List String :=
  (roots host).flatMap fun root =>
    ["lib", "bin"].flatMap fun folder =>
      (fileNames host).map fun name => ((root.child folder).child name).text

/-- The candidates for a platform: none where the second vendor's is asked for. -/
def candidates (argument : Value) : Action (List String) := do
  let host := (← get).host
  let asked ← Action.ofExcept (requested argument host >>= platformText)
  let settled ← if Text.lowercase asked == "auto" then pure asked else platformOf asked
  return if settled == "nvidia" then [] else candidatePaths host

/-- The system's own search. -/
def systemSearch : Action (Option String) := do
  Action.record (.lookup "amdhip64")
  return ((← get).host.systemLibrary).filter fun s => !s.isEmpty

/-- The path of the library. -/
def find (argument : Value) : Action String := do
  let host := (← get).host
  match host.filled? libraryVariable with
  | some path => if host.hasFile path then return path else throw (.missingLibrary path)
  | none =>
    let tried ← candidates argument
    match tried.find? host.hasFile with
    | some path => return path
    | none =>
      if tried.isEmpty then throw (.noLibrary [])
      else
        match ← systemSearch with
        | some path => return path
        | none => throw (.noLibrary tried)

end GpuHandles.Discovery
