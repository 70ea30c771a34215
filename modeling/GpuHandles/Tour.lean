import GpuHandles.HostArray.Difference
import GpuHandles.Operation
/-!
A guided tour of the interface.

The tour starts the runtime, lists the devices, moves a thousand numbers through
device memory and back, and allocates from a device's default pool in the order of
a stream.  It prints what it sees; where it fails, what was printed before stands.
-/

namespace GpuHandles.Tour

/-- An action that also prints: the world, and the text so far. -/
abbrev Narration (α : Type) := ExceptT Fault (StateM (World × String)) α

/-- An action without anything printed. -/
def act {α : Type} (a : Action α) : Narration α :=
  ExceptT.mk fun s =>
    let (r, w) := a.outcome s.1
    (r, (w, s.2))

/-- An operation of the interface. -/
def perform (o : Operation) : Narration Value := act o.perform

/-- A printed line. -/
def say (line : String) : Narration Unit := modify fun s => (s.1, s.2 ++ line ++ "\n")

/-- The end of a narration as a value. -/
def attempt {α : Type} (a : Narration α) : Narration (Except Fault α) :=
  ExceptT.mk ((ExceptT.run a) >>= fun r => pure (.ok r))

/-- A narration while a resource is held; it is released at the end, whichever way the
end comes. -/
def holding {α : Type} (v : Value) (body : Narration α) : Narration α := do
  match v with
  | .handle id _ =>
    discard (perform (.enter id))
    match ← attempt body with
    | .ok a => do
      discard (perform (.leave id none))
      return a
    | .error f => do
      discard (perform (.leave id (some f)))
      throw f
  | _ => body

/-- The text of a value inside a sentence, in the world as it is. -/
def textOf (v : Value) : Narration String := do return v.spoken (← get).1.name

/-- A truth value as it prints. -/
def truthText (b : Bool) : String := (Value.truth b).plain Value.nameless

/-- A line across the page. -/
def rule : String := String.ofList (List.replicate 60 '=')

/-- A size in units of 2 ^ 20 bytes. -/
def mebibytes : Value → String
  | .int n => toString (n / 2 ^ 20)
  | v => v.plain Value.nameless

/-- What the hardware tools say about the platform. -/
def platforms : Narration Unit := do
  say "Available platforms:"
  say ("  AMD: " ++ truthText (← act Discovery.hasAmd))
  say ("  NVIDIA: " ++ truthText (← act Discovery.hasNvidia))
  say ("  Default: " ++ (← act Discovery.defaultPlatform))
  say ""

/-- The runtime and its versions. -/
def startUp : Narration Unit := do
  say "Initializing HIP runtime..."
  discard (perform .start)
  say ("  Runtime version: " ++ (← textOf (← perform .runtimeVersion)))
  say ("  Driver version: " ++ (← textOf (← perform .driverVersion)))
  say ""

/-- One device. -/
def device (n : Nat) : Narration Unit := do
  let id := Value.int n
  say ("  [" ++ toString n ++ "] " ++ (← textOf (← perform (.ask id .name))))
  let arch ← textOf (← perform (.ask id .computeCapability))
  let memory ← perform (.ask id .totalMemory)
  say ("      arch: " ++ arch ++ ", memory: " ++ mebibytes memory ++ " MiB")
  say ("      PCI bus: " ++ (← textOf (← perform (.ask id .busId))))

/-- A device past the end is refused; the first one is chosen. -/
def selection (count : Int) : Narration Unit := do
  match ← attempt (perform (.selectDevice (.int count))) with
  | .error (.status f) =>
    say ("set_device(" ++ toString count ++ ") failed as expected: " ++ f.text)
  | .error f => throw f
  | .ok _ => pure ()
  let chosen ← perform (.selectDevice (.int 0))
  say ("Selected " ++ (← textOf chosen))
  say ""

/-- The numbers from 0 to 1023 as elements of four bytes. -/
def numbers : HostArray :=
  .ofBytes .float32 [1024]
    ((List.range 1024).flatMap fun (n : Nat) => Element.encode .int64 .float32 (.number (.int n)))

/-- The first five elements of an array. -/
def firstElements (a : HostArray) : HostArray := a.slice [⟨none, some 5, none⟩]

/-- What came back, beside what was sent. -/
def compared (result : HostArray) : Narration Unit := do
  say ("  result[:5] = " ++ (firstElements result).plain)
  match result.difference? numbers with
  | none => say "  ✓ Round trip matches!"
  | some report => throw (.mismatch report)

/-- Numbers moved to a device, across, and back. -/
def roundTrip (source target : Value) : Narration Unit := do
  say ("  src: " ++ (← textOf source))
  say ("  dst: " ++ (← textOf target))
  match source, target with
  | .handle s _, .handle t _ =>
    discard (perform (.copyFromHost s (.array numbers)))
    discard (perform (.copyTo s target (.int 3)))
    match ← perform (.copyToHost t (.text "float32") .null) with
    | .array a => compared a
    | _ => pure ()
  | _, _ => pure ()

/-- Allocation and transfer. -/
def transfer : Narration Unit := do
  say "Allocating device memory (1024 float32 elements)..."
  let size := Value.int numbers.byteCount
  let source ← perform (.allocate size)
  holding source do
    let target ← perform (.allocate size)
    holding target (roundTrip source target)
  say ""

/-- The memory accounts. -/
def accounts : Narration Unit := do
  match ← perform .memoryInfo with
  | .tuple [free, total] =>
    say ("Memory: " ++ mebibytes free ++ " MiB free of " ++ mebibytes total ++ " MiB")
  | _ => pure ()
  say ""

/-- The name of a member of an enumeration. -/
def memberName : Value → String
  | .member _ ⟨some s, _⟩ => s
  | v => v.plain Value.nameless

/-- Work on a stream with memory from the default pool. -/
def ordered : Narration Unit := do
  say "Allocating from the default memory pool on a stream..."
  match ← perform (.ask (.int 0) .defaultPool) with
  | .handle pool _ => do
    let stream ← perform .createStream
    holding stream do
      let pointer ← perform (.allocateFromPool pool (.int (2 ^ 20)) stream)
      holding pointer do
        match pointer with
        | .handle p _ => discard (perform (.fill p (.int 0) .null))
        | _ => pure ()
      match stream with
      | .handle s _ =>
        discard (perform (.synchronizeStream s))
        say ("  Stream status: " ++ memberName (← perform (.queryStream s)))
      | _ => pure ()
  | _ => pure ()
  say ""

/-- Everything that needs a device. -/
def withDevices (count : Int) : Narration Unit := do
  (List.range count.toNat).forM device
  say ""
  selection count
  transfer
  accounts
  ordered
  say rule
  say "Example completed successfully!"
  say rule

/-- The whole tour. -/
def narration : Narration Unit := do
  say rule
  say "hiprt - Basic Usage Example"
  say rule
  say ""
  platforms
  startUp
  match ← perform .deviceCount with
  | .int count =>
    say ("Found " ++ toString count ++ " device(s)")
    if count = 0 then say "No HIP devices available - nothing else to do"
    else withDevices count
  | _ => pure ()

/-- What a tour leaves behind: its fault if it failed, the text, and the world. -/
structure Ending where
  fault : Option Fault
  printed : String
  world : World

/-- The tour in a world. -/
def run (w : World) : Ending :=
  match (StateT.run (ExceptT.run narration) (w, "")) with
  | (.ok (), s) => ⟨none, s.2, s.1⟩
  | (.error f, s) => ⟨some f, s.2, s.1⟩

end GpuHandles.Tour
