import GpuHandles.Pool
import GpuHandles.Text.Utf8
/-!
Devices: which there are, which one is current, and what they report.

The runtime knows the current device, and every question goes to it.  Only
choosing a device checks its number first.
-/

namespace GpuHandles.Device

/-- The length of the buffer for a name. -/
def nameLength : Int := 256

/-- The length of the buffer for a bus id. -/
def busIdLength : Int := 16

/-- The bytes before the first zero. -/
def untilZero (bs : List UInt8) : List UInt8 := bs.takeWhile (· != 0)

/-- The name of a device. -/
def name (device : Value) : Action Value := do
  let out ← Loading.request (.deviceName nameLength device)
  return .text (Text.Utf8.decode (untilZero out.storedBytes))

/-- The memory of a device in bytes. -/
def totalMemory (device : Value) : Action Value := do
  let out ← Loading.request (.totalMemory device)
  return .int out.storedSize

/-- The capability of a device. -/
def computeCapability (device : Value) : Action Value := do
  let (major, minor) := match ← Loading.request (.computeCapability device) with
    | .pair a b => (Width.int32 a, Width.int32 b)
    | _ => (-1, -1)
  return .version "ComputeCapability" [("major", .int major), ("minor", .int minor)]

/-- The identifier of a device. -/
def uuid (device : Value) : Action Value := do
  let out ← Loading.request (.deviceUuid device)
  return .uuid ((out.storedBytes ++ List.replicate 16 0).take 16)

/-- The bus id of a device. -/
def busId (device : Value) : Action Value := do
  let out ← Loading.request (.busId busIdLength device)
  match Text.Ascii.decode (untilZero out.storedBytes) with
  | .ok s => return .text s
  | .error (b, position) => throw (.notAsciiByte b position)

/-- An attribute of a device, by its code. -/
def attributeValue (device code : Value) : Action Value := do
  let l ← Loading.resolve .deviceAttribute
  let code ← Action.ofExcept code.toWhole
  let (answer, out) ← Loading.invoke l (.deviceAttribute code device)
  Loading.check answer
  return .int (out.storedInt 0)

/-- The number of devices. -/
def count : Action Int := do
  return (← Loading.request .deviceCount).storedInt 0

/-- The current device. -/
def current : Action Value := do
  return .device (.int ((← Loading.request .currentDevice).storedInt (-1)))

/-- The failure of a device number outside the range, in a sentence that names it. -/
def outOfRange (shown : Option String) (count : Int) : Fault :=
  match shown with
  | some id =>
    .ofKind .invalidDevice
      ("Device " ++ id ++ " out of range: " ++ toString count ++ " device(s) visible")
  | none => .longNumber

/-- Is a device number at least zero and below a count? -/
def inRange (device : Value) (count : Int) : Except Fault Bool := do
  if ← (Value.int 0).compare .atMost device then device.compare .below (.int count)
  else return false

/-- Make a device current. -/
def select (device : Value) : Action Value := do
  let id ← Action.ofExcept (Pool.deviceId device)
  let n ← count
  if ← Action.ofExcept (inRange id n) then
    discard (Loading.request (.setDevice id))
    Action.write .debug .device
      ("Active device set to " ++ toString (id.toWhole.toOption.getD 0))
    return .device id
  else throw (outOfRange (id.inSentence (← get).name) n)

/-- Wait until all work on the current device has ended. -/
def synchronize : Action Unit := discard (Loading.request .synchronize)

/-- The bytes of a bus id that a value writes. -/
def busIdBytes : Value → Except Fault (List UInt8)
  | .text s =>
    match Text.Ascii.encode s with
    | .ok bs => .ok bs
    | .error run => .error (.notAscii run)
  | v => v.missing "encode"

/-- The device with a bus id. -/
def ofBusId (id : Value) : Action Value := do
  let l ← Loading.resolve .deviceByBusId
  let bs ← Action.ofExcept (busIdBytes id)
  let (code, out) ← Loading.invoke l (.deviceByBusId bs)
  Loading.check code
  return .device (.int (out.storedInt (-1)))

/-- An attribute between two devices. -/
def peerAttribute (code source target : Value) : Action Value := do
  let l ← Loading.resolve .peerAttribute
  let code ← Action.ofExcept code.toWhole
  let source ← Action.ofExcept (Pool.deviceId source)
  let target ← Action.ofExcept (Pool.deviceId target)
  let (answer, out) ← Loading.invoke l (.peerAttribute code source target)
  Loading.check answer
  return .int (out.storedInt (-1))

end GpuHandles.Device
