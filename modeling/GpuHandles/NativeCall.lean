import GpuHandles.EntryPoint
import GpuHandles.PoolProps
/-!
Calls of the native interface.

A call is an entry point with its arguments; places to store results are not
arguments, they come back with the answer.  What a caller hands over unchecked, such
as the number of a device, is a value of any kind.  `narrow` is what a call becomes
when it passes the declared parameter types: numbers keep the low bits of their
parameter, a text ends at its first zero byte, and a value of another kind does not
pass.
-/

namespace GpuHandles

/-- One side of a copy. -/
inductive Place where
  | device (a : Address)
  /-- host memory, with the bytes that a copy finds in it -/
  | host (bytes : List UInt8)
  deriving Repr, DecidableEq

/-- An argument as it is recorded. -/
inductive Argument where
  | number (n : Number)
  | address (a : Address)
  | bytes (bs : List UInt8)
  | host
  deriving Repr, DecidableEq

/-- A call of an entry point. -/
inductive NativeCall where
  | start (flags : Int)
  | runtimeVersion
  | driverVersion
  | deviceCount
  | currentDevice
  | setDevice (device : Value)
  | synchronize
  | deviceName (length : Int) (device : Value)
  | totalMemory (device : Value)
  | computeCapability (device : Value)
  | deviceUuid (device : Value)
  | busId (length : Int) (device : Value)
  | deviceByBusId (text : List UInt8)
  | deviceAttribute (code : Int) (device : Value)
  | peerAttribute (code : Int) (source target : Value)
  | defaultPool (device : Value)
  | allocate (size : Int)
  | allocateFlagged (size flags : Int)
  | allocateOrdered (size : Int) (stream : Value)
  | free (a : Address)
  | copy (target source : Place) (size : Value) (kind : Int)
  | fill (target : Address) (value size : Value)
  | memoryInfo
  | streamCreate
  | streamDestroy (stream : Address)
  | streamQuery (stream : Address)
  | streamSynchronize (stream : Address)
  | poolCreate (props : PoolImage)
  | poolDestroy (pool : Address)
  | poolTrim (pool : Address) (keep : Value)
  | allocateFromPool (size : Int) (pool : Address) (stream : Value)

namespace NativeCall

/-- The entry point of a call. -/
def entryPoint : NativeCall → EntryPoint
  | start _ => .start
  | runtimeVersion => .runtimeVersion
  | driverVersion => .driverVersion
  | deviceCount => .deviceCount
  | currentDevice => .currentDevice
  | setDevice _ => .setDevice
  | synchronize => .synchronize
  | deviceName .. => .deviceName
  | totalMemory _ => .totalMemory
  | computeCapability _ => .computeCapability
  | deviceUuid _ => .deviceUuid
  | busId .. => .busId
  | deviceByBusId _ => .deviceByBusId
  | deviceAttribute .. => .deviceAttribute
  | peerAttribute .. => .peerAttribute
  | defaultPool _ => .defaultPool
  | allocate _ => .allocate
  | allocateFlagged .. => .allocateFlagged
  | allocateOrdered .. => .allocateOrdered
  | free _ => .free
  | copy .. => .copy
  | fill .. => .fill
  | memoryInfo => .memoryInfo
  | streamCreate => .streamCreate
  | streamDestroy _ => .streamDestroy
  | streamQuery _ => .streamQuery
  | streamSynchronize _ => .streamSynchronize
  | poolCreate _ => .poolCreate
  | poolDestroy _ => .poolDestroy
  | poolTrim .. => .poolTrim
  | allocateFromPool .. => .allocateFromPool

/-- A side of a copy as it is recorded. -/
def placeArgument : Place → Argument
  | .device a => .address a
  | .host _ => .host

/-- A whole number as it is recorded. -/
def whole (n : Int) : Argument := .number (.int n)

/-- A value as it is recorded: whole numbers, truth values and addresses are, others are
left out. -/
def recorded : Value → List Argument
  | .truth b => [.number (.truth b)]
  | .address a => [.address a]
  | v => (v.integer?.map whole).toList

/-- The arguments of a call as they are recorded. -/
def arguments : NativeCall → List Argument
  | start flags => [whole flags]
  | runtimeVersion | driverVersion | deviceCount | currentDevice | synchronize => []
  | deviceName length device | busId length device => whole length :: recorded device
  | setDevice device | totalMemory device | computeCapability device | deviceUuid device
  | defaultPool device => recorded device
  | deviceByBusId text => [.bytes text]
  | deviceAttribute code device => whole code :: recorded device
  | peerAttribute code source target => whole code :: (recorded source ++ recorded target)
  | allocate size => [whole size]
  | allocateFlagged size flags => [whole size, whole flags]
  | allocateOrdered size stream => whole size :: recorded stream
  | free a => [.address a]
  | copy target source size kind =>
    [placeArgument target, placeArgument source] ++ recorded size ++ [whole kind]
  | fill target value size => .address target :: (recorded value ++ recorded size)
  | memoryInfo | streamCreate => []
  | streamDestroy stream | streamQuery stream | streamSynchronize stream => [.address stream]
  | poolCreate _ => []
  | poolDestroy pool => [.address pool]
  | poolTrim pool keep => .address pool :: recorded keep
  | allocateFromPool size pool stream => [whole size, .address pool] ++ recorded stream

/-- The address that a number is: its low bits, and null for zero. -/
def addressOfNumber (n : Int) : Address :=
  if Width.uint64 n = 0 then none else some (Width.uint64 n)

/-- A value as an argument of a whole type. -/
def narrowWhole (position : Nat) (cut : Int → Int) (v : Value) : Except Fault Value :=
  match v.index? with
  | some n => .ok (.int (cut n))
  | none => .error (.badArgument position)

/-- A value as an argument that is an address. -/
def narrowAddress (position : Nat) : Value → Except Fault Value
  | .address a => .ok (.address a)
  | .null => .ok (.address none)
  | v =>
    match v.integer? with
    | some n => .ok (.address (addressOfNumber n))
    | none => .error (.badArgument position)

/-- A size as a parameter holds it. -/
def size (n : Int) : Int := Width.uint64 n

/-- A call after its arguments passed the declared parameter types, first to last. -/
def narrow : NativeCall → Except Fault NativeCall
  | start flags => .ok (start (Width.uint32 flags))
  | setDevice device => setDevice <$> narrowWhole 1 Width.int32 device
  | deviceName length device =>
    deviceName (Width.int32 length) <$> narrowWhole 3 Width.int32 device
  | totalMemory device => totalMemory <$> narrowWhole 2 Width.int32 device
  | computeCapability device => computeCapability <$> narrowWhole 3 Width.int32 device
  | deviceUuid device => deviceUuid <$> narrowWhole 2 Width.int32 device
  | busId length device => busId (Width.int32 length) <$> narrowWhole 3 Width.int32 device
  | deviceByBusId text => .ok (deviceByBusId (text.takeWhile (· != 0)))
  | deviceAttribute code device =>
    deviceAttribute (Width.int32 code) <$> narrowWhole 3 Width.int32 device
  | peerAttribute code source target => do
    let source ← narrowWhole 3 Width.int32 source
    return peerAttribute (Width.int32 code) source (← narrowWhole 4 Width.int32 target)
  | defaultPool device => defaultPool <$> narrowWhole 2 Width.int32 device
  | allocate n => .ok (allocate (size n))
  | allocateFlagged n flags => .ok (allocateFlagged (size n) (Width.uint32 flags))
  | allocateOrdered n stream => allocateOrdered (size n) <$> narrowAddress 3 stream
  | copy target source n kind => do
    return copy target source (← narrowWhole 3 size n) (Width.int32 kind)
  | fill target value n => do
    let value ← narrowWhole 2 Width.int32 value
    return fill target value (← narrowWhole 3 size n)
  | poolTrim pool keep => poolTrim pool <$> narrowWhole 2 size keep
  | allocateFromPool n pool stream =>
    allocateFromPool (size n) pool <$> narrowAddress 4 stream
  | c => .ok c

end NativeCall
end GpuHandles
