import GpuHandles.Device
import GpuHandles.StartUp
import GpuHandles.Stream
/-!
The operations of the interface, as one type.

A run of the interface is a list of operations over one world; `perform` is what
each of them does.  An operation names resources by their numbers, and ends with a
value or a fault.
-/

namespace GpuHandles

/-- A question about one device. -/
inductive DeviceQuestion where
  | name
  | totalMemory
  | computeCapability
  | uuid
  | busId
  | attributeValue (code : Value)
  | defaultPool

/-- An operation of the interface. -/
inductive Operation where
  | start
  | runtimeVersion
  | driverVersion
  | deviceCount
  | currentDevice
  | selectDevice (device : Value)
  | synchronizeDevice
  | ask (device : Value) (question : DeviceQuestion)
  | deviceOfBusId (text : Value)
  | peerAttribute (code source target : Value)
  | allocate (size : Value)
  | allocateFlagged (size flags : Value)
  | allocateOrdered (size stream : Value)
  | allocateFromPool (pool : Nat) (size stream : Value)
  | free (pointer : Value)
  | memoryInfo
  | copyTo (pointer : Nat) (target kind : Value)
  | copyFromHost (pointer : Nat) (source : Value)
  | copyToHost (pointer : Nat) (type out : Value)
  | fill (pointer : Nat) (value size : Value)
  | createStream
  | queryStream (stream : Nat)
  | synchronizeStream (stream : Nat)
  | createPool (props : Value)
  | defaultPool (device : Value)
  | trimPool (pool : Nat) (keep : Value)
  /-- a resource around a handle that is there already -/
  | wrap (payload : Payload) (owned : Value)
  /-- the native handle of a resource -/
  | readHandle (resource : Nat)
  /-- the address of an allocation -/
  | readAddress (pointer : Nat)
  | release (resource : Nat)
  | enter (resource : Nat)
  | leave (resource : Nat) (body : Option Fault)
  | finalize (resource : Nat)

namespace Operation

/-- An action without a value of its own. -/
def silent (a : Action Unit) : Action Value := do
  a
  return .null

/-- The answer to a question about a device. -/
def answer (device : Value) : DeviceQuestion → Action Value
  | .name => Device.name device
  | .totalMemory => Device.totalMemory device
  | .computeCapability => Device.computeCapability device
  | .uuid => Device.uuid device
  | .busId => Device.busId device
  | .attributeValue code => Device.attributeValue device code
  | .defaultPool => Pool.defaultOf device

/-- An address as a number, or null. -/
def addressValue : Address → Value
  | some n => .int n
  | none => .null

/-- What an operation does. -/
def perform : Operation → Action Value
  | start => silent StartUp.run
  | runtimeVersion => StartUp.runtimeVersion
  | driverVersion => StartUp.driverVersion
  | deviceCount => do return .int (← Device.count)
  | currentDevice => Device.current
  | selectDevice device => Device.select device
  | synchronizeDevice => silent Device.synchronize
  | ask device question => answer device question
  | deviceOfBusId text => Device.ofBusId text
  | peerAttribute code source target => Device.peerAttribute code source target
  | allocate size => Memory.allocate size
  | allocateFlagged size flags => Memory.allocateFlagged size flags
  | allocateOrdered size stream => Memory.allocateOrdered size stream
  | allocateFromPool pool size stream => Memory.allocateFromPool pool size stream
  | free pointer => silent (Memory.free pointer)
  | memoryInfo => Memory.info
  | copyTo pointer target kind => silent (Memory.copyTo pointer target kind)
  | copyFromHost pointer source => silent (Memory.copyFromHost pointer source)
  | copyToHost pointer type out => Memory.copyToHost pointer type out
  | fill pointer value size => silent (Memory.fill pointer value size)
  | createStream => Stream.create
  | queryStream stream => Stream.query stream
  | synchronizeStream stream => silent (Stream.synchronize stream)
  | createPool props => Pool.create props
  | defaultPool device => Pool.defaultFor device
  | trimPool pool keep => silent (Pool.trim pool keep)
  | wrap payload owned => Ownership.constructed (.active payload owned)
  | readHandle resource => do return (← Ownership.active resource).payload.value
  | readAddress pointer => do return addressValue (← Ownership.active pointer).payload.address
  | release resource => silent (Ownership.release resource)
  | enter resource => silent (Ownership.enter resource)
  | leave resource body => silent (Ownership.leave resource body)
  | finalize resource => silent (Ownership.finalize resource)

end Operation
end GpuHandles
