/-!
The native interface: its entry points and the types of their parameters.
-/

namespace GpuHandles

/-- A function of the native library. -/
inductive EntryPoint where
  | start
  | runtimeVersion
  | driverVersion
  | deviceCount
  | currentDevice
  | setDevice
  | synchronize
  | deviceName
  | totalMemory
  | computeCapability
  | deviceUuid
  | busId
  | deviceByBusId
  | deviceAttribute
  | peerAttribute
  | defaultPool
  | allocate
  | allocateFlagged
  | allocateOrdered
  | free
  | copy
  | fill
  | memoryInfo
  | streamCreate
  | streamDestroy
  | streamQuery
  | streamSynchronize
  | poolCreate
  | poolDestroy
  | poolTrim
  | allocateFromPool
  deriving Repr, DecidableEq

/-- A type of the native interface. -/
inductive NativeType where
  | int
  | unsigned
  | size
  | pointer
  | chars
  | uuid
  | poolProps
  | reference (target : NativeType)
  deriving Repr, DecidableEq

/-- The written form of a native type. -/
def NativeType.text : NativeType → String
  | int => "int"
  | unsigned => "unsigned"
  | size => "size_t"
  | pointer => "void*"
  | chars => "char*"
  | uuid => "hipUUID"
  | poolProps => "hipMemPoolProps"
  | reference t => "*" ++ t.text

namespace EntryPoint

/-- Every entry point, in the order of its declaration. -/
def all : List EntryPoint :=
  [start, runtimeVersion, driverVersion, deviceCount, currentDevice, setDevice, synchronize,
    deviceName, totalMemory, computeCapability, deviceUuid, busId, deviceByBusId, deviceAttribute,
    peerAttribute, defaultPool, allocate, allocateFlagged, allocateOrdered, free, copy, fill,
    memoryInfo, streamCreate, streamDestroy, streamQuery, streamSynchronize, poolCreate,
    poolDestroy, poolTrim, allocateFromPool]

/-- The symbol of an entry point. -/
def name : EntryPoint → String
  | start => "hipInit"
  | runtimeVersion => "hipRuntimeGetVersion"
  | driverVersion => "hipDriverGetVersion"
  | deviceCount => "hipGetDeviceCount"
  | currentDevice => "hipGetDevice"
  | setDevice => "hipSetDevice"
  | synchronize => "hipDeviceSynchronize"
  | deviceName => "hipDeviceGetName"
  | totalMemory => "hipDeviceTotalMem"
  | computeCapability => "hipDeviceComputeCapability"
  | deviceUuid => "hipDeviceGetUuid"
  | busId => "hipDeviceGetPCIBusId"
  | deviceByBusId => "hipDeviceGetByPCIBusId"
  | deviceAttribute => "hipDeviceGetAttribute"
  | peerAttribute => "hipDeviceGetP2PAttribute"
  | defaultPool => "hipDeviceGetDefaultMemPool"
  | allocate => "hipMalloc"
  | allocateFlagged => "hipExtMallocWithFlags"
  | allocateOrdered => "hipMallocAsync"
  | free => "hipFree"
  | copy => "hipMemcpy"
  | fill => "hipMemset"
  | memoryInfo => "hipMemGetInfo"
  | streamCreate => "hipStreamCreate"
  | streamDestroy => "hipStreamDestroy"
  | streamQuery => "hipStreamQuery"
  | streamSynchronize => "hipStreamSynchronize"
  | poolCreate => "hipMemPoolCreate"
  | poolDestroy => "hipMemPoolDestroy"
  | poolTrim => "hipMemPoolTrimTo"
  | allocateFromPool => "hipMallocFromPoolAsync"

/-- The entry point with a symbol. -/
def ofName? (s : String) : Option EntryPoint := all.find? fun e => e.name == s

/-- The types of the parameters; every entry point answers with an `int`. -/
def parameters : EntryPoint → List NativeType
  | start => [.unsigned]
  | runtimeVersion | driverVersion | deviceCount | currentDevice => [.reference .int]
  | setDevice => [.int]
  | synchronize => []
  | deviceName | busId => [.chars, .int, .int]
  | totalMemory => [.reference .size, .int]
  | computeCapability => [.reference .int, .reference .int, .int]
  | deviceUuid => [.reference .uuid, .int]
  | deviceByBusId => [.reference .int, .chars]
  | deviceAttribute => [.reference .int, .int, .int]
  | peerAttribute => [.reference .int, .int, .int, .int]
  | defaultPool => [.reference .pointer, .int]
  | allocate => [.reference .pointer, .size]
  | allocateFlagged => [.reference .pointer, .size, .unsigned]
  | allocateOrdered => [.reference .pointer, .size, .pointer]
  | free => [.pointer]
  | copy => [.pointer, .pointer, .size, .int]
  | fill => [.pointer, .int, .size]
  | memoryInfo => [.reference .size, .reference .size]
  | streamCreate => [.reference .pointer]
  | streamDestroy | streamQuery | streamSynchronize => [.pointer]
  | poolCreate => [.reference .pointer, .reference .poolProps]
  | poolDestroy => [.pointer]
  | poolTrim => [.pointer, .size]
  | allocateFromPool => [.reference .pointer, .size, .pointer, .pointer]

/-- The type of the answer and those of the parameters, written out. -/
def prototype (e : EntryPoint) : List String := (NativeType.int :: e.parameters).map NativeType.text

end EntryPoint
end GpuHandles
