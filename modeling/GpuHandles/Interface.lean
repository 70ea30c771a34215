import GpuHandles.EntryPoint
/-!
The interface as a whole: its version and the names it offers.
-/

namespace GpuHandles.Interface

/-- The version of the interface. -/
def version : String := "0.1.0"

/-- The names that the interface offers, in the order of their characters. -/
def offered : List String :=
  ["ComputeCapability", "Device", "DeviceAttribute", "DeviceMallocFlag", "DeviceP2PAttribute",
    "ErrorKind", "HipError", "HipPlatform", "LibraryNotFoundError", "MemAllocationHandleType",
    "MemAllocationType", "MemLocationType", "MemPool", "MemPoolProps", "MemoryCopyKind",
    "MemoryPointer", "ReleasedResourceError", "RuntimeVersion", "Stream", "StreamStatus",
    "__version__", "allocate", "allocate_async", "allocate_with_flags", "driver_get_version",
    "free", "get_default_mem_pool", "get_default_platform", "get_device",
    "get_device_by_pci_bus_id", "get_device_count", "get_device_p2p_attribute", "initialize",
    "is_amd_available", "is_nvidia_available", "library", "mem_get_info", "runtime_get_version",
    "set_device", "synchronize"]

/-- The symbols of the native side, in the order of their characters. -/
def symbols : List String := (EntryPoint.all.map EntryPoint.name).mergeSort fun a b => !(b < a)

end GpuHandles.Interface
