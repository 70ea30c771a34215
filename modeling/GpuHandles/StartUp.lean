import GpuHandles.Memory
/-!
Starting the runtime, and its versions.
-/

namespace GpuHandles.StartUp

/-- Start the runtime; starting it again does nothing. -/
def run : Action Unit := do
  discard (Loading.request (.start 0))
  Action.write .debug .startUp "HIP runtime initialized"

/-- The version of the runtime. -/
def runtimeVersion : Action Value := do
  return .ofVersion (.ofPacked ((← Loading.request .runtimeVersion).storedInt (-1)))

/-- The version of the driver. -/
def driverVersion : Action Value := do
  return .ofVersion (.ofPacked ((← Loading.request .driverVersion).storedInt (-1)))

end GpuHandles.StartUp
