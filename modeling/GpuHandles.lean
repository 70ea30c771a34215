import GpuHandles.BusId
import GpuHandles.Comparison
import GpuHandles.Device
import GpuHandles.DeviceSet
import GpuHandles.Discovery
import GpuHandles.Discovery.Question
import GpuHandles.EntryPoint
import GpuHandles.Enumeration
import GpuHandles.Fault
import GpuHandles.Host
import GpuHandles.HostArray.Basic
import GpuHandles.HostArray.Difference
import GpuHandles.HostArray.Element
import GpuHandles.HostArray.ElementBlock
import GpuHandles.HostArray.ElementType
import GpuHandles.HostArray.OfValue
import GpuHandles.HostArray.Plan
import GpuHandles.HostArray.Printed
import GpuHandles.HostArray.Scalar
import GpuHandles.Interface
import GpuHandles.Loading
import GpuHandles.Lookup
import GpuHandles.Machine.Basic
import GpuHandles.Machine.Snapshot
import GpuHandles.Machine.Table
import GpuHandles.Main
import GpuHandles.Memory
import GpuHandles.NativeCall
import GpuHandles.Number.Basic
import GpuHandles.Number.Binary
import GpuHandles.Number.Complex
import GpuHandles.Number.Power
import GpuHandles.Number.Reading
import GpuHandles.Number.Remainder
import GpuHandles.Number.Shortest
import GpuHandles.Number.Width
import GpuHandles.Operation
import GpuHandles.Ownership
import GpuHandles.Path
import GpuHandles.Pool
import GpuHandles.PoolProps
import GpuHandles.Proofs.Agreement
import GpuHandles.Proofs.AllocationSize
import GpuHandles.Proofs.Apart
import GpuHandles.Proofs.Bare
import GpuHandles.Proofs.BorrowedPools
import GpuHandles.Proofs.Bounds
import GpuHandles.Proofs.Buffers
import GpuHandles.Proofs.BusIdLookup
import GpuHandles.Proofs.BusIdMatches
import GpuHandles.Proofs.BusIds
import GpuHandles.Proofs.ByteStore
import GpuHandles.Proofs.Calls
import GpuHandles.Proofs.CandidatePaths
import GpuHandles.Proofs.Change
import GpuHandles.Proofs.Cleanup
import GpuHandles.Proofs.Composition
import GpuHandles.Proofs.CreatedPools
import GpuHandles.Proofs.CurrentDevice
import GpuHandles.Proofs.DefaultPools
import GpuHandles.Proofs.DeviceBytes
import GpuHandles.Proofs.DeviceNames
import GpuHandles.Proofs.DeviceNumbers
import GpuHandles.Proofs.Effect
import GpuHandles.Proofs.EmptyVariables
import GpuHandles.Proofs.EncodedText
import GpuHandles.Proofs.FailedCall
import GpuHandles.Proofs.FailedOperation
import GpuHandles.Proofs.FailedRelease
import GpuHandles.Proofs.FillGate
import GpuHandles.Proofs.Fitting
import GpuHandles.Proofs.Frame
import GpuHandles.Proofs.GivenArray
import GpuHandles.Proofs.HeldHandles
import GpuHandles.Proofs.HostBytes
import GpuHandles.Proofs.LazyLoading
import GpuHandles.Proofs.LibrarySearch
import GpuHandles.Proofs.LoadAttempts
import GpuHandles.Proofs.LoadedHistory
import GpuHandles.Proofs.LoadedRun
import GpuHandles.Proofs.Lockstep
import GpuHandles.Proofs.MemoryAccounts
import GpuHandles.Proofs.MemoryInUse
import GpuHandles.Proofs.Mirror
import GpuHandles.Proofs.Narration
import GpuHandles.Proofs.NewArray
import GpuHandles.Proofs.NormalPath
import GpuHandles.Proofs.NumberKeys
import GpuHandles.Proofs.NumericValues
import GpuHandles.Proofs.OtherHosts
import GpuHandles.Proofs.Outcome
import GpuHandles.Proofs.Passage
import GpuHandles.Proofs.Plans
import GpuHandles.Proofs.Platforms
import GpuHandles.Proofs.PoolDescriptions
import GpuHandles.Proofs.PoolTrims
import GpuHandles.Proofs.ReadBack
import GpuHandles.Proofs.RelativeRoots
import GpuHandles.Proofs.ReleaseEnd
import GpuHandles.Proofs.ReleaseOrder
import GpuHandles.Proofs.ReleaseReports
import GpuHandles.Proofs.Requests
import GpuHandles.Proofs.RoundTrip
import GpuHandles.Proofs.Session
import GpuHandles.Proofs.SingleRelease
import GpuHandles.Proofs.StatusCodes
import GpuHandles.Proofs.StoredFailures
import GpuHandles.Proofs.TourEnd
import GpuHandles.Proofs.TourMemory
import GpuHandles.Proofs.TourRun
import GpuHandles.Proofs.Transfer
import GpuHandles.Proofs.Twin
import GpuHandles.Proofs.UseAfterRelease
import GpuHandles.Proofs.Uses
import GpuHandles.Proofs.VendorTools
import GpuHandles.Proofs.Versions
import GpuHandles.Proofs.Views
import GpuHandles.Proofs.WholeConversion
import GpuHandles.Quantity
import GpuHandles.Resource
import GpuHandles.Script.Answer
import GpuHandles.Script.Expression
import GpuHandles.Script.Member
import GpuHandles.Script.Run
import GpuHandles.Script.Sharing
import GpuHandles.Script.Step
import GpuHandles.Signature
import GpuHandles.StartUp
import GpuHandles.Status
import GpuHandles.Stream
import GpuHandles.Text.Ascii
import GpuHandles.Text.Blank
import GpuHandles.Text.ByteCount
import GpuHandles.Text.CaseTable
import GpuHandles.Text.Digest
import GpuHandles.Text.Digit
import GpuHandles.Text.Hex
import GpuHandles.Text.IntegerLiteral
import GpuHandles.Text.Lowercase
import GpuHandles.Text.Printable
import GpuHandles.Text.Quoted
import GpuHandles.Text.Utf8
import GpuHandles.Tour
import GpuHandles.Value
import GpuHandles.Version
import GpuHandles.World
