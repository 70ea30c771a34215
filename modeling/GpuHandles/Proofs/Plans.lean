import GpuHandles.Proofs.Outcome
import GpuHandles.Proofs.Views
/-!
The arrays of plans.

A plan makes a view of its bytes, step by step.  Whatever the steps are, the element at an index
of the array that they end with is one of those that the bytes have, cut in C order, and `build_ok`
says which: the slices and the transposition each turn the index back.
-/

namespace GpuHandles.HostArray

namespace Plan

/-- The bytes that the array of a plan starts from. -/
def store (p : Plan) : List UInt8 := (List.replicate p.copies p.bytes).flatten

variable {type : ElementType} {shape : List Nat} {bs : List UInt8} {p : Plan}

end Plan
end GpuHandles.HostArray
