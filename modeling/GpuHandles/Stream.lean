import GpuHandles.Memory
/-!
Streams: queues of work in order.
-/

namespace GpuHandles.Stream

/-- A new stream. -/
def create : Action Value := do
  let out ← Loading.request .streamCreate
  let v ← Ownership.constructed (.owning (.stream out.storedAddress))
  Action.write .debug .stream ("Created stream " ++ Payload.addressText out.storedAddress)
  return v

/-- The state of a stream as a value. -/
def statusValue (name word : String) : Value := .member .streamStatus ⟨some name, .word word⟩

/-- Has all work on a stream ended?  Work that has not is no failure. -/
def query (id : Nat) : Action Value := do
  let r ← Ownership.active id
  let l ← Loading.resolve .streamQuery
  let (code, _) ← Loading.invoke l (.streamQuery r.payload.address)
  if code = Status.Kind.notReady.code then return statusValue "NOT_READY" "not_ready"
  else
    Loading.check code
    return statusValue "COMPLETE" "complete"

/-- Wait until all work on a stream has ended. -/
def synchronize (id : Nat) : Action Unit := do
  let r ← Ownership.active id
  discard (Loading.request (.streamSynchronize r.payload.address))

end GpuHandles.Stream
