import GpuHandles.Loading
/-!
The life of a resource.

A resource is active from its construction to its release, and it is released at
most once, whichever way comes first: a call, the end of a block, or the end of
its last name.  It is marked before the native side is asked, so that a failed
release is not tried again.  A borrowed resource is marked and nothing else.
-/

namespace GpuHandles

namespace Ownership

/-- A new resource; its number is its place in the order of construction. -/
def construct (r : Resource) : Action Nat := do
  let w ← get
  set { w with resources := w.resources ++ [r] }
  return w.resources.length

/-- A new resource as a value. -/
def constructed (r : Resource) : Action Value := do
  return .handle (← construct r) r.payload.cls

/-- A resource that may be used; a released one may not. -/
def active (id : Nat) : Action Resource := do
  let r := (← get).resource id
  if r.released then throw (.released r.payload.cls) else return r

/-- The native release of a resource, by its class. -/
def releaseNative : Payload → Action Unit
  | .pointer a _ => discard (Loading.request (.free a))
  | .stream a => discard (Loading.request (.streamDestroy a))
  | .pool a _ => discard (Loading.request (.poolDestroy a))
  | .plain _ => throw .noRelease

/-- Release a resource. -/
def release (id : Nat) : Action Unit := do
  let r ← active id
  modify fun w => w.setResource id r.retired
  let w ← get
  if ← Action.ofExcept (w.countsAsTrue r.owned) then
    Action.write .debug .ownership
      ("Releasing " ++ r.payload.cls.subject ++ " " ++ r.payload.handleText w.name)
    releaseNative r.payload
  else return ()

/-- The log line of a release that failed where nothing can be raised. -/
def failed (r : Resource) (when_ : String) (f : Fault) : Action Unit :=
  Action.write .error .ownership
    ("Failed to release " ++ r.payload.cls.subject ++ " " ++ when_ ++ ": " ++ f.message)

/-- Enter a block that holds a resource. -/
def enter (id : Nat) : Action Unit := discard (active id)

/-- Leave a block that holds a resource, with the fault that its body ended in, if it
did.  A status that the release fails with is logged and gives way to the body's fault;
any other failure takes its place. -/
def leave (id : Nat) (body : Option Fault) : Action Unit := do
  let r := (← get).resource id
  if r.released then
    match body with
    | some f => throw f
    | none => return ()
  else
    match body with
    | none => release id
    | some f =>
      match ← Action.attempt (release id) with
      | .error (.status s) => do
        failed r ("after " ++ f.kind) (.status s)
        throw f
      | .error g => throw g
      | .ok () => throw f

/-- The last name of a resource is gone: an active one is released, and a failure is
logged. -/
def finalize (id : Nat) : Action Unit := do
  let r := (← get).resource id
  if r.released then return ()
  else
    match ← Action.attempt (release id) with
    | .error f => failed r "during finalization" f
    | .ok () => return ()

end Ownership
end GpuHandles
