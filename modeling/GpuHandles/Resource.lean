import GpuHandles.PoolProps
/-!
Owned handles.

A resource is what a script holds of something native: its address, whether it
is answerable for the release, and whether it has been released.  A resource is
made only after the native side has created what it stands for.
-/

namespace GpuHandles

/-- What a resource stands for. -/
inductive Payload where
  /-- device memory, with the size that it was made with -/
  | pointer (address : Address) (size : Value)
  | stream (address : Address)
  /-- a pool, with the description it was made from -/
  | pool (address : Address) (props : Option PoolProps)
  /-- a value that stands for nothing native -/
  | plain (value : Value)
  deriving Inhabited

namespace Payload

/-- The class of handle. -/
def cls : Payload → HandleClass
  | pointer .. => .pointer
  | stream _ => .stream
  | pool .. => .pool
  | plain _ => .plain

/-- The native address, if there is one. -/
def address : Payload → Address
  | pointer a _ | stream a | pool a _ => a
  | plain _ => none

/-- The handle as a value. -/
def value : Payload → Value
  | pointer a _ | stream a | pool a _ => .address a
  | plain v => v

/-- The size of device memory. -/
def size : Payload → Value
  | pointer _ n => n
  | _ => .int 0

/-- The text of an address. -/
def addressText : Address → String
  | some n => Text.hexNumber n
  | none => "None"

/-- The text of a value that serves as a handle: whole numbers in hexadecimal.  `name` gives
the texts of other resources. -/
def valueText (name : Nat → String) : Value → String
  | .address a => addressText a
  | .member _ ⟨_, .number n⟩ => Text.hexNumber n
  | .member _ ⟨_, .word s⟩ => s
  | v =>
    match v.integer? with
    | some n => Text.hexNumber n
    | none => v.plain name

/-- The text of the handle. -/
def handleText (name : Nat → String) : Payload → String
  | pointer a _ | stream a | pool a _ => addressText a
  | plain v => valueText name v

end Payload

/-- A handle with its state. -/
structure Resource where
  payload : Payload
  /-- is it answerable for the release?  A value that counts as true says so -/
  owned : Value
  released : Bool
  deriving Inhabited

namespace Resource

/-- A resource before its release. -/
def active (payload : Payload) (owned : Value) : Resource := ⟨payload, owned, false⟩

/-- A resource that is answerable for the release of what was made for it. -/
def owning (payload : Payload) : Resource := active payload (.truth true)

/-- A resource around something that belongs to the runtime. -/
def borrowing (payload : Payload) : Resource := active payload (.truth false)

/-- A resource after its release. -/
def retired (r : Resource) : Resource := { r with released := true }

/-- The printed form: class, handle, size of device memory, and state. -/
def shown (name : Nat → String) (r : Resource) : String :=
  let size := match r.payload with
    | .pointer _ n => " size=" ++ n.spoken name
    | _ => ""
  "<" ++ r.payload.cls.name ++ " " ++ r.payload.handleText name ++ size ++
    (if r.released then " released>" else " active>")

end Resource
end GpuHandles
