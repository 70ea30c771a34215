import GpuHandles.Memory
/-!
Memory pools: one's own, made from a description, and a device's default pool,
which is only borrowed.
-/

namespace GpuHandles.Pool

/-- The description that a pool is made from; a value that counts as false stands for
the usual one. -/
def description (w : World) (v : Value) : Except Fault PoolProps :=
  match PoolProps.ofValue? v with
  | some p => .ok p
  | none => do if ← w.countsAsTrue v then v.missing "to_native" else return .standard

/-- A new pool. -/
def create (props : Value) : Action Value := do
  let p ← Action.ofExcept (description (← get) props)
  let image ← Action.ofExcept p.image
  let out ← Loading.request (.poolCreate image)
  let v ← Ownership.constructed (.owning (.pool out.storedAddress (some p)))
  Action.write .debug .pool
    ("Created memory pool " ++ Payload.addressText out.storedAddress ++ " on device " ++
      toString (p.locationId.index?.getD 0))
  return v

/-- The default pool of a device by its number. -/
def defaultOf (device : Value) : Action Value := do
  let out ← Loading.request (.defaultPool device)
  Ownership.constructed (.borrowing (.pool out.storedAddress none))

/-- The number of a device, given as such or as a whole number. -/
def deviceId : Value → Except Fault Value
  | .device id => .ok id
  | .truth b => .error (.deviceKind (Value.truth b).typeName)
  | v =>
    match v.integer? with
    | some _ => .ok v
    | none => .error (.deviceKind v.typeName)

/-- The default pool of a device. -/
def defaultFor (device : Value) : Action Value := do
  defaultOf (← Action.ofExcept (deviceId device))

/-- Give unused memory back, but keep some bytes. -/
def trim (id : Nat) (keep : Value) : Action Unit := do
  let r ← Ownership.active id
  let w ← get
  if ← Action.ofExcept (keep.compare .below (.int 0)) then
    throw (.negativeKeep (keep.inSentence w.name))
  else discard (Loading.request (.poolTrim r.payload.address keep))

end GpuHandles.Pool
