import GpuHandles.Comparison
import GpuHandles.Number.Width
/-!
Properties of memory pools.

A script describes a pool by five values; `image` cuts them to the fields of the
native structure, and `PoolImage.bytes` lays that structure out in its 88 bytes.
`PoolImage.ofBytes?` reads such a layout back.
-/

namespace GpuHandles

/-- A description of a pool, as it was given. -/
structure PoolProps where
  allocationType : Value
  handleTypes : Value
  locationType : Value
  locationId : Value
  maxSize : Value
  deriving Inhabited

/-- The fields of the native structure. -/
structure PoolImage where
  allocationType : Int
  handleTypes : Int
  locationType : Int
  locationId : Int
  maxSize : Nat
  deriving Repr, DecidableEq

namespace PoolImage

/-- Bytes of the structure that carry nothing. -/
def reserved : Nat := 56

/-- A signed four-byte field. -/
def field (n : Int) : List UInt8 := Width.littleEndian 4 (Width.uint32 n)

/-- The structure in memory: four numbers, a null pointer, the size, and zeros. -/
def bytes (p : PoolImage) : List UInt8 :=
  field p.allocationType ++ field p.handleTypes ++ field p.locationType ++ field p.locationId ++
    List.replicate 8 0 ++ Width.littleEndian 8 p.maxSize ++ List.replicate reserved 0

/-- The number in a signed four-byte field. -/
def readField (bs : List UInt8) : Int := Width.int32 (Width.ofLittleEndian (bs.take 4))

/-- The fields of a structure in memory, if its pointer is null and its reserved bytes
are zero. -/
def ofBytes? (bs : List UInt8) : Option PoolImage :=
  if bs.length = 88 ∧ (bs.drop 16).take 8 = List.replicate 8 0 ∧
      bs.drop 32 = List.replicate reserved 0 then
    some ⟨readField bs, readField (bs.drop 4), readField (bs.drop 8), readField (bs.drop 12),
      Width.ofLittleEndian ((bs.drop 24).take 8)⟩
  else none

end PoolImage

namespace PoolProps

/-- A pinned pool on the first device, shared by file descriptor, of the usual size. -/
def standard : PoolProps where
  allocationType := .member .allocationType ⟨some "PINNED", .number 1⟩
  handleTypes := .member .handleType ⟨some "POSIX_FILE_DESCRIPTOR", .number 1⟩
  locationType := .member .locationType ⟨some "DEVICE", .number 1⟩
  locationId := .int 0
  maxSize := .int 0

/-- The description as a value. -/
def toValue (p : PoolProps) : Value :=
  .poolProps p.allocationType p.handleTypes p.locationType p.locationId p.maxSize

/-- The description that a value is. -/
def ofValue? : Value → Option PoolProps
  | .poolProps a b c d e => some ⟨a, b, c, d, e⟩
  | _ => none

def withAllocationType (p : PoolProps) (v : Value) : PoolProps := { p with allocationType := v }

def withHandleTypes (p : PoolProps) (v : Value) : PoolProps := { p with handleTypes := v }

def withLocation (p : PoolProps) (type id : Value) : PoolProps :=
  { p with locationType := type, locationId := id }

/-- A largest size; the one setting that refuses a value, and only a negative one. -/
def withMaxSize (p : PoolProps) (v : Value) : Except Fault PoolProps := do
  if ← v.compare .below (.int 0) then .error (.negativeLimit (v.inSentence Value.nameless))
  else return { p with maxSize := v }

/-- A change to a description. -/
inductive Change where
  | allocationType (v : Value)
  | handleTypes (v : Value)
  | location (type id : Value)
  | maxSize (v : Value)

/-- A description after one change. -/
def apply (p : PoolProps) : Change → Except Fault PoolProps
  | .allocationType v => .ok (p.withAllocationType v)
  | .handleTypes v => .ok (p.withHandleTypes v)
  | .location type id => .ok (p.withLocation type id)
  | .maxSize v => p.withMaxSize v

/-- A description after a chain of changes. -/
def applyAll (p : PoolProps) (changes : List Change) : Except Fault PoolProps :=
  changes.foldlM apply p

/-- The description cut to the native fields. -/
def image (p : PoolProps) : Except Fault PoolImage := do
  let allocationType ← p.allocationType.toWhole
  let handleTypes ← p.handleTypes.toWhole
  let locationType ← p.locationType.toWhole
  let locationId ← p.locationId.toIndex
  let maxSize ← p.maxSize.toIndex
  return ⟨Width.int32 allocationType, Width.int32 handleTypes, Width.int32 locationType,
    Width.int32 locationId, Width.uint64 maxSize⟩

end PoolProps
end GpuHandles
