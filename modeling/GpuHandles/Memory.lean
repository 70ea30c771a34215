import GpuHandles.HostArray.OfValue
import GpuHandles.HostArray.Plan
import GpuHandles.Ownership
/-!
Device memory: allocation, copies, fills and the accounts.

Every operation checks what it can before the native side is asked: that its
handles are active, that sizes are whole numbers, and that what it moves fits the
allocation.  Nothing is copied or filled when there is nothing to move.
-/

namespace GpuHandles

namespace Output

/-- The address that a call stored. -/
def storedAddress : Output → Address
  | .address a => a
  | _ => none

/-- The number that a call stored in an `int`, which held `before`. -/
def storedInt (before : Int) : Output → Int
  | .int n => Width.int32 n
  | _ => before

/-- The number that a call stored in a size. -/
def storedSize : Output → Nat
  | .int n => Width.uint64 n
  | _ => 0

/-- The bytes that a call stored. -/
def storedBytes : Output → List UInt8
  | .bytes bs => bs
  | _ => []

end Output

namespace Memory

/-- A size as it is given: a whole number, not a truth value, and not negative. -/
def validSize (v : Value) : Except Fault Int :=
  let given := match v with
    | .truth _ => none
    | .scalar t _ n => if t.isWhole then n.whole? else none
    | v => v.integer?
  match given with
  | some n => if n < 0 then .error (.negativeSize n) else .ok n
  | none => .error (.sizeKind v.typeName)

/-- An allocation by one of the entry points that take a size. -/
def allocateBy (call : Int → NativeCall) (size : Value) : Action Value := do
  let size ← Action.ofExcept (validSize size)
  let out ← Loading.request (call size)
  let v ← Ownership.constructed (.owning (.pointer out.storedAddress (.int size)))
  Action.write .debug .memory
    ((call size).entryPoint.name ++ " allocated " ++ toString size ++ " bytes at " ++
      Payload.addressText out.storedAddress)
  return v

/-- An allocation on the current device. -/
def allocate (size : Value) : Action Value := allocateBy .allocate size

/-- An allocation with flags. -/
def allocateFlagged (size flags : Value) : Action Value := do
  let flags ← Action.ofExcept flags.toWhole
  allocateBy (fun n => .allocateFlagged n flags) size

/-- The native handle of a value that has one. -/
def handleOf : Value → Action Value
  | .handle id _ => do return (← Ownership.active id).payload.value
  | v => Action.ofExcept (v.missing "handle")

/-- An allocation in the order of a stream. -/
def allocateOrdered (size stream : Value) : Action Value := do
  let handle ← handleOf stream
  allocateBy (fun n => .allocateOrdered n handle) size

/-- An allocation from a pool, in the order of a stream. -/
def allocateFromPool (id : Nat) (size stream : Value) : Action Value := do
  let pool ← Ownership.active id
  let handle ← handleOf stream
  allocateBy (fun n => .allocateFromPool n pool.payload.address handle) size

/-- Release an allocation. -/
def free : Value → Action Unit
  | .handle id .pointer => Ownership.release id
  | v => throw (.pointerKind v.typeName)

/-- Free and total memory. -/
def info : Action Value := do
  let (free, total) := match ← Loading.request .memoryInfo with
    | .pair a b => (Width.uint64 a, Width.uint64 b)
    | _ => (0, 0)
  return .tuple [.int free, .int total]

/-- The failure of more bytes than an allocation has, in a sentence that says how many. -/
def tooMany (what : String) : Option String → Option String → Fault
  | some bytes, some size =>
    .ofKind .invalidValue
      (what ++ " of " ++ bytes ++ " bytes exceeds " ++ size ++ "-byte allocation")
  | _, _ => .longNumber

/-- Refuse more bytes than an allocation has. -/
def checkFits (size bytes : Value) (what : String) : Action Unit := do
  let w ← get
  if ← Action.ofExcept (bytes.compare .above size) then
    throw (tooMany what (bytes.inSentence w.name) (size.inSentence w.name))
  else return ()

/-- The address of a value that is an allocation. -/
def addressOf : Value → Action (Resource × Address)
  | .handle id .pointer => do
    let r ← Ownership.active id
    return (r, r.payload.address)
  | v => Action.ofExcept (v.missing "address")

/-- The failure of a copy that has nothing on one side. -/
def nullCopy : Fault := .ofKind .invalidValue "Cannot copy to or from a null device pointer"

/-- Copy a whole allocation to the start of another. -/
def copyTo (id : Nat) (target kind : Value) : Action Unit := do
  let source ← Ownership.active id
  if source.payload.address.isNone then throw nullCopy
  else
    let (destination, address) ← addressOf target
    if address.isNone then throw nullCopy
    else
      checkFits destination.payload.size source.payload.size "Copy"
      let l ← Loading.resolve .copy
      let kind ← Action.ofExcept kind.toWhole
      let (code, _) ← Loading.invoke l
        (.copy (.device address) (.device source.payload.address) source.payload.size kind)
      Loading.check code

/-! ## Copies to and from the host -/

/-- The kind of a copy from the host to a device. -/
def hostToDevice : Int := 1

/-- The kind of a copy from a device to the host. -/
def deviceToHost : Int := 2

/-- Copy the elements of a host array to the start of an allocation. -/
def copyFromHost (id : Nat) (source : Value) : Action Unit := do
  let r ← Ownership.active id
  let host ← Action.ofExcept (HostArray.ofValue source)
  checkFits r.payload.size (.int host.byteCount) "Host array"
  if host.byteCount = 0 then return ()
  else
    discard (Loading.request
      (.copy (.device r.payload.address) (.host host.bytes) (.int host.byteCount) hostToDevice))

/-- The elements that a value names, or blocks of them; `name` gives the texts of resources. -/
def elementType (name : Nat → String) : Value → Except Fault ElementBlock
  | .null => .ok ElementType.float64
  | .text s => ElementBlock.ofName s
  | .scalar t .. => .ok t
  | .array _ => .error .typeOfArray
  | .list [] => .ok (ElementType.raw 0)
  | .list (v :: _) => .error (.badField (v.shown name))
  | v =>
    match v.items? with
    | some [item, _] => .error (.notType (item.shown name))
    | some items => .error (.badPair items.length)
    | none => .error (.notType (v.shown name))

/-- A new array for a whole number of bytes. -/
def arrayOfWhole (size : Int) (shown : Option String) (type : ElementBlock) :
    Except Fault HostArray :=
  if type.size = 0 then .error .emptyElement
  else if size % type.size ≠ 0 then .error (.partialElement shown type)
  else if size < 0 then .error .negativeShape
  else
    let n := (size / type.size).toNat
    if 2 ^ 63 ≤ n then .error .hugeShape
    else if 2 ^ 63 ≤ size then .error .hugeArray
    else if addressable ≤ size then .error (.noMemory (n :: type.axes) type.item)
    else .ok (.blank type n)

/-- The fault of asking for as many elements as a floating number of bytes holds. -/
def arrayOfReal (x : Binary) (v : Value) (shown : Option String) (type : ElementBlock) : Fault :=
  if type.size = 0 then .realRemainder
  else
    match x.truncate with
    | .ok n =>
      if x.order (.exact n) == some .eq ∧ n % type.size = 0 then .notIndex v.qualifiedType
      else .partialElement shown type
    | .error _ => .partialElement shown type

/-- A new array of a type for a whole allocation of some size. -/
def arrayFor (name : Nat → String) (size : Value) (type : ElementBlock) :
    Except Fault HostArray :=
  let shown := size.inSentence name
  match size.index?, size.number?, size with
  | some n, _, _ => arrayOfWhole n shown type
  | none, some (.real x), v => .error (arrayOfReal x v shown type)
  | none, _, .text _ => .error .noPlaces
  | none, _, v => .error (.noRemainder "%" v.qualifiedType "int")

/-- The array that a copy to the host fills: the given one, or a new one of a type. -/
def targetArray (r : Resource) (type out : Value) : Action HostArray :=
  match out with
  | .null => do
    let w ← get
    let type ← Action.ofExcept (elementType w.name type)
    Action.ofExcept (arrayFor w.name r.payload.size type)
  | .array a => do
    if !a.isContiguous || !a.writable then throw .badTarget
    else
      checkFits r.payload.size (.int a.byteCount) "Output array"
      return a
  | .scalar .. => throw .badTarget
  | v => Action.ofExcept (v.missing "flags")

/-- An array that a copy has filled.  It keeps its number, or takes one that no array had
before, since every copy makes the trace longer. -/
def numbered (w : World) (a : HostArray) : HostArray :=
  if a.identity = 0 then { a with identity := w.trace.length } else a

/-- Copy the start of an allocation to a host array. -/
def copyToHost (id : Nat) (type out : Value) : Action Value := do
  let r ← Ownership.active id
  let target ← targetArray r type out
  if target.byteCount = 0 then return .array target
  else
    match ← Loading.request
        (.copy (.host []) (.device r.payload.address) (.int target.byteCount) deviceToHost) with
    | .bytes bs => return .array (numbered (← get) (target.withBytes bs))
    | _ => return .array target

/-! ## Fills and lengths -/

/-- Refuse a value that is not a number from 0 to 255. -/
def checkByte (v : Value) : Action Unit := do
  let w ← get
  let enough ← Action.ofExcept ((Value.int 0).compare .atMost v)
  if ← (if enough then Action.ofExcept (v.compare .atMost (.int 255)) else pure false) then
    return ()
  else throw (.notByte (v.inSentence w.name))

/-- Fill the start of an allocation with one byte; no size means all of it. -/
def fill (id : Nat) (value size : Value) : Action Unit := do
  let r ← Ownership.active id
  checkByte value
  let size ← match size with
    | .null => pure r.payload.size
    | v => Value.int <$> Action.ofExcept (validSize v)
  checkFits r.payload.size size "memset"
  if ← Action.ofExcept (size.sameAs (.int 0)) then return ()
  else discard (Loading.request (.fill r.payload.address value size))

/-- The length of a value as a count. -/
def length (v : Value) : Action Int := do
  Action.ofExcept (v.length (← get).sizeOf)

end Memory
end GpuHandles
