import GpuHandles.BusId
import GpuHandles.Machine.Table
import GpuHandles.NativeCall
import GpuHandles.Number.Power
/-!
The machine behind the native interface.

A machine keeps what the native side of the interface keeps: the live
allocations with their bytes, the streams and pools, the current device, and a
counter from which every new handle is taken.  It also holds the answers that a
test has set up: codes that the next call of an entry point gives, and what the
devices report about themselves.
-/

namespace GpuHandles

/-- What the native side remembers of a pool. -/
structure PoolRecord where
  props : PoolImage
  /-- the least number of bytes that the last trim left in place -/
  trimmedTo : Option Value

/-- What devices report about themselves, where it is not worked out from their
number. -/
structure Reports where
  runtimeVersion : Int
  driverVersion : Int
  name : Option (List UInt8)
  busId : Option (List UInt8)
  uuid : Option (List UInt8)
  capability : Int × Int
  attributes : Table Int Int
  peer : Int
  memoryInfo : Option (Int × Int)
  deriving Repr

namespace Reports

/-- What devices report unless a test says otherwise. -/
def standard : Reports where
  runtimeVersion := 60032830
  driverVersion := 60032830
  name := none
  busId := none
  uuid := none
  capability := (9, 4)
  attributes := [(56, 1024), (63, 304)]
  peer := 1
  memoryInfo := none

end Reports

/-- The bytes that addresses reach. -/
def addressable : Nat := 2 ^ 47

/-- The state of the native side. -/
structure Machine where
  deviceCount : Int
  totalMemory : Int
  currentDevice : Value
  /-- the status that a new stream has -/
  streamStatus : Int
  /-- the answer to a request for no bytes -/
  emptyCode : Int
  /-- symbols that the library does not have -/
  missing : List String
  reports : Reports
  initialized : Bool
  /-- codes that the next calls give, by entry point -/
  pending : Table EntryPoint Int
  /-- the handle that was given out last -/
  lastHandle : Nat
  allocations : Table Nat (List UInt8)
  streams : Table Nat Int
  pools : Table Nat PoolRecord
  /-- the pools of devices, by device -/
  defaultPools : List (Value × Nat)

/-- What a call stores besides its code. -/
inductive Output where
  | nothing
  | int (n : Int)
  | pair (a b : Int)
  | address (a : Address)
  | bytes (bs : List UInt8)
  deriving Repr, DecidableEq

/-- The answer to a call: a code with what was stored, or a fault inside the machine. -/
inductive Reply where
  | code (code : Int) (out : Output)
  | fault (f : Fault)

namespace Machine

/-- A machine before its first call. -/
def fresh : Machine where
  deviceCount := 2
  totalMemory := 1048576
  currentDevice := .int 0
  streamStatus := 0
  emptyCode := 0
  missing := []
  reports := .standard
  initialized := false
  pending := []
  lastHandle := 0x7f0000000000
  allocations := []
  streams := []
  pools := []
  defaultPools := []

/-- Is a value the number of a device?  Numbers of all kinds are, where they lie in the
range. -/
def hasDevice (m : Machine) (device : Value) : Except Fault Bool := do
  if ← (Value.int 0).compare .atMost device then device.compare .below (.int m.deviceCount)
  else return false

theorem hasDevice_int (m : Machine) (n : Int) :
    m.hasDevice (.int n) = .ok (decide (0 ≤ n ∧ n < m.deviceCount)) := by
  unfold hasDevice
  rw [Value.compare_int, Value.compare_int]
  change (if _ then _ else _) = _
  by_cases h : 0 ≤ n
  · have h' : Relation.holds .atMost (some (compare 0 n)) = true := by
      rcases Int.lt_or_eq_of_le h with h | h
      · simp [Relation.holds, Int.compare_eq_lt.2 h]
      · simp [Relation.holds, ← h]
    rw [if_pos h']
    by_cases g : n < m.deviceCount
    · simp [Relation.holds, Int.compare_eq_lt.2 g, h, g]
    · have : compare n m.deviceCount ≠ .lt := fun e => g (Int.compare_eq_lt.1 e)
      simp [Relation.holds, this, g]
  · have h' : ¬ Relation.holds .atMost (some (compare 0 n)) = true := by
      simp [Relation.holds, Int.compare_eq_gt.2 (Int.not_le.1 h)]
    rw [if_neg h']
    simp [h, pure, Except.pure]

/-- The handle that will be given out next. -/
def nextHandle (m : Machine) : Nat := m.lastHandle + 0x1000

/-- The machine once that handle has been given out. -/
def taken (m : Machine) : Machine := { m with lastHandle := m.nextHandle }

/-- Bytes in use. -/
def usedMemory (m : Machine) : Nat := (m.allocations.map fun e => e.2.length).sum

/-- Bytes left. -/
def freeMemory (m : Machine) : Int := m.totalMemory - m.usedMemory

/-- The code set up for an entry point, which is then used up. -/
def takePending (m : Machine) (e : EntryPoint) : Int × Machine :=
  ((m.pending.get? e).getD 0, { m with pending := m.pending.erase e })

/-- A code for the next call of an entry point; the last one set counts. -/
def failNext (m : Machine) (e : EntryPoint) (code : Int) : Machine :=
  { m with pending := m.pending.put e code }

/-- A failure with a code of the interface. -/
def refuse (m : Machine) (k : Status.Kind) : Reply × Machine := (.code k.code .nothing, m)

/-- Success with something stored. -/
def answer (m : Machine) (out : Output) : Reply × Machine := (.code 0 out, m)

/-- A reply that rests on something that may fail inside the machine. -/
def after {α : Type} (m : Machine) (result : Except Fault α) (reply : α → Reply × Machine) :
    Reply × Machine :=
  match result with
  | .ok a => reply a
  | .error f => (.fault f, m)

/-- A device's question is answered only if the device is there. -/
def onDevice (m : Machine) (device : Value) (reply : Unit → Reply × Machine) : Reply × Machine :=
  m.after (m.hasDevice device) fun known =>
    if known then reply () else m.refuse .invalidDevice

/-- Bytes cut or filled with zeros to the length of a buffer. -/
def fillBuffer (length : Nat) (bs : List UInt8) : List UInt8 :=
  bs.take length ++ List.replicate (length - bs.length) 0

/-- The name of a device in its buffer. -/
def nameBuffer (m : Machine) (length : Int) (device : Value) : List UInt8 :=
  match m.reports.name with
  | some bs => fillBuffer length.toNat bs
  | none =>
    let text := ("Fake Instinct " ++ device.spoken Value.nameless).toList.map fun c =>
      UInt8.ofNat c.toNat
    fillBuffer length.toNat (text.take (length.toNat - 1))

/-- An element of an array three further on, in its own type. -/
def threeFurther (type : ElementType) (n : Int) : Int :=
  match type with
  | .whole true w _ => Width.signed (8 * w) (n + 3)
  | .whole false w _ => Width.unsigned (8 * w) (n + 3)
  | _ => n + 3

/-- The fault of a number that has no digits to the base of sixteen. -/
def noDigits : Number → Fault
  | .complex .. => .wholeFormat 'x' "complex"
  | _ => .wholeFormat 'x' "float"

/-- The number of the bus for an element of an array. -/
def busOfElement (type : ElementType) (n : Number) : Except Fault Int :=
  match n.whole? with
  | some k => .ok (threeFurther type k)
  | none => .error (noDigits n)

/-- The number of the bus that a device sits on: three more than its own. -/
def busNumber (device : Value) : Except Fault Int :=
  match device with
  | .array a =>
    if a.shape.isEmpty then
      match a.onlyElement? with
      | some (.number n) => busOfElement a.type n
      | _ => .error (.wholeFormat 'x' "float")
    else .error .arrayFormat
  | .scalar t _ n => busOfElement t n
  | v =>
    match v.integer? with
    | some n => .ok (n + 3)
    | none => .error (.wholeFormat 'x' "float")

/-- The text of a bus id in a buffer; a longer one is a fault. -/
def busIdText (length : Int) (device : Value) : Except Fault (List UInt8) := do
  let text := BusId.ofBus (← busNumber device)
  if length.toNat < text.length then .error .bufferOverflow
  else return fillBuffer length.toNat text

/-- The bus id of a device in its buffer: the one set up, once there is one to replace. -/
def busIdReply (m : Machine) (length : Int) (device : Value) : Reply × Machine :=
  m.after (busIdText length device) fun text =>
    m.answer (.bytes ((m.reports.busId.map (fillBuffer length.toNat)).getD text))

/-- A value as one byte. -/
def byteOf (v : Value) : Except Fault UInt8 := do
  let n ← v.toIndex
  if 0 ≤ n ∧ n < 256 then return UInt8.ofNat n.toNat else .error .byteOverflow

/-- The sixteen bytes of a device's identifier: those set up for all devices, or its number, a
zero, and one to fourteen. -/
def uuidReply (m : Machine) (device : Value) : Reply × Machine :=
  match m.reports.uuid with
  | some bs => m.answer (.bytes (fillBuffer 16 bs))
  | none =>
    m.after (byteOf device) fun b =>
      m.answer (.bytes (b :: 0 :: (List.range 14).map fun i => UInt8.ofNat (i + 1)))

/-- The fault of a buffer that cannot be made: it has more bytes than can be counted, or than
addresses reach. -/
def bufferFault? (size : Int) : Option Fault :=
  if 2 ^ 63 ≤ size then some .lengthOverflow
  else if addressable ≤ size then some .noBuffer
  else none

/-- Zeros behind a new handle, which is taken before they are stored. -/
def placeZeros (m : Machine) (size : Int) : Reply × Machine :=
  match bufferFault? size with
  | some f => (.fault f, m.taken)
  | none =>
    ({ m.taken with
      allocations := m.allocations ++ [(m.nextHandle, List.replicate size.toNat 0)] }).answer
        (.address (some m.nextHandle))

/-- An allocation of `size` bytes: nothing for no bytes, a failure if too few are left,
otherwise zeros behind a new handle. -/
def reserve (m : Machine) (size : Int) : Reply × Machine :=
  if size = 0 then (.code m.emptyCode (.address none), m)
  else if m.freeMemory < size then m.refuse .outOfMemory
  else m.placeZeros size

/-- The entry behind an address. -/
def at? {α : Type} (t : Table Nat α) (a : Address) : Option α := a.bind t.get?

/-- Is there an entry behind an address? -/
def holds {α : Type} (t : Table Nat α) (a : Address) : Bool := (at? t a).isSome

/-- The bytes of the first `n` places replaced. -/
def overwrite (buffer bs : List UInt8) : List UInt8 := bs ++ buffer.drop bs.length

/-- Does a buffer hold a count of bytes?  Nothing holds a negative one. -/
def holdsBytes (length : Nat) (size : Value) : Except Fault Bool := do
  if ← size.compare .below (.int 0) then return false
  else return !(← size.compare .above (.int length))

/-- A count of bytes as the end of a range. -/
def endOf (size : Value) : Except Fault Nat :=
  match size.index? with
  | some n => .ok n.toNat
  | none => .error .sliceIndex

/-- An entry of the allocations with its first bytes replaced. -/
def store (m : Machine) (key : Nat) (buffer bs : List UInt8) : Reply × Machine :=
  ({ m with allocations := m.allocations.set key (overwrite buffer bs) }).answer .nothing

/-- A copy from the host: the device side must be live and large enough. -/
def copyIn (m : Machine) (target : Address) (bs : List UInt8) (size : Value) : Reply × Machine :=
  match target, at? m.allocations target with
  | some k, some buffer =>
    m.after (holdsBytes buffer.length size) fun fits =>
      if fits then m.after (endOf size) fun n => m.store k buffer (bs.take n)
      else m.refuse .invalidValue
  | _, _ => m.refuse .invalidValue

/-- A copy to the host: the device side must be live and large enough. -/
def copyOut (m : Machine) (source : Address) (size : Value) : Reply × Machine :=
  match at? m.allocations source with
  | some buffer =>
    m.after (holdsBytes buffer.length size) fun fits =>
      if fits then m.after (endOf size) fun n => m.answer (.bytes (buffer.take n))
      else m.refuse .invalidValue
  | none => m.refuse .invalidValue

/-- A copy between allocations: both must be live and large enough. -/
def copyAcross (m : Machine) (target source : Address) (size : Value) : Reply × Machine :=
  match target, at? m.allocations target, at? m.allocations source with
  | some k, some old, some new =>
    m.after (holdsBytes new.length size) fun fits =>
      if fits then
        m.after (holdsBytes old.length size) fun fits =>
          if fits then m.after (endOf size) fun n => m.store k old (new.take n)
          else m.refuse .invalidValue
      else m.refuse .invalidValue
  | _, _, _ => m.refuse .invalidValue

/-- A copy of `size` bytes.  A copy with the host needs host memory on the other side, and a
size must be a number before anything else is asked of it. -/
def copy (m : Machine) (target source : Place) (size : Value) (kind : Int) : Reply × Machine :=
  m.after (size.compare .below (.int 0)) fun negative =>
    if negative then m.refuse .invalidValue
    else if kind = 1 then
      match target, source with
      | .device a, .host bs => m.copyIn a bs size
      | _, _ => m.refuse .invalidValue
    else if kind = 2 then
      match target, source with
      | .host _, .device a => m.copyOut a size
      | _, _ => m.refuse .invalidValue
    else if kind = 3 then
      match target, source with
      | .device a, .device b => m.copyAcross a b size
      | _, _ => m.refuse .invalidValue
    else m.refuse .invalidValue

/-- How often a byte is repeated for a count of bytes. -/
def timesOf (size : Value) : Except Fault Nat :=
  match size.index? with
  | some n => .ok n.toNat
  | none => .error (.repetition size.qualifiedType)

/-- A fill of the first `size` bytes of a live allocation. -/
def fill (m : Machine) (target : Address) (value size : Value) : Reply × Machine :=
  match target, at? m.allocations target with
  | some k, some buffer =>
    m.after (holdsBytes buffer.length size) fun fits =>
      if fits then
        m.after (byteOf value) fun b =>
          m.after (timesOf size) fun n => m.store k buffer (List.replicate n b)
      else m.refuse .invalidValue
  | _, _ => m.refuse .invalidValue

/-- The pool of a device, if it has been asked for before. -/
def defaultPoolOf? (m : Machine) (device : Value) : Option Nat :=
  (m.defaultPools.find? fun e => e.1.sameKey device).map Prod.snd

/-- The default pool of a device.  Every question takes a new handle from the counter,
and the first one stays. -/
def defaultPool (m : Machine) (device : Value) : Reply × Machine :=
  m.onDevice device fun _ =>
    match device.unhashable? with
    | some type => (.fault (.unhashable type), m.taken)
    | none =>
      match m.defaultPoolOf? device with
      | some h => m.taken.answer (.address (some h))
      | none =>
        ({ m.taken with defaultPools := m.defaultPools ++ [(device, m.nextHandle)] }).answer
          (.address (some m.nextHandle))

/-- A new pool on a device that is there. -/
def poolCreate (m : Machine) (props : PoolImage) : Reply × Machine :=
  if props.locationType = 1 ∧ 0 ≤ props.locationId ∧ props.locationId < m.deviceCount then
    ({ m with
      lastHandle := m.nextHandle
      pools := m.pools ++ [(m.nextHandle, (⟨props, none⟩ : PoolRecord))] }).answer
      (.address (some m.nextHandle))
  else m.refuse .invalidValue

/-- A new stream. -/
def streamCreate (m : Machine) : Reply × Machine :=
  ({ m with
    lastHandle := m.nextHandle
    streams := m.streams ++ [(m.nextHandle, m.streamStatus)] }).answer
      (.address (some m.nextHandle))

/-- Is an address that of a pool, one's own or a device's? -/
def isPool (m : Machine) (a : Address) : Bool :=
  holds m.pools a || a.any fun h => m.defaultPools.any fun e => e.2 = h

/-- Is a value the handle of a stream?  It has to be a handle, or a constant, which is that
of none. -/
def isStream (m : Machine) : Value → Except Fault Bool
  | .address a => .ok (holds m.streams a)
  | .member .. => .ok false
  | v => v.missing "value"

/-- The effect of a call that no set-up code stands in for. -/
def perform (m : Machine) : NativeCall → Reply × Machine
  | .start _ => ({ m with initialized := true }).answer .nothing
  | .runtimeVersion => m.answer (.int m.reports.runtimeVersion)
  | .driverVersion => m.answer (.int m.reports.driverVersion)
  | .deviceCount => m.answer (.int m.deviceCount)
  | .currentDevice => m.after m.currentDevice.toIndex fun n => m.answer (.int n)
  | .setDevice device =>
    m.onDevice device fun _ => ({ m with currentDevice := device }).answer .nothing
  | .synchronize => m.answer .nothing
  | .deviceName length device =>
    m.onDevice device fun _ => m.answer (.bytes (m.nameBuffer length device))
  | .totalMemory device => m.onDevice device fun _ => m.answer (.int m.totalMemory)
  | .computeCapability device =>
    m.onDevice device fun _ => m.answer (.pair m.reports.capability.1 m.reports.capability.2)
  | .deviceUuid device => m.onDevice device fun _ => m.uuidReply device
  | .busId length device => m.onDevice device fun _ => m.busIdReply length device
  | .deviceByBusId text =>
    match BusId.device? text with
    | some device =>
      if (device : Int) < m.deviceCount then m.answer (.int device) else m.refuse .invalidDevice
    | none => m.refuse .invalidDevice
  | .deviceAttribute code device =>
    m.onDevice device fun _ => m.answer (.int ((m.reports.attributes.get? code).getD 0))
  | .peerAttribute _ source target =>
    m.onDevice source fun _ => m.onDevice target fun _ =>
      m.after (source.sameAs target) fun same =>
        if same then m.refuse .invalidValue else m.answer (.int m.reports.peer)
  | .defaultPool device => m.defaultPool device
  | .allocate size => m.reserve size
  | .allocateFlagged size flags =>
    if 0 ≤ flags && flags ≤ 4 then m.reserve size else m.refuse .invalidValue
  | .allocateOrdered size stream =>
    m.after (m.isStream stream) fun known =>
      if known then m.reserve size else m.refuse .invalidHandle
  | .free none => m.answer .nothing
  | .free (some a) =>
    if m.allocations.has a then
      ({ m with allocations := m.allocations.erase a }).answer .nothing
    else m.refuse .invalidValue
  | .copy target source size kind => m.copy target source size kind
  | .fill target value size => m.fill target value size
  | .memoryInfo =>
    match m.reports.memoryInfo with
    | some (free, total) => m.answer (.pair free total)
    | none => m.answer (.pair m.freeMemory m.totalMemory)
  | .streamCreate => m.streamCreate
  | .streamDestroy stream =>
    match stream with
    | some h =>
      if m.streams.has h then ({ m with streams := m.streams.erase h }).answer .nothing
      else m.refuse .invalidHandle
    | none => m.refuse .invalidHandle
  | .streamQuery stream =>
    match at? m.streams stream with
    | some status => (.code status .nothing, m)
    | none => m.refuse .invalidHandle
  | .streamSynchronize stream =>
    match stream with
    | some h =>
      if m.streams.has h then ({ m with streams := m.streams.set h 0 }).answer .nothing
      else m.refuse .invalidHandle
    | none => m.refuse .invalidHandle
  | .poolCreate props => m.poolCreate props
  | .poolDestroy pool =>
    match pool with
    | some h =>
      if m.pools.has h then ({ m with pools := m.pools.erase h }).answer .nothing
      else m.refuse .invalidHandle
    | none => m.refuse .invalidHandle
  | .poolTrim pool keep =>
    match pool, at? m.pools pool with
    | some h, some record =>
      ({ m with pools := m.pools.set h { record with trimmedTo := some keep } }).answer .nothing
    | _, _ => m.refuse .invalidHandle
  | .allocateFromPool size pool stream =>
    if m.isPool pool then
      m.after (m.isStream stream) fun known =>
        if known then m.reserve size else m.refuse .invalidHandle
    else m.refuse .invalidHandle

/-- A call: a code set up for its entry point comes first and has no other effect. -/
def call (m : Machine) (c : NativeCall) : Reply × Machine :=
  let (code, m) := m.takePending c.entryPoint
  if code = 0 then m.perform c else (.code code .nothing, m)

end Machine
end GpuHandles
