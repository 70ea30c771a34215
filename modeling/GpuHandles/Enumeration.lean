import GpuHandles.Number.Power
import GpuHandles.Status
/-!
The named constants of the interface.

An enumeration is a list of names with numbers, or with texts for the two that
describe states and platforms.  `Enumeration.named?` and `Enumeration.valued?`
find a member from either side; a flag set that is not a member itself is named
by the one-bit members it consists of.
-/

namespace GpuHandles

/-- The enumerations of the interface. -/
inductive Enumeration where
  | statusKind
  | copyKind
  | allocationFlag
  | deviceAttribute
  | peerAttribute
  | allocationType
  | handleType
  | locationType
  | streamStatus
  | platform
  deriving Repr, DecidableEq

namespace Enumeration

/-- What a member stands for. -/
inductive Constant where
  | number (n : Int)
  | word (s : String)
  deriving Repr, DecidableEq

/-- A named constant. -/
structure Member where
  /-- no name: a flag set without a single known bit -/
  name : Option String
  constant : Constant
  deriving Repr, DecidableEq

/-- Every enumeration. -/
def all : List Enumeration :=
  [statusKind, copyKind, allocationFlag, deviceAttribute, peerAttribute, allocationType, handleType,
    locationType, streamStatus, platform]

/-- The name of an enumeration. -/
def name : Enumeration → String
  | statusKind => "ErrorKind"
  | copyKind => "MemoryCopyKind"
  | allocationFlag => "DeviceMallocFlag"
  | deviceAttribute => "DeviceAttribute"
  | peerAttribute => "DeviceP2PAttribute"
  | allocationType => "MemAllocationType"
  | handleType => "MemAllocationHandleType"
  | locationType => "MemLocationType"
  | streamStatus => "StreamStatus"
  | platform => "HipPlatform"

/-- The enumeration with a name. -/
def ofName? (s : String) : Option Enumeration := all.find? fun e => e.name == s

/-- Are the members numbers themselves? -/
def isNumeric : Enumeration → Bool
  | statusKind | streamStatus | platform => false
  | _ => true

/-- Names and numbers of a numeric enumeration, in the order of their definition. -/
def numbers : Enumeration → List (String × Int)
  | statusKind => Status.Kind.all.map fun k => (k.name, k.code)
  | copyKind =>
    [("HOST_TO_HOST", 0), ("HOST_TO_DEVICE", 1), ("DEVICE_TO_HOST", 2), ("DEVICE_TO_DEVICE", 3),
      ("DEFAULT", 4), ("DEVICE_TO_DEVICE_NO_CU", 1024)]
  | allocationFlag =>
    [("DEFAULT", 0), ("FINEGRAINED", 1), ("SIGNAL_MEMORY", 2), ("UNCACHED", 3), ("CONTIGUOUS", 4)]
  | deviceAttribute =>
    [("ECC_ENABLED", 0), ("ASYNC_ENGINE_COUNT", 2), ("CAN_MAP_HOST_MEMORY", 3), ("CLOCK_RATE", 5),
      ("COMPUTE_MODE", 6), ("CONCURRENT_KERNELS", 8), ("COOPERATIVE_LAUNCH", 10),
      ("INTEGRATED", 16), ("L2_CACHE_SIZE", 19), ("COMPUTE_CAPABILITY_MAJOR", 23),
      ("MANAGED_MEMORY", 24), ("MAX_BLOCK_DIM_X", 26), ("MAX_BLOCK_DIM_Y", 27),
      ("MAX_BLOCK_DIM_Z", 28), ("MAX_GRID_DIM_X", 29), ("MAX_GRID_DIM_Y", 30),
      ("MAX_GRID_DIM_Z", 31), ("MAX_THREADS_PER_BLOCK", 56),
      ("MAX_THREADS_PER_MULTIPROCESSOR", 57), ("MEMORY_BUS_WIDTH", 59),
      ("MEMORY_CLOCK_RATE", 60), ("COMPUTE_CAPABILITY_MINOR", 61), ("MULTIPROCESSOR_COUNT", 63)]
  | peerAttribute =>
    [("PERFORMANCE_RANK", 0), ("ACCESS_SUPPORTED", 1), ("NATIVE_ATOMIC_SUPPORTED", 2),
      ("HIP_ARRAY_ACCESS_SUPPORTED", 3)]
  | allocationType => [("INVALID", 0), ("PINNED", 1)]
  | handleType => [("NONE", 0), ("POSIX_FILE_DESCRIPTOR", 1), ("WIN32", 2)]
  | locationType => [("INVALID", 0), ("DEVICE", 1)]
  | streamStatus | platform => []

/-- Names and texts of the other two. -/
def words : Enumeration → List (String × String)
  | streamStatus => [("COMPLETE", "complete"), ("NOT_READY", "not_ready")]
  | platform => [("AMD", "amd"), ("NVIDIA", "nvidia"), ("AUTO", "auto")]
  | _ => []

/-- The members, in the order of their definition. -/
def members (e : Enumeration) : List Member :=
  e.numbers.map (fun p => ⟨some p.1, .number p.2⟩) ++ e.words.map fun p => ⟨some p.1, .word p.2⟩

/-- Is a number a single bit? -/
def isSingleBit (n : Int) : Bool := n == 1 || n == 2 || n == 4

/-- The members that listing an enumeration gives: of the flags only the single bits. -/
def listed (e : Enumeration) : List Member :=
  match e with
  | allocationFlag =>
    (e.numbers.filter fun p => isSingleBit p.2).map fun p => ⟨some p.1, .number p.2⟩
  | _ => e.members

/-- The member with a name. -/
def named? (e : Enumeration) (s : String) : Option Member :=
  e.members.find? fun m => m.name == some s

/-- The set bits of the flags. -/
def knownBits : Nat := 7

/-- A number with its sign bits cut off above the flags: what a negative number
means as a set of flags. -/
def flagSet (n : Int) : Nat :=
  if 0 ≤ n then n.toNat
  else if -8 ≤ n then (8 + n).toNat
  else ((2 ^ (Nat.log2 n.natAbs + 1) : Nat) + n).toNat

/-- The name of a flag set that is not a member: its known bits by rising value, then
what is left as one number. -/
def flagSetName (n : Nat) : Option String :=
  let isSet (p : String × Int) : Bool := isSingleBit p.2 && n / p.2.toNat % 2 == 1
  let known := (allocationFlag.numbers.filter isSet).map Prod.fst
  let rest := n - n % (knownBits + 1)
  if known.isEmpty then none
  else some ("|".intercalate (known ++ if rest = 0 then [] else [toString rest]))

/-- The member with a number; every number is a set of flags. -/
def valued? (e : Enumeration) (n : Int) : Option Member :=
  match e.numbers.find? fun p => p.2 == n with
  | some p => some ⟨some p.1, .number p.2⟩
  | none =>
    match e with
    | allocationFlag =>
      let bits := flagSet n
      match e.numbers.find? fun p => p.2 == (bits : Int) with
      | some p => some ⟨some p.1, .number p.2⟩
      | none => some ⟨flagSetName bits, .number bits⟩
    | _ => none

end Enumeration
end GpuHandles
