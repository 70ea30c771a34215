import GpuHandles.HostArray.Element
import GpuHandles.HostArray.ElementBlock
/-!
Views of host memory.

An array is a store of bytes seen through a shape, a stride for each axis and a
starting offset; transposing, slicing and reading backwards only change the
view.  `bytes` lists the elements in C order, the last axis fastest.  A view is
contiguous when that order is the order of the store: an axis of length one does
not count, and an empty view always is.

The elements of a view that is not contiguous are copied for this, field by field.
Nothing is written into the gaps between fields, which keep what the memory of the
copy has held before.
-/

namespace GpuHandles

/-- A view of bytes as elements along axes. -/
structure HostArray where
  type : ElementType
  data : Array UInt8
  shape : List Nat
  /-- bytes from one element to the next along each axis -/
  strides : List Int
  offset : Int
  writable : Bool
  /-- the number by which later states of the array are known; zero before its first copy -/
  identity : Nat
  /-- what the memory that its elements are copied into has held before -/
  residue : Array UInt8
  deriving Repr, Inhabited

namespace HostArray

/-- Number of elements. -/
def count (a : HostArray) : Nat := a.shape.foldl (· * ·) 1

/-- Number of bytes of all elements. -/
def byteCount (a : HostArray) : Nat := a.count * a.type.size

/-- The strides of C order. -/
def rowStrides (size : Nat) : List Nat → List Nat
  | [] => []
  | _ :: ns => ns.foldl (· * ·) size :: rowStrides size ns

/-- Offsets of the elements in C order. -/
def offsets : List Nat → List Int → Int → List Int
  | n :: ns, s :: ss, start => (List.range n).flatMap fun (i : Nat) => offsets ns ss (start + i * s)
  | _, _, start => [start]

/-- The stored bytes of each element in C order. -/
def storedElements (a : HostArray) : List (List UInt8) :=
  (offsets a.shape a.strides a.offset).map fun o =>
    (List.range a.type.size).map fun k => a.data.getD (o.toNat + k) 0

/-- Is C order the order of the store? -/
def isContiguous (a : HostArray) : Bool :=
  a.shape.any (· == 0) ||
    (a.shape.zip (a.strides.zip (rowStrides a.type.size a.shape))).all fun p =>
      p.1 == 1 || p.2.1 == (p.2.2 : Int)

/-- The bytes of each element in C order, as a copy of it has them. -/
def copiedElements (a : HostArray) : List (List UInt8) :=
  a.storedElements.mapIdx fun i bs =>
    Element.filledGaps a.type (fun k => a.residue.getD (i * a.type.size + k) 0) bs

/-- The bytes of each element in C order: those of the store if they can be read through. -/
def listedElements (a : HostArray) : List (List UInt8) :=
  if a.isContiguous then a.storedElements else a.copiedElements

/-- The bytes of the elements in C order. -/
def bytes (a : HostArray) : List UInt8 := a.listedElements.flatten

/-- A writable array over bytes in C order. -/
def ofBytes (type : ElementType) (shape : List Nat) (bs : List UInt8) : HostArray where
  type := type
  data := bs.toArray
  shape := shape
  strides := (rowStrides type.size shape).map Int.ofNat
  offset := 0
  writable := true
  identity := 0
  residue := #[]

/-- An array of blocks along one axis that nothing is stored in; a byte that is not stored is
zero. -/
def blank (type : ElementBlock) (n : Nat) : HostArray := ofBytes type.item (n :: type.axes) []

/-- The same array over other bytes. -/
def withBytes (a : HostArray) (bs : List UInt8) : HostArray :=
  { ofBytes a.type a.shape bs with
    writable := a.writable, identity := a.identity, residue := a.residue }

/-- All axes in reverse. -/
def transpose (a : HostArray) : HostArray :=
  { a with shape := a.shape.reverse, strides := a.strides.reverse }

/-- The same view without leave to write. -/
def readOnly (a : HostArray) : HostArray := { a with writable := false }

/-- A range along one axis, with what is left out taken from the direction. -/
structure Slice where
  start : Option Int
  stop : Option Int
  step : Option Int
  deriving Repr, DecidableEq

namespace Slice

/-- An end of a slice on an axis of length `n`: counted from the back if negative, and
kept between `low` and `high`. -/
def clamp (n low high : Int) (i : Int) : Int :=
  max low (min high (if i < 0 then i + n else i))

/-- First index, step, and number of indices of a slice on an axis of length `n`. -/
def resolve (s : Slice) (n : Nat) : Int × Int × Nat :=
  let step := s.step.getD 1
  if 0 < step then
    let first := (s.start.map (clamp n 0 n)).getD 0
    let last := (s.stop.map (clamp n 0 n)).getD n
    (first, step, if first < last then ((last - first - 1) / step + 1).toNat else 0)
  else
    let first := (s.start.map (clamp n (-1) (n - 1))).getD (n - 1)
    let last := (s.stop.map (clamp n (-1) (n - 1))).getD (-1)
    (first, step, if last < first then ((first - last - 1) / (-step) + 1).toNat else 0)

end Slice

/-- Shape, strides and offset after slicing the leading axes. -/
def sliceAxes : List Slice → List Nat → List Int → Int → List Nat × List Int × Int
  | c :: cs, n :: ns, s :: ss, start =>
    let (first, step, kept) := c.resolve n
    let (shape, strides, offset) := sliceAxes cs ns ss (start + first * s)
    (kept :: shape, s * step :: strides, offset)
  | _, ns, ss, start => (ns, ss, start)

/-- One slice for each leading axis. -/
def slice (a : HostArray) (cs : List Slice) : HostArray :=
  let (shape, strides, offset) := sliceAxes cs a.shape a.strides a.offset
  { a with shape := shape, strides := strides, offset := offset }

/-- The elements in C order. -/
def elements (a : HostArray) : List Element := a.storedElements.map (Element.decode a.type)

/-- The element of an array that has just one. -/
def onlyElement? (a : HostArray) : Option Element := if a.count = 1 then a.elements.head? else none

end HostArray
end GpuHandles
