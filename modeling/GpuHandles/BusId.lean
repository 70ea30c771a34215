import GpuHandles.Text.Hex
/-!
Bus ids of devices.

A device sits on the bus of its own number plus three, written as at least two
hexadecimal digits between a fixed domain and a fixed slot.  `device?` finds the
number that a text is the id of, by reading the digits and writing them again.
-/

namespace GpuHandles.BusId

/-- The text of a device's bus id. -/
def chars (device : Nat) : List Char :=
  "0000:".toList ++ Text.hexPadded 2 (device + 3) ++ ":00.0".toList

/-- Characters of the first half of Latin script as bytes. -/
def toBytes (cs : List Char) : List UInt8 := cs.map fun c => UInt8.ofNat c.toNat

/-- The bytes of a device's bus id. -/
def bytes (device : Nat) : List UInt8 := toBytes (chars device)

/-- The bytes of the id of a bus number; one below zero keeps its sign. -/
def ofBus (bus : Int) : List UInt8 :=
  if 3 ≤ bus then bytes (bus - 3).toNat
  else
    let digits := if bus < 0 then '-' :: Text.hexPadded 1 bus.natAbs else Text.hexPadded 2 bus.toNat
    toBytes ("0000:".toList ++ digits ++ ":00.0".toList)

/-- The number that hexadecimal digits spell; other characters count as zero. -/
def hexNumber (cs : List Char) : Nat :=
  cs.foldl (fun n c => 16 * n + (Text.hexValue? c).getD 0) 0

/-- The device whose bus id the bytes are. -/
def device? (bs : List UInt8) : Option Nat :=
  let digits := (bs.drop 5).take (bs.length - 10)
  let device := hexNumber (digits.map fun b => Char.ofNat b.toNat) - 3
  if bytes device = bs then some device else none

end GpuHandles.BusId
