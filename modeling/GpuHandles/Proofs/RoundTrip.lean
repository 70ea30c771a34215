import GpuHandles.Proofs.NewArray
import GpuHandles.Proofs.Plans
/-!
From the host to the device and back.

A copy from the host lists the elements of an array in C order, whatever view the array is, and
puts them over the first bytes of the memory (`Received`).  A copy to the host takes the bytes as
they are for the elements of a new array (`copyToHost_returned`).  So an array that fills the memory
comes back along one axis, and as the same bytes in every other type that they are a whole number
of elements of (`host_round_trip`).

Elements with gaps between their fields arrive with all that the fields hold.  The gaps come along
only where the array is read through; what a copy of it has in them is written over the device
instead (`HostArray.Holds`).
-/

namespace GpuHandles

namespace Memory

/-- What a copy of an array to memory of `n` bytes leaves: the elements are in front of the bytes
that were there behind them, no other memory is touched, and all of this took one call, or none
for an array without bytes. -/
structure Received (w w' : World) (id n : Nat) (r : Resource) (a : HostArray) : Prop where
  bytes : w'.memory id = a.bytes ++ (w.memory id).drop a.byteCount
  others : ∀ key, r.payload.address ≠ some key →
    w'.machine.allocations.get? key = w.machine.allocations.get? key
  way : Passage w w' w'.machine w.resources
    (if a.byteCount = 0 then [] else [(writeCall r.payload.address a, 0)])
  backed : w'.Backed id n r
  ready : w'.Prompt .copy

variable {w w' : World} {id n : Nat} {r : Resource} {a : HostArray}

theorem copyFromHost_received (direct : w.library = some .direct) (backed : w.Backed id n r)
    (ready : w.Prompt .copy) (laid : a.Laid) (room : a.byteCount ≤ n) :
    ∃ w', (copyFromHost id (.array a)).outcome w = (.ok (), w') ∧ Received w w' id n r a := by
  have length := HostArray.length_bytes laid
  rw [copyFromHost_fits backed.there backed.active backed.size rfl room]
  by_cases empty : a.byteCount = 0
  · rw [if_pos empty]
    rw [empty] at length
    refine ⟨w, rfl, ?_, fun _ _ => rfl, ?_, backed, ready⟩
    · rw [List.eq_nil_of_length_eq_zero length, empty]
      rfl
    · rw [if_pos empty]
      exact .refl w
  · rw [if_neg empty]
    have live : w.machine.Backs r.payload.address n := backed.live.resolve_left (by omega)
    have success : (w.machine.call (writeCall r.payload.address a)).1 = .code 0 .nothing := by
      obtain ⟨k, buffer, address, holds, fits⟩ := live
      rw [address]
      exact Machine.call_copyIn_fits a.bytes ready.quiet holds (Nat.le_trans room fits)
    have wrote : w.machine.Overwrites (w.machine.call (writeCall r.payload.address a)).2
        r.payload.address (a.bytes.take a.byteCount) := Machine.call_copyIn success
    rw [List.take_of_length_le (Nat.le_of_eq length)] at wrote
    rw [Action.outcome_discard]
    obtain ⟨absent, -⟩ | ⟨w', way, ended⟩ :=
      Loading.request_arriving (c := writeCall r.payload.address a) direct rfl
    · exact absurd absent ready.present
    · rw [success] at ended way
      rw [← way.machine] at wrote
      refine ⟨w', by rw [ended]; rfl, ?_, fun _ => wrote.others, ?_, ?_, ?_, ?_⟩
      · rw [World.memory_of_getElem? (way.resources ▸ backed.there), wrote.behind, length,
          ← World.memory_of_getElem? backed.there]
      · rw [if_neg empty]
        exact ⟨rfl, way.resources, way.library, way.trace⟩
      · exact ⟨way.resources ▸ backed.there, backed.active, backed.size, .inr (wrote.backs live)⟩
      · unfold Loading.Absent
        rw [way.machine, (w.machine.call_change _).missing]
        exact ready.present
      · rw [way.machine, Machine.call_injected]
        exact if_pos rfl

theorem copyToHost_returned {type : Value} {t : ElementBlock} (direct : w.library = some .direct)
    (backed : w.Backed id n r) (ready : w.Prompt .copy) (known : elementType w.name type = .ok t)
    (some_bytes : t.size ≠ 0) (divides : t.size ∣ n) (reached : n < addressable) :
    ∃ b, ((copyToHost id type .null).outcome w).1 = .ok (.array b) ∧ b.type = t.item ∧
      b.shape = n / t.size :: t.axes ∧ b.bytes = (w.memory id).take n := by
  have whole := copyToHost_whole direct backed.there backed.active backed.size known (.inl rfl) rfl
    some_bytes divides
  generalize (copyToHost id type .null).outcome w = ended at whole ⊢
  obtain ⟨result, w'⟩ := ended
  obtain ⟨-, ⟨rfl, ended⟩ | ⟨moved, native⟩⟩ | ⟨beyond, -⟩ := whole
  · cases ended
    exact ⟨_, rfl, rfl, by rw [Nat.zero_div]; rfl, rfl⟩
  · have count := HostArray.byteCount_whole divides
    obtain ⟨b, value, full⟩ := native.filled_of ready (count.symm ▸ backed.length_memory)
    exact ⟨b, value, full.type, full.shape, by rw [full.bytes, count]⟩
  · omega

/-- What an array has in memory of `n` bytes: it arrives there in C order, it comes back if it
fills the memory, in its own type or as the bytes of any other, and all of this is a matter of its
bytes alone. -/
structure RoundTrip (w : World) (id n : Nat) (r : Resource) (a : HostArray) : Prop where
  listed : a.Exact → a.bytes = (HostArray.indices a.shape).flatMap a.storedAt
  sent : ∃ w', (Operation.copyFromHost id (.array a)).perform.outcome w = (.ok .null, w') ∧
    Received w w' id n r a ∧ a.Holds (w'.memory id) ∧
    (a.byteCount = n → n < addressable → ∀ type t, elementType w'.name type = .ok t →
      t.size ≠ 0 → t.size ∣ n →
        ∃ b, ((Operation.copyToHost id type .null).perform.outcome w').1 = .ok (.array b) ∧
          b.type = t.item ∧ b.shape = n / t.size :: t.axes ∧ b.bytes = a.bytes ∧
          (t = (a.type : ElementBlock) → b.elements = a.elements))
  alike : ∀ b : HostArray, b.Laid → b.bytes = a.bytes →
    (Operation.copyFromHost id (.array b)).perform.outcome w =
      (Operation.copyFromHost id (.array a)).perform.outcome w

/-- What a copy from the host does depends on the bytes of the array alone. -/
theorem copyFromHost_congr {b : HostArray} (backed : w.Backed id n r) (laid : a.Laid)
    (room : a.byteCount ≤ n) (laid' : b.Laid) (same : b.bytes = a.bytes) :
    (copyFromHost id (.array b)).outcome w = (copyFromHost id (.array a)).outcome w := by
  have count : b.byteCount = a.byteCount := by
    rw [← HostArray.length_bytes laid', same, HostArray.length_bytes laid]
  have call (k : Address) : writeCall k b = writeCall k a := by
    unfold writeCall
    rw [same, count]
  have room' : b.byteCount ≤ n := count ▸ room
  rw [copyFromHost_fits backed.there backed.active backed.size rfl room',
    copyFromHost_fits backed.there backed.active backed.size rfl room, count, call]

theorem roundTrip (direct : w.library = some .direct) (backed : w.Backed id n r)
    (ready : w.Prompt .copy) (laid : a.Laid) (some_bytes : a.type.size ≠ 0)
    (room : a.byteCount ≤ n) : RoundTrip w id n r a := by
  obtain ⟨w', ended, received⟩ := copyFromHost_received direct backed ready laid room
  have holds : a.Holds (w'.memory id) := received.bytes ▸ (HostArray.holds_bytes laid).append _
  refine ⟨HostArray.bytes_eq laid, ⟨w', ?_, received, holds, ?_⟩, ?_⟩
  · show (Operation.silent (copyFromHost id (.array a))).outcome w = _
    rw [Operation.silent_outcome, ended]
    rfl
  · intro whole reached type t known elements divides
    obtain ⟨b, value, kind, shape, bytes⟩ := copyToHost_returned
      (received.way.direct direct) received.backed received.ready known elements divides reached
    have same : b.bytes = a.bytes := by
      have length := HostArray.length_bytes laid
      rw [bytes, received.bytes, List.take_append_of_le_length (by omega),
        List.take_of_length_le (by omega)]
    refine ⟨b, value, kind, shape, same, ?_⟩
    rintro rfl
    exact HostArray.elements_congr some_bytes kind same
  · intro b laid' same
    show (Operation.silent _).outcome w = (Operation.silent _).outcome w
    rw [Operation.silent_outcome, Operation.silent_outcome,
      copyFromHost_congr backed laid room laid' same]

end Memory

end GpuHandles
