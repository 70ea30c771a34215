import GpuHandles.Proofs.Mirror
/-!
Copies and fills stay in bounds.

The size of an active allocation is the length of its buffer, and it has an address if it has a
byte at all (`Mirrors.backs`).  With what each operation has checked by then, every call for a
copy or a fill is in bounds (`memory_calls_in_bounds`), so the machine never refuses one.
-/

namespace GpuHandles

/-- A copy between allocations has the kind for that. -/
def Operation.Directed : Operation → Prop
  | copyTo _ _ kind => kind.toWhole = .ok 3
  | _ => True

namespace Mirrors

variable {s : Store} {w : World} {id : Nat}

/-- Some bytes of an active allocation, no more than its size. -/
theorem backs {r : Resource} {n k : Nat} (h : Mirrors s w.resources w.machine.tables)
    (there : w.resources[id]? = some r) (active : r.released = false)
    (size : r.payload.size = .int n) (some_bytes : k ≠ 0) (fits : k ≤ n) :
    w.machine.Backs r.payload.address k := by
  have length := (h.sized id r there).symm.trans size
  injection length with length
  have filled : s id ≠ [] := fun none => by
    rw [none] at length
    simp only [List.length_nil] at length
    omega
  obtain ⟨_, a, address, holds⟩ := h.held id r there active filled
  exact ⟨a, s id, address, holds, by omega⟩

theorem copyFromHost_bounds {source : Value} {c : NativeCall}
    (h : Mirrors s w.resources w.machine.tables)
    (asked : Memory.AsksFromHost w.resources id source c) :
    w.machine.InBounds c ∧ Machine.Directed c := by
  obtain ⟨r, host, n, there, active, size, _, some_bytes, fits, rfl⟩ := asked
  refine ⟨⟨host.byteCount, rfl, Nat.pos_of_ne_zero some_bytes, ?_, fun a ha => by cases ha⟩, rfl⟩
  intro a ha
  cases ha
  exact h.backs there active size some_bytes fits

theorem copyToHost_bounds {type out : Value} {a : HostArray} {c : NativeCall}
    (h : Mirrors s w.resources w.machine.tables) (asked : Memory.AsksToHost w id type out a c) :
    w.machine.InBounds c ∧ Machine.Directed c := by
  obtain ⟨r, n, there, active, size, target, some_bytes, rfl⟩ := asked
  refine ⟨⟨a.byteCount, rfl, Nat.pos_of_ne_zero some_bytes, fun b hb => (by cases hb), ?_⟩, rfl⟩
  intro b hb
  cases hb
  exact h.backs there active size some_bytes target.room

theorem copyTo_bounds {target kind : Value} {c : NativeCall}
    (h : Mirrors s w.resources w.machine.tables) (memory : (w.resource id).payload.cls = .pointer)
    (asked : Memory.AsksAcross w.resources id target kind c) :
    w.machine.InBounds c ∧ (kind.toWhole = .ok 3 → Machine.Directed c) := by
  obtain ⟨j, source, destination, n, room, k, there, active, _, there', active', size, size',
    fits, somewhere, _, whole, rfl⟩ := asked
  rw [World.resource_of_getElem? there] at memory
  obtain ⟨a, address⟩ := Option.isSome_iff_exists.1 somewhere
  -- memory at an address is not empty, so something is copied
  have some_bytes : n ≠ 0 := fun none => by
    have length := (h.sized id source there).symm.trans size
    injection length with length
    have filled := List.length_pos_iff.2 (h.filled id source a there memory address)
    omega
  refine ⟨⟨n, rfl, Nat.pos_of_ne_zero some_bytes, ?_, ?_⟩, ?_⟩
  · intro b hb
    cases hb
    exact h.backs there' active' size' some_bytes fits
  · intro b hb
    cases hb
    exact h.backs there active size some_bytes (Nat.le_refl n)
  · intro three
    rw [whole] at three
    cases three
    rfl

theorem fill_bounds {value size : Value} {c : NativeCall}
    (h : Mirrors s w.resources w.machine.tables)
    (asked : Memory.AsksFill w.resources id value size c) :
    w.machine.InBounds c ∧ Machine.Directed c := by
  obtain ⟨r, n, k, there, active, length, _, some_bytes, fits, rfl⟩ := asked
  exact ⟨⟨k, rfl, Nat.pos_of_ne_zero some_bytes, h.backs there active length some_bytes fits⟩,
    trivial⟩

/-- An operation that copies or fills makes no call, or one call, which is in bounds. -/
theorem calls_in_bounds {op : Operation} (h : Mirrors s w.resources w.machine.tables)
    (direct : w.library = some .direct) (moves : op.moves? = some id)
    (memory : (w.resource id).payload.cls = .pointer) :
    let w' := (op.perform.outcome w).2
    Passage w w' w.machine w.resources [] ∨
      ∃ c, (w.machine.InBounds c ∧ (op.Directed → Machine.Directed c)) ∧
        Passage w w' (w.machine.call c).2 w.resources (recorded c (w.machine.call c).1) := by
  cases op with
  | copyTo i target kind =>
    cases moves
    exact (Memory.copyTo_transfer direct h.sizes id target kind).silent.passes
      fun c asked => h.copyTo_bounds memory asked
  | copyFromHost i source =>
    cases moves
    refine (Memory.copyFromHost_transfer direct h.sizes id source).silent.passes ?_
    intro c asked
    obtain ⟨bounds, directed⟩ := h.copyFromHost_bounds asked
    exact ⟨bounds, fun _ => directed⟩
  | copyToHost i type out =>
    cases moves
    refine (Memory.copyToHost_transfer direct h.sizes id type out).passes ?_
    intro c asked
    obtain ⟨a, asked⟩ := asked
    obtain ⟨bounds, directed⟩ := h.copyToHost_bounds asked
    exact ⟨bounds, fun _ => directed⟩
  | fill i value size =>
    cases moves
    refine (Memory.fill_transfer direct h.sizes id value size).silent.passes ?_
    intro c asked
    obtain ⟨bounds, directed⟩ := h.fill_bounds asked
    exact ⟨bounds, fun _ => directed⟩
  | _ => cases moves

end Mirrors

/-- **Bounds of copies and fills.**  After any session, an operation that copies or fills an
allocation makes no call, or one call: of at least one byte, with live operands that have that
many.  The machine's answer to it has the code that was set up for it, or else zero. -/
theorem memory_calls_in_bounds (host : Host) (m : Machine) (ts : List Turn) {op : Operation}
    {id : Nat} (moves : op.moves? = some id)
    (memory : (((World.opening host m .direct).after ts).resource id).payload.cls = .pointer) :
    let w := (World.opening host m .direct).after ts
    let w' := (op.perform.outcome w).2
    Passage w w' w.machine w.resources [] ∨
      ∃ c, w.machine.InBounds c ∧
        Passage w w' (w.machine.call c).2 w.resources (recorded c (w.machine.call c).1) ∧
        (op.Directed → ∀ code out, (w.machine.call c).1 = .code code out →
          code = w.machine.injected c.entryPoint) := by
  have direct := World.direct_after (orderly_opening host m .direct) rfl ts
  obtain way | ⟨c, ⟨bounds, directed⟩, way⟩ :=
    (Mirrors.opening host m ts).calls_in_bounds direct moves memory
  · exact .inl way
  · exact .inr ⟨c, bounds, way, fun kind code out reply =>
      Machine.code_of_inBounds bounds (directed kind) reply⟩

theorem memory_calls_in_bounds_filled :
    let w := (World.opening .bare .fresh .direct).after [.operate (.allocate (.int 16)) rfl]
    let op := Operation.fill 0 (.int 7) .null
    let c := NativeCall.fill (some 0x7f0000001000) (.int 7) (.int 16)
    op.moves? = some 0 ∧ (w.resource 0).payload.cls = .pointer ∧ w.machine.InBounds c ∧
      calls ((op.perform.outcome w).2.trace.drop w.trace.length) = [(c, 0)] := by
  intro w op c
  have made : calls ((op.perform.outcome w).2.trace.drop w.trace.length) = [(c, 0)] := rfl
  refine ⟨rfl, rfl, ?_, made⟩
  obtain none | ⟨d, bounds, way, -⟩ :=
    memory_calls_in_bounds .bare .fresh [.operate (.allocate (.int 16)) rfl]
      (show op.moves? = some 0 from rfl) rfl
  · cases made.symm.trans none.calls_drop
  · have mem : (c, 0) ∈ recorded d (w.machine.call d).1 := by
      rw [← way.calls_drop]
      exact made ▸ .head _
    obtain ⟨rfl, _⟩ := mem_recorded.1 mem
    exact bounds

end GpuHandles
