import GpuHandles.Proofs.DeviceBytes
import GpuHandles.Script.Run
/-!
A copy to the host into an array that is given.

The array has to be writable and contiguous, and the allocation has to have as many bytes; these
two gates are passed in this order before anything else is asked.  An array without elements is
given back as it is.  For every other one there is one native call, and where that succeeds the
array is given back with the first bytes of the allocation (`fills_given_array`).
-/

namespace GpuHandles

namespace HostArray

/-- An array that a copy to the host can be given. -/
def Fit (a : HostArray) : Prop := a.writable = true ∧ a.InStoreOrder

end HostArray

namespace Memory

variable {w : World} {l : Library} {id n : Nat} {r : Resource} {type : Value} {out b : HostArray}

/-- The gates of an array that is given, in their order. -/
theorem targetArray_given (size : r.payload.size = .int n) (laid : out.Laid) (type : Value)
    (w : World) :
    (¬out.Fit → (targetArray r type (.array out)).outcome w = (.error .badTarget, w)) ∧
      (out.Fit → (targetArray r type (.array out)).outcome w =
        (if n < out.byteCount then .error (exceeds "Output array" out.byteCount n) else .ok out,
          w)) := by
  unfold targetArray HostArray.Fit
  rw [← HostArray.isContiguous_iff laid]
  dsimp only
  constructor
  · intro unfit
    rcases Decidable.not_and_iff_not_or_not.1 unfit with locked | scattered
    · rw [if_pos (by simp [locked])]
      rfl
    · rw [if_pos (by simp [scattered])]
      rfl
  · rintro ⟨writable, ordered⟩
    have gate := checkFits_eq n out.byteCount "Output array" w
    rw [← size] at gate
    rw [if_neg (by simp [writable, ordered])]
    by_cases long : n < out.byteCount
    · rw [if_pos long] at gate ⊢
      exact Action.outcome_bind_error gate
    · rw [if_neg long] at gate ⊢
      rw [Action.outcome_bind_ok gate]
      rfl

/-- What comes back through a library is what was called for, also the next time. -/
theorem carries_again {c : NativeCall} {code : Int} {w' : World} (copies : c.entryPoint = .copy)
    (carries : l.Carries w n)
    (way : Passage w w' (w.machine.call c).2 w.resources [(c, code)])
    (installed : w.library = some l) : ∃ l', w'.library = some l' ∧ l'.Carries w' n := by
  have file := way.library
  rw [installed] at file
  obtain ⟨l', installed'⟩ := Option.isSome_iff_exists.1 (way.isSome (installed ▸ rfl))
  rw [installed'] at file
  refine ⟨l', installed', ?_⟩
  rcases carries with rfl | ⟨small, -⟩
  · left
    cases l' with
    | direct => rfl
    | loaded => cases file
  · right
    refine ⟨small, ?_⟩
    rw [way.machine, Machine.call_injected, if_pos copies.symm]
    decide

/-- The bytes that an array has got from an allocation, put back there. -/
theorem bytes_back (there : w.resources[id]? = some r) (active : r.released = false)
    (size : r.payload.size = .int n) (installed : w.library = some l)
    (carries : l.Carries w b.byteCount) (room : b.byteCount ≤ n)
    (bytes : b.bytes = (w.memory id).take b.byteCount) (key : Nat) :
    ((Operation.copyFromHost id (.array b)).perform.outcome w).2.machine.allocations.get? key =
      w.machine.allocations.get? key := by
  have memory := World.memory_of_getElem? there
  have call : writeCall r.payload.address b = .copy (.device r.payload.address)
      (.host ((w.machine.behind r.payload.address).take b.byteCount)) (.int b.byteCount) 1 := by
    rw [← memory, ← bytes]
    rfl
  have arrived : Loading.arriving l (writeCall r.payload.address b) = .ok (writeCall _ _) :=
    carries.arriving _ _ (by decide)
  show ((Operation.silent (copyFromHost id _)).outcome w).2.machine.allocations.get? key = _
  rw [Operation.silent_world, copyFromHost_fits there active size rfl room]
  by_cases empty : b.byteCount = 0
  · rw [if_pos empty]
  · rw [if_neg empty, Action.outcome_discard]
    dsimp only
    obtain ⟨-, w', way, ended⟩ | ⟨w', way, ended⟩ := Loading.request_arriving installed arrived
    · rw [ended, way.machine]
    · rw [ended, way.machine, call]
      exact w.machine.get?_writeBack _ _ key

/-- How a copy to the host into a given array ends. -/
inductive GivenEnd (w : World) (id n : Nat) (a : Address) (out : HostArray) :
    Except Fault Value → World → Prop
  | unfit (unfit : ¬out.Fit) : GivenEnd w id n a out (.error .badTarget) w
  | exceeding (fit : out.Fit) (long : n < out.byteCount) :
      GivenEnd w id n a out (.error (exceeds "Output array" out.byteCount n)) w
  | empty (fit : out.Fit) (none : out.byteCount = 0) :
      GivenEnd w id n a out (.ok (.array out)) w
  | asked {result : Except Fault Value} {w' : World} (fit : out.Fit)
      (some_bytes : out.byteCount ≠ 0) (room : out.byteCount ≤ n)
      (native : ReadEnd w id (readCall a out.byteCount) out result w') :
      GivenEnd w id n a out result w'

theorem copyToHost_given (installed : w.library = some l) (there : w.resources[id]? = some r)
    (active : r.released = false) (size : r.payload.size = .int n) (laid : out.Laid)
    (carries : l.Carries w out.byteCount) (type : Value) :
    GivenEnd w id n r.payload.address out ((copyToHost id type (.array out)).outcome w).1
      ((copyToHost id type (.array out)).outcome w).2 := by
  obtain ⟨unfit, fits⟩ := targetArray_given size laid type w
  by_cases fit : out.Fit
  · have target := fits fit
    by_cases long : n < out.byteCount
    · rw [if_pos long] at target
      rw [copyToHost_refused there active target]
      exact .exceeding fit long
    · rw [if_neg long] at target
      by_cases none : out.byteCount = 0
      · rw [copyToHost_empty there active target none]
        exact .empty fit none
      · exact .asked fit none (Nat.not_lt.1 long)
          (copyToHost_ends installed there active target none carries)
  · rw [copyToHost_refused there active (unfit fit)]
    exact .unfit fit

namespace GivenEnd

variable {a : Address} {result : Except Fault Value} {f : Fault} {w' : World}

theorem refused (h : GivenEnd w id n a out result w') (unfit : ¬out.Fit) :
    result = .error .badTarget ∧ w' = w := by
  cases h with
  | unfit => exact ⟨rfl, rfl⟩
  | exceeding fit | empty fit | asked fit => exact absurd fit unfit

theorem tooLong (h : GivenEnd w id n a out result w') (fit : out.Fit) (long : n < out.byteCount) :
    result = .error (exceeds "Output array" out.byteCount n) ∧ w' = w := by
  cases h with
  | unfit unfit => exact absurd fit unfit
  | exceeding => exact ⟨rfl, rfl⟩
  | empty _ none => omega
  | asked _ _ room => omega

theorem unasked (h : GivenEnd w id n a out result w') (fit : out.Fit) (none : out.byteCount = 0) :
    result = .ok (.array out) ∧ w' = w := by
  cases h with
  | unfit unfit => exact absurd fit unfit
  | exceeding _ long => omega
  | empty => exact ⟨rfl, rfl⟩
  | asked _ some_bytes => exact absurd none some_bytes

theorem native (h : GivenEnd w id n a out result w') (fit : out.Fit)
    (some_bytes : out.byteCount ≠ 0) (room : out.byteCount ≤ n) :
    ReadEnd w id (readCall a out.byteCount) out result w' := by
  cases h with
  | unfit unfit => exact absurd fit unfit
  | exceeding _ long => omega
  | empty _ none => exact absurd none some_bytes
  | asked _ _ _ native => exact native

/-- The first gate is the only source of a `ValueError`, but for a number that cannot be written:
that of the bytes at the second gate, or the code that the call ends with. -/
theorem of_valueError (h : GivenEnd w id n a out (.error f) w') (kind : f.kind = "ValueError") :
    ¬out.Fit ∨ f = .longNumber ∧
      (n < out.byteCount ∧ (Text.isWritable out.byteCount && Text.isWritable n) = false ∨
        Text.isWritable (w.machine.injected .copy) = false) := by
  cases h with
  | unfit unfit => exact .inl unfit
  | exceeding _ long =>
    obtain ⟨words, gave⟩ | ⟨unwritable, gave⟩ := exceeds_cases "Output array" out.byteCount n
    · rw [gave] at kind
      exact absurd kind (show "HipError" ≠ "ValueError" by decide)
    · exact .inr ⟨gave, .inl ⟨long, unwritable⟩⟩
  | asked _ _ _ native =>
    obtain ⟨gave, unwritable⟩ := native.of_valueError kind
    exact .inr ⟨gave, .inr unwritable⟩

/-- A fault leaves the resources as they were. -/
theorem resources_of_error (h : GivenEnd w id n a out (.error f) w') :
    w'.resources = w.resources := by
  cases h with
  | unfit | exceeding => rfl
  | asked _ _ _ native => exact native.resources

/-- The array that is given back is known by the number that it was known by. -/
theorem identity (h : GivenEnd w id n a out (.ok (.array b)) w') (known : out.identity ≠ 0) :
    b.identity = out.identity := by
  cases h with
  | empty => rfl
  | asked _ _ _ native =>
    cases native with
    | filled _ full => exact full.identity known

/-- The array that is given back, put back. -/
theorem put_back (h : GivenEnd w id n r.payload.address out (.ok (.array b)) w')
    (installed : w.library = some l) (there : w.resources[id]? = some r)
    (active : r.released = false) (size : r.payload.size = .int n) (laid : out.Laid)
    (carries : l.Carries w out.byteCount) (key : Nat) :
    ((Operation.copyFromHost id (.array b)).perform.outcome w').2.machine.allocations.get? key =
      w.machine.allocations.get? key := by
  cases h with
  | empty _ none =>
    refine bytes_back there active size installed carries (none ▸ Nat.zero_le n) ?_ key
    have bytes := HostArray.length_bytes laid
    rw [none] at bytes ⊢
    exact List.eq_nil_of_length_eq_zero bytes
  | asked _ _ room native =>
    cases native with
    | filled _ full way still =>
      obtain ⟨l', installed', carries'⟩ := carries_again rfl carries way installed
      have tables : w'.machine.allocations = w.machine.allocations := congrArg Tables.bytes still
      have memory : w'.memory id = w.memory id := by
        unfold World.memory
        rw [Machine.behind_congr still, World.resource_congr way.resources]
      rw [← full.count] at carries' room
      rw [bytes_back (way.resources ▸ there) active size installed' carries' room
        (by rw [memory, full.bytes, full.count]) key, tables]

end GivenEnd
end Memory

/-! ## Under the names of a script -/

namespace Script

/-- A task that ends in a fault leaves all names as they were. -/
theorem runTask_error {st : State} {t : Task} {f : Fault} {w' : World} (held : List Nat)
    (bind : Option String) (ended : (t.perform st.names).outcome st.world = (.error f, w')) :
    (runTask held st t bind).2 = ⟨w', st.names⟩ := by
  unfold runTask
  rw [ended]

/-- An array that a task gives, known by its number, stands under every name it had. -/
theorem runTask_array {st : State} {t : Task} {b a : HostArray} {w' : World} (held : List Nat)
    {bind : Option String} (ended : (t.perform st.names).outcome st.world = (.ok (.array b), w'))
    (known : b.identity ≠ 0) {name : String} (other : bind ≠ some name)
    (stood : st.names.get? name = some (.array a)) (same : a.identity = b.identity) :
    (runTask held st t bind).2.names.get? name = some (.array b) := by
  have renewed : (renewNames (.array b) st.names).get? name = some (.array b) := by
    have filled : filled? (.array b) = some b := if_neg known
    rw [renewNames, filled]
    have stands := Table.get?_mapEntries (renew b) st.names name
    rw [stood, Option.map_some, renew, if_pos same] at stands
    exact stands
  unfold runTask
  rw [ended]
  cases bind with
  | none => exact renewed
  | some given =>
    have names : (bindName held (renewNames (.array b) st.names) given (.array b)
        (renewWorld (.array b) w')).names =
          (renewNames (.array b) st.names).put given (.array b) := by
      unfold bindName
      split <;> rfl
    show (State.names _).get? name = _
    rw [names, Table.get?_put_of_ne _ fun h => other (congrArg some h)]
    exact renewed

end Script

/-! ## The whole -/

open Memory in
/-- **A copy into a given array** is refused with a `ValueError` if and only if the array is locked
or not contiguous, next if it is too long, and without a call in either case.  An array with
nothing in it is given back without a call, and any other one after one call, if that succeeds,
with the first bytes of the allocation.  Copied back, the array leaves the device as it was; and a
fault leaves it as it was under all its names.  Apart from these there is the `ValueError` of a
failure that has a number in its text that cannot be written. -/
theorem fills_given_array (w : World) {l : Library} {id n : Nat} {r : Resource} (type : Value)
    (out : HostArray) (installed : w.library = some l) (there : w.resources[id]? = some r)
    (active : r.released = false) (size : r.payload.size = .int n) (laid : out.Laid)
    (carries : l.Carries w out.byteCount) :
    let ended := (Operation.copyToHost id type (.array out)).perform.outcome w
    ((∃ f, ended.1 = .error f ∧ f.kind = "ValueError" ∧ f ≠ .longNumber) ↔
        ¬(out.writable = true ∧ out.InStoreOrder)) ∧
      (ended.1 = .error .longNumber →
        n < out.byteCount ∧ (Text.isWritable out.byteCount && Text.isWritable n) = false ∨
          Text.isWritable (w.machine.injected .copy) = false) ∧
      (¬out.Fit → ended = (.error .badTarget, w)) ∧
      (out.Fit → n < out.byteCount →
        ended = (.error (exceeds "Output array" out.byteCount n), w)) ∧
      (out.Fit → out.byteCount = 0 → ended = (.ok (.array out), w)) ∧
      (out.Fit → out.byteCount ≠ 0 → out.byteCount ≤ n →
        ReadEnd w id (readCall r.payload.address out.byteCount) out ended.1 ended.2) ∧
      (∀ b, ended.1 = .ok (.array b) → ∀ key,
        ((Operation.copyFromHost id (.array b)).perform.outcome ended.2).2.machine.allocations.get?
          key = w.machine.allocations.get? key) ∧
      ∀ (held : List Nat) (st : Script.State) (t : Script.Task) (bind : Option String),
        st.world = w → (t.perform st.names).outcome w = ended →
          (∀ f, ended.1 = .error f → (Script.runTask held st t bind).2.names = st.names ∧
            ended.2.resources = w.resources) ∧
          ∀ b, ended.1 = .ok (.array b) → out.identity ≠ 0 → ∀ name a, bind ≠ some name →
            st.names.get? name = some (.array a) → a.identity = out.identity →
              (Script.runTask held st t bind).2.names.get? name = some (.array b) := by
  intro ended
  have ends : GivenEnd w id n r.payload.address out ended.1 ended.2 :=
    copyToHost_given installed there active size laid carries type
  clear_value ended
  obtain ⟨result, w'⟩ := ended
  refine ⟨⟨?_, fun unfit => ⟨_, (ends.refused unfit).1, rfl, nofun⟩⟩, ?_, fun unfit => ?_,
    fun fit long => ?_, fun fit none => ?_, ends.native, ?_, ?_⟩
  · rintro ⟨f, rfl, kind, other⟩
    exact (ends.of_valueError kind).resolve_right fun long => other long.1
  · rintro rfl
    obtain unfit | ⟨-, long⟩ := ends.of_valueError rfl
    · cases (ends.refused unfit).1
    · exact long
  · obtain ⟨rfl, rfl⟩ := ends.refused unfit
    rfl
  · obtain ⟨rfl, rfl⟩ := ends.tooLong fit long
    rfl
  · obtain ⟨rfl, rfl⟩ := ends.unasked fit none
    rfl
  · rintro b rfl key
    exact ends.put_back installed there active size laid carries key
  · rintro held st t bind rfl run
    refine ⟨?_, ?_⟩
    · rintro f rfl
      exact ⟨by rw [Script.runTask_error held bind run], ends.resources_of_error⟩
    · rintro b rfl known name a other stood same
      have number := ends.identity known
      exact Script.runTask_array held run (number ▸ known) other stood (same.trans number.symm)

/-- A row of four numbers, turned into a column, is contiguous all the same.  It takes eight of
sixteen bytes that are all sevens. -/
theorem fills_given_array_turned :
    let w := (World.opening .bare .fresh .direct).after
      [.operate (.allocate (.int 16)) rfl, .operate (.fill 0 (.int 7) .null) rfl]
    let out := (HostArray.ofBytes (.whole false 2 false) [1, 4] (List.replicate 8 0)).transpose
    out.Fit ∧ ∃ b, ((Operation.copyToHost 0 .null (.array out)).perform.outcome w).1 =
      .ok (.array b) ∧ b.shape = [4, 1] ∧ b.bytes = List.replicate 8 7 := by
  intro w out
  have laid : out.Laid := rfl
  have fit : out.Fit := ⟨rfl, (HostArray.isContiguous_iff laid).1 rfl⟩
  have there : w.resources[0]? = some (.owning (.pointer (some 0x7f0000001000) (.int 16))) := rfl
  have native := (fills_given_array (n := 16) w .null out rfl there rfl rfl laid
    (.inl rfl)).2.2.2.2.2.1 fit (by decide) (by decide)
  obtain ⟨b, value, full⟩ := native.filled_of ⟨Bool.false_ne_true, rfl⟩ (by decide)
  exact ⟨fit, b, value, full.shape, full.bytes⟩

end GpuHandles
