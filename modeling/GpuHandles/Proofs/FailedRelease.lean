import GpuHandles.Proofs.ReleaseEnd
/-!
An operation whose release fails.

The fault is raised, or a line of the log stands in for it, and never both.  A call of a release
and the end of a block that went well raise it; the end of a last name writes the line, and so
does the end of a block whose body ended in a fault, if the native call answered with a code
(`Operation.subject_told`).

The body's fault leaves its block unless the native call could not be made (`Hindered`), or its
code cannot be written; then the reason for that does, and there is no line (`body_fault_leaves`).
-/

namespace GpuHandles

/-! ## Operations that release -/

namespace Operation

/-- What an operation ends with if its release does not fail. -/
def spared (op : Operation) : Except Fault Value :=
  match op with
  | leave _ (some f) => .error f
  | _ => .ok .null

/-- What an operation ends with, by how its release ends. -/
def ended (op : Operation) : Except Fault Unit → Except Fault Value
  | .ok () => op.spared
  | .error g => if op.raises g then .error g else op.spared

/-- The lines of the log that stand in for the fault of a release. -/
def told (op : Operation) (r : Resource) : Except Fault Unit → List LogRecord
  | .ok () => []
  | .error g => if op.raises g then [] else op.swallowed r g

variable {op : Operation} {w w' : World} {id : Nat} {result : Except Fault Unit}

/-- **An operation that is to release an active resource**, by how the release ends. -/
theorem subject_ended (subject : op.subject = some id) (active : (w.resource id).released = false)
    (released : (Ownership.release id).outcome w = (result, w')) :
    op.perform.outcome w =
      (op.ended result, { w' with log := w'.log ++ op.told (w.resource id) result }) := by
  have going : ¬(w.resource id).released = true := by simp [active]
  have unwritten (r : Except Fault Value) : (r, w') = (r, { w' with log := w'.log ++ [] }) := by
    rw [List.append_nil]
  have plain : (silent (Ownership.release id)).outcome w = (result.map fun _ => .null, w') := by
    unfold silent
    rw [Action.outcome_bind, released]
    cases result <;> rfl
  cases op with
  | free pointer =>
    show (silent (Memory.free pointer)).outcome w = _
    rw [free_of_subject subject, plain]
    cases result <;> exact unwritten _
  | release k =>
    cases subject
    refine plain.trans ?_
    cases result <;> exact unwritten _
  | leave k body =>
    cases subject
    show (silent (Ownership.leave id body)).outcome w = _
    unfold silent Ownership.leave
    rw [Action.outcome_bind, Action.outcome_bind_ok (Action.outcome_get w), if_neg going]
    cases body with
    | none =>
      dsimp only
      rw [released]
      cases result <;> exact unwritten _
    | some f =>
      dsimp only
      rw [Action.outcome_bind_ok (Action.outcome_attempt _ w), released]
      cases result with
      | ok => exact unwritten _
      | error g =>
        cases g with
        | status => rfl
        | _ => exact unwritten _
  | finalize k =>
    cases subject
    show (silent (Ownership.finalize id)).outcome w = _
    unfold silent Ownership.finalize
    rw [Action.outcome_bind, Action.outcome_bind_ok (Action.outcome_get w), if_neg going,
      Action.outcome_bind_ok (Action.outcome_attempt _ w), released]
    cases result with
    | ok => exact unwritten _
    | error => rfl
  | _ => cases subject

theorem errors_told (op : Operation) (r : Resource) (result : Except Fault Unit) :
    errors (op.told r result) = op.told r result := by
  have swallowed (g : Fault) : errors (op.swallowed r g) = op.swallowed r g := by
    cases op with
    | leave id body =>
      cases body with
      | none => rfl
      | some f =>
        rw [swallowed]
        split <;> rfl
    | _ => rfl
  cases result with
  | ok => rfl
  | error g =>
    by_cases raises : op.raises g = true
    · rw [told, if_pos raises]
      rfl
    · rw [told, if_neg raises, swallowed]

/-- What such an operation leaves behind: its resource is marked, and the errors in the log are
those that stand in for the fault of the release. -/
theorem subject_told (subject : op.subject = some id)
    (active : (w.resource id).released = false) :
    let r := w.resource id
    let out := op.perform.outcome w
    ∃ result es ls, ((Ownership.release id).outcome w).1 = result ∧ out.1 = op.ended result ∧
      out.2.resources = w.resources.set id r.retired ∧ w.Gains out.2 es ls ∧
      errors ls = op.told r result ∧
      ((∃ g, Hindered w id g ∧ result = .error g ∧ calls es = []) ∨
        (∀ g, ¬Hindered w id g) ∧
          ((w.marked id).countsAsTrue r.owned = .ok false ∧ result = .ok () ∧ calls es = [] ∨
            ∃ c l code, r.payload.releaseCall? = some c ∧ out.2.library = some l ∧
              calls es = [(c, code)] ∧ result = codeResult (Loading.returning l code))) := by
  have ends := Ownership.release_ends active
  rcases released : (Ownership.release id).outcome w with ⟨result, w'⟩
  rw [released] at ends
  obtain ⟨es, ls, way, fine, ended⟩ := ends.gains
  intro r out
  rw [show out = _ from subject_ended subject active released]
  refine ⟨result, es, ls ++ op.told r result, rfl, rfl, ends.resources, ⟨way.trace, ?_⟩, ?_, ended⟩
  · dsimp only
    rw [way.log, List.append_assoc]
  · rw [errors_append, fine, errors_told]
    rfl

end Operation

/-! ## The end of a block -/

namespace Operation

variable {id : Nat} {r : Resource} {f : Fault} {code : Int}

theorem leave_of_writable (writable : Text.isWritable code = true) :
    (leave id (some f)).ended (codeResult code) = .error f ∧
      (leave id (some f)).told r (codeResult code) =
        if code = 0 then [] else [r.failure ("after " ++ f.kind) (.ofCode code)] := by
  have quiet : (leave id (some f)).raises (.ofCode code) = false := by
    rw [raises, Fault.isStatus_ofCode, writable]
    rfl
  unfold codeResult
  by_cases success : code = 0
  · rw [if_pos success, if_pos success]
    exact ⟨rfl, rfl⟩
  · rw [if_neg success, if_neg success, ended, told, swallowed, quiet]
    exact ⟨rfl, rfl⟩

theorem leave_of_unwritable (unwritable : Text.isWritable code = false) :
    (leave id (some f)).ended (codeResult code) = .error .longNumber ∧
      (leave id (some f)).told r (codeResult code) = [] := by
  have failure : code ≠ 0 := by
    rintro rfl
    cases unwritable
  unfold codeResult
  rw [if_neg failure, Fault.ofCode_of_unwritable unwritable]
  exact ⟨rfl, rfl⟩

end Operation

open Operation (leave_of_writable leave_of_unwritable)

/-- **A block whose body ended in a fault.**  However the world is, and whichever library there
is or can be found, the resource is released when the block is left.  If nothing keeps its native
release from being called, the body's fault leaves the block, and the log has one error if the
call was made and its code is not zero, and else none.  If something does, that fault leaves the
block, nothing is called, and the log has no error; nor has it one if the code cannot be written,
and then the refusal to write it leaves the block. -/
theorem body_fault_leaves (w : World) (id : Nat) (f : Fault)
    (active : (w.resource id).released = false) :
    let r := w.resource id
    let out := (Operation.leave id (some f)).perform.outcome w
    out.2.resources = w.resources.set id r.retired ∧
      ∃ es ls, w.Gains out.2 es ls ∧
        (∀ g, Hindered w id g → out.1 = .error g ∧ calls es = [] ∧ errors ls = []) ∧
        ((∀ g, ¬Hindered w id g) →
          (out.1 = .error f ∧ calls es = [] ∧ errors ls = [] ∧
              (w.marked id).countsAsTrue r.owned = .ok false ∨
            ∃ c l code, r.payload.releaseCall? = some c ∧ out.2.library = some l ∧
              calls es = [(c, code)] ∧
              (Text.isWritable (Loading.returning l code) = true → out.1 = .error f ∧ errors ls =
                if Loading.returning l code = 0 then []
                else [r.failure ("after " ++ f.kind) (.ofCode (Loading.returning l code))]) ∧
              (Text.isWritable (Loading.returning l code) = false →
                out.1 = .error .longNumber ∧ errors ls = []))) := by
  have subject : (Operation.leave id (some f)).subject = some id := rfl
  obtain ⟨result, es, ls, -, gave, marked, way, written, ended⟩ :=
    Operation.subject_told subject active
  intro r out
  rw [gave]
  refine ⟨marked, es, ls, way, ?_⟩
  rw [written]
  obtain ⟨g, cause, rfl, uncalled⟩ | ⟨free, ended⟩ := ended
  · refine ⟨fun g' cause' => ?_, fun free => absurd cause (free g)⟩
    cases cause.unique cause'
    have raises : (Operation.leave id (some f)).raises g = true := by
      rw [Operation.raises, cause.unstatused]
      rfl
    exact ⟨if_pos raises, uncalled, if_pos raises⟩
  · refine ⟨fun g cause => absurd cause (free g), fun _ => ?_⟩
    obtain ⟨borrowed, rfl, uncalled⟩ | ⟨c, l, code, call, installed, called, rfl⟩ := ended
    · exact .inl ⟨rfl, uncalled, rfl, borrowed⟩
    · exact .inr ⟨c, l, code, call, installed, called, leave_of_writable, leave_of_unwritable⟩

/-- The native call fails: the body's fault leaves the block, and the log has one error. -/
theorem body_fault_leaves_coded :
    let w := ((Operation.allocate (.int 16)).perform.outcome
      (.start .bare (Machine.fresh.failNext .free 17) (some .direct))).2
    let out := (Operation.leave 0 (some (.raised "boom"))).perform.outcome w
    out.1 = .error (.raised "boom") ∧ errors out.2.log = [⟨.error, .ownership,
      "Failed to release device allocation after RuntimeError: HIP status: Unknown (code: 17)"⟩] := by
  intro w out
  have free (g : Fault) : ¬Hindered w 0 g := by
    intro cause
    cases cause with
    | unclear truth => cases truth
    | bare _ none => cases none
    | unloaded _ _ failed => cases failed
    | absent _ call _ _ missing =>
      cases call
      cases missing
  obtain ⟨-, es, ls, way, -, leaves⟩ := body_fault_leaves w 0 (.raised "boom") rfl
  obtain ⟨-, -, -, borrowed⟩ | ⟨c, l, code, -, installed, called, written, -⟩ := leaves free
  · cases borrowed
  · have direct : out.2.library = some .direct := by decide +kernel
    cases direct.symm.trans installed
    have recorded : (calls out.2.trace).map Prod.snd = (calls w.trace).map Prod.snd ++ [17] := by
      decide +kernel
    rw [way.trace, calls_append, called, List.map_append] at recorded
    cases List.append_cancel_left recorded
    refine ⟨(written rfl).1, ?_⟩
    rw [way.log, errors_append, (written rfl).2]
    rfl

/-- The entry point of the release is missing: that leaves the block in place of the body's
fault, and the log has no error. -/
theorem body_fault_replaced :
    let w := ((Operation.allocate (.int 16)).perform.outcome
      (.start .bare { Machine.fresh with missing := ["hipFree"] } (some .direct))).2
    let out := (Operation.leave 0 (some (.raised "boom"))).perform.outcome w
    (w.resource 0).released = false ∧ out.1 = .error (.undefinedSymbol "hipFree") ∧
      errors out.2.log = [] :=
  ⟨rfl, rfl, rfl⟩

end GpuHandles
