import GpuHandles.Proofs.FailedRelease
import GpuHandles.Tour
/-!
What narrations end with.

A narration is run by `Narration.outcome`, and the lemmas here take a run apart the way the
narration is put together.  A block that holds a resource (`holding`) does what its body does,
and then the resource is left, whichever way the body ended (`outcome_holding`).
-/

namespace GpuHandles.Tour.Narration

variable {α β : Type} {s s₁ : World × String}

/-- The value or fault of a narration, the world after it, and what has been printed. -/
def outcome (a : Narration α) (s : World × String) : Except Fault α × World × String :=
  Id.run (StateT.run (ExceptT.run a) s)

@[simp] theorem outcome_pure (x : α) (s : World × String) :
    (pure x : Narration α).outcome s = (.ok x, s) := rfl

@[simp] theorem outcome_throw (f : Fault) (s : World × String) :
    (throw f : Narration α).outcome s = (.error f, s) := rfl

@[simp] theorem outcome_act (a : Action α) (s : World × String) :
    (act a).outcome s = ((a.outcome s.1).1, (a.outcome s.1).2, s.2) := rfl

@[simp] theorem outcome_say (line : String) (s : World × String) :
    (say line).outcome s = (.ok (), s.1, s.2 ++ line ++ "\n") := rfl

@[simp] theorem outcome_textOf (v : Value) (s : World × String) :
    (textOf v).outcome s = (.ok (v.spoken s.1.name), s) := rfl

@[simp] theorem outcome_attempt (a : Narration α) (s : World × String) :
    (attempt a).outcome s = (.ok (a.outcome s).1, (a.outcome s).2) := rfl

/-- A sequence goes on from where its first part ended, unless that was in a fault. -/
theorem outcome_bind (a : Narration α) (f : α → Narration β) (s : World × String) :
    (a >>= f).outcome s =
      match a.outcome s with
      | (.ok x, s₁) => (f x).outcome s₁
      | (.error e, s₁) => (.error e, s₁) := by
  rcases h : a.outcome s with ⟨r, s₁⟩
  have first : ExceptT.run a s = (r, s₁) := h
  show StateT.bind (ExceptT.run a) (ExceptT.bindCont f) s = _
  simp only [StateT.bind, first]
  cases r <;> rfl

theorem outcome_bind_ok {a : Narration α} {f : α → Narration β} {x : α}
    (h : a.outcome s = (.ok x, s₁)) : (a >>= f).outcome s = (f x).outcome s₁ := by
  rw [outcome_bind, h]

theorem outcome_bind_error {a : Narration α} {f : α → Narration β} {e : Fault}
    (h : a.outcome s = (.error e, s₁)) : (a >>= f).outcome s = (.error e, s₁) := by
  rw [outcome_bind, h]

/-- A part by its value alone: the rest goes on where it ended. -/
theorem outcome_bind_of_ok {a : Narration α} {f : α → Narration β} {x : α}
    (ended : (a.outcome s).1 = .ok x) : (a >>= f).outcome s = (f x).outcome (a.outcome s).2 :=
  outcome_bind_ok (Prod.ext ended rfl)

theorem outcome_bind_of_error {a : Narration α} {f : α → Narration β} {e : Fault}
    (ended : (a.outcome s).1 = .error e) : (a >>= f).outcome s = (.error e, (a.outcome s).2) :=
  outcome_bind_error (Prod.ext ended rfl)

theorem outcome_discard (a : Narration α) (s : World × String) :
    (discard a).outcome s = ((a.outcome s).1.map fun _ => ⟨⟩, (a.outcome s).2) := by
  show (a >>= fun _ => pure PUnit.unit).outcome s = _
  rw [outcome_bind]
  rcases a.outcome s with ⟨_ | _, _⟩ <;> rfl

/-- Actions one after another inside a narration. -/
theorem act_bind (a : Action α) (f : α → Action β) :
    act (a >>= f) = act a >>= fun x => act (f x) := by
  refine funext fun s => ?_
  show outcome (act (a >>= f)) s = outcome (act a >>= fun x => act (f x)) s
  rw [outcome_bind, outcome_act, outcome_act, Action.outcome_bind]
  rcases a.outcome s.1 with ⟨_ | _, _⟩ <;> rfl

/-- An operation inside a narration. -/
theorem outcome_perform (op : Operation) (s : World × String) :
    (perform op).outcome s = ((op.perform.outcome s.1).1, (op.perform.outcome s.1).2, s.2) := rfl

theorem outcome_performed {w w' : World} {printed : String} {op : Operation} {v : Value}
    (ended : op.perform.outcome w = (.ok v, w')) :
    (perform op).outcome (w, printed) = (.ok v, w', printed) := by
  rw [outcome_perform, ended]

theorem outcome_done {w w' : World} {printed : String} {op : Operation} {v : Value}
    (ended : op.perform.outcome w = (.ok v, w')) :
    (discard (perform op)).outcome (w, printed) = (.ok ⟨⟩, w', printed) := by
  rw [outcome_discard, outcome_performed ended]
  rfl

/-! ## Blocks that hold a resource -/

/-- The end of a block that holds a resource, by what its body ended with. -/
def leaving (id : Nat) : Except Fault α → Operation
  | .ok _ => .leave id none
  | .error f => .leave id (some f)

theorem subject_leaving (id : Nat) (r : Except Fault α) : (leaving id r).subject = some id := by
  cases r <;> rfl

theorem enter_active {w : World} {id : Nat} (active : (w.resource id).released = false) :
    (Operation.enter id).perform.outcome w = (.ok .null, w) := by
  have going := Ownership.active_ok (World.getElem?_of_active active) active
  have entered : (Ownership.enter id).outcome w = (.ok (), w) := by
    unfold Ownership.enter
    rw [Action.outcome_discard, going]
    rfl
  show (Operation.silent (Ownership.enter id)).outcome w = _
  unfold Operation.silent
  rw [Action.outcome_bind_ok entered]
  rfl

/-- **A block** that holds an active resource: its body, and then the end of the block.  A fault
of the end takes the place of what the body ended with. -/
theorem outcome_holding {id : Nat} {cls : HandleClass} {body : Narration α}
    (active : (s.1.resource id).released = false) :
    (holding (.handle id cls) body).outcome s =
      let inner := body.outcome s
      let left := (leaving id inner.1).perform.outcome inner.2.1
      (left.1.bind fun _ => inner.1, left.2, inner.2.2) := by
  have entered : (discard (perform (.enter id))).outcome s = (.ok (), s) := by
    rw [outcome_discard, outcome_perform, enter_active active]
    rfl
  unfold holding
  dsimp only
  rw [outcome_bind_ok entered, outcome_bind_ok (outcome_attempt body s)]
  rcases body.outcome s with ⟨f | x, s₁⟩
  · dsimp only [leaving]
    rw [outcome_bind, outcome_discard, outcome_perform]
    rcases (Operation.leave id (some f)).perform.outcome s₁.1 with ⟨_ | _, _⟩ <;> rfl
  · dsimp only [leaving]
    rw [outcome_bind, outcome_discard, outcome_perform]
    rcases (Operation.leave id none).perform.outcome s₁.1 with ⟨_ | _, _⟩ <;> rfl

/-- Where the resource can be left, the block ends with what its body ended with. -/
theorem holding_result {id : Nat} {cls : HandleClass} {body : Narration α}
    (active : (s.1.resource id).released = false)
    (clean : ((leaving id (body.outcome s).1).perform.outcome (body.outcome s).2.1).1 =
      (leaving id (body.outcome s).1).spared) :
    ((holding (.handle id cls) body).outcome s).1 = (body.outcome s).1 := by
  rw [outcome_holding active]
  dsimp only
  rw [clean]
  rcases (body.outcome s).1 with f | x <;> rfl

end GpuHandles.Tour.Narration
