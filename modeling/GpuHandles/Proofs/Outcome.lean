import GpuHandles.Operation
/-!
What composite actions end with.

An action is run by `Action.outcome`.  The lemmas here take a run apart along the way the
action is put together, so that later proofs never open the error and state layers:
a sequence (`outcome_bind`), a computation that touches no world (`outcome_ofExcept`), an
attempt (`outcome_attempt`), a result thrown away (`outcome_discard`).
-/

namespace GpuHandles

/-! ## Results -/

theorem map_ok {ε α β : Type} {f : α → β} {r : Except ε α} {b : β} (h : f <$> r = .ok b) :
    ∃ a, r = .ok a ∧ f a = b := by
  cases r with
  | error e => cases h
  | ok a => exact ⟨a, rfl, by injection h⟩

theorem bind_ok {ε α β : Type} {f : α → Except ε β} {r : Except ε α} {b : β}
    (h : r >>= f = .ok b) : ∃ a, r = .ok a ∧ f a = .ok b := by
  cases r with
  | error e => cases h
  | ok a => exact ⟨a, rfl, h⟩

/-! ## Runs -/

namespace Action

variable {α β : Type}

@[simp] theorem outcome_pure (a : α) (w : World) : (pure a : Action α).outcome w = (.ok a, w) := rfl

@[simp] theorem outcome_throw (f : Fault) (w : World) :
    (throw f : Action α).outcome w = (.error f, w) := rfl

@[simp] theorem outcome_get (w : World) : (get : Action World).outcome w = (.ok w, w) := rfl

@[simp] theorem outcome_set (v w : World) : (set v : Action PUnit).outcome w = (.ok ⟨⟩, v) := rfl

@[simp] theorem outcome_modify (f : World → World) (w : World) :
    (modify f : Action PUnit).outcome w = (.ok ⟨⟩, f w) := rfl

@[simp] theorem outcome_record (e : Event) (w : World) :
    (record e).outcome w = (.ok (), { w with trace := w.trace ++ [e] }) := rfl

@[simp] theorem outcome_write (level : Level) (logger : Logger) (text : String) (w : World) :
    (write level logger text).outcome w =
      (.ok (), { w with log := w.log ++ [⟨level, logger, text⟩] }) := rfl

/-- A sequence goes on from the world that its first part left, unless that ended in a fault. -/
theorem outcome_bind (a : Action α) (f : α → Action β) (w : World) :
    (a >>= f).outcome w =
      match a.outcome w with
      | (.ok x, w') => (f x).outcome w'
      | (.error e, w') => (.error e, w') := by
  rcases h : a.outcome w with ⟨r, w'⟩
  have first : ExceptT.run a w = (r, w') := h
  show StateT.bind (ExceptT.run a) (ExceptT.bindCont f) w = _
  simp only [StateT.bind, first]
  cases r <;> rfl

theorem outcome_bind_ok {a : Action α} {f : α → Action β} {w w' : World} {x : α}
    (h : a.outcome w = (.ok x, w')) : (a >>= f).outcome w = (f x).outcome w' := by
  rw [outcome_bind, h]

theorem outcome_bind_error {a : Action α} {f : α → Action β} {w w' : World} {e : Fault}
    (h : a.outcome w = (.error e, w')) : (a >>= f).outcome w = (.error e, w') := by
  rw [outcome_bind, h]

@[simp] theorem outcome_ofExcept (r : Except Fault α) (w : World) :
    (ofExcept r).outcome w = (r, w) := by
  cases r <;> rfl

theorem ofExcept_bind (r : Except Fault α) (f : α → Except Fault β) :
    ofExcept (r >>= f) = ofExcept r >>= fun x => ofExcept (f x) := by
  cases r <;> rfl

@[simp] theorem outcome_attempt (a : Action α) (w : World) :
    (attempt a).outcome w = (.ok (a.outcome w).1, (a.outcome w).2) := rfl

theorem outcome_map (f : α → β) (a : Action α) (w : World) :
    (f <$> a).outcome w = ((a.outcome w).1.map f, (a.outcome w).2) := by
  rw [map_eq_pure_bind, outcome_bind]
  rcases a.outcome w with ⟨_ | _, _⟩ <;> rfl

theorem outcome_discard (a : Action α) (w : World) :
    (discard a).outcome w = ((a.outcome w).1.map fun _ => ⟨⟩, (a.outcome w).2) := by
  show (a >>= fun _ => pure PUnit.unit).outcome w = _
  rw [outcome_bind]
  rcases a.outcome w with ⟨_ | _, _⟩ <;> rfl

end Action

/-! ## Worlds with the same resources -/

namespace World

variable {w v : World}

theorem resource_congr (same : v.resources = w.resources) (id : Nat) :
    v.resource id = w.resource id := by
  unfold resource
  rw [same]

theorem name_congr (same : v.resources = w.resources) : v.name = w.name := by
  have within (fuel : Nat) : v.nameWithin fuel = w.nameWithin fuel := by
    induction fuel with
    | zero => rfl
    | succ fuel ih =>
      funext id
      unfold nameWithin
      rw [resource_congr same, ih]
  funext id
  unfold name
  rw [same, within]

theorem sizeOf_congr (same : v.resources = w.resources) : v.sizeOf = w.sizeOf :=
  funext fun id => congrArg (fun r => r.payload.size) (resource_congr same id)

theorem countsAsTrue_congr (same : v.resources = w.resources) :
    v.countsAsTrue = w.countsAsTrue := by
  funext x
  unfold countsAsTrue
  rw [sizeOf_congr same]

end World
end GpuHandles
