import GpuHandles.Proofs.Effect
import GpuHandles.Proofs.StatusCodes
/-!
What becomes of a status that is not success.

`Action.Relays steady a` says of an action over the machine itself that a call of it that fails
is its last, and that the action ends in the failure of just that code, with the resources and
the log as they were.  Such actions go on after each other as long as those that come first are
steady: without a failure they leave the resources and the log alone, too (`Relays.bind`).
Every operation is put together this way but those that release a resource, which mark it and
log the release before they call, and the question about a stream, which has an answer for one
code (`failed_call_reported`).
-/

namespace GpuHandles

/-- The last of some calls has failed with a code, and none before it has. -/
def FailedWith (cs : List (NativeCall × Int)) (code : Int) : Prop :=
  ∃ before c, cs = before ++ [(c, code)] ∧ (∀ e ∈ before, e.2 = 0) ∧ code ≠ 0

theorem FailedWith.append {cs : List (NativeCall × Int)} {code : Int}
    {before : List (NativeCall × Int)} (h : FailedWith cs code) (fine : ∀ e ∈ before, e.2 = 0) :
    FailedWith (before ++ cs) code := by
  obtain ⟨first, c, rfl, fine', failure⟩ := h
  refine ⟨before ++ first, c, (List.append_assoc ..).symm, ?_, failure⟩
  intro e he
  rcases List.mem_append.1 he with he | he
  · exact fine e he
  · exact fine' e he

namespace World

/-- Calls of the machine were recorded on the way from `w` to `w'`, and nothing else passed. -/
structure Called (w w' : World) (cs : List (NativeCall × Int)) : Prop where
  host : w'.host = w.host
  library : w'.library = w.library
  trace : w'.trace = w.trace ++ cs.map Event.ofCall

/-- Resources and log are as they were. -/
structure Untouched (w w' : World) : Prop where
  resources : w'.resources = w.resources
  log : w'.log = w.log

variable {w w₁ w₂ : World} {cs cs₁ cs₂ : List (NativeCall × Int)}

theorem Called.refl (w : World) : w.Called w [] := ⟨rfl, rfl, (List.append_nil _).symm⟩

theorem Called.trans (h₁ : w.Called w₁ cs₁) (h₂ : w₁.Called w₂ cs₂) :
    w.Called w₂ (cs₁ ++ cs₂) where
  host := h₂.host.trans h₁.host
  library := h₂.library.trans h₁.library
  trace := by rw [h₂.trace, h₁.trace, List.append_assoc, List.map_append]

theorem Untouched.refl (w : World) : w.Untouched w := ⟨rfl, rfl⟩

theorem Untouched.trans (h₁ : w.Untouched w₁) (h₂ : w₁.Untouched w₂) : w.Untouched w₂ :=
  ⟨h₂.resources.trans h₁.resources, h₂.log.trans h₁.log⟩

end World

/-! ## Actions -/

/-- A call that fails is the last one of the action, which ends in its code and nothing else.
Without a failure a steady action leaves resources and log as they were. -/
def Action.Relays {α : Type} (steady : Prop) (a : Action α) : Prop :=
  ∀ w, w.library = some .direct → ∃ cs, w.Called (a.outcome w).2 cs ∧
    ((∀ e ∈ cs, e.2 = 0) ∧ (steady → w.Untouched (a.outcome w).2) ∨
      ∃ code, FailedWith cs code ∧ (a.outcome w).1 = .error (.ofCode code) ∧
        w.Untouched (a.outcome w).2)

namespace Action.Relays

variable {α β : Type} {steady : Prop} {a : Action α}

/-- An action that only looks at the world. -/
theorem reads (same : ∀ w, (a.outcome w).2 = w) : Relays steady a := by
  intro w _
  rw [same w]
  exact ⟨[], .refl w, .inl ⟨by simp, fun _ => .refl w⟩⟩

theorem pure (x : α) : Relays steady (Pure.pure x : Action α) := reads fun _ => rfl

theorem throw (f : Fault) : Relays steady (MonadExcept.throw f : Action α) := reads fun _ => rfl

theorem compute (r : Except Fault α) : Relays steady (Action.ofExcept r) :=
  reads fun w => congrArg Prod.snd (outcome_ofExcept r w)

theorem get : Relays steady (MonadState.get : Action World) := reads fun _ => rfl

theorem active (id : Nat) : Relays steady (Ownership.active id) :=
  reads fun w => congrArg Prod.snd (Ownership.active_outcome id w)

/-- An action that calls nothing may do anything else, once all calls have been made. -/
theorem idle (same : ∀ w : World, w.Called (a.outcome w).2 []) : Relays False a :=
  fun w _ => ⟨[], same w, .inl ⟨by simp, False.elim⟩⟩

theorem bind {f : α → Action β} (first : Relays True a) (rest : ∀ x, Relays steady (f x)) :
    Relays steady (a >>= f) := by
  intro w direct
  obtain ⟨cs, way, ended⟩ := first w direct
  rw [outcome_bind]
  rcases run : a.outcome w with ⟨result, w₁⟩
  rw [run] at way ended
  cases result with
  | error g =>
    refine ⟨cs, way, ?_⟩
    rcases ended with ⟨fine, same⟩ | ⟨code, failed, gave, same⟩
    · exact .inl ⟨fine, fun _ => same trivial⟩
    · cases gave
      exact .inr ⟨code, failed, rfl, same⟩
  | ok x =>
    obtain ⟨fine, same⟩ | ⟨_, _, gave, _⟩ := ended
    · obtain ⟨cs', way', ended'⟩ := rest x w₁ (way.library.trans direct)
      refine ⟨cs ++ cs', way.trans way', ?_⟩
      rcases ended' with ⟨fine', same'⟩ | ⟨code, failed, gave, same'⟩
      · refine .inl ⟨?_, fun h => (same trivial).trans (same' h)⟩
        intro e he
        rcases List.mem_append.1 he with he | he
        · exact fine e he
        · exact fine' e he
      · exact .inr ⟨code, failed.append fine, gave, (same trivial).trans same'⟩
    · cases gave

theorem discard (h : Relays True a) : Relays steady (Functor.discard a) :=
  h.bind fun _ => .pure _

theorem map (f : α → β) (h : Relays True a) : Relays steady (f <$> a) := by
  rw [map_eq_pure_bind]
  exact h.bind fun x => .pure (f x)

theorem silent {a : Action Unit} (h : Relays steady a) :
    Relays steady (Operation.silent a) := by
  intro w direct
  obtain ⟨cs, way, ended⟩ := h w direct
  refine ⟨cs, by rw [Operation.silent_world]; exact way, ?_⟩
  rw [Operation.silent_world]
  rcases ended with fine | ⟨code, failed, gave, same⟩
  · exact .inl fine
  · refine .inr ⟨code, failed, ?_, same⟩
    unfold Operation.silent
    rw [outcome_bind]
    rcases run : a.outcome w with ⟨result, w₁⟩
    rw [run] at gave
    cases gave
    rfl

/-- A look for an entry point gives the machine itself. -/
theorem resolve {e : EntryPoint} {f : Library → Action β} (rest : Relays steady (f .direct)) :
    Relays steady (Loading.resolve e >>= f) := by
  intro w direct
  have looked := Loading.resolve_direct direct e
  by_cases absent : w.machine.missing.contains e.name
  · rw [if_pos absent] at looked
    rw [outcome_bind_error looked]
    exact ⟨[], .refl w, .inl ⟨by simp, fun _ => .refl w⟩⟩
  · rw [if_neg absent] at looked
    rw [outcome_bind_ok looked]
    exact rest w direct

/-- A call of the machine itself leaves resources and log alone. -/
theorem invoke_called (c : NativeCall) (w : World) :
    ∃ w', w.Called w' (recorded c (w.machine.call c).1) ∧ w.Untouched w' ∧
      (Loading.invoke .direct c).outcome w =
        (Loading.answered .direct (w.machine.call c).1, w') := by
  refine ⟨_, ?_, ?_, Loading.invoke_outcome rfl w⟩
  · exact ⟨rfl, rfl, rfl⟩
  · exact ⟨rfl, rfl⟩

/-- A call whose code is checked before its output is read. -/
theorem checked {c : NativeCall} {f : Output → Action β} {g : Int × Output → Action β}
    (form : ∀ code out, g (code, out) = (Loading.check code >>= fun _ => f out))
    (rest : ∀ out, Relays steady (f out)) : Relays steady (Loading.invoke .direct c >>= g) := by
  intro w direct
  obtain ⟨w₁, way, same, invoked⟩ := invoke_called c w
  cases reply : (w.machine.call c).1 with
  | fault g =>
    rw [reply] at invoked way
    rw [outcome_bind_error (e := g) invoked]
    exact ⟨[], way, .inl ⟨by simp, fun _ => same⟩⟩
  | code code out =>
    rw [reply] at invoked way
    have checking := Loading.check_outcome code w₁
    rw [outcome_bind_ok (x := (code, out)) invoked, form]
    by_cases success : code = 0
    · rw [if_pos success] at checking
      rw [outcome_bind_ok checking]
      obtain ⟨cs, way', ended⟩ := rest out w₁ (way.library.trans direct)
      have fine : ∀ e ∈ [(c, code)], e.2 = 0 := by simpa using success
      refine ⟨_, way.trans way', ?_⟩
      rcases ended with ⟨fine', same'⟩ | ⟨code', failed, gave, same'⟩
      · refine .inl ⟨?_, fun h => same.trans (same' h)⟩
        intro e he
        rcases List.mem_append.1 he with he | he
        · exact fine e he
        · exact fine' e he
      · exact .inr ⟨code', failed.append fine, gave, same.trans same'⟩
    · rw [if_neg success] at checking
      rw [outcome_bind_error checking]
      exact ⟨_, way, .inr ⟨code, ⟨[], c, rfl, by simp, success⟩, rfl, same⟩⟩

theorem request (c : NativeCall) : Relays steady (Loading.request c) :=
  resolve (checked (fun _ _ => rfl) fun out => .pure out)

end Action.Relays

/-! ## Operations -/

open GpuHandles.Action (Relays)

variable {steady : Prop}

/-- A record in the log calls nothing. -/
theorem World.Called.write (w : World) (log : List LogRecord) :
    w.Called { w with log := log } [] := ⟨rfl, rfl, (List.append_nil _).symm⟩

/-- Nor does a resource that is made. -/
theorem World.Called.make (w : World) (rs : List Resource) (log : List LogRecord) :
    w.Called { w with resources := rs, log := log } [] :=
  ⟨rfl, rfl, (List.append_nil _).symm⟩

namespace Memory

end Memory

namespace Device

end Device

namespace Pool

end Pool

namespace Operation

end Operation

/-! ## Releases -/

/-- The line of the log before the call that releases a resource. -/
def World.releasing (w : World) (id : Nat) : LogRecord :=
  let r := w.resource id
  ⟨.debug, .ownership, "Releasing " ++ r.payload.cls.subject ++ " " ++
    r.payload.handleText (w.setResource id r.retired).name⟩

/-- The line of the log for a release that failed where nothing can be raised. -/
def Resource.failure (r : Resource) (when_ : String) (f : Fault) : LogRecord :=
  ⟨.error, .ownership,
    "Failed to release " ++ r.payload.cls.subject ++ " " ++ when_ ++ ": " ++ f.message⟩

namespace Ownership

variable {w : World} {id : Nat}

end Ownership

namespace Operation

/-- The answer of a stream whose work has not ended. -/
def notReady : Value := Stream.statusValue "NOT_READY" "not_ready"

/-- Does an operation raise the fault that its release ends in?  The end of a last name raises
nothing, and that of a block whose body ended in a fault raises no status. -/
def raises (op : Operation) (g : Fault) : Bool :=
  match op with
  | finalize _ => false
  | leave _ (some _) => !g.isStatus
  | _ => true

/-- The resources after an operation whose call has failed. -/
def failedResources (op : Operation) (w : World) : List Resource :=
  match op.subject with
  | some id => w.resources.set id (w.resource id).retired
  | none => w.resources

/-- The lines of the log that stand in for a failure that is not raised. -/
def swallowed (op : Operation) (r : Resource) (f : Fault) : List LogRecord :=
  match op with
  | leave _ (some body) => if op.raises f then [] else [r.failure ("after " ++ body.kind) f]
  | finalize _ => [r.failure "during finalization" f]
  | _ => []

variable {op : Operation} {w : World} {id : Nat}

end Operation

end GpuHandles
