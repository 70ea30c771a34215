import GpuHandles.Proofs.Effect
import GpuHandles.Script.Step
/-!
Sessions: operations in any order, with failures set up between them.

A session starts with a library and a machine that has given out no handle.  Every resource in
it was made by an operation, so the wrapping of a foreign handle is no turn of a session.
`releases id w ts` are the release calls that resource `id` causes in the turns `ts` from `w`.
Resources are never lost and never change but by their release (`later_after`).
-/

namespace GpuHandles

/-- What happens in one turn of a session. -/
inductive Turn where
  /-- an operation that wraps no foreign handle -/
  | operate (op : Operation) (own : op.isWrap = false)
  /-- a code set up for the next call of an entry point -/
  | failNext (entry : EntryPoint) (code : Int)
  /-- a number of the machine set -/
  | adjust (setting : Script.Setting)

namespace Turn

/-- The last name of a resource goes. -/
def drop (id : Nat) : Turn := operate (.finalize id) rfl

/-- The world after a turn. -/
def take : Turn → World → World
  | operate op _, w => (op.perform.outcome w).2
  | failNext entry code, w => { w with machine := w.machine.failNext entry code }
  | adjust setting, w => { w with machine := setting.apply w.machine }

/-- The resource that a turn is to release. -/
def subject : Turn → Option Nat
  | operate op _ => op.subject
  | _ => none

/-- The native calls of a turn, with their codes. -/
def calls (t : Turn) (w : World) : List (NativeCall × Int) :=
  GpuHandles.calls ((t.take w).trace.drop w.trace.length)

/-- The release calls of a turn that is to release a resource. -/
def releases (t : Turn) (id : Nat) (w : World) : List (NativeCall × Int) :=
  if t.subject = some id then (t.calls w).filter fun e => e.1.entryPoint.releases else []

end Turn

namespace World

/-- The world in which a session starts: the machine has given out no handle yet. -/
def opening (host : Host) (m : Machine) (l : Library) : World :=
  start host { m with allocations := [], streams := [], pools := [], defaultPools := [] } (some l)

/-- The world after some turns. -/
def after (w : World) (ts : List Turn) : World := ts.foldl (fun w t => t.take w) w

@[simp] theorem after_nil (w : World) : w.after [] = w := rfl

@[simp] theorem after_cons (w : World) (t : Turn) (ts : List Turn) :
    w.after (t :: ts) = (t.take w).after ts := rfl

@[simp] theorem after_append (w : World) (ts us : List Turn) :
    w.after (ts ++ us) = (w.after ts).after us := List.foldl_append

end World

/-- The release calls that a resource causes in a session. -/
def releases (id : Nat) : World → List Turn → List (NativeCall × Int)
  | _, [] => []
  | w, t :: ts => t.releases id w ++ releases id (t.take w) ts

/-- The last name of a resource goes in the session, after the resource was made. -/
def Dropped (id : Nat) (w : World) (ts : List Turn) : Prop :=
  ∃ before later, ts = before ++ .drop id :: later ∧ id < (w.after before).resources.length

/-! ## Resources later on -/

/-- None of the resources is lost, and all that can have changed of one is its release. -/
def Later (rs rs' : List Resource) : Prop :=
  ∀ (id : Nat) (r : Resource), rs[id]? = some r →
    ∃ s, rs'[id]? = some s ∧ (s = r ∨ s = r.retired)

namespace Later

variable {rs rs₁ rs₂ : List Resource}

theorem refl (rs : List Resource) : Later rs rs := fun _ r h => ⟨r, h, .inl rfl⟩

theorem trans (h₁ : Later rs rs₁) (h₂ : Later rs₁ rs₂) : Later rs rs₂ := by
  intro id r there
  obtain ⟨s, there₁, same₁⟩ := h₁ id r there
  obtain ⟨u, there₂, same₂⟩ := h₂ id s there₁
  refine ⟨u, there₂, ?_⟩
  rcases same₁ with rfl | rfl
  · exact same₂
  · rcases same₂ with rfl | rfl
    · exact .inr rfl
    · exact .inr rfl

theorem append (rs : List Resource) (r : Resource) : Later rs (rs ++ [r]) := by
  intro id s there
  obtain ⟨bound, _⟩ := List.getElem?_eq_some_iff.1 there
  exact ⟨s, by rw [List.getElem?_append_left bound, there], .inl rfl⟩

theorem set {id : Nat} {r : Resource} (there : rs[id]? = some r) :
    Later rs (rs.set id r.retired) := by
  intro k s hs
  obtain ⟨bound, _⟩ := List.getElem?_eq_some_iff.1 hs
  by_cases h : id = k
  · subst h
    cases there.symm.trans hs
    exact ⟨r.retired, List.getElem?_set_self bound, .inr rfl⟩
  · exact ⟨s, by rw [List.getElem?_set_ne h, hs], .inl rfl⟩

theorem of_append {k : Nat} {r s : Resource} (h : (rs ++ [r])[k]? = some s) :
    rs[k]? = some s ∨ k = rs.length ∧ s = r := by
  rcases Nat.lt_or_ge k rs.length with old | new
  · rw [List.getElem?_append_left old] at h
    exact .inl h
  · rw [List.getElem?_append_right new] at h
    obtain ⟨bound, eq⟩ := List.getElem?_eq_some_iff.1 h
    simp only [List.length_singleton] at bound
    refine .inr ⟨by omega, ?_⟩
    simpa using eq.symm

/-- Where the resources of a release come from. -/
theorem of_set {id k : Nat} {r s : Resource} (there : rs[id]? = some r)
    (h : (rs.set id r.retired)[k]? = some s) :
    ∃ u, rs[k]? = some u ∧ s.payload = u.payload ∧ s.owned = u.owned ∧
      (s.released = false → k ≠ id ∧ s = u) := by
  by_cases same : id = k
  · subst same
    obtain ⟨bound, _⟩ := List.getElem?_eq_some_iff.1 there
    rw [List.getElem?_set_self bound] at h
    cases h
    exact ⟨r, there, rfl, rfl, fun active => by cases active⟩
  · rw [List.getElem?_set_ne same] at h
    exact ⟨s, h, rfl, rfl, fun _ => ⟨Ne.symm same, rfl⟩⟩

theorem released {id : Nat} {r : Resource} (h : Later rs rs₁) (there : rs[id]? = some r)
    (done : r.released = true) : rs₁[id]? = some r := by
  obtain ⟨s, there₁, rfl | rfl⟩ := h id r there
  · exact there₁
  · rw [there₁]
    cases r
    cases done
    rfl

end Later

/-! ## Calls -/

/-- An operation with entry points of its own releases nothing. -/
theorem Operation.entries_keep {op : Operation} {e : EntryPoint} (h : e ∈ op.entries) :
    op.subject = none ∧ e.releases = false := by
  cases op with
  | ask device question =>
    rw [List.mem_singleton.1 h]
    cases question <;> exact ⟨rfl, rfl⟩
  | selectDevice =>
    rcases List.mem_cons.1 h with h | h
    · rw [h]; exact ⟨rfl, rfl⟩
    · rw [List.mem_singleton.1 h]; exact ⟨rfl, rfl⟩
  | free | wrap | readHandle | readAddress | release | enter | leave | finalize => cases h
  | _ => rw [List.mem_singleton.1 h]; exact ⟨rfl, rfl⟩

theorem Payload.releaseCall_handles {p : Payload} {c : NativeCall}
    (call : p.releaseCall? = some c) : c.handles = p.address.toList := by
  cases p <;> cases call <;> rfl

theorem Payload.releaseCall_releases {p : Payload} {c : NativeCall}
    (call : p.releaseCall? = some c) : c.entryPoint.releases = true := by
  cases p <;> cases call <;> rfl

namespace Effect

variable {l : Library} {op : Operation} {w w' : World} {result : Except Fault Value}

/-- **The calls of an operation.**  Each handle in them is that of an active resource.  An
operation that is to release a resource makes no call, or the release call of that resource;
any other makes no release call. -/
theorem calls_cases (h : Effect l op w result w') :
    ∃ cs, Passage w w' w'.machine w'.resources cs ∧
      (∀ e ∈ cs, ∀ a ∈ e.1.handles, Live w.resources a) ∧
      ((∀ e ∈ cs, op.subject = none ∧ e.1.entryPoint.releases = false) ∨
        ∃ id r c code, op.subject = some id ∧ w.resources[id]? = some r ∧ r.released = false ∧
          r.owned = .truth true ∧ r.payload.releaseCall? = some c ∧ cs = [(c, code)]) := by
  cases h with
  | used way =>
    obtain ⟨cs, passage, known⟩ := way.passage
    refine ⟨cs, by rw [passage.resources]; exact passage, ?_, .inl ?_⟩
    · intro e he
      obtain ⟨m, tries, -⟩ := known e.1 e.2 he
      exact tries.2
    · intro e he
      obtain ⟨m, tries, -⟩ := known e.1 e.2 he
      exact Operation.entries_keep tries.1
  | made allowed _ _ _ _ _ _ _ _ way =>
    refine ⟨_, by rw [way.machine, way.resources]; exact way, ?_, .inl ?_⟩
    · intro e he
      rw [List.mem_singleton.1 he]
      exact allowed.2
    · intro e he
      rw [List.mem_singleton.1 he]
      exact Operation.entries_keep allowed.1
  | @released _ _ id r subject there active gone =>
    cases gone with
    | called owned call _ way =>
      refine ⟨_, by rw [way.machine, way.resources]; exact way, ?_,
        .inr ⟨id, r, _, _, subject, there, active, owned, call, rfl⟩⟩
      intro e he a ha
      rw [List.mem_singleton.1 he, Payload.releaseCall_handles call] at ha
      exact live_of_address ⟨List.mem_of_getElem? there, active⟩ a ha
    | marked _ way =>
      exact ⟨[], by rw [way.machine, way.resources]; exact way, by simp, .inl (by simp)⟩

theorem later (h : Effect l op w result w') : Later w.resources w'.resources := by
  cases h with
  | used way =>
    obtain ⟨cs, passage, -⟩ := way.passage
    rw [passage.resources]
    exact .refl _
  | made _ _ _ _ _ _ _ _ _ way =>
    rw [way.resources]
    exact .append _ _
  | released _ there _ gone =>
    rw [gone.resources]
    exact .set there

/-- The resource that an operation is to release is released at its end. -/
theorem subject_released {id : Nat} {r : Resource} (h : Effect l op w result w')
    (subject : op.subject = some id) (there : w.resources[id]? = some r) :
    w'.resources[id]? = some r.retired := by
  cases h with
  | used way _ idle =>
    obtain ⟨cs, passage, -⟩ := way.passage
    have done := idle id subject
    rw [World.resource_of_getElem? there] at done
    rw [passage.resources, there]
    cases r
    cases done
    rfl
  | made allowed =>
    rw [(Operation.entries_keep allowed.1).1] at subject
    cases subject
  | released same there' _ gone =>
    cases same.symm.trans subject
    cases there'.symm.trans there
    obtain ⟨bound, _⟩ := List.getElem?_eq_some_iff.1 there
    rw [gone.resources, List.getElem?_set_self bound]

/-- What the calls keep of the machine that an operation may make, the operation keeps. -/
theorem keeps_calls {P : Machine → Prop} (h : Effect l op w result w')
    (call : ∀ m (c : NativeCall), c.entryPoint ∈ op.entries ∨ c.entryPoint.releases = true →
      P m → P (m.call c).2) (start : P w.machine) : P w'.machine := by
  cases h with
  | used way =>
    induction way with
    | refl => exact start
    | quiet _ way ih => rw [way.machine]; exact ih
    | call _ tries way ih => rw [way.machine]; exact call _ _ (.inl tries.1.1) ih
  | made allowed _ _ _ _ _ _ _ _ way => rw [way.machine]; exact call _ _ (.inl allowed.1) start
  | released _ _ _ gone =>
    cases gone with
    | called _ releases _ way =>
      rw [way.machine]
      exact call _ _ (.inr (Payload.releaseCall_releases releases)) start
    | marked _ way => rw [way.machine]; exact start

/-- What every call keeps of the machine, an operation keeps. -/
theorem keeps {P : Machine → Prop} (h : Effect l op w result w')
    (call : ∀ m c, P m → P (m.call c).2) (start : P w.machine) : P w'.machine :=
  h.keeps_calls (fun m c _ => call m c) start

end Effect
end GpuHandles
