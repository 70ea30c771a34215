import GpuHandles.Proofs.Composition
import GpuHandles.Proofs.FailedRelease
/-!
Every failed release is told once.

An operation that is to release no resource writes no error and makes no release call, whatever
the library is (`Operation.keeping_mute`).  So an error in the log stands for a release that
failed and was not raised, and over a whole run the errors are those of its failed releases, in
their order (`failed_releases_told`).
-/

namespace GpuHandles

/-! ## Operations that release nothing -/

/-- Way on which nothing is released and no error is written; there may be resources more. -/
structure World.Mute (w w' : World) : Prop where
  gains : ∃ es ls, w.Gains w' es ls ∧ releaseCalls es = [] ∧ errors ls = []
  resources : ∃ rs, w'.resources = w.resources ++ rs

namespace World.Mute

variable {w w₁ w₂ : World}

theorem refl (w : World) : w.Mute w :=
  ⟨⟨[], [], .refl w, rfl, rfl⟩, [], (List.append_nil _).symm⟩

theorem trans (h₁ : w.Mute w₁) (h₂ : w₁.Mute w₂) : w.Mute w₂ := by
  obtain ⟨es, ls, way, kept, fine⟩ := h₁.gains
  obtain ⟨es', ls', way', kept', fine'⟩ := h₂.gains
  obtain ⟨rs, grown⟩ := h₁.resources
  obtain ⟨rs', grown'⟩ := h₂.resources
  refine ⟨⟨_, _, way.trans way', ?_, ?_⟩, rs ++ rs', ?_⟩
  · rw [releaseCalls_append, kept, kept']
    rfl
  · rw [errors_append, fine, fine']
    rfl
  · rw [grown', grown, List.append_assoc]

theorem ofSearched (h : w.Searched w₁) : w.Mute w₁ := by
  obtain ⟨es, ls, way, uncalled, fine⟩ := h.gains
  refine ⟨⟨es, ls, way, ?_, fine⟩, [], by rw [h.resources, List.append_nil]⟩
  rw [releaseCalls, uncalled]
  rfl

end World.Mute

/-- An action that releases nothing and writes no error. -/
def Action.Mute {α : Type} (a : Action α) : Prop := ∀ w : World, w.Mute (a.outcome w).2

namespace Action.Mute

variable {α β : Type} {a : Action α}

theorem compute (r : Except Fault α) : Mute (Action.ofExcept r) := by
  intro w
  rw [outcome_ofExcept]
  exact .refl w

theorem bind {f : α → Action β} (first : Mute a) (rest : ∀ x, Mute (f x)) : Mute (a >>= f) := by
  intro w
  have way := first w
  rw [outcome_bind]
  rcases run : a.outcome w with ⟨g | x, w₁⟩
  · rw [run] at way
    exact way
  · rw [run] at way
    exact way.trans (rest x w₁)

theorem resolve (e : EntryPoint) : Mute (Loading.resolve e) :=
  fun w => .ofSearched (Loading.resolve_searches e w).1

theorem invoke (l : Library) {c : NativeCall} (keeps : c.entryPoint.releases = false) :
    Mute (Loading.invoke l c) := by
  intro w
  cases arrived : Loading.arriving l c with
  | error f =>
    unfold Loading.invoke
    rw [arrived]
    exact .refl w
  | ok c' =>
    rw [Loading.invoke_outcome arrived w]
    refine ⟨⟨_, [], ⟨rfl, (List.append_nil _).symm⟩, ?_, rfl⟩, [], (List.append_nil _).symm⟩
    rw [releaseCalls, calls_map_ofCall, List.filter_eq_nil_iff]
    intro e he
    obtain ⟨same, -⟩ := mem_recorded.1 (show (e.1, e.2) ∈ _ from he)
    rw [same, (Loading.arriving_keeps arrived).1, keeps]
    exact Bool.false_ne_true

theorem composes : Composes @Mute where
  compute := compute
  bind := bind
  look _ each w := each w w
  tell logger text w := .ofSearched (.write w logger text)
  add r _ := ⟨⟨[], [], ⟨(List.append_nil _).symm, (List.append_nil _).symm⟩, rfl, rfl⟩, [r], rfl⟩
  call e r c entry keeps := by
    refine (resolve e).bind fun l => (compute r).bind fun x => invoke l ?_
    rw [entry x, keeps]

end Action.Mute

/-- **An operation that is to release no resource** makes no release call and writes no error. -/
theorem Operation.keeping_mute (op : Operation) (keeps : op.subject = none) :
    op.perform.Mute := Action.Mute.composes.keeping op keeps

/-! ## Runs -/

/-- A release that failed in a run: the operation that was to release the resource, the fault that
the release ended in, and what the operation ended with. -/
structure FailedRelease where
  operation : Operation
  resource : Resource
  fault : Fault
  result : Except Fault Value

/-- The lines of the log that stand in for a failed release. -/
def FailedRelease.report (a : FailedRelease) : List LogRecord :=
  a.operation.told a.resource (.error a.fault)

/-- The fault was raised, and no line stands in for it. -/
def FailedRelease.Raised (a : FailedRelease) : Prop :=
  a.report = [] ∧ a.result = .error a.fault

/-- One line stands in for the fault, and the operation ended as if there were none.  It was the
end of a last name, or of a block whose body ended in a fault. -/
def FailedRelease.Logged (a : FailedRelease) : Prop :=
  (∃ when_, a.report = [a.resource.failure when_ a.fault]) ∧ a.result = a.operation.spared ∧
    ((∃ id, a.operation = .finalize id) ∨ ∃ id f, a.operation = .leave id (some f))

/-- The release of an operation, if it fails. -/
def Operation.failedRelease? (op : Operation) (w : World) : Option FailedRelease :=
  match op.subject with
  | some id =>
    if (w.resource id).released then none
    else
      match ((Ownership.release id).outcome w).1 with
      | .error g => some ⟨op, w.resource id, g, (op.perform.outcome w).1⟩
      | .ok () => none
  | none => none

namespace Operation

/-- The errors that an operation writes are those of its failed release, and a release call whose
code comes back as not zero is a failed release. -/
def Tells (op : Operation) (w : World) : Prop :=
  let w' := (op.perform.outcome w).2
  ∃ es ls, w.Gains w' es ls ∧
    errors ls = (op.failedRelease? w).toList.flatMap FailedRelease.report ∧
    ∀ e ∈ releaseCalls es, ∃ l, w'.library = some l ∧ (Loading.returning l e.2 ≠ 0 →
      ∃ a, op.failedRelease? w = some a ∧ a.fault = .ofCode (Loading.returning l e.2))

variable {op : Operation} {w : World} {id : Nat}

theorem tells_of_mute (none : op.failedRelease? w = none) (way : w.Mute (op.perform.outcome w).2) :
    op.Tells w := by
  obtain ⟨es, ls, gains, kept, fine⟩ := way.gains
  refine ⟨es, ls, gains, ?_, by simp [kept]⟩
  rw [none, fine]
  rfl

theorem failedRelease?_of_active (subject : op.subject = some id)
    (active : (w.resource id).released = false) {result : Except Fault Unit}
    (released : ((Ownership.release id).outcome w).1 = result) :
    (∀ g, result = .error g → op.failedRelease? w =
        some ⟨op, w.resource id, g, (op.perform.outcome w).1⟩) ∧
      (result = .ok () → op.failedRelease? w = none) := by
  unfold failedRelease?
  rw [subject]
  dsimp only
  rw [if_neg (by simp [active]), released]
  constructor
  · rintro g rfl
    rfl
  · rintro rfl
    rfl

/-- An operation that does not raise a fault has one line in its place. -/
theorem swallowed_of_not_raises {g : Fault} (r : Resource) (raises : ¬op.raises g = true) :
    (∃ when_, op.swallowed r g = [r.failure when_ g]) ∧
      ((∃ id, op = finalize id) ∨ ∃ id f, op = leave id (some f)) := by
  cases op with
  | finalize id => exact ⟨⟨_, rfl⟩, .inl ⟨id, rfl⟩⟩
  | leave id body =>
    cases body with
    | some f => exact ⟨⟨_, if_neg raises⟩, .inr ⟨id, f, rfl⟩⟩
    | none => exact absurd rfl raises
  | _ => exact absurd rfl raises

/-- **What an operation tells of its release.** -/
theorem tells (op : Operation) (w : World) : op.Tells w := by
  cases subject : op.subject with
  | none =>
    refine tells_of_mute ?_ (op.keeping_mute subject w)
    rw [failedRelease?, subject]
  | some id =>
    cases active : (w.resource id).released with
    | true =>
      refine tells_of_mute ?_ ?_
      · rw [failedRelease?, subject]
        exact if_pos active
      · rw [subject_idle subject active]
        exact .refl w
    | false =>
      obtain ⟨result, es, ls, released, gave, -, way, written, ended⟩ := subject_told subject active
      obtain ⟨failed, fine⟩ := failedRelease?_of_active subject active released
      refine ⟨es, ls, way, ?_, ?_⟩
      · rw [written]
        cases result with
        | ok => rw [fine rfl]; rfl
        | error g =>
          rw [failed g rfl]
          simp [FailedRelease.report]
      · intro e he
        have called : e ∈ calls es := (List.mem_filter.1 he).1
        obtain ⟨g, -, rfl, uncalled⟩ | ⟨-, ⟨-, rfl, uncalled⟩ | ⟨c, l, code, -, installed, one, rfl⟩⟩ :=
          ended
        · rw [uncalled] at called
          cases called
        · rw [uncalled] at called
          cases called
        · rw [one] at called
          cases List.mem_singleton.1 called
          refine ⟨l, installed, fun failure => ⟨_, failed _ (if_neg failure), rfl⟩⟩

/-- A failed release is that of an active resource. -/
theorem exists_of_failedRelease? {a : FailedRelease} (failed : op.failedRelease? w = some a) :
    ∃ id, op.subject = some id ∧ (w.resource id).released = false ∧ a.operation = op ∧
      a.resource = w.resource id ∧ ((Ownership.release id).outcome w).1 = .error a.fault ∧
      a.result = op.ended (.error a.fault) := by
  cases subject : op.subject with
  | none =>
    rw [failedRelease?, subject] at failed
    cases failed
  | some id =>
    cases active : (w.resource id).released with
    | true =>
      rw [failedRelease?, subject] at failed
      cases (if_pos active).symm.trans failed
    | false =>
      obtain ⟨result, _, _, released, gave, _⟩ := subject_told subject active
      obtain ⟨fails, fine⟩ := failedRelease?_of_active subject active released
      cases result with
      | ok =>
        rw [fine rfl] at failed
        cases failed
      | error g =>
        rw [fails g rfl] at failed
        cases failed
        exact ⟨id, rfl, active, rfl, rfl, released, gave⟩

end Operation

/-- What happens in one step of a run. -/
inductive Occurrence where
  /-- an operation, which may also wrap a foreign handle -/
  | operate (op : Operation)
  /-- a change around the interface, of the machine, the host or the installed library, that
  leaves its resources and its log alone -/
  | around (change : World → World) (keeps : ∀ w, (change w).resources = w.resources)
      (quiet : ∀ w, (change w).log = w.log)

namespace Occurrence

/-- The world after a step. -/
def take : Occurrence → World → World
  | operate op, w => (op.perform.outcome w).2
  | around change _ _, w => change w

/-- The release of a step, if it fails. -/
def failedRelease? : Occurrence → World → Option FailedRelease
  | operate op, w => op.failedRelease? w
  | around .., _ => none

end Occurrence

/-- The world after a run. -/
def World.through (w : World) (ts : List Occurrence) : World := ts.foldl (fun w t => t.take w) w

/-- The releases that fail in a run, in their order. -/
def failedReleases : World → List Occurrence → List FailedRelease
  | _, [] => []
  | w, t :: ts => (t.failedRelease? w).toList ++ failedReleases (t.take w) ts

/-- The errors that a run writes are those of its failed releases. -/
theorem errors_through (w : World) (ts : List Occurrence) :
    errors (w.through ts).log =
      errors w.log ++ (failedReleases w ts).flatMap FailedRelease.report := by
  induction ts generalizing w with
  | nil => simp [World.through, failedReleases]
  | cons t ts ih =>
    have step : errors (t.take w).log =
        errors w.log ++ (t.failedRelease? w).toList.flatMap FailedRelease.report := by
      cases t with
      | operate op =>
        obtain ⟨es, ls, way, written, -⟩ := op.tells w
        show errors (op.perform.outcome w).2.log = _
        rw [way.log, errors_append, written]
        rfl
      | around change keeps quiet =>
        show errors (change w).log = _
        rw [quiet]
        simp [Occurrence.failedRelease?]
    show errors ((t.take w).through ts).log = _
    rw [ih, step, failedReleases, List.flatMap_append, List.append_assoc]

/-- A failed release of a run is one of an operation in it. -/
theorem exists_of_mem_failedReleases {w : World} {ts : List Occurrence} {a : FailedRelease}
    (mem : a ∈ failedReleases w ts) : ∃ before op later, ts = before ++ .operate op :: later ∧
      op.failedRelease? (w.through before) = some a := by
  induction ts generalizing w with
  | nil => cases mem
  | cons t ts ih =>
    rcases List.mem_append.1 mem with here | later
    · cases t with
      | operate op => exact ⟨[], op, ts, rfl, Option.mem_toList.1 here⟩
      | around => cases here
    · obtain ⟨before, op, rest, rfl, failed⟩ := ih later
      exact ⟨t :: before, op, rest, rfl, failed⟩

theorem mem_failedReleases {w : World} {before later : List Occurrence} {op : Operation}
    {a : FailedRelease} (failed : op.failedRelease? (w.through before) = some a) :
    a ∈ failedReleases w (before ++ .operate op :: later) := by
  induction before generalizing w with
  | nil =>
    refine List.mem_append_left _ ?_
    rw [Occurrence.failedRelease?, show op.failedRelease? w = some a from failed]
    exact .head _
  | cons t before ih => exact List.mem_append_right _ (ih failed)

/-- A failed release is raised, or a line of the log stands in for it. -/
theorem FailedRelease.cases {op : Operation} {w : World} {a : FailedRelease}
    (failed : op.failedRelease? w = some a) : a.Raised ∨ a.Logged := by
  obtain ⟨id, -, -, rfl, -, -, gave⟩ := Operation.exists_of_failedRelease? failed
  unfold FailedRelease.Raised FailedRelease.Logged FailedRelease.report
  rw [gave]
  by_cases raises : a.operation.raises a.fault = true
  · exact .inl ⟨if_pos raises, if_pos raises⟩
  · obtain ⟨line, which⟩ := Operation.swallowed_of_not_raises a.resource raises
    refine .inr ⟨?_, if_neg raises, which⟩
    rw [Operation.told, if_neg raises]
    exact line

/-! ## No release fails twice -/

/-- The resource with a number is there and has been released. -/
def World.Done (w : World) (id : Nat) : Prop :=
  ∃ r, w.resources[id]? = some r ∧ r.released = true

namespace World.Done

variable {w : World} {id : Nat}

theorem released (h : w.Done id) : (w.resource id).released = true := by
  obtain ⟨r, there, done⟩ := h
  rw [World.resource_of_getElem? there, done]

theorem append {w' : World} (h : w.Done id) (grown : ∃ rs, w'.resources = w.resources ++ rs) :
    w'.Done id := by
  obtain ⟨r, there, done⟩ := h
  obtain ⟨rs, grown⟩ := grown
  obtain ⟨bound, _⟩ := List.getElem?_eq_some_iff.1 there
  exact ⟨r, by rw [grown, List.getElem?_append_left bound, there], done⟩

theorem set {w' : World} {k : Nat} (h : w.Done id)
    (marked : w'.resources = w.resources.set k (w.resource k).retired) : w'.Done id := by
  obtain ⟨r, there, done⟩ := h
  obtain ⟨bound, _⟩ := List.getElem?_eq_some_iff.1 there
  unfold World.Done
  rw [marked]
  by_cases same : k = id
  · subst same
    exact ⟨_, List.getElem?_set_self bound, rfl⟩
  · exact ⟨r, by rw [List.getElem?_set_ne same, there], done⟩

/-- A resource that has been released stays so. -/
theorem take (h : w.Done id) (t : Occurrence) : (t.take w).Done id := by
  cases t with
  | around change keeps quiet =>
    show ∃ r, (change w).resources[id]? = some r ∧ _
    rw [keeps]
    exact h
  | operate op =>
    show ((op.perform.outcome w).2).Done id
    cases subject : op.subject with
    | none => exact h.append (op.keeping_mute subject w).resources
    | some k =>
      cases active : (w.resource k).released with
      | true =>
        rw [Operation.subject_idle subject active]
        exact h
      | false =>
        obtain ⟨_, _, _, -, -, marked, -⟩ := Operation.subject_told subject active
        exact h.set marked

/-- A release that fails releases its resource all the same. -/
theorem ofFailed {op : Operation} {a : FailedRelease} (failed : op.failedRelease? w = some a)
    (subject : a.operation.subject = some id) : ((op.perform.outcome w).2).Done id := by
  obtain ⟨k, subject', active, rfl, -⟩ := Operation.exists_of_failedRelease? failed
  cases subject.symm.trans subject'
  obtain ⟨_, _, _, -, -, marked, -⟩ := Operation.subject_told subject' active
  obtain ⟨bound, _⟩ := List.getElem?_eq_some_iff.1 (World.getElem?_of_active active)
  exact ⟨_, by rw [marked, List.getElem?_set_self bound], rfl⟩

/-- No release of it fails any more. -/
theorem not_mem (h : w.Done id) (ts : List Occurrence) :
    some id ∉ (failedReleases w ts).map (·.operation.subject) := by
  induction ts generalizing w with
  | nil => exact List.not_mem_nil
  | cons t ts ih =>
    rw [failedReleases, List.map_append, List.mem_append]
    rintro (here | later)
    · obtain ⟨a, mem, subject⟩ := List.mem_map.1 here
      cases t with
      | around => cases mem
      | operate op =>
        obtain ⟨k, subject', active, rfl, -⟩ :=
          Operation.exists_of_failedRelease? (Option.mem_toList.1 mem)
        cases subject.symm.trans subject'
        rw [h.released] at active
        cases active
    · exact ih (h.take t) later

end World.Done

/-- No resource has a release that fails twice in a run. -/
theorem nodup_failedReleases (w : World) (ts : List Occurrence) :
    ((failedReleases w ts).map (·.operation.subject)).Nodup := by
  induction ts generalizing w with
  | nil => exact .nil
  | cons t ts ih =>
    rw [failedReleases, List.map_append]
    cases t with
    | around => exact ih _
    | operate op =>
      show (((op.failedRelease? w).toList.map _) ++ _).Nodup
      cases failed : op.failedRelease? w with
      | none => exact ih _
      | some a =>
        obtain ⟨id, subject, -, same, -⟩ := Operation.exists_of_failedRelease? failed
        have done := World.Done.ofFailed failed (same ▸ subject)
        refine List.nodup_cons.2 ⟨?_, ih _⟩
        show a.operation.subject ∉ _
        rw [same, subject]
        exact done.not_mem ts

/-! ## The end of a last name -/

/-- The end of a last name raises nothing. -/
theorem finalize_ok (w : World) (id : Nat) :
    ((Operation.finalize id).perform.outcome w).1 = .ok .null := by
  cases active : (w.resource id).released with
  | true =>
    show ((Operation.silent (Ownership.finalize id)).outcome w).1 = _
    unfold Operation.silent Ownership.finalize
    rw [Action.outcome_bind, Action.outcome_bind_ok (Action.outcome_get w), if_pos active]
    rfl
  | false =>
    have subject : (Operation.finalize id).subject = some id := rfl
    obtain ⟨result, _, _, -, gave, -⟩ := Operation.subject_told subject active
    rw [gave]
    cases result <;> rfl

/-- The end of the last name of a borrowed resource marks it, and that is all. -/
theorem finalize_borrowed {w : World} {id : Nat} (active : (w.resource id).released = false)
    (borrowed : (w.marked id).countsAsTrue (w.resource id).owned = .ok false) :
    ((Operation.finalize id).perform.outcome w).2 = w.marked id := by
  have ends := Ownership.release_ends active
  rcases released : (Ownership.release id).outcome w with ⟨result, w'⟩
  rw [Operation.subject_ended rfl active released]
  rw [released] at ends
  cases ends with
  | hindered cause => exact absurd borrowed cause.not_borrowed
  | kept => exact congrArg ({ w.marked id with log := · }) (List.append_nil _)
  | called _ owned =>
    rw [borrowed] at owned
    cases owned

/-- **Every failed release is told once.**  Over any run, with any library, with any codes set up
and any entry points missing, and whichever resources are wrapped: the errors in the log are
those of the releases that failed, in their order.  A release that failed was raised, and no
error stands in for it, or one error stands in for it and it was not raised; the latter is so at
the end of a last name and of a block whose body ended in a fault.  No resource has a release
that fails twice.  A release call whose code comes back as not zero is such a release.  The end
of a last name raises nothing, and it does nothing to a resource that was released, and no more
than mark one that is borrowed. -/
theorem failed_releases_told (w : World) (ts : List Occurrence) :
    let fs := failedReleases w ts
    errors (w.through ts).log = errors w.log ++ fs.flatMap FailedRelease.report ∧
      (∀ a ∈ fs, a.Raised ∧ ¬a.Logged ∨ a.Logged ∧ ¬a.Raised) ∧
      (fs.map (·.operation.subject)).Nodup ∧
      (∀ before op later, ts = before ++ .operate op :: later →
        let v := w.through before
        let v' := (op.perform.outcome v).2
        ∀ e ∈ releaseCalls (v'.trace.drop v.trace.length), ∃ l, v'.library = some l ∧
          (Loading.returning l e.2 ≠ 0 → ∃ a ∈ fs, a.operation = op ∧
            a.fault = .ofCode (Loading.returning l e.2))) ∧
      ∀ id, let v := w.through ts
        let out := (Operation.finalize id).perform.outcome v
        out.1 = .ok .null ∧ ((v.resource id).released = true → out.2 = v) ∧
          ((v.resource id).released = false →
            (v.marked id).countsAsTrue (v.resource id).owned = .ok false → out.2 = v.marked id) := by
  refine ⟨errors_through w ts, ?_, nodup_failedReleases w ts, ?_, ?_⟩
  · intro a mem
    obtain ⟨before, op, later, -, failed⟩ := exists_of_mem_failedReleases mem
    have apart : ¬(a.Raised ∧ a.Logged) := by
      rintro ⟨⟨none, -⟩, ⟨when_, line⟩, -⟩
      rw [none] at line
      cases line
    rcases FailedRelease.cases failed with raised | logged
    · exact .inl ⟨raised, fun logged => apart ⟨raised, logged⟩⟩
    · exact .inr ⟨logged, fun raised => apart ⟨raised, logged⟩⟩
  · rintro before op later rfl v v' e he
    obtain ⟨es, ls, way, -, known⟩ := op.tells v
    rw [way.trace, List.drop_left] at he
    obtain ⟨l, installed, told⟩ := known e he
    refine ⟨l, installed, fun failure => ?_⟩
    obtain ⟨a, failed, fault⟩ := told failure
    obtain ⟨_, -, -, same, -⟩ := Operation.exists_of_failedRelease? failed
    exact ⟨a, mem_failedReleases failed, same, fault⟩
  · intro id v out
    exact ⟨finalize_ok v id, fun released => Operation.subject_idle rfl released,
      fun active borrowed => finalize_borrowed active borrowed⟩

/-- A release fails and is raised; the end of the block and of the last name then do nothing.
Another fails at the end of its last name, and the log has one error. -/
example :
    let w := World.start .bare Machine.fresh (some .direct)
    let failing := Occurrence.around (fun w => { w with machine := w.machine.failNext .free 17 })
      (fun _ => rfl) fun _ => rfl
    let ts := [.operate (.allocate (.int 16)), .operate (.allocate (.int 32)), failing,
      .operate (.release 0), .operate (.leave 0 none), .operate (.finalize 0), failing,
      .operate (.finalize 1)]
    errors (w.through ts).log = [⟨.error, .ownership,
      "Failed to release device allocation during finalization: HIP status: Unknown (code: 17)"⟩] :=
  rfl

end GpuHandles
