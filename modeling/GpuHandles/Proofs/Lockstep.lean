import GpuHandles.Proofs.Composition
import GpuHandles.Script.Run
/-!
Two worlds in lockstep.

A relation of worlds is kept in lockstep if the worlds look the same from inside, apart from the
host and the library, and every call keeps it (`Lockstep`).  Operations then end alike in related
worlds and leave related worlds (`Lockstep.composes`), and so do tasks (`ScriptLockstep.task`) and
steps of a script, which leave equal records as well (`ScriptLockstep.step`, by the recursion of
`runStep`).  A property of one world is the relation of a world with itself that has the property
(`Same`), so what keeps it in a step and in a run is the same lemma again (`Invariant.step`,
`Invariant.last`).
-/

namespace GpuHandles

/-- The action ends alike in related worlds, and leaves related worlds. -/
def Action.Respects (R : World → World → Prop) {α : Type} (a : Action α) : Prop :=
  ∀ w v, R w v → (a.outcome v).1 = (a.outcome w).1 ∧ R (a.outcome w).2 (a.outcome v).2

open GpuHandles.Action (Respects)

/-- A relation of worlds that every operation keeps, and that leaves no operation a way to tell
the worlds apart. -/
structure Lockstep (R : World → World → Prop) : Prop where
  machine : ∀ {w v}, R w v → v.machine = w.machine
  resources : ∀ {w v}, R w v → v.resources = w.resources
  trace : ∀ {w v}, R w v → v.trace = w.trace
  log : ∀ {w v}, R w v → v.log = w.log
  /-- the resources and the log do not matter -/
  relabel : ∀ {w v}, R w v → ∀ rs ls,
    R { w with resources := rs, log := ls } { v with resources := rs, log := ls }
  call : ∀ {α : Type} (e : EntryPoint) (r : Except Fault α) (c : α → NativeCall),
    (∀ x, (c x).entryPoint = e) → Respects R
      (Loading.resolve e >>= fun l => Action.ofExcept r >>= fun x => Loading.invoke l (c x))

namespace Lockstep

variable {R : World → World → Prop} {α β : Type}

theorem compute (r : Except Fault α) : Respects R (Action.ofExcept r) := by
  intro w v related
  rw [Action.outcome_ofExcept, Action.outcome_ofExcept]
  exact ⟨rfl, related⟩

theorem bind {a : Action α} {f : α → Action β} (first : Respects R a)
    (rest : ∀ x, Respects R (f x)) : Respects R (a >>= f) := by
  intro w v related
  have alike := first w v related
  rw [Action.outcome_bind, Action.outcome_bind]
  rcases run : a.outcome w with ⟨r, w'⟩
  rcases other : a.outcome v with ⟨s, v'⟩
  rw [run, other] at alike
  obtain ⟨same, related'⟩ := alike
  cases same
  cases r with
  | error f => exact ⟨rfl, related'⟩
  | ok x => exact rest x w' v' related'

theorem attempt {a : Action α} (h : Respects R a) : Respects R (Action.attempt a) := by
  intro w v related
  obtain ⟨same, related'⟩ := h w v related
  exact ⟨congrArg Except.ok same, related'⟩

variable (h : Lockstep R)
include h

theorem look {f : World → Action α}
    (same : ∀ w v : World, v.resources = w.resources → v.machine = w.machine →
      v.trace.length = w.trace.length → f v = f w)
    (each : ∀ w, Respects R (f w)) : Respects R (get >>= f) := by
  intro w v related
  rw [Action.outcome_bind_ok (Action.outcome_get w), Action.outcome_bind_ok (Action.outcome_get v),
    same w v (h.resources related) (h.machine related) (congrArg List.length (h.trace related))]
  exact each w w v related

theorem relabelled (rs : List Resource → List Resource) (ls : List LogRecord → List LogRecord)
    {w v : World} (related : R w v) :
    R { w with resources := rs w.resources, log := ls w.log }
      { v with resources := rs v.resources, log := ls v.log } := by
  rw [h.resources related, h.log related]
  exact h.relabel related _ _

theorem write (level : Level) (logger : Logger) (text : String) :
    Respects R (Action.write level logger text) :=
  fun _ _ related =>
    ⟨rfl, h.relabelled (fun rs => rs) (· ++ [LogRecord.mk level logger text]) related⟩

/-- **Every operation** ends alike in related worlds, and leaves related worlds. -/
theorem composes : ComposesAttempt (@Respects R) where
  compute := compute
  bind := bind
  look same := h.look fun w v resources _ trace => same w v resources trace
  tell := h.write .debug
  add r _ _ related :=
    ⟨congrArg (fun rs : List Resource => (Except.ok rs.length : Except Fault Nat))
      (h.resources related), h.relabelled (· ++ [r]) (fun ls => ls) related⟩
  call e r c entry _ := h.call e r c entry
  retire id r _ _ related := ⟨rfl, h.relabelled (·.set id r.retired) (fun ls => ls) related⟩
  callRelease c _ := h.call c.entryPoint (.ok ()) (fun _ => c) fun _ => rfl
  attempt := attempt
  tellFailure := h.write .error .ownership

end Lockstep

/-! ## Scripts -/

/-- A relation that what a script does besides operations keeps as well. -/
structure ScriptLockstep (R : World → World → Prop) : Prop extends Lockstep R where
  library : Respects R Loading.library
  resolve (e : EntryPoint) : Respects R (Loading.resolve e)
  adjust : ∀ {w v}, R w v → ∀ m : Machine, m.missing = w.machine.missing →
    R { w with machine := m } { v with machine := m }
  setVariable : ∀ {w v}, R w v → ∀ name value,
    R { w with host := w.host.setVariable name value }
      { v with host := v.host.setVariable name value }

namespace Script

/-- What a relation has to keep for a task besides: the task that installs a library, and the one
that loads one without installing it. -/
def Task.Tame (R : World → World → Prop) : Task → Prop
  | install target => Respects R target.install
  | load path => Respects R (Loading.load path)
  | _ => True

mutual
/-- The tasks of a step. -/
def Step.tasks : Step → List Task
  | .task t _ _ => [t]
  | .snapshot | .drop .. => []
  | .block _ body _ => tasksOf body

/-- The tasks of several steps. -/
def tasksOf : List Step → List Task
  | [] => []
  | s :: rest => s.tasks ++ tasksOf rest
end

theorem Task.missing_prepare (symbol : String) (code : Int) (m : Machine) :
    (prepare symbol code m).missing = m.missing := by
  unfold prepare
  split <;> rfl

theorem Setting.missing_apply (m : Machine) (s : Setting) : (s.apply m).missing = m.missing := by
  cases s <;> rfl

theorem Setting.missing_foldl (settings : List Setting) (m : Machine) :
    (settings.foldl Setting.apply m).missing = m.missing := by
  induction settings generalizing m with
  | nil => rfl
  | cons s rest ih => exact (ih _).trans (Setting.missing_apply m s)

mutual
theorem Answer.ofValue_congr {w v : World} (same : v.name = w.name) (x : Value) :
    ofValue v x = ofValue w x := by
  match x with
  | .list items => exact congrArg Answer.list (ofValues_congr same items)
  | .tuple items => exact congrArg Answer.list (ofValues_congr same items)
  | .device id => simp only [ofValue, ofValue_congr same id, same]
  | .member _ ⟨_, .number _⟩ | .member _ ⟨_, .word _⟩ => rfl
  | .null | .truth _ | .int _ | .float _ | .text _ | .array _ | .address _ | .uuid _ => rfl
  | .scalar .. | .poolProps .. | .handle .. | .version .. | .library _ => simp only [ofValue, same]

theorem Answer.ofValues_congr {w v : World} (same : v.name = w.name) (xs : List Value) :
    ofValues v xs = ofValues w xs := by
  match xs with
  | [] => rfl
  | x :: rest =>
    simp only [ofValues, ofValue_congr same x, ofValues_congr same rest]
end

end Script

namespace ScriptLockstep

open Script

variable {R : World → World → Prop} {α β : Type}

/-- A change of the world that keeps the relation, with no result. -/
theorem change {f : World → World} (keeps : ∀ w v, R w v → R (f w) (f v)) :
    Respects R (modify f) := fun w v related => ⟨rfl, keeps w v related⟩

variable (h : ScriptLockstep R)
include h

theorem adjusts {f : Machine → Machine} (missing : ∀ m, (f m).missing = m.missing) :
    Respects R (Task.adjust f) := by
  refine h.composes.bind (change fun w v related => ?_) fun _ => h.composes.pure _
  rw [h.machine related]
  exact h.adjust related _ (missing _)

theorem setEnvironment (entries : List (String × Option String)) {w v : World}
    (related : R w v) :
    R { w with host := entries.foldl (fun h e => h.setVariable e.1 e.2) w.host }
      { v with host := entries.foldl (fun h e => h.setVariable e.1 e.2) v.host } := by
  induction entries generalizing w v with
  | nil => exact related
  | cons e rest ih => exact ih (h.setVariable related e.1 e.2)

theorem composesTask : ComposesTask (@Respects R) :=
  { h.composes.toComposesRelease with library := h.library, resolve := h.resolve }

/-- **A task** ends alike in related worlds, and leaves related worlds. -/
theorem task (names : Bindings) (t : Script.Task) (tame : t.Tame R) :
    Respects R (t.perform names) := by
  refine h.composesTask.task names t ?_
  cases t with
  | plain op => exact h.composes.performAny op
  | failNext entry code => exact h.adjusts (Task.missing_prepare entry code)
  | change settings => exact h.adjusts (Setting.missing_foldl settings)
  | setEnvironment entries => exact change fun w v related => h.setEnvironment entries related
  | install | load => exact tame
  | _ => trivial

end ScriptLockstep

/-! ## Steps -/

namespace Script

theorem reached_congr {w v : World} (same : v.resources = w.resources) (fuel : Nat)
    (ids : List Nat) : reached v fuel ids = reached w fuel ids := by
  induction fuel generalizing ids with
  | zero => rfl
  | succ fuel ih =>
    unfold reached
    simp only [World.resource_congr same, ih]

theorem living_congr {w v : World} (same : v.resources = w.resources) (held : List Nat)
    (names : Bindings) : living held names v = living held names w := by
  unfold living
  rw [reached_congr same, same]

/-- The same names in related worlds. -/
structure Paired (R : World → World → Prop) (st su : State) : Prop where
  names : su.names = st.names
  world : R st.world su.world

/-- The same result, and related states. -/
def Alike (R : World → World → Prop) {α : Type} (x y : α × State) : Prop :=
  y.1 = x.1 ∧ Paired R x.2 y.2

end Script

namespace ScriptLockstep

open Script

variable {R : World → World → Prop} (h : ScriptLockstep R) {w v : World} {st su : State}
include h

theorem abandon (alive : List Nat) (fuel : Nat) (ids : List Nat) (related : R w v) :
    R (Script.abandon alive fuel ids w) (Script.abandon alive fuel ids v) := by
  induction fuel generalizing ids w v with
  | zero => exact related
  | succ fuel ih =>
    unfold Script.abandon
    induction ids generalizing w v with
    | nil => exact related
    | cons id rest again =>
      rw [List.foldl_cons, List.foldl_cons]
      apply again
      dsimp only
      split
      · exact related
      · obtain ⟨_, related'⟩ := h.composes.finalize id w v related
        rw [World.resource_congr (h.resources related')]
        exact ih _ related'

theorem giveUp (held : List Nat) (names : Bindings) (x : Value) (related : R w v) :
    R (Script.giveUp held names x w) (Script.giveUp held names x v) := by
  unfold Script.giveUp
  split
  · exact related
  · rw [living_congr (h.resources related), h.resources related]
    exact h.abandon _ _ _ related

theorem bindName (held : List Nat) (names : Bindings) (name : String) (x : Value)
    (related : R w v) :
    Paired R (Script.bindName held names name x w) (Script.bindName held names name x v) := by
  unfold Script.bindName
  cases names.get? name with
  | none => exact ⟨rfl, related⟩
  | some old => exact ⟨rfl, h.giveUp _ _ _ related⟩

theorem renewWorld (x : Value) (related : R w v) :
    R (Script.renewWorld x w) (Script.renewWorld x v) := by
  unfold Script.renewWorld
  split
  · exact h.relabelled (·.map (renewResource _)) (fun ls => ls) related
  · exact related

theorem runTask (held : List Nat) (paired : Paired R st su) (t : Script.Task) (tame : t.Tame R)
    (bind : Option String) :
    Alike R (Script.runTask held st t bind) (Script.runTask held su t bind) := by
  obtain ⟨same, related⟩ := h.task st.names t tame st.world su.world paired.world
  unfold Script.runTask
  rw [paired.names]
  rcases run : (t.perform st.names).outcome st.world with ⟨r, w⟩
  rcases other : (t.perform st.names).outcome su.world with ⟨r', v⟩
  rw [run, other] at same related
  cases same
  cases r with
  | error f => exact ⟨rfl, rfl, related⟩
  | ok x =>
    have answer : Answer.ofValue v x = Answer.ofValue w x :=
      Answer.ofValue_congr (World.name_congr (h.resources related)) x
    have related' := h.renewWorld x related
    cases bind with
    | none => exact ⟨congrArg Except.ok answer, rfl, h.giveUp _ _ _ related'⟩
    | some name => exact ⟨congrArg Except.ok answer, h.bindName _ _ _ _ related'⟩

theorem dropName (held : List Nat) (paired : Paired R st su) (name : String) :
    Alike R (Script.dropName held st name) (Script.dropName held su name) := by
  unfold Script.dropName
  rw [paired.names]
  cases lookup st.names name with
  | error f => exact ⟨rfl, paired⟩
  | ok x => exact ⟨rfl, rfl, h.giveUp _ _ _ paired.world⟩

theorem leaveBlock (paired : Paired R st su) (id : Nat) (fault : Option Fault) :
    Alike R (Script.leaveBlock st id fault) (Script.leaveBlock su id fault) := by
  obtain ⟨same, related⟩ := h.composes.leave id fault st.world su.world paired.world
  unfold Script.leaveBlock
  rcases run : (Ownership.leave id fault).outcome st.world with ⟨r, w⟩
  rcases other : (Ownership.leave id fault).outcome su.world with ⟨r', v⟩
  rw [run, other] at same related
  cases same
  cases r with
  | error f => exact ⟨rfl, paired.names, related⟩
  | ok => exact ⟨rfl, paired.names, related⟩

theorem recordBetween {before before' after after' : World} (start : R before before')
    (last : R after after') (outcome : Except Fault Answer) (body : Option (List Record)) :
    Script.recordBetween before' after' outcome body =
      Script.recordBetween before after outcome body := by
  unfold Script.recordBetween
  rw [h.trace start, h.trace last, h.log start, h.log last]

omit h in
mutual
/-- **A step** leaves the same record, lets the same fault escape, and leaves related states. -/
theorem step (h : ScriptLockstep R) (held : List Nat) (st su : State) (paired : Paired R st su)
    (s : Step) (tame : ∀ t ∈ s.tasks, t.Tame R) :
    (runStep held su s).1 = (runStep held st s).1 ∧
      Alike R (runStep held st s).2 (runStep held su s).2 := by
  match s with
  | .task t bind escapes =>
    obtain ⟨same, paired'⟩ := h.runTask held paired t (tame t (by simp [Step.tasks])) bind
    simp only [runStep]
    refine ⟨?_, congrArg (escaping escapes) same, paired'⟩
    rw [same, h.recordBetween paired.world paired'.world]
  | .snapshot =>
    simp only [runStep]
    refine ⟨?_, rfl, paired⟩
    rw [h.machine paired.world, h.recordBetween paired.world paired.world]
  | .drop name escapes =>
    obtain ⟨same, paired'⟩ := h.dropName held paired name
    simp only [runStep]
    refine ⟨?_, congrArg (escaping escapes) same, paired'⟩
    rw [same, h.recordBetween paired.world paired'.world]
  | .block name body raise =>
    have entering : Respects R (enterBlock st.names name) :=
      h.composes.bind (h.composes.compute _) fun id =>
        h.composes.bind (h.composes.discard (h.composes.active id)) fun _ => h.composes.pure id
    obtain ⟨same, related⟩ := entering st.world su.world paired.world
    simp only [runStep]
    rw [paired.names]
    rcases run : (enterBlock st.names name).outcome st.world with ⟨r, w⟩
    rcases other : (enterBlock st.names name).outcome su.world with ⟨r', v⟩
    rw [run, other] at same related
    cases same
    cases r with
    | error f => exact ⟨h.recordBetween paired.world related _ _, rfl, rfl, related⟩
    | ok id =>
      obtain ⟨records, escaped, inner⟩ := h.body (id :: held) ⟨w, st.names⟩ ⟨v, st.names⟩
        ⟨rfl, related⟩ body (fun t mem => tame t (by simpa [Step.tasks] using mem))
      dsimp only
      rw [records, escaped]
      obtain ⟨ended, last⟩ := h.leaveBlock inner id
        ((runBody (id :: held) ⟨w, st.names⟩ body).2.1.or raise)
      refine ⟨?_, rfl, last⟩
      rw [ended]
      exact h.recordBetween inner.world last.world _ _

/-- Steps in order: see `step`. -/
theorem body (h : ScriptLockstep R) (held : List Nat) (st su : State) (paired : Paired R st su)
    (steps : List Step) (tame : ∀ t ∈ tasksOf steps, t.Tame R) :
    (runBody held su steps).1 = (runBody held st steps).1 ∧
      Alike R (runBody held st steps).2 (runBody held su steps).2 := by
  match steps with
  | [] => exact ⟨rfl, rfl, paired⟩
  | s :: rest =>
    obtain ⟨record, escaped, paired'⟩ := h.step held st su paired s fun t mem =>
      tame t (by simp [tasksOf, mem])
    simp only [runBody]
    rcases run : runStep held st s with ⟨r, f, after⟩
    rcases other : runStep held su s with ⟨r', f', after'⟩
    rw [run, other] at record escaped paired'
    cases record
    cases escaped
    cases f with
    | some f => exact ⟨rfl, rfl, paired'⟩
    | none =>
      obtain ⟨records, more, last⟩ := h.body held after after' paired' rest fun t mem =>
        tame t (by simp [tasksOf, mem])
      exact ⟨congrArg (r :: ·) records, more, last⟩
end

theorem steps (paired : Paired R st su) (steps : List Step)
    (tame : ∀ t ∈ tasksOf steps, t.Tame R) :
    Alike R (runSteps st steps) (runSteps su steps) := by
  induction steps generalizing st su with
  | nil => exact ⟨rfl, paired⟩
  | cons s rest ih =>
    obtain ⟨record, escaped, paired'⟩ := h.step [] st su paired s fun t mem =>
      tame t (by simp [tasksOf, mem])
    obtain ⟨records, last⟩ := ih paired' fun t mem => tame t (by simp [tasksOf, mem])
    unfold runSteps
    dsimp only
    rw [record, records]
    exact ⟨rfl, last⟩

theorem dropAll (names : Bindings) (related : R w v) :
    R (Script.dropAll names w) (Script.dropAll names v) := by
  induction names generalizing w v with
  | nil => exact related
  | cons e rest ih => exact ih (h.giveUp _ _ _ related)

/-- **Scripts** run in related worlds leave the same report. -/
theorem run (related : R w v) (script : List Step) (tame : ∀ t ∈ tasksOf script, t.Tame R) :
    Script.run v script = Script.run w script := by
  have start : Paired R ⟨w, []⟩ ⟨v, []⟩ := ⟨rfl, related⟩
  obtain ⟨records, paired⟩ := h.steps start script tame
  have last := h.dropAll (runSteps ⟨w, []⟩ script).2.names paired.world
  unfold Script.run
  dsimp only
  rw [records, paired.names, h.trace last, h.log last, h.machine last, h.trace paired.world,
    h.log paired.world]

end ScriptLockstep

/-- The world at the end of a script, once every name is given up. -/
def Script.last (w : World) (script : List Step) : World :=
  let st := (runSteps ⟨w, []⟩ script).2
  dropAll st.names st.world

/-! ## Properties of one world -/

/-- The world and itself, if it has a property. -/
def Same (I : World → Prop) (w v : World) : Prop := v = w ∧ I w

/-- The action leaves a world with a property in one that has it. -/
def Action.Keeps (I : World → Prop) {α : Type} (a : Action α) : Prop :=
  ∀ w, I w → I (a.outcome w).2

/-- A property of worlds that everything keeps that a script does, but for the tasks that install
or load a library. -/
structure Invariant (I : World → Prop) : Prop where
  relabel : ∀ {w}, I w → ∀ rs ls, I { w with resources := rs, log := ls }
  call : ∀ {α : Type} (e : EntryPoint) (r : Except Fault α) (c : α → NativeCall),
    (∀ x, (c x).entryPoint = e) → Action.Keeps I
      (Loading.resolve e >>= fun l => Action.ofExcept r >>= fun x => Loading.invoke l (c x))
  library : Action.Keeps I Loading.library
  resolve (e : EntryPoint) : Action.Keeps I (Loading.resolve e)
  adjust : ∀ {w}, I w → ∀ m : Machine, m.missing = w.machine.missing → I { w with machine := m }
  setVariable : ∀ {w}, I w → ∀ name value,
    I { w with host := w.host.setVariable name value }

section

variable {I : World → Prop} {α β : Type}

theorem Action.respects_same {a : Action α} : Respects (Same I) a ↔ Keeps I a := by
  constructor
  · intro h w holds
    exact (h w w ⟨rfl, holds⟩).2.2
  · rintro h _ w ⟨rfl, holds⟩
    exact ⟨rfl, rfl, h w holds⟩

theorem Action.Keeps.bind {a : Action α} {f : α → Action β} (first : Keeps I a)
    (rest : ∀ x, Keeps I (f x)) : Keeps I (a >>= f) :=
  respects_same.1 (Lockstep.bind (respects_same.2 first) fun x => respects_same.2 (rest x))

namespace Invariant

open Script

variable (h : Invariant I)
include h

theorem lockstep : ScriptLockstep (Same I) where
  machine related := by rw [related.1]
  resources related := by rw [related.1]
  trace related := by rw [related.1]
  log related := by rw [related.1]
  relabel := by
    rintro _ w ⟨rfl, holds⟩ rs ls
    exact ⟨rfl, h.relabel holds rs ls⟩
  call e r c entry := Action.respects_same.2 (h.call e r c entry)
  library := Action.respects_same.2 h.library
  resolve e := Action.respects_same.2 (h.resolve e)
  adjust := by
    rintro _ w ⟨rfl, holds⟩ m missing
    exact ⟨rfl, h.adjust holds m missing⟩
  setVariable := by
    rintro _ w ⟨rfl, holds⟩ name value
    exact ⟨rfl, h.setVariable holds name value⟩

/-- **A step** keeps the property. -/
theorem step (held : List Nat) {st : State} (holds : I st.world) (s : Step)
    (tame : ∀ t ∈ s.tasks, t.Tame (Same I)) : I (runStep held st s).2.2.world :=
  (h.lockstep.step held st st ⟨rfl, rfl, holds⟩ s tame).2.2.world.2

/-- **A run** keeps the property. -/
theorem last {w : World} (holds : I w) (script : List Step)
    (tame : ∀ t ∈ tasksOf script, t.Tame (Same I)) : I (Script.last w script) := by
  have start : Paired (Same I) ⟨w, []⟩ ⟨w, []⟩ := ⟨rfl, rfl, holds⟩
  obtain ⟨_, paired⟩ := h.lockstep.steps start script tame
  exact (h.lockstep.dropAll _ paired.world).2

end Invariant
end
end GpuHandles
