import GpuHandles.Proofs.LoadAttempts
/-!
The library is loaded once, when it is first needed.

A run that begins without a library waits for one: until it is loaded, there is nothing in the
trace but searches and files opened.  From then on it is served by that library (`Timeline`), and
everything but the tasks that install a library keeps to this (`timeline_invariant`).  The
histories of served worlds then say how often an entry point is looked up, and when it is called.

An attempt to load the library that fails leaves nothing behind, so the next step that needs the
library makes the same attempt again, with the same fault as long as the host is the same.
-/

namespace GpuHandles

open GpuHandles.Action (Keeps)

/-- The history of a run that began without a library.  Its files lack `missing`; `aside` are the
events of files that are opened without being installed. -/
inductive Timeline (missing : List String) (aside : Event → Prop) (w : World) : Prop
  /-- no library is loaded so far -/
  | waiting (lacks : w.machine.missing = missing) (empty : w.library = none)
      (finding : ∀ v ∈ w.trace, v.finds = true)
  /-- a library was loaded, and is installed since -/
  | loaded (path : String) (before : List Event) (finding : ∀ v ∈ before, v.finds = true)
      (served : Served missing aside (some path) [] (before ++ [.load (some path)]) w)

section

variable {missing : List String} {aside : Event → Prop} {α : Type}

theorem Timeline.asking {k : Library → Action α}
    (keeps : ∀ path base, Keeps (Served missing aside path [] base) (Loading.library >>= k)) :
    Keeps (Timeline missing aside) (Loading.library >>= k) := by
  intro w h
  cases h with
  | loaded path before finding served => exact .loaded path before finding (keeps _ _ w served)
  | waiting lacks empty finding =>
    have extended {es : List Event} (more : ∀ v ∈ es, v.finds = true) :
        ∀ v ∈ w.trace ++ es, v.finds = true :=
      fun v mem => (List.mem_append.1 mem).elim (finding v) (more v)
    obtain ⟨f, es, ls, fails⟩ | ⟨path, es, loads⟩ := Loading.fails_or_loads w.host
    · rw [Action.outcome_bind_error (Loading.library_of_fails empty fails)]
      exact .waiting lacks empty (extended fails.finds)
    · have loaded := Loading.library_of_loads empty loads
      have start : Served missing aside (some path) [] (w.trace ++ es ++ [.load (some path)])
          (Loading.library.outcome w).2 := by
        rw [loaded]
        exact ⟨[], [], ⟨lacks, rfl, by simp⟩, .start⟩
      have served := keeps _ _ _ start
      rw [loaded, Action.outcome_bind_ok (Loading.library_outcome rfl)] at served
      rw [Action.outcome_bind_ok loaded]
      exact .loaded path (w.trace ++ es) (extended (Loading.finds_of_search loads.search)) served

/-- **The history goes on** in everything that a script does, but for the tasks that install a
library or open one by name. -/
theorem timeline_invariant (missing : List String) (aside : Event → Prop) :
    Invariant (Timeline missing aside) where
  relabel h rs ls := by
    cases h with
    | waiting lacks empty finding => exact .waiting lacks empty finding
    | loaded path before finding served =>
      exact .loaded path before finding ((served_invariant ..).relabel served rs ls)
  call e r c entry := by
    have keeps (path base) := (served_invariant missing aside path [] base).call e r c entry
    unfold Loading.resolve at keeps ⊢
    simp only [bind_assoc] at keeps ⊢
    exact Timeline.asking keeps
  library := by
    rw [← bind_pure Loading.library]
    refine Timeline.asking fun path base => ?_
    rw [bind_pure]
    exact (served_invariant ..).library
  resolve e := Timeline.asking fun path base => (served_invariant ..).resolve e
  adjust h m same := by
    cases h with
    | waiting lacks empty finding => exact .waiting (same.trans lacks) empty finding
    | loaded path before finding served =>
      exact .loaded path before finding ((served_invariant ..).adjust served m same)
  setVariable h name value := by
    cases h with
    | waiting lacks empty finding => exact .waiting lacks empty finding
    | loaded path before finding served =>
      exact .loaded path before finding ((served_invariant ..).setVariable served name value)

theorem Served.load {path : Option String} {known : List EntryPoint} {base : List Event}
    {file : Option String} (other : ∀ v, v.Opening file → aside v) :
    Keeps (Served missing aside path known base) (Loading.load file) := by
  intro w ⟨fs, es, serves, history⟩
  obtain ⟨r, vs, ls, opened, ended⟩ := Loading.load_opened file w
  rw [ended]
  refine ⟨fs, es ++ vs, ⟨serves.missing, serves.library, ?_⟩,
    history.opens (fun v mem => other v (opened.events v mem)) fun v mem => (opened.events v mem).1⟩
  rw [← List.append_assoc, ← serves.trace]

theorem Timeline.load {file : Option String} (other : ∀ v, v.Opening file → aside v) :
    Keeps (Timeline missing aside) (Loading.load file) := by
  intro w h
  cases h with
  | loaded path before finding served =>
    exact .loaded path before finding (Served.load other w served)
  | waiting lacks empty finding =>
    obtain ⟨r, vs, ls, opened, ended⟩ := Loading.load_opened file w
    rw [ended]
    exact .waiting lacks empty fun v mem =>
      (List.mem_append.1 mem).elim (finding v) fun mem => (opened.events v mem).1

/-- What has to be known of a task that installs no library is what it does to open one. -/
theorem Script.Task.tame_of_loads {I : World → Prop} {t : Script.Task} (keeps : t.installs = false)
    (loads : ∀ file, t = .load file → Keeps I (Loading.load file)) : t.Tame (Same I) := by
  cases t with
  | install => cases keeps
  | load file => exact Action.respects_same.2 (loads file rfl)
  | _ => trivial

end

open Script

/-- **A run that begins without a library** keeps to the history of one. -/
theorem timeline_of_run (host : Host) (m : Machine) {script : List Step}
    (uninstalled : ∀ t ∈ tasksOf script, t.installs = false) :
    Timeline m.missing (fun v => ∃ t ∈ tasksOf script, t.Leaves v)
      (Script.last (.start host m none) script) := by
  have waiting : Timeline m.missing (fun v => ∃ t ∈ tasksOf script, t.Leaves v)
      (.start host m none) := .waiting rfl rfl (List.forall_mem_nil _)
  refine (timeline_invariant _ _).last waiting script fun t mem => ?_
  refine Task.tame_of_loads (uninstalled t mem) fun file named => ?_
  exact Timeline.load fun v opening => ⟨t, mem, file, named, opening⟩

/-! ## What the history says -/

/-- How a world that began without a library looks at the end of its run. -/
structure LoadedOnce (missing : List String) (aside : Event → Prop) (w : World) : Prop where
  /-- nothing but searches while there is no library; then the load; then no more searches, and no
  more files opened, but aside -/
  order : (w.library = none ∧ ∀ v ∈ w.trace, v.finds = true) ∨
    ∃ path found before after, w.library = some (.loaded (some path) found) ∧
      w.trace = before ++ .load (some path) :: after ∧ (∀ v ∈ before, v.finds = true) ∧
      (∀ v ∈ after, v.finds = true → aside v)
  /-- an entry point that is there is looked up at most once -/
  once : ∀ e : EntryPoint, e.name ∉ missing → w.trace.countP (Event.asks e) ≤ 1
  /-- and before its first call -/
  first : ∀ before c code, before ++ [.call c code] <+: w.trace →
    .resolve c.entryPoint ∈ before ∧ c.entryPoint.name ∉ missing

theorem countP_asks_of_finds {es : List Event} (finding : ∀ v ∈ es, v.finds = true)
    (e : EntryPoint) : es.countP (Event.asks e) = 0 :=
  List.countP_eq_zero.2 fun v mem => by simp [Event.asks_of_finds (finding v mem)]

/-- An event that is no search comes after all the searches. -/
theorem prefix_after_finds {base es before : List Event} {v : Event} (other : v.finds = false)
    (finding : ∀ v ∈ base, v.finds = true) (at_ : before ++ [v] <+: base ++ es) :
    ∃ after, before = base ++ after ∧ after ++ [v] <+: es := by
  obtain ⟨rest, split⟩ := at_
  rw [List.append_assoc] at split
  obtain ⟨after, rfl, tail⟩ | ⟨c, rfl, tail⟩ := List.append_eq_append_iff.1 split
  · cases after with
    | nil => exact ⟨[], by simp, rest, by simpa using tail⟩
    | cons u us =>
      cases tail
      rw [finding v (by simp)] at other
      cases other
  · exact ⟨c, rfl, rest, by rw [List.append_assoc]; exact tail.symm⟩

theorem Timeline.loadedOnce {missing : List String} {aside : Event → Prop} {w : World}
    (h : Timeline missing aside w) : LoadedOnce missing aside w := by
  cases h with
  | waiting lacks empty finding =>
    refine ⟨.inl ⟨empty, finding⟩, fun e _ => ?_, fun before c code at_ => ?_⟩
    · rw [countP_asks_of_finds finding]
      exact Nat.zero_le 1
    · have mem : Event.call c code ∈ w.trace :=
        at_.subset (List.mem_append_right _ (.head _))
      cases finding _ mem
  | loaded path before finding served =>
    obtain ⟨fs, es, serves, history⟩ := served
    have opened : ∀ v ∈ before ++ [.load (some path)], v.finds = true := by
      intro v mem
      rcases List.mem_append.1 mem with earlier | here
      · exact finding v earlier
      · rw [List.mem_singleton.1 here]
        rfl
    refine ⟨.inr ⟨path, fs, before, es, serves.library, ?_, finding, history.finds_aside⟩, ?_, ?_⟩
    · rw [serves.trace, List.append_assoc]
      rfl
    · intro e there
      rw [serves.trace, List.countP_append, countP_asks_of_finds opened,
        history.lookups (.inr there)]
      split <;> simp
    · intro earlier c code at_
      rw [serves.trace] at at_
      obtain ⟨after, rfl, inside⟩ := prefix_after_finds rfl opened at_
      obtain known | ⟨asked, there⟩ := history.call_after inside
      · cases known
      · exact ⟨List.mem_append_right _ asked, there⟩

/-- What a step leaves of a loaded library: it is the same one, what it has found is not looked up
again, and no library is searched for or opened but aside. -/
structure StaysLoaded (path : Option String) (found : List EntryPoint) (aside : Event → Prop)
    (w w' : World) : Prop where
  library : ∃ more, w'.library = some (.loaded path (found ++ more))
  trace : ∃ es, w'.trace = w.trace ++ es ∧ (∀ v ∈ es, v.finds = true → aside v) ∧
    ∀ e ∈ found, es.countP (Event.asks e) = 0

theorem staysLoaded_of_step (held : List Nat) {st : State} {path : Option String}
    {found : List EntryPoint} (installed : st.world.library = some (.loaded path found)) {s : Step}
    (uninstalled : ∀ t ∈ s.tasks, t.installs = false) :
    StaysLoaded path found (fun v => ∃ t ∈ s.tasks, t.Leaves v) st.world
      (runStep held st s).2.2.world := by
  have tame : ∀ t ∈ s.tasks, t.Tame (Same (Served st.world.machine.missing
      (fun v => ∃ t ∈ s.tasks, t.Leaves v) path found st.world.trace)) :=
    fun t mem => Task.tame_of_loads (uninstalled t mem) fun file named =>
      Served.load fun v opening => ⟨t, mem, file, named, opening⟩
  obtain ⟨fs, es, serves, history⟩ :=
    (served_invariant ..).step held (.start installed _) s tame
  obtain ⟨more, rfl⟩ := history.grows
  refine ⟨⟨more, serves.library⟩, es, serves.trace, history.finds_aside, fun e mem => ?_⟩
  rw [history.lookups (.inl mem), if_neg fun ⟨_, new⟩ => new mem]

/-! ## Attempts -/

/-- How a task ends that needs the library while there is none: the attempt is made as if none had
been made before. -/
structure Retries (st : State) (t : Script.Task) : Prop where
  /-- it fails with the attempt, which calls nothing and leaves the library missing as it was; the
  end of a last name logs the fault -/
  fails : ∀ f es ls, Loading.Fails st.world.host f es ls →
    ∃ r w', (t.perform st.names).outcome st.world = (r, w') ∧ st.world.Missed w' es ∧
      (∀ v ∈ es, v.finds = true) ∧ MissedEnd st.world w' f t r
  /-- a step that is no end of a name shows that fault, and the events of the attempt alone -/
  recorded : ∀ f es ls, Loading.Fails st.world.host f es ls → (∀ id, t ≠ .plain (.finalize id)) →
    ∀ held bind escapes, ∃ w' log, st.world.Missed w' es ∧
      runStep held st (.task t bind escapes) =
        (.mk (.error f) none es log, if escapes then some f else none, ⟨w', st.names⟩)
  /-- where the library is found and loads, it is installed from then on -/
  loads : ∀ path es, Loading.Loads st.world.host path es →
    ((t.perform st.names).outcome st.world).2.Holds (some path)

/-- A step whose task fails, with what that left in the trace. -/
theorem runStep_of_error {st : State} {t : Script.Task} {w' : World} {f : Fault} {es : List Event}
    (failed : (t.perform st.names).outcome st.world = (.error f, w'))
    (trace : w'.trace = st.world.trace ++ es) (held : List Nat) (bind : Option String)
    (escapes : Bool) : runStep held st (.task t bind escapes) =
      (.mk (.error f) none es (w'.log.drop st.world.log.length),
        if escapes then some f else none, ⟨w', st.names⟩) := by
  have ended : runTask held st t bind = (.error f, ⟨w', st.names⟩) := by
    unfold runTask
    rw [failed]
  simp only [runStep, ended, recordBetween, escaping, trace, List.drop_left]

theorem retries_of_needs {st : State} {t : Script.Task} (empty : st.world.library = none)
    (keeps : t.installs = false) (needs : (t.perform st.names).Needs st.world) : Retries st t where
  fails f es ls fails := by
    obtain ⟨r, w', ended, missed, told⟩ := Task.needing_fails keeps empty fails needs
    exact ⟨r, w', ended, missed, fails.finds, told⟩
  recorded f es ls fails other held bind escapes := by
    obtain ⟨r, w', ended, missed, raised | logged⟩ := Task.needing_fails keeps empty fails needs
    · obtain ⟨rs, log, rfl⟩ := missed
      exact ⟨_, _, ⟨rs, log, rfl⟩, runStep_of_error ended rfl held bind escapes⟩
    · exact absurd rfl (other _)
  loads path es loads := Task.needing_loads keeps empty loads needs

/-! ## Main result -/

/-- **The library is loaded once**, and an attempt that fails is made again.  For every script that
installs no library, run from a world that has none:

* the trace begins with searches; once a library is loaded, no other is searched for or opened but
  by a task that opens a file without installing it; an entry point that is there is looked up at
  most once, and before its first call;
* every step after the load goes on with the same library;
* a task that opens a file opens the one that it names, or makes the attempt of the first use if it
  names none, and it leaves the library that is installed;
* a step that needs the library while there is none makes the attempt, whatever went before, and
  fails with it or has the library installed from then on;
* an entry point that the file lacks is looked up and not found each time it is asked for, and
  nothing but that event is left of it. -/
theorem loads_library_once (host : Host) (m : Machine) (script : List Step)
    (uninstalled : ∀ t ∈ tasksOf script, t.installs = false) :
    LoadedOnce m.missing (fun v => ∃ t ∈ tasksOf script, t.Leaves v)
      (Script.last (.start host m none) script) ∧
    (∀ held (st : State) (s : Step) path found, st.world.library = some (.loaded path found) →
      (∀ t ∈ s.tasks, t.installs = false) →
      StaysLoaded path found (fun v => ∃ t ∈ s.tasks, t.Leaves v) st.world
        (runStep held st s).2.2.world) ∧
    (∀ (w : World) names path, ∃ r es ls, Loading.Opened w.host path r es ls ∧
      ((Script.Task.load path).perform names).outcome w =
        (r.map Task.libraryValue, { w with trace := w.trace ++ es, log := w.log ++ ls })) ∧
    (∀ (st : State) (t : Script.Task), st.world.library = none → t.installs = false →
      (t.perform st.names).Needs st.world → Retries st t) ∧
    ∀ {α : Type} (w : World) path found (e : EntryPoint) (k : Library → Action α),
      w.library = some (.loaded path found) → e ∉ found → e.name ∈ w.machine.missing →
      (Loading.resolve e >>= k).outcome w =
        (.error (.undefinedSymbol e.name), { w with trace := w.trace ++ [.resolve e] }) := by
  refine ⟨(timeline_of_run host m uninstalled).loadedOnce, ?_, ?_, ?_, ?_⟩
  · intro held st s path found installed keeps
    exact staysLoaded_of_step held installed keeps
  · intro w names path
    exact Task.load_outcome path names w
  · intro st t empty keeps needs
    exact retries_of_needs empty keeps needs
  · intro α w path found e k installed new lacking
    have asked := Loading.resolve_of_loaded installed e
    rw [if_neg new, if_pos lacking] at asked
    exact Action.outcome_bind_error asked

/-- A host with a library file that nothing names. -/
def unnamedFile : Host := { Host.bare with files := ["/x.so"] }

/-- Two questions with an answer, after one without. -/
def retried : List Step :=
  [.task (.plain .deviceCount) none false,
    .task (.setEnvironment [("HIPRT_LIBRARY", some "/x.so")]) none false,
    .task (.plain .deviceCount) none false,
    .task (.plain .deviceCount) none false]

theorem loads_library_once_retried :
    let w := Script.last (.start unnamedFile .fresh none) retried
    (∀ t ∈ tasksOf retried, t.installs = false) ∧
      ((Script.Task.plain .deviceCount).perform []).Needs (.start unnamedFile .fresh none) ∧
      w.library = some (.loaded (some "/x.so") [.deviceCount]) ∧
      w.trace.countP (Event.asks .deviceCount) ≤ 1 :=
  ⟨by decide, ⟨unnamedFile.setVariable "HIPRT_LIBRARY" (some "/x.so"), rfl⟩, rfl,
    (loads_library_once unnamedFile .fresh retried (by decide)).1.once .deviceCount (by decide)⟩

/-- The state of a script that has loaded its library. -/
def afterLoad : State :=
  (runSteps ⟨.start (unnamedFile.setVariable "HIPRT_LIBRARY" (some "/x.so")) .fresh none, []⟩
    [.task .library none false]).2

/-- The same state once nothing names the file any more. -/
def afterUnnaming : State :=
  (runSteps afterLoad [.task (.setEnvironment [("HIPRT_LIBRARY", none)]) none false]).2

/-- The state of a script that has a stream, and no library to find. -/
def streamWithoutLibrary : State :=
  (runSteps ⟨.start .bare .fresh none, []⟩
    [.task (.wrap .stream (.value (.int 4096)) (.value .null) (.value (.truth true))) (some "s")
      false]).2

/-- A file can be opened by name after the library is loaded, and one without a name is searched for
again; and the end of a last name that needs the library makes the attempt again, but fails with
nothing. -/
theorem opened_again_and_failed_silently :
    (afterLoad.world.library = some (.loaded (some "/x.so") []) ∧
      (runStep [] afterLoad (.task (.load (some "/x.so")) none false)).2.2.world.trace =
        afterLoad.world.trace ++ [.load (some "/x.so")]) ∧
    (∃ found log after, afterUnnaming.world.library = some (.loaded (some "/x.so") []) ∧
      runStep [] afterUnnaming (.task (.load none) none false) =
        (.mk (.error (.noLibrary found)) none [.lookup "amdhip64"] log, none, after)) ∧
    ∃ tried log more after last,
      runStep [] streamWithoutLibrary (.task .library none false) =
        (.mk (.error (.noLibrary tried)) none [.lookup "amdhip64"] log, none, after) ∧
      runStep [] after (.drop "s" false) =
        (.mk (.ok .null) none [.lookup "amdhip64"] more, none, last) :=
  ⟨⟨rfl, rfl⟩, ⟨_, _, _, rfl, rfl⟩, _, _, _, _, _, rfl, rfl⟩

end GpuHandles
