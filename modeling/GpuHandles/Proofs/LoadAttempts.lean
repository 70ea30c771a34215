import GpuHandles.Proofs.FailedRelease
import GpuHandles.Proofs.LibrarySearch
import GpuHandles.Proofs.LoadedHistory
/-!
Attempts to load the library.

Whether an attempt fails is up to the host, and so is what it leaves behind (`Loading.Fails`,
`Loading.Loads`).  In a world without a library an action never asks for one, and then the host
makes no difference to it; or it comes to ask, after it has touched no more than resources and the
log (`Action.Asks`).  This composes (`lazy_composes`), so what needs the library ends with the
fault of the attempt and leaves none installed (`Script.Task.needing_fails`), or has it installed
from then on (`Script.Task.needing_loads`).  Only the end of a last name, which raises nothing,
logs the fault instead (`MissedEnd`).
-/

namespace GpuHandles

/-- The world on another host. -/
def World.on (w : World) (host : Host) : World := { w with host := host }

/-! ## Attempts -/

namespace Loading

/-- The log line of an attempt to open a file. -/
def opening (path : String) : LogRecord :=
  ⟨.debug, .library, "Loading HIP runtime from " ++ path⟩

/-- The ways in which an attempt to load the library fails on a host, with the fault, the events
and the log lines. -/
inductive Fails (host : Host) : Fault → List Event → List LogRecord → Prop
  /-- the search comes to nothing -/
  | lost {f : Fault} {es : List Event}
      (search : Discovery.Search host (Discovery.effective none host) (.error f) es) :
      Fails host f es []
  /-- the file that was found does not load -/
  | broken {path : String} {es : List Event}
      (search : Discovery.Search host (Discovery.effective none host) (.ok path) es)
      (damaged : path ∈ host.unloadable) :
      Fails host (.unloadable path) (es ++ [.load (some path)]) [opening path]

/-- A file that is found on a host, and loads, with the events of the search. -/
structure Loads (host : Host) (path : String) (es : List Event) : Prop where
  search : Discovery.Search host (Discovery.effective none host) (.ok path) es
  sound : path ∉ host.unloadable

/-- An attempt fails or finds a file that loads. -/
theorem fails_or_loads (host : Host) :
    (∃ f es ls, Fails host f es ls) ∨ ∃ path es, Loads host path es := by
  obtain ⟨r, es, search⟩ := Discovery.exists_search host (Discovery.effective none host)
  cases r with
  | error f => exact .inl ⟨f, es, [], .lost search⟩
  | ok path =>
    by_cases damaged : path ∈ host.unloadable
    · exact .inl ⟨_, _, _, .broken search damaged⟩
    · exact .inr ⟨path, es, search, damaged⟩

variable {w : World} {f : Fault} {es : List Event} {ls : List LogRecord} {path : String}

/-- A path is opened, with the line about it in the log. -/
theorem load_some (path : String) (w : World) : (load (some path)).outcome w =
    (if path ∈ w.host.unloadable then .error (.unloadable path) else .ok (.loaded (some path) []),
      { w with trace := w.trace ++ [.load (some path)], log := w.log ++ [opening path] }) := by
  show (Action.write .debug .library _ >>= fun _ => openFile path).outcome w = _
  rw [Action.outcome_bind_ok (Action.outcome_write _ _ _ w)]
  unfold openFile
  rw [Action.outcome_bind_ok (Action.outcome_record _ _),
    Action.outcome_bind_ok (Action.outcome_get _)]
  dsimp only
  by_cases damaged : path ∈ w.host.unloadable
  · rw [if_pos (List.contains_iff_mem.2 damaged), if_pos damaged]
    rfl
  · rw [if_neg (mt List.contains_iff_mem.1 damaged), if_neg damaged]
    rfl

/-- A path that is not given is searched for, and then opened. -/
theorem load_none : load none = Discovery.find (Discovery.optional none) >>= fun path =>
    load (some path) := rfl

theorem load_of_fails (fails : Fails w.host f es ls) : (load none).outcome w =
    (.error f, { w with trace := w.trace ++ es, log := w.log ++ ls }) := by
  rw [load_none]
  cases fails with
  | lost search =>
    rw [Action.outcome_bind_error (Discovery.find_of_search search), List.append_nil]
  | broken search damaged =>
    rw [Action.outcome_bind_ok (Discovery.find_of_search search), load_some, if_pos damaged]
    simp only [List.append_assoc]

theorem load_of_loads (loads : Loads w.host path es) : (load none).outcome w =
    (.ok (.loaded (some path) []), { w with
      trace := w.trace ++ (es ++ [.load (some path)])
      log := w.log ++ [opening path] }) := by
  rw [load_none, Action.outcome_bind_ok (Discovery.find_of_search loads.search), load_some,
    if_neg loads.sound]
  simp only [List.append_assoc]

theorem library_of_fails (empty : w.library = none) (fails : Fails w.host f es ls) :
    library.outcome w = (.error f, { w with trace := w.trace ++ es, log := w.log ++ ls }) := by
  obtain ⟨host, machine, _, rs, trace, log⟩ := w
  cases empty
  have failed := load_of_fails (w := ⟨host, machine, none, rs, trace, log⟩) fails
  show (load none >>= fun l => install (some l) >>= fun _ => pure l).outcome _ = _
  exact Action.outcome_bind_error failed

theorem library_of_loads (empty : w.library = none) (loads : Loads w.host path es) :
    library.outcome w = (.ok (.loaded (some path) []), { w with
      library := some (.loaded (some path) [])
      trace := w.trace ++ (es ++ [.load (some path)])
      log := w.log ++ [opening path] }) := by
  obtain ⟨host, machine, _, rs, trace, log⟩ := w
  cases empty
  have loaded := load_of_loads (w := ⟨host, machine, none, rs, trace, log⟩) loads
  show (load none >>= fun l => install (some l) >>= fun _ => pure l).outcome _ = _
  rw [Action.outcome_bind_ok loaded]
  rfl

/-- A search and the opening of what it found leave nothing but events of a load. -/
theorem finds_append (searched : ∀ e ∈ es, e.finds = true) :
    ∀ e ∈ es ++ [.load (some path)], e.finds = true := by
  intro e mem
  rcases List.mem_append.1 mem with search | opened
  · exact searched e search
  · rw [List.mem_singleton.1 opened]
    rfl

theorem finds_of_search {asked : String} {r : Except Fault String} {host : Host}
    (search : Discovery.Search host asked r es) : ∀ e ∈ es, e.finds = true := by
  intro e mem
  rcases search.events with none | ⟨one, _⟩
  · rw [none] at mem
    cases mem
  · rw [one, List.mem_singleton] at mem
    rw [mem]
    rfl

theorem Loads.finds {host : Host} (loads : Loads host path es) :
    ∀ e ∈ es ++ [.load (some path)], e.finds = true :=
  finds_append (finds_of_search loads.search)

theorem Fails.finds {host : Host} (fails : Fails host f es ls) : ∀ e ∈ es, e.finds = true := by
  cases fails with
  | lost search => exact finds_of_search search
  | broken search => exact finds_append (finds_of_search search)

/-- The fault of a failed attempt is no status of the runtime. -/
theorem Fails.unstatused {host : Host} (fails : Fails host f es ls) : f.isStatus = false := by
  cases fails with
  | lost search => cases search <;> rfl
  | broken => rfl

end Loading

/-! ## Asking for the library -/

/-- The world is as it was, but perhaps for its resources and its log. -/
def World.Quiet (w w' : World) : Prop := ∃ rs ls, w' = { w with resources := rs, log := ls }

namespace World.Quiet

variable {w w₁ w₂ : World}

theorem refl (w : World) : w.Quiet w := ⟨w.resources, w.log, rfl⟩

theorem trans (h₁ : w.Quiet w₁) (h₂ : w₁.Quiet w₂) : w.Quiet w₂ := by
  obtain ⟨_, _, rfl⟩ := h₁
  obtain ⟨rs, ls, rfl⟩ := h₂
  exact ⟨rs, ls, rfl⟩

theorem library (h : w.Quiet w₁) : w₁.library = w.library := by
  obtain ⟨_, _, rfl⟩ := h
  rfl

end World.Quiet

namespace Action

variable {α β : Type}

/-- The part that the library has in an action, run in a world that has none. -/
inductive Asks (a : Action α) (w : World) : Prop
  /-- it is not asked for, and the host makes no difference -/
  | never (r : Except Fault α) (w' : World) (quiet : w.Quiet w')
      (same : ∀ host, a.outcome (w.on host) = (r, w'.on host))
  /-- it is asked for before anything else has happened, and stays once it is there -/
  | once (w' : World) (k : Library → Action α) (quiet : w.Quiet w')
      (stays : ∀ path, Keeps (World.Holds path) (Loading.library >>= k))
      (same : ∀ host, a.outcome (w.on host) = (Loading.library >>= k).outcome (w'.on host))

/-- An action that touches no more than resources and the log before it asks for a library, and
that takes none away. -/
structure Lazy (a : Action α) : Prop where
  asks : ∀ w : World, w.library = none → a.Asks w
  stays : ∀ path, Keeps (World.Holds path) a

/-- The action would load the library if there were one: it does so on some host. -/
def Needs (a : Action α) (w : World) : Prop :=
  ∃ host, (a.outcome (w.on host)).2.library.isSome = true

namespace Asks

variable {a b : Action α} {w : World}

theorem congr (same : ∀ host, a.outcome (w.on host) = b.outcome (w.on host)) (h : Asks b w) :
    Asks a w := by
  cases h with
  | never r w' quiet outcome => exact .never r w' quiet fun host => (same host).trans (outcome host)
  | once w' k quiet stays outcome =>
    exact .once w' k quiet stays fun host => (same host).trans (outcome host)

theorem bind {f : α → Action β} (empty : w.library = none) (first : Asks a w)
    (rest : ∀ x, Lazy (f x)) : Asks (a >>= f) w := by
  cases first with
  | once w' k quiet stays outcome =>
    refine .once w' (fun l => k l >>= f) quiet (fun path => ?_) fun host => ?_
    · rw [← bind_assoc]
      exact (stays path).bind fun x => (rest x).stays path
    · rw [← bind_assoc, outcome_bind, outcome host, ← outcome_bind]
  | never r w' quiet outcome =>
    cases r with
    | error e => exact .never (.error e) w' quiet fun host => outcome_bind_error (outcome host)
    | ok x =>
      have next := (rest x).asks w' (quiet.library.trans empty)
      cases next with
      | never r w'' quiet' outcome' =>
        refine .never r w'' (quiet.trans quiet') fun host => ?_
        rw [outcome_bind_ok (outcome host), outcome' host]
      | once w'' k quiet' stays outcome' =>
        refine .once w'' k (quiet.trans quiet') stays fun host => ?_
        rw [outcome_bind_ok (outcome host), outcome' host]

end Asks

/-- An action that writes no more than resources and the log. -/
theorem lazy_of_quiet {a : Action α} (r : World → Except Fault α)
    (rs : World → List Resource) (ls : World → List LogRecord)
    (outcome : ∀ w, a.outcome w = (r w, { w with resources := rs w, log := ls w }))
    (blind : ∀ w host, r (w.on host) = r w ∧ rs (w.on host) = rs w ∧ ls (w.on host) = ls w) :
    Lazy a where
  asks w _ := by
    refine .never (r w) _ ⟨rs w, ls w, rfl⟩ fun host => ?_
    obtain ⟨sameResult, sameResources, sameLog⟩ := blind w host
    rw [outcome, sameResult, sameResources, sameLog]
    rfl
  stays path w holds := by
    rw [outcome]
    exact holds

theorem lazy_library_bind {k : Library → Action α}
    (stays : ∀ path, Keeps (World.Holds path) (Loading.library >>= k)) :
    Lazy (Loading.library >>= k) where
  asks w _ := .once w k (.refl w) stays fun _ => rfl
  stays := stays

theorem lazy_resolve_bind {e : EntryPoint} {k : Library → Action α}
    (stays : ∀ path, Keeps (World.Holds path) (Loading.resolve e >>= k)) :
    Lazy (Loading.resolve e >>= k) := by
  unfold Loading.resolve at stays ⊢
  rw [bind_assoc] at stays ⊢
  exact lazy_library_bind stays

theorem lazy_composes : ComposesTask (@Lazy) where
  compute r := lazy_of_quiet (fun _ => r) (·.resources) (·.log) (outcome_ofExcept r)
    fun _ _ => ⟨rfl, rfl, rfl⟩
  bind first rest := {
    asks := fun w empty => (first.asks w empty).bind empty rest
    stays := fun path => (first.stays path).bind fun x => (rest x).stays path }
  look same each := {
    asks := fun w empty => ((each w).asks w empty).congr fun host => by
      rw [outcome_bind_ok (outcome_get _), same w (w.on host) rfl rfl]
    stays := fun path w holds => by
      rw [outcome_bind_ok (outcome_get w)]
      exact (each w).stays path w holds }
  tell logger text := lazy_of_quiet (fun _ => .ok ()) (·.resources)
    (fun w => w.log ++ [LogRecord.mk .debug logger text]) (fun _ => rfl) fun _ _ => ⟨rfl, rfl, rfl⟩
  add r := lazy_of_quiet (fun w => .ok w.resources.length) (fun w => w.resources ++ [r]) (·.log)
    (fun _ => rfl) fun _ _ => ⟨rfl, rfl, rfl⟩
  call e r c entry _ := lazy_resolve_bind fun path => (holds_invariant path).call e r c entry
  retire id r := lazy_of_quiet (fun _ => .ok ⟨⟩) (fun w => w.resources.set id r.retired) (·.log)
    (fun _ => rfl) fun _ _ => ⟨rfl, rfl, rfl⟩
  callRelease c _ := lazy_resolve_bind fun path =>
    (holds_invariant path).call c.entryPoint (.ok ()) (fun _ => c) fun _ => rfl
  library := by
    rw [← bind_pure Loading.library]
    exact lazy_library_bind fun path => (holds_invariant path).library.bind fun _ _ holds => holds
  resolve e := by
    rw [← bind_pure (Loading.resolve e)]
    exact lazy_resolve_bind fun path =>
      ((holds_invariant path).resolve e).bind fun _ _ holds => holds

end Action

/-! ## The end of what needs the library -/

/-- What a failed attempt leaves: the library is missing as before, and everything else is as it
was, but for the resources, the log, and the events of the attempt. -/
def World.Missed (w w' : World) (es : List Event) : Prop :=
  ∃ rs ls, w' = { w with resources := rs, log := ls, trace := w.trace ++ es }

variable {α : Type} {w : World} {f : Fault} {es : List Event} {ls : List LogRecord}

namespace Action

theorem Needs.not_empty {a : Action α} (needs : a.Needs w)
    (empty : ∀ host, (a.outcome (w.on host)).2.library = none) : False := by
  obtain ⟨host, loaded⟩ := needs
  rw [empty host] at loaded
  cases loaded

/-- An action that needs the library asks for it. -/
theorem Lazy.once {a : Action α} (lazy : Lazy a) (empty : w.library = none) (needs : a.Needs w) :
    ∃ (w' : World) (k : Library → Action α), w.Quiet w' ∧
      (∀ path, Keeps (World.Holds path) (Loading.library >>= k)) ∧
      ∀ host, a.outcome (w.on host) = (Loading.library >>= k).outcome (w'.on host) := by
  cases lazy.asks w empty with
  | never r w' quiet outcome =>
    refine (needs.not_empty fun host => ?_).elim
    rw [outcome host]
    exact quiet.library.trans empty
  | once w' k quiet stays outcome => exact ⟨w', k, quiet, stays, outcome⟩

/-- **An action that needs the library** ends with the fault of the attempt. -/
theorem Lazy.of_fails {a : Action α} (lazy : Lazy a) (empty : w.library = none)
    (fails : Loading.Fails w.host f es ls) (needs : a.Needs w) :
    ∃ w', a.outcome w = (.error f, w') ∧ w.Missed w' es := by
  obtain ⟨_, k, ⟨rs, log, rfl⟩, _, outcome⟩ := lazy.once empty needs
  exact ⟨_, (outcome w.host).trans (outcome_bind_error (Loading.library_of_fails empty fails)),
    rs, log ++ ls, rfl⟩

/-- Where a library is found and loads, it is the installed one afterwards. -/
theorem Lazy.of_loads {a : Action α} (lazy : Lazy a) (empty : w.library = none) {path : String}
    (loads : Loading.Loads w.host path es) (needs : a.Needs w) :
    (a.outcome w).2.Holds (some path) := by
  obtain ⟨w', k, quiet, stays, outcome⟩ := lazy.once empty needs
  have missing : (w'.on w.host).library = none := quiet.library.trans empty
  have loaded := Loading.library_of_loads (w := w'.on w.host) missing loads
  have holds := stays (some path) _ ⟨[], congrArg World.library (congrArg Prod.snd loaded)⟩
  rw [loaded, outcome_bind_ok (Loading.library_outcome rfl)] at holds
  rw [show w = w.on w.host from rfl, outcome w.host, outcome_bind_ok loaded]
  exact holds

end Action

/-- The end of a task that needs the library: it raises the fault of the attempt, or it is the end
of a last name, which logs it. -/
inductive MissedEnd (w w' : World) (f : Fault) : Script.Task → Except Fault Value → Prop
  | raised (t : Script.Task) : MissedEnd w w' f t (.error f)
  | logged (id : Nat) (before : List LogRecord)
      (log : w'.log = before ++ [(w.resource id).failure "during finalization" f]) :
      MissedEnd w w' f (.plain (.finalize id)) (.ok .null)

namespace Operation

variable {op : Operation}

/-- An operation that releases a resource, and does not raise a fault that is no status, is the end
of a last name. -/
theorem finalize_of_not_raises (other : f.isStatus = false) (raises : ¬op.raises f = true) :
    ∃ id, op = finalize id := by
  cases op with
  | finalize id => exact ⟨id, rfl⟩
  | leave id body =>
    cases body with
    | none => exact absurd rfl raises
    | some g => exact absurd (by rw [Operation.raises, other]; rfl) raises
  | _ => exact absurd rfl raises

/-- An operation that is to release a resource needs the library for the release. -/
theorem release_needs {id : Nat} (subject : op.subject = some id) (empty : w.library = none)
    (needs : op.perform.Needs w) :
    (w.resource id).released = false ∧ (Ownership.release id).Needs w := by
  cases active : (w.resource id).released with
  | true =>
    refine (needs.not_empty fun host => ?_).elim
    rw [subject_idle (w := w.on host) subject active]
    exact empty
  | false =>
    obtain ⟨host, loaded⟩ := needs
    obtain ⟨log, world⟩ := subject_releases (w := w.on host) subject active
    rw [world] at loaded
    exact ⟨rfl, host, loaded⟩

/-- An operation that needs the library ends with the fault of the attempt. -/
theorem needing_fails (empty : w.library = none) (fails : Loading.Fails w.host f es ls)
    (needs : op.perform.Needs w) : ∃ r w', op.perform.outcome w = (r, w') ∧ w.Missed w' es ∧
      MissedEnd w w' f (.plain op) r := by
  cases subject : op.subject with
  | none =>
    obtain ⟨w', ended, missed⟩ :=
      (Action.lazy_composes.keeping op subject).of_fails empty fails needs
    exact ⟨_, w', ended, missed, .raised _⟩
  | some id =>
    obtain ⟨active, needs⟩ := release_needs subject empty needs
    obtain ⟨w', released, rs, log, rfl⟩ :=
      (Action.lazy_composes.release id).of_fails empty fails needs
    refine ⟨_, _, subject_ended subject active released, ⟨rs, _, rfl⟩, ?_⟩
    by_cases raises : op.raises f = true
    · rw [show op.ended (.error f) = .error f from if_pos raises]
      exact .raised _
    · obtain ⟨id, rfl⟩ := finalize_of_not_raises fails.unstatused raises
      cases subject
      exact .logged id log rfl

/-- Where a library is found and loads, it is the installed one afterwards. -/
theorem needing_loads (empty : w.library = none) {path : String}
    (loads : Loading.Loads w.host path es) (needs : op.perform.Needs w) :
    (op.perform.outcome w).2.Holds (some path) := by
  cases subject : op.subject with
  | none => exact (Action.lazy_composes.keeping op subject).of_loads empty loads needs
  | some id =>
    obtain ⟨active, needs⟩ := release_needs subject empty needs
    obtain ⟨log, world⟩ := subject_releases subject active
    rw [world]
    exact (Action.lazy_composes.release id).of_loads empty loads needs

end Operation

/-! ## Files that are opened and not installed -/

/-- May an event come of opening a file?  If it is named, that is its opening alone. -/
def Event.Opening (v : Event) (path : Option String) : Prop :=
  v.finds = true ∧ ∀ p, path = some p → v = .load (some p)

namespace Loading

/-- What opening a file comes to on a host, with its events and log lines: the file that is named
loads or does not, and one that is not named is attempted as for the first use. -/
inductive Opened (host : Host) :
    Option String → Except Fault Library → List Event → List LogRecord → Prop
  | named (path : String) : Opened host (some path)
      (if path ∈ host.unloadable then .error (.unloadable path) else .ok (.loaded (some path) []))
      [.load (some path)] [opening path]
  | failed {f : Fault} {es : List Event} {ls : List LogRecord} (fails : Fails host f es ls) :
      Opened host none (.error f) es ls
  | found {path : String} {es : List Event} (loads : Loads host path es) :
      Opened host none (.ok (.loaded (some path) [])) (es ++ [.load (some path)]) [opening path]

theorem Opened.events {host : Host} {path : Option String} {r : Except Fault Library}
    {es : List Event} {ls : List LogRecord} (h : Opened host path r es ls) :
    ∀ v ∈ es, v.Opening path := by
  cases h with
  | named path =>
    intro v mem
    rw [List.mem_singleton.1 mem]
    exact ⟨rfl, fun p same => by rw [Option.some.inj same]⟩
  | failed fails => exact fun v mem => ⟨fails.finds v mem, nofun⟩
  | found loads => exact fun v mem => ⟨loads.finds v mem, nofun⟩

/-- **A file that is opened without being installed** leaves its events and lines of the log, and
nothing else. -/
theorem load_opened (path : Option String) (w : World) :
    ∃ r es ls, Opened w.host path r es ls ∧ (load path).outcome w =
      (r, { w with trace := w.trace ++ es, log := w.log ++ ls }) := by
  cases path with
  | some path => exact ⟨_, _, _, .named path, load_some path w⟩
  | none =>
    obtain ⟨f, es, ls, fails⟩ | ⟨path, es, loads⟩ := fails_or_loads w.host
    · exact ⟨_, _, _, .failed fails, load_of_fails fails⟩
    · exact ⟨_, _, _, .found loads, load_of_loads loads⟩

end Loading

namespace Script.Task

/-- Does a task install a library? -/
def installs : Task → Bool
  | install _ => true
  | _ => false

/-- May an event come of a task that opens a file without installing it? -/
def Leaves (t : Task) (v : Event) : Prop := ∃ path, t = .load path ∧ v.Opening path

/-- **A task that opens a file** ends with the file or the fault of the attempt, and leaves the
library that is installed as it was. -/
theorem load_outcome (path : Option String) (names : Bindings) (w : World) :
    ∃ r es ls, Loading.Opened w.host path r es ls ∧ ((Task.load path).perform names).outcome w =
      (r.map libraryValue, { w with trace := w.trace ++ es, log := w.log ++ ls }) := by
  obtain ⟨r, es, ls, opened, ended⟩ := Loading.load_opened path w
  refine ⟨r, es, ls, opened, ?_⟩
  show (Loading.load path >>= fun l => pure (libraryValue l)).outcome w = _
  rw [← map_eq_pure_bind, Action.outcome_map, ended]

variable {names : Bindings} {t : Script.Task}

/-- A task that needs the library performs an operation, or asks for the library itself. -/
theorem plain_or_lazy (keeps : t.installs = false) (empty : w.library = none)
    (needs : (t.perform names).Needs w) :
    (∃ op, t = .plain op) ∨ Action.Lazy (t.perform names) := by
  cases t with
  | plain op => exact .inl ⟨op, rfl⟩
  | failNext | change | setEnvironment => exact (needs.not_empty fun _ => empty).elim
  | install target => cases keeps
  | load path =>
    refine (needs.not_empty fun host => ?_).elim
    obtain ⟨r, es, ls, _, ended⟩ := load_outcome path names (w.on host)
    rw [ended]
    exact empty
  | _ => exact .inr (Action.lazy_composes.task names _ trivial)

/-- **A task that needs the library** ends with the fault of the attempt. -/
theorem needing_fails (keeps : t.installs = false) (empty : w.library = none)
    (fails : Loading.Fails w.host f es ls) (needs : (t.perform names).Needs w) :
    ∃ r w', (t.perform names).outcome w = (r, w') ∧ w.Missed w' es ∧ MissedEnd w w' f t r := by
  obtain ⟨op, rfl⟩ | lazy := plain_or_lazy keeps empty needs
  · exact Operation.needing_fails empty fails needs
  · obtain ⟨w', ended, missed⟩ := lazy.of_fails empty fails needs
    exact ⟨_, w', ended, missed, .raised t⟩

/-- **A task that needs the library** has it loaded where it is found and loads. -/
theorem needing_loads (keeps : t.installs = false) (empty : w.library = none) {path : String}
    (loads : Loading.Loads w.host path es) (needs : (t.perform names).Needs w) :
    ((t.perform names).outcome w).2.Holds (some path) := by
  obtain ⟨op, rfl⟩ | lazy := plain_or_lazy keeps empty needs
  · exact Operation.needing_loads empty loads needs
  · exact lazy.of_loads empty loads needs

end Script.Task
end GpuHandles
