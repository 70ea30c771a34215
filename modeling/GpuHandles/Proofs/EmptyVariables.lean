import GpuHandles.Proofs.OtherHosts
/-!
A variable that is empty, and one that is not there.

Where only filled variables count the two are the same (`Host.alike_emptied`), and so they are to
the search, to the load, and to whole scripts.  The platform is read as it stands: an empty one is
not left to `auto` but names no platform, so what asks the environment for it is refused.  Nothing
does if an argument says the platform, or if a library is named outright (`empty_means_unset`).
-/

namespace GpuHandles

open GpuHandles.Action (Respects)

/-! ## Variables -/

namespace Host

variable {h k : Host}

theorem setting?_setVariable (h : Host) (name : String) (value : Option String) (other : String) :
    (h.setVariable name value).setting? other =
      if name = other then value else h.setting? other := by
  by_cases same : name = other
  · subst same
    rw [if_pos rfl]
    cases value with
    | none => exact Table.get?_erase_self ..
    | some s => exact Table.get?_put_self ..
  · rw [if_neg same]
    cases value with
    | none => exact Table.get?_erase_of_ne _ same
    | some s => exact Table.get?_put_of_ne _ same s

/-- A variable that is set is filled if it is not set to the empty text. -/
theorem filled?_setVariable (h : Host) (name : String) (value : Option String) (other : String) :
    (h.setVariable name value).filled? other =
      if name = other then value.filter (fun s => !s.isEmpty) else h.filled? other := by
  unfold filled?
  rw [setting?_setVariable]
  split <;> rfl

theorem Alike.setVariable (alike : h.Alike k) (name : String) (value : Option String) :
    (h.setVariable name value).Alike (k.setVariable name value) where
  files := by cases value <;> exact alike.files
  system := by cases value <;> exact alike.system
  windows := by cases value <;> exact alike.windows
  unloadable := by cases value <;> exact alike.unloadable
  filled other := by
    rw [filled?_setVariable, filled?_setVariable, alike.filled other]

/-- A search does not see whether a variable is empty or not there. -/
theorem alike_emptied (h : Host) (name : String) :
    (h.setVariable name none).Alike (h.setVariable name (some "")) where
  files := rfl
  system := rfl
  windows := rfl
  unloadable := rfl
  filled other := by
    rw [filled?_setVariable, filled?_setVariable]
    rfl

end Host

namespace Discovery

variable {argument : Value} {w : World} {name : String}

/-- The argument leaves the platform to the environment: it does not count as true. -/
def Defers (argument : Value) : Prop := argument.countsAsTrue (fun _ => .null) = .ok false

theorem requested_of_defers (defers : Defers argument) (host : Host) :
    requested argument host = .ok (.text ((host.setting? platformVariable).getD "auto")) := by
  unfold requested
  rw [defers]
  rfl

theorem requested_of_not_defers (own : ¬Defers argument) (h k : Host) :
    requested argument k = requested argument h := by
  unfold requested
  cases counts : argument.countsAsTrue fun _ => .null with
  | error f => rfl
  | ok b =>
    cases b with
    | false => exact absurd counts own
    | true => rfl

theorem requested_setVariable (other : name ≠ platformVariable) (h : Host)
    (value : Option String) :
    requested argument (h.setVariable name value) = requested argument h := by
  unfold requested
  rw [Host.setting?_setVariable, if_neg other]

/-- What is asked for does not depend on an empty variable, unless it is the platform that is left
to the environment. -/
theorem requested_emptied (kept : ¬(name = platformVariable ∧ Defers argument)) (h : Host) :
    requested argument (h.setVariable name (some "")) =
      requested argument (h.setVariable name none) := by
  by_cases platform : name = platformVariable
  · exact requested_of_not_defers (fun defers => kept ⟨platform, defers⟩) _ _
  · rw [requested_setVariable platform, requested_setVariable platform]

theorem candidates_of_defers (defers : Defers argument) :
    candidates argument = candidates .null := by
  have null : Defers .null := rfl
  have same : requested argument = requested .null := by
    funext host
    rw [requested_of_defers defers, requested_of_defers null]
  unfold candidates
  rw [same]

theorem find_of_defers (defers : Defers argument) : find argument = find .null := by
  unfold find
  rw [candidates_of_defers defers]

/-! ## An empty platform -/

theorem platform_emptied (w : World) :
    (w.on (w.host.setVariable platformVariable (some ""))).host.setting? platformVariable =
      some "" := by
  show (w.host.setVariable platformVariable (some "")).setting? platformVariable = _
  rw [Host.setting?_setVariable, if_pos rfl]

theorem platform_taken (w : World) :
    (w.on (w.host.setVariable platformVariable none)).host.setting? platformVariable = none := by
  show (w.host.setVariable platformVariable none).setting? platformVariable = _
  rw [Host.setting?_setVariable, if_pos rfl]

theorem candidatePaths_of_platform {host : Host} (value : Option String) :
    candidatePaths (host.setVariable platformVariable value) = candidatePaths host := by
  have roots : rootTexts (host.setVariable platformVariable value) = rootTexts host := by
    unfold rootTexts
    rw [Host.filled?_setVariable, if_neg (by decide), Host.filled?_setVariable,
      if_neg (by decide)]
  have names : fileNames (host.setVariable platformVariable value) = fileNames host := by
    cases value <;> rfl
  rw [candidatePaths_eq, candidatePaths_eq, roots, names]

theorem filled?_library_of_platform {host : Host} (value : Option String) :
    (host.setVariable platformVariable value).filled? libraryVariable =
      host.filled? libraryVariable := by
  rw [Host.filled?_setVariable, if_neg (by decide)]

/-- The empty platform is refused, where a platform is looked for. -/
theorem candidates_of_empty (empty : w.host.setting? platformVariable = some "") :
    (candidates .null).outcome w = (.error (.badPlatform ""), w) := by
  have counts : effective none w.host = "" := congrArg (Option.getD · "auto") empty
  rw [show Value.null = optional none from rfl, candidates_outcome "" counts]
  rfl

theorem candidates_of_unset (unset : w.host.setting? platformVariable = none) :
    (candidates .null).outcome w = (.ok (candidatePaths w.host), w) := by
  have counts : effective none w.host = "auto" := congrArg (Option.getD · "auto") unset
  rw [show Value.null = optional none from rfl, candidates_outcome "auto" counts]
  rfl

theorem unnamed_of_not_filled {host : Host} (unnamed : host.filled? libraryVariable = none)
    (path : String) : ¬Named host path := by
  intro named
  cases (filled?_eq_some.2 named).symm.trans unnamed

theorem find_of_empty (empty : w.host.setting? platformVariable = some "")
    (unnamed : w.host.filled? libraryVariable = none) :
    (find .null).outcome w = (.error (.badPlatform ""), w) := by
  rw [find_of_unnamed (unnamed_of_not_filled unnamed),
    Action.outcome_bind_error (candidates_of_empty empty)]

/-- `auto` is not refused. -/
theorem Search.ne_badPlatform {host : Host} {asked : String} {r : Except Fault String}
    {es : List Event} (search : Search host asked r es) (auto : asked = "auto") (s : String) :
    r ≠ .error (.badPlatform s) := by
  cases search with
  | badPlatform _ unknown =>
    subst auto
    exact absurd (by decide) unknown
  | _ => exact nofun

theorem find_of_unset (unset : w.host.setting? platformVariable = none) (s : String) :
    ((find .null).outcome w).1 ≠ .error (.badPlatform s) := by
  have auto : effective none w.host = "auto" := congrArg (Option.getD · "auto") unset
  obtain ⟨r, es, search⟩ := exists_search w.host (effective none w.host)
  rw [show Value.null = optional none from rfl, find_of_search search]
  exact search.ne_badPlatform auto s

end Discovery

namespace Loading

variable {w : World}

theorem load_of_empty (empty : w.host.setting? Discovery.platformVariable = some "")
    (unnamed : w.host.filled? Discovery.libraryVariable = none) :
    (load none).outcome w = (.error (.badPlatform ""), w) :=
  Action.outcome_bind_error (Discovery.find_of_empty empty unnamed)

/-- Where no platform is said, an attempt to load the library does not fail for the platform. -/
theorem Fails.ne_badPlatform {host : Host} {f : Fault} {es : List Event} {ls : List LogRecord}
    (fails : Fails host f es ls) (unset : host.setting? Discovery.platformVariable = none)
    (s : String) : f ≠ .badPlatform s := by
  cases fails with
  | lost search =>
    have auto : Discovery.effective none host = "auto" := congrArg (Option.getD · "auto") unset
    exact fun same => search.ne_badPlatform auto s (congrArg Except.error same)
  | broken => exact nofun

theorem load_of_unset (unset : w.host.setting? Discovery.platformVariable = none) (s : String) :
    ((load none).outcome w).1 ≠ .error (.badPlatform s) := by
  rcases fails_or_loads w.host with ⟨f, es, ls, fails⟩ | ⟨path, es, loads⟩
  · rw [load_of_fails fails]
    exact fun same => fails.ne_badPlatform unset s (Except.error.inj same)
  · rw [load_of_loads loads]
    exact nofun

/-- The first use of the library ends as the load does. -/
theorem library_result (first : w.library = none) :
    (library.outcome w).1 = ((load none).outcome w).1 := by
  unfold library
  rw [Action.outcome_bind_ok (Action.outcome_get w), first]
  show ((load none >>= fun l => install (some l) >>= fun _ => pure l).outcome w).1 = _
  rw [Action.outcome_bind]
  rcases (load none).outcome w with ⟨f | l, w'⟩ <;> rfl

end Loading

/-! ## Empty and not there -/

section

variable {argument : Value} {name : String} {host : Host}

/-- The same world where a variable is not there, and where it is empty. -/
def Emptied (host : Host) (name : String) : World → World → Prop :=
  Between (host.setVariable name none) (host.setVariable name (some ""))

theorem hosted_emptied (host : Host) (name : String) : Hosted (Emptied host name) :=
  hosted_between (host.alike_emptied name)

namespace Discovery

theorem candidates_emptied (kept : ¬(name = platformVariable ∧ Defers argument)) :
    Respects (Emptied host name) (candidates argument) :=
  (hosted_emptied host name).candidates fun related => by
    rw [related.hosts.1, related.hosts.2]
    exact requested_emptied kept host

/-- The search looks for no platform either where the environment names a library. -/
theorem find_emptied (kept : ¬((name = platformVariable ∧ Defers argument) ∧
      host.filled? libraryVariable = none)) :
    Respects (Emptied host name) (find argument) := by
  by_cases deferred : name = platformVariable ∧ Defers argument
  · refine (hosted_emptied host name).find_of_named fun related unnamed => kept ⟨deferred, ?_⟩
    rw [related.hosts.1, deferred.1, Host.filled?_setVariable, if_neg (by decide)] at unnamed
    exact unnamed
  · exact (hosted_emptied host name).find (candidates_emptied deferred)

end Discovery

/-! ## Scripts -/

/-- Hosts on which a script runs alike: a search does not tell them apart, and they say the same
platform. -/
structure Host.Interchangeable (h k : Host) : Prop where
  alike : h.Alike k
  platform : k.setting? Discovery.platformVariable = h.setting? Discovery.platformVariable

theorem Host.Interchangeable.setVariable {h k : Host} (same : h.Interchangeable k) (name : String)
    (value : Option String) :
    (h.setVariable name value).Interchangeable (k.setVariable name value) where
  alike := same.alike.setVariable name value
  platform := by rw [setting?_setVariable, setting?_setVariable, same.platform]

theorem Host.interchangeable_emptied (other : name ≠ Discovery.platformVariable) (host : Host) :
    (host.setVariable name none).Interchangeable (host.setVariable name (some "")) where
  alike := host.alike_emptied name
  platform := by
    rw [setting?_setVariable, setting?_setVariable, if_neg other, if_neg other]

/-- **Scripts** leave the same report on interchangeable hosts. -/
theorem Script.run_on {h k : Host} (same : h.Interchangeable k) (w : World)
    (script : List Script.Step) : Script.run (w.on k) script = Script.run (w.on h) script := by
  have hosted : Hosted (Elsewhere Host.Interchangeable) := hosted_elsewhere fun same => same.alike
  have search : Respects (Elsewhere Host.Interchangeable) (Discovery.find .null) :=
    hosted.find <| hosted.candidates fun related => by
      unfold Discovery.requested
      rw [related.hosts.platform]
  have lockstep := hosted.lockstep search fun {w v} related name value =>
    ⟨congrArg (fun u : World => { u with host := v.host.setVariable name value }) related.same,
      related.hosts.setVariable name value⟩
  exact lockstep.run ⟨rfl, same⟩ script fun t _ => hosted.tame search t

end

/-! ## Where it matters -/

section

variable (w : World) {argument : Value} {name : String}

theorem Discovery.candidates_indifferent :
    (candidates argument).Indifferent w (w.host.setVariable name none)
        (w.host.setVariable name (some "")) ↔
      ¬(name = platformVariable ∧ Defers argument) := by
  constructor
  · rintro ⟨same, -⟩ ⟨rfl, defers⟩
    rw [candidates_of_defers defers, candidates_of_empty (platform_emptied w),
      candidates_of_unset (platform_taken w)] at same
    cases same
  · intro kept
    exact Action.indifferent_of_respects (candidates_emptied kept) w

theorem Discovery.find_indifferent :
    (find argument).Indifferent w (w.host.setVariable name none)
        (w.host.setVariable name (some "")) ↔
      ¬((name = platformVariable ∧ Defers argument) ∧ w.host.filled? libraryVariable = none) := by
  constructor
  · rintro ⟨same, -⟩ ⟨⟨rfl, defers⟩, unnamed⟩
    rw [find_of_defers defers, find_of_empty (platform_emptied w)
      ((filled?_library_of_platform _).trans unnamed)] at same
    exact find_of_unset (platform_taken w) "" same.symm
  · intro kept
    exact Action.indifferent_of_respects (find_emptied kept) w

theorem Loading.load_indifferent (path : Option String) :
    (load path).Indifferent w (w.host.setVariable name none)
        (w.host.setVariable name (some "")) ↔
      ¬((name = Discovery.platformVariable ∧ path = none) ∧
        w.host.filled? Discovery.libraryVariable = none) := by
  constructor
  · rintro ⟨same, -⟩ ⟨⟨rfl, rfl⟩, unnamed⟩
    rw [load_of_empty (Discovery.platform_emptied w)
      ((Discovery.filled?_library_of_platform _).trans unnamed)] at same
    exact load_of_unset (Discovery.platform_taken w) "" same.symm
  · intro kept
    refine Action.indifferent_of_respects ?_ w
    cases path with
    | some path => exact (hosted_emptied w.host name).load_some path
    | none =>
      exact (hosted_emptied w.host name).load
        (Discovery.find_emptied fun deferred => kept ⟨⟨deferred.1.1, rfl⟩, deferred.2⟩) none

theorem Loading.library_indifferent :
    library.Indifferent w (w.host.setVariable name none) (w.host.setVariable name (some "")) ↔
      ¬((name = Discovery.platformVariable ∧ w.library = none) ∧
        w.host.filled? Discovery.libraryVariable = none) := by
  constructor
  · rintro ⟨same, -⟩ ⟨⟨rfl, first⟩, unnamed⟩
    have onFirst (host : Host) : (w.on host).library = none := first
    rw [library_result (onFirst _), library_result (onFirst _),
      load_of_empty (Discovery.platform_emptied w)
        ((Discovery.filled?_library_of_platform _).trans unnamed)] at same
    exact load_of_unset (Discovery.platform_taken w) "" same.symm
  · intro kept
    cases installed : w.library with
    | some l =>
      have had (host : Host) : library.outcome (w.on host) = (.ok l, w.on host) :=
        library_outcome installed
      unfold Action.Indifferent
      rw [had, had]
      exact ⟨rfl, rfl⟩
    | none =>
      exact Action.indifferent_of_respects ((hosted_emptied w.host name).library
        (Discovery.find_emptied fun deferred => kept ⟨⟨deferred.1.1, installed⟩, deferred.2⟩)) w

end

/-- **An empty variable means one that is not there**, whatever else is set, but for the platform.
In a world with the variable empty and with it not there,

* the candidates end alike for every argument, with the same result and the same events, unless the
  variable is the platform and the argument leaves it to the environment;
* the search does too, and so do the load and the use of the library, unless in addition the
  environment names no library (a load of a given path, and the use of a library that is installed,
  do not search);
* every script leaves the same report unless the variable is the platform;
* in the excepted case the empty text is refused as a platform before anything is looked for, while
  without the variable every candidate is listed. -/
theorem empty_means_unset (w : World) (name : String) :
    let unset := w.host.setVariable name none
    let empty := w.host.setVariable name (some "")
    let deferred := fun argument => name = "HIP_PLATFORM" ∧ Discovery.Defers argument
    let unnamed := w.host.filled? "HIPRT_LIBRARY" = none
    (∀ argument, (Discovery.candidates argument).Indifferent w unset empty ↔ ¬deferred argument) ∧
    (∀ argument, (Discovery.find argument).Indifferent w unset empty ↔
      ¬(deferred argument ∧ unnamed)) ∧
    (∀ path, (Loading.load path).Indifferent w unset empty ↔
      ¬((name = "HIP_PLATFORM" ∧ path = none) ∧ unnamed)) ∧
    (Loading.library.Indifferent w unset empty ↔
      ¬((name = "HIP_PLATFORM" ∧ w.library = none) ∧ unnamed)) ∧
    (name ≠ "HIP_PLATFORM" → ∀ script : List Script.Step,
      Script.run (w.on empty) script = Script.run (w.on unset) script) ∧
    ∀ argument, deferred argument →
      (Discovery.candidates argument).outcome (w.on empty) =
        (.error (.badPlatform ""), w.on empty) ∧
      (unnamed → (Discovery.find argument).outcome (w.on empty) =
        (.error (.badPlatform ""), w.on empty)) ∧
      (Discovery.candidates argument).outcome (w.on unset) =
        (.ok (Discovery.candidatePaths w.host), w.on unset) := by
  intro unset empty deferred unnamed
  refine ⟨fun argument => Discovery.candidates_indifferent w, fun argument =>
    Discovery.find_indifferent w, Loading.load_indifferent w, Loading.library_indifferent w,
    fun other => Script.run_on (w.host.interchangeable_emptied other) w, ?_⟩
  rintro argument ⟨rfl, defers⟩
  rw [Discovery.candidates_of_defers defers, Discovery.find_of_defers defers]
  refine ⟨Discovery.candidates_of_empty (Discovery.platform_emptied w), fun none => ?_, ?_⟩
  · exact Discovery.find_of_empty (Discovery.platform_emptied w)
      ((Discovery.filled?_library_of_platform _).trans none)
  · have paths : Discovery.candidatePaths unset = Discovery.candidatePaths w.host :=
      Discovery.candidatePaths_of_platform none
    rw [← paths]
    exact Discovery.candidates_of_unset (Discovery.platform_taken w)

/-- An empty platform on a host with nothing on it: there are candidates if it is not there. -/
theorem empty_means_unset_platform :
    let w := World.start .bare .fresh none
    let unset := Host.bare.setVariable "HIP_PLATFORM" none
    let empty := Host.bare.setVariable "HIP_PLATFORM" (some "")
    ((Discovery.candidates .null).outcome (w.on empty)).1 = .error (.badPlatform "") ∧
      ((Discovery.candidates .null).outcome (w.on unset)).1 = .ok
        ["/opt/rocm/lib/libamdhip64.so.6", "/opt/rocm/lib/libamdhip64.so",
          "/opt/rocm/bin/libamdhip64.so.6", "/opt/rocm/bin/libamdhip64.so"] := by
  intro w unset empty
  constructor
  · rw [Discovery.candidates_of_empty (w := w.on empty) rfl]
  · rw [Discovery.candidates_of_unset (w := w.on unset) rfl]
    exact congrArg Except.ok (by decide +kernel)

end GpuHandles
