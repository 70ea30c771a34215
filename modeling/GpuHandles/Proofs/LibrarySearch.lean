import GpuHandles.Proofs.NormalPath
import GpuHandles.Proofs.Outcome
/-!
The search for the library, rule by rule.

`Search` is the order of the search, one rule for each way it can end, with the events it leaves
behind.  `First` is the file that it settles on: nothing is there in an earlier root, nor in
an earlier folder of its root, nor under an earlier name in its folder.

    exists_search     every search ends by a rule
    find_of_search    every rule tells the run
    find_iff_search   so `Search` has exactly the result and the events of the run
-/

namespace GpuHandles.Discovery

/-! ## What is asked for -/

/-- A platform argument that is left out or a text. -/
def optional : Option String → Value
  | none => .null
  | some s => .text s

/-- The platform that counts: the argument unless it is empty, else the environment's, else
`auto`. -/
def effective (argument : Option String) (host : Host) : String :=
  match argument.filter fun s => !s.isEmpty with
  | some s => s
  | none => (host.setting? "HIP_PLATFORM").getD "auto"

theorem requested_optional (argument : Option String) (host : Host) :
    requested (optional argument) host = .ok (.text (effective argument host)) := by
  cases argument with
  | none => rfl
  | some s =>
    unfold requested effective
    show (if !s.isEmpty then _ else _ : Except Fault Value) = _
    cases empty : s.isEmpty with
    | true =>
      rw [Option.filter_some, empty]
      rfl
    | false =>
      rw [Option.filter_some, empty]
      rfl

/-! ## Where it is looked for -/

/-- The texts of the roots, in the order of the search. -/
def rootTexts (host : Host) : List String :=
  (host.filled? "ROCM_PATH").toList ++ (host.filled? "HIP_PATH").toList ++ ["/opt/rocm"]

/-- The folders of a root, in the order of the search. -/
def folders : List String := ["lib", "bin"]

/-- The path of a root with a folder and a file behind it. -/
def join (root folder name : String) : Path := ((Path.ofText root).child folder).child name

/-- The path of a file in a folder of a root. -/
def pathIn (root folder name : String) : String := (((Path.ofText root).child folder).child name).text

theorem roots_eq (host : Host) : roots host = (rootTexts host).map Path.ofText := by
  unfold roots rootVariables rootTexts
  cases rocm : host.filled? "ROCM_PATH" <;> cases hip : host.filled? "HIP_PATH" <;>
    simp [rocm, hip]

theorem candidatePaths_eq (host : Host) : candidatePaths host =
    (rootTexts host).flatMap fun root =>
      folders.flatMap fun folder => (fileNames host).map fun name => pathIn root folder name := by
  unfold candidatePaths
  rw [roots_eq, List.flatMap_map]
  rfl

theorem candidatePaths_ne_nil (host : Host) : candidatePaths host ≠ [] := by
  rw [candidatePaths_eq]
  unfold rootTexts fileNames
  cases host.isWindows <;> simp [folders]

theorem proper_of_mem_folders {folder : String} (h : folder ∈ folders) : Path.Proper folder := by
  have each : ∀ folder ∈ folders, Path.Proper folder := by decide
  exact each folder h

theorem proper_of_mem_fileNames {host : Host} {name : String} (h : name ∈ fileNames host) :
    Path.Proper name := by
  have each (windows : Bool) :
      ∀ name ∈ fileNames { Host.bare with isWindows := windows }, Path.Proper name := by
    cases windows <;> decide
  exact each host.isWindows name h

theorem normal_join {host : Host} {root folder name : String} (inRoot : folder ∈ folders)
    (inFolder : name ∈ fileNames host) : (join root folder name).Normal :=
  ((Path.normal_ofText root).child (proper_of_mem_folders inRoot)).child
    (proper_of_mem_fileNames inFolder)

/-- A candidate is a normal form, so it is there exactly if it is one of the files. -/
theorem hasFile_pathIn {host : Host} {root folder name : String} (inRoot : folder ∈ folders)
    (inFolder : name ∈ fileNames host) :
    host.hasFile (pathIn root folder name) = host.files.contains (pathIn root folder name) := by
  have normal : Path.normalized (pathIn root folder name) = pathIn root folder name :=
    (normal_join inRoot inFolder).normalized_text
  unfold Host.hasFile
  rw [normal]

/-! ## The first file -/

section Earliest

variable {α β : Type} {l : List α} {p : α → Prop}

/-- An element has a property that no element before it has. -/
def Earliest (l : List α) (p : α → Prop) (a : α) : Prop :=
  p a ∧ ∃ earlier later, l = earlier ++ a :: later ∧ ∀ b ∈ earlier, ¬p b

theorem Earliest.mem {a : α} (h : Earliest l p a) : a ∈ l := by
  obtain ⟨_, earlier, later, split, _⟩ := h
  rw [split]
  exact List.mem_append_right _ List.mem_cons_self

theorem findSome?_eq_some_iff_earliest {f : α → Option β} {b : β}
    (finds : ∀ a ∈ l, (f a).isSome ↔ p a) :
    l.findSome? f = some b ↔ ∃ a, Earliest l p a ∧ f a = some b := by
  rw [List.findSome?_eq_some_iff]
  constructor
  · rintro ⟨earlier, a, later, rfl, found, none⟩
    refine ⟨a, ⟨?_, earlier, later, rfl, fun c mem has => ?_⟩, found⟩
    · exact (finds a (by simp)).1 (by rw [found]; rfl)
    · have := (finds c (List.mem_append_left _ mem)).2 has
      rw [none c mem] at this
      cases this
  · rintro ⟨a, ⟨_, earlier, later, rfl, none⟩, found⟩
    refine ⟨earlier, a, later, rfl, found, fun c mem => ?_⟩
    have absent := mt (finds c (List.mem_append_left _ mem)).1 (none c mem)
    simpa using absent

theorem find?_map_eq_some_iff_earliest {g : α → β} {q : β → Bool} {b : β}
    (finds : ∀ a ∈ l, q (g a) = true ↔ p a) :
    (l.map g).find? q = some b ↔ ∃ a, Earliest l p a ∧ g a = b := by
  rw [← List.findSome?_guard, List.findSome?_map,
    findSome?_eq_some_iff_earliest (p := p) fun a mem => ?_]
  · refine exists_congr fun a => and_congr_right fun earliest => ?_
    have has := (finds a earliest.mem).2 earliest.1
    simp [Option.guard, has]
  · rw [← finds a mem]
    simp [Option.guard]

end Earliest

/-- Is no candidate there? -/
def NoneThere (host : Host) : Prop :=
  ∀ root ∈ rootTexts host, ∀ folder ∈ folders, ∀ name ∈ fileNames host,
    pathIn root folder name ∉ host.files

/-- The earliest root in which there is a file, its earliest such folder, and the earliest name
there. -/
structure FirstAt (host : Host) (root folder name : String) : Prop where
  inRoots : Earliest (rootTexts host)
    (fun r => ∃ f ∈ folders, ∃ n ∈ fileNames host, pathIn r f n ∈ host.files) root
  inRoot : Earliest folders (fun f => ∃ n ∈ fileNames host, pathIn root f n ∈ host.files) folder
  inFolder : Earliest (fileNames host) (fun n => pathIn root folder n ∈ host.files) name

/-- The path that the search settles on. -/
def First (host : Host) (path : String) : Prop :=
  ∃ root folder name, FirstAt host root folder name ∧ pathIn root folder name = path

section Order

variable {host : Host}

theorem hasFile_iff {root folder name : String} (inRoot : folder ∈ folders)
    (inFolder : name ∈ fileNames host) :
    host.hasFile (pathIn root folder name) = true ↔ pathIn root folder name ∈ host.files := by
  rw [hasFile_pathIn inRoot inFolder, List.contains_iff_mem]

theorem isSome_find?_names {root folder : String} (inRoot : folder ∈ folders) :
    (((fileNames host).map fun name => pathIn root folder name).find? host.hasFile).isSome ↔
      ∃ name ∈ fileNames host, pathIn root folder name ∈ host.files := by
  rw [List.find?_isSome]
  constructor
  · rintro ⟨path, mem, there⟩
    obtain ⟨name, inFolder, rfl⟩ := List.mem_map.1 mem
    exact ⟨name, inFolder, (hasFile_iff inRoot inFolder).1 there⟩
  · rintro ⟨name, inFolder, there⟩
    exact ⟨_, List.mem_map_of_mem inFolder, (hasFile_iff inRoot inFolder).2 there⟩

theorem isSome_find?_folders (root : String) :
    ((folders.flatMap fun folder => (fileNames host).map fun name =>
        pathIn root folder name).find? host.hasFile).isSome ↔
      ∃ folder ∈ folders, ∃ name ∈ fileNames host, pathIn root folder name ∈ host.files := by
  rw [List.find?_flatMap, List.findSome?_isSome_iff]
  exact exists_congr fun folder => and_congr_right isSome_find?_names

theorem find?_candidatePaths_eq_none :
    (candidatePaths host).find? host.hasFile = none ↔ NoneThere host := by
  rw [candidatePaths_eq, List.find?_flatMap, List.findSome?_eq_none_iff]
  refine forall₂_congr fun root _ => ?_
  rw [← Option.not_isSome_iff_eq_none, isSome_find?_folders]
  simp

/-- **The first file in the order of roots, folders and names.** -/
theorem find?_candidatePaths_eq_some {path : String} :
    (candidatePaths host).find? host.hasFile = some path ↔ First host path := by
  rw [candidatePaths_eq, List.find?_flatMap,
    findSome?_eq_some_iff_earliest fun root _ => isSome_find?_folders root]
  constructor
  · rintro ⟨root, inRoots, found⟩
    rw [List.find?_flatMap, findSome?_eq_some_iff_earliest fun _ => isSome_find?_names] at found
    obtain ⟨folder, inRoot, found⟩ := found
    rw [find?_map_eq_some_iff_earliest fun _ => hasFile_iff inRoot.mem] at found
    obtain ⟨name, inFolder, same⟩ := found
    exact ⟨root, folder, name, ⟨inRoots, inRoot, inFolder⟩, same⟩
  · rintro ⟨root, folder, name, ⟨inRoots, inRoot, inFolder⟩, same⟩
    refine ⟨root, inRoots, ?_⟩
    rw [List.find?_flatMap, findSome?_eq_some_iff_earliest fun _ => isSome_find?_names]
    refine ⟨folder, inRoot, ?_⟩
    rw [find?_map_eq_some_iff_earliest fun _ => hasFile_iff inRoot.mem]
    exact ⟨name, inFolder, same⟩

theorem First.mem {path : String} (h : First host path) : path ∈ host.files := by
  obtain ⟨_, _, _, first, rfl⟩ := h
  exact first.inFolder.1

end Order

/-! ## The rules of the search -/

/-- The environment names a file. -/
def Named (host : Host) (path : String) : Prop :=
  host.setting? "HIPRT_LIBRARY" = some path ∧ path ≠ ""

/-- The rules of the search: how it can end, and with which events. -/
inductive Search (host : Host) (asked : String) : Except Fault String → List Event → Prop
  /-- the file that the environment names is there, and taken as it is written -/
  | named {path : String} (named : Named host path) (there : Path.normalized path ∈ host.files) :
      Search host asked (.ok path) []
  | missing {path : String} (named : Named host path)
      (gone : Path.normalized path ∉ host.files) :
      Search host asked (.error (.missingLibrary path)) []
  | badPlatform (unnamed : ∀ path, ¬Named host path)
      (unknown : Text.lowercase asked ∉ ["amd", "nvidia", "auto"]) :
      Search host asked (.error (.badPlatform asked)) []
  /-- there is nothing to look for on the second vendor's platform -/
  | elsewhere (unnamed : ∀ path, ¬Named host path) (second : Text.lowercase asked = "nvidia") :
      Search host asked (.error (.noLibrary [])) []
  | first {path : String} (unnamed : ∀ path, ¬Named host path)
      (searched : Text.lowercase asked ∈ ["amd", "auto"]) (first : First host path) :
      Search host asked (.ok path) []
  /-- the system's own search comes last -/
  | system {path : String} (unnamed : ∀ path, ¬Named host path)
      (searched : Text.lowercase asked ∈ ["amd", "auto"]) (none : NoneThere host)
      (found : host.systemLibrary = some path) (filled : path ≠ "") :
      Search host asked (.ok path) [.lookup "amdhip64"]
  | nothing (unnamed : ∀ path, ¬Named host path)
      (searched : Text.lowercase asked ∈ ["amd", "auto"]) (none : NoneThere host)
      (lost : ∀ path, host.systemLibrary = some path → path = "") :
      Search host asked (.error (.noLibrary (candidatePaths host))) [.lookup "amdhip64"]

/-! ## The run of the search -/

section Run

variable {w : World} {argument : Option String}

theorem filled?_eq_some {host : Host} {name s : String} :
    host.filled? name = some s ↔ host.setting? name = some s ∧ s ≠ "" := by
  unfold Host.filled?
  rw [Option.filter_eq_some_iff]
  simp

theorem platformOf_outcome {s : String} (plain : Text.lowercase s ≠ "auto") (w : World) :
    (platformOf s).outcome w = (if platforms.contains (Text.lowercase s) then
      .ok (Text.lowercase s) else .error (.badPlatform s), w) := by
  unfold platformOf
  dsimp only
  rw [if_neg (by simpa using plain)]
  split <;> rfl

theorem lowercase_ne_nvidia {s : String} (auto : Text.lowercase s = "auto") : s ≠ "nvidia" := by
  rintro rfl
  have itself : Text.lowercase "nvidia" = "nvidia" := by decide
  rw [itself] at auto
  revert auto
  decide

/-- The candidates by the platform that is asked for. -/
theorem candidates_of_known {v : Value} {asked : String}
    (known : (requested v w.host >>= platformText) = .ok asked) :
    (candidates v).outcome w =
      (if Text.lowercase asked ∈ ["amd", "auto"] then .ok (candidatePaths w.host)
        else if Text.lowercase asked = "nvidia" then .ok []
        else .error (.badPlatform asked), w) := by
  unfold candidates
  rw [Action.outcome_bind_ok (Action.outcome_get w)]
  dsimp only
  rw [known, Action.outcome_bind_ok (Action.outcome_ofExcept (.ok asked) w)]
  by_cases auto : Text.lowercase asked = "auto"
  · rw [if_pos (by simpa using auto), if_pos (by simp [auto]),
      Action.outcome_bind_ok (Action.outcome_pure _ w),
      if_neg (by simpa using lowercase_ne_nvidia auto)]
    rfl
  · rw [if_neg (by simpa using auto), Action.outcome_bind, platformOf_outcome auto]
    by_cases amd : Text.lowercase asked = "amd"
    · simp [amd, platforms]
    · by_cases nvidia : Text.lowercase asked = "nvidia"
      · simp [nvidia, platforms]
      · simp [amd, auto, nvidia, platforms]

/-- The candidates by the platform that counts. -/
theorem candidates_outcome (asked : String) (counts : effective argument w.host = asked) :
    (candidates (optional argument)).outcome w =
      (if Text.lowercase asked ∈ ["amd", "auto"] then .ok (candidatePaths w.host)
        else if Text.lowercase asked = "nvidia" then .ok []
        else .error (.badPlatform asked), w) := by
  have known : (requested (optional argument) w.host >>= platformText) = .ok asked := by
    rw [requested_optional, counts]
    rfl
  exact candidates_of_known known

/-- The candidates are asked of the host alone: they are all of them, or none. -/
theorem candidates_ends (v : Value) (w : World) :
    ∃ r, (candidates v).outcome w = (r, w) ∧
      ∀ tried, r = .ok tried → tried = [] ∨ tried = candidatePaths w.host := by
  cases known : requested v w.host >>= platformText with
  | error f =>
    refine ⟨.error f, ?_, nofun⟩
    unfold candidates
    rw [Action.outcome_bind_ok (Action.outcome_get w)]
    dsimp only
    rw [known]
    exact Action.outcome_bind_error (Action.outcome_ofExcept _ w)
  | ok asked =>
    refine ⟨_, candidates_of_known known, fun tried listed => ?_⟩
    split at listed
    · exact .inr (Except.ok.inj listed).symm
    · split at listed
      · exact .inl (Except.ok.inj listed).symm
      · cases listed

theorem systemSearch_outcome (w : World) : systemSearch.outcome w =
    (.ok (w.host.systemLibrary.filter fun s => !s.isEmpty),
      { w with trace := w.trace ++ [.lookup "amdhip64"] }) := rfl

theorem find_of_named {path : String} (named : Named w.host path) (v : Value) :
    (find v).outcome w =
      (if w.host.hasFile path then .ok path else .error (.missingLibrary path), w) := by
  unfold find
  rw [Action.outcome_bind_ok (Action.outcome_get w)]
  dsimp only
  rw [show w.host.filled? libraryVariable = some path from filled?_eq_some.2 named]
  dsimp only
  split <;> rfl

/-- What comes after the environment: the candidates, then the system's own search. -/
theorem find_of_unnamed (unnamed : ∀ path, ¬Named w.host path) (v : Value) :
    (find v).outcome w = (candidates v >>= fun tried =>
      match tried.find? w.host.hasFile with
      | some path => pure path
      | none => if tried.isEmpty then throw (.noLibrary []) else systemSearch >>= fun found =>
          match found with
          | some path => pure path
          | none => throw (.noLibrary tried)).outcome w := by
  have empty : w.host.filled? libraryVariable = none := by
    rw [Option.eq_none_iff_forall_ne_some]
    exact fun path found => unnamed path (filled?_eq_some.1 found)
  unfold find
  rw [Action.outcome_bind_ok (Action.outcome_get w)]
  dsimp only
  generalize w.host.filled? libraryVariable = named at empty ⊢
  subst empty
  rfl

/-- The end of the search once the candidates are tried. -/
theorem find_of_searched (unnamed : ∀ path, ¬Named w.host path)
    (searched : Text.lowercase (effective argument w.host) ∈ ["amd", "auto"]) :
    (find (optional argument)).outcome w =
      match (candidatePaths w.host).find? w.host.hasFile with
      | some path => (.ok path, w)
      | none => (match w.host.systemLibrary.filter fun s => !s.isEmpty with
          | some path => .ok path
          | none => .error (.noLibrary (candidatePaths w.host)),
        { w with trace := w.trace ++ [.lookup "amdhip64"] }) := by
  have tried := candidates_outcome (effective argument w.host) rfl
  rw [if_pos searched] at tried
  rw [find_of_unnamed unnamed, Action.outcome_bind_ok tried]
  cases (candidatePaths w.host).find? w.host.hasFile with
  | some path => rfl
  | none =>
    dsimp only
    rw [if_neg (by simpa using candidatePaths_ne_nil w.host)]
    rw [Action.outcome_bind_ok (systemSearch_outcome w)]
    cases w.host.systemLibrary.filter fun s => !s.isEmpty <;> rfl

/-- **Every rule tells the run.** -/
theorem find_of_search {r : Except Fault String} {es : List Event}
    (rule : Search w.host (effective argument w.host) r es) :
    (find (optional argument)).outcome w = (r, { w with trace := w.trace ++ es }) := by
  have unchanged : w = { w with trace := w.trace ++ [] } := by rw [List.append_nil]
  cases rule with
  | named named there =>
    rw [find_of_named named, if_pos (by simpa [Host.hasFile] using there), ← unchanged]
  | missing named gone =>
    rw [find_of_named named, if_neg (by simpa [Host.hasFile] using gone), ← unchanged]
  | badPlatform unnamed unknown =>
    have tried := candidates_outcome (effective argument w.host) rfl
    simp only [List.mem_cons, List.not_mem_nil, or_false, not_or] at unknown
    rw [if_neg (by simp [unknown]), if_neg unknown.2.1] at tried
    rw [find_of_unnamed unnamed, Action.outcome_bind_error tried, ← unchanged]
  | elsewhere unnamed second =>
    have tried := candidates_outcome (effective argument w.host) rfl
    rw [if_neg (by simp [second]), if_pos second] at tried
    rw [find_of_unnamed unnamed, Action.outcome_bind_ok tried, ← unchanged]
    rfl
  | first unnamed searched first =>
    rw [find_of_searched unnamed searched, find?_candidatePaths_eq_some.2 first, ← unchanged]
  | system unnamed searched none found filled =>
    rw [find_of_searched unnamed searched, find?_candidatePaths_eq_none.2 none, found,
      Option.filter_some, if_pos (by simpa using filled)]
  | nothing unnamed searched none lost =>
    have empty : (w.host.systemLibrary.filter fun s => !s.isEmpty) = Option.none := by
      rw [Option.filter_eq_none_iff]
      intro path found
      simpa using lost path found
    rw [find_of_searched unnamed searched, find?_candidatePaths_eq_none.2 none, empty]

/-- **Every search ends by a rule.** -/
theorem exists_search (host : Host) (asked : String) : ∃ r es, Search host asked r es := by
  by_cases named : ∃ path, Named host path
  · obtain ⟨path, named⟩ := named
    by_cases there : Path.normalized path ∈ host.files
    · exact ⟨_, _, .named named there⟩
    · exact ⟨_, _, .missing named there⟩
  · have unnamed := not_exists.1 named
    by_cases searched : Text.lowercase asked ∈ ["amd", "auto"]
    · cases found : (candidatePaths host).find? host.hasFile with
      | some path => exact ⟨_, _, .first unnamed searched (find?_candidatePaths_eq_some.1 found)⟩
      | none =>
        have none := find?_candidatePaths_eq_none.1 found
        by_cases system : ∃ path, host.systemLibrary = some path ∧ path ≠ ""
        · obtain ⟨path, found, filled⟩ := system
          exact ⟨_, _, .system unnamed searched none found filled⟩
        · refine ⟨_, _, .nothing unnamed searched none fun path found => ?_⟩
          exact Classical.byContradiction fun filled => system ⟨path, found, filled⟩
    · by_cases second : Text.lowercase asked = "nvidia"
      · exact ⟨_, _, .elsewhere unnamed second⟩
      · refine ⟨_, _, .badPlatform unnamed ?_⟩
        simp only [List.mem_cons, List.not_mem_nil, or_false, not_or] at searched ⊢
        exact ⟨searched.1, second, searched.2⟩

/-- The system is asked at most once, and only if no candidate is there. -/
theorem Search.events {host : Host} {asked : String} {r : Except Fault String} {es : List Event}
    (rule : Search host asked r es) :
    es = [] ∨ es = [.lookup "amdhip64"] ∧ NoneThere host := by
  cases rule with
  | system _ _ none => exact .inr ⟨rfl, none⟩
  | nothing _ _ none => exact .inr ⟨rfl, none⟩
  | _ => exact .inl rfl

/-- A path that neither the environment nor the system names is one of the files. -/
theorem Search.mem_files {host : Host} {asked path : String}
    (unnamed : ∀ path, ¬Named host path) (rule : Search host asked (.ok path) []) :
    path ∈ host.files := by
  cases rule with
  | named named => exact absurd named (unnamed path)
  | first _ _ first => exact first.mem

/-- **The search is what its rules say**, on every host and for every platform argument:

* its result and its events are those of a rule, and no other rule gives another result;
* no event but one question to the system, and that only if no candidate is there;
* a path that the environment does not name and the system was not asked for is a file. -/
theorem find_iff_search (w : World) (argument : Option String) :
    ∃ r es, (find (optional argument)).outcome w = (r, { w with trace := w.trace ++ es }) ∧
      (∀ r' es', Search w.host (effective argument w.host) r' es' ↔ r' = r ∧ es' = es) ∧
      (es = [] ∨ es = [.lookup "amdhip64"] ∧ NoneThere w.host) ∧
      ∀ path, (∀ path, ¬Named w.host path) → r = .ok path → es = [] → path ∈ w.host.files := by
  obtain ⟨r, es, rule⟩ := exists_search w.host (effective argument w.host)
  have run := find_of_search rule
  refine ⟨r, es, run, ?_, rule.events, ?_⟩
  · intro r' es'
    constructor
    · intro other
      have same := (find_of_search other).symm.trans run
      simp only [Prod.mk.injEq, World.mk.injEq, List.append_cancel_left_eq, true_and,
        and_true] at same
      exact same
    · rintro ⟨rfl, rfl⟩
      exact rule
  · rintro path unnamed rfl rfl
    exact rule.mem_files unnamed

/-- A host with two libraries: one in a `bin` of an early root, one in a `lib` of the last. -/
def twoLibraries : Host := { Host.bare with
  environment := [("ROCM_PATH", "/a//b/."), ("HIP_PLATFORM", "AMD")]
  files := ["/opt/rocm/lib/libamdhip64.so.6", "/a/b/bin/libamdhip64.so"] }

theorem find_iff_search_twoLibraries :
    let w := World.start twoLibraries .fresh none
    (find (optional none)).outcome w = (.ok "/a/b/bin/libamdhip64.so", w) ∧
      "/a/b/bin/libamdhip64.so" ∈ w.host.files := by
  intro w
  have unnamed (path : String) : ¬Named w.host path := fun named => by cases named.1
  have first : First w.host "/a/b/bin/libamdhip64.so" := find?_candidatePaths_eq_some.1 (by decide)
  obtain ⟨r, es, run, rules, _, there⟩ := find_iff_search w none
  obtain ⟨rfl, rfl⟩ := (rules _ _).1 (.first unnamed (by decide) first)
  exact ⟨run, there _ unnamed rfl rfl⟩

end Run

end GpuHandles.Discovery
