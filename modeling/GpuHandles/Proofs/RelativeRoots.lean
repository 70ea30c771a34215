import GpuHandles.Proofs.CandidatePaths
/-!
Roots that are not absolute.

A text is absolute if it begins with a slash; such a text means the same to a process in every
directory, and no other does (`Path.fixed_iff_absolute`).  The roots of the environment are taken as
they are written, so a candidate is absolute exactly if its root is (`absolute_pathIn`), and all of
them are exactly if every root is (`candidates_absolute`).
-/

namespace GpuHandles

namespace Path

/-! ## Absolute texts -/

/-- A text that begins with a slash. -/
def Absolute (s : String) : Prop := s.toList.head? = some '/'

instance (s : String) : Decidable (Absolute s) := inferInstanceAs (Decidable (_ = _))

/-- What a text means to a process that works in a directory. -/
def located (directory : Path) (s : String) : Path :=
  if (ofText s).slashes = 0 then
    { directory with names := directory.names ++ (ofText s).names }
  else ofText s

/-- A text that means one path to every process, wherever it works. -/
def Fixed (s : String) : Prop :=
  ∀ d d' : Path, d.slashes = 1 → d'.slashes = 1 → located d s = located d' s

theorem absolute_iff_slashes {s : String} : Absolute s ↔ (ofText s).slashes ≠ 0 := by
  have kept (n : Nat) : keptSlashes n ≠ 0 ↔ n ≠ 0 := by
    unfold keptSlashes
    split
    · simp [*]
    · split <;> simp [*]
  rw [ofText_slashes, kept]
  unfold Absolute slashesBefore
  cases s.toList with
  | nil => simp
  | cons c cs => by_cases slash : c = '/' <;> simp [slash]

theorem fixed_iff_absolute {s : String} : Fixed s ↔ Absolute s := by
  rw [absolute_iff_slashes]
  constructor
  · intro fixed relative
    have same := congrArg names (fixed ⟨1, []⟩ ⟨1, ["other"]⟩ rfl rfl)
    unfold located at same
    rw [if_pos relative, if_pos relative] at same
    simp at same
  · intro absolute d d' _ _
    unfold located
    rw [if_neg absolute, if_neg absolute]

end Path

namespace Discovery

open GpuHandles.Path (Absolute Fixed located)

variable {host : Host} {w : World}

theorem absolute_pathIn {root folder name : String} (inRoot : folder ∈ folders)
    (inFolder : name ∈ fileNames host) :
    Absolute (pathIn root folder name) ↔ Absolute root := by
  rw [Path.absolute_iff_slashes, Path.absolute_iff_slashes, ofText_pathIn inRoot inFolder]
  rfl

/-! ## The candidates of a host -/

/-- Every root that the environment names is absolute. -/
def AbsoluteRoots (host : Host) : Prop :=
  ∀ key ∈ rootVariables, ∀ root, host.filled? key = some root → Absolute root

theorem absoluteRoots_iff : AbsoluteRoots host ↔ ∀ root ∈ rootTexts host, Absolute root := by
  have last : Absolute "/opt/rocm" := by decide
  unfold AbsoluteRoots rootVariables rootTexts
  simp [or_imp, forall_and, last]

theorem fileNames_ne_nil (host : Host) : fileNames host ≠ [] := by
  unfold fileNames
  split <;> exact List.cons_ne_nil _ _

/-- Every root has a candidate, which is absolute only if the root is. -/
theorem candidatePaths_absolute :
    (∀ path ∈ candidatePaths host, Absolute path) ↔ AbsoluteRoots host := by
  rw [absoluteRoots_iff]
  constructor
  · intro all root inRoots
    obtain ⟨name, inFolder⟩ := List.exists_mem_of_ne_nil _ (fileNames_ne_nil host)
    have inRoot : "lib" ∈ folders := List.mem_cons_self
    have listed : pathIn root "lib" name ∈ candidatePaths host :=
      mem_candidatePaths.2 ⟨root, inRoots, "lib", inRoot, name, inFolder, rfl⟩
    exact (absolute_pathIn inRoot inFolder).1 (all _ listed)
  · intro roots path mem
    obtain ⟨root, inRoots, folder, inRoot, name, inFolder, rfl⟩ := mem_candidatePaths.1 mem
    exact (absolute_pathIn inRoot inFolder).2 (roots root inRoots)

/-! ## What is listed, and what is found -/

/-- **The candidates are absolute exactly if the roots are.**  Whatever the environment and the
argument are,

* what is listed is all absolute exactly if nothing is listed or every root that the environment
  names is absolute;
* each path that is listed is absolute, and means the same file in every directory, exactly if its
  own root is absolute;
* the search answers with a path that is listed, unless the environment names a file or the system
  is asked. -/
theorem candidates_absolute {argument : Value} {tried : List String} {w' : World}
    (run : (candidates argument).outcome w = (.ok tried, w')) :
    ((∀ path ∈ tried, Absolute path) ↔ tried = [] ∨ AbsoluteRoots w.host) ∧
    (∀ path ∈ tried, ∃ root ∈ rootTexts w.host, ∃ folder ∈ folders, ∃ name ∈ fileNames w.host,
      pathIn root folder name = path ∧ (Absolute path ↔ Absolute root) ∧
        (Fixed path ↔ Absolute root)) ∧
    ((∀ path, ¬Named w.host path) → ∀ path, (find argument).outcome w = (.ok path, w) →
      path ∈ tried) := by
  obtain ⟨r, ends, listed⟩ := candidates_ends argument w
  have same : w' = w := congrArg Prod.snd (run.symm.trans ends)
  rw [same] at run
  refine ⟨?_, fun path mem => ?_, fun unnamed path found => ?_⟩
  · rcases listed tried (congrArg Prod.fst (ends.symm.trans run)) with rfl | rfl
    · simp
    · rw [candidatePaths_absolute, or_iff_right (candidatePaths_ne_nil w.host)]
  · obtain ⟨root, inRoots, folder, inRoot, name, inFolder, rfl⟩ :=
      exists_pathIn_of_candidates run mem
    have own : Absolute (pathIn root folder name) ↔ Absolute root :=
      absolute_pathIn inRoot inFolder
    exact ⟨root, inRoots, folder, inRoot, name, inFolder, rfl, own,
      Path.fixed_iff_absolute.trans own⟩
  · exact List.mem_of_find?_eq_some ((find_ok_iff unnamed run).1 found)

/-- A host whose environment names a root by a text. -/
def rooted (root : String) : Host := { Host.bare with environment := [("ROCM_PATH", root)] }

theorem candidates_rooted (root : String) :
    let w := World.start (rooted root) .fresh none
    (candidates .null).outcome w = (.ok (candidatePaths w.host), w) :=
  @candidates_outcome (World.start (rooted root) .fresh none) none "auto" rfl

theorem candidates_absolute_parent :
    let w := World.start (rooted "//opt/../") .fresh none
    (candidates .null).outcome w = (.ok (candidatePaths w.host), w) ∧
      ∀ path ∈ candidatePaths w.host, Absolute path := by
  intro w
  have run := candidates_rooted "//opt/../"
  have roots : AbsoluteRoots w.host := absoluteRoots_iff.2 (by decide)
  exact ⟨run, (candidates_absolute run).1.2 (.inr roots)⟩

/-- A relative root makes relative candidates. -/
theorem candidates_absolute_relative :
    let w := World.start (rooted "rocm") .fresh none
    ∃ tried, (candidates .null).outcome w = (.ok tried, w) ∧
      tried.head? = some "rocm/lib/libamdhip64.so.6" ∧
      ¬Absolute "rocm/lib/libamdhip64.so.6" ∧ ¬Fixed "rocm/lib/libamdhip64.so.6" := by
  intro w
  refine ⟨_, candidates_rooted "rocm", by decide, by decide, ?_⟩
  rw [Path.fixed_iff_absolute]
  decide

end Discovery

end GpuHandles
