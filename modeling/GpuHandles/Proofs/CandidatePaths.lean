import GpuHandles.Proofs.LibrarySearch
/-!
The texts of candidates.

What a text writes is the number of slashes that it begins with and its segments, the pieces
between slashes that are neither empty nor a dot (`Path.ofText_slashes`, `Path.ofText_names`).  A
candidate is a normal path, that of its root with two names more (`normal_join`), so it is read back
as it was: it writes the slashes and segments of its root and the two names, and tells the normal
form of its root.  The search tests the normal form of what it tries, which is the text that it
answers with (`candidates_normal`).
-/

namespace GpuHandles

namespace Path

/-! ## What a text writes -/

/-- How many slashes a text begins with. -/
def slashesBefore (s : String) : Nat := (s.toList.takeWhile (· == '/')).length

/-- The pieces of a text between slashes, without the empty ones and the dots. -/
def segments (s : String) : List String :=
  ((s.toList.splitOn '/').filter fun p => p ≠ [] ∧ p ≠ ['.']).map String.ofList

/-- What is left of a number of slashes: two stay two, and more are one. -/
def keptSlashes (n : Nat) : Nat := if n = 0 then 0 else if n = 2 then 2 else 1

theorem ofText_slashes (s : String) : (ofText s).slashes = keptSlashes (slashesBefore s) := by
  show leading s.toList = keptSlashes (s.toList.takeWhile (· == '/')).length
  unfold leading keptSlashes
  split
  next none => rw [none]; rfl
  next two => rw [two]; rfl
  next none two => rw [if_neg none, if_neg two]

theorem ofText_names (s : String) : (ofText s).names = segments s := by
  have named (p : List Char) : isName p = decide (p ≠ [] ∧ p ≠ ['.']) := by
    rw [Bool.eq_iff_iff]
    simp [isName]
  show ((pieces s.toList).filter isName).map String.ofList = segments s
  unfold segments
  rw [pieces_eq_splitOn, funext named]

/-- Normal paths are told apart by their texts. -/
theorem Normal.text_inj {p q : Path} (hp : p.Normal) (hq : q.Normal) :
    p.text = q.text ↔ p = q := by
  constructor
  · intro same
    rw [← hp.ofText_text, same, hq.ofText_text]
  · exact congrArg text

/-- The slashes that a normal path with a name begins with. -/
theorem Normal.slashesBefore_text {p : Path} (h : p.Normal) (named : p.names ≠ []) :
    slashesBefore p.text = p.slashes := by
  unfold slashesBefore
  rw [toList_text fun empty => named empty.2, takeWhile_slashes _ h.head?_joined,
    List.length_replicate]

end Path

namespace Discovery

open GpuHandles.Path (normalized segments slashesBefore keptSlashes)

/-! ## One candidate -/

section Candidate

variable {host : Host} {root folder name : String} (inRoot : folder ∈ folders)
  (inFolder : name ∈ fileNames host)

theorem join_names (root folder name : String) :
    (join root folder name).names = segments root ++ [folder, name] := by
  rw [← Path.ofText_names]
  exact List.append_assoc ..

theorem join_inj {other : String} :
    join other folder name = join root folder name ↔ Path.ofText other = Path.ofText root := by
  unfold join Path.child
  rw [Path.mk.injEq, List.append_cancel_right_eq, List.append_cancel_right_eq, ← Path.mk.injEq]

include inRoot inFolder

theorem ofText_pathIn : Path.ofText (pathIn root folder name) = join root folder name :=
  (normal_join inRoot inFolder).ofText_text

theorem slashesBefore_pathIn :
    slashesBefore (pathIn root folder name) = keptSlashes (slashesBefore root) := by
  have named : (join root folder name).names ≠ [] := by
    rw [join_names]
    simp
  rw [← Path.ofText_slashes]
  exact (normal_join inRoot inFolder).slashesBefore_text named

theorem pathIn_eq_iff {other : String} : pathIn other folder name = pathIn root folder name ↔
    normalized other = normalized root := by
  have whole : pathIn other folder name = pathIn root folder name ↔
      join other folder name = join root folder name :=
    (normal_join inRoot inFolder).text_inj (normal_join inRoot inFolder)
  have part : normalized other = normalized root ↔ Path.ofText other = Path.ofText root :=
    (Path.normal_ofText other).text_inj (Path.normal_ofText root)
  rw [whole, part, join_inj]

end Candidate

/-! ## All of them -/

section Run

variable {w : World}

theorem mem_candidatePaths {host : Host} {path : String} : path ∈ candidatePaths host ↔
    ∃ root ∈ rootTexts host, ∃ folder ∈ folders, ∃ name ∈ fileNames host,
      pathIn root folder name = path := by
  rw [candidatePaths_eq]
  simp only [List.mem_flatMap, List.mem_map]

theorem exists_pathIn_of_candidates {argument : Value} {tried : List String} {w' : World}
    (run : (candidates argument).outcome w = (.ok tried, w')) {path : String}
    (mem : path ∈ tried) : ∃ root ∈ rootTexts w.host, ∃ folder ∈ folders,
      ∃ name ∈ fileNames w.host, pathIn root folder name = path := by
  obtain ⟨r, ends, listed⟩ := candidates_ends argument w
  rcases listed tried (congrArg Prod.fst (ends.symm.trans run)) with rfl | rfl
  · exact absurd mem List.not_mem_nil
  · exact mem_candidatePaths.1 mem

theorem recorded_ne (w : World) (e : Event) : { w with trace := w.trace ++ [e] } ≠ w := by
  intro same
  have longer : w.trace ++ [e] = w.trace := congrArg World.trace same
  simp at longer

/-- What the search answers with, if it asks neither the environment nor the system, is the first of
the candidates that is a file. -/
theorem find_ok_iff {argument : Value} {tried : List String} {path : String}
    (unnamed : ∀ path, ¬Named w.host path)
    (run : (candidates argument).outcome w = (.ok tried, w)) :
    (find argument).outcome w = (.ok path, w) ↔
      tried.find? (w.host.files.contains ·) = some path := by
  have tests : tried.find? w.host.hasFile = tried.find? (w.host.files.contains ·) := by
    rw [← List.head?_filter, ← List.head?_filter]
    refine congrArg List.head? (List.filter_congr fun path mem => ?_)
    obtain ⟨root, _, folder, inRoot, name, inFolder, rfl⟩ := exists_pathIn_of_candidates run mem
    exact hasFile_pathIn inRoot inFolder
  rw [find_of_unnamed unnamed, Action.outcome_bind_ok run, tests]
  cases tried.find? (w.host.files.contains ·) with
  | some first => simp
  | none =>
    refine iff_of_false ?_ nofun
    dsimp only
    split
    · exact nofun
    · rw [Action.outcome_bind_ok (systemSearch_outcome w)]
      cases w.host.systemLibrary.filter fun s => !s.isEmpty with
      | some found => exact fun same => recorded_ne w _ (congrArg Prod.snd same)
      | none => exact fun same => recorded_ne w _ (congrArg Prod.snd same)

/-- **A candidate is its own normal form.**  For every root, and a folder and a name of the search,

* it is a fixed point of the normal form, with the segments of the root and the two names, and with
  the slashes of the root, of which none, one or two are left;
* another root makes the same candidate exactly if it has the same normal form;
* on every host it is found exactly if the text itself is among the files.

What is listed, for any argument, are such candidates of the roots; unless the environment names a
file or the system is asked, the search answers with the first of them that is a file, as it
stands. -/
theorem candidates_normal (w : World) (argument : Value) :
    (∀ root, ∀ folder ∈ folders, ∀ name ∈ fileNames w.host,
      let path := pathIn root folder name
      normalized path = path ∧ segments path = segments root ++ [folder, name] ∧
        slashesBefore path = keptSlashes (slashesBefore root) ∧
        (∀ other, pathIn other folder name = path ↔ normalized other = normalized root) ∧
        ∀ h : Host, h.hasFile path = true ↔ path ∈ h.files) ∧
    ∀ tried w', (candidates argument).outcome w = (.ok tried, w') →
      w' = w ∧
      (∀ path ∈ tried, ∃ root ∈ rootTexts w.host, ∃ folder ∈ folders, ∃ name ∈ fileNames w.host,
        pathIn root folder name = path) ∧
      ((∀ path, ¬Named w.host path) → ∀ path, (find argument).outcome w = (.ok path, w) ↔
        tried.find? (w.host.files.contains ·) = some path) := by
  constructor
  · intro root folder inRoot name inFolder path
    have normal : normalized path = path := (normal_join inRoot inFolder).normalized_text
    refine ⟨normal, ?_, slashesBefore_pathIn inRoot inFolder,
      fun other => pathIn_eq_iff inRoot inFolder, fun h => ?_⟩
    · rw [← Path.ofText_names, ofText_pathIn inRoot inFolder, join_names]
    · unfold Host.hasFile
      rw [normal, List.contains_iff_mem]
  · intro tried w' run
    obtain ⟨r, ends, -⟩ := candidates_ends argument w
    have same : w' = w := congrArg Prod.snd (run.symm.trans ends)
    rw [same] at run
    exact ⟨same, fun path mem => exists_pathIn_of_candidates run mem,
      fun unnamed path => find_ok_iff unnamed run⟩

/-- A host with one library, in a root that is not in normal form. -/
def slashedRoot : Host := { Host.bare with
  environment := [("ROCM_PATH", "//a/./b//..")]
  files := ["//a/b/../lib/libamdhip64.so"] }

theorem candidates_normal_slashedRoot :
    let w := World.start slashedRoot .fresh none
    normalized "//a/b/../lib/libamdhip64.so" = "//a/b/../lib/libamdhip64.so" ∧
      pathIn "///a/b/.." "lib" "libamdhip64.so" ≠ "//a/b/../lib/libamdhip64.so" ∧
      (find .null).outcome w = (.ok "//a/b/../lib/libamdhip64.so", w) := by
  intro w
  have unnamed (path : String) : ¬Named w.host path := fun named => by cases named.1
  have listed : (candidates .null).outcome w = (.ok (candidatePaths w.host), w) :=
    @candidates_outcome w none "auto" rfl
  have written : pathIn "//a/./b//.." "lib" "libamdhip64.so" = "//a/b/../lib/libamdhip64.so" := by
    decide
  obtain ⟨each, all⟩ := candidates_normal w .null
  obtain ⟨normal, -, -, others, -⟩ :=
    each "//a/./b//.." "lib" (by decide) "libamdhip64.so" (by decide)
  rw [written] at normal others
  obtain ⟨-, -, answer⟩ := all _ _ listed
  exact ⟨normal, mt (others "///a/b/..").1 (by decide), (answer unnamed _).2 (by decide)⟩

end Run

end Discovery

end GpuHandles
