import GpuHandles.Path
/-!
Paths in normal form, written out and read again.

`pieces` is a split at slashes (`pieces_eq_splitOn`), so names that hold no slash come back
from their join.  A normal path is read back from its text as it was (`Normal.ofText_text`);
the path of any text is normal (`normal_ofText`), and stays so with a name more
(`Normal.child`).
-/

namespace GpuHandles.Path

/-! ## Pieces -/

theorem pieces_ne_nil (cs : List Char) : pieces cs ≠ [] := by
  cases cs with
  | nil => simp [pieces]
  | cons c cs =>
    unfold pieces
    split
    · simp
    · simp
    · split <;> simp

theorem pieces_slash (cs : List Char) : pieces ('/' :: cs) = [] :: pieces cs := by
  rw [pieces]

theorem pieces_cons {c : Char} (h : c ≠ '/') (cs : List Char) :
    pieces (c :: cs) = (pieces cs).modifyHead (c :: ·) := by
  rw [pieces]
  · cases found : pieces cs with
    | nil => exact absurd found (pieces_ne_nil cs)
    | cons p ps => rfl
  · exact h

theorem pieces_eq_splitOn (cs : List Char) : pieces cs = cs.splitOn '/' := by
  unfold List.splitOn
  induction cs with
  | nil => rfl
  | cons c cs ih =>
    rw [List.splitOnP_cons_eq_if_modifyHead, ← ih]
    by_cases slash : c = '/'
    · rw [slash, pieces_slash]
      rfl
    · rw [pieces_cons slash, if_neg (by simpa using slash)]

theorem slash_notMem_of_mem_pieces {cs p : List Char} (h : p ∈ pieces cs) : '/' ∉ p := by
  induction cs generalizing p with
  | nil =>
    rw [List.mem_singleton.1 h]
    exact List.not_mem_nil
  | cons c cs ih =>
    by_cases slash : c = '/'
    · rw [slash, pieces_slash] at h
      rcases List.mem_cons.1 h with rfl | later
      · exact List.not_mem_nil
      · exact ih later
    · rw [pieces_cons slash] at h
      cases found : pieces cs with
      | nil => exact absurd found (pieces_ne_nil cs)
      | cons q qs =>
        rw [found] at h ih
        rcases List.mem_cons.1 h with rfl | later
        · simpa [Ne.symm slash] using ih List.mem_cons_self
        · exact ih (List.mem_cons_of_mem _ later)

theorem pieces_replicate_append (n : Nat) (cs : List Char) :
    pieces (List.replicate n '/' ++ cs) = List.replicate n [] ++ pieces cs := by
  induction n with
  | zero => rfl
  | succ n ih => rw [List.replicate_succ, List.cons_append, pieces_slash, ih]; rfl

/-! ## Normal paths -/

/-- A name that stands for itself in a path. -/
def Proper (name : String) : Prop := isName name.toList = true ∧ '/' ∉ name.toList

instance (name : String) : Decidable (Proper name) := inferInstanceAs (Decidable (_ ∧ _))

/-- At most two slashes in front, and every name stands for itself. -/
structure Normal (p : Path) : Prop where
  slashes : p.slashes ≤ 2
  names : ∀ name ∈ p.names, Proper name

theorem leading_le (cs : List Char) : leading cs ≤ 2 := by
  unfold leading
  split <;> decide

theorem normal_ofText (s : String) : (ofText s).Normal where
  slashes := leading_le _
  names := by
    intro name mem
    obtain ⟨p, kept, rfl⟩ := List.mem_map.1 mem
    obtain ⟨piece, isName⟩ := List.mem_filter.1 kept
    unfold Proper
    rw [String.toList_ofList]
    exact ⟨isName, slash_notMem_of_mem_pieces piece⟩

theorem Normal.child {p : Path} (h : p.Normal) {name : String} (proper : Proper name) :
    (p.child name).Normal where
  slashes := h.slashes
  names := by
    intro other mem
    rcases List.mem_append.1 mem with old | new
    · exact h.names other old
    · rw [List.mem_singleton.1 new]
      exact proper

/-- The slashes in front of a text that goes on with something else. -/
theorem takeWhile_slashes (n : Nat) {cs : List Char} (other : cs.head? ≠ some '/') :
    (List.replicate n '/' ++ cs).takeWhile (· == '/') = List.replicate n '/' := by
  have rest : cs.takeWhile (· == '/') = [] := by
    cases cs with
    | nil => rfl
    | cons c cs => exact List.takeWhile_cons_of_neg (by simpa using other)
  rw [List.takeWhile_append_of_pos (by simp +contextual), rest, List.append_nil]

theorem leading_replicate_append {n : Nat} {cs : List Char} (bound : n ≤ 2)
    (other : cs.head? ≠ some '/') : leading (List.replicate n '/' ++ cs) = n := by
  unfold leading
  rw [takeWhile_slashes n other, List.length_replicate]
  match n, bound with
  | 0, _ => rfl
  | 1, _ => rfl
  | 2, _ => rfl

/-- The names of a normal path, joined by slashes, do not start with one. -/
theorem Normal.head?_joined {p : Path} (h : p.Normal) :
    (['/'].intercalate (p.names.map String.toList)).head? ≠ some '/' := by
  rcases hn : p.names with _ | ⟨name, names⟩
  · simp
  · obtain ⟨isName, noSlash⟩ := h.names name (by rw [hn]; exact List.mem_cons_self)
    cases letters : name.toList with
    | nil =>
      rw [letters] at isName
      cases isName
    | cons c cs =>
      rw [letters] at noSlash
      have first : c ≠ '/' := fun same => noSlash (by rw [same]; exact List.mem_cons_self)
      cases names with
      | nil => simpa [letters] using first
      | cons other names => simpa [letters, List.intercalate_cons_cons] using first

/-- The pieces of the joined names that name something are the names. -/
theorem Normal.filter_pieces {p : Path} (h : p.Normal) :
    (pieces (['/'].intercalate (p.names.map String.toList))).filter isName =
      p.names.map String.toList := by
  rcases hn : p.names with _ | ⟨name, names⟩
  · rfl
  · rw [← hn, pieces_eq_splitOn, List.splitOn_intercalate]
    · apply List.filter_eq_self.2
      intro letters mem
      obtain ⟨other, old, rfl⟩ := List.mem_map.1 mem
      exact (h.names other old).1
    · intro letters mem
      obtain ⟨other, old, rfl⟩ := List.mem_map.1 mem
      exact (h.names other old).2
    · simp [hn]

theorem toList_text {p : Path} (h : ¬(p.slashes = 0 ∧ p.names = [])) :
    p.text.toList =
      List.replicate p.slashes '/' ++ ['/'].intercalate (p.names.map String.toList) := by
  unfold text
  rw [if_neg (by simpa using h)]
  simp [String.toList_intercalate]

/-- **A normal path is read back from its text.** -/
theorem Normal.ofText_text {p : Path} (h : p.Normal) : ofText p.text = p := by
  by_cases empty : p.slashes = 0 ∧ p.names = []
  · obtain ⟨slashes, names⟩ := p
    obtain ⟨rfl, rfl⟩ := empty
    rfl
  · have slashes : (ofText p.text).slashes = p.slashes := by
      unfold ofText
      rw [toList_text empty]
      exact leading_replicate_append h.slashes h.head?_joined
    have names : (ofText p.text).names = p.names := by
      unfold ofText
      rw [toList_text empty, pieces_replicate_append, List.filter_append, h.filter_pieces]
      simp [isName, Function.comp_def]
    exact congr (congrArg Path.mk slashes) names

theorem Normal.normalized_text {p : Path} (h : p.Normal) : normalized p.text = p.text := by
  unfold normalized
  rw [h.ofText_text]

end GpuHandles.Path
