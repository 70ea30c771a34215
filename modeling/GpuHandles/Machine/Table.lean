/-!
Tables with few entries, kept in the order in which the keys came.

A key that is put is found with its new entry and no other key is touched
(`get?_put_self`, `get?_put_of_ne`); an erased key is gone and no other is
(`get?_erase_self`, `get?_erase_of_ne`).
-/

namespace GpuHandles

/-- A finite map as a list of entries. -/
abbrev Table (κ α : Type) := List (κ × α)

namespace Table

variable {κ α : Type} [DecidableEq κ]

/-- The entry of a key. -/
def get? (t : Table κ α) (k : κ) : Option α := (t.find? fun e => e.1 = k).map Prod.snd

/-- Is there an entry? -/
def has (t : Table κ α) (k : κ) : Bool := t.any fun e => e.1 = k

/-- The entry of a key replaced by another; an absent key stays absent. -/
def set (t : Table κ α) (k : κ) (a : α) : Table κ α :=
  t.map fun e => if e.1 = k then (k, a) else e

/-- The entry of a key replaced, or put at the end. -/
def put (t : Table κ α) (k : κ) (a : α) : Table κ α :=
  if t.has k then t.set k a else t ++ [(k, a)]

/-- All entries but that of a key. -/
def erase (t : Table κ α) (k : κ) : Table κ α := t.filter fun e => e.1 ≠ k

/-- The keys. -/
def keys (t : Table κ α) : List κ := t.map Prod.fst

/-! ## What a look-up finds -/

omit [DecidableEq κ] in
@[simp] theorem keys_nil : keys ([] : Table κ α) = [] := rfl

@[simp] theorem get?_nil (k : κ) : get? ([] : Table κ α) k = none := rfl

theorem get?_cons (e : κ × α) (t : Table κ α) (k : κ) :
    get? (e :: t) k = if e.1 = k then some e.2 else t.get? k := by
  by_cases h : e.1 = k <;> simp [get?, h]

theorem has_eq_isSome_get? (t : Table κ α) (k : κ) : t.has k = (t.get? k).isSome := by
  induction t with
  | nil => rfl
  | cons e t ih =>
    rw [get?_cons]
    by_cases h : e.1 = k <;> simp_all [has]

theorem has_iff_mem_keys (t : Table κ α) (k : κ) : t.has k ↔ k ∈ t.keys := by
  simp [has, keys]

theorem get?_of_notMem {t : Table κ α} {k : κ} (h : k ∉ t.keys) : t.get? k = none := by
  rwa [← Option.not_isSome_iff_eq_none, ← has_eq_isSome_get?, has_iff_mem_keys]

theorem get?_append (t u : Table κ α) (k : κ) : get? (t ++ u) k = (t.get? k).or (u.get? k) := by
  induction t with
  | nil => simp
  | cons e t ih =>
    rw [List.cons_append, get?_cons, get?_cons, ih]
    by_cases h : e.1 = k <;> simp [h]

/-- Replacing an entry changes what its key finds, if it is there, and nothing else. -/
theorem get?_set (t : Table κ α) (j k : κ) (a : α) :
    (t.set j a).get? k = if j = k then (t.get? k).map (fun _ => a) else t.get? k := by
  induction t with
  | nil => simp [set]
  | cons e t ih =>
    simp only [set] at ih
    by_cases hj : e.1 = j <;> by_cases hk : j = k <;> simp_all [set, get?_cons]

theorem get?_put_self (t : Table κ α) (k : κ) (a : α) : (t.put k a).get? k = some a := by
  unfold put
  split
  next h =>
    rw [has_eq_isSome_get?] at h
    obtain ⟨b, hb⟩ := Option.isSome_iff_exists.1 h
    simp [get?_set, hb]
  next h =>
    rw [has_eq_isSome_get?] at h
    simp_all [get?_append, get?_cons]

theorem get?_put_of_ne (t : Table κ α) {j k : κ} (h : j ≠ k) (a : α) :
    (t.put j a).get? k = t.get? k := by
  unfold put
  split
  · simp [get?_set, h]
  · simp [get?_append, get?_cons, h]

theorem get?_erase_self (t : Table κ α) (k : κ) : (t.erase k).get? k = none := by
  induction t with
  | nil => rfl
  | cons e t ih =>
    simp only [erase] at ih
    by_cases h : e.1 = k <;> simp_all [erase, get?_cons]

theorem get?_erase_of_ne (t : Table κ α) {j k : κ} (h : j ≠ k) :
    (t.erase j).get? k = t.get? k := by
  induction t with
  | nil => rfl
  | cons e t ih =>
    simp only [erase] at ih
    by_cases hj : e.1 = j <;> simp_all [erase, get?_cons]

/-! ## Keys -/

@[simp] theorem keys_set (t : Table κ α) (k : κ) (a : α) : (t.set k a).keys = t.keys := by
  simp only [keys, set, List.map_map]
  refine List.map_congr_left fun e _ => ?_
  by_cases h : e.1 = k <;> simp [h]

theorem keys_erase (t : Table κ α) (k : κ) : (t.erase k).keys = t.keys.filter (· ≠ k) := by
  simp only [keys, erase, List.filter_map]
  rfl

theorem nodup_keys_erase {t : Table κ α} (h : t.keys.Nodup) (k : κ) :
    (t.erase k).keys.Nodup :=
  List.Nodup.sublist ((List.filter_sublist).map Prod.fst) h

end Table
end GpuHandles
