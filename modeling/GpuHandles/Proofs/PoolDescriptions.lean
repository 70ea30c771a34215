import GpuHandles.Proofs.NumericValues
import GpuHandles.Proofs.Twin
/-!
Descriptions of pools.

A description has five fields (`Setting`).  What a chain of changes comes to depends on the values
alone that it gives each field, in their order (`values`): it is refused where a largest size among
them is, and otherwise every field has the last of its values (`applyAll_eq`).  So changes of
different fields can be made in either order (`applyAll_swap`).

In the native structure each field is a number of its own width (`Setting.cut`).  The 88 bytes of
the structure hold the five numbers and nothing else (`ofBytes?_bytes`): they tell two descriptions
apart exactly where a number differs modulo its width.
-/

namespace GpuHandles

open Width (InInt InSize)

namespace PoolProps

/-- A field of a description. -/
inductive Setting where
  | allocationType
  | handleTypes
  | locationType
  | locationId
  | maxSize
  deriving DecidableEq

namespace Setting

variable {f : Setting} {m n : Int}

/-- A number as the native field holds it. -/
def cut : Setting → Int → Int
  | maxSize, n => Width.uint64 n
  | _, n => Width.int32 n

/-- A number that the native field can hold. -/
def Fits : Setting → Int → Prop
  | maxSize, n => InSize n
  | _, n => InInt n

/-- How many numbers the native field can hold. -/
def span : Setting → Nat
  | maxSize => 2 ^ 64
  | _ => 2 ^ 32

end Setting
end PoolProps

namespace Width

theorem int32_uint32 (n : Int) : int32 (uint32 n) = int32 n := by
  unfold int32 signed uint32 unsigned
  rw [Int.toNat_of_nonneg (Int.emod_nonneg n (by decide)), Int.emod_bmod]

theorem int32_eq_iff (m n : Int) : int32 m = int32 n ↔ m % 2 ^ 32 = n % 2 ^ 32 := by
  unfold int32 signed
  constructor
  · intro same
    have residues := congrArg (· % ((2 ^ 32 : Nat) : Int)) same
    rwa [Int.bmod_emod, Int.bmod_emod] at residues
  · intro same
    rw [← Int.emod_bmod m, ← Int.emod_bmod n]
    exact congrArg (Int.bmod · (2 ^ 32)) same

theorem uint64_eq_iff (m n : Int) : uint64 m = uint64 n ↔ m % 2 ^ 64 = n % 2 ^ 64 := by
  unfold uint64 unsigned
  omega

end Width

namespace PoolProps

namespace Setting

variable {f : Setting} {m n : Int}

theorem cut_fits (f : Setting) (n : Int) : f.Fits (f.cut n) := by
  cases f with
  | maxSize => exact Width.uint64_in n
  | _ => exact Width.int32_in n

/-- A field leaves alone exactly the numbers that it can hold. -/
theorem cut_eq_self_iff : f.cut n = n ↔ f.Fits n := by
  cases f with
  | maxSize => exact Width.uint64_eq_self_iff
  | _ => exact Width.int32_eq_self_iff

/-- A field holds the same for two numbers exactly if they agree modulo its width. -/
theorem cut_eq_iff : f.cut m = f.cut n ↔ m % f.span = n % f.span := by
  cases f with
  | maxSize => exact Int.ofNat_inj.trans (Width.uint64_eq_iff m n)
  | _ => exact Width.int32_eq_iff m n

end Setting

/-! ## Chains of changes -/

variable {p q : PoolProps} {changes : List Change}

/-- The value of a field. -/
def get (p : PoolProps) : Setting → Value
  | .allocationType => p.allocationType
  | .handleTypes => p.handleTypes
  | .locationType => p.locationType
  | .locationId => p.locationId
  | .maxSize => p.maxSize

/-- The description with given values. -/
def ofSettings (value : Setting → Value) : PoolProps :=
  ⟨value .allocationType, value .handleTypes, value .locationType, value .locationId,
    value .maxSize⟩

@[simp] theorem get_ofSettings (value : Setting → Value) (f : Setting) :
    (ofSettings value).get f = value f := by
  cases f <;> rfl

/-- The value that a change gives a field, if it is one that the change is about. -/
def Change.value? : Change → Setting → Option Value
  | .allocationType v, .allocationType | .handleTypes v, .handleTypes
  | .location v _, .locationType | .location _ v, .locationId | .maxSize v, .maxSize => some v
  | _, _ => none

/-- Changes that have no field in common. -/
def Change.Apart (c d : Change) : Prop := ∀ f, c.value? f = none ∨ d.value? f = none

/-- The values that a chain gives a field, one after the other. -/
def values (changes : List Change) (f : Setting) : List Value := changes.filterMap (·.value? f)

theorem values_append (first second : List Change) (f : Setting) :
    values (first ++ second) f = values first f ++ values second f :=
  List.filterMap_append

theorem mem_values_maxSize {v : Value} : v ∈ values changes .maxSize ↔ .maxSize v ∈ changes := by
  unfold values
  rw [List.mem_filterMap]
  constructor
  · rintro ⟨c, there, given⟩
    cases c with
    | maxSize => cases given; exact there
    | _ => cases given
  · intro there
    exact ⟨_, there, rfl⟩

/-- A description with the last of the values that a chain gives each field. -/
def overwritten (p : PoolProps) (changes : List Change) : PoolProps :=
  ofSettings fun f => (values changes f).getLastD (p.get f)

theorem overwritten_append (p : PoolProps) (first second : List Change) :
    p.overwritten (first ++ second) = (p.overwritten first).overwritten second := by
  unfold overwritten
  congr 1
  funext f
  rw [values_append, get_ofSettings]
  generalize values first f = vs, p.get f = v
  induction vs generalizing v with
  | nil => rfl
  | cons u vs ih => simpa only [List.cons_append, List.getLastD_cons] using ih u

/-- The one check that a change makes: a largest size is not negative. -/
def checkLimit (v : Value) : Except Fault Unit := do
  if ← v.compare .below (.int 0) then .error (.negativeLimit (v.inSentence Value.nameless))
  else return ()

/-- One change checks the largest size that it gives, if any, and overwrites its fields. -/
theorem apply_eq (p : PoolProps) (c : Change) : p.apply c =
    (forM (values [c] .maxSize) checkLimit >>= fun _ => .ok (p.overwritten [c])) := by
  cases c with
  | maxSize v =>
    show p.withMaxSize v = ((checkLimit v >>= fun _ => .ok ()) >>= _)
    unfold withMaxSize checkLimit
    rcases v.compare .below (.int 0) with _ | _ | _ <;> rfl
  | _ => rfl

/-- A chain of changes checks every largest size that it gives, in turn, and each field ends with
the last of its values. -/
theorem applyAll_eq (p : PoolProps) (changes : List Change) : p.applyAll changes =
    (forM (values changes .maxSize) checkLimit >>= fun _ => .ok (p.overwritten changes)) := by
  induction changes generalizing p with
  | nil => rfl
  | cons c changes ih =>
    show (p.apply c >>= fun q => q.applyAll changes) = _
    rw [← List.singleton_append, values_append, overwritten_append, List.forM_append, apply_eq,
      bind_assoc, bind_assoc]
    congr 1
    funext _
    exact ih (p.overwritten [c])

/-- What a chain comes to depends on the values alone that it gives each field. -/
theorem applyAll_congr {other : List Change} (same : ∀ f, values changes f = values other f)
    (p : PoolProps) : p.applyAll changes = p.applyAll other := by
  have fields : p.overwritten changes = p.overwritten other := by
    unfold overwritten
    simp only [same]
  rw [applyAll_eq, applyAll_eq, fields, same]

/-- Changes of different fields can be made in either order. -/
theorem applyAll_swap {c d : Change} (apart : c.Apart d) (p : PoolProps)
    (before after : List Change) :
    p.applyAll (before ++ c :: d :: after) = p.applyAll (before ++ d :: c :: after) := by
  refine applyAll_congr (fun f => ?_) p
  unfold values
  rcases apart f with none | none
  · simp [List.filterMap_cons, none]
  · simp [List.filterMap_cons, none]

/-! ### With whole numbers -/

/-- A largest size that is refused: a whole number below zero. -/
def Negative (v : Value) : Prop := ∃ n < 0, v.IsWhole n

theorem checkLimit_eq {v : Value} {n : Int} (whole : v.IsWhole n) : checkLimit v =
    if n < 0 then .error (.negativeLimit (v.inSentence Value.nameless)) else .ok () := by
  unfold checkLimit
  rw [whole.below 0]
  by_cases negative : n < 0
  · rw [if_pos negative, decide_eq_true negative]
    rfl
  · rw [if_neg negative, decide_eq_false negative]
    rfl

/-- Largest sizes that are whole numbers are all let through, or one of them is negative and its
failure is reported. -/
theorem forM_checkLimit {vs : List Value} (whole : ∀ v ∈ vs, ∃ n, v.IsWhole n) :
    (forM vs checkLimit = .ok () ∧ ∀ v ∈ vs, ¬Negative v) ∨
      ∃ v ∈ vs, Negative v ∧
        forM vs checkLimit = .error (.negativeLimit (v.inSentence Value.nameless)) := by
  induction vs with
  | nil => exact .inl ⟨rfl, nofun⟩
  | cons v vs ih =>
    obtain ⟨n, first⟩ := whole v List.mem_cons_self
    have check := checkLimit_eq first
    rw [List.forM_cons]
    by_cases negative : n < 0
    · rw [if_pos negative] at check
      refine .inr ⟨v, List.mem_cons_self, ⟨n, negative, first⟩, ?_⟩
      rw [check]
      rfl
    · rw [if_neg negative] at check
      rw [check]
      rcases ih fun u there => whole u (List.mem_cons_of_mem v there) with
        ⟨passed, others⟩ | ⟨u, there, bad, refused⟩
      · refine .inl ⟨passed, fun u there => ?_⟩
        rcases List.mem_cons.1 there with rfl | there
        · rintro ⟨k, below, same⟩
          cases first.unique same
          exact negative below
        · exact others u there
      · exact .inr ⟨u, List.mem_cons_of_mem v there, bad, refused⟩

/-- The fields of a description are whole numbers. -/
def Spells (p : PoolProps) (n : Setting → Int) : Prop := ∀ f, (p.get f).IsWhole (n f)

theorem Spells.overwritten {n : Setting → Int} (h : p.Spells n)
    (whole : ∀ f, ∀ v ∈ values changes f, ∃ k, v.IsWhole k) :
    ∃ m, (p.overwritten changes).Spells m := by
  have each (f : Setting) : ∃ k, ((p.overwritten changes).get f).IsWhole k := by
    unfold PoolProps.overwritten
    rw [get_ofSettings, List.getLastD_eq_getLast?]
    cases last : (values changes f).getLast? with
    | none => exact ⟨n f, h f⟩
    | some v => exact whole f v (List.mem_of_getLast? last)
  exact ⟨fun f => (each f).choose, fun f => (each f).choose_spec⟩

end PoolProps

/-! ## The native structure -/

open PoolProps (Setting)

namespace PoolImage

variable {i j : PoolImage} {n : Setting → Int}

/-- The number in a field. -/
def number (i : PoolImage) : Setting → Int
  | .allocationType => i.allocationType
  | .handleTypes => i.handleTypes
  | .locationType => i.locationType
  | .locationId => i.locationId
  | .maxSize => i.maxSize

/-- The structure for five numbers, each cut to its field. -/
def ofNumbers (n : Setting → Int) : PoolImage :=
  ⟨Width.int32 (n .allocationType), Width.int32 (n .handleTypes), Width.int32 (n .locationType),
    Width.int32 (n .locationId), Width.uint64 (n .maxSize)⟩

theorem number_ofNumbers (n : Setting → Int) (f : Setting) : (ofNumbers n).number f = f.cut (n f) := by
  cases f <;> rfl

theorem ext_number (same : ∀ f, i.number f = j.number f) : i = j := by
  have a := same .allocationType
  have b := same .handleTypes
  have c := same .locationType
  have d := same .locationId
  have e : i.maxSize = j.maxSize := Int.ofNat_inj.1 (same .maxSize)
  cases i
  cases j
  simp_all [number]

/-- Each number is one that its field can hold. -/
def Native (i : PoolImage) : Prop := ∀ f : Setting, f.Fits (i.number f)

theorem native_ofNumbers (n : Setting → Int) : (ofNumbers n).Native := fun f => by
  rw [number_ofNumbers]
  exact f.cut_fits (n f)

@[simp] theorem length_field (n : Int) : (field n).length = 4 := Width.length_littleEndian 4 _

theorem drop_field (n : Int) (k : Nat) (rest : List UInt8) :
    (field n ++ rest).drop (4 + k) = rest.drop k := by
  rw [← List.drop_drop, List.drop_left' (length_field n)]

theorem length_bytes (i : PoolImage) : i.bytes.length = 88 := by
  simp [bytes, reserved]

/-- A field is read as the number that was written. -/
theorem readField_append {n : Int} (fits : InInt n) (rest : List UInt8) :
    readField (field n ++ rest) = n := by
  unfold readField
  rw [List.take_left' (length_field n), field, Width.ofLittleEndian_littleEndian,
    Nat.mod_eq_of_lt (Width.unsigned_lt 32 n), Width.int32_uint32, Width.int32_of_in fits]

theorem pointer_bytes (i : PoolImage) : (i.bytes.drop 16).take 8 = List.replicate 8 0 := by
  simp [bytes, List.drop_append, List.take_append, List.drop_eq_nil_of_le]

theorem reserved_bytes (i : PoolImage) : i.bytes.drop 32 = List.replicate reserved 0 := by
  simp [bytes, List.drop_append, List.drop_eq_nil_of_le]

theorem maxSize_bytes (i : PoolImage) :
    (i.bytes.drop 24).take 8 = Width.littleEndian 8 i.maxSize := by
  simp [bytes, List.drop_append, List.drop_eq_nil_of_le]

/-- **The bytes of the structure** hold its numbers and nothing else. -/
theorem ofBytes?_bytes (h : i.Native) : ofBytes? i.bytes = some i := by
  have first : readField i.bytes = i.allocationType := by
    simp only [bytes, List.append_assoc]
    exact readField_append (h .allocationType) _
  have second : readField (i.bytes.drop 4) = i.handleTypes := by
    simp only [bytes, List.append_assoc]
    rw [drop_field _ 0]
    exact readField_append (h .handleTypes) _
  have third : readField (i.bytes.drop 8) = i.locationType := by
    simp only [bytes, List.append_assoc]
    rw [drop_field _ 4, drop_field _ 0]
    exact readField_append (h .locationType) _
  have fourth : readField (i.bytes.drop 12) = i.locationId := by
    simp only [bytes, List.append_assoc]
    rw [drop_field _ 8, drop_field _ 4, drop_field _ 0]
    exact readField_append (h .locationId) _
  have size : Width.ofLittleEndian ((i.bytes.drop 24).take 8) = i.maxSize := by
    have fits : (i.maxSize : Int) < 2 ^ 64 := (h .maxSize).2
    rw [maxSize_bytes, Width.ofLittleEndian_littleEndian]
    exact Nat.mod_eq_of_lt (by omega)
  unfold ofBytes?
  rw [if_pos ⟨i.length_bytes, i.pointer_bytes, i.reserved_bytes⟩, first, second, third, fourth, size]

/-- How a structure stands for five whole numbers: in 88 bytes that hold each number cut to its
field, which are the numbers themselves exactly if they all fit. -/
structure Encodes (i : PoolImage) (n : Setting → Int) : Prop where
  length : i.bytes.length = 88
  decoded : ofBytes? i.bytes = some i
  cut : ∀ f, i.number f = f.cut (n f)
  pointer : (i.bytes.drop 16).take 8 = List.replicate 8 0
  rest : i.bytes.drop 32 = List.replicate 56 0
  exact_iff : i.number = n ↔ ∀ f : Setting, f.Fits (n f)

theorem encodes (n : Setting → Int) : (ofNumbers n).Encodes n where
  length := length_bytes _
  decoded := ofBytes?_bytes (native_ofNumbers n)
  cut := number_ofNumbers n
  pointer := pointer_bytes _
  rest := reserved_bytes _
  exact_iff := by
    rw [funext_iff]
    refine forall_congr' fun f => ?_
    rw [number_ofNumbers, Setting.cut_eq_self_iff]

/-- The bytes tell numbers apart exactly where they differ modulo the width of their field. -/
theorem bytes_eq_iff (n m : Setting → Int) :
    (ofNumbers n).bytes = (ofNumbers m).bytes ↔ ∀ f, n f % f.span = m f % f.span := by
  constructor
  · intro same f
    have back := (encodes n).decoded.symm.trans (same ▸ (encodes m).decoded)
    rw [← Setting.cut_eq_iff, ← number_ofNumbers, ← number_ofNumbers, Option.some.inj back]
  · intro same
    refine congrArg bytes (ext_number fun f => ?_)
    rw [number_ofNumbers, number_ofNumbers, Setting.cut_eq_iff.2 (same f)]

end PoolImage

namespace PoolProps

/-- A description by whole numbers always has a native structure. -/
theorem Spells.image {p : PoolProps} {n : Setting → Int} (h : p.Spells n) :
    p.image = .ok (.ofNumbers n) := by
  have a : p.allocationType.toWhole = .ok (n .allocationType) := (h .allocationType).toWhole
  have b : p.handleTypes.toWhole = .ok (n .handleTypes) := (h .handleTypes).toWhole
  have c : p.locationType.toWhole = .ok (n .locationType) := (h .locationType).toWhole
  have d : p.locationId.toIndex = .ok (n .locationId) := (h .locationId).toIndex
  have e : p.maxSize.toIndex = .ok (n .maxSize) := (h .maxSize).toIndex
  unfold PoolProps.image
  rw [a, b, c, d, e]
  rfl

/-- Five numbers, one for each setting. -/
def numbers (allocationType handleTypes locationType locationId maxSize : Int) : Setting → Int
  | .allocationType => allocationType
  | .handleTypes => handleTypes
  | .locationType => locationType
  | .locationId => locationId
  | .maxSize => maxSize

/-- The usual description in numbers, with a place and a largest size of its own. -/
theorem standard_spells {place size : Value} {d n : Int} (located : place.IsWhole d)
    (limited : size.IsWhole n) :
    { standard with locationId := place, maxSize := size }.Spells (numbers 1 1 1 d n) := by
  intro f
  cases f with
  | locationId => exact located
  | maxSize => exact limited
  | _ => exact ⟨⟨rfl, 1, rfl⟩, rfl⟩

end PoolProps

open PoolProps in
/-- **Descriptions of pools.**  A chain of changes with whole numbers is refused, with a
`ValueError`, exactly if one of its largest sizes is negative.  Otherwise it gives each setting the
last value that the chain has for it, and changes of different settings can be made in either order.
Every description by whole numbers has its native structure, and two have the same bytes exactly if
their numbers agree modulo the width of each. -/
theorem pool_descriptions {p : PoolProps} {n : Setting → Int} {changes : List Change}
    (described : p.Spells n) (whole : ∀ f, ∀ v ∈ values changes f, ∃ k, v.IsWhole k) :
    ((∃ f, p.applyAll changes = .error f) ↔ ∃ v, .maxSize v ∈ changes ∧ Negative v) ∧
      (∀ f, p.applyAll changes = .error f → f.kind = "ValueError") ∧
      (∀ q, p.applyAll changes = .ok q →
        (∀ f, q.get f = (values changes f).getLastD (p.get f)) ∧ ∃ m, q.Spells m) ∧
      (∀ before c d after, Change.Apart c d →
        p.applyAll (before ++ c :: d :: after) = p.applyAll (before ++ d :: c :: after)) ∧
      (∃ i, p.image = .ok i ∧ i.Encodes n) ∧
      ∀ (q : PoolProps) (m : Setting → Int), q.Spells m →
        (PoolImage.bytes <$> p.image = PoolImage.bytes <$> q.image ↔
          ∀ f, n f % f.span = m f % f.span) := by
  have ends := applyAll_eq p changes
  refine ⟨?_, ?_, ?_, fun before c d after apart => applyAll_swap apart p before after,
    ⟨_, described.image, PoolImage.encodes n⟩, ?_⟩
  · constructor
    · rintro ⟨f, refused⟩
      rcases forM_checkLimit (whole .maxSize) with ⟨passed, -⟩ | ⟨v, there, negative, -⟩
      · rw [ends, passed] at refused
        cases refused
      · exact ⟨v, mem_values_maxSize.1 there, negative⟩
    · rintro ⟨v, there, negative⟩
      rcases forM_checkLimit (whole .maxSize) with ⟨-, none⟩ | ⟨u, -, -, refused⟩
      · exact absurd negative (none v (mem_values_maxSize.2 there))
      · rw [ends, refused]
        exact ⟨_, rfl⟩
  · intro f refused
    rcases forM_checkLimit (whole .maxSize) with ⟨passed, -⟩ | ⟨v, -, -, failed⟩
    · rw [ends, passed] at refused
      cases refused
    · rw [ends, failed] at refused
      cases refused
      rfl
  · intro q done
    obtain ⟨_, -, same⟩ := bind_ok (ends.symm.trans done)
    cases same
    exact ⟨get_ofSettings _, described.overwritten whole⟩
  · intro q m other
    rw [described.image, other.image, ← PoolImage.bytes_eq_iff]
    exact ⟨Except.ok.inj, congrArg Except.ok⟩

open PoolProps in
/-- The usual description moved to a device whose number does not fit its field: the bytes are those
of the first device. -/
theorem pool_descriptions_moved :
    let changes := [Change.location (.int 1) (.int 4294967296), .maxSize (.truth false)]
    ∃ q, standard.applyAll changes = .ok q ∧ q.get .locationId = .int 4294967296 ∧
      q.get .maxSize = .truth false ∧
      PoolImage.bytes <$> standard.image = PoolImage.bytes <$> q.image := by
  intro changes
  have whole : ∀ f, ∀ v ∈ values changes f, ∃ k, v.IsWhole k := by
    intro f v there
    cases f with
    | allocationType | handleTypes => cases there
    | locationType | locationId =>
      cases List.mem_singleton.1 there
      exact ⟨_, Value.isWhole_int _⟩
    | maxSize =>
      cases List.mem_singleton.1 there
      exact ⟨0, trivial, rfl⟩
  have usual : standard.Spells (numbers 1 1 1 0 0) :=
    standard_spells (Value.isWhole_int 0) (Value.isWhole_int 0)
  obtain ⟨-, -, settings, -, -, alike⟩ := pool_descriptions usual whole
  obtain ⟨q, done⟩ : ∃ q, standard.applyAll changes = .ok q := ⟨_, rfl⟩
  obtain ⟨last, -⟩ := settings q done
  have spelled : q.Spells (numbers 1 1 1 4294967296 0) := by
    intro f
    rw [last f]
    cases f with
    | allocationType => exact usual .allocationType
    | handleTypes => exact usual .handleTypes
    | locationType | locationId => exact Value.isWhole_int _
    | maxSize => exact ⟨trivial, rfl⟩
  refine ⟨q, done, last .locationId, last .maxSize, (alike q _ spelled).2 fun f => ?_⟩
  cases f <;> rfl

end GpuHandles
