import GpuHandles.Proofs.Passage
/-!
Named numbers as the numbers that they are.

A member of a numeric enumeration goes wherever a whole number goes, and loses its name when it
passes a declared parameter type.  `Value.bare` takes the name away at once, `NativeCall.bare`
from the arguments of a call, and `Machine.bare` from what a machine remembers.  Nothing that a
machine looks at tells a member from its number, so the machine without names answers the call
without names alike, and ends as the machine does, without names (`call_bare`).
-/

namespace GpuHandles

/-! ## Values -/

namespace Value

/-- A member of a numeric enumeration as its number; other values stay. -/
def bare (v : Value) : Value :=
  match v with
  | member e ⟨_, .number n⟩ => if e.isNumeric then int n else v
  | v => v

/-- A value is what it is without a name, or a member that stands for a number. -/
theorem bare_cases (v : Value) : v.bare = v ∨
    ∃ e s n, e.isNumeric = true ∧ v = member e ⟨s, .number n⟩ ∧ v.bare = int n := by
  cases v with
  | member e m =>
    obtain ⟨s, n | word⟩ := m
    · by_cases numeric : e.isNumeric = true
      · exact .inr ⟨e, s, n, numeric, rfl, if_pos numeric⟩
      · exact .inl (if_neg numeric)
    · exact .inl rfl
  | _ => exact .inl rfl

section Member

variable {e : Enumeration} {s : Option String} {n : Int} (numeric : e.isNumeric = true)

include numeric

theorem number?_member : (member e ⟨s, .number n⟩).number? = some (.int n) := if_pos numeric

theorem integer?_member : (member e ⟨s, .number n⟩).integer? = some n := if_pos numeric

theorem index?_member : (member e ⟨s, .number n⟩).index? = some n := if_pos numeric

theorem quantity?_member : (member e ⟨s, .number n⟩).quantity? = some (.plain (.int n)) := by
  show (member e ⟨s, .number n⟩).number?.map Quantity.plain = _
  rw [number?_member numeric]
  rfl

end Member

theorem index?_bare (v : Value) : v.bare.index? = v.index? := by
  obtain same | ⟨e, s, n, numeric, rfl, bare⟩ := v.bare_cases
  · rw [same]
  · rw [bare, index?_member numeric]
    rfl

theorem toIndex_bare (v : Value) : v.bare.toIndex = v.toIndex := by
  obtain same | ⟨e, s, n, numeric, rfl, bare⟩ := v.bare_cases
  · rw [same]
  · rw [bare]
    unfold toIndex
    rw [index?_member numeric]
    rfl

theorem qualifiedType_bare {v : Value} (unknown : v.index? = none) :
    v.bare.qualifiedType = v.qualifiedType := by
  obtain same | ⟨e, s, n, numeric, rfl, bare⟩ := v.bare_cases
  · rw [same]
  · rw [index?_member numeric] at unknown
    cases unknown

theorem unhashable?_bare (v : Value) : v.bare.unhashable? = v.unhashable? := by
  obtain same | ⟨e, s, n, numeric, rfl, bare⟩ := v.bare_cases
  · rw [same]
  · rw [bare]
    rfl

theorem spoken_bare (name : Nat → String) (v : Value) :
    v.bare.spoken name = v.spoken name := by
  obtain same | ⟨e, s, n, numeric, rfl, bare⟩ := v.bare_cases
  · rw [same]
  · rw [bare]
    show (int n).shown name = if e.isNumeric then toString n else _
    rw [if_pos numeric]
    rfl

/-! ### Order and equality -/

end Value

theorem Binary.order_exact (m n : Int) : (exact m).order (exact n) = some (compare m n) := by
  have signed (k : Int) : signedMantissa (decide (k < 0)) k.natAbs = k := by
    unfold signedMantissa
    by_cases negative : k < 0
    · rw [if_pos (decide_eq_true negative)]
      omega
    · rw [if_neg (by simpa using negative)]
      omega
  show some (compareScaled _ 0 _ 0) = _
  rw [signed, signed]
  simp [compareScaled]

theorem Number.order_int (m n : Int) : (int m).order (int n) = some (compare m n) := by
  have first : (int m).exact.order (int n).exact = some (compare m n) := Binary.order_exact m n
  have second : (int m).second.order (int n).second = some .eq := Binary.order_exact 0 0
  unfold order
  rw [first]
  cases compare m n with
  | eq => exact second
  | _ => rfl

theorem Number.equal_int (m n : Int) : (int m).equal (int n) = (m == n) := by
  unfold equal
  rw [order_int, Bool.eq_iff_iff]
  simp

theorem Quantity.equal_int (m n : Int) : (plain (.int m)).equal (plain (.int n)) = (m == n) :=
  Number.equal_int m n

namespace Value

section Member

variable {e : Enumeration} {s : Option String} {n : Int} (numeric : e.isNumeric = true)

include numeric

theorem equal_member (b : Value) : (member e ⟨s, .number n⟩).equal b = (int n).equal b := by
  have known := quantity?_member (s := s) (n := n) numeric
  have named : e ≠ .statusKind := by
    rintro rfl
    cases numeric
  cases b with
  | int k =>
    simp only [equal, known]
    exact Quantity.equal_int n k
  | member e' m =>
    cases e with
    | statusKind => exact absurd rfl named
    | _ =>
      simp only [equal, known]
      rfl
  | _ =>
    simp only [equal, known]
    rfl

theorem equal_of_member (a : Value) : a.equal (member e ⟨s, .number n⟩) = a.equal (int n) := by
  have known := quantity?_member (s := s) (n := n) numeric
  have named : e ≠ .statusKind := by
    rintro rfl
    cases numeric
  cases a with
  | int k =>
    simp only [equal, known]
    exact Quantity.equal_int k n
  | member e' m =>
    cases e with
    | statusKind => exact absurd rfl named
    | _ =>
      simp only [equal, known]
      rfl
  | _ =>
    simp only [equal, known]
    rfl

theorem sameKey_member (b : Value) : (member e ⟨s, .number n⟩).sameKey b = (int n).sameKey b := by
  have known := number?_member (s := s) (n := n) numeric
  cases b <;> simp only [sameKey, equal_member numeric, known] <;> rfl

theorem sameKey_of_member (a : Value) :
    a.sameKey (member e ⟨s, .number n⟩) = a.sameKey (int n) := by
  have known := number?_member (s := s) (n := n) numeric
  cases a <;> simp only [sameKey, equal_of_member numeric, known] <;> rfl

theorem compare_member (r : Relation) (k : Int) :
    (member e ⟨s, .number n⟩).compare r (int k) = (int n).compare r (int k) := by
  have known := quantity?_member (s := s) (n := n) numeric
  show compareItem r (member e ⟨s, .number n⟩) (int k) = .ok (r.holds (some (Ord.compare n k)))
  simp only [compareItem, known]
  exact congrArg (Except.ok <| r.holds ·) (Number.order_int n k)

theorem compare_of_member (r : Relation) (k : Int) :
    (int k).compare r (member e ⟨s, .number n⟩) = (int k).compare r (int n) := by
  have known := quantity?_member (s := s) (n := n) numeric
  show compareItem r (int k) (member e ⟨s, .number n⟩) = .ok (r.holds (some (Ord.compare k n)))
  simp only [compareItem, known]
  exact congrArg (Except.ok <| r.holds ·) (Number.order_int k n)

theorem sameAs_member (b : Value) :
    (member e ⟨s, .number n⟩).sameAs b = (int n).sameAs b := by
  have meets : (member e ⟨s, .number n⟩).meetsElements = true := by
    unfold meetsElements
    rw [quantity?_member numeric]
    rfl
  cases b with
  | array y =>
    simp only [sameAs, meets, equal_member numeric]
    rfl
  | _ =>
    simp only [sameAs, equal_member numeric]

theorem sameAs_of_member (a : Value) :
    a.sameAs (member e ⟨s, .number n⟩) = a.sameAs (int n) := by
  have meets : (member e ⟨s, .number n⟩).meetsElements = true := by
    unfold meetsElements
    rw [quantity?_member numeric]
    rfl
  cases a with
  | array x =>
    simp only [sameAs, meets]
    show (onlyItem x >>= fun y => pure (y.equal (member e ⟨s, .number n⟩))) = _
    simp only [equal_of_member numeric]
    rfl
  | _ =>
    simp only [sameAs, equal_of_member numeric]

end Member

theorem sameKey_bare (a b : Value) : a.bare.sameKey b.bare = a.sameKey b := by
  have right : a.sameKey b.bare = a.sameKey b := by
    obtain same | ⟨e, s, n, numeric, rfl, bare⟩ := b.bare_cases
    · rw [same]
    · rw [bare, sameKey_of_member numeric]
  obtain same | ⟨e, s, n, numeric, rfl, bare⟩ := a.bare_cases
  · rw [same, right]
  · rw [bare, ← sameKey_member numeric, right]

theorem sameAs_bare (a b : Value) : a.bare.sameAs b.bare = a.sameAs b := by
  have right : a.sameAs b.bare = a.sameAs b := by
    obtain same | ⟨e, s, n, numeric, rfl, bare⟩ := b.bare_cases
    · rw [same]
    · rw [bare, sameAs_of_member numeric]
  obtain same | ⟨e, s, n, numeric, rfl, bare⟩ := a.bare_cases
  · rw [same, right]
  · rw [bare, ← sameAs_member numeric, right]

theorem compare_bare (v : Value) (r : Relation) (k : Int) :
    v.bare.compare r (int k) = v.compare r (int k) := by
  obtain same | ⟨e, s, n, numeric, rfl, bare⟩ := v.bare_cases
  · rw [same]
  · rw [bare, compare_member numeric]

theorem compare_of_bare (v : Value) (r : Relation) (k : Int) :
    (int k).compare r v.bare = (int k).compare r v := by
  obtain same | ⟨e, s, n, numeric, rfl, bare⟩ := v.bare_cases
  · rw [same]
  · rw [bare, compare_of_member numeric]

end Value

/-! ## Calls -/

namespace NativeCall

/-- A call whose numbers have lost their names. -/
def bare : NativeCall → NativeCall
  | setDevice device => setDevice device.bare
  | deviceName length device => deviceName length device.bare
  | totalMemory device => totalMemory device.bare
  | computeCapability device => computeCapability device.bare
  | deviceUuid device => deviceUuid device.bare
  | busId length device => busId length device.bare
  | deviceAttribute code device => deviceAttribute code device.bare
  | peerAttribute code source target => peerAttribute code source.bare target.bare
  | defaultPool device => defaultPool device.bare
  | copy target source size kind => copy target source size.bare kind
  | fill target value size => fill target value.bare size.bare
  | poolTrim pool keep => poolTrim pool keep.bare
  | c => c

theorem entryPoint_bare (c : NativeCall) : c.bare.entryPoint = c.entryPoint := by
  cases c <;> rfl

theorem recorded_bare (v : Value) : recorded v.bare = recorded v := by
  obtain same | ⟨e, s, n, numeric, rfl, bare⟩ := v.bare_cases
  · rw [same]
  · rw [bare]
    show recorded (.int n) = ((Value.member e ⟨s, .number n⟩).integer?.map whole).toList
    rw [Value.integer?_member numeric]
    rfl

/-- Names are not recorded. -/
theorem arguments_bare (c : NativeCall) : c.bare.arguments = c.arguments := by
  cases c <;> simp only [bare, arguments, recorded_bare]

end NativeCall

/-! ## Tables -/

namespace Table

variable {κ α β : Type} [DecidableEq κ]

/-- A table with other entries for the same keys. -/
def mapEntries (f : α → β) (t : Table κ α) : Table κ β := t.map fun e => (e.1, f e.2)

theorem get?_mapEntries (f : α → β) (t : Table κ α) (k : κ) :
    (t.mapEntries f).get? k = (t.get? k).map f := by
  induction t with
  | nil => rfl
  | cons e t ih =>
    show get? ((e.1, f e.2) :: mapEntries f t) k = _
    rw [get?_cons, get?_cons, ih]
    by_cases h : e.1 = k <;> simp [h]

theorem has_mapEntries (f : α → β) (t : Table κ α) (k : κ) :
    (t.mapEntries f).has k = t.has k := by
  rw [has_eq_isSome_get?, has_eq_isSome_get?, get?_mapEntries, Option.isSome_map]

theorem erase_mapEntries (f : α → β) (t : Table κ α) (k : κ) :
    (t.mapEntries f).erase k = (t.erase k).mapEntries f := by
  unfold mapEntries erase
  rw [List.filter_map]
  rfl

theorem set_mapEntries (f : α → β) (t : Table κ α) (k : κ) (a : α) :
    (t.mapEntries f).set k (f a) = (t.set k a).mapEntries f := by
  unfold mapEntries set
  rw [List.map_map, List.map_map]
  refine List.map_congr_left fun e _ => ?_
  by_cases h : e.1 = k <;> simp [h]

end Table

/-! ## Machines -/

/-- A pool whose last trim is remembered without a name. -/
def PoolRecord.bare (r : PoolRecord) : PoolRecord :=
  { r with trimmedTo := r.trimmedTo.map Value.bare }

namespace Machine

/-- A machine that remembers numbers without their names. -/
def bare (m : Machine) : Machine :=
  { m with
    currentDevice := m.currentDevice.bare
    pools := m.pools.mapEntries PoolRecord.bare
    defaultPools := m.defaultPools.map fun e => (e.1.bare, e.2) }

/-- An answer of a machine without names. -/
def bareAnswer (p : Reply × Machine) : Reply × Machine := (p.1, p.2.bare)

variable {m : Machine}

theorem after_bare {α : Type} {result : Except Fault α} {reply reply' : α → Reply × Machine}
    (same : ∀ a, reply' a = bareAnswer (reply a)) :
    m.bare.after result reply' = bareAnswer (m.after result reply) := by
  cases result with
  | ok a => exact same a
  | error f => rfl

theorem ite_bare {p : Prop} [Decidable p] {a b a' b' : Reply × Machine} (yes : a' = bareAnswer a)
    (no : b' = bareAnswer b) : (if p then a' else b') = bareAnswer (if p then a else b) := by
  rw [yes, no]
  split <;> rfl

theorem hasDevice_bare (m : Machine) (device : Value) :
    m.bare.hasDevice device.bare = m.hasDevice device := by
  unfold hasDevice
  rw [Value.compare_of_bare, Value.compare_bare]
  rfl

theorem onDevice_bare {device : Value} {reply reply' : Unit → Reply × Machine}
    (same : reply' () = bareAnswer (reply ())) :
    m.bare.onDevice device.bare reply' = bareAnswer (m.onDevice device reply) := by
  unfold onDevice
  rw [hasDevice_bare]
  refine after_bare fun known => ?_
  cases known with
  | true => exact same
  | false => rfl

theorem nameBuffer_bare (m : Machine) (length : Int) (device : Value) :
    m.bare.nameBuffer length device.bare = m.nameBuffer length device := by
  unfold nameBuffer
  rw [Value.spoken_bare]
  rfl

theorem byteOf_bare (v : Value) : byteOf v.bare = byteOf v := by
  unfold byteOf
  rw [Value.toIndex_bare]

theorem busNumber_bare (v : Value) : busNumber v.bare = busNumber v := by
  obtain same | ⟨e, s, n, numeric, rfl, bare⟩ := v.bare_cases
  · rw [same]
  · rw [bare]
    simp only [busNumber, Value.integer?_member numeric]
    rfl

theorem endOf_bare (v : Value) : endOf v.bare = endOf v := by
  unfold endOf
  rw [Value.index?_bare]

theorem timesOf_bare (v : Value) : timesOf v.bare = timesOf v := by
  unfold timesOf
  rw [Value.index?_bare]
  cases index : v.index? with
  | none => rw [Value.qualifiedType_bare index]
  | some n => rfl

theorem holdsBytes_bare (length : Nat) (size : Value) :
    holdsBytes length size.bare = holdsBytes length size := by
  unfold holdsBytes
  rw [Value.compare_bare, Value.compare_bare]

/-- An answer for an allocation that holds some bytes. -/
theorem fits_bare {length : Nat} {size : Value} {reply reply' : Reply × Machine}
    (same : reply' = bareAnswer reply) :
    (m.bare.after (holdsBytes length size.bare) fun fits =>
      if fits then reply' else m.bare.refuse .invalidValue) =
    bareAnswer (m.after (holdsBytes length size) fun fits =>
      if fits then reply else m.refuse .invalidValue) := by
  rw [holdsBytes_bare]
  refine after_bare fun fits => ?_
  cases fits with
  | true => exact same
  | false => rfl

theorem copyIn_bare (m : Machine) (target : Address) (bs : List UInt8) (size : Value) :
    m.bare.copyIn target bs size.bare = bareAnswer (m.copyIn target bs size) := by
  have live : at? m.bare.allocations target = at? m.allocations target := rfl
  unfold copyIn
  rw [live, endOf_bare]
  cases target with
  | none => rfl
  | some k =>
    cases at? m.allocations (some k) with
    | none => rfl
    | some buffer => exact fits_bare (after_bare fun n => rfl)

theorem copyOut_bare (m : Machine) (source : Address) (size : Value) :
    m.bare.copyOut source size.bare = bareAnswer (m.copyOut source size) := by
  have live : at? m.bare.allocations source = at? m.allocations source := rfl
  unfold copyOut
  rw [live, endOf_bare]
  cases at? m.allocations source with
  | none => rfl
  | some buffer => exact fits_bare (after_bare fun n => rfl)

theorem copyAcross_bare (m : Machine) (target source : Address) (size : Value) :
    m.bare.copyAcross target source size.bare = bareAnswer (m.copyAcross target source size) := by
  have live (a : Address) : at? m.bare.allocations a = at? m.allocations a := rfl
  unfold copyAcross
  rw [live, live, endOf_bare]
  cases target with
  | none => rfl
  | some k =>
    cases at? m.allocations (some k) with
    | none => rfl
    | some old =>
      cases at? m.allocations source with
      | none => rfl
      | some new => exact fits_bare (fits_bare (after_bare fun n => rfl))

theorem copy_bare (m : Machine) (target source : Place) (size : Value) (kind : Int) :
    m.bare.copy target source size.bare kind = bareAnswer (m.copy target source size kind) := by
  unfold copy
  rw [Value.compare_bare]
  refine after_bare fun negative => ?_
  cases negative with
  | true => rfl
  | false =>
    rw [if_neg Bool.false_ne_true, if_neg Bool.false_ne_true]
    split
    · split
      · exact copyIn_bare m _ _ size
      · rfl
    · split
      · split
        · exact copyOut_bare m _ size
        · rfl
      · split
        · split
          · exact copyAcross_bare m _ _ size
          · rfl
        · rfl

theorem fill_bare (m : Machine) (target : Address) (value size : Value) :
    m.bare.fill target value.bare size.bare = bareAnswer (m.fill target value size) := by
  have live : at? m.bare.allocations target = at? m.allocations target := rfl
  unfold fill
  rw [live, byteOf_bare, timesOf_bare]
  cases target with
  | none => rfl
  | some k =>
    cases at? m.allocations (some k) with
    | none => rfl
    | some buffer => exact fits_bare (after_bare fun b => after_bare fun n => rfl)

theorem defaultPoolOf?_bare (m : Machine) (device : Value) :
    m.bare.defaultPoolOf? device.bare = m.defaultPoolOf? device := by
  unfold defaultPoolOf?
  show ((m.defaultPools.map fun e => (e.1.bare, e.2)).find? fun e =>
    e.1.sameKey device.bare).map Prod.snd = _
  rw [List.find?_map, Option.map_map]
  simp only [Function.comp_def, Value.sameKey_bare]

theorem defaultPool_bare (m : Machine) (device : Value) :
    m.bare.defaultPool device.bare = bareAnswer (m.defaultPool device) := by
  refine onDevice_bare ?_
  dsimp only
  rw [Value.unhashable?_bare, defaultPoolOf?_bare]
  split
  · rfl
  · split
    · rfl
    · simp [bareAnswer, bare, answer, taken, nextHandle]

theorem placeZeros_bare (m : Machine) (n : Int) :
    m.bare.placeZeros n = bareAnswer (m.placeZeros n) := by
  unfold placeZeros
  cases bufferFault? n <;> rfl

theorem reserve_bare (m : Machine) (n : Int) : m.bare.reserve n = bareAnswer (m.reserve n) := by
  unfold reserve
  show (if n = 0 then _ else if m.freeMemory < n then _ else _) = _
  split
  · rfl
  · split
    · rfl
    · exact placeZeros_bare m n

theorem isPool_bare (m : Machine) (a : Address) : m.bare.isPool a = m.isPool a := by
  have own : holds m.bare.pools a = holds m.pools a := by
    cases a with
    | none => rfl
    | some h =>
      show (Table.get? (Table.mapEntries PoolRecord.bare m.pools) h).isSome = _
      rw [Table.get?_mapEntries, Option.isSome_map]
      rfl
  unfold isPool
  rw [own]
  simp only [bare, List.any_map, Function.comp_def]

/-- A memory request of a stream that has to be known. -/
theorem streamed_bare (m : Machine) (n : Int) (stream : Value) :
    (m.bare.after (m.isStream stream) fun known =>
      if known then m.bare.reserve n else m.bare.refuse .invalidHandle) =
    bareAnswer (m.after (m.isStream stream) fun known =>
      if known then m.reserve n else m.refuse .invalidHandle) := by
  refine after_bare fun known => ?_
  cases known with
  | true => exact reserve_bare m n
  | false => rfl

theorem poolTrim_bare (m : Machine) (pool : Address) (keep : Value) :
    m.bare.perform (.poolTrim pool keep.bare) = bareAnswer (m.perform (.poolTrim pool keep)) := by
  have live : at? m.bare.pools pool = (at? m.pools pool).map PoolRecord.bare := by
    cases pool with
    | none => rfl
    | some h => exact Table.get?_mapEntries _ _ _
  dsimp only [perform]
  rw [live]
  cases pool with
  | none => rfl
  | some h =>
    cases at? m.pools (some h) with
    | none => rfl
    | some record =>
      have set := Table.set_mapEntries PoolRecord.bare m.pools h
        { record with trimmedTo := some keep }
      exact congrArg (fun t => (Reply.code 0 .nothing, { m.bare with pools := t })) set

theorem uuidReply_bare (m : Machine) (device : Value) :
    m.bare.uuidReply device.bare = bareAnswer (m.uuidReply device) := by
  have set_up : m.bare.reports.uuid = m.reports.uuid := rfl
  unfold uuidReply
  rw [byteOf_bare, set_up]
  cases m.reports.uuid with
  | some bs => rfl
  | none => exact after_bare fun b => rfl

theorem busIdReply_bare (m : Machine) (length : Int) (device : Value) :
    m.bare.busIdReply length device.bare = bareAnswer (m.busIdReply length device) := by
  unfold busIdReply busIdText
  rw [busNumber_bare]
  exact after_bare fun text => rfl

theorem poolDestroy_bare (m : Machine) (pool : Address) :
    m.bare.perform (.poolDestroy pool) = bareAnswer (m.perform (.poolDestroy pool)) := by
  cases pool with
  | none => rfl
  | some h =>
    have there : m.bare.pools.has h = m.pools.has h := Table.has_mapEntries _ _ _
    dsimp only [perform]
    rw [there]
    split
    · exact congrArg (fun t => (Reply.code 0 .nothing, { m.bare with pools := t }))
        (Table.erase_mapEntries PoolRecord.bare m.pools h)
    · rfl

theorem poolCreate_bare (m : Machine) (props : PoolImage) :
    m.bare.poolCreate props = bareAnswer (m.poolCreate props) := by
  have visible : m.bare.deviceCount = m.deviceCount := rfl
  unfold poolCreate
  rw [visible]
  split
  · simp [bareAnswer, bare, answer, nextHandle, Table.mapEntries, PoolRecord.bare]
  · rfl

/-- **A call that no set-up code stands in for** does not depend on names. -/
theorem perform_bare (m : Machine) (c : NativeCall) :
    m.bare.perform c.bare = bareAnswer (m.perform c) := by
  cases c with
  | currentDevice =>
    show m.bare.after m.currentDevice.bare.toIndex _ = _
    rw [Value.toIndex_bare]
    exact after_bare fun n => rfl
  | setDevice | totalMemory | computeCapability | deviceAttribute =>
    dsimp only [NativeCall.bare, perform]
    refine onDevice_bare ?_
    rfl
  | deviceName length device =>
    dsimp only [NativeCall.bare, perform]
    refine onDevice_bare ?_
    rw [nameBuffer_bare]
    rfl
  | deviceUuid device =>
    dsimp only [NativeCall.bare, perform]
    exact onDevice_bare (uuidReply_bare m device)
  | busId length device =>
    dsimp only [NativeCall.bare, perform]
    exact onDevice_bare (busIdReply_bare m length device)
  | deviceByBusId text =>
    dsimp only [NativeCall.bare, perform]
    split
    · exact ite_bare rfl rfl
    · rfl
  | peerAttribute code source target =>
    dsimp only [NativeCall.bare, perform]
    refine onDevice_bare (onDevice_bare ?_)
    rw [Value.sameAs_bare]
    refine after_bare fun same => ?_
    cases same <;> rfl
  | defaultPool device => exact defaultPool_bare m device
  | allocate n => exact reserve_bare m n
  | allocateFlagged n flags =>
    dsimp only [NativeCall.bare, perform]
    exact ite_bare (reserve_bare m n) rfl
  | allocateOrdered n stream => exact streamed_bare m n stream
  | allocateFromPool n pool stream =>
    dsimp only [NativeCall.bare, perform]
    rw [isPool_bare]
    exact ite_bare (streamed_bare m n stream) rfl
  | free a =>
    cases a with
    | none => rfl
    | some h =>
      dsimp only [NativeCall.bare, perform]
      exact ite_bare rfl rfl
  | copy target source size kind => exact copy_bare m target source size kind
  | fill target value size => exact fill_bare m target value size
  | memoryInfo =>
    have set_up : m.bare.reports.memoryInfo = m.reports.memoryInfo := rfl
    dsimp only [NativeCall.bare, perform]
    rw [set_up]
    cases m.reports.memoryInfo <;> rfl
  | streamDestroy stream | streamSynchronize stream =>
    cases stream with
    | none => rfl
    | some h =>
      dsimp only [NativeCall.bare, perform]
      exact ite_bare rfl rfl
  | streamQuery stream =>
    have live : at? m.bare.streams stream = at? m.streams stream := rfl
    dsimp only [NativeCall.bare, perform]
    rw [live]
    cases at? m.streams stream <;> rfl
  | poolCreate props => exact poolCreate_bare m props
  | poolDestroy pool => exact poolDestroy_bare m pool
  | poolTrim pool keep => exact poolTrim_bare m pool keep
  | _ => rfl

/-- **A call does not depend on names**, neither in its arguments nor in what the machine
remembers. -/
theorem call_bare (m : Machine) (c : NativeCall) :
    m.bare.call c.bare = ((m.call c).1, (m.call c).2.bare) := by
  unfold call takePending
  rw [NativeCall.entryPoint_bare]
  dsimp only
  show (if (m.pending.get? c.entryPoint).getD 0 = 0 then _ else _) = bareAnswer (if _ then _ else _)
  split
  · exact perform_bare { m with pending := m.pending.erase c.entryPoint } c
  · rfl

end Machine
end GpuHandles
