import GpuHandles.Proofs.Session
/-!
Handles are not shared.

New handles come from a counter that only grows, so no handle is given out twice.  `Apart` is
the invariant behind it: the handle of an owning resource belongs to no other resource, and it
is not the handle of a default pool.  It holds at the start of a session, and every turn keeps
it (`Apart.effect`, `Turn.orderly`, `World.orderly_after`).  Together with `Turn.calls_cases`,
that a call only gets handles of active resources, it is why no call gets a handle whose
resource was released.
-/

namespace GpuHandles

/-- A handle that comes next is none of those that the counter has reached. -/
theorem Tables.next_notMem {t : Tables} {ks : List Nat} (counted : ∀ k ∈ ks, k ≤ t.lastHandle) :
    t.next ∉ ks := by
  intro old
  have := counted _ old
  simp only [Tables.next] at this
  omega

/-- No allocation has a handle that the counter has not reached. -/
def Tables.Counted (t : Tables) : Prop := ∀ k ∈ t.bytes.keys, k ≤ t.lastHandle

/-- The next handle has no bytes yet. -/
theorem Tables.Counted.get?_next {t : Tables} (h : t.Counted) : t.bytes.get? t.next = none :=
  Table.get?_of_notMem (Tables.next_notMem h)

/-- The handles of owning resources are apart from all other handles. -/
structure Apart (rs : List Resource) (t : Tables) : Prop where
  native : Native rs
  bounded : ∀ r ∈ rs, ∀ h, r.payload.address = some h → h ≤ t.lastHandle
  lent : ∀ e ∈ t.lent, e.2 ≤ t.lastHandle
  /-- no other resource has the handle of an owning one -/
  sole : ∀ (i j : Nat) (r s : Resource) (h : Nat), rs[i]? = some r → rs[j]? = some s →
    r.owned = .truth true → r.payload.address = some h → s.payload.address = some h → i = j
  /-- nor has a default pool -/
  kept : ∀ r ∈ rs, r.owned = .truth true → ∀ h, r.payload.address = some h →
    ∀ e ∈ t.lent, e.2 ≠ h

namespace Machine.Change

variable {m m' : Machine} {c : NativeCall} {reply : Reply}

/-- The counter of handles does not go back, and new default pools take new handles. -/
theorem counter (h : Change m c reply m') : m.tables.lastHandle ≤ m'.tables.lastHandle ∧
    ∀ e ∈ m'.tables.lent, e ∈ m.tables.lent ∨
      m.tables.lastHandle < e.2 ∧ e.2 ≤ m'.tables.lastHandle := by
  cases h with
  | kept same =>
    rw [same]
    exact ⟨Nat.le_refl _, fun e he => .inl he⟩
  | overwrote _ _ same =>
    rw [same]
    exact ⟨Nat.le_refl _, fun e he => .inl he⟩
  | issued entry _ same =>
    rw [same, Tables.lastHandle_issue _ _ (EntryPoint.makes_real entry), Tables.lent_issue]
    exact ⟨Nat.le_add_right _ _, fun e he => .inl he⟩
  | taken _ same =>
    rw [same]
    exact ⟨Nat.le_add_right _ _, fun e he => .inl he⟩
  | lent _ same grown =>
    rw [same]
    refine ⟨Nat.le_add_right _ _, ?_⟩
    intro e he
    rcases grown e he with old | new
    · exact .inl old
    · right
      show m.tables.lastHandle < e.2 ∧ e.2 ≤ m.tables.next
      rw [new]
      exact ⟨Nat.lt_add_of_pos_right (by decide), Nat.le_refl _⟩
  | dropped _ same =>
    rw [same, Tables.lastHandle_drop, Tables.lent_drop]
    exact ⟨Nat.le_refl _, fun e he => .inl he⟩

/-- If the counter has reached every handle of a class, it still has after a call. -/
theorem counted (h : Change m c reply m') (cls : HandleClass)
    (before : ∀ k ∈ m.tables.keys cls, k ≤ m.tables.lastHandle) :
    ∀ k ∈ m'.tables.keys cls, k ≤ m'.tables.lastHandle := by
  cases h with
  | kept same =>
    rw [same]
    exact before
  | overwrote _ _ same =>
    rw [same]
    exact fun k hk => before k (Tables.mem_keys_set.1 hk)
  | issued entry _ same =>
    have real := EntryPoint.makes_real entry
    rw [same, Tables.lastHandle_issue _ _ real]
    intro k hk
    rcases (Tables.mem_keys_issue real).1 hk with old | ⟨_, rfl⟩
    · exact Nat.le_trans (before k old) (Nat.le_add_right _ _)
    · exact Nat.le_refl _
  | taken _ same | lent _ same =>
    rw [same]
    exact fun k hk => Nat.le_trans (before k hk) (Nat.le_add_right _ _)
  | dropped _ same =>
    rw [same, Tables.lastHandle_drop]
    exact fun k hk => before k (Tables.mem_keys_drop.1 hk).1

end Machine.Change

namespace Apart

variable {rs : List Resource} {t t' : Tables}

theorem nil (t : Tables) (lent : t.lent = []) : Apart [] t where
  native := by simp [Native]
  bounded := by simp
  lent := by simp [lent]
  sole := by simp
  kept := by simp

theorem mono (h : Apart rs t) (older : t.lastHandle ≤ t'.lastHandle)
    (grown : ∀ e ∈ t'.lent, e ∈ t.lent ∨ t.lastHandle < e.2 ∧ e.2 ≤ t'.lastHandle) :
    Apart rs t' where
  native := h.native
  bounded r hr a ha := Nat.le_trans (h.bounded r hr a ha) older
  lent e he := by
    rcases grown e he with old | ⟨_, bound⟩
    · exact Nat.le_trans (h.lent e old) older
    · exact bound
  sole := h.sole
  kept r hr owned a ha e he := by
    rcases grown e he with old | ⟨new, _⟩
    · exact h.kept r hr owned a ha e old
    · have := h.bounded r hr a ha
      omega

theorem call {m m' : Machine} {c : NativeCall} {reply : Reply} (h : Apart rs m.tables)
    (change : Machine.Change m c reply m') : Apart rs m'.tables :=
  h.mono change.counter.1 change.counter.2

/-- A release changes no handle. -/
theorem retire {id : Nat} {r : Resource} (h : Apart rs t) (there : rs[id]? = some r) :
    Apart (rs.set id r.retired) t := by
  have before (s : Resource) (hs : s ∈ rs.set id r.retired) :
      ∃ u ∈ rs, s.payload = u.payload ∧ s.owned = u.owned := by
    obtain ⟨k, hk⟩ := List.mem_iff_getElem?.1 hs
    obtain ⟨u, hu, payload, owned, _⟩ := Later.of_set there hk
    exact ⟨u, List.mem_of_getElem? hu, payload, owned⟩
  refine ⟨?_, ?_, h.lent, ?_, ?_⟩
  · intro s hs
    obtain ⟨u, hu, payload, owned⟩ := before s hs
    rw [payload, owned]
    exact h.native u hu
  · intro s hs a ha
    obtain ⟨u, hu, payload, _⟩ := before s hs
    exact h.bounded u hu a (payload ▸ ha)
  · intro i j s u a hi hj owned ha hb
    obtain ⟨s', hs', payload, same, _⟩ := Later.of_set there hi
    obtain ⟨u', hu', payload', _, _⟩ := Later.of_set there hj
    exact h.sole i j s' u' a hs' hu' (same ▸ owned) (payload ▸ ha) (payload' ▸ hb)
  · intro s hs owned a ha
    obtain ⟨u, hu, payload, same⟩ := before s hs
    exact h.kept u hu (same ▸ owned) a (payload ▸ ha)

/-- A resource more, whose handle is new, or that of a default pool. -/
theorem add {r : Resource} {own : Bool} (h : Apart rs t) (real : r.payload.cls ≠ .plain)
    (owned : r.owned = .truth own)
    (bounded : ∀ a, r.payload.address = some a → a ≤ t.lastHandle)
    (fresh : ∀ a, r.payload.address = some a → ∀ s ∈ rs, s.payload.address = some a →
      own = false ∧ s.owned ≠ .truth true)
    (kept : ∀ a, r.payload.address = some a → own = true → ∀ e ∈ t.lent, e.2 ≠ a) :
    Apart (rs ++ [r]) t := by
  refine ⟨?_, ?_, h.lent, ?_, ?_⟩
  · intro s hs
    rcases List.mem_append.1 hs with old | new
    · exact h.native s old
    · rw [List.mem_singleton.1 new]
      exact ⟨real, own, owned⟩
  · intro s hs a ha
    rcases List.mem_append.1 hs with old | new
    · exact h.bounded s old a ha
    · rw [List.mem_singleton.1 new] at ha
      exact bounded a ha
  · intro i j s u a hi hj mine ha hb
    rcases Later.of_append hi with old | ⟨last, rfl⟩
    · rcases Later.of_append hj with old' | ⟨_, rfl⟩
      · exact h.sole i j s u a old old' mine ha hb
      · exact absurd mine (fresh a hb s (List.mem_of_getElem? old) ha).2
    · rcases Later.of_append hj with old' | ⟨last', _⟩
      · obtain ⟨rfl, _⟩ := fresh a ha u (List.mem_of_getElem? old') hb
        rw [owned] at mine
        cases mine
      · rw [last, last']
  · intro s hs mine a ha
    rcases List.mem_append.1 hs with old | new
    · exact h.kept s old mine a ha
    · rw [List.mem_singleton.1 new] at ha mine
      rw [owned] at mine
      cases mine
      exact kept a ha rfl

/-- A resource for what a call has just made. -/
theorem made {m m' : Machine} {c : NativeCall} {reply : Reply} {r : Resource} {own : Bool}
    (h : Apart rs m.tables) (change : Machine.Change m c reply m')
    (kind : c.entryPoint.makes? = some (r.payload.cls, own)) (owned : r.owned = .truth own)
    (address : r.payload.address = reply.stored) : Apart (rs ++ [r]) m'.tables := by
  have later := h.call change
  have real := EntryPoint.makes_real kind
  have null (none : reply.stored = none) : Apart (rs ++ [r]) m'.tables := by
    rw [none] at address
    refine later.add real owned ?_ ?_ ?_ <;>
    · intro a ha
      rw [address] at ha
      cases ha
  cases change with
  | kept _ stored => exact null stored
  | overwrote => exact null rfl
  | taken => exact null rfl
  | dropped => exact null rfl
  | issued entry _ same =>
    have counter : m'.tables.lastHandle = m.tables.next := by
      rw [same, Tables.lastHandle_issue _ _ (EntryPoint.makes_real entry)]
    have next {a : Nat} (ha : r.payload.address = some a) : a = m.tables.next := by
      rw [address] at ha
      cases ha
      rfl
    refine later.add real owned ?_ ?_ ?_
    · intro a ha
      exact Nat.le_of_eq ((next ha).trans counter.symm)
    · intro a ha s hs hb
      have := h.bounded s hs a hb
      rw [next ha] at this
      simp only [Tables.next] at this
      omega
    · intro a ha _ e he
      rw [same, Tables.lent_issue] at he
      have := h.lent e he
      rw [next ha]
      simp only [Tables.next]
      omega
  | lent entry same grown stored =>
    rw [entry] at kind
    obtain ⟨-, rfl⟩ : HandleClass.pool = r.payload.cls ∧ false = own := by
      simpa [EntryPoint.makes?] using kind
    refine later.add real owned ?_ (fun a ha s hs hb => ⟨rfl, ?_⟩) fun a ha own => by cases own
    · intro a ha
      obtain ⟨e, he, rfl⟩ := stored a (address ▸ ha)
      exact later.lent e (by rw [same]; exact he)
    · intro mine
      obtain ⟨e, he, rfl⟩ := stored a (address ▸ ha)
      exact later.kept s hs mine e.2 hb e (by rw [same]; exact he) rfl

/-- The calls of a way that leaves the resources alone keep the handles apart. -/
theorem uses {P : Machine → NativeCall → Prop} {w w' : World}
    (h : Apart w.resources w.machine.tables) (way : Uses P w w') :
    Apart w'.resources w'.machine.tables := by
  induction way with
  | refl => exact h
  | quiet _ way ih => rw [way.resources, way.machine]; exact ih
  | call _ _ way ih =>
    rw [way.resources, way.machine]
    exact ih.call (Machine.call_change _ _)

/-- **What one operation keeps.** -/
theorem effect {l : Library} {op : Operation} {w w' : World} {result : Except Fault Value}
    (h : Apart w.resources w.machine.tables) (effect : Effect l op w result w') :
    Apart w'.resources w'.machine.tables := by
  cases effect with
  | used way => exact h.uses way
  | @made _ c _ _ _ _ _ kind owned _ reply _ address _ _ way =>
    rw [way.resources, way.machine]
    exact h.made (Machine.call_change _ c) kind owned (by rw [reply]; exact address)
  | released _ there _ gone =>
    cases gone with
    | called _ _ _ way =>
      rw [way.resources, way.machine]
      exact (h.call (Machine.call_change _ _)).retire there
    | marked _ way =>
      rw [way.resources, way.machine]
      exact h.retire there

end Apart

/-! ## Turns -/

/-- What holds all through a session: a library is installed, and handles are apart. -/
structure Orderly (w : World) : Prop where
  installed : w.library.isSome
  apart : Apart w.resources w.machine.tables

theorem Script.Setting.tables_apply (m : Machine) (s : Setting) :
    (s.apply m).tables = m.tables := by
  cases s <;> rfl

namespace Turn

variable {w : World}

/-- A turn is an operation with its effect, or it changes no table and no resource. -/
theorem take_cases (t : Turn) (h : Orderly w) :
    (∃ m, t.subject = none ∧ m.tables = w.machine.tables ∧
        Passage w (t.take w) m w.resources []) ∨
      ∃ l op result, w.library = some l ∧ t.subject = op.subject ∧
        Effect l op w result (t.take w) := by
  obtain ⟨l, installed⟩ := Option.isSome_iff_exists.1 h.installed
  cases t with
  | operate op own =>
    exact .inr ⟨l, op, _, installed, rfl, op.perform_effect installed h.apart.native own⟩
  | failNext entry code =>
    exact .inl ⟨w.machine.failNext entry code, rfl, rfl, rfl, rfl, rfl, [],
      (List.append_nil _).symm, rfl⟩
  | adjust setting =>
    exact .inl ⟨setting.apply w.machine, rfl, setting.tables_apply _, rfl, rfl, rfl, [],
      (List.append_nil _).symm, rfl⟩

/-- The calls of a turn, taken from its way. -/
theorem calls_eq {t : Turn} {m : Machine} {rs : List Resource} {cs : List (NativeCall × Int)}
    (way : Passage w (t.take w) m rs cs) : t.calls w = cs := way.calls_drop

/-- The calls of a turn: see `Effect.calls_cases`. -/
theorem calls_cases (t : Turn) (h : Orderly w) :
    (∃ m rs, Passage w (t.take w) m rs (t.calls w)) ∧
      (∀ e ∈ t.calls w, ∀ a ∈ e.1.handles, Live w.resources a) ∧
      ((∀ e ∈ t.calls w, t.subject = none ∧ e.1.entryPoint.releases = false) ∨
        ∃ id r c code, t.subject = some id ∧ w.resources[id]? = some r ∧ r.released = false ∧
          r.owned = .truth true ∧ r.payload.releaseCall? = some c ∧ t.calls w = [(c, code)]) := by
  obtain ⟨m, _, _, way⟩ | ⟨l, op, result, _, subject, effect⟩ := t.take_cases h
  · rw [calls_eq way]
    exact ⟨⟨_, _, way⟩, by simp, .inl (by simp)⟩
  · obtain ⟨cs, way, live, release⟩ := effect.calls_cases
    rw [calls_eq way, subject]
    exact ⟨⟨_, _, way⟩, live, release⟩

theorem orderly (t : Turn) (h : Orderly w) : Orderly (t.take w) := by
  obtain ⟨_, _, way⟩ := (t.calls_cases h).1
  refine ⟨way.isSome h.installed, ?_⟩
  obtain ⟨m, _, same, way⟩ | ⟨l, op, result, _, _, effect⟩ := t.take_cases h
  · rw [way.machine, way.resources, same]
    exact h.apart
  · exact h.apart.effect effect

theorem later (t : Turn) (h : Orderly w) : Later w.resources (t.take w).resources := by
  obtain ⟨m, _, _, way⟩ | ⟨l, op, result, _, _, effect⟩ := t.take_cases h
  · rw [way.resources]
    exact .refl _
  · exact effect.later

/-- What every call keeps of the tables, a turn keeps. -/
theorem keeps {P : Tables → Prop} (t : Turn) (h : Orderly w)
    (call : ∀ (m : Machine) c, P m.tables → P (m.call c).2.tables) (start : P w.machine.tables) :
    P (t.take w).machine.tables := by
  obtain ⟨m, _, same, way⟩ | ⟨l, op, result, _, _, effect⟩ := t.take_cases h
  · rw [way.machine, same]
    exact start
  · exact effect.keeps (P := fun m => P m.tables) call start

theorem missing (t : Turn) (h : Orderly w) : (t.take w).machine.missing = w.machine.missing :=
  t.keeps (P := fun tables => tables.missing = w.machine.missing) h
    (fun m c same => (Machine.call_change m c).missing.trans same) rfl

theorem subject_released {t : Turn} {id : Nat} {r : Resource} (h : Orderly w)
    (subject : t.subject = some id) (there : w.resources[id]? = some r) :
    (t.take w).resources[id]? = some r.retired := by
  obtain ⟨m, none, _⟩ | ⟨l, op, result, _, same, effect⟩ := t.take_cases h
  · rw [none] at subject
    cases subject
  · exact effect.subject_released (same ▸ subject) there

end Turn

/-! ## Sessions -/

theorem orderly_opening (host : Host) (m : Machine) (l : Library) :
    Orderly (World.opening host m l) := ⟨rfl, .nil _ rfl⟩

namespace World

variable {w : World}

theorem orderly_after (h : Orderly w) (ts : List Turn) : Orderly (w.after ts) := by
  induction ts generalizing w with
  | nil => exact h
  | cons t ts ih => exact ih (t.orderly h)

theorem later_after (h : Orderly w) (ts : List Turn) :
    Later w.resources (w.after ts).resources := by
  induction ts generalizing w with
  | nil => exact .refl _
  | cons t ts ih => exact (t.later h).trans (ih (t.orderly h))

/-- What every call keeps of the tables, a session keeps. -/
theorem keeps_after {P : Tables → Prop} (h : Orderly w)
    (call : ∀ (m : Machine) c, P m.tables → P (m.call c).2.tables) (start : P w.machine.tables)
    (ts : List Turn) : P (w.after ts).machine.tables := by
  induction ts generalizing w with
  | nil => exact start
  | cons t ts ih => exact ih (t.orderly h) (t.keeps h call start)

/-- The machine itself stays the library. -/
theorem direct_after (h : Orderly w) (direct : w.library = some .direct) (ts : List Turn) :
    (w.after ts).library = some .direct := by
  induction ts generalizing w with
  | nil => exact direct
  | cons t ts ih =>
    obtain ⟨⟨_, _, way⟩, _⟩ := t.calls_cases h
    exact ih (t.orderly h) (way.direct direct)

/-- The trace only grows. -/
theorem trace_after (h : Orderly w) (ts : List Turn) :
    ∃ es, (w.after ts).trace = w.trace ++ es := by
  induction ts generalizing w with
  | nil => exact ⟨[], (List.append_nil _).symm⟩
  | cons t ts ih =>
    obtain ⟨⟨_, _, way⟩, _⟩ := t.calls_cases h
    obtain ⟨es, one, _⟩ := way.trace
    obtain ⟨fs, rest⟩ := ih (t.orderly h)
    exact ⟨es ++ fs, by rw [after_cons, rest, one, List.append_assoc]⟩

/-- A call in the trace of a session was made in one of its turns. -/
theorem exists_turn (h : Orderly w) {ts : List Turn} {e : NativeCall × Int}
    (mem : e ∈ calls ((w.after ts).trace.drop w.trace.length)) :
    ∃ before t rest, ts = before ++ t :: rest ∧ e ∈ t.calls (w.after before) := by
  induction ts generalizing w with
  | nil => simp at mem
  | cons t ts ih =>
    obtain ⟨⟨_, _, way⟩, _⟩ := t.calls_cases h
    obtain ⟨es, one, made⟩ := way.trace
    obtain ⟨fs, rest⟩ := trace_after (t.orderly h) ts
    rw [after_cons, rest, one, List.append_assoc, List.drop_left, calls_append,
      List.mem_append] at mem
    rcases mem with first | later
    · rw [made] at first
      exact ⟨[], t, ts, rfl, first⟩
    · have later' : e ∈ calls (((t.take w).after ts).trace.drop (t.take w).trace.length) := by
        rw [rest, List.drop_left]
        exact later
      obtain ⟨before, u, us, rfl, mem⟩ := ih (t.orderly h) later'
      exact ⟨t :: before, u, us, rfl, mem⟩

end World
end GpuHandles
