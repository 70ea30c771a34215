import GpuHandles.Proofs.Apart
/-!
One release for each resource.

However release, free, the end of a block and the end of the last name are mixed in a session,
an owning resource causes one native release call at most, whatever code that call returns, and
no later call gets its handle (`single_release`).  If no entry point for a release is missing,
a resource whose last name has gone has caused its call.
-/

namespace GpuHandles

namespace Turn

variable {w : World}

/-- A turn that is to release a resource makes no call, or it is active and owning, and the turn
makes its release call. -/
theorem calls_of_subject {t : Turn} {id : Nat} (h : Orderly w) (subject : t.subject = some id) :
    t.calls w = [] ∨
      ∃ r c code, w.resources[id]? = some r ∧ r.released = false ∧ r.owned = .truth true ∧
        r.payload.releaseCall? = some c ∧ t.calls w = [(c, code)] := by
  obtain ⟨_, _, none | ⟨k, r, c, code, same, there, active, owned, call, made⟩⟩ := t.calls_cases h
  · left
    refine List.eq_nil_iff_forall_not_mem.2 ?_
    intro e he
    rw [(none e he).1] at subject
    cases subject
  · right
    cases subject.symm.trans same
    exact ⟨r, c, code, there, active, owned, call, made⟩

/-- A call of a turn that is to release a resource is the release call of that resource. -/
theorem releaseCall_of_mem_calls {t : Turn} {id : Nat} {r : Resource} {e : NativeCall × Int}
    (h : Orderly w) (subject : t.subject = some id) (there : w.resources[id]? = some r)
    (made : e ∈ t.calls w) : r.payload.releaseCall? = some e.1 := by
  obtain none | ⟨s, c, code, there', _, _, call, one⟩ := calls_of_subject h subject
  · rw [none] at made
    cases made
  · cases there.symm.trans there'
    rw [one] at made
    rw [List.mem_singleton.1 made]
    exact call

/-- A release call is only made for the resource that its turn is to release. -/
theorem exists_subject_of_release {t : Turn} {e : NativeCall × Int} (h : Orderly w)
    (made : e ∈ t.calls w) (release : e.1.entryPoint.releases = true) :
    ∃ (id : Nat) (r : Resource), t.subject = some id ∧ w.resources[id]? = some r ∧
      r.released = false ∧ r.owned = .truth true ∧ r.payload.releaseCall? = some e.1 := by
  obtain ⟨_, _, none | ⟨id, r, c, code, subject, there, active, owned, call, one⟩⟩ :=
    t.calls_cases h
  · rw [(none e made).2] at release
    cases release
  · rw [one] at made
    rw [List.mem_singleton.1 made]
    exact ⟨id, r, subject, there, active, owned, call⟩

/-- The release calls of a turn: none, or the one of an active resource. -/
theorem releases_cases (t : Turn) (h : Orderly w) (id : Nat) :
    t.releases id w = [] ∨
      ∃ r c code, t.subject = some id ∧ w.resources[id]? = some r ∧ r.released = false ∧
        r.owned = .truth true ∧ r.payload.releaseCall? = some c ∧
        t.releases id w = [(c, code)] := by
  unfold releases
  by_cases subject : t.subject = some id
  · rw [if_pos subject]
    obtain none | ⟨r, c, code, there, active, owned, call, made⟩ := calls_of_subject h subject
    · left
      rw [none]
      rfl
    · right
      refine ⟨r, c, code, subject, there, active, owned, call, ?_⟩
      rw [made]
      exact List.filter_cons_of_pos (Payload.releaseCall_releases call)
  · left
    rw [if_neg subject]

/-- A turn that releases an owning resource makes its release call, if the entry point is there. -/
theorem releases_ne_nil (t : Turn) (h : Orderly w) {id : Nat} {r : Resource}
    (complete : ∀ e : EntryPoint, e.releases → w.machine.missing.contains e.name = false)
    (before : ∀ s, w.resources[id]? = some s → s.released = false)
    (there : (t.take w).resources[id]? = some r) (done : r.released = true)
    (owned : r.owned = .truth true) : t.releases id w ≠ [] := by
  have unchanged (same : (t.take w).resources = w.resources) : False := by
    rw [same] at there
    rw [before r there] at done
    cases done
  obtain ⟨m, _, _, way⟩ | ⟨l, op, result, _, same, effect⟩ := t.take_cases h
  · exact absurd way.resources unchanged
  · cases effect with
    | used way =>
      obtain ⟨_, passage, _⟩ := way.passage
      exact absurd passage.resources unchanged
    | made _ _ _ active _ _ _ _ _ way =>
      rw [way.resources] at there
      rcases Later.of_append there with old | ⟨_, rfl⟩
      · rw [before r old] at done
        cases done
      · rw [active] at done
        cases done
    | @released _ _ k s subject there' active gone =>
      rw [gone.resources] at there
      by_cases other : k = id
      · subst other
        cases gone with
        | called _ call _ way =>
          unfold releases
          rw [calls_eq way, if_pos (same.trans subject)]
          simp [Payload.releaseCall_releases call]
        | marked cause =>
          obtain ⟨u, hu, _, mine, _⟩ := Later.of_set there' there
          cases there'.symm.trans hu
          rcases cause with borrowed | ⟨c, call, absent⟩
          · rw [mine, borrowed] at owned
            cases owned
          · have found := complete c.entryPoint (Payload.releaseCall_releases call)
            exact absurd (absent.symm.trans found) nofun
      · rw [List.getElem?_set_ne other] at there
        rw [before r there] at done
        cases done

end Turn

/-! ## Sessions -/

variable {w : World} {id : Nat} {r : Resource}

/-- A released resource causes no call any more. -/
theorem releases_of_released (h : Orderly w) (there : w.resources[id]? = some r)
    (done : r.released = true) (ts : List Turn) : releases id w ts = [] := by
  induction ts generalizing w with
  | nil => rfl
  | cons t ts ih =>
    have rest := ih (t.orderly h) ((t.later h).released there done)
    obtain none | ⟨s, _, _, _, there', active, _⟩ := t.releases_cases h id
    · simp only [releases, none, rest, List.append_nil]
    · cases there.symm.trans there'
      rw [active] at done
      cases done

/-- A resource causes no release call, or one call, its own. -/
theorem releases_cases (h : Orderly w) (id : Nat) (ts : List Turn) :
    releases id w ts = [] ∨
      ∃ r c code, (w.after ts).resources[id]? = some r ∧ r.released = true ∧
        r.owned = .truth true ∧ r.payload.releaseCall? = some c ∧
        releases id w ts = [(c, code)] := by
  induction ts generalizing w with
  | nil => exact .inl rfl
  | cons t ts ih =>
    obtain none | ⟨r, c, code, subject, there, _, owned, call, made⟩ := t.releases_cases h id
    · simp only [releases, none, List.nil_append]
      exact ih (t.orderly h)
    · right
      have gone := Turn.subject_released h subject there
      have rest := releases_of_released (t.orderly h) gone rfl ts
      refine ⟨r.retired, c, code, ?_, rfl, owned, call, by simp only [releases, made, rest]; rfl⟩
      exact (World.later_after (t.orderly h) ts).released gone rfl

theorem releases_length_le (h : Orderly w) (id : Nat) (ts : List Turn) :
    (releases id w ts).length ≤ 1 := by
  obtain none | ⟨_, _, _, _, _, _, _, one⟩ := releases_cases h id ts
  · rw [none]
    exact Nat.zero_le 1
  · rw [one]
    exact Nat.le_refl 1

theorem releaseCall_of_mem {ts : List Turn} {e : NativeCall × Int} (h : Orderly w)
    (there : (w.after ts).resources[id]? = some r) (mem : e ∈ releases id w ts) :
    r.payload.releaseCall? = some e.1 := by
  obtain none | ⟨s, c, code, there', _, _, call, one⟩ := releases_cases h id ts
  · rw [none] at mem
    cases mem
  · cases there.symm.trans there'
    rw [one] at mem
    rw [List.mem_singleton.1 mem]
    exact call

/-- A release call that a resource causes is made in one of the turns. -/
theorem exists_turn_of_release {ts : List Turn} {e : NativeCall × Int}
    (mem : e ∈ releases id w ts) : ∃ before t rest, ts = before ++ t :: rest ∧
      e ∈ t.calls (w.after before) ∧ e.1.entryPoint.releases := by
  induction ts generalizing w with
  | nil => cases mem
  | cons t ts ih =>
    rcases List.mem_append.1 mem with first | later
    · unfold Turn.releases at first
      split at first
      · obtain ⟨made, release⟩ := List.mem_filter.1 first
        exact ⟨[], t, ts, rfl, made, release⟩
      · cases first
    · obtain ⟨before, u, rest, rfl, made⟩ := ih later
      exact ⟨t :: before, u, rest, rfl, made⟩

/-- If no entry point for a release is missing, a release has made its call. -/
theorem releases_ne_nil (h : Orderly w) {ts : List Turn}
    (complete : ∀ e : EntryPoint, e.releases → w.machine.missing.contains e.name = false)
    (before : ∀ s, w.resources[id]? = some s → s.released = false)
    (there : (w.after ts).resources[id]? = some r) (done : r.released = true)
    (owned : r.owned = .truth true) : releases id w ts ≠ [] := by
  induction ts generalizing w with
  | nil =>
    rw [before r there] at done
    cases done
  | cons t ts ih =>
    by_cases active : ∀ s, (t.take w).resources[id]? = some s → s.released = false
    · have rest := ih (t.orderly h) (by rwa [t.missing h]) active there
      exact fun none => rest (List.append_eq_nil_iff.1 none).2
    · obtain ⟨s, there', gone⟩ : ∃ s, (t.take w).resources[id]? = some s ∧ s.released = true := by
        simpa using active
      have same := (World.later_after (t.orderly h) ts).released there' gone
      cases same.symm.trans there
      exact fun none => t.releases_ne_nil h complete before there' done owned
        (List.append_eq_nil_iff.1 none).1

/-- A resource whose last name has gone is released. -/
theorem released_of_dropped (h : Orderly w) {ts : List Turn} (dropped : Dropped id w ts)
    (there : (w.after ts).resources[id]? = some r) : r.released = true := by
  obtain ⟨before, later, rfl, made⟩ := dropped
  have first := World.orderly_after h before
  obtain ⟨s, hs⟩ : ∃ s, (w.after before).resources[id]? = some s :=
    ⟨_, List.getElem?_eq_getElem made⟩
  have gone := Turn.subject_released (t := .drop id) first rfl hs
  rw [World.after_append, World.after_cons] at there
  have same := (World.later_after (Turn.orderly _ first) later).released gone rfl
  cases same.symm.trans there
  rfl

/-- No call gets the handle of an owning resource that has been released. -/
theorem not_mem_handles (h : Orderly w) (there : w.resources[id]? = some r)
    (done : r.released = true) (owned : r.owned = .truth true) {a : Nat}
    (address : r.payload.address = some a) {ts : List Turn} {e : NativeCall × Int}
    (late : e ∈ calls ((w.after ts).trace.drop w.trace.length)) : a ∉ e.1.handles := by
  obtain ⟨before, t, rest, rfl, made⟩ := World.exists_turn h late
  have now := World.orderly_after h before
  have there' := (World.later_after h before).released there done
  intro used
  obtain ⟨_, live, _⟩ := t.calls_cases now
  obtain ⟨s, mem, active, address'⟩ := live e made a used
  obtain ⟨k, hk⟩ := List.mem_iff_getElem?.1 mem
  cases now.apart.sole id k r s a there' hk owned address address'
  cases there'.symm.trans hk
  rw [active] at done
  cases done

/-- **One release for each resource**, in a session of any turns over any library:

* an owning resource causes one release call at most, its own, whatever the call returns;
* a release call is only made in a turn that is to release an active owning resource, for it;
* the turn that is to release a resource makes no other call, and from then on no call gets
  the resource's handle;
* if no entry point for a release is missing, an owning resource whose last name has gone,
  also one with a null handle, has caused exactly one release call. -/
theorem single_release (host : Host) (m : Machine) (l : Library) (ts : List Turn) :
    let w := World.opening host m l
    (∀ (id : Nat) (r : Resource), (w.after ts).resources[id]? = some r →
      r.owned = .truth true → (releases id w ts).length ≤ 1 ∧
        ∀ e ∈ releases id w ts, r.payload.releaseCall? = some e.1) ∧
    (∀ before t rest, ts = before ++ t :: rest → ∀ e ∈ t.calls (w.after before),
      e.1.entryPoint.releases → ∃ (id : Nat) (r : Resource), t.subject = some id ∧
        (w.after before).resources[id]? = some r ∧ r.released = false ∧
        r.owned = .truth true ∧ r.payload.releaseCall? = some e.1) ∧
    (∀ before t rest (id : Nat) (r : Resource) (a : Nat), ts = before ++ t :: rest →
      t.subject = some id → (w.after before).resources[id]? = some r → r.owned = .truth true →
      r.payload.address = some a →
        (∀ e ∈ t.calls (w.after before), r.payload.releaseCall? = some e.1) ∧
        ∀ e ∈ calls ((w.after ts).trace.drop (w.after (before ++ [t])).trace.length),
          a ∉ e.1.handles) ∧
    ((∀ e : EntryPoint, e.releases → m.missing.contains e.name = false) →
      ∀ (id : Nat) (r : Resource), (w.after ts).resources[id]? = some r →
        r.owned = .truth true → Dropped id w ts → ∃ e, releases id w ts = [e]) := by
  intro w
  have start : Orderly w := orderly_opening host m l
  refine ⟨?_, ?_, ?_, ?_⟩
  · intro id r there owned
    constructor
    · exact releases_length_le start id ts
    · intro e mem
      exact releaseCall_of_mem start there mem
  · rintro before t rest rfl e made release
    have now := World.orderly_after start before
    exact Turn.exists_subject_of_release now made release
  · rintro before t rest id r a rfl subject there owned address
    have now := World.orderly_after start before
    constructor
    · intro e made
      exact Turn.releaseCall_of_mem_calls now subject there made
    · intro e late
      have gone := Turn.subject_released now subject there
      rw [World.after_append, World.after_cons, World.after_append, World.after_cons,
        World.after_nil] at late
      exact not_mem_handles (t.orderly now) gone rfl owned address late
  · intro complete id r there owned dropped
    have unreleased (s : Resource) (hs : w.resources[id]? = some s) : s.released = false := by
      simp [w, World.opening, World.start] at hs
    have done := released_of_dropped start dropped there
    have made := releases_ne_nil start complete unreleased there done owned
    obtain none | ⟨_, c, code, _, _, _, _, one⟩ := releases_cases start id ts
    · exact absurd none made
    · exact ⟨(c, code), one⟩

/-- Two allocations, the second of no bytes; the release of the first fails and is tried again
in three ways. -/
def repeatedRelease : List Turn :=
  [.operate (.allocate (.int 16)) rfl, .operate (.allocate (.int 0)) rfl, .failNext .free 1,
    .operate (.release 0) rfl, .operate (.free (.handle 0 .pointer)) rfl,
    .operate (.leave 0 none) rfl, .drop 0, .drop 1]

theorem single_release_repeated :
    let w := World.opening .bare .fresh .direct
    (releases 0 w repeatedRelease).length ≤ 1 ∧ (∃ e, releases 0 w repeatedRelease = [e]) ∧
      (∃ e, releases 1 w repeatedRelease = [e]) ∧
      ∀ e ∈ calls ((w.after repeatedRelease).trace.drop
        (w.after (repeatedRelease.take 4)).trace.length), 0x7f0000001000 ∉ e.1.handles := by
  obtain ⟨once, _, later, dropped⟩ := single_release .bare .fresh .direct repeatedRelease
  refine ⟨(once 0 _ rfl rfl).1, dropped (fun _ _ => rfl) 0 _ rfl rfl ?_,
    dropped (fun _ _ => rfl) 1 _ rfl rfl ?_, ?_⟩
  · exact ⟨repeatedRelease.take 6, [.drop 1], rfl, by decide⟩
  · exact ⟨repeatedRelease.take 7, [], rfl, by decide⟩
  · exact (later (repeatedRelease.take 3) _ (repeatedRelease.drop 4) 0 _ _ rfl rfl rfl rfl rfl).2

end GpuHandles
