import GpuHandles.Proofs.SingleRelease
/-!
Ownership and the tables of the machine agree.

With the machine itself as library and no symbol missing, `Agrees` holds all through a session:
the handle of an active owning resource is in the table of its class, and a handle in a table
is that of one resource, which is active, or whose release has failed.  So nothing is left in
the tables after all resources have been dropped and no release was made to fail
(`tables_agree`).
-/

namespace GpuHandles

/-- The release of a handle that is in its table: it fails with the code that was set up, or
the handle is dropped. -/
theorem Machine.call_release {m : Machine} {p : Payload} {c : NativeCall} {a : Nat}
    (call : p.releaseCall? = some c) (address : p.address = some a)
    (there : a ∈ m.tables.keys p.cls) :
    (m.call c).1 = .code (m.injected c.entryPoint) .nothing ∧
      (m.call c).2.tables =
        if m.injected c.entryPoint = 0 then m.tables.drop a p.cls else m.tables := by
  by_cases none : m.injected c.entryPoint = 0
  · rw [if_pos none, none, call_of_none none]
    cases p with
    | plain v => cases call
    | pointer b n =>
      cases call
      cases address
      have has : m.allocations.has a = true := (Table.has_iff_mem_keys _ _).2 there
      dsimp only [perform]
      rw [if_pos has]
      exact ⟨rfl, rfl⟩
    | stream b =>
      cases call
      cases address
      have has : m.streams.has a = true := (Table.has_iff_mem_keys _ _).2 there
      dsimp only [perform]
      rw [if_pos has]
      refine ⟨rfl, ?_⟩
      simp only [tables, Tables.drop, answer, Table.keys_erase, Payload.cls]
    | pool b props =>
      cases call
      cases address
      have has : m.pools.has a = true := (Table.has_iff_mem_keys _ _).2 there
      dsimp only [perform]
      rw [if_pos has]
      refine ⟨rfl, ?_⟩
      simp only [tables, Tables.drop, answer, Table.keys_erase, Payload.cls]
  · rw [if_neg none, call_of_injected none]
    exact ⟨rfl, rfl⟩

theorem Machine.call_free_null (m : Machine) :
    (m.call (.free none)).1 = .code (m.injected .free) .nothing := by
  by_cases h : m.injected .free = 0
  · rw [h, call_of_none h]
    rfl
  · rw [call_of_injected h]
    rfl

theorem Payload.released_of_null {p : Payload} {c : NativeCall} (call : p.releaseCall? = some c)
    (null : p.address = none) : c.released? = none := by
  cases p <;> cases call <;> cases null <;> rfl

/-- A call that releases nothing and does not succeed in making something leaves the same
handles in the tables. -/
theorem Machine.Change.keys {m m' : Machine} {c : NativeCall} {reply : Reply}
    (h : Change m c reply m') (keeps : c.released? = none)
    (lost : c.entryPoint.makes?.isSome → ∀ out, reply ≠ .code 0 out) (cls : HandleClass)
    (a : Nat) : a ∈ m'.tables.keys cls ↔ a ∈ m.tables.keys cls := by
  cases h with
  | kept same => rw [same]
  | overwrote _ _ same =>
    rw [same]
    exact Tables.mem_keys_set
  | issued entry => exact absurd rfl (lost (by rw [entry]; rfl) _)
  | taken _ same | lent _ same =>
    rw [same]
    cases cls <;> rfl
  | dropped released =>
    rw [keeps] at released
    cases released

/-- Ownership and the tables agree; `failed` are the resources whose release call failed. -/
structure Agrees (rs : List Resource) (t : Tables) (failed : Nat → Prop) : Prop where
  apart : Apart rs t
  /-- only memory may have a null handle -/
  named : ∀ r ∈ rs, r.owned = .truth true → r.payload.cls ≠ .pointer →
    r.payload.address.isSome
  present : ∀ r ∈ rs, r.owned = .truth true → r.released = false →
    ∀ a, r.payload.address = some a → a ∈ t.keys r.payload.cls
  backed : ∀ cls a, a ∈ t.keys cls → ∃ (id : Nat) (r : Resource), rs[id]? = some r ∧
    r.owned = .truth true ∧ r.payload.cls = cls ∧ r.payload.address = some a ∧
    (r.released = true → failed id)

namespace Agrees

variable {rs : List Resource} {t t' : Tables} {failed : Nat → Prop}

theorem nil (t : Tables) (lent : t.lent = []) (empty : ∀ cls, t.keys cls = []) :
    Agrees [] t failed where
  apart := .nil t lent
  named := by simp
  present := by simp
  backed cls a ha := by rw [empty cls] at ha; cases ha

theorem mono {failed' : Nat → Prop} (h : Agrees rs t failed)
    (weaker : ∀ (id : Nat) (r : Resource), rs[id]? = some r → r.released = true → failed id →
      failed' id) : Agrees rs t failed' where
  apart := h.apart
  named := h.named
  present := h.present
  backed cls a ha := by
    obtain ⟨id, r, there, owned, kind, address, done⟩ := h.backed cls a ha
    exact ⟨id, r, there, owned, kind, address, fun gone => weaker id r there gone (done gone)⟩

/-- The same handles in the tables. -/
theorem keep (h : Agrees rs t failed) (apart : Apart rs t')
    (same : ∀ cls a, a ∈ t'.keys cls ↔ a ∈ t.keys cls) : Agrees rs t' failed where
  apart := apart
  named := h.named
  present r hr owned active a ha := (same _ _).2 (h.present r hr owned active a ha)
  backed cls a ha := h.backed cls a ((same _ _).1 ha)

/-- A resource more; if it is owning, its handle has come to the tables with it. -/
theorem add {r : Resource} (h : Agrees rs t failed) (apart : Apart (rs ++ [r]) t')
    (active : r.released = false)
    (named : r.owned = .truth true → r.payload.cls ≠ .pointer → r.payload.address.isSome)
    (keys : ∀ cls a, a ∈ t'.keys cls ↔ a ∈ t.keys cls ∨
      r.owned = .truth true ∧ r.payload.cls = cls ∧ r.payload.address = some a) :
    Agrees (rs ++ [r]) t' failed := by
  refine ⟨apart, ?_, ?_, ?_⟩
  · intro s hs owned real
    rcases List.mem_append.1 hs with old | new
    · exact h.named s old owned real
    · rw [List.mem_singleton.1 new] at owned real ⊢
      exact named owned real
  · intro s hs owned going a ha
    rw [keys]
    rcases List.mem_append.1 hs with old | new
    · exact .inl (h.present s old owned going a ha)
    · rw [List.mem_singleton.1 new] at owned ha ⊢
      exact .inr ⟨owned, rfl, ha⟩
  · intro cls a ha
    rcases (keys cls a).1 ha with old | ⟨owned, kind, address⟩
    · obtain ⟨id, s, there, rest⟩ := h.backed cls a old
      obtain ⟨bound, _⟩ := List.getElem?_eq_some_iff.1 there
      exact ⟨id, s, by rw [List.getElem?_append_left bound, there], rest⟩
    · refine ⟨rs.length, r, List.getElem?_concat_length, owned, kind, address, fun done => ?_⟩
      rw [active] at done
      cases done

/-- A resource for what a call has just made. -/
theorem made {m m' : Machine} {c : NativeCall} {out : Output} {r : Resource} {own : Bool}
    (h : Agrees rs m.tables failed) (change : Machine.Change m c (.code 0 out) m')
    (kind : c.entryPoint.makes? = some (r.payload.cls, own)) (owned : r.owned = .truth own)
    (active : r.released = false) (address : r.payload.address = out.storedAddress) :
    Agrees (rs ++ [r]) m'.tables failed := by
  have apart := h.apart.made change kind owned address
  cases change with
  | kept same stored idle =>
    have null : r.payload.address = none := address.trans stored
    refine h.add apart active ?_ ?_
    · intro _ real
      rcases idle out rfl with none | ⟨memory, _⟩
      · rw [none] at kind
        cases kind
      · rw [memory] at kind
        have memory : HandleClass.pointer = r.payload.cls := by
          simpa using congrArg (Option.map Prod.fst) kind
        exact absurd memory.symm real
    · intro cls a
      rw [same, null]
      simp
  | overwrote entry =>
    rcases entry with entry | entry <;> rw [entry] at kind <;> cases kind
  | @issued cls _ entry _ same =>
    rw [entry] at kind
    obtain ⟨rfl, rfl⟩ : cls = r.payload.cls ∧ true = own := by simpa using kind
    refine h.add apart active (fun _ _ => by rw [address]; rfl) ?_
    intro k a
    rw [same, Tables.mem_keys_issue (EntryPoint.makes_real entry), address, owned]
    simp [Output.storedAddress, eq_comm]
  | lent entry same =>
    rw [entry] at kind
    obtain ⟨-, rfl⟩ : HandleClass.pool = r.payload.cls ∧ false = own := by
      simpa [EntryPoint.makes?] using kind
    refine h.add apart active ?_ ?_
    · intro mine
      rw [owned] at mine
      cases mine
    · intro k a
      rw [same, owned]
      cases k <;> simp [Tables.keys]
  | dropped released =>
    rw [EntryPoint.makes_of_releases (NativeCall.releases_of_released released)] at kind
    cases kind

theorem before_set {id : Nat} {r s : Resource} (there : rs[id]? = some r)
    (hs : s ∈ rs.set id r.retired) : ∃ (k : Nat) (u : Resource), rs[k]? = some u ∧
      s.payload = u.payload ∧ s.owned = u.owned ∧ (s.released = false → k ≠ id ∧ s = u) := by
  obtain ⟨k, hk⟩ := List.mem_iff_getElem?.1 hs
  obtain ⟨u, hu, same⟩ := Later.of_set there hk
  exact ⟨k, u, hu, same⟩

/-- A release that leaves the tables as they are: there is no handle, or the call failed. -/
theorem retire {id : Nat} {r : Resource} (h : Agrees rs t failed) (there : rs[id]? = some r)
    (done : r.owned = .truth true → r.payload.address = none ∨ failed id) :
    Agrees (rs.set id r.retired) t failed := by
  refine ⟨h.apart.retire there, ?_, ?_, ?_⟩
  · intro s hs owned real
    obtain ⟨k, u, hu, payload, same, _⟩ := before_set there hs
    rw [payload] at real ⊢
    exact h.named u (List.mem_of_getElem? hu) (same ▸ owned) real
  · intro s hs owned going a ha
    obtain ⟨k, u, hu, _, _, active⟩ := before_set there hs
    obtain ⟨_, rfl⟩ := active going
    exact h.present s (List.mem_of_getElem? hu) owned going a ha
  · intro cls a ha
    obtain ⟨k, s, hs, owned, kind, address, gone⟩ := h.backed cls a ha
    by_cases same : id = k
    · subst same
      cases there.symm.trans hs
      obtain ⟨bound, _⟩ := List.getElem?_eq_some_iff.1 there
      refine ⟨id, r.retired, List.getElem?_set_self bound, owned, kind, address, fun _ => ?_⟩
      rcases done owned with null | failed
      · rw [null] at address
        cases address
      · exact failed
    · exact ⟨k, s, by rw [List.getElem?_set_ne same, hs], owned, kind, address, gone⟩

/-- A release that drops the handle. -/
theorem drop {id : Nat} {r : Resource} {a : Nat} (h : Agrees rs t failed)
    (there : rs[id]? = some r) (owned : r.owned = .truth true)
    (address : r.payload.address = some a) :
    Agrees (rs.set id r.retired) (t.drop a r.payload.cls) failed := by
  refine ⟨?_, ?_, ?_, ?_⟩
  · refine (h.apart.retire there).mono ?_ ?_
    · exact Nat.le_of_eq (Tables.lastHandle_drop _ _ _).symm
    · intro e he
      rw [Tables.lent_drop] at he
      exact .inl he
  · intro s hs mine real
    obtain ⟨k, u, hu, payload, same, _⟩ := before_set there hs
    rw [payload] at real ⊢
    exact h.named u (List.mem_of_getElem? hu) (same ▸ mine) real
  · intro s hs mine going b hb
    obtain ⟨k, u, hu, _, _, active⟩ := before_set there hs
    obtain ⟨other, rfl⟩ := active going
    refine Tables.mem_keys_drop.2 ⟨h.present s (List.mem_of_getElem? hu) mine going b hb, ?_⟩
    rintro ⟨_, rfl⟩
    exact other (h.apart.sole id k r s b there hu owned address hb).symm
  · intro cls b hb
    obtain ⟨old, other⟩ := Tables.mem_keys_drop.1 hb
    obtain ⟨k, s, hs, mine, kind, address', gone⟩ := h.backed cls b old
    by_cases same : id = k
    · subst same
      cases there.symm.trans hs
      rw [address] at address'
      cases address'
      exact absurd ⟨kind.symm, rfl⟩ other
    · exact ⟨k, s, by rw [List.getElem?_set_ne same, hs], mine, kind, address', gone⟩

/-- When all resources are released and none of their calls failed, no handle is left. -/
theorem keys_eq_nil (h : Agrees rs t failed)
    (released : ∀ (id : Nat) (r : Resource), rs[id]? = some r → r.released = true)
    (succeeds : ∀ id, ¬failed id) (cls : HandleClass) : t.keys cls = [] := by
  refine List.eq_nil_iff_forall_not_mem.2 ?_
  intro a key
  obtain ⟨id, r, there, _, _, _, gone⟩ := h.backed cls a key
  exact succeeds id (gone (released id r there))

theorem uses {op : Operation} {w w' : World} (h : Agrees w.resources w.machine.tables failed)
    (way : Uses (op.Tries w.resources) w w') :
    Agrees w'.resources w'.machine.tables failed := by
  induction way with
  | refl => exact h
  | quiet _ way ih =>
    rw [way.resources, way.machine]
    exact ih
  | @call w₁ _ c _ tries way ih =>
    rw [way.resources, way.machine]
    have change := Machine.call_change w₁.machine c
    refine ih.keep (ih.apart.call change) (change.keys ?_ tries.2)
    exact NativeCall.released_of_keeps (Operation.entries_keep tries.1.1).2

/-- The code of a release call is the one that was set up for it, if any. -/
theorem release_code {w : World} {r : Resource} {c : NativeCall} {code : Int} {out : Output}
    (h : Agrees w.resources w.machine.tables failed) (there : r ∈ w.resources)
    (active : r.released = false) (owned : r.owned = .truth true)
    (call : r.payload.releaseCall? = some c) (reply : (w.machine.call c).1 = .code code out) :
    code = w.machine.injected c.entryPoint := by
  cases address : r.payload.address with
  | some a =>
    have known := (Machine.call_release call address (h.present r there owned active a address)).1
    rw [reply] at known
    injection known
  | none =>
    have named := h.named r there owned
    have known := Machine.call_free_null w.machine
    cases payload : r.payload with
    | pointer a n =>
      rw [payload] at call address
      cases address
      cases call
      rw [reply] at known
      injection known
    | stream a | pool a props | plain v =>
      rw [address, payload] at named
      cases named nofun

/-- The release of an owning resource by its call. -/
theorem called {w : World} {id : Nat} {r : Resource} {c : NativeCall} {code : Int} {out : Output}
    (h : Agrees w.resources w.machine.tables failed) (there : w.resources[id]? = some r)
    (active : r.released = false) (owned : r.owned = .truth true)
    (call : r.payload.releaseCall? = some c) (reply : (w.machine.call c).1 = .code code out) :
    Agrees (w.resources.set id r.retired) (w.machine.call c).2.tables
      fun k => failed k ∨ k = id ∧ code ≠ 0 := by
  have mem := List.mem_of_getElem? there
  have later : Agrees w.resources w.machine.tables fun k => failed k ∨ k = id ∧ code ≠ 0 :=
    h.mono fun _ _ _ _ before => .inl before
  cases address : r.payload.address with
  | none =>
    have change := Machine.call_change w.machine c
    refine (later.retire there fun _ => .inl address).keep
      ((h.apart.call change).retire there)
      (change.keys (Payload.released_of_null call address) ?_)
    intro made
    rw [EntryPoint.makes_of_releases (Payload.releaseCall_releases call)] at made
    cases made
  | some a =>
    obtain ⟨known, tables⟩ :=
      Machine.call_release call address (h.present r mem owned active a address)
    rw [tables]
    rw [reply] at known
    injection known with same _
    by_cases zero : w.machine.injected c.entryPoint = 0
    · rw [if_pos zero]
      exact later.drop there owned address
    · rw [if_neg zero]
      exact later.retire there fun _ => .inr (.inr ⟨rfl, same ▸ zero⟩)

/-- **What one operation keeps**, with the machine itself as library.  A release that is not even
called, for want of its symbol, has to count as failed. -/
theorem effect {op : Operation} {w w' : World} {result : Except Fault Value}
    (h : Agrees w.resources w.machine.tables failed)
    (excused : ∀ (id : Nat) (r : Resource) (c : NativeCall), w.resources[id]? = some r →
      r.owned = .truth true → r.payload.releaseCall? = some c →
      Loading.Absent w c.entryPoint → failed id)
    (effect : Effect .direct op w result w') :
    Agrees w'.resources w'.machine.tables fun id => failed id ∨ op.subject = some id ∧
      ∃ c code, c.entryPoint.releases ∧ calls (w'.trace.drop w.trace.length) = [(c, code)] ∧
        code ≠ 0 := by
  cases effect with
  | used way => exact (h.uses way).mono fun _ _ _ _ failed => .inl failed
  | @made _ c r own code out _ kind owned active reply success address _ _ way =>
    rw [way.resources, way.machine]
    have change := Machine.call_change w.machine c
    have zero : code = 0 := success
    rw [reply, zero] at change
    exact (h.made change kind owned active address).mono fun _ _ _ _ failed => .inl failed
  | @released _ _ id r subject there active gone =>
    cases gone with
    | @called c code out owned call reply way =>
      have made := way.calls_drop
      rw [way.resources, way.machine]
      refine (h.called there active owned call reply).mono ?_
      intro k _ _ _ failed
      rcases failed with before | ⟨rfl, failure⟩
      · exact .inl before
      · exact .inr ⟨subject, c, code, Payload.releaseCall_releases call, made, failure⟩
    | marked cause way =>
      rw [way.resources, way.machine]
      refine (h.retire there ?_).mono fun _ _ _ _ failed => .inl failed
      intro owned
      rcases cause with borrowed | ⟨c, call, absent⟩
      · rw [borrowed] at owned
        cases owned
      · exact .inr (excused id r c there owned call absent)

/-- What one turn keeps. -/
theorem take {w : World} (h : Agrees w.resources w.machine.tables failed) (t : Turn)
    (orderly : Orderly w) (direct : w.library = some .direct)
    (excused : ∀ e, Loading.Absent w e → ∀ id, failed id) :
    Agrees (t.take w).resources (t.take w).machine.tables fun id => failed id ∨
      ∃ c code, t.releases id w = [(c, code)] ∧ code ≠ 0 := by
  obtain ⟨m, _, same, way⟩ | ⟨l, op, result, installed, subject, effect⟩ := t.take_cases orderly
  · rw [way.resources, way.machine, same]
    exact h.mono fun _ _ _ _ before => .inl before
  · cases direct.symm.trans installed
    refine (h.effect (fun id _ c _ _ _ absent => excused c.entryPoint absent id) effect).mono ?_
    intro id _ _ _ failed
    rcases failed with before | ⟨mine, c, code, release, made, failure⟩
    · exact .inl before
    · refine .inr ⟨c, code, ?_, failure⟩
      unfold Turn.releases
      rw [if_pos (subject.trans mine), show t.calls w = [(c, code)] from made]
      exact List.filter_cons_of_pos release

/-- The code of a release call in a turn is the one that was set up before the turn. -/
theorem turn_code {w : World} (h : Agrees w.resources w.machine.tables failed) (t : Turn)
    (orderly : Orderly w) {e : NativeCall × Int} (made : e ∈ t.calls w)
    (release : e.1.entryPoint.releases = true) : e.2 = w.machine.injected e.1.entryPoint := by
  obtain ⟨m, _, _, way⟩ | ⟨l, op, result, _, _, effect⟩ := t.take_cases orderly
  · rw [Turn.calls_eq way] at made
    cases made
  · cases effect with
    | used way =>
      obtain ⟨cs, passage, known⟩ := way.passage
      rw [Turn.calls_eq passage] at made
      obtain ⟨m, tries, _⟩ := known e.1 e.2 made
      rw [(Operation.entries_keep tries.1).2] at release
      cases release
    | made allowed _ _ _ _ _ _ _ _ way =>
      rw [Turn.calls_eq way] at made
      rw [List.mem_singleton.1 made, (Operation.entries_keep allowed.1).2] at release
      cases release
    | released _ there active gone =>
      cases gone with
      | called owned call reply way =>
        rw [Turn.calls_eq way] at made
        rw [List.mem_singleton.1 made]
        exact h.release_code (List.mem_of_getElem? there) active owned call reply
      | marked _ way =>
        rw [Turn.calls_eq way] at made
        cases made

end Agrees

/-- The one release call that a resource causes in a session fails. -/
def ReleaseFails (id : Nat) (w : World) (ts : List Turn) : Prop :=
  ∃ c code, releases id w ts = [(c, code)] ∧ code ≠ 0

theorem ReleaseFails.cons {w : World} {id : Nat} {t : Turn} {ts : List Turn} (h : Orderly w)
    (fails : (∃ c code, t.releases id w = [(c, code)] ∧ code ≠ 0) ∨
      ReleaseFails id (t.take w) ts) : ReleaseFails id w (t :: ts) := by
  have once := releases_length_le h id (t :: ts)
  unfold ReleaseFails
  simp only [releases, List.length_append] at once ⊢
  rcases fails with ⟨c, code, first, failure⟩ | ⟨c, code, rest, failure⟩
  · rw [first] at once
    have none : releases id (t.take w) ts = [] :=
      List.eq_nil_of_length_eq_zero (by simp only [List.length_singleton] at once; omega)
    exact ⟨c, code, by rw [first, none, List.append_nil], failure⟩
  · rw [rest] at once
    have none : t.releases id w = [] :=
      List.eq_nil_of_length_eq_zero (by simp only [List.length_singleton] at once; omega)
    exact ⟨c, code, by rw [rest, none, List.nil_append], failure⟩

/-- The failing call is made in one of the turns. -/
theorem ReleaseFails.exists_turn {w : World} {id : Nat} {ts : List Turn}
    (fails : ReleaseFails id w ts) : ∃ before t rest e, ts = before ++ t :: rest ∧
      e ∈ t.calls (w.after before) ∧ e.1.entryPoint.releases = true ∧ e.2 ≠ 0 := by
  obtain ⟨c, code, one, failure⟩ := fails
  have mem : (c, code) ∈ releases id w ts := by
    rw [one]
    exact .head _
  obtain ⟨before, t, rest, split, made, release⟩ := exists_turn_of_release mem
  exact ⟨before, t, rest, (c, code), split, made, release, failure⟩

/-- **What a session keeps.** -/
theorem Agrees.after {w : World} {failed : Nat → Prop}
    (h : Agrees w.resources w.machine.tables failed) (orderly : Orderly w)
    (direct : w.library = some .direct) (complete : w.machine.missing = []) (ts : List Turn) :
    Agrees (w.after ts).resources (w.after ts).machine.tables fun id =>
      failed id ∨ ReleaseFails id w ts := by
  induction ts generalizing w failed with
  | nil => exact h.mono fun _ _ _ _ before => .inl before
  | cons t ts ih =>
    have excused (e : EntryPoint) (absent : Loading.Absent w e) (id : Nat) : failed id := by
      unfold Loading.Absent at absent
      rw [complete] at absent
      cases absent
    have step := h.take t orderly direct excused
    have rest := ih step (t.orderly orderly) (World.direct_after orderly direct [t])
      ((t.missing orderly).trans complete)
    refine rest.mono ?_
    intro id _ _ _ failed
    rcases failed with (before | first) | later
    · exact .inl before
    · exact .inr (ReleaseFails.cons orderly (.inl first))
    · exact .inr (ReleaseFails.cons orderly (.inr later))

theorem agrees_opening (host : Host) (m : Machine) :
    Agrees (World.opening host m .direct).resources (World.opening host m .direct).machine.tables
      fun _ => False :=
  .nil _ rfl fun cls => by cases cls <;> rfl

/-- **Ownership and the tables agree**, in every session with the machine itself as library and
no symbol missing, whatever failures are set up:

* the handles of active owning resources are distinct, and each is in the table of its class;
* a handle in a table is that of one resource ever made, which is active and owning, or whose
  single release call failed;
* a release call fails only with a code that was set up for it;
* so if no release was made to fail and all resources have been dropped, the tables are empty. -/
theorem tables_agree (host : Host) (m : Machine) (complete : m.missing = []) (ts : List Turn) :
    let w := World.opening host m .direct
    let rs := (w.after ts).resources
    let now := (w.after ts).machine
    (∀ (i j : Nat) (r s : Resource) (a : Nat), rs[i]? = some r → rs[j]? = some s →
      r.owned = .truth true → s.owned = .truth true → r.released = false → s.released = false →
      r.payload.address = some a → s.payload.address = some a → i = j) ∧
    (∀ (id : Nat) (r : Resource) (a : Nat), rs[id]? = some r → r.owned = .truth true →
      r.released = false → r.payload.address = some a → a ∈ now.tables.keys r.payload.cls) ∧
    (∀ (cls : HandleClass) (a : Nat), a ∈ now.tables.keys cls → ∃ (id : Nat) (r : Resource),
      rs[id]? = some r ∧ r.owned = .truth true ∧ r.payload.cls = cls ∧
      r.payload.address = some a ∧
      (∀ (j : Nat) (s : Resource), rs[j]? = some s → s.payload.address = some a → j = id) ∧
      (r.released = false ∨ ∃ c code, releases id w ts = [(c, code)] ∧ code ≠ 0)) ∧
    (∀ before t rest, ts = before ++ t :: rest → ∀ e ∈ t.calls (w.after before),
      e.1.entryPoint.releases → e.2 = (w.after before).machine.injected e.1.entryPoint) ∧
    ((∀ before t rest, ts = before ++ t :: rest → ∀ e ∈ t.calls (w.after before),
        e.1.entryPoint.releases → (w.after before).machine.injected e.1.entryPoint = 0) →
      (∀ id < rs.length, Dropped id w ts) →
      now.allocations = [] ∧ now.streams = [] ∧ now.pools = []) := by
  intro w rs now
  have start : Orderly w := orderly_opening host m .direct
  have agrees (us : List Turn) := (agrees_opening host m).after start rfl complete us
  have apart := (agrees ts).apart
  have code : ∀ before t rest, ts = before ++ t :: rest → ∀ e ∈ t.calls (w.after before),
      e.1.entryPoint.releases → e.2 = (w.after before).machine.injected e.1.entryPoint := by
    rintro before t rest rfl e made release
    exact (agrees before).turn_code t (World.orderly_after start before) made release
  refine ⟨?_, ?_, ?_, code, ?_⟩
  · intro i j r s a hi hj owned _ _ _ ha hb
    exact apart.sole i j r s a hi hj owned ha hb
  · intro id r a there owned active address
    exact (agrees ts).present r (List.mem_of_getElem? there) owned active a address
  · intro cls a key
    obtain ⟨id, r, there, owned, kind, address, gone⟩ := (agrees ts).backed cls a key
    refine ⟨id, r, there, owned, kind, address, ?_, ?_⟩
    · intro j s hs ha
      exact (apart.sole id j r s a there hs owned address ha).symm
    · cases active : r.released with
      | false => exact .inl rfl
      | true => exact .inr ((gone active).resolve_left not_false)
  · intro unharmed dropped
    have released (id : Nat) (r : Resource) (there : rs[id]? = some r) : r.released = true := by
      obtain ⟨bound, _⟩ := List.getElem?_eq_some_iff.1 there
      exact released_of_dropped start (dropped id bound) there
    have succeeds (id : Nat) : ¬(False ∨ ReleaseFails id w ts) := by
      rintro (none | fails)
      · exact none
      · obtain ⟨before, t, rest, e, split, made, release, failure⟩ := fails.exists_turn
        have harmed := code before t rest split e made release
        rw [unharmed before t rest split e made release] at harmed
        exact failure harmed
    have empty (cls : HandleClass) := (agrees ts).keys_eq_nil released succeeds cls
    exact ⟨List.map_eq_nil_iff.1 (empty .pointer), List.map_eq_nil_iff.1 (empty .stream),
      List.map_eq_nil_iff.1 (empty .pool)⟩

/-- An allocation, a stream that is not made, and a pool; both resources are dropped. -/
def emptiedSession : List Turn :=
  [.operate (.allocate (.int 32)) rfl, .failNext .streamCreate 2, .operate .createStream rfl,
    .operate (.createPool .null) rfl, .drop 0, .drop 1]

theorem take_of_split {ts before rest : List Turn} {t : Turn} (h : ts = before ++ t :: rest) :
    before = ts.take before.length ∧ ts[before.length]? = some t := by
  subst h
  simp

theorem tables_agree_emptied :
    let now := ((World.opening .bare .fresh .direct).after emptiedSession).machine
    now.allocations = [] ∧ now.streams = [] ∧ now.pools = [] := by
  obtain ⟨_, _, _, _, empty⟩ := tables_agree .bare .fresh rfl emptiedSession
  refine empty ?_ ?_
  · intro before t rest split
    obtain ⟨first, here⟩ := take_of_split split
    rw [first]
    generalize before.length = k at here ⊢
    match k, here with
    | 0, rfl | 1, rfl | 2, rfl | 3, rfl | 4, rfl | 5, rfl => decide
  · intro id bound
    have two : ((World.opening .bare .fresh .direct).after emptiedSession).resources.length = 2 :=
      rfl
    rw [two] at bound
    match id, bound with
    | 0, _ => exact ⟨emptiedSession.take 4, _, rfl, by decide⟩
    | 1, _ => exact ⟨emptiedSession.take 5, _, rfl, by decide⟩

end GpuHandles
