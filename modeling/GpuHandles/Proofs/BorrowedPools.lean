import GpuHandles.Proofs.DefaultPools
import GpuHandles.Proofs.FailedRelease
import GpuHandles.Proofs.Lockstep
import GpuHandles.Proofs.SingleRelease
/-!
Borrowed pools.

Several wrappers may share the handle of a default pool, so the handle alone does not tell what a
release may do; that a wrapper is borrowed does.  Its release marks it and makes no call
(`Turn.take_borrowed`), and the worlds before and after differ in that one resource
(`World.Beside`).  An allocation that does not go through it ends alike in both
(`Memory.allocateFromPool_beside`).  `default_pools_borrowed` puts this together with the answers
to the questions of a session.
-/

namespace GpuHandles

open GpuHandles.Action (Respects)

/-! ## The release of a borrowed wrapper -/

theorem Ownership.release_borrowed {w : World} {id : Nat}
    (active : (w.resource id).released = false) (borrowed : (w.resource id).owned = .truth false) :
    (release id).outcome w = (.ok (), w.setResource id (w.resource id).retired) := by
  unfold release
  rw [Action.outcome_bind_ok (active_ok (World.getElem?_of_active active) active),
    Action.outcome_bind_ok (Action.outcome_modify _ w), Action.outcome_bind_ok (Action.outcome_get _)]
  rw [borrowed]
  rfl

/-- Worlds with the machine itself as their library that differ in no resource but one. -/
structure World.Beside (id : Nat) (w v : World) : Prop where
  direct : w.library = some .direct
  library : v.library = w.library
  machine : v.machine = w.machine
  trace : v.trace = w.trace
  length : v.resources.length = w.resources.length
  others : ∀ j, j ≠ id → v.resources[j]? = w.resources[j]?

open World (Beside)

theorem World.Beside.resource {id j : Nat} {w v : World} (h : Beside id w v) (other : j ≠ id) :
    v.resource j = w.resource j := by
  unfold World.resource
  rw [h.others j other]

/-- **A turn that is to release a borrowed wrapper** changes no other resource, and nothing else. -/
theorem Turn.take_borrowed {t : Turn} {w : World} {id : Nat} (direct : w.library = some .direct)
    (subject : t.subject = some id) (borrowed : (w.resource id).owned = .truth false) :
    Beside id w (t.take w) := by
  cases t with
  | operate op own =>
    cases active : (w.resource id).released with
    | true =>
      rw [take, Operation.subject_idle subject active]
      exact ⟨direct, rfl, rfl, rfl, rfl, fun _ _ => rfl⟩
    | false =>
      rw [take, Operation.subject_ended subject active
        (Ownership.release_borrowed active borrowed)]
      exact ⟨direct, rfl, rfl, rfl, List.length_set, fun j other => List.getElem?_set_ne other.symm⟩
  | _ => cases subject

/-! ## Allocations beside it -/

namespace World.Beside

variable {id j : Nat}

theorem active (other : j ≠ id) : Respects (Beside id) (Ownership.active j) := by
  intro w v beside
  rw [Ownership.active_outcome, Ownership.active_outcome, beside.resource other]
  exact ⟨rfl, beside⟩

theorem request (c : NativeCall) : Respects (Beside id) (Loading.request c) := by
  intro w v beside
  rw [Loading.request_direct beside.direct, Loading.request_direct (beside.library.trans beside.direct),
    beside.machine, beside.trace]
  split
  · exact ⟨rfl, beside⟩
  · exact ⟨rfl, { beside with machine := rfl, trace := rfl }⟩

theorem write (level : Level) (logger : Logger) (text : String) :
    Respects (Beside id) (Action.write level logger text) :=
  fun _ _ beside => ⟨rfl, { beside with }⟩

theorem constructed (r : Resource) : Respects (Beside id) (Ownership.constructed r) := by
  intro w v beside
  refine ⟨?_, { beside with length := ?_, others := fun k other => ?_ }⟩
  · exact congrArg (fun n => Except.ok (Value.handle n r.payload.cls)) beside.length
  · show (v.resources ++ [r]).length = (w.resources ++ [r]).length
    rw [List.length_append, List.length_append, beside.length]
  · show (v.resources ++ [r])[k]? = (w.resources ++ [r])[k]?
    rw [List.getElem?_append, List.getElem?_append, beside.length, beside.others k other]

theorem pure {α : Type} (x : α) : Respects (Beside id) (Pure.pure x : Action α) :=
  fun _ _ beside => ⟨rfl, beside⟩

theorem allocateBy (call : Int → NativeCall) (size : Value) :
    Respects (Beside id) (Memory.allocateBy call size) :=
  Lockstep.bind (Lockstep.compute _) fun n => Lockstep.bind (request (call n)) fun _ =>
    Lockstep.bind (constructed _) fun _ => Lockstep.bind (write _ _ _) fun _ => pure _

theorem handleOf {stream : Value} (other : ∀ cls, stream ≠ .handle id cls) :
    Respects (Beside id) (Memory.handleOf stream) := by
  unfold Memory.handleOf
  split
  next k cls =>
    have apart : k ≠ id := fun same => other cls (same ▸ rfl)
    exact Lockstep.bind (active apart) fun _ => pure _
  next => exact Lockstep.compute _

/-- **An allocation from another wrapper** ends alike. -/
theorem allocateFromPool {size stream : Value} (pool : j ≠ id)
    (other : ∀ cls, stream ≠ .handle id cls) :
    Respects (Beside id) (Memory.allocateFromPool j size stream) :=
  Lockstep.bind (active pool) fun _ => Lockstep.bind (handleOf other) fun _ => allocateBy _ size

end World.Beside

/-! ## Sessions -/

theorem lending_opening (host : Host) (m : Machine) (l : Library) :
    Lending (World.opening host m l).machine.tables :=
  .nil rfl fun cls => by cases cls <;> rfl

/-- What was lent by the end is no handle of a pool, a stream or an allocation at any time. -/
theorem World.lent_foreign {w : World} (orderly : Orderly w) (lending : Lending w.machine.tables)
    (ts : List Turn) : ∀ e ∈ (w.after ts).machine.defaultPools, ∀ cls,
      e.2 ∉ w.machine.tables.keys cls := by
  -- an entry that is added later has a handle ahead of the counter, and of all keys there are
  have ahead := keeps_after (P := fun tables => w.machine.tables.lastHandle ≤ tables.lastHandle ∧
      ∀ e ∈ tables.lent, e ∈ w.machine.tables.lent ∨ w.machine.tables.lastHandle < e.2) orderly
    ?_ ⟨Nat.le_refl _, fun e he => .inl he⟩ ts
  · intro e he cls key
    rcases ahead.2 e he with old | new
    · exact lending.foreign e old cls key
    · exact Nat.not_lt.2 (lending.counted cls _ key) new
  · rintro m c ⟨further, known⟩
    have counter := (Machine.call_change m c).counter
    refine ⟨Nat.le_trans further counter.1, fun e he => ?_⟩
    rcases counter.2 e he with old | ⟨new, _⟩
    · exact known e old
    · exact .inr (Nat.lt_of_le_of_lt further new)

/-- No release call gets a handle that is lent by the end. -/
theorem Turn.release_not_lent {w : World} {t : Turn} {e : NativeCall × Int} (orderly : Orderly w)
    (made : e ∈ t.calls w) (release : e.1.entryPoint.releases = true) (ts : List Turn) :
    ∀ p ∈ (w.after ts).machine.defaultPools, p.2 ∉ e.1.handles := by
  obtain ⟨id, r, _, there, _, owned, call⟩ := Turn.exists_subject_of_release orderly made release
  intro p hp mem
  rw [Payload.releaseCall_handles call, Option.mem_toList] at mem
  obtain ⟨s, there', later⟩ := World.later_after orderly ts id r there
  have apart := (World.orderly_after orderly ts).apart
  have mem' := List.mem_of_getElem? there'
  rcases later with rfl | rfl
  · exact apart.kept _ mem' owned _ mem p hp rfl
  · exact apart.kept _ mem' owned _ mem p hp rfl

/-- A turn makes no call and changes nothing but one resource; an allocation from a pool that does
not go through that resource ends alike before and after it. -/
def Turn.Spares (t : Turn) (id : Nat) (w : World) : Prop :=
  t.calls w = [] ∧ Beside id w (t.take w) ∧
    ∀ j size stream, j ≠ id → (∀ cls, stream ≠ .handle id cls) →
      let allocate := (Operation.allocateFromPool j size stream).perform
      (allocate.outcome (t.take w)).1 = (allocate.outcome w).1 ∧
        Beside id (allocate.outcome w).2 (allocate.outcome (t.take w)).2

theorem Turn.spares {t : Turn} {w : World} {id : Nat}
    (direct : w.library = some .direct) (subject : t.subject = some id)
    (borrowed : (w.resource id).owned = .truth false) : t.Spares id w := by
  have beside := Turn.take_borrowed direct subject borrowed
  refine ⟨?_, beside, fun j size stream pool other => ?_⟩
  · unfold calls
    rw [beside.trace, List.drop_length]
    rfl
  · exact World.Beside.allocateFromPool pool other w (t.take w) beside

/-- **Default pools stay the runtime's**, in a session of any turns over the machine itself:

* a question for the default pool of a device that succeeds returns a new wrapper, which is
  borrowed, and the handles that the machine keeps for devices are those of the answers;
* no release call gets such a handle;
* two whole numbers get one handle exactly if they are equal, and so do numbers of any kind if
  all those that were asked for can be keys;
* such a handle is never that of a pool, a stream or an allocation, and no owning resource has it;
* a turn that is to release a borrowed wrapper makes no call, every other resource stays as it is,
  and an allocation from any other pool ends as it would have. -/
theorem default_pools_borrowed (host : Host) (m : Machine) (ts : List Turn) :
    let w := World.opening host m .direct
    let last := w.after ts
    (∀ before op own rest device v, ts = before ++ .operate op own :: rest →
      op.poolAsked? = some device → (op.perform.outcome (w.after before)).1 = .ok v →
        ∃ id h, v = .handle id .pool ∧ (device, h) ∈ poolAnswers w ts ∧
          (w.after (before ++ [.operate op own])).resource id = .borrowing (.pool (some h) none)) ∧
    (∀ h, h ∈ last.machine.defaultPools.map Prod.snd ↔ h ∈ (poolAnswers w ts).map Prod.snd) ∧
    (∀ e ∈ calls last.trace, e.1.entryPoint.releases →
      ∀ p ∈ poolAnswers w ts, p.2 ∉ e.1.handles) ∧
    (∀ j k a b, (.int j, a) ∈ poolAnswers w ts → (.int k, b) ∈ poolAnswers w ts →
      (a = b ↔ j = k)) ∧
    ((∀ p ∈ poolAnswers w ts, p.1.Regular) → ∀ p ∈ poolAnswers w ts, ∀ q ∈ poolAnswers w ts,
      (p.2 = q.2 ↔ p.1.SameNumber q.1)) ∧
    (∀ before rest, ts = before ++ rest → ∀ p ∈ poolAnswers w ts,
      ∀ cls, p.2 ∉ (w.after before).machine.tables.keys cls) ∧
    (∀ p ∈ poolAnswers w ts, ∀ r ∈ last.resources, r.owned = .truth true →
      r.payload.address ≠ some p.2) ∧
    (∀ before t rest id, ts = before ++ t :: rest → t.subject = some id →
      ((w.after before).resource id).owned = .truth false → t.Spares id (w.after before)) := by
  intro w last
  have start : Orderly w := orderly_opening host m .direct
  have direct (ts : List Turn) : (w.after ts).library = some .direct :=
    World.direct_after start rfl ts
  have lending (ts : List Turn) : Lending (w.after ts).machine.tables :=
    World.lending_after start (lending_opening host m .direct) ts
  obtain ⟨kept, known⟩ := World.answers_after start rfl ts
  have answered (e : Value × Nat) (he : e ∈ last.machine.defaultPools) : e ∈ poolAnswers w ts :=
    (known e he).resolve_left List.not_mem_nil
  have entry (p : Value × Nat) (hp : p ∈ poolAnswers w ts) :
      ∃ e ∈ last.machine.defaultPools, e.2 = p.2 := by
    obtain ⟨e, he, handle, _⟩ := (kept p hp).entry
    exact ⟨e, he, handle⟩
  refine ⟨?_, ?_, ?_, ?_, ?_, ?_, ?_, ?_⟩
  · rintro before op own rest device v rfl asked success
    obtain ⟨⟨f, failed⟩, _⟩ | ⟨h, ended, resources, answer, _⟩ :=
      Turn.question_cases own (direct before) asked
    · cases failed.symm.trans success
    · refine ⟨_, h, Except.ok.inj (success.symm.trans ended), ?_, ?_⟩
      · rw [poolAnswers_append, poolAnswers, answer]
        exact List.mem_append_right _ (.head _)
      · refine World.resource_of_getElem? ?_
        rw [World.after_append, World.after_cons, World.after_nil, resources]
        simp
  · intro h
    rw [List.mem_map, List.mem_map]
    constructor
    · rintro ⟨e, he, rfl⟩
      exact ⟨e, answered e he, rfl⟩
    · rintro ⟨p, hp, rfl⟩
      exact entry p hp
  · intro e he release p hp
    obtain ⟨before, t, rest, rfl, made⟩ := World.exists_turn start he
    obtain ⟨q, hq, handle⟩ := entry p hp
    rw [show last = _ from World.after_append w before (t :: rest)] at hq
    rw [← handle]
    exact Turn.release_not_lent (World.orderly_after start before) made release (t :: rest) q hq
  · intro j k a b first second
    exact (lending ts).same_device_iff (kept _ first) (kept _ second)
  · intro regular p hp q hq
    exact (lending ts).same_number_iff (fun e he => regular e (answered e he)) (kept p hp)
      (kept q hq) (regular p hp) (regular q hq)
  · rintro before rest rfl p hp cls
    obtain ⟨e, he, handle⟩ := entry p hp
    rw [show last = _ from World.after_append w before rest] at he
    rw [← handle]
    exact World.lent_foreign (World.orderly_after start before) (lending before) rest e he cls
  · intro p hp r hr owned address
    obtain ⟨e, he, handle⟩ := entry p hp
    exact (World.orderly_after start ts).apart.kept r hr owned _ address e he handle
  · rintro before t rest id rfl subject borrowed
    exact Turn.spares (direct before) subject borrowed

/-- Two wrappers of one default pool, and two of another, whose device is asked for as a number and
as a truth value; the block of one wrapper ends, and the last name of one goes. -/
def sharedPools : List Turn :=
  [.operate (.ask (.int 0) .defaultPool) rfl, .operate (.defaultPool (.device (.int 0))) rfl,
    .operate (.ask (.int 1) .defaultPool) rfl, .operate (.ask (.truth true) .defaultPool) rfl,
    .operate (.allocate (.int 64)) rfl, .operate (.leave 1 none) rfl, .drop 2]

theorem poolAnswers_sharedPools : poolAnswers (.opening .bare .fresh .direct) sharedPools =
    [(.int 0, 0x7f0000001000), (.int 0, 0x7f0000001000), (.int 1, 0x7f0000003000),
      (.truth true, 0x7f0000003000)] := rfl

theorem default_pools_borrowed_shared :
    let w := World.opening .bare .fresh .direct
    (∀ p ∈ poolAnswers w sharedPools, ∀ q ∈ poolAnswers w sharedPools,
      (p.2 = q.2 ↔ p.1.SameNumber q.1)) ∧
    (∃ id h, Value.handle 1 .pool = .handle id .pool ∧ (.int 0, h) ∈ poolAnswers w sharedPools ∧
      (w.after (sharedPools.take 2)).resource id = .borrowing (.pool (some h) none)) ∧
    Turn.Spares (.operate (.leave 1 none) rfl) 1 (w.after (sharedPools.take 5)) ∧
    Turn.Spares (.drop 2) 2 (w.after (sharedPools.take 6)) := by
  intro w
  obtain ⟨wrapper, _, _, _, same, _, _, spared⟩ := default_pools_borrowed .bare .fresh sharedPools
  refine ⟨same ?_, ?_, ?_, ?_⟩
  · rw [poolAnswers_sharedPools]
    have truth : (Value.truth true).Regular := by
      intro x hx
      cases hx
      exact ⟨trivial, by decide⟩
    simp [Value.regular_int, truth]
  · exact wrapper (sharedPools.take 1) _ _ (sharedPools.drop 2) (.int 0) _ rfl rfl rfl
  · exact spared (sharedPools.take 5) _ (sharedPools.drop 6) 1 rfl rfl rfl
  · exact spared (sharedPools.take 6) _ [] 2 rfl rfl rfl

end GpuHandles
