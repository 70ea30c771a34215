import GpuHandles.Proofs.Apart
import GpuHandles.Proofs.FailedOperation
import GpuHandles.Proofs.NumberKeys
import Mathlib.Data.List.Pairwise
/-!
The default pools of devices.

A question for the default pool of a device is refused, or finds the handle of an earlier
question, or lends the next handle (`Machine.Lends`).  The counter moves on at each question that
is not refused, and only the first handle of a device stays.

* `Lending` is the invariant of the tables: the handles that were lent rise, no two entries have
  the same key, and no handle that was lent is one of a pool, a stream or an allocation.  Every
  call keeps it (`Lending.call`).
* `poolAnswers w ts` are the answers to the questions of a session, and `Machine.Answers` says
  what the machine keeps of each of them (`answers_after`).
* So a whole number gets one handle in a session, and different ones get different handles
  (`Lending.same_device_iff`).
-/

namespace GpuHandles

/-! ## Questions -/

namespace Machine

variable {m m' : Machine} {c : NativeCall} {device : Value} {reply : Reply}

/-- What a question for the default pool of a device does. -/
inductive Lends (m : Machine) (device : Value) : Reply → Machine → Prop
  | refused {reply : Reply} {m' : Machine} (failed : reply.succeeded = false)
      (same : m'.defaultPools = m.defaultPools) : Lends m device reply m'
  /-- the handle of an earlier question -/
  | found {h : Nat} {m' : Machine} (number : device.number?.isSome)
      (known : m.defaultPoolOf? device = some h) (same : m'.defaultPools = m.defaultPools) :
      Lends m device (.code 0 (.address (some h))) m'
  /-- the next handle -/
  | added {m' : Machine} (number : device.number?.isSome)
      (new : m.defaultPoolOf? device = none)
      (grown : m'.defaultPools = m.defaultPools ++ [(device, m.nextHandle)]) :
      Lends m device (.code 0 (.address (some m.nextHandle))) m'

/-- What is there as a device and can be a key is a number. -/
theorem number_of_hasDevice (known : m.hasDevice device = .ok true)
    (key : device.unhashable? = none) : device.number?.isSome := by
  obtain ⟨least, compared, -⟩ := bind_ok known
  cases device with
  | array => cases key
  | truth | int | float | scalar => rfl
  | member e constant =>
    obtain ⟨s, n | word⟩ := constant
    · by_cases numeric : e.isNumeric = true
      · rw [Value.number?_member numeric]
        rfl
      · simp [Value.compare, Value.compareItem, Value.quantity?, Value.number?, numeric]
          at compared
    · cases compared
  | _ => cases compared

theorem defaultPool_lends (m : Machine) (device : Value) :
    Lends m device (m.defaultPool device).1 (m.defaultPool device).2 := by
  unfold defaultPool onDevice after
  split
  next known there =>
    cases known with
    | false => exact .refused rfl rfl
    | true =>
      dsimp only
      rw [if_pos rfl]
      split
      next => exact .refused rfl rfl
      next key =>
        have number := number_of_hasDevice there key
        split
        next h found => exact .found number found rfl
        next new => exact .added number new rfl
  next => exact .refused rfl rfl

/-- The codes that are set up are no part of the default pools. -/
theorem Lends.ofSpend {es : List EntryPoint} (h : Lends (m.spend es) device reply m') :
    Lends m device reply m' := by
  cases h with
  | refused failed same => exact .refused failed same
  | found number known same => exact .found number known same
  | added number new grown => exact .added number new grown

theorem call_lends (m : Machine) (device : Value) :
    Lends m device (m.call (.defaultPool device)).1 (m.call (.defaultPool device)).2 := by
  by_cases h : m.injected .defaultPool = 0
  · rw [call_of_none (c := .defaultPool device) h]
    exact (defaultPool_lends (m.spend [.defaultPool]) device).ofSpend
  · rw [call_of_injected (c := .defaultPool device) h]
    exact .refused (beq_false_of_ne h) rfl

theorem Lends.reply_cases (h : Lends m device reply m') :
    reply.succeeded = false ∧ m'.defaultPools = m.defaultPools ∨
      ∃ a, reply = .code 0 (.address (some a)) := by
  cases h with
  | refused failed same => exact .inl ⟨failed, same⟩
  | found => exact .inr ⟨_, rfl⟩
  | added => exact .inr ⟨_, rfl⟩

/-- A question gives the handle of an entry, and it leaves the other entries as they are. -/
theorem Lends.cases (h : Lends m device reply m') : m'.defaultPools = m.defaultPools ∨
    device.number?.isSome ∧ m.defaultPoolOf? device = none ∧
      m'.defaultPools = m.defaultPools ++ [(device, m.nextHandle)] := by
  cases h with
  | refused _ same => exact .inl same
  | found _ _ same => exact .inl same
  | added number new grown => exact .inr ⟨number, new, grown⟩

/-- Any other call leaves the default pools alone. -/
theorem Change.keeps_pools (h : Change m c reply m') (other : c.entryPoint ≠ .defaultPool) :
    m'.defaultPools = m.defaultPools := by
  show m'.tables.lent = m.tables.lent
  cases h with
  | kept same => rw [same]
  | overwrote _ _ same => rw [same]
  | issued _ _ same => rw [same, Tables.lent_issue]
  | taken _ same => rw [same]
  | lent entry => exact absurd entry other
  | dropped _ same => rw [same, Tables.lent_drop]

/-- What a call does to the default pools. -/
theorem call_pools (m : Machine) (c : NativeCall) : (m.call c).2.defaultPools = m.defaultPools ∨
    ∃ device, device.number?.isSome ∧ m.defaultPoolOf? device = none ∧
      (m.call c).2.defaultPools = m.defaultPools ++ [(device, m.nextHandle)] := by
  by_cases question : c.entryPoint = .defaultPool
  · cases c with
    | defaultPool device => exact (call_lends m device).cases.imp_right fun added => ⟨device, added⟩
    | _ => cases question
  · exact .inl ((call_change m c).keeps_pools question)

theorem pools_grow (m : Machine) (c : NativeCall) :
    m.defaultPools <+: (m.call c).2.defaultPools := by
  obtain same | ⟨_, _, _, grown⟩ := m.call_pools c
  · exact same ▸ List.prefix_rfl
  · rw [grown]
    exact List.prefix_append _ _

theorem defaultPoolOf?_grown (grown : m.defaultPools <+: m'.defaultPools) {h : Nat}
    (found : m.defaultPoolOf? device = some h) : m'.defaultPoolOf? device = some h := by
  obtain ⟨more, same⟩ := grown
  obtain ⟨e, first, rfl⟩ := Option.map_eq_some_iff.1 found
  rw [defaultPoolOf?, ← same, List.find?_append, first]
  rfl

theorem defaultPoolOf?_none (new : m.defaultPoolOf? device = none) :
    ∀ e ∈ m.defaultPools, e.1.sameKey device = false := by
  simpa [defaultPoolOf?] using new

/-! ## Answers -/

/-- What the machine keeps of an answer: an entry with the handle for the device, or for one with
the same key.  A device that has its own key is given the handle again. -/
structure Answers (m : Machine) (p : Value × Nat) : Prop where
  number : p.1.number?.isSome
  entry : ∃ e ∈ m.defaultPools, e.2 = p.2 ∧ (e.1 = p.1 ∨ e.1.sameKey p.1 = true)
  again : p.1.sameKey p.1 = true → m.defaultPoolOf? p.1 = some p.2

theorem Answers.grown {p : Value × Nat} (h : m.Answers p)
    (grown : m.defaultPools <+: m'.defaultPools) : m'.Answers p where
  number := h.number
  entry := by
    obtain ⟨e, he, same⟩ := h.entry
    exact ⟨e, grown.subset he, same⟩
  again itself := defaultPoolOf?_grown grown (h.again itself)

/-- **A question that succeeds** is answered for good. -/
theorem Lends.answers {h : Nat} (lends : Lends m device (.code 0 (.address (some h))) m') :
    m'.Answers (device, h) := by
  cases lends with
  | refused failed => cases failed
  | found number known same =>
    have known' : m'.defaultPoolOf? device = some h := by
      rw [defaultPoolOf?, same]
      exact known
    obtain ⟨e, first, rfl⟩ := Option.map_eq_some_iff.1 known'
    have key : e.1.sameKey device = true := by simpa using List.find?_some first
    exact ⟨number, ⟨e, List.mem_of_find?_eq_some first, rfl, .inr key⟩, fun _ => known'⟩
  | added number new grown =>
    refine ⟨number, ⟨(device, m.nextHandle), ?_, rfl, .inl rfl⟩, fun itself => ?_⟩
    · rw [grown]
      exact List.mem_append_right _ (List.mem_singleton_self _)
    · have old : (m.defaultPools.find? fun e => e.1.sameKey device) = none :=
        Option.map_eq_none_iff.1 new
      rw [defaultPoolOf?, grown, List.find?_append, old]
      simp [itself]

/-- The only entry that a question adds is its answer. -/
theorem Lends.entries {h : Nat} (lends : Lends m device (.code 0 (.address (some h))) m') :
    ∀ e ∈ m'.defaultPools, e ∈ m.defaultPools ∨ e = (device, h) := by
  intro e he
  cases lends with
  | refused failed => cases failed
  | found _ _ same => exact .inl (same ▸ he)
  | added _ _ grown =>
    rw [grown] at he
    exact (List.mem_append.1 he).imp_right List.mem_singleton.1

end Machine

/-! ## The tables -/

/-- The handles that were lent rise, no two entries have the same key, and no such handle is one
of a pool, a stream or an allocation. -/
structure Lending (t : Tables) : Prop where
  rising : t.lent.Pairwise fun e e' => e.2 < e'.2
  distinct : t.lent.Pairwise fun e e' => e.1.sameKey e'.1 = false
  number : ∀ e ∈ t.lent, e.1.number?.isSome
  reached : ∀ e ∈ t.lent, e.2 ≤ t.lastHandle
  counted : ∀ cls, ∀ k ∈ t.keys cls, k ≤ t.lastHandle
  foreign : ∀ e ∈ t.lent, ∀ cls, e.2 ∉ t.keys cls

/-- A call makes no handle of a pool, a stream or an allocation, or it lends none. -/
theorem Machine.Change.keys_cases {m m' : Machine} {c : NativeCall} {reply : Reply}
    (h : Change m c reply m') :
    (∀ cls, ∀ k ∈ m'.tables.keys cls, k ∈ m.tables.keys cls) ∨
      m'.tables.lent = m.tables.lent ∧
        ∀ cls, ∀ k ∈ m'.tables.keys cls, k ∈ m.tables.keys cls ∨ k = m.tables.next := by
  cases h with
  | kept same =>
    rw [same]
    exact .inl fun _ _ hk => hk
  | overwrote _ _ same =>
    rw [same]
    exact .inl fun _ _ hk => Tables.mem_keys_set.1 hk
  | issued entry _ same =>
    rw [same, Tables.lent_issue]
    refine .inr ⟨rfl, fun _ _ hk => ?_⟩
    exact ((Tables.mem_keys_issue (EntryPoint.makes_real entry)).1 hk).imp_right And.right
  | taken _ same | lent _ same =>
    rw [same]
    exact .inl fun _ _ hk => hk
  | dropped _ same =>
    rw [same]
    exact .inl fun _ _ hk => (Tables.mem_keys_drop.1 hk).1

namespace Lending

variable {m : Machine} {p q : Value × Nat}

theorem nil {t : Tables} (lent : t.lent = []) (counted : ∀ cls, t.keys cls = []) : Lending t where
  rising := by simp [lent]
  distinct := by simp [lent]
  number := by simp [lent]
  reached := by simp [lent]
  counted := by simp [counted]
  foreign := by simp [lent]

/-- **Every call keeps the invariant.** -/
theorem call (h : Lending m.tables) (c : NativeCall) : Lending (m.call c).2.tables := by
  have change := Machine.call_change m c
  have counter := change.counter
  obtain ⟨rising, distinct, number⟩ : (m.call c).2.defaultPools.Pairwise (fun e e' => e.2 < e'.2) ∧
      (m.call c).2.defaultPools.Pairwise (fun e e' => e.1.sameKey e'.1 = false) ∧
      ∀ e ∈ (m.call c).2.defaultPools, e.1.number?.isSome := by
    obtain same | ⟨device, number, new, grown⟩ := m.call_pools c
    · rw [same]
      exact ⟨h.rising, h.distinct, h.number⟩
    · rw [grown]
      refine ⟨List.pairwise_append.2 ⟨h.rising, List.pairwise_singleton _ _, ?_⟩,
        List.pairwise_append.2 ⟨h.distinct, List.pairwise_singleton _ _, ?_⟩, ?_⟩
      · intro e he e' he'
        rw [List.mem_singleton.1 he']
        exact Nat.lt_of_le_of_lt (h.reached e he) (Nat.lt_add_of_pos_right (by decide))
      · intro e he e' he'
        rw [List.mem_singleton.1 he']
        exact Machine.defaultPoolOf?_none new e he
      · intro e he
        rcases List.mem_append.1 he with old | last
        · exact h.number e old
        · rw [List.mem_singleton.1 last]
          exact number
  refine ⟨rising, distinct, number, ?_, fun cls => change.counted cls (h.counted cls), ?_⟩
  · intro e he
    rcases counter.2 e he with old | ⟨_, reached⟩
    · exact Nat.le_trans (h.reached e old) counter.1
    · exact reached
  · intro e he cls key
    obtain kept | ⟨same, kept⟩ := change.keys_cases
    · rcases counter.2 e he with old | ⟨ahead, _⟩
      · exact h.foreign e old cls (kept cls _ key)
      · exact Nat.not_lt.2 (h.counted cls _ (kept cls _ key)) ahead
    · rw [same] at he
      rcases kept cls _ key with old | next
      · exact h.foreign e he cls old
      · have := h.reached e he
        rw [next] at this
        simp only [Tables.next] at this
        omega

/-- A handle was lent once. -/
theorem eq_of_handle (h : Lending m.tables) {e e' : Value × Nat} (he : e ∈ m.defaultPools)
    (he' : e' ∈ m.defaultPools) (same : e.2 = e'.2) : e = e' := by
  have : Std.Symm fun e e' : Value × Nat => e.2 ≠ e'.2 := ⟨fun _ _ ne => ne.symm⟩
  have apart : m.defaultPools.Pairwise fun e e' => e.2 ≠ e'.2 := h.rising.imp Nat.ne_of_lt
  by_contra other
  exact apart.forall he he' other same

/-- So was a key. -/
theorem eq_of_key (h : Lending m.tables) {e e' : Value × Nat} (he : e ∈ m.defaultPools)
    (he' : e' ∈ m.defaultPools) (same : e.1.sameKey e'.1 = true)
    (back : e'.1.sameKey e.1 = true) : e = e' := by
  have : Std.Symm fun e e' : Value × Nat => ¬(e.1.sameKey e'.1 = true ∧ e'.1.sameKey e.1 = true) :=
    ⟨fun _ _ ne both => ne both.symm⟩
  have apart : m.defaultPools.Pairwise fun e e' =>
      ¬(e.1.sameKey e'.1 = true ∧ e'.1.sameKey e.1 = true) := by
    refine h.distinct.imp ?_
    rintro e e' other ⟨key, _⟩
    exact Bool.false_ne_true (other.symm.trans key)
  by_contra other
  exact apart.forall he he' other ⟨same, back⟩

/-- The entry of an answer is for the same device, or for the same number. -/
theorem entry_device (h : Lending m.tables) (answered : m.Answers p) :
    ∃ e ∈ m.defaultPools, e.2 = p.2 ∧ (e.1 = p.1 ∨ e.1.SameNumber p.1) := by
  obtain ⟨e, he, handle, device⟩ := answered.entry
  exact ⟨e, he, handle, device.imp_right (.of_sameKey (h.number e he) answered.number)⟩

/-- Answers with one handle are for one device. -/
theorem device_of_handle (h : Lending m.tables) (first : m.Answers p) (second : m.Answers q)
    (same : p.2 = q.2) : p.1 = q.1 ∨ p.1.SameNumber q.1 := by
  obtain ⟨e, he, handle, device | number⟩ := h.entry_device first <;>
    obtain ⟨e', he', handle', device' | number'⟩ := h.entry_device second <;>
    cases h.eq_of_handle he he' (handle.trans (same.trans handle'.symm))
  · exact .inl (device.symm.trans device')
  · exact .inr (device ▸ number')
  · exact .inr (device' ▸ number.symm)
  · exact .inr (number.symm.trans number')

/-- **One handle for each whole number**, and different ones for different numbers. -/
theorem same_device_iff (h : Lending m.tables) {j k : Int} {a b : Nat}
    (first : m.Answers (.int j, a)) (second : m.Answers (.int k, b)) : a = b ↔ j = k := by
  constructor
  · intro same
    obtain device | number := h.device_of_handle first second same
    · exact Value.int.inj device
    · exact (Value.sameNumber_int j k).1 number
  · rintro rfl
    have regular := Value.regular_int j
    have itself := regular.sameKey regular (regular.sameNumber_self rfl)
    exact Option.some.inj ((first.again itself).symm.trans (second.again itself))

/-- The same for numbers of any kind, if all of them can be keys. -/
theorem same_number_iff (h : Lending m.tables) (regular : ∀ e ∈ m.defaultPools, e.1.Regular)
    (first : m.Answers p) (second : m.Answers q) (hp : p.1.Regular) (hq : q.1.Regular) :
    p.2 = q.2 ↔ p.1.SameNumber q.1 := by
  constructor
  · intro same
    obtain device | number := h.device_of_handle first second same
    · exact device ▸ hp.sameNumber_self first.number
    · exact number
  · intro same
    have entry {p : Value × Nat} (answered : m.Answers p) (hp : p.1.Regular) :
        ∃ e ∈ m.defaultPools, e.2 = p.2 ∧ e.1.SameNumber p.1 := by
      obtain ⟨e, he, handle, device | number⟩ := h.entry_device answered
      · exact ⟨e, he, handle, device ▸ hp.sameNumber_self answered.number⟩
      · exact ⟨e, he, handle, number⟩
    obtain ⟨e, he, handle, number⟩ := entry first hp
    obtain ⟨e', he', handle', number'⟩ := entry second hq
    have forth := (number.trans same).trans number'.symm
    cases h.eq_of_key he he' ((regular e he).sameKey (regular e' he') forth)
      ((regular e' he').sameKey (regular e he) forth.symm)
    exact handle.symm.trans handle'

end Lending

/-! ## Operations -/

theorem Pool.defaultFor_error {device : Value} {f : Fault} (given : deviceId device = .error f)
    (w : World) : (defaultFor device).outcome w = (.error f, w) := by
  unfold defaultFor
  rw [given]
  rfl

/-- **A question for the default pool of a device**, asked of the machine itself.  It fails, or it
returns a new wrapper, which is borrowed, of the pool that was lent. -/
theorem Pool.defaultOf_lends {w : World} (direct : w.library = some .direct) (device : Value) :
    let out := (defaultOf device).outcome w
    (∃ f, out.1 = .error f) ∧ out.2.machine.defaultPools = w.machine.defaultPools ∨
      ∃ h, Machine.Lends w.machine device (.code 0 (.address (some h))) out.2.machine ∧
        out.1 = .ok (.handle w.resources.length .pool) ∧
        out.2.resources = w.resources ++ [.borrowing (.pool (some h) none)] := by
  have asked := Loading.request_direct direct (.defaultPool device)
  have lends := w.machine.call_lends device
  unfold defaultOf
  by_cases absent : w.machine.missing.contains (NativeCall.defaultPool device).entryPoint.name
  · rw [if_pos absent] at asked
    rw [Action.outcome_bind_error asked]
    exact .inl ⟨⟨_, rfl⟩, rfl⟩
  · rw [if_neg absent] at asked
    generalize (w.machine.call (.defaultPool device)).1 = reply at asked lends
    generalize (w.machine.call (.defaultPool device)).2 = m at asked lends
    obtain ⟨failed, same⟩ | ⟨h, rfl⟩ := lends.reply_cases
    · obtain ⟨f, ended⟩ := Loading.checked_failed failed
      rw [ended] at asked
      rw [Action.outcome_bind_error asked]
      exact .inl ⟨⟨f, rfl⟩, same⟩
    · rw [Action.outcome_bind_ok asked]
      exact .inr ⟨h, lends, rfl, rfl⟩

namespace Operation

variable {op : Operation}

/-- The number of the device that an operation asks the default pool of. -/
def poolAsked? : Operation → Option Value
  | ask device .defaultPool => some device
  | defaultPool device => (Pool.deviceId device).toOption
  | _ => none

theorem perform_of_poolAsked {device : Value} (asked : op.poolAsked? = some device) (w : World) :
    op.perform.outcome w = (Pool.defaultOf device).outcome w := by
  cases op with
  | ask d question =>
    cases question with
    | defaultPool =>
      cases asked
      rfl
    | _ => cases asked
  | defaultPool d =>
    change (Pool.deviceId d).toOption = some device at asked
    cases given : Pool.deviceId d with
    | error f =>
      rw [given] at asked
      cases asked
    | ok id =>
      rw [given] at asked
      cases asked
      show (Pool.defaultFor d).outcome w = _
      unfold Pool.defaultFor
      rw [given]
      rfl
  | _ => cases asked

/-- An operation that may ask for a default pool asks, or it is given what is no device. -/
theorem poolAsked_of_entry (entry : EntryPoint.defaultPool ∈ op.entries) :
    (∃ device, op.poolAsked? = some device) ∨
      ∃ f, ∀ w, op.perform.outcome w = (.error f, w) := by
  cases op with
  | ask device question =>
    cases question with
    | defaultPool => exact .inl ⟨device, rfl⟩
    | _ => cases List.mem_singleton.1 entry
  | defaultPool device =>
    cases given : Pool.deviceId device with
    | ok id =>
      refine .inl ⟨id, ?_⟩
      rw [poolAsked?, given]
      rfl
    | error f => exact .inr ⟨f, Pool.defaultFor_error given⟩
  | selectDevice => simp [entries] at entry
  | free | wrap | readHandle | readAddress | release | enter | leave | finalize => cases entry
  | _ => cases List.mem_singleton.1 entry

/-- An operation that asks for no default pool leaves them alone. -/
theorem keeps_pools {w : World} (orderly : Orderly w) (own : op.isWrap = false)
    (other : op.poolAsked? = none) :
    (op.perform.outcome w).2.machine.defaultPools = w.machine.defaultPools := by
  by_cases entry : EntryPoint.defaultPool ∈ op.entries
  · obtain ⟨device, asked⟩ | ⟨f, ended⟩ := poolAsked_of_entry entry
    · cases other.symm.trans asked
    · rw [ended]
  · obtain ⟨l, installed⟩ := Option.isSome_iff_exists.1 orderly.installed
    refine (op.perform_effect installed orderly.apart.native own).keeps_calls
      (P := fun m => m.defaultPools = w.machine.defaultPools) ?_ rfl
    intro m c allowed same
    refine ((Machine.call_change m c).keeps_pools ?_).trans same
    rintro question
    rcases allowed with mem | releases
    · exact entry (question ▸ mem)
    · rw [question] at releases
      cases releases

end Operation

/-! ## Sessions -/

/-- The device that a turn asks the default pool of, and the handle behind the wrapper that it
returns. -/
def Turn.poolAnswer? : Turn → World → Option (Value × Nat)
  | operate op _, w =>
    match op.poolAsked?, op.perform.outcome w with
    | some device, (.ok (.handle id _), w') =>
      (w'.resource id).payload.address.map fun h => (device, h)
    | _, _ => none
  | _, _ => none

/-- The answers to the questions of a session for default pools. -/
def poolAnswers : World → List Turn → List (Value × Nat)
  | _, [] => []
  | w, t :: ts => (t.poolAnswer? w).toList ++ poolAnswers (t.take w) ts

theorem poolAnswers_append (w : World) (ts us : List Turn) :
    poolAnswers w (ts ++ us) = poolAnswers w ts ++ poolAnswers (w.after ts) us := by
  induction ts generalizing w with
  | nil => rfl
  | cons t ts ih =>
    show _ ++ poolAnswers (t.take w) (ts ++ us) = (_ ++ poolAnswers (t.take w) ts) ++ _
    rw [ih, List.append_assoc]
    rfl

namespace Turn

variable {w : World}

/-- **A turn that asks for a default pool** fails, or it returns a new wrapper, which is borrowed,
of the pool that was lent. -/
theorem question_cases {op : Operation} {device : Value} (own : op.isWrap = false)
    (direct : w.library = some .direct) (asked : op.poolAsked? = some device) :
    let out := op.perform.outcome w
    let t := operate op own
    (∃ f, out.1 = .error f) ∧ t.poolAnswer? w = none ∧
        (t.take w).machine.defaultPools = w.machine.defaultPools ∨
      ∃ h, out.1 = .ok (.handle w.resources.length .pool) ∧
        (t.take w).resources = w.resources ++ [.borrowing (.pool (some h) none)] ∧
        t.poolAnswer? w = some (device, h) ∧
        Machine.Lends w.machine device (.code 0 (.address (some h))) (t.take w).machine := by
  have lends := Pool.defaultOf_lends direct device
  rw [← Operation.perform_of_poolAsked asked] at lends
  unfold take poolAnswer?
  dsimp only
  rw [asked]
  generalize op.perform.outcome w = out at lends
  obtain ⟨result, w'⟩ := out
  obtain ⟨⟨f, rfl⟩, same⟩ | ⟨h, lends, rfl, resources⟩ := lends
  · exact .inl ⟨⟨f, rfl⟩, rfl, same⟩
  · refine .inr ⟨h, rfl, resources, ?_, lends⟩
    have new : w'.resource w.resources.length = .borrowing (.pool (some h) none) :=
      World.resource_of_getElem? (by rw [resources]; simp)
    dsimp only
    rw [new]
    rfl

/-- A turn answers a question for a default pool, or it leaves the default pools alone. -/
theorem pool_cases (t : Turn) (orderly : Orderly w) (direct : w.library = some .direct) :
    t.poolAnswer? w = none ∧ (t.take w).machine.defaultPools = w.machine.defaultPools ∨
      ∃ device h, t.poolAnswer? w = some (device, h) ∧
        Machine.Lends w.machine device (.code 0 (.address (some h))) (t.take w).machine := by
  cases t with
  | failNext => exact .inl ⟨rfl, rfl⟩
  | adjust setting => exact .inl ⟨rfl, congrArg Tables.lent (setting.tables_apply w.machine)⟩
  | operate op own =>
    cases asked : op.poolAsked? with
    | none =>
      refine .inl ⟨?_, op.keeps_pools orderly own asked⟩
      rw [poolAnswer?, asked]
    | some device =>
      obtain ⟨_, unanswered, same⟩ | ⟨h, _, _, answer, lends⟩ :=
        question_cases own direct asked
      · exact .inl ⟨unanswered, same⟩
      · exact .inr ⟨device, h, answer, lends⟩

end Turn

namespace World

variable {w : World}

theorem pools_grow_after (orderly : Orderly w) (ts : List Turn) :
    w.machine.defaultPools <+: (w.after ts).machine.defaultPools :=
  keeps_after (P := fun tables => w.machine.defaultPools <+: tables.lent) orderly
    (fun m c grown => grown.trans (m.pools_grow c)) List.prefix_rfl ts

theorem lending_after (orderly : Orderly w) (h : Lending w.machine.tables) (ts : List Turn) :
    Lending (w.after ts).machine.tables :=
  keeps_after orderly (fun _ c lending => lending.call c) h ts

/-- **The machine keeps every answer** of a session, and its default pools are those that it has
answered with. -/
theorem answers_after (orderly : Orderly w) (direct : w.library = some .direct)
    (ts : List Turn) : (∀ p ∈ poolAnswers w ts, (w.after ts).machine.Answers p) ∧
      ∀ e ∈ (w.after ts).machine.defaultPools, e ∈ w.machine.defaultPools ∨
        e ∈ poolAnswers w ts := by
  induction ts generalizing w with
  | nil => exact ⟨nofun, fun e he => .inl he⟩
  | cons t ts ih =>
    obtain ⟨kept, known⟩ := ih (t.orderly orderly) (direct_after orderly direct [t])
    have grown := pools_grow_after (t.orderly orderly) ts
    unfold poolAnswers
    rw [after_cons]
    obtain ⟨unanswered, same⟩ | ⟨device, h, answer, lends⟩ := t.pool_cases orderly direct
    · rw [unanswered, ← same]
      exact ⟨kept, known⟩
    · rw [answer]
      constructor
      · intro p hp
        rcases List.mem_cons.1 hp with rfl | later
        · exact lends.answers.grown grown
        · exact kept p later
      · intro e he
        rcases known e he with old | later
        · rcases lends.entries e old with older | rfl
          · exact .inl older
          · exact .inr (.head _)
        · exact .inr (.tail _ later)

end World
end GpuHandles
