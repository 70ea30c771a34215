import GpuHandles.Proofs.FailedRelease
import GpuHandles.Proofs.Frame
import GpuHandles.Proofs.MemoryAccounts
import Mathlib.Data.List.Basic
/-!
Releases in any order.

A release that nothing is in the way of takes one handle out of the table of its class, and
which other handles are live makes no difference to it: memory may go before the stream or the
pool that it came from, or after (`Machine.call_without`).  So what some releases leave depends
on the resources that they are of and not on their order, nor on whether it was a call, the end
of a block or the end of a last name that released each (`release_order`).
-/

namespace GpuHandles

/-! ## Several keys erased -/

namespace Table

variable {κ α : Type} [DecidableEq κ]

theorem erase_comm (t : Table κ α) (j k : κ) : (t.erase j).erase k = (t.erase k).erase j := by
  simp only [erase, List.filter_filter, Bool.and_comm]

/-- All entries but those of some keys. -/
def eraseAll (t : Table κ α) (ks : List κ) : Table κ α := ks.foldl erase t

theorem eraseAll_append (t : Table κ α) (js ks : List κ) :
    t.eraseAll (js ++ ks) = (t.eraseAll js).eraseAll ks := List.foldl_append

theorem eraseAll_perm {js ks : List κ} (same : js.Perm ks) (t : Table κ α) :
    t.eraseAll js = t.eraseAll ks :=
  same.foldl_eq' (fun j _ k _ t => t.erase_comm j k) t

end Table

/-! ## What releases take from the machine -/

namespace Resource

/-- Is a resource to be released by a native call? -/
def owning? (r : Resource) : Bool :=
  match r.owned with
  | .truth b => b
  | _ => false

/-- The native call that the release of a resource makes. -/
def releaseCall? (r : Resource) : Option NativeCall :=
  if r.owning? then r.payload.releaseCall? else none

/-- The call of a release that succeeds, with its code. -/
def cleanCall? (r : Resource) : Option (NativeCall × Int) := r.releaseCall?.map (·, 0)

/-- The handle of a class that is gone with the release of a resource. -/
def handle? (cls : HandleClass) (r : Resource) : Option Nat :=
  if r.owning? = true ∧ r.payload.cls = cls then r.payload.address else none

end Resource

namespace Machine

/-- The machine without what belongs to some resources, once each is released by its call. -/
def without (m : Machine) (rs : List Resource) : Machine :=
  { m with
    pending := m.pending.eraseAll
      (rs.filterMap fun r => r.releaseCall?.map NativeCall.entryPoint)
    allocations := m.allocations.eraseAll (rs.filterMap (Resource.handle? .pointer))
    streams := m.streams.eraseAll (rs.filterMap (Resource.handle? .stream))
    pools := m.pools.eraseAll (rs.filterMap (Resource.handle? .pool)) }

variable {m : Machine} {r : Resource}

theorem without_append (m : Machine) (rs ss : List Resource) :
    (m.without rs).without ss = m.without (rs ++ ss) := by
  simp only [without, List.filterMap_append, Table.eraseAll_append]

/-- **What is left does not depend on the order.** -/
theorem without_perm {rs ss : List Resource} (same : rs.Perm ss) : m.without rs = m.without ss := by
  simp only [without, Table.eraseAll_perm (same.filterMap _)]

/-- No code is set up by a release. -/
theorem injected_without {rs : List Resource} {e : EntryPoint} (quiet : m.injected e = 0) :
    (m.without rs).injected e = 0 := by
  show (m.spend (rs.filterMap fun r => r.releaseCall?.map NativeCall.entryPoint)).injected e = 0
  rw [injected_spend, quiet, ite_self]

/-- Nothing is taken away for a borrowed resource. -/
theorem without_borrowed (borrowed : r.owned = .truth false) : m.without [r] = m := by
  have kept : r.owning? = false := by rw [Resource.owning?, borrowed]
  simp [without, Resource.releaseCall?, Resource.handle?, kept, Table.eraseAll]

/-- **A release call** that no code is set up for succeeds, and takes the handle of its resource
out of the table of its class. -/
theorem call_without {c : NativeCall} (owned : r.owned = .truth true)
    (call : r.payload.releaseCall? = some c) (quiet : m.injected c.entryPoint = 0)
    (named : r.payload.cls ≠ .pointer → r.payload.address.isSome)
    (present : ∀ a, r.payload.address = some a → a ∈ m.tables.keys r.payload.cls) :
    m.call c = (.code 0 .nothing, m.without [r]) := by
  obtain ⟨payload, own, released⟩ := r
  cases owned
  rw [call_quiet quiet]
  cases payload with
  | plain v => cases call
  | pointer a n =>
    cases call
    cases a with
    | none => rfl
    | some a =>
      have has : m.allocations.has a = true := (Table.has_iff_mem_keys _ _).2 (present a rfl)
      exact if_pos has
  | stream a =>
    cases call
    obtain ⟨a, rfl⟩ := Option.isSome_iff_exists.1 (named nofun)
    have has : m.streams.has a = true := (Table.has_iff_mem_keys _ _).2 (present a rfl)
    exact if_pos has
  | pool a props =>
    cases call
    obtain ⟨a, rfl⟩ := Option.isSome_iff_exists.1 (named nofun)
    have has : m.pools.has a = true := (Table.has_iff_mem_keys _ _).2 (present a rfl)
    exact if_pos has

end Machine

/-! ## One release -/

namespace Operation

/-- The resource that an operation releases if nothing else is at stake: a call, the end of a
block that went well, or the end of a last name. -/
def clears : Operation → Option Nat
  | leave _ (some _) => none
  | op => op.subject

variable {op : Operation} {id : Nat}

theorem subject_of_clears (h : op.clears = some id) : op.subject = some id := by
  cases op with
  | leave k body =>
    cases body with
    | none => exact h
    | some f => cases h
  | _ => exact h

theorem spared_of_clears (h : op.clears = some id) : op.spared = .ok .null := by
  cases op with
  | leave k body =>
    cases body with
    | none => rfl
    | some f => cases h
  | _ => rfl

end Operation

/-- A world in which nothing is in the way of a release: the machine itself is the library, it
has the entry points of releases, and no failure is set up for them. -/
structure World.Unhindered (w : World) : Prop where
  direct : w.library = some .direct
  native : Agrees w.resources w.machine.tables fun _ => True
  there : ∀ e : EntryPoint, e.releases = true → w.machine.missing.contains e.name = false
  quiet : ∀ e : EntryPoint, e.releases = true → w.machine.injected e = 0

/-- What the release of a resource does where nothing is in its way. -/
structure World.Clears (w : World) (id : Nat) (run : Except Fault Value × World) : Prop where
  result : run.1 = .ok .null
  machine : run.2.machine = w.machine.without [w.resource id]
  resources : run.2.resources = w.resources.set id (w.resource id).retired
  /-- its call, if it makes one, succeeds, and the log has no error -/
  gains : ∃ es ls, w.Gains run.2 es ls ∧ errors ls = [] ∧
    calls es = (w.resource id).cleanCall?.toList

namespace World.Unhindered

variable {w : World} {op : Operation} {id : Nat}

theorem unmissed (h : w.Unhindered) {e : EntryPoint} (release : e.releases = true) :
    ¬ Loading.Absent w e := by
  unfold Loading.Absent
  rw [h.there e release]
  nofun

theorem unhindered (h : w.Unhindered) (active : (w.resource id).released = false) (g : Fault) :
    ¬Hindered w id g := by
  obtain ⟨real, own, owned⟩ :=
    h.native.apart.native _ (List.mem_of_getElem? (World.getElem?_of_active active))
  intro cause
  cases cause with
  | unclear truth =>
    rw [owned, World.countsAsTrue_truth] at truth
    cases truth
  | bare _ none =>
    obtain ⟨c, call, _⟩ := Payload.exists_releaseCall real
    rw [call] at none
    cases none
  | unloaded _ _ failed =>
    rw [Loading.library_outcome (w := w.ready id) h.direct] at failed
    cases failed
  | absent _ call _ _ missing => exact h.unmissed (Payload.releaseCall_releases call) missing

/-- The release of an active resource, before it is known which operation asked for it. -/
theorem released (h : w.Unhindered) (active : (w.resource id).released = false)
    {result : Except Fault Unit} {w' : World} (ends : ReleaseEnd w id result w') :
    result = .ok () ∧ w'.machine = w.machine.without [w.resource id] ∧
      ∃ es ls, w.Gains w' es ls ∧ errors ls = [] ∧
        calls es = (w.resource id).cleanCall?.toList := by
  have mem := List.mem_of_getElem? (World.getElem?_of_active active)
  obtain ⟨_, own, owned⟩ := h.native.apart.native _ mem
  cases ends with
  | hindered cause => exact absurd cause (h.unhindered active _)
  | kept borrowed =>
    rw [owned, World.countsAsTrue_truth] at borrowed
    cases borrowed
    refine ⟨rfl, (Machine.without_borrowed owned).symm, [], [], ⟨?_, ?_⟩, rfl, ?_⟩
    · exact (List.append_nil _).symm
    · exact (List.append_nil _).symm
    · simp [Resource.cleanCall?, Resource.releaseCall?, Resource.owning?, owned]
  | @called w₁ l c code out free truth call search installed reply =>
    rw [owned, World.countsAsTrue_truth] at truth
    cases truth
    have gone := Machine.call_without owned call (h.quiet _ (Payload.releaseCall_releases call))
      (h.native.named _ mem owned) (h.native.present _ mem owned active)
    rw [gone] at reply
    cases reply
    obtain ⟨es, ls, way, uncalled, fine⟩ := search.gains
    have ready : w.Gains (w.ready id) [] [w.releasing id] := ⟨(List.append_nil _).symm, rfl⟩
    have made : w₁.Gains { w₁ with
        machine := (w.machine.call c).2, trace := w₁.trace ++ [.call c 0] } [.call c 0] [] :=
      ⟨rfl, (List.append_nil _).symm⟩
    refine ⟨?_, congrArg Prod.snd gone, _, _, ready.trans (way.trans made), ?_, ?_⟩
    · cases l <;> rfl
    · rw [errors_append, errors_append, fine]
      rfl
    · simp [uncalled, Resource.cleanCall?, Resource.releaseCall?, Resource.owning?, owned, call]

/-- The operation that releases it ends as it does when nothing is wrong with the release. -/
theorem spares (h : w.Unhindered) (subject : op.subject = some id)
    (active : (w.resource id).released = false) : (op.perform.outcome w).1 = op.spared := by
  have ends := Ownership.release_ends active
  rcases released : (Ownership.release id).outcome w with ⟨result, w'⟩
  rw [released] at ends
  obtain ⟨rfl, _⟩ := h.released active ends
  rw [Operation.subject_ended subject active released]
  rfl

/-- The release of an active resource, by whatever operation. -/
theorem release (h : w.Unhindered) (clears : op.clears = some id)
    (active : (w.resource id).released = false) : w.Clears id (op.perform.outcome w) := by
  have ends := Ownership.release_ends active
  rcases released : (Ownership.release id).outcome w with ⟨result, w'⟩
  rw [released] at ends
  obtain ⟨rfl, machine, es, ls, way, fine, called⟩ := h.released active ends
  rw [Operation.subject_ended (Operation.subject_of_clears clears) active released]
  exact ⟨Operation.spared_of_clears clears, machine, ends.resources, es, ls,
    ⟨way.trace, (List.append_nil _).trans way.log⟩, fine, called⟩

end World.Unhindered

/-! ## Releases one after another -/

namespace Turn

/-- The resource that a turn releases if nothing else is at stake. -/
def clears : Turn → Option Nat
  | operate op _ => op.clears
  | _ => none

/-- What the operation of a turn ends with. -/
def result : Turn → World → Except Fault Value
  | operate op _, w => (op.perform.outcome w).1
  | _, _ => .ok .null

end Turn

/-- The resources after some of them have been released. -/
def retiredAt (ids : List Nat) (rs : List Resource) : List Resource :=
  rs.mapIdx fun id r => if id ∈ ids then r.retired else r

theorem getElem?_retiredAt (ids : List Nat) (rs : List Resource) (k : Nat) :
    (retiredAt ids rs)[k]? = rs[k]?.map fun r => if k ∈ ids then r.retired else r :=
  List.getElem?_mapIdx

theorem retiredAt_nil (rs : List Resource) : retiredAt [] rs = rs := by
  refine List.ext_getElem? fun k => ?_
  rw [getElem?_retiredAt]
  simp

theorem retiredAt_cons {rs : List Resource} {id : Nat} {r : Resource} (there : rs[id]? = some r)
    (ids : List Nat) : retiredAt ids (rs.set id r.retired) = retiredAt (id :: ids) rs := by
  refine List.ext_getElem? fun k => ?_
  rw [getElem?_retiredAt, getElem?_retiredAt]
  by_cases same : id = k
  · subst same
    obtain ⟨bound, _⟩ := List.getElem?_eq_some_iff.1 there
    rw [List.getElem?_set_self bound, there]
    simp [Resource.retired]
  · rw [List.getElem?_set_ne same]
    simp [Ne.symm same]

/-- The order in which resources are released makes no difference to them. -/
theorem retiredAt_perm {ids js : List Nat} (same : ids.Perm js) (rs : List Resource) :
    retiredAt ids rs = retiredAt js rs := by
  refine List.ext_getElem? fun k => ?_
  simp only [getElem?_retiredAt, same.mem_iff]

/-- What some turns leave that release the resources `ids` of a world, one each. -/
structure World.Cleared (w : World) (ids : List Nat) (ts : List Turn) : Prop where
  /-- no release fails -/
  results : ∀ before t rest, ts = before ++ t :: rest → t.result (w.after before) = .ok .null
  machine : (w.after ts).machine = w.machine.without (ids.map w.resource)
  resources : (w.after ts).resources = retiredAt ids w.resources
  /-- each release that is to make a call makes it once, and it succeeds -/
  gains : ∃ es ls, w.Gains (w.after ts) es ls ∧ errors ls = [] ∧
    (calls es).Perm (ids.filterMap fun id => (w.resource id).cleanCall?)

theorem World.Cleared.perm {w : World} {ids js : List Nat} {ts : List Turn} (h : w.Cleared ids ts)
    (same : ids.Perm js) : w.Cleared js ts where
  results := h.results
  machine := h.machine.trans (Machine.without_perm (same.map _))
  resources := h.resources.trans (retiredAt_perm same _)
  gains := by
    obtain ⟨es, ls, way, fine, called⟩ := h.gains
    exact ⟨es, ls, way, fine, called.trans (same.filterMap _)⟩

namespace World.Unhindered

variable {w : World}

/-- Nothing is in the way of the next release. -/
theorem next (h : w.Unhindered) {t : Turn} {m : Machine} (orderly : Orderly w)
    (after : (t.take w).machine = m) (spent : ∀ e, w.machine.injected e = 0 → m.injected e = 0) :
    (t.take w).Unhindered where
  direct := World.direct_after orderly h.direct [t]
  native := (h.native.take t orderly h.direct fun _ _ _ => trivial).mono fun _ _ _ _ _ => trivial
  there e release := by
    rw [t.missing orderly]
    exact h.there e release
  quiet e release := by
    rw [after]
    exact spent e (h.quiet e release)

/-- **One turn** that releases a resource. -/
theorem turn (h : w.Unhindered) {t : Turn} {id : Nat} (orderly : Orderly w)
    (clears : t.clears = some id) (active : (w.resource id).released = false) :
    w.Clears id (t.result w, t.take w) ∧ (t.take w).Unhindered := by
  cases t with
  | operate op own =>
    have step : w.Clears id (op.perform.outcome w) := h.release clears active
    exact ⟨step, h.next orderly step.machine fun e => Machine.injected_without⟩
  | failNext => cases clears
  | adjust => cases clears

/-- **Releases one after another.** -/
theorem cleared {ids : List Nat} {ts : List Turn} (h : w.Unhindered) (orderly : Orderly w)
    (clears : ts.map Turn.clears = ids.map some) (apart : ids.Nodup)
    (active : ∀ id ∈ ids, (w.resource id).released = false) : w.Cleared ids ts := by
  induction ts generalizing w ids with
  | nil =>
    obtain rfl : ids = [] := List.map_eq_nil_iff.1 clears.symm
    refine ⟨?_, rfl, (retiredAt_nil _).symm, [], [], .refl w, rfl, .nil⟩
    intro before t rest split
    cases before <;> cases split
  | cons t ts ih =>
    cases ids with
    | nil => cases clears
    | cons id ids =>
      obtain ⟨first, rest⟩ := List.cons.inj clears
      obtain ⟨new, apart⟩ := List.nodup_cons.1 apart
      obtain ⟨step, next⟩ := h.turn orderly first (active id (.head _))
      have others (k : Nat) (mem : k ∈ ids) : (t.take w).resource k = w.resource k := by
        unfold World.resource
        rw [step.resources, List.getElem?_set_ne fun same : id = k => new (same ▸ mem)]
      have later := ih next (t.orderly orderly) rest apart fun k mem => by
        rw [others k mem]
        exact active k (.tail _ mem)
      have there := World.getElem?_of_active (active id (.head _))
      refine ⟨?_, ?_, ?_, ?_⟩
      · intro before u us split
        cases before with
        | nil =>
          cases split
          exact step.result
        | cons t' before =>
          obtain ⟨rfl, further⟩ := List.cons.inj split
          exact later.results before u us further
      · rw [World.after_cons, later.machine, step.machine, List.map_congr_left others,
          Machine.without_append]
        rfl
      · rw [World.after_cons, later.resources, step.resources, retiredAt_cons there]
      · obtain ⟨es, ls, way, fine, called⟩ := step.gains
        obtain ⟨es', ls', way', fine', called'⟩ := later.gains
        refine ⟨_, _, way.trans way', by rw [errors_append, fine, fine']; rfl, ?_⟩
        rw [List.filterMap_congr fun k mem => by rw [others k mem]] at called'
        rw [calls_append, called]
        cases call : (w.resource id).cleanCall? with
        | none => simpa [call] using called'
        | some c => simpa [call] using called'

end World.Unhindered

/-- The question for memory is answered by the machine alone. -/
theorem Memory.info_congr {w v : World} (direct : w.library = some .direct)
    (direct' : v.library = some .direct) (same : w.machine = v.machine) :
    (info.outcome w).1 = (info.outcome v).1 := by
  obtain ⟨read, asked⟩ : ∃ read : Output → Value, info = read <$> Loading.request .memoryInfo :=
    ⟨_, (map_eq_pure_bind _ _).symm⟩
  rw [asked, Action.outcome_map, Action.outcome_map, Loading.request_direct direct,
    Loading.request_direct direct', same]
  split <;> rfl

/-- The order in which some numbers come, each of them in an option. -/
theorem exists_order {xs : List (Option Nat)} {ids : List Nat} (same : xs.Perm (ids.map some)) :
    ∃ js : List Nat, xs = js.map some ∧ js.Perm ids := by
  refine ⟨xs.filterMap id, ?_, by simpa [List.filterMap_map] using same.filterMap id⟩
  have all : ∀ x ∈ xs, ∃ k, some k = x := fun x mem => by
    obtain ⟨k, _, eq⟩ := List.mem_map.1 (same.mem_iff.1 mem)
    exact ⟨k, eq⟩
  clear same
  induction xs with
  | nil => rfl
  | cons x xs ih =>
    obtain ⟨k, rfl⟩ := all x (.head _)
    exact congrArg (some k :: ·) (ih fun x mem => all x (.tail _ mem))

/-- **Releases in any order.**  At any time in a session over the machine itself, if no entry
point of a release is missing and no failure is set up for one: let some active resources be
released in two orders, each by a call, by the end of a block that went well, or by the end of a
last name.  In both orders every release succeeds, the log gets no error, and each owned resource
has one release call.  Both leave the same machine, with all its tables and their bytes, the same
resources, and the same answer to the question for memory. -/
theorem release_order (host : Host) (m : Machine) (session : List Turn) (ids : List Nat)
    (as bs : List Turn) :
    let w := (World.opening host m .direct).after session
    (∀ e : EntryPoint, e.releases = true →
      w.machine.missing.contains e.name = false ∧ w.machine.injected e = 0) →
    ids.Nodup → (∀ id ∈ ids, (w.resource id).released = false) →
    (as.map Turn.clears).Perm (ids.map some) → (bs.map Turn.clears).Perm (ids.map some) →
    w.Cleared ids as ∧ w.Cleared ids bs ∧ (w.after as).machine = (w.after bs).machine ∧
      (w.after as).resources = (w.after bs).resources ∧
      (Operation.memoryInfo.perform.outcome (w.after as)).1 =
        (Operation.memoryInfo.perform.outcome (w.after bs)).1 := by
  intro w free apart active first second
  have start := orderly_opening host m .direct
  have orderly : Orderly w := World.orderly_after start session
  have direct : w.library = some .direct := World.direct_after start rfl session
  have unhindered : w.Unhindered :=
    ⟨direct, ((Known.opening host m).after start rfl session).agrees,
      fun e release => (free e release).1, fun e release => (free e release).2⟩
  have cleared {ts : List Turn} (order : (ts.map Turn.clears).Perm (ids.map some)) :
      w.Cleared ids ts := by
    obtain ⟨js, clears, same⟩ := exists_order order
    refine (unhindered.cleared orderly clears (same.nodup_iff.2 apart) fun id mem => ?_).perm same
    exact active id (same.mem_iff.1 mem)
  have machine := (cleared first).machine.trans (cleared second).machine.symm
  refine ⟨cleared first, cleared second, machine,
    (cleared first).resources.trans (cleared second).resources.symm, ?_⟩
  exact Memory.info_congr (World.direct_after orderly direct as)
    (World.direct_after orderly direct bs) machine

/-- A stream, memory in its order, the default pool of a device, and memory from that: the stream
and the pool go before the memory, or after it. -/
theorem release_order_stream_first :
    let made : List Turn :=
      [.operate .createStream rfl, .operate (.allocateOrdered (.int 24) (.handle 0 .stream)) rfl,
        .operate (.defaultPool (.int 0)) rfl,
        .operate (.allocateFromPool 2 (.int 8) (.handle 0 .stream)) rfl]
    let w := (World.opening .bare .fresh .direct).after made
    (w.after [.drop 0, .drop 2, .operate (.free (.handle 1 .pointer)) rfl, .drop 3]).machine =
      (w.after [.operate (.leave 3 none) rfl, .operate (.release 1) rfl, .drop 2,
        .operate (.release 0) rfl]).machine := by
  intro made w
  have kept : ∀ e : EntryPoint, e.releases = true →
      w.machine.missing.contains e.name = false ∧ w.machine.injected e = 0 :=
    fun _ _ => ⟨rfl, rfl⟩
  exact (release_order .bare .fresh made [0, 1, 2, 3] _ _ kept (by decide) (by decide)
    (by decide) (by decide)).2.2.1

end GpuHandles
