import GpuHandles.Proofs.FailedCall
import GpuHandles.Proofs.Frame
/-!
What a failed operation leaves behind.

A call that does not succeed uses up the code that was set up for its entry point, and no more,
or it has taken a handle when it meets its fault (`Machine.call_failed`).
`Action.Atomic steady late a` carries this to actions over the machine itself: if `a` ends in a
fault, nothing but set-up codes is gone, and resources and log are as they were; only the fault
`late` may come after a handle is taken.  Such actions go on after each other as long as those
that come first are steady, which means that they leave as little behind when they succeed;
nothing may fail after a call that changes something.  Every operation is put together this way
but those that release a resource, which mark it first (`failed_operation_atomic`).
-/

namespace GpuHandles

/-! ## Calls that fail -/

namespace Machine

/-- A call that only looks at the machine leaves no more behind when it succeeds. -/
theorem call_reading {c : NativeCall} (reads : ∀ m : Machine, (m.perform c).2 = m) (m : Machine) :
    (m.call c).2 = m.spend [c.entryPoint] := by
  by_cases h : m.injected c.entryPoint = 0
  · rw [call_of_none h, reads]
    rfl
  · rw [call_of_injected h]
    rfl

theorem perform_busId (length : Int) (device : Value) (m : Machine) :
    (m.perform (.busId length device)).2 = m := by
  show (m.onDevice device fun _ => m.busIdReply length device).2 = m
  unfold onDevice after
  split
  next known _ =>
    cases known with
    | true =>
      show (m.busIdReply length device).2 = m
      unfold busIdReply after
      split <;> rfl
    | false => rfl
  next => rfl

theorem perform_streamQuery (a : Address) (m : Machine) : (m.perform (.streamQuery a)).2 = m := by
  dsimp only [perform]
  split <;> rfl

/-- The code set up for an entry point is what its next call is recorded with. -/
theorem recorded_injected {m : Machine} {c : NativeCall} (failing : m.injected c.entryPoint ≠ 0) :
    recorded c (m.call c).1 = [(c, m.injected c.entryPoint)] := by
  rw [call_of_injected failing]
  rfl

end Machine

/-! ## Actions -/

namespace Loading

variable {w : World}

theorem checked_failed {reply : Reply} (failed : reply.succeeded = false) :
    ∃ f, checked .direct reply = .error f := by
  cases reply with
  | fault f => exact ⟨f, rfl⟩
  | code code out => exact ⟨.ofCode code, if_neg (ne_of_beq_false failed)⟩

/-- A request of the machine itself. -/
theorem request_direct (direct : w.library = some .direct) (c : NativeCall) :
    (request c).outcome w =
      if w.machine.missing.contains c.entryPoint.name then
        (.error (.undefinedSymbol c.entryPoint.name), w)
      else
        (checked .direct (w.machine.call c).1, { w with
          machine := (w.machine.call c).2
          trace := w.trace ++ (recorded c (w.machine.call c).1).map Event.ofCall }) := by
  unfold request
  rw [Action.outcome_bind, resolve_direct direct]
  by_cases absent : w.machine.missing.contains c.entryPoint.name
  · rw [if_pos absent, if_pos absent]
  · rw [if_neg absent, if_neg absent]
    dsimp only
    rw [Action.outcome_bind, invoke_outcome (l := .direct) (c := c) rfl w]
    cases (w.machine.call c).1 with
    | fault f => rfl
    | code code out =>
      dsimp only [answered, returning]
      rw [Action.outcome_bind, check_outcome]
      by_cases success : code = 0
      · rw [if_pos success]
        simp [checked, returning, success]
      · rw [if_neg success]
        simp [checked, returning, success]

end Loading

namespace World

/-- Way from `w` to `w'` that leaves nothing behind but the calls `cs`.  The codes that were set
up for the entry points `es` are used up, and one that stood for a failure is among the calls. -/
structure Spent (w w' : World) (cs : List (NativeCall × Int)) (es : List EntryPoint) : Prop where
  called : w.Called w' cs
  machine : w'.machine = w.machine.spend es
  told : ∀ e ∈ es, w.machine.injected e ≠ 0 →
    ∃ c, c.entryPoint = e ∧ (c, w.machine.injected e) ∈ cs

/-- Nothing is left behind but calls, and the codes they used up. -/
def Idle (w w' : World) : Prop := w.Untouched w' ∧ ∃ cs es, w.Spent w' cs es

variable {w w₁ w₂ : World} {cs cs₁ cs₂ : List (NativeCall × Int)} {es es₁ es₂ : List EntryPoint}

theorem Spent.refl (w : World) : w.Spent w [] [] := ⟨.refl w, rfl, by simp⟩

theorem Spent.trans (h₁ : w.Spent w₁ cs₁ es₁) (h₂ : w₁.Spent w₂ cs₂ es₂) :
    w.Spent w₂ (cs₁ ++ cs₂) (es₁ ++ es₂) := by
  refine ⟨h₁.called.trans h₂.called, ?_, ?_⟩
  · rw [h₂.machine, h₁.machine, Machine.spend_spend]
  · intro e he failing
    by_cases first : e ∈ es₁
    · obtain ⟨c, entry, mem⟩ := h₁.told e first failing
      exact ⟨c, entry, List.mem_append_left _ mem⟩
    · have still : w₁.machine.injected e = w.machine.injected e := by
        rw [h₁.machine, Machine.injected_spend, if_neg first]
      have second : e ∈ es₂ := (List.mem_append.1 he).resolve_left first
      obtain ⟨c, entry, mem⟩ := h₂.told e second (still ▸ failing)
      exact ⟨c, entry, List.mem_append_right _ (still ▸ mem)⟩

theorem Idle.refl (w : World) : w.Idle w := ⟨.refl w, _, _, .refl w⟩

theorem Idle.trans (h₁ : w.Idle w₁) (h₂ : w₁.Idle w₂) : w.Idle w₂ := by
  obtain ⟨same₁, _, _, way₁⟩ := h₁
  obtain ⟨same₂, _, _, way₂⟩ := h₂
  exact ⟨same₁.trans same₂, _, _, way₁.trans way₂⟩

theorem Idle.direct (h : w.Idle w₁) (direct : w.library = some .direct) :
    w₁.library = some .direct := by
  obtain ⟨-, _, _, way⟩ := h
  exact way.called.library.trans direct

/-- A call of the machine itself that leaves nothing behind. -/
theorem Idle.ofCall {c : NativeCall}
    (spent : (w.machine.call c).2 = w.machine.spend [c.entryPoint]) :
    w.Idle ((Loading.invoke .direct c).outcome w).2 := by
  rw [Loading.invoke_outcome rfl w]
  refine ⟨⟨rfl, rfl⟩, recorded c (w.machine.call c).1, [c.entryPoint], ⟨rfl, rfl, rfl⟩, spent, ?_⟩
  intro e he failing
  cases List.mem_singleton.1 he
  rw [Machine.recorded_injected failing]
  exact ⟨c, rfl, .head _⟩

end World

/-- Nothing is left behind but calls, the codes they used up, and a handle that was taken before
the fault `f`. -/
def World.Late {α : Type} (w : World) (f : Fault) (out : Except Fault α × World) : Prop :=
  ∃ w₁, w.Idle w₁ ∧ out = (.error f, { w₁ with machine := w₁.machine.taken })

theorem World.Idle.late {α : Type} {w w₁ : World} {f : Fault} {out : Except Fault α × World}
    (h : w.Idle w₁) (rest : w₁.Late f out) : w.Late f out := by
  obtain ⟨w₂, idle, ended⟩ := rest
  exact ⟨w₂, h.trans idle, ended⟩

/-- If the action ends in a fault, it leaves nothing behind but the codes that its calls used
up, or this is the fault `late`, and a handle was taken.  A steady action leaves no more behind
when it succeeds. -/
def Action.Atomic {α : Type} (steady : Prop) (late : Option Fault) (a : Action α) : Prop :=
  ∀ w, w.library = some .direct → (steady ∨ ∃ f, (a.outcome w).1 = .error f) →
    w.Idle (a.outcome w).2 ∨ ∃ f, late = some f ∧ w.Late f (a.outcome w)

/-- The action ends with a value, wherever it starts. -/
def Action.Succeeds {α : Type} (a : Action α) : Prop := ∀ w, ∃ x, (a.outcome w).1 = .ok x

namespace Action.Atomic

variable {α β : Type} {steady : Prop} {late : Option Fault} {a : Action α}

theorem idle {w : World} (h : Atomic steady none a) (direct : w.library = some .direct)
    (failed : steady ∨ ∃ f, (a.outcome w).1 = .error f) : w.Idle (a.outcome w).2 :=
  (h w direct failed).resolve_right nofun

/-- An action that only looks at the world. -/
theorem reads (same : ∀ w, (a.outcome w).2 = w) : Atomic steady late a := by
  intro w _ _
  rw [same w]
  exact .inl (.refl w)

theorem pure (x : α) : Atomic steady late (Pure.pure x : Action α) := reads fun _ => rfl

theorem throw (f : Fault) : Atomic steady late (MonadExcept.throw f : Action α) :=
  reads fun _ => rfl

theorem compute (r : Except Fault α) : Atomic steady late (Action.ofExcept r) :=
  reads fun w => congrArg Prod.snd (outcome_ofExcept r w)

theorem get : Atomic steady late (MonadState.get : Action World) := reads fun _ => rfl

theorem active (id : Nat) : Atomic steady late (Ownership.active id) :=
  reads fun w => congrArg Prod.snd (Ownership.active_outcome id w)

theorem check (code : Int) : Atomic steady late (Loading.check code) :=
  reads fun w => congrArg Prod.snd (Loading.check_outcome code w)

/-- An action that cannot fail. -/
theorem done (succeeds : a.Succeeds) : Atomic False late a := by
  intro w _ failed
  obtain ⟨x, ended⟩ := succeeds w
  obtain h | ⟨f, h⟩ := failed
  · exact h.elim
  · rw [ended] at h
    cases h

theorem bind {f : α → Action β} (first : Atomic True none a)
    (rest : ∀ x, Atomic steady late (f x)) : Atomic steady late (a >>= f) := by
  intro w direct failed
  have before := first.idle direct (.inl trivial)
  rw [outcome_bind] at failed ⊢
  rcases run : a.outcome w with ⟨result, w₁⟩
  rw [run] at before failed
  cases result with
  | error g => exact .inl before
  | ok x =>
    obtain idle | ⟨g, same, ended⟩ := rest x w₁ (before.direct direct) failed
    · exact .inl (before.trans idle)
    · exact .inr ⟨g, same, before.late ended⟩

/-- A computation, and what its value leads to. -/
theorem computed {r : Except Fault α} {f : α → Action β}
    (rest : ∀ x, r = .ok x → Atomic steady late (f x)) :
    Atomic steady late (Action.ofExcept r >>= f) := by
  cases r with
  | error g => exact reads fun _ => rfl
  | ok x =>
    show Atomic steady late (Pure.pure x >>= f)
    rw [pure_bind]
    exact rest x rfl

/-- What follows an action that may change something must not fail. -/
theorem last {f : α → Action β} (first : Atomic False late a) (rest : ∀ x, (f x).Succeeds) :
    Atomic False late (a >>= f) := by
  intro w direct failed
  rw [outcome_bind] at failed ⊢
  rcases run : a.outcome w with ⟨result, w₁⟩
  rw [run] at failed
  cases result with
  | error g =>
    obtain before | ⟨f, same, w₂, idle, ended⟩ := first w direct (.inr ⟨g, by rw [run]⟩)
    · rw [run] at before
      exact .inl before
    · rw [run] at ended
      cases ended
      exact .inr ⟨g, same, w₂, idle, rfl⟩
  | ok x =>
    obtain ⟨y, ended⟩ := rest x w₁
    obtain h | ⟨g, h⟩ := failed
    · exact h.elim
    · rw [ended] at h
      cases h

theorem map (f : α → β) (h : Atomic True none a) : Atomic steady late (f <$> a) := by
  rw [map_eq_pure_bind]
  exact h.bind fun x => .pure (f x)

theorem discard (h : Atomic False late a) : Atomic False late (Functor.discard a) :=
  h.last fun _ _ => ⟨_, rfl⟩

theorem silent {a : Action Unit} (h : Atomic False late a) :
    Atomic False late (Operation.silent a) :=
  h.last fun _ _ => ⟨_, rfl⟩

/-- A look for an entry point gives the machine itself. -/
theorem resolve {e : EntryPoint} {f : Library → Action β} (rest : Atomic steady late (f .direct)) :
    Atomic steady late (Loading.resolve e >>= f) := by
  intro w direct failed
  have looked := Loading.resolve_direct direct e
  by_cases absent : w.machine.missing.contains e.name
  · rw [if_pos absent] at looked
    rw [outcome_bind_error looked]
    exact .inl (.refl w)
  · rw [if_neg absent] at looked
    rw [outcome_bind_ok looked] at failed ⊢
    exact rest w direct failed

/-- A call that only looks at the machine. -/
theorem invoke {c : NativeCall} (reads : ∀ m : Machine, (m.perform c).2 = m) :
    Atomic steady late (Loading.invoke .direct c) :=
  fun w _ _ => .inl (.ofCall (Machine.call_reading reads w.machine))

/-- A call that does not succeed, with what is said of it. -/
theorem invoke_failed {c : NativeCall} {w : World}
    (failed : (w.machine.call c).1.succeeded = false) :
    w.Idle ((Loading.invoke .direct c).outcome w).2 ∨
      ∃ f, c.late? = some f ∧ w.Late f ((Loading.invoke .direct c).outcome w) := by
  obtain spent | ⟨f, late, quiet, taken⟩ := Machine.call_failed failed
  · exact .inl (.ofCall spent)
  · refine .inr ⟨f, late, { w with machine := w.machine.spend [c.entryPoint] }, ?_, ?_⟩
    · refine ⟨⟨rfl, rfl⟩, [], [c.entryPoint], ⟨rfl, rfl, (List.append_nil _).symm⟩, rfl, ?_⟩
      intro e he failing
      cases List.mem_singleton.1 he
      exact absurd quiet failing
    · rw [Loading.invoke_outcome rfl w, taken]
      show (_, { w with machine := _, trace := w.trace ++ [] }) = _
      rw [List.append_nil]
      rfl

/-- A call whose code is checked before its output is read, and nothing fails after that. -/
theorem checked {c : NativeCall} {f : Output → Action β} {g : Int × Output → Action β}
    (form : ∀ code out, g (code, out) = (Loading.check code >>= fun _ => f out))
    (rest : ∀ out, (f out).Succeeds) : Atomic False c.late? (Loading.invoke .direct c >>= g) := by
  intro w _ failed
  have idle (reply : (w.machine.call c).1.succeeded = false) := invoke_failed reply
  have invoked := Loading.invoke_outcome (l := .direct) (c := c) rfl w
  rw [outcome_bind] at failed ⊢
  cases reply : (w.machine.call c).1 with
  | fault h =>
    rw [reply] at idle
    have before := idle rfl
    rw [invoked, reply] at before ⊢
    refine before.imp_right ?_
    rintro ⟨f, late, w₁, same, ended⟩
    injection ended with fault world
    cases fault
    exact ⟨h, late, w₁, same, Prod.ext rfl world⟩
  | code code out =>
    rw [reply] at idle
    rw [invoked, reply] at idle failed ⊢
    dsimp only [Loading.answered, Loading.returning] at failed ⊢
    rw [form, outcome_bind, Loading.check_outcome] at failed ⊢
    by_cases success : code = 0
    · rw [if_pos success] at failed
      obtain h | ⟨h, ended⟩ := failed
      · exact h.elim
      · obtain ⟨x, ended'⟩ := rest out _
        rw [ended'] at ended
        cases ended
    · rw [if_neg success]
      refine .inl ((idle (beq_false_of_ne success)).resolve_right ?_)
      rintro ⟨f, _, w₁, _, ended⟩
      cases ended

theorem request {c : NativeCall} : Atomic False c.late? (Loading.request c) :=
  resolve (checked (fun _ _ => rfl) fun out _ => ⟨out, rfl⟩)

/-- A request that only looks at the machine. -/
theorem request_reading {c : NativeCall} (reads : ∀ m : Machine, (m.perform c).2 = m) :
    Atomic steady late (Loading.request c) :=
  resolve ((invoke reads).bind fun _ => (check _).bind fun _ => .pure _)

/-- A request, and then what does not fail. -/
theorem request_last {c : NativeCall} {f : Output → Action β} (rest : ∀ out, (f out).Succeeds) :
    Atomic False c.late? (Loading.request c >>= f) :=
  request.last rest

end Action.Atomic

/-! ## Operations -/

open GpuHandles.Action (Atomic)

variable {steady : Prop} {late : Option Fault}

namespace Memory

/-- The fault of a buffer that cannot be made, of a size as it is given. -/
def unmade? (size : Value) : Option Fault := (validSize size).toOption.bind Machine.bufferFault?

theorem allocateBy_atomic (call : Int → NativeCall)
    (late : ∀ n, (call n).late? = Machine.bufferFault? n) (size : Value) :
    Atomic False (unmade? size) (allocateBy call size) := by
  refine .computed fun n given => ?_
  have same : unmade? size = (call n).late? := by
    rw [late, unmade?, given]
    rfl
  rw [same]
  exact .request_last fun _ _ => ⟨_, rfl⟩

theorem handleOf_atomic (v : Value) : Atomic steady late (handleOf v) := by
  unfold handleOf
  split
  · exact (Atomic.active _).bind fun r => .pure _
  · exact .compute _

theorem allocateOrdered_atomic (size stream : Value) :
    Atomic False (unmade? size) (allocateOrdered size stream) :=
  (handleOf_atomic stream).bind fun _ => allocateBy_atomic _ (fun _ => rfl) size

theorem allocateFromPool_atomic (pool : Nat) (size stream : Value) :
    Atomic False (unmade? size) (allocateFromPool pool size stream) :=
  (Atomic.active pool).bind fun _ => (handleOf_atomic stream).bind fun _ =>
    allocateBy_atomic _ (fun _ => rfl) size

theorem checkFits_atomic (size bytes : Value) (what : String) :
    Atomic steady late (checkFits size bytes what) := by
  refine Atomic.get.bind fun w => (Atomic.compute _).bind fun above => ?_
  split
  · exact .throw _
  · exact .pure _

theorem addressOf_atomic (target : Value) : Atomic steady late (addressOf target) := by
  unfold addressOf
  split
  · exact (Atomic.active _).bind fun r => .pure _
  · exact .compute _

theorem copyTo_atomic (id : Nat) (target kind : Value) :
    Atomic False none (copyTo id target kind) := by
  refine (Atomic.active id).bind fun source => ?_
  split
  · exact .throw _
  · refine (addressOf_atomic target).bind fun (destination, address) => ?_
    dsimp only
    split
    · exact .throw _
    · refine (checkFits_atomic _ _ _).bind fun _ => ?_
      refine .resolve ((Atomic.compute _).bind fun k => ?_)
      -- nothing follows the check of the code, which `checked` takes for an empty rest
      exact .checked (f := fun _ => pure ()) (fun _ _ => (bind_pure _).symm) fun _ _ => ⟨(), rfl⟩

theorem copyFromHost_atomic (id : Nat) (source : Value) :
    Atomic False none (copyFromHost id source) := by
  refine (Atomic.active id).bind fun r => (Atomic.compute _).bind fun host => ?_
  refine (checkFits_atomic _ _ _).bind fun _ => ?_
  split
  · exact .pure _
  · exact Atomic.request.discard

theorem targetArray_atomic (r : Resource) (type out : Value) :
    Atomic steady late (targetArray r type out) := by
  unfold targetArray
  split
  · exact Atomic.get.bind fun w => (Atomic.compute _).bind fun type => .compute _
  · split
    · exact .throw _
    · exact (checkFits_atomic _ _ _).bind fun _ => .pure _
  · exact .throw _
  · exact .compute _

theorem copyToHost_atomic (id : Nat) (type out : Value) :
    Atomic False none (copyToHost id type out) := by
  refine (Atomic.active id).bind fun r => (targetArray_atomic _ _ _).bind fun target => ?_
  split
  · exact .pure _
  · refine .request_last fun reply w => ?_
    split <;> exact ⟨_, rfl⟩

theorem checkByte_atomic (v : Value) : Atomic steady late (checkByte v) := by
  refine Atomic.get.bind fun w => (Atomic.compute _).bind fun enough => ?_
  have bounded : Atomic True none
      (if enough then Action.ofExcept (v.compare .atMost (.int 255)) else pure false) := by
    split
    · exact .compute _
    · exact .pure _
  refine bounded.bind fun fits => ?_
  split
  · exact .pure _
  · exact .throw _

theorem fillTo_atomic (r : Resource) (value n : Value) : Atomic False none (fillTo r value n) := by
  refine (checkFits_atomic _ _ _).bind fun _ => (Atomic.compute _).bind fun empty => ?_
  split
  · exact .pure _
  · exact Atomic.request.discard

theorem fill_atomic (id : Nat) (value size : Value) : Atomic False none (fill id value size) := by
  refine (Atomic.active id).bind fun r => (checkByte_atomic value).bind fun _ => ?_
  split
  · exact (Atomic.pure _).bind fun n => fillTo_atomic r value n
  · exact ((Atomic.compute _).map _).bind fun n => fillTo_atomic r value n

theorem info_atomic : Atomic False none info := by
  refine .request_last fun out w => ?_
  dsimp only
  split <;> exact ⟨_, rfl⟩

end Memory

namespace Device

/-- The devices are counted before one is made current, and its number may be out of range. -/
theorem select_atomic (device : Value) : Atomic False none (select device) := by
  have counted : Atomic True none count :=
    (Atomic.request_reading fun _ => rfl).bind fun _ => .pure _
  refine (Atomic.compute _).bind fun id => counted.bind fun n => ?_
  refine (Atomic.compute _).bind fun inside => ?_
  split
  · exact Atomic.request.discard.last fun _ w => ⟨_, rfl⟩
  · exact Atomic.get.bind fun w => .throw _

/-- The text of a bus id is read after the call, and it may not be a text. -/
theorem busId_atomic (device : Value) : Atomic False none (busId device) := by
  refine (Atomic.request_reading (Machine.perform_busId _ _)).bind fun out => ?_
  split
  · exact .pure _
  · exact .throw _

theorem attributeValue_atomic (device code : Value) :
    Atomic False none (attributeValue device code) :=
  .resolve ((Atomic.compute _).bind fun _ => .checked (fun _ _ => rfl) fun _ _ => ⟨_, rfl⟩)

theorem ofBusId_atomic (text : Value) : Atomic False none (ofBusId text) :=
  .resolve ((Atomic.compute _).bind fun _ => .checked (fun _ _ => rfl) fun _ _ => ⟨_, rfl⟩)

theorem peerAttribute_atomic (code source target : Value) :
    Atomic False none (peerAttribute code source target) :=
  .resolve <| (Atomic.compute _).bind fun _ => (Atomic.compute _).bind fun _ =>
    (Atomic.compute _).bind fun _ => .checked (fun _ _ => rfl) fun _ _ => ⟨_, rfl⟩

end Device

theorem Stream.query_atomic (id : Nat) : Atomic False none (Stream.query id) := by
  refine (Atomic.active id).bind fun r => .resolve ?_
  refine (Atomic.invoke (Machine.perform_streamQuery _)).bind fun (code, _) => ?_
  dsimp only
  split
  · exact .pure _
  · exact (Atomic.check code).bind fun _ => .pure _

namespace Pool

theorem defaultOf_atomic (device : Value) :
    Atomic False (device.unhashable?.map .unhashable) (defaultOf device) :=
  .request_last (c := .defaultPool device) fun _ _ => ⟨_, rfl⟩

theorem create_atomic (props : Value) : Atomic False none (create props) :=
  Atomic.get.bind fun _ => (Atomic.compute _).bind fun _ => (Atomic.compute _).bind fun _ =>
    .request_last fun _ _ => ⟨_, rfl⟩

theorem trim_atomic (id : Nat) (keep : Value) : Atomic False none (trim id keep) := by
  refine (Atomic.active id).bind fun r => Atomic.get.bind fun w => ?_
  refine (Atomic.compute _).bind fun negative => ?_
  split
  · exact .throw _
  · exact Atomic.request.discard

end Pool

namespace Operation

/-- The fault that an operation may still meet once a handle has been taken for it: of a device
that cannot be a key of the default pools, or of an allocation that cannot be made. -/
def late? : Operation → Option Fault
  | ask device .defaultPool => device.unhashable?.map .unhashable
  | defaultPool device =>
    (Pool.deviceId device).toOption.bind fun id => id.unhashable?.map .unhashable
  | allocate size | allocateFlagged size _ | allocateOrdered size _ | allocateFromPool _ size _ =>
    Memory.unmade? size
  | _ => none

theorem answer_atomic (device : Value) (question : DeviceQuestion) :
    Atomic False (ask device question).late? (answer device question) := by
  cases question with
  | name | totalMemory | uuid => exact .request_last fun _ _ => ⟨_, rfl⟩
  | computeCapability =>
    refine .request_last fun out w => ?_
    dsimp only
    split <;> exact ⟨_, rfl⟩
  | busId => exact Device.busId_atomic device
  | attributeValue code => exact Device.attributeValue_atomic device code
  | defaultPool => exact Pool.defaultOf_atomic device

/-- An operation that releases nothing. -/
theorem perform_atomic (op : Operation) (keeps : op.subject = none) :
    Atomic False op.late? op.perform := by
  cases op with
  | start => exact (Atomic.request.discard.last fun _ _ => ⟨_, rfl⟩).silent
  | runtimeVersion | driverVersion | currentDevice =>
    exact .request_last fun _ _ => ⟨_, rfl⟩
  | deviceCount =>
    exact (Atomic.request_last fun _ _ => ⟨_, rfl⟩).last fun _ _ => ⟨_, rfl⟩
  | selectDevice device => exact Device.select_atomic device
  | synchronizeDevice => exact Atomic.request.discard.silent
  | ask device question => exact answer_atomic device question
  | deviceOfBusId text => exact Device.ofBusId_atomic text
  | peerAttribute code source target => exact Device.peerAttribute_atomic code source target
  | allocate size => exact Memory.allocateBy_atomic _ (fun _ => rfl) size
  | allocateFlagged size flags =>
    exact (Atomic.compute _).bind fun _ => Memory.allocateBy_atomic _ (fun _ => rfl) size
  | allocateOrdered size stream => exact Memory.allocateOrdered_atomic size stream
  | allocateFromPool pool size stream => exact Memory.allocateFromPool_atomic pool size stream
  | free pointer =>
    refine Atomic.silent ?_
    unfold Memory.free
    split
    · cases keeps
    · exact .throw _
  | memoryInfo => exact Memory.info_atomic
  | copyTo id target kind => exact (Memory.copyTo_atomic id target kind).silent
  | copyFromHost id source => exact (Memory.copyFromHost_atomic id source).silent
  | copyToHost id type out => exact Memory.copyToHost_atomic id type out
  | fill id value size => exact (Memory.fill_atomic id value size).silent
  | createStream => exact .request_last fun _ _ => ⟨_, rfl⟩
  | queryStream id => exact Stream.query_atomic id
  | synchronizeStream id =>
    refine Atomic.silent ((Atomic.active id).bind fun r => ?_)
    exact Atomic.request.discard
  | createPool props => exact Pool.create_atomic props
  | defaultPool device =>
    refine .computed fun id given => ?_
    have same : (Operation.defaultPool device).late? = id.unhashable?.map .unhashable := by
      rw [late?, given]
      rfl
    rw [same]
    exact Pool.defaultOf_atomic id
  | trimPool id keep => exact (Pool.trim_atomic id keep).silent
  | wrap => exact .done fun _ => ⟨_, rfl⟩
  | readHandle id | readAddress id => exact (Atomic.active id).bind fun _ => .pure _
  | enter id => exact (Atomic.active id).bind (fun _ => .pure _) |>.silent
  | release | leave | finalize => cases keeps

end Operation

/-! ## Releases -/

namespace Ownership

variable {w : World} {id : Nat}

theorem releaseNative_atomic (p : Payload) : Atomic False none (releaseNative p) := by
  cases p with
  | pointer | stream | pool => exact Atomic.request.discard
  | plain => exact .throw _

/-- **A release that fails** has marked its resource, and it leaves no more behind than a failed
call. -/
theorem release_failed {f : Fault} (direct : w.library = some .direct)
    (active : (w.resource id).released = false) (failed : ((release id).outcome w).1 = .error f) :
    ((release id).outcome w).2.resources = w.resources.set id (w.resource id).retired ∧
      ∃ cs es, w.Spent ((release id).outcome w).2 cs es := by
  have there := World.getElem?_of_active active
  unfold release at failed ⊢
  rw [Action.outcome_bind_ok (active_ok there active),
    Action.outcome_bind_ok (Action.outcome_modify _ w),
    Action.outcome_bind_ok (Action.outcome_get _)] at failed ⊢
  cases truth : (w.setResource id (w.resource id).retired).countsAsTrue (w.resource id).owned with
  | error g => exact ⟨rfl, [], [], .make w _ _, rfl, by simp⟩
  | ok own =>
    rw [truth, Action.outcome_bind_ok (Action.outcome_ofExcept (.ok own) _)] at failed
    rw [Action.outcome_bind_ok (Action.outcome_ofExcept (.ok own) _)]
    cases own with
    | false => cases failed
    | true =>
      rw [if_pos rfl, Action.outcome_bind_ok (Action.outcome_write ..)] at failed ⊢
      have idle := (releaseNative_atomic (w.resource id).payload).idle
        (w := { w.setResource id (w.resource id).retired with log := w.log ++ [w.releasing id] })
        direct (.inr ⟨f, failed⟩)
      obtain ⟨same, cs, es, way⟩ := idle
      refine ⟨same.resources, cs, es, ?_, way.machine, way.told⟩
      exact (World.Called.make w _ _).trans way.called

end Ownership

/-- Marking a resource that is released already changes nothing. -/
theorem World.set_retired {w : World} {id : Nat} (released : (w.resource id).released = true) :
    w.resources.set id (w.resource id).retired = w.resources := by
  cases there : w.resources[id]? with
  | none => exact List.set_eq_of_length_le (List.getElem?_eq_none_iff.1 there)
  | some r =>
    rw [World.resource_of_getElem? there] at released ⊢
    obtain ⟨bound, rfl⟩ := List.getElem?_eq_some_iff.1 there
    have same : w.resources[id].retired = w.resources[id] := by
      rw [Resource.retired, ← released]
    rw [same, List.set_getElem_self]

namespace Operation

/-- Does an operation fail by itself?  The end of a block that ended in a fault, and the end of a
last name, fail if their release does, though they may not raise that. -/
def Fails (op : Operation) (w : World) : Prop :=
  match op with
  | leave id (some _) | finalize id => ∃ f, ((Ownership.release id).outcome w).1 = .error f
  | op => ∃ f, (op.perform.outcome w).1 = .error f

variable {op : Operation} {w : World} {id : Nat}

theorem fails_of_keeps (keeps : op.subject = none) (failed : op.Fails w) :
    ∃ f, (op.perform.outcome w).1 = .error f := by
  cases op with
  | leave | finalize => cases keeps
  | _ => exact failed

theorem silent_failed {a : Action Unit} (failed : ∃ f, ((silent a).outcome w).1 = .error f) :
    ∃ f, (a.outcome w).1 = .error f := by
  obtain ⟨f, failed⟩ := failed
  unfold silent at failed
  rw [Action.outcome_bind] at failed
  rcases run : a.outcome w with ⟨_ | _, w'⟩
  · exact ⟨_, rfl⟩
  · rw [run] at failed
    cases failed

/-- An operation that is to release an active resource fails with its release. -/
theorem release_of_fails (subject : op.subject = some id)
    (active : (w.resource id).released = false) (failed : op.Fails w) :
    ∃ f, ((Ownership.release id).outcome w).1 = .error f := by
  cases op with
  | free pointer =>
    have failed := silent_failed failed
    rwa [free_of_subject subject] at failed
  | release k =>
    cases subject
    exact silent_failed failed
  | leave k body =>
    cases subject
    cases body with
    | some f => exact failed
    | none =>
      have failed := silent_failed failed
      unfold Ownership.leave at failed
      rwa [Action.outcome_bind_ok (Action.outcome_get w), if_neg (by simp [active])] at failed
  | finalize k =>
    cases subject
    exact failed
  | _ => cases subject

/-- What an operation may have taken from the counter of handles when it fails: one handle, before
the fault that was still to come. -/
def Took (op : Operation) (w : World) (handle : Nat) : Prop :=
  handle = w.machine.nextHandle ∧
    ∃ f, op.late? = some f ∧ (op.perform.outcome w).1 = .error f

/-- An operation that is to release a resource marks it, if it is active, even when it fails. -/
theorem subject_failed (direct : w.library = some .direct) (subject : op.subject = some id)
    (failed : op.Fails w) : (op.perform.outcome w).2.resources = op.failedResources w ∧
      ∃ cs es, w.Spent (op.perform.outcome w).2 cs es := by
  rw [failedResources, subject]
  cases active : (w.resource id).released with
  | true =>
    rw [subject_idle subject active]
    exact ⟨(World.set_retired active).symm, _, _, .refl w⟩
  | false =>
    obtain ⟨f, released⟩ := release_of_fails subject active failed
    obtain ⟨log, ended⟩ := subject_releases subject active
    obtain ⟨resources, cs, es, way⟩ := Ownership.release_failed direct active released
    rw [ended]
    exact ⟨resources, cs, es, ⟨way.called.host, way.called.library, way.called.trace⟩,
      way.machine, way.told⟩

end Operation

/-- **A failed operation changes nothing.**  However the world is and whatever the operation is
given, if it fails, then the machine is as it was but for codes that were set up and are used up,
and those that stood for a failure are among the calls.  No resource is made, and each that there
is stays as it is; only one that the operation is to release is released.  One handle may be gone:
it was taken for the default pool of a device that then cannot be a key, or for an allocation
whose buffer then cannot be made. -/
theorem failed_operation_atomic (op : Operation) (w : World) (direct : w.library = some .direct)
    (failed : op.Fails w) :
    let w' := (op.perform.outcome w).2
    ∃ cs es handle, w.Called w' cs ∧
      (∀ e ∈ es, w.machine.injected e ≠ 0 →
        ∃ c, c.entryPoint = e ∧ (c, w.machine.injected e) ∈ cs) ∧
      w'.machine = { w.machine.spend es with lastHandle := handle } ∧
      (handle = w.machine.lastHandle ∨ op.Took w handle) ∧
      w'.resources = op.failedResources w := by
  cases subject : op.subject with
  | some id =>
    obtain ⟨resources, cs, es, way⟩ := Operation.subject_failed direct subject failed
    refine ⟨cs, es, w.machine.lastHandle, way.called, way.told, ?_, .inl rfl, resources⟩
    rw [way.machine]
    rfl
  | none =>
    have kept : op.failedResources w = w.resources := by rw [Operation.failedResources, subject]
    rw [kept]
    obtain ⟨same, cs, es, way⟩ | ⟨f, late, w₁, ⟨same, cs, es, way⟩, ended⟩ :=
      op.perform_atomic subject w direct (.inr (Operation.fails_of_keeps subject failed))
    · refine ⟨cs, es, w.machine.lastHandle, way.called, way.told, ?_, .inl rfl, same.resources⟩
      rw [way.machine]
      rfl
    · have took : op.Took w w.machine.nextHandle := ⟨rfl, f, late, by rw [ended]⟩
      dsimp only
      rw [ended]
      refine ⟨cs, es, w.machine.nextHandle, ⟨way.called.host, way.called.library, way.called.trace⟩,
        way.told, ?_, .inr took, same.resources⟩
      show w₁.machine.taken = _
      rw [way.machine]
      rfl

/-- A release that fails: the allocation stays, and its resource is released. -/
theorem failed_operation_atomic_free :
    let w := (World.start .bare (.fresh) (some .direct))
    let w₁ := ((Operation.allocate (.int 3)).perform.outcome w).2
    let w₂ := { w₁ with machine := w₁.machine.failNext .free 17 }
    let w₃ := ((Operation.free (.handle 0 .pointer)).perform.outcome w₂).2
    w₃.machine.allocations = [(0x7f0000001000, [0, 0, 0])] ∧
      w₃.resources.map Resource.released = [true] := by
  intro w w₁ w₂ w₃
  have failed : (Operation.free (.handle 0 .pointer)).Fails w₂ := ⟨.ofCode 17, rfl⟩
  obtain ⟨cs, es, handle, -, -, machine, -, resources⟩ :=
    failed_operation_atomic (.free (.handle 0 .pointer)) w₂ rfl failed
  refine ⟨(congrArg Machine.allocations machine).trans rfl, ?_⟩
  rw [show w₃.resources = _ from resources]
  rfl

/-- A device whose number is an array cannot be a key: the question for its default pool fails,
and the machine has taken a handle. -/
theorem default_pool_of_array_takes_handle :
    let w := World.start .bare .fresh (some .direct)
    let device := Value.array (.ofBytes .int64 [] (List.replicate 8 0))
    let out := (Operation.ask device .defaultPool).perform.outcome w
    out.1 = .error (.unhashable "numpy.ndarray") ∧
      w.machine.lastHandle = 0x7f0000000000 ∧ out.2.machine.lastHandle = 0x7f0000001000 :=
  ⟨rfl, rfl, rfl⟩

end GpuHandles
