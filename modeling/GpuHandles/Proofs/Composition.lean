import GpuHandles.Proofs.Calls
import GpuHandles.Script.Step
/-!
What holds of an operation because of what it is put together from.

Every operation is a sequence of a few kinds of parts: something computed, a look at the
resources, a line of the log, a resource more, and a call of an entry point that was looked up
just before.  A property of actions composes if it holds of these parts and of sequences
(`Composes`); it then holds of every operation that releases nothing (`Composes.keeping`).  With
the parts of a release (`ComposesRelease`) it holds of every operation that attempts nothing, and
with attempts (`ComposesAttempt`) of every operation.  The tasks of a script are put together from
operations in the same way (`ComposesTask.task`).
-/

namespace GpuHandles

/-- A property of actions that sequences of parts have if each part has it; the parts are those
of operations that release nothing. -/
structure Composes (P : {α : Type} → Action α → Prop) : Prop where
  compute {α : Type} (r : Except Fault α) : P (Action.ofExcept r)
  bind {α β : Type} {a : Action α} {f : α → Action β} : P a → (∀ x, P (f x)) → P (a >>= f)
  /-- an action that goes by the resources, and by how long the trace is -/
  look {α : Type} {f : World → Action α} :
    (∀ w v : World, v.resources = w.resources → v.trace.length = w.trace.length → f v = f w) →
      (∀ w, P (f w)) → P (get >>= f)
  tell (logger : Logger) (text : String) : P (Action.write .debug logger text)
  add (r : Resource) : P (Ownership.construct r)
  /-- a call of an entry point, whose arguments are computed once it is looked up -/
  call {α : Type} (e : EntryPoint) (r : Except Fault α) (c : α → NativeCall) :
    (∀ x, (c x).entryPoint = e) → e.releases = false →
      P (Loading.resolve e >>= fun l => Action.ofExcept r >>= fun x => Loading.invoke l (c x))

/-- A property that releases have as well. -/
structure ComposesRelease (P : {α : Type} → Action α → Prop) : Prop extends Composes P where
  retire (id : Nat) (r : Resource) : P (modify fun w => w.setResource id r.retired)
  callRelease (c : NativeCall) : c.entryPoint.releases = true →
    P (Loading.resolve c.entryPoint >>= fun l => Loading.invoke l c)

/-- A property that an attempt has as well, and the line of the log that tells of its failure. -/
structure ComposesAttempt (P : {α : Type} → Action α → Prop) : Prop
    extends ComposesRelease P where
  attempt {α : Type} {a : Action α} : P a → P (Action.attempt a)
  tellFailure (text : String) : P (Action.write .error .ownership text)

namespace Composes

variable {P : {α : Type} → Action α → Prop} {α β : Type} (h : Composes P)
include h

theorem pure (x : α) : P (Pure.pure x : Action α) := h.compute (.ok x)

theorem throw (f : Fault) : P (MonadExcept.throw f : Action α) := h.compute (.error f)

theorem map (f : α → β) {a : Action α} (ha : P a) : P (f <$> a) := by
  rw [map_eq_pure_bind]
  exact h.bind ha fun x => h.pure (f x)

theorem discard {a : Action α} (ha : P a) : P (Functor.discard a) :=
  h.bind ha fun _ => h.pure _

theorem silent {a : Action Unit} (ha : P a) : P (Operation.silent a) :=
  h.bind ha fun _ => h.pure _

theorem active (id : Nat) : P (Ownership.active id) := by
  refine h.look (fun w v same _ => by simp only [World.resource_congr same]) fun w => ?_
  dsimp only
  split
  · exact h.throw _
  · exact h.pure _

theorem check (code : Int) : P (Loading.check code) := by
  unfold Loading.check
  split
  · exact h.pure _
  · exact h.throw _

theorem constructed (r : Resource) : P (Ownership.constructed r) :=
  h.bind (h.add r) fun _ => h.pure _

/-- A call whose arguments are computed, with what comes after it. -/
theorem computedCall {e : EntryPoint} {r : Except Fault α} {c : α → NativeCall}
    {f : Int × Output → Action β} (entry : ∀ x, (c x).entryPoint = e) (keeps : e.releases = false)
    (rest : ∀ x, P (f x)) :
    P (Loading.resolve e >>= fun l =>
      Action.ofExcept r >>= fun x => Loading.invoke l (c x) >>= f) := by
  have all := h.bind (h.call e r c entry keeps) rest
  simpa only [bind_assoc] using all

/-- A call, with what comes after it. -/
theorem plainCall {c : NativeCall} {f : Int × Output → Action β}
    (keeps : c.entryPoint.releases = false) (rest : ∀ x, P (f x)) :
    P (Loading.resolve c.entryPoint >>= fun l => Loading.invoke l c >>= f) :=
  h.computedCall (r := .ok ()) (c := fun _ => c) (fun _ => rfl) keeps rest

theorem request {c : NativeCall} (keeps : c.entryPoint.releases = false) :
    P (Loading.request c) :=
  h.plainCall keeps fun _ => h.bind (h.check _) fun _ => h.pure _

/-! ## Memory -/

theorem allocateBy (call : Int → NativeCall) (keeps : ∀ n, (call n).entryPoint.releases = false)
    (size : Value) : P (Memory.allocateBy call size) :=
  h.bind (h.compute _) fun n => h.bind (h.request (keeps n)) fun _ =>
    h.bind (h.constructed _) fun _ => h.bind (h.tell _ _) fun _ => h.pure _

theorem handleOf (v : Value) : P (Memory.handleOf v) := by
  unfold Memory.handleOf
  split
  · exact h.bind (h.active _) fun _ => h.pure _
  · exact h.compute _

theorem addressOf (v : Value) : P (Memory.addressOf v) := by
  unfold Memory.addressOf
  split
  · exact h.bind (h.active _) fun _ => h.pure _
  · exact h.compute _

theorem checkFits (size bytes : Value) (what : String) : P (Memory.checkFits size bytes what) := by
  refine h.look (fun w v same _ => by simp only [World.name_congr same]) fun w => ?_
  refine h.bind (h.compute _) fun above => ?_
  split
  · exact h.throw _
  · exact h.pure _

theorem copyTo (id : Nat) (target kind : Value) : P (Memory.copyTo id target kind) := by
  refine h.bind (h.active id) fun source => ?_
  split
  · exact h.throw _
  · refine h.bind (h.addressOf target) fun (destination, address) => ?_
    dsimp only
    split
    · exact h.throw _
    · exact h.bind (h.checkFits _ _ _) fun _ =>
        h.computedCall (fun _ => rfl) rfl fun _ => h.check _

theorem copyFromHost (id : Nat) (source : Value) : P (Memory.copyFromHost id source) := by
  refine h.bind (h.active id) fun r => h.bind (h.compute _) fun host => ?_
  refine h.bind (h.checkFits _ _ _) fun _ => ?_
  split
  · exact h.pure _
  · exact h.discard (h.request rfl)

theorem targetArray (r : Resource) (type out : Value) : P (Memory.targetArray r type out) := by
  unfold Memory.targetArray
  split
  · exact h.look (fun w v same _ => by simp only [World.name_congr same]) fun w =>
      h.bind (h.compute _) fun type => h.compute _
  · split
    · exact h.throw _
    · exact h.bind (h.checkFits _ _ _) fun _ => h.pure _
  · exact h.throw _
  · exact h.compute _

theorem copyToHost (id : Nat) (type out : Value) : P (Memory.copyToHost id type out) := by
  refine h.bind (h.active id) fun r => h.bind (h.targetArray _ _ _) fun target => ?_
  split
  · exact h.pure _
  · refine h.bind (h.request rfl) fun reply => ?_
    split
    · exact h.look (fun w v _ same => by simp only [Memory.numbered, same]) fun _ => h.pure _
    · exact h.pure _

theorem checkByte (v : Value) : P (Memory.checkByte v) := by
  refine h.look (fun w v same _ => by simp only [World.name_congr same]) fun w => ?_
  refine h.bind (h.compute _) fun enough => ?_
  have bounded : P (if enough then Action.ofExcept (v.compare .atMost (.int 255))
      else Pure.pure false) := by
    split
    · exact h.compute _
    · exact h.pure _
  refine h.bind bounded fun fits => ?_
  split
  · exact h.pure _
  · exact h.throw _

theorem fillTo (r : Resource) (value n : Value) : P (Memory.fillTo r value n) := by
  refine h.bind (h.checkFits _ _ _) fun _ => h.bind (h.compute _) fun empty => ?_
  split
  · exact h.pure _
  · exact h.discard (h.request rfl)

theorem fill (id : Nat) (value size : Value) : P (Memory.fill id value size) := by
  refine h.bind (h.active id) fun r => h.bind (h.checkByte value) fun _ => ?_
  split
  · exact h.bind (h.pure _) fun n => h.fillTo r value n
  · exact h.bind (h.map _ (h.compute _)) fun n => h.fillTo r value n

/-! ## Devices, streams and pools -/

theorem select (device : Value) : P (Device.select device) := by
  have counted : P Device.count := h.bind (h.request rfl) fun _ => h.pure _
  refine h.bind (h.compute _) fun id => h.bind counted fun n => h.bind (h.compute _) fun inside => ?_
  split
  · exact h.bind (h.discard (h.request rfl)) fun _ => h.bind (h.tell _ _) fun _ => h.pure _
  · exact h.look (fun w v same _ => by simp only [World.name_congr same]) fun _ => h.throw _

theorem peerAttribute (code source target : Value) :
    P (Device.peerAttribute code source target) := by
  have all := h.computedCall (e := .peerAttribute)
    (r := do
      let code ← code.toWhole
      let source ← Pool.deviceId source
      let target ← Pool.deviceId target
      return (code, source, target))
    (c := fun p => .peerAttribute p.1 p.2.1 p.2.2)
    (f := fun p => do
      Loading.check p.1
      return Value.int (p.2.storedInt (-1)))
    (fun _ => rfl) rfl fun _ => h.bind (h.check _) fun _ => h.pure _
  have one {α : Type} (x : α) : Action.ofExcept (Pure.pure x) = Pure.pure x := rfl
  simp only [Action.ofExcept_bind, bind_assoc, one, pure_bind] at all
  exact all

theorem busId (device : Value) : P (Device.busId device) := by
  refine h.bind (h.request rfl) fun out => ?_
  split
  · exact h.pure _
  · exact h.throw _

theorem query (id : Nat) : P (Stream.query id) := by
  refine h.bind (h.active id) fun r => ?_
  refine h.plainCall (c := .streamQuery r.payload.address) rfl fun (code, _) => ?_
  dsimp only
  split
  · exact h.pure _
  · exact h.bind (h.check _) fun _ => h.pure _

theorem defaultOf (device : Value) : P (Pool.defaultOf device) :=
  h.bind (h.request rfl) fun _ => h.constructed _

theorem createPool (props : Value) : P (Pool.create props) := by
  refine h.look (fun w v same _ => ?_) fun _ => ?_
  · simp only [Pool.description, World.countsAsTrue_congr same]
  · exact h.bind (h.compute _) fun _ => h.bind (h.compute _) fun _ => h.bind (h.request rfl)
      fun _ => h.bind (h.constructed _) fun _ => h.bind (h.tell _ _) fun _ => h.pure _

theorem trim (id : Nat) (keep : Value) : P (Pool.trim id keep) := by
  refine h.bind (h.active id) fun r => ?_
  refine h.look (fun w v same _ => by simp only [World.name_congr same]) fun w => ?_
  refine h.bind (h.compute _) fun negative => ?_
  split
  · exact h.throw _
  · exact h.discard (h.request rfl)

/-! ## Operations -/

theorem answer (device : Value) (question : DeviceQuestion) :
    P (Operation.answer device question) := by
  cases question with
  | name | totalMemory | uuid => exact h.bind (h.request rfl) fun _ => h.pure _
  | computeCapability =>
    refine h.bind (h.request rfl) fun out => ?_
    dsimp only
    split <;> exact h.pure _
  | busId => exact h.busId device
  | attributeValue code =>
    exact h.computedCall (fun _ => rfl) rfl fun _ => h.bind (h.check _) fun _ => h.pure _
  | defaultPool => exact h.defaultOf device

/-- **An operation that is to release no resource** has every property that composes. -/
theorem keeping (op : Operation) (keeps : op.subject = none) : P op.perform := by
  cases op with
  | start => exact h.silent (h.bind (h.discard (h.request rfl)) fun _ => h.tell _ _)
  | runtimeVersion | driverVersion | currentDevice =>
    exact h.bind (h.request rfl) fun _ => h.pure _
  | deviceCount => exact h.bind (h.bind (h.request rfl) fun _ => h.pure _) fun _ => h.pure _
  | selectDevice device => exact h.select device
  | synchronizeDevice => exact h.silent (h.discard (h.request rfl))
  | ask device question => exact h.answer device question
  | deviceOfBusId text =>
    exact h.computedCall (fun _ => rfl) rfl fun _ => h.bind (h.check _) fun _ => h.pure _
  | peerAttribute code source target => exact h.peerAttribute code source target
  | allocate size => exact h.allocateBy _ (fun _ => rfl) size
  | allocateFlagged size flags =>
    exact h.bind (h.compute _) fun _ => h.allocateBy _ (fun _ => rfl) size
  | allocateOrdered size stream =>
    exact h.bind (h.handleOf stream) fun _ => h.allocateBy _ (fun _ => rfl) size
  | allocateFromPool pool size stream =>
    exact h.bind (h.active pool) fun _ => h.bind (h.handleOf stream) fun _ =>
      h.allocateBy _ (fun _ => rfl) size
  | free pointer =>
    refine h.silent ?_
    unfold Memory.free
    split
    · cases keeps
    · exact h.throw _
  | memoryInfo =>
    refine h.bind (h.request rfl) fun out => ?_
    dsimp only
    split <;> exact h.pure _
  | copyTo id target kind => exact h.silent (h.copyTo id target kind)
  | copyFromHost id source => exact h.silent (h.copyFromHost id source)
  | copyToHost id type out => exact h.copyToHost id type out
  | fill id value size => exact h.silent (h.fill id value size)
  | createStream =>
    exact h.bind (h.request rfl) fun _ => h.bind (h.constructed _) fun _ =>
      h.bind (h.tell _ _) fun _ => h.pure _
  | queryStream id => exact h.query id
  | synchronizeStream id =>
    exact h.silent (h.bind (h.active id) fun _ => h.discard (h.request rfl))
  | createPool props => exact h.createPool props
  | defaultPool device => exact h.bind (h.compute _) fun id => h.defaultOf id
  | trimPool id keep => exact h.silent (h.trim id keep)
  | wrap => exact h.constructed _
  | readHandle id | readAddress id => exact h.bind (h.active id) fun _ => h.pure _
  | enter id => exact h.silent (h.discard (h.active id))
  | release | leave | finalize => cases keeps

end Composes

/-! ## Releases -/

/-- Does an operation attempt a release, and go on if it fails? -/
def Operation.attempts : Operation → Bool
  | leave .. | finalize _ => true
  | _ => false

namespace ComposesRelease

variable {P : {α : Type} → Action α → Prop} (h : ComposesRelease P)
include h

theorem requestRelease {c : NativeCall} (releases : c.entryPoint.releases = true) :
    P (Loading.request c) := by
  have all := h.bind (h.callRelease c releases) fun x =>
    h.bind (h.check x.1) fun _ => h.pure x.2
  simp only [bind_assoc] at all
  exact all

theorem releaseNative (p : Payload) : P (Ownership.releaseNative p) := by
  cases p with
  | pointer | stream | pool => exact h.discard (h.requestRelease rfl)
  | plain => exact h.throw _

theorem release (id : Nat) : P (Ownership.release id) := by
  refine h.bind (h.active id) fun r => h.bind (h.retire id r) fun _ => ?_
  refine h.look (fun w v same _ => ?_) fun w => h.bind (h.compute _) fun owned => ?_
  · simp only [World.countsAsTrue_congr same, World.name_congr same]
  · split
    · exact h.bind (h.tell _ _) fun _ => h.releaseNative _
    · exact h.pure _

theorem free (v : Value) : P (Memory.free v) := by
  unfold Memory.free
  split
  · exact h.release _
  · exact h.throw _

/-- **An operation that attempts nothing** has every property that composes with releases. -/
theorem perform (op : Operation) (raises : op.attempts = false) : P op.perform := by
  cases op with
  | free pointer => exact h.silent (h.free pointer)
  | release id => exact h.silent (h.release id)
  | leave | finalize => cases raises
  | _ => exact h.keeping _ rfl

end ComposesRelease

namespace ComposesAttempt

variable {P : {α : Type} → Action α → Prop} (h : ComposesAttempt P)
include h

theorem leave (id : Nat) (body : Option Fault) : P (Ownership.leave id body) := by
  refine h.look (fun w v same _ => by simp only [World.resource_congr same]) fun w => ?_
  dsimp only
  split
  · cases body with
    | some f => exact h.throw f
    | none => exact h.pure _
  · cases body with
    | none => exact h.release id
    | some f =>
      refine h.bind (h.attempt (h.release id)) fun r => ?_
      split
      · exact h.bind (h.tellFailure _) fun _ => h.throw f
      · exact h.throw _
      · exact h.throw f

theorem finalize (id : Nat) : P (Ownership.finalize id) := by
  refine h.look (fun w v same _ => by simp only [World.resource_congr same]) fun w => ?_
  dsimp only
  split
  · exact h.pure _
  · refine h.bind (h.attempt (h.release id)) fun r => ?_
    split
    · exact h.tellFailure _
    · exact h.pure _

/-- **Every operation** has every property that composes with attempts. -/
theorem performAny (op : Operation) : P op.perform := by
  cases op with
  | leave id body => exact h.silent (h.leave id body)
  | finalize id => exact h.silent (h.finalize id)
  | _ => exact h.perform _ rfl

end ComposesAttempt

/-! ## Tasks -/

open Script

/-- A property that the other parts of tasks have as well: the library asked for, and an entry
point looked up by itself. -/
structure ComposesTask (P : {α : Type} → Action α → Prop) : Prop extends ComposesRelease P where
  library : P Loading.library
  resolve (e : EntryPoint) : P (Loading.resolve e)

/-- What has to be known of a task besides: the property of an operation that a script performs
as such, and of what changes the machine, the host or the library from outside. -/
def Script.Task.Given (P : {α : Type} → Action α → Prop) : Task → Prop
  | plain op => P op.perform
  | failNext entry code => P (adjust (prepare entry code))
  | change settings => P (adjust fun m => settings.foldl Setting.apply m)
  | setEnvironment entries => P (modify fun w =>
      { w with host := entries.foldl (fun h v => h.setVariable v.1 v.2) w.host })
  | install target => P target.install
  | load path => P (Loading.load path)
  | _ => True

theorem Script.Method.attempts_operation (id : Nat) (m : Method) (values : List Value) :
    (m.operation id values).attempts = false := by
  unfold operation
  split <;> rfl

namespace ComposesTask

variable {P : {α : Type} → Action α → Prop} (h : ComposesTask P)
include h

theorem property (id : Nat) (p : Property) : P (p.read id) := by
  have looked {α : Type} {f : World → α} (same : ∀ w v : World, v.resources = w.resources →
      f v = f w) : P (get >>= fun w => pure (f w)) :=
    h.look (fun w v resources _ => by rw [same w v resources]) fun w => h.pure _
  cases p with
  | released | owned | isNull | props =>
    exact looked fun w v same => by simp only [World.resource_congr same]
  | handle => exact h.perform (.readHandle id) rfl
  | address => exact h.perform (.readAddress id) rfl
  | size => exact looked fun w v same => by rw [World.sizeOf_congr same]

theorem read (v : Value) (name : String) : P (Attribute.read v name) := by
  unfold Attribute.read
  split
  · unfold Attribute.ofHandle
    split
    · exact h.pure _
    · exact h.bind (h.property _ _) fun _ => h.pure _
    · exact h.compute _
  · exact h.compute _
  · exact h.compute _
  · exact h.compute _
  · split
    · exact h.pure _
    · exact h.compute _

theorem attributeOf (names : Bindings) (name attr : String) :
    P (Task.attributeOf names name attr) :=
  h.bind (h.compute _) fun _ => h.read _ _

theorem callAttribute (positions : List Value) (named : List (String × Value)) (a : Attribute) :
    P (a.call positions named) := by
  cases a with
  | value v => exact h.throw _
  | callable c =>
    cases c with
    | method id _ m =>
      exact h.bind (h.compute _) fun _ => h.perform _ (m.attempts_operation id _)
    | question => exact h.bind (h.compute _) fun _ => h.perform _ rfl
    | change => exact h.bind (h.compute _) fun _ => h.pure _

/-- **A task** has every property that composes, if what it is given has. -/
theorem task (names : Bindings) (t : Script.Task) (given : t.Given P) : P (t.perform names) := by
  have evaluate (e : Expression) : P (Task.evaluate names e) := h.compute _
  cases t with
  | plain op => exact given
  | selectDevice e | deviceOfBusId e | allocate e | free e | createPool e | defaultPool e =>
    exact h.bind (evaluate e) fun _ => h.perform _ rfl
  | askDevice id method positions =>
    exact h.bind (evaluate id) fun _ => h.bind (h.read _ _) fun _ =>
      h.bind (h.compute _) fun _ => h.callAttribute _ _ _
  | peerAttribute code source target =>
    exact h.bind (evaluate code) fun _ => h.bind (evaluate source) fun _ =>
      h.bind (evaluate target) fun _ => h.perform _ rfl
  | allocateFlagged size flags | allocateOrdered size flags =>
    exact h.bind (evaluate _) fun _ => h.bind (evaluate _) fun _ => h.perform _ rfl
  | allocateFromPool pool size stream =>
    exact h.bind (h.attributeOf _ _ _) fun _ => h.bind (evaluate size) fun _ =>
      h.bind (evaluate stream) fun _ => h.callAttribute _ _ _
  | wrap cls handle size owned =>
    refine h.bind (evaluate handle) fun _ => h.bind (evaluate size) fun _ =>
      h.bind (h.compute _) fun _ => ?_
    dsimp only
    split
    · exact h.bind (evaluate owned) fun _ => h.perform _ rfl
    · exact h.bind (h.pure _) fun _ => h.perform _ rfl
  | call name method positions named =>
    exact h.bind (h.compute _) fun _ => h.bind (h.attributeOf _ _ _) fun _ =>
      h.bind (h.compute _) fun _ => h.callAttribute _ _ _
  | read name attr =>
    refine h.bind (h.compute _) fun object => h.bind (h.read _ _) fun a => ?_
    cases a with
    | value v => exact h.pure v
    | callable c => exact h.compute _
  | length name =>
    have measured (v : Value) : P (Memory.length v) :=
      h.look (fun w v same _ => by rw [World.sizeOf_congr same]) fun w => h.compute _
    exact h.bind (h.compute _) fun v => h.bind (measured v) fun _ => h.pure _
  | describe name =>
    refine h.bind (h.compute _) fun v => ?_
    exact h.look (fun w v same _ => by rw [World.name_congr same]) fun w => h.pure _
  | failNext | change => exact given
  | setEnvironment => exact h.bind given fun _ => h.pure _
  | install => exact h.silent given
  | library => exact h.bind h.library fun _ => h.pure _
  | load => exact h.bind given fun _ => h.pure _
  | symbol name =>
    refine h.silent (h.bind h.library fun l => ?_)
    split
    · exact h.discard (h.resolve _)
    · exact h.throw _
    · exact h.throw _

end ComposesTask
end GpuHandles
