import GpuHandles.Proofs.Uses
/-!
The calls of the operations that neither make a resource nor release one.

Each operation has its entry points (`Operation.entries`).  `perform_calls` goes through the
operations with the rules for actions: a call of an operation names one of its entry points,
and the handles in its arguments are those of active resources.
-/

namespace GpuHandles

/-- The entry point for a question about a device. -/
def DeviceQuestion.entry : DeviceQuestion → EntryPoint
  | name => .deviceName
  | totalMemory => .totalMemory
  | computeCapability => .computeCapability
  | uuid => .deviceUuid
  | busId => .busId
  | attributeValue _ => .deviceAttribute
  | defaultPool => .defaultPool

/-- A fill of a number of bytes. -/
def Memory.fillTo (r : Resource) (value n : Value) : Action Unit := do
  checkFits r.payload.size n "memset"
  if ← Action.ofExcept (n.sameAs (.int 0)) then return ()
  else discard (Loading.request (.fill r.payload.address value n))

namespace Operation

/-- The entry points that an operation calls; those of a release are not its own. -/
def entries : Operation → List EntryPoint
  | start => [.start]
  | runtimeVersion => [.runtimeVersion]
  | driverVersion => [.driverVersion]
  | deviceCount => [.deviceCount]
  | currentDevice => [.currentDevice]
  | selectDevice _ => [.deviceCount, .setDevice]
  | synchronizeDevice => [.synchronize]
  | ask _ question => [question.entry]
  | deviceOfBusId _ => [.deviceByBusId]
  | peerAttribute .. => [.peerAttribute]
  | allocate _ => [.allocate]
  | allocateFlagged .. => [.allocateFlagged]
  | allocateOrdered .. => [.allocateOrdered]
  | allocateFromPool .. => [.allocateFromPool]
  | memoryInfo => [.memoryInfo]
  | copyTo .. | copyFromHost .. | copyToHost .. => [.copy]
  | fill .. => [.fill]
  | createStream => [.streamCreate]
  | queryStream _ => [.streamQuery]
  | synchronizeStream _ => [.streamSynchronize]
  | createPool _ => [.poolCreate]
  | defaultPool _ => [.defaultPool]
  | trimPool .. => [.poolTrim]
  | free _ | wrap .. | readHandle _ | readAddress _ | release _ | enter _ | leave ..
  | finalize _ => []

/-- The resource that an operation is to release. -/
def subject : Operation → Option Nat
  | free (.handle id .pointer) | release id | leave id _ | finalize id => some id
  | _ => none

/-- Does an operation make a resource? -/
def makes : Operation → Bool
  | allocate _ | allocateFlagged .. | allocateOrdered .. | allocateFromPool .. | createStream
  | createPool _ | defaultPool _ | ask _ .defaultPool | wrap .. => true
  | _ => false

/-- What holds of a call that an operation makes while the resources are `rs`. -/
def Allows (op : Operation) (rs : List Resource) (c : NativeCall) : Prop :=
  c.entryPoint ∈ op.entries ∧ ∀ h ∈ c.handles, Live rs h

variable {rs : List Resource} {op : Operation}

theorem allows_of_arriving {l : Library} {c c' : NativeCall} (entry : c.entryPoint ∈ op.entries)
    (addressed : c.addressed) (live : ∀ h ∈ c.handles, Live rs h)
    (arrived : Loading.arriving l c = .ok c') : op.Allows rs c' := by
  obtain ⟨same, handles⟩ := Loading.arriving_keeps arrived
  exact ⟨same ▸ entry, handles addressed ▸ live⟩

/-- An action whose calls an operation may make. -/
abbrev Calls (op : Operation) (rs : List Resource) {α : Type} (a : Action α) : Prop :=
  a.Within (fun _ c => op.Allows rs c) rs fun _ => True

/-- A request of an operation, checked or not. -/
theorem request_calls {c : NativeCall} (entry : c.entryPoint ∈ op.entries)
    (addressed : c.addressed) (live : ∀ h ∈ c.handles, Live rs h) :
    op.Calls rs (Loading.request c) :=
  .request fun _ _ arrived _ => allows_of_arriving entry addressed live arrived

theorem invoke_calls {l : Library} {c : NativeCall} (entry : c.entryPoint ∈ op.entries)
    (addressed : c.addressed) (live : ∀ h ∈ c.handles, Live rs h) :
    op.Calls rs (Loading.invoke l c) :=
  .invoke fun _ arrived _ => allows_of_arriving entry addressed live arrived

/-- A request whose reply is read. -/
theorem request_reads {α : Type} {c : NativeCall} {f : Output → Action α}
    (entry : c.entryPoint ∈ op.entries) (addressed : c.addressed)
    (live : ∀ h ∈ c.handles, Live rs h) (rest : ∀ out, op.Calls rs (f out)) :
    op.Calls rs (Loading.request c >>= f) :=
  (request_calls entry addressed live).bind fun out _ => rest out

theorem checkFits_calls (size bytes : Value) (what : String) :
    op.Calls rs (Memory.checkFits size bytes what) := by
  refine Action.Within.get.bind fun w _ => ?_
  refine (Action.Within.compute _).bind fun above _ => ?_
  split
  · exact .throw _
  · exact .done _

theorem targetArray_calls (r : Resource) (type out : Value) :
    op.Calls rs (Memory.targetArray r type out) := by
  unfold Memory.targetArray
  split
  · refine Action.Within.get.bind fun w _ => ?_
    exact (Action.Within.compute _).bind fun type _ => .compute _
  · split
    · exact .throw _
    · exact (checkFits_calls _ _ _).bind fun _ _ => .done _
  · exact .throw _
  · exact .compute _

/-- The operand of a copy between allocations is read while it is active. -/
theorem addressOf_within {P : Machine → NativeCall → Prop} (target : Value) :
    (Memory.addressOf target).Within P rs fun p =>
      (p.1 ∈ rs ∧ p.1.released = false) ∧ p.2 = p.1.payload.address := by
  unfold Memory.addressOf
  split
  · exact (Action.Within.active _).bind fun r hr => .pure ⟨hr, rfl⟩
  · exact .ofExcept fun _ h => by cases h

theorem copyTo_calls (id : Nat) (target kind : Value) :
    (copyTo id target kind).Calls rs (Memory.copyTo id target kind) := by
  refine (Action.Within.active id).bind fun source hs => ?_
  split
  · exact .throw _
  · refine (addressOf_within target).bind fun (destination, address) ⟨hd, eq⟩ => ?_
    dsimp only at hd eq ⊢
    split
    · exact .throw _
    · refine (checkFits_calls _ _ _).bind fun _ _ => ?_
      refine (Action.Within.resolve .copy).bind fun l _ => ?_
      refine (Action.Within.compute _).bind fun k _ => ?_
      refine Action.Within.bind (invoke_calls (.head _) rfl fun h mem => ?_) fun (code, _) _ =>
        .check code
      subst eq
      rcases List.mem_append.1 mem with mem | mem
      · exact live_of_address hd h mem
      · exact live_of_address hs h mem

theorem copyFromHost_calls (id : Nat) (source : Value) :
    (copyFromHost id source).Calls rs (Memory.copyFromHost id source) := by
  refine (Action.Within.active id).bind fun r hr => ?_
  refine (Action.Within.compute _).bind fun host _ => ?_
  refine (checkFits_calls _ _ _).bind fun _ _ => ?_
  split
  · exact .done _
  · refine (request_calls (.head _) rfl fun h mem => live_of_address hr h ?_).discard
    simpa [NativeCall.handles, Place.carried] using mem

theorem copyToHost_calls (id : Nat) (type out : Value) :
    (copyToHost id type out).Calls rs (Memory.copyToHost id type out) := by
  refine (Action.Within.active id).bind fun r hr => ?_
  refine (targetArray_calls _ _ _).bind fun target _ => ?_
  split
  · exact .done _
  · refine request_reads (.head _) rfl (fun h mem => live_of_address hr h ?_) ?_
    · simpa [NativeCall.handles, Place.carried] using mem
    · intro reply
      split
      · exact Action.Within.get.bind fun w _ => .done _
      · exact .done _

theorem checkByte_calls (v : Value) : op.Calls rs (Memory.checkByte v) := by
  refine Action.Within.get.bind fun w _ => ?_
  refine (Action.Within.compute _).bind fun enough _ => ?_
  have bounded : op.Calls rs
      (if enough then Action.ofExcept (v.compare .atMost (.int 255)) else pure false) := by
    split
    · exact .compute _
    · exact .done _
  refine bounded.bind fun fits _ => ?_
  split
  · exact .done _
  · exact .throw _

theorem fillTo_calls {id : Nat} {value size : Value} {r : Resource}
    (hr : r ∈ rs ∧ r.released = false) (n : Value) :
    (fill id value size).Calls rs (Memory.fillTo r value n) := by
  refine (checkFits_calls _ _ _).bind fun _ _ => ?_
  refine (Action.Within.compute _).bind fun empty _ => ?_
  split
  · exact .done _
  · refine (request_calls (.head _) rfl ?_).discard
    exact live_of_address hr

theorem fill_calls (id : Nat) (value size : Value) :
    (fill id value size).Calls rs (Memory.fill id value size) := by
  refine (Action.Within.active id).bind fun r hr => ?_
  refine (checkByte_calls value).bind fun _ _ => ?_
  split
  · exact (Action.Within.done _).bind fun n _ => fillTo_calls hr n
  · exact ((Action.Within.compute _).map Value.int).bind fun n _ => fillTo_calls hr n

theorem deviceId_calls (v : Value) : op.Calls rs (Action.ofExcept (Pool.deviceId v)) := .compute _

theorem select_calls (device : Value) :
    (selectDevice device).Calls rs (Device.select device) := by
  refine (deviceId_calls device).bind fun n _ => ?_
  refine Action.Within.bind (request_reads (.head _) rfl (List.forall_mem_nil _)
    fun _ => .done _) fun count _ => ?_
  refine (Action.Within.compute _).bind fun inside _ => ?_
  split
  · refine (request_calls (.tail _ (.head _)) rfl (List.forall_mem_nil _)).discard.bind
      fun _ _ => ?_
    exact (Action.Within.write _ _ _).bind fun _ _ => .done _
  · exact Action.Within.get.bind fun w _ => .throw _

theorem answer_calls (device : Value) (question : DeviceQuestion)
    (uses : (ask device question).makes = false) :
    (ask device question).Calls rs (answer device question) := by
  cases question with
  | name | totalMemory | computeCapability | uuid =>
    exact request_reads (.head _) rfl (List.forall_mem_nil _) fun out => .done _
  | busId =>
    refine request_reads (.head _) rfl (List.forall_mem_nil _) fun out => ?_
    split
    · exact .done _
    · exact .throw _
  | attributeValue code =>
    refine (Action.Within.resolve _).bind fun l _ => ?_
    refine (Action.Within.compute _).bind fun code _ => ?_
    refine (invoke_calls (.head _) rfl (List.forall_mem_nil _)).bind fun p _ => ?_
    exact (Action.Within.check _).bind fun _ _ => .done _
  | defaultPool => cases uses

theorem ofBusId_calls (text : Value) :
    (deviceOfBusId text).Calls rs (Device.ofBusId text) := by
  refine (Action.Within.resolve _).bind fun l _ => ?_
  refine (Action.Within.compute _).bind fun bs _ => ?_
  refine (invoke_calls (.head _) rfl (List.forall_mem_nil _)).bind fun p _ => ?_
  exact (Action.Within.check _).bind fun _ _ => .done _

theorem peerAttribute_calls (code source target : Value) :
    (peerAttribute code source target).Calls rs (Device.peerAttribute code source target) := by
  refine (Action.Within.resolve _).bind fun l _ => ?_
  refine (Action.Within.compute _).bind fun code _ => ?_
  refine (deviceId_calls source).bind fun s _ => ?_
  refine (deviceId_calls target).bind fun t _ => ?_
  refine (invoke_calls (.head _) rfl (List.forall_mem_nil _)).bind fun p _ => ?_
  exact (Action.Within.check _).bind fun _ _ => .done _

theorem query_calls (id : Nat) : (queryStream id).Calls rs (Stream.query id) := by
  refine (Action.Within.active id).bind fun r hr => ?_
  refine (Action.Within.resolve _).bind fun l _ => ?_
  refine Action.Within.bind (invoke_calls (.head _) rfl ?_) ?_
  · exact live_of_address hr
  · intro p _
    dsimp only
    split
    · exact .done _
    · exact (Action.Within.check _).bind fun _ _ => .done _

theorem trim_calls (id : Nat) (keep : Value) :
    (trimPool id keep).Calls rs (Pool.trim id keep) := by
  refine (Action.Within.active id).bind fun r hr => ?_
  refine Action.Within.get.bind fun w _ => ?_
  refine (Action.Within.compute _).bind fun negative _ => ?_
  split
  · exact .throw _
  · refine (request_calls (.head _) rfl ?_).discard
    exact live_of_address hr

/-- **What an operation calls** that neither makes a resource nor is to release one. -/
theorem perform_calls (op : Operation) (uses : op.makes = false) (keeps : op.subject = none) :
    op.Calls rs op.perform := by
  cases op with
  | start =>
    exact ((request_calls (.head _) rfl (List.forall_mem_nil _)).discard.bind
      fun _ _ => .write _ _ _).silent
  | runtimeVersion | driverVersion | currentDevice =>
    exact request_reads (.head _) rfl (List.forall_mem_nil _) fun out => .done _
  | deviceCount =>
    exact (request_reads (.head _) rfl (List.forall_mem_nil _) fun out => .done _).bind
      fun n _ => .done _
  | selectDevice device => exact select_calls device
  | synchronizeDevice =>
    exact (request_calls (.head _) rfl (List.forall_mem_nil _)).discard.silent
  | ask device question => exact answer_calls device question uses
  | deviceOfBusId text => exact ofBusId_calls text
  | peerAttribute code source target => exact peerAttribute_calls code source target
  | free pointer =>
    have refused : (free pointer).Calls rs (Memory.free pointer) := by
      unfold Memory.free
      split
      · cases keeps
      · exact .throw _
    exact refused.silent
  | memoryInfo =>
    refine request_reads (.head _) rfl (List.forall_mem_nil _) fun out => ?_
    dsimp only
    split <;> exact .done _
  | copyTo id target kind => exact (copyTo_calls id target kind).silent
  | copyFromHost id source => exact (copyFromHost_calls id source).silent
  | copyToHost id type out => exact copyToHost_calls id type out
  | fill id value size => exact (fill_calls id value size).silent
  | queryStream id => exact query_calls id
  | synchronizeStream id =>
    refine ((Action.Within.active id).bind fun r hr => ?_).silent
    refine (request_calls (.head _) rfl ?_).discard
    exact live_of_address hr
  | trimPool id keep => exact (trim_calls id keep).silent
  | readHandle id | readAddress id => exact (Action.Within.active id).bind fun r _ => .done _
  | enter id => exact ((Action.Within.active id).discard).silent
  | allocate | allocateFlagged | allocateOrdered | allocateFromPool | createStream | createPool
  | defaultPool | wrap => cases uses
  | release | leave | finalize => cases keeps

end Operation
end GpuHandles
