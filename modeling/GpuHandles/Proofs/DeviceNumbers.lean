import GpuHandles.Proofs.FailedOperation
import GpuHandles.Proofs.Requests
import GpuHandles.Proofs.Session
import GpuHandles.Proofs.Twin
/-!
Numbers of devices that are not there.

A script may write down any number for a device.  Making a device current checks the number
first; every other use hands it on, and the machine refuses a number outside its range
(`Machine.perform_outside`).  What the machine sees is the number that arrives: called as it is
it gets the number itself, through a loaded library it gets the low 32 bits of it
(`Library.carried`).  So a number is refused wherever it goes, if an `int` holds it; a longer one
stands for whatever device its low bits name (`device_outside`).
-/

namespace GpuHandles

/-! ## Numbers on their way -/

namespace Library

/-- The number of a device as it is when it has passed a library. -/
def carried : Library → Int → Int
  | .direct, n => n
  | .loaded .., n => Width.int32 n

/-- What passes a library unchanged. -/
theorem carried_eq_iff (l : Library) (n : Int) :
    l.carried n = n ↔ l = .direct ∨ Width.InInt n := by
  cases l with
  | direct => exact ⟨fun _ => .inl rfl, fun _ => rfl⟩
  | loaded path found =>
    constructor
    · intro kept
      exact .inr (Width.int32_eq_self_iff.1 kept)
    · rintro (direct | fits)
      · cases direct
      · exact Width.int32_of_in fits

/-- The second library on a way takes nothing away. -/
theorem carried_carried (l : Library) (n : Int) : l.carried (l.carried n) = l.carried n := by
  cases l with
  | direct => rfl
  | loaded => exact Int.bmod_bmod

end Library

namespace NativeCall

/-- The devices in a call. -/
def devices : NativeCall → List Value
  | setDevice device | deviceName _ device | totalMemory device | computeCapability device
  | deviceUuid device | busId _ device | deviceAttribute _ device | defaultPool device => [device]
  | peerAttribute _ source target => [source, target]
  | _ => []

/-- A call about a device, in which every device is given by a whole number. -/
structure About (c : NativeCall) (n : Int) : Prop where
  whole : ∀ v ∈ c.devices, ∃ k, v = .int k
  mem : .int n ∈ c.devices

variable {c : NativeCall} {n : Int}

theorem About.single {device : Value} (h : c.About n) (only : c.devices = [device]) :
    device = .int n :=
  (List.mem_singleton.1 (only ▸ h.mem)).symm

theorem About.of_single (only : c.devices = [.int n]) : c.About n where
  whole _ hv := ⟨n, List.mem_singleton.1 (only ▸ hv)⟩
  mem := only ▸ .head _

theorem About.source {code a b : Int} : (peerAttribute code (.int a) (.int b)).About a where
  whole v hv := by
    rcases List.mem_cons.1 hv with rfl | hv
    · exact ⟨a, rfl⟩
    · exact ⟨b, List.mem_singleton.1 hv⟩
  mem := .head _

theorem About.target {code a b : Int} : (peerAttribute code (.int a) (.int b)).About b where
  whole := About.source.whole
  mem := .tail _ (.head _)

/-- The two devices of a call about a pair. -/
theorem About.pair {code : Int} {source target : Value}
    (h : (peerAttribute code source target).About n) :
    ∃ a b, source = .int a ∧ target = .int b ∧ (n = a ∨ n = b) := by
  obtain ⟨a, rfl⟩ := h.whole source (.head _)
  obtain ⟨b, rfl⟩ := h.whole target (.tail _ (.head _))
  refine ⟨a, b, rfl, rfl, ?_⟩
  rcases List.mem_cons.1 h.mem with same | mem
  · exact .inl (Value.int.inj same)
  · exact .inr (Value.int.inj (List.mem_singleton.1 mem))

theorem narrowWhole_carried (path : Option String) (found : List EntryPoint) (position : Nat)
    (n : Int) : narrowWhole position Width.int32 (.int ((Library.loaded path found).carried n)) =
      narrowWhole position Width.int32 (.int n) :=
  congrArg (fun k => Except.ok (Value.int k)) ((Library.loaded path found).carried_carried n)

/-- **A call about a device arrives**, and the number in it is the one that was carried. -/
theorem About.arrives (l : Library) (h : c.About n) :
    ∃ c', Loading.arriving l c = .ok c' ∧ c'.About (l.carried n) := by
  cases l with
  | direct => exact ⟨c, rfl, h⟩
  | loaded =>
    cases c with
    | peerAttribute code source target =>
      obtain ⟨a, b, rfl, rfl, rfl | rfl⟩ := h.pair
      · exact ⟨_, rfl, .source⟩
      · exact ⟨_, rfl, .target⟩
    | setDevice | deviceName | totalMemory | computeCapability | deviceUuid | busId
    | deviceAttribute | defaultPool =>
      obtain rfl := h.single rfl
      exact ⟨_, rfl, .of_single rfl⟩
    | _ => cases h.mem

end NativeCall

/-! ## What the machine refuses -/

namespace Machine

/-- Is a number that of a device? -/
def Visible (m : Machine) (n : Int) : Prop := 0 ≤ n ∧ n < m.deviceCount

instance (m : Machine) (n : Int) : Decidable (m.Visible n) := inferInstanceAs (Decidable (_ ∧ _))

variable {m : Machine} {n : Int}

theorem hasDevice_visible (m : Machine) (n : Int) :
    m.hasDevice (.int n) = .ok (decide (m.Visible n)) := m.hasDevice_int n

theorem onDevice_visible (h : m.Visible n) (reply : Unit → Reply × Machine) :
    m.onDevice (.int n) reply = reply () := by
  unfold onDevice
  rw [hasDevice_visible, decide_eq_true h]
  rfl

theorem onDevice_outside (h : ¬ m.Visible n) (reply : Unit → Reply × Machine) :
    m.onDevice (.int n) reply = m.refuse .invalidDevice := by
  unfold onDevice
  rw [hasDevice_visible, decide_eq_false h]
  rfl

/-- **A call about a device that is not there** is refused, whatever else is in it. -/
theorem perform_outside {c : NativeCall} (h : c.About n) (outside : ¬ m.Visible n) :
    m.perform c = m.refuse .invalidDevice := by
  cases c with
  | peerAttribute code source target =>
    obtain ⟨a, b, rfl, rfl, either⟩ := h.pair
    dsimp only [perform]
    by_cases first : m.Visible a
    · obtain rfl : n = b := either.resolve_left fun same => outside (same ▸ first)
      rw [onDevice_visible first, onDevice_outside outside]
    · rw [onDevice_outside first]
  | setDevice | deviceName | totalMemory | computeCapability | deviceUuid | busId
  | deviceAttribute | defaultPool =>
    obtain rfl := h.single rfl
    dsimp only [perform, defaultPool]
    exact onDevice_outside outside _
  | _ => cases h.mem

theorem call_outside {c : NativeCall} (h : c.About n) (outside : ¬ m.Visible n)
    (quiet : m.injected c.entryPoint = 0) :
    m.call c = (.code Status.Kind.invalidDevice.code .nothing, m.spend [c.entryPoint]) := by
  rw [call_of_none quiet]
  exact perform_outside h outside

end Machine

/-- A world in which no native call is kept from its answer: no entry point is missing, and no
failure is set up. -/
structure World.Calm (w : World) : Prop where
  whole : w.machine.missing = []
  quiet : ∀ e, w.machine.injected e = 0

theorem World.Calm.present {w : World} (calm : w.Calm) (e : EntryPoint) :
    ¬Loading.Absent w e := by
  unfold Loading.Absent
  rw [calm.whole]
  exact nofun

namespace Loading

variable {w : World} {l : Library} {c d : NativeCall}

/-- A request that reaches the machine, and its reply. -/
theorem request_arrived (installed : w.library = some l) (calm : w.Calm)
    (arrived : arriving l c = .ok d) :
    ∃ w', Passage w w' (w.machine.call d).2 w.resources (recorded d (w.machine.call d).1) ∧
      (request c).outcome w = (checked l (w.machine.call d).1, w') := by
  obtain ⟨absent, _⟩ | reached := request_arriving installed arrived
  · exact absurd absent (calm.present _)
  · exact reached

/-- Requests that arrive as one call are one request. -/
theorem request_congr (installed : w.library = some l) (entry : c.entryPoint = d.entryPoint)
    (same : arriving l c = arriving l d) : (request c).outcome w = (request d).outcome w := by
  have invoked : invoke l c = invoke l d := by
    unfold invoke
    rw [same]
  unfold request
  rw [← entry]
  obtain ⟨w₁, _, found | ⟨_, f, missed⟩⟩ := resolve_cases installed c.entryPoint
  · rw [Action.outcome_bind_ok found, Action.outcome_bind_ok found, invoked]
  · rw [Action.outcome_bind_error missed, Action.outcome_bind_error missed]

/-- A request about a device that is not there. -/
theorem request_outside (installed : w.library = some l) (calm : w.Calm) {n : Int}
    (about : c.About n) (outside : ¬ w.machine.Visible (l.carried n)) :
    ∃ w', (request c).outcome w = (.error (.ofCode Status.Kind.invalidDevice.code), w') ∧
      w'.machine = w.machine.spend [c.entryPoint] ∧ w'.resources = w.resources := by
  obtain ⟨d, arrived, there⟩ := about.arrives l
  have entry := (arriving_keeps arrived).1
  obtain ⟨w', way, ended⟩ := request_arrived installed calm arrived
  rw [Machine.call_outside there outside (calm.quiet _)] at way ended
  refine ⟨w', ?_, ?_, way.resources⟩
  · rw [ended]
    cases l <;> rfl
  · rw [way.machine, entry]

end Loading

/-! ## The uses of a device -/

/-- How a device is handed over: by its number, or as an object that has it. -/
inductive DeviceForm where
  | number
  | object

/-- The value that stands for a device. -/
def DeviceForm.value : DeviceForm → Int → Value
  | number, n => .int n
  | object, n => .device (.int n)

theorem DeviceForm.deviceId_value (form : DeviceForm) (n : Int) :
    Pool.deviceId (form.value n) = .ok (.int n) := by
  cases form <;> rfl

/-- What a script does with a device that it names by a number. -/
inductive DeviceUse where
  | ask (question : DeviceQuestion)
  | select (form : DeviceForm)
  | defaultPool (form : DeviceForm)
  /-- an attribute between the device and another one -/
  | source (code : Value) (form far : DeviceForm) (other : Int)
  /-- an attribute between another device and this one -/
  | target (code : Value) (far : DeviceForm) (other : Int) (form : DeviceForm)

namespace DeviceUse

/-- The operation of a use. -/
def operation : DeviceUse → Int → Operation
  | ask question, n => .ask (.int n) question
  | select form, n => .selectDevice (form.value n)
  | defaultPool form, n => .defaultPool (form.value n)
  | source code form far other, n => .peerAttribute code (form.value n) (far.value other)
  | target code far other form, n => .peerAttribute code (far.value other) (form.value n)

/-- The code of an attribute, where there is one, is a whole number. -/
def Coded : DeviceUse → Prop
  | ask (.attributeValue code) | source code .. | target code .. => ∃ k, code.toWhole = .ok k
  | _ => True

/-- Is the number checked before any call that gets it? -/
def checked : DeviceUse → Bool
  | select _ => true
  | _ => false

end DeviceUse

namespace DeviceQuestion

/-- The call that a question is, with the code of the attribute for the one that has it. -/
def call (code n : Int) : DeviceQuestion → NativeCall
  | name => .deviceName Device.nameLength (.int n)
  | totalMemory => .totalMemory (.int n)
  | computeCapability => .computeCapability (.int n)
  | uuid => .deviceUuid (.int n)
  | busId => .busId Device.busIdLength (.int n)
  | attributeValue _ => .deviceAttribute code (.int n)
  | defaultPool => .defaultPool (.int n)

theorem about_call (question : DeviceQuestion) (code n : Int) : (question.call code n).About n := by
  cases question <;> exact .of_single rfl

theorem entry_call (question : DeviceQuestion) (code n : Int) :
    (question.call code n).entryPoint = question.entry := by
  cases question <;> rfl

/-- A library takes the same from the number that it took before. -/
theorem arriving_call (question : DeviceQuestion) (code n : Int) (l : Library) :
    Loading.arriving l (question.call code (l.carried n)) =
      Loading.arriving l (question.call code n) := by
  cases l with
  | direct => rfl
  | loaded path found =>
    have same := NativeCall.narrowWhole_carried path found
    cases question <;> simp only [Loading.arriving, call, NativeCall.narrow, same]

/-- A question is one request, whose reply is read. -/
theorem answer_asks (question : DeviceQuestion)
    (coded : ∀ code, question = attributeValue code → ∃ k, code.toWhole = .ok k) :
    ∃ code reads, ∀ n,
      Operation.answer (.int n) question = Loading.request (question.call code n) >>= reads := by
  cases question with
  | attributeValue code =>
    obtain ⟨k, whole⟩ := coded code rfl
    refine ⟨k, fun out => pure (.int (out.storedInt 0)), fun n => ?_⟩
    simp only [Operation.answer, Device.attributeValue, Loading.request, call, whole,
      Action.ofExcept, pure_bind, bind_assoc]
    rfl
  | _ => exact ⟨0, _, fun n => rfl⟩

end DeviceQuestion

theorem Device.peerAttribute_asks {code source target : Value} {k a b : Int}
    (whole : code.toWhole = .ok k) (first : Pool.deviceId source = .ok (.int a))
    (second : Pool.deviceId target = .ok (.int b)) :
    peerAttribute code source target =
      Loading.request (.peerAttribute k (.int a) (.int b)) >>= fun out =>
        pure (.int (out.storedInt (-1))) := by
  simp only [peerAttribute, Loading.request, whole, first, second, Action.ofExcept, pure_bind,
    bind_assoc]
  rfl

namespace DeviceUse

/-- A use that hands the number on is one request, whose reply is read. -/
structure Asks (use : DeviceUse) (call : Int → NativeCall) (reads : Output → Action Value) :
    Prop where
  perform : ∀ n, (use.operation n).perform = Loading.request (call n) >>= reads
  about : ∀ n, (call n).About n
  entry : ∀ m n, (call m).entryPoint = (call n).entryPoint
  /-- a library takes the same from the number that it took before -/
  carried : ∀ (l : Library) n,
    Loading.arriving l (call (l.carried n)) = Loading.arriving l (call n)

theorem asks_of_question {use : DeviceUse} {question : DeviceQuestion} {code : Int}
    {reads : Output → Action Value}
    (perform : ∀ n, (use.operation n).perform = Loading.request (question.call code n) >>= reads) :
    use.Asks (question.call code ·) reads where
  perform := perform
  about n := question.about_call code n
  entry m n := (question.entry_call code m).trans (question.entry_call code n).symm
  carried l n := question.arriving_call code n l

/-- **Every use but one** hands the number on to the machine. -/
theorem asks (use : DeviceUse) (coded : use.Coded) (unchecked : use.checked = false) :
    ∃ call reads, use.Asks call reads := by
  cases use with
  | select form => cases unchecked
  | ask question =>
    obtain ⟨code, reads, perform⟩ := question.answer_asks (by rintro code rfl; exact coded)
    exact ⟨_, _, asks_of_question perform⟩
  | defaultPool form =>
    refine ⟨DeviceQuestion.defaultPool.call 0, fun out =>
      Ownership.constructed (.borrowing (.pool out.storedAddress none)),
      asks_of_question fun n => ?_⟩
    show Pool.defaultFor (form.value n) = _
    unfold Pool.defaultFor
    rw [form.deviceId_value]
    rfl
  | source code form far other =>
    obtain ⟨k, whole⟩ := coded
    refine ⟨fun n => .peerAttribute k (.int n) (.int other), _,
      fun n => Device.peerAttribute_asks whole (form.deviceId_value n) (far.deviceId_value other),
      fun n => .source, fun _ _ => rfl, fun l n => ?_⟩
    cases l with
    | direct => rfl
    | loaded path found =>
      simp only [Loading.arriving, NativeCall.narrow, NativeCall.narrowWhole_carried path found]
  | target code far other form =>
    obtain ⟨k, whole⟩ := coded
    refine ⟨fun n => .peerAttribute k (.int other) (.int n), _,
      fun n => Device.peerAttribute_asks whole (far.deviceId_value other) (form.deviceId_value n),
      fun n => .target, fun _ _ => rfl, fun l n => ?_⟩
    cases l with
    | direct => rfl
    | loaded path found =>
      simp only [Loading.arriving, NativeCall.narrow, NativeCall.narrowWhole_carried path found]

end DeviceUse

/-! ## Numbers outside the range -/

namespace Device

variable {w : World} {l : Library}

/-- The count of devices, as long as an `int` holds it. -/
theorem count_calm (installed : w.library = some l) (calm : w.Calm)
    (few : Width.InInt w.machine.deviceCount) :
    ∃ w', count.outcome w = (.ok w.machine.deviceCount, w') ∧
      w'.machine = w.machine.spend [.deviceCount] ∧ w'.resources = w.resources := by
  have arrived : Loading.arriving l .deviceCount = .ok .deviceCount := by cases l <;> rfl
  have told : (w.machine.spend [.deviceCount]).perform .deviceCount =
      (.code 0 (.int w.machine.deviceCount), w.machine.spend [.deviceCount]) := rfl
  obtain ⟨w', ended, way⟩ := Loading.request_answered installed arrived (calm.present _)
    (calm.quiet _) told
  refine ⟨w', ?_, way.machine, way.resources⟩
  unfold count
  rw [Action.outcome_bind_ok ended]
  exact congrArg (fun n => (Except.ok n, w')) (Width.int32_of_in few)

theorem inRange_int (n count : Int) :
    inRange (.int n) count = .ok (decide (0 ≤ n ∧ n < count)) :=
  Machine.hasDevice_int { Machine.fresh with deviceCount := count } n

/-- A number outside the range is not made current. -/
theorem select_outside (installed : w.library = some l) (calm : w.Calm)
    (few : Width.InInt w.machine.deviceCount) (form : DeviceForm) {n : Int}
    (outside : ¬ w.machine.Visible n) :
    ∃ w', (select (form.value n)).outcome w =
        (.error (outOfRange (Text.written? n) w.machine.deviceCount), w') ∧
      w'.machine = w.machine.spend [.deviceCount] ∧ w'.resources = w.resources := by
  obtain ⟨w', counted, machine, resources⟩ := count_calm installed calm few
  refine ⟨w', ?_, machine, resources⟩
  have refused : inRange (.int n) w.machine.deviceCount = .ok false :=
    (inRange_int _ _).trans (congrArg Except.ok (decide_eq_false outside))
  unfold select
  rw [form.deviceId_value, Action.outcome_bind_ok (Action.outcome_ofExcept (.ok _) w),
    Action.outcome_bind_ok counted, refused,
    Action.outcome_bind_ok (Action.outcome_ofExcept (.ok false) w')]
  rfl

end Device

/-- The fault that a number outside the range is refused with: the failure of a device that is not
valid.  To be made current the number has to be written, and if it cannot be, that is the fault. -/
def DeviceUse.Refusal (use : DeviceUse) (id : Int) (f : Fault) : Prop :=
  if use.checked = true ∧ Text.isWritable id = false then f = .longNumber
  else ∃ g, f = .status g ∧ g.kind = .invalidDevice

theorem DeviceUse.refusal_outOfRange (form : DeviceForm) (id count : Int) :
    (select form).Refusal id (Device.outOfRange (Text.written? id) count) := by
  unfold Refusal
  cases writable : Text.isWritable id with
  | true =>
    rw [Text.written?_of_writable writable, if_neg (by simp)]
    exact ⟨_, rfl, rfl⟩
  | false =>
    rw [Text.written?_of_unwritable writable, if_pos ⟨rfl, rfl⟩]
    rfl

/-- What a use of a device leaves of a world that refuses it: neither resources nor the native side
have changed. -/
structure World.Refuses (w : World) (refusal : Fault → Prop) (run : Except Fault Value × World) :
    Prop where
  fault : ∃ f, run.1 = .error f ∧ refusal f
  resources : run.2.resources = w.resources
  /-- codes that stand for no failure may have been used up -/
  machine : run.2.machine = { w.machine with pending := run.2.machine.pending }
  quiet : ∀ e, run.2.machine.injected e = 0

theorem World.Calm.refuses {w w' : World} {refusal : Fault → Prop} {result : Except Fault Value}
    {f : Fault} {es : List EntryPoint} (calm : w.Calm) (failed : result = .error f)
    (fault : refusal f) (machine : w'.machine = w.machine.spend es)
    (resources : w'.resources = w.resources) : w.Refuses refusal (result, w') where
  fault := ⟨f, failed, fault⟩
  resources := resources
  machine := by rw [machine]; rfl
  quiet e := by
    rw [machine, Machine.injected_spend, calm.quiet e, ite_self]

/-- **A number that is no device's**, in any world in which no native call is kept from its
answer.  Making it current is refused, with the failure of a device that is not valid if the number
can be written.  So is every other use, if the number that arrives is no device's either; where it
is one's, the use is a use of that device.  The number that arrives is the one that was written if
the machine is called as it is, or if an `int` holds it, and only then. -/
theorem device_outside (w : World) (l : Library) (installed : w.library = some l) (calm : w.Calm)
    (few : 0 ≤ w.machine.deviceCount ∧ w.machine.deviceCount < 2 ^ 31) (use : DeviceUse)
    (coded : use.Coded) (id : Int) (outside : ¬ w.machine.Visible id) :
    (use.checked ∨ ¬ w.machine.Visible (l.carried id) →
      w.Refuses (use.Refusal id) ((use.operation id).perform.outcome w)) ∧
    (use.checked = false → (use.operation id).perform.outcome w =
      (use.operation (l.carried id)).perform.outcome w) ∧
    (l.carried id = id ↔ l = .direct ∨ Width.InInt id) := by
  refine ⟨?_, ?_, l.carried_eq_iff id⟩
  · intro refusable
    cases kind : use.checked with
    | true =>
      cases use with
      | select form =>
        obtain ⟨w', ended, machine, resources⟩ :=
          Device.select_outside installed calm ⟨by omega, few.2⟩ form outside
        have ended : ((DeviceUse.select form).operation id).perform.outcome w = _ := ended
        rw [ended]
        exact calm.refuses rfl (DeviceUse.refusal_outOfRange form id _) machine resources
      | _ => cases kind
    | false =>
      obtain ⟨call, reads, asks⟩ := use.asks coded kind
      obtain ⟨w', ended, machine, resources⟩ := Loading.request_outside installed calm
        (asks.about id) (refusable.resolve_left (by simp [kind]))
      have unchecked : ¬(use.checked = true ∧ Text.isWritable id = false) := by simp [kind]
      rw [asks.perform, Action.outcome_bind_error ended]
      refine calm.refuses rfl ?_ machine resources
      rw [DeviceUse.Refusal, if_neg unchecked]
      exact ⟨_, rfl, rfl⟩
  · intro unchecked
    obtain ⟨call, reads, asks⟩ := use.asks coded unchecked
    rw [asks.perform, asks.perform, Action.outcome_bind, Action.outcome_bind,
      Loading.request_congr installed (asks.entry _ _) (asks.carried l id)]

theorem device_outside_loaded :
    let w := World.opening .bare .fresh (.loaded none [])
    let ended := (Operation.ask (.int (-1)) .totalMemory).perform.outcome w
    ∃ f, ended.1 = .error (.status f) ∧ f.kind = .invalidDevice ∧
      ended.2.resources = w.resources := by
  intro w ended
  have quiet : w.Calm := ⟨rfl, fun _ => rfl⟩
  have refused := (device_outside w (.loaded none []) rfl quiet (by decide) (.ask .totalMemory)
    trivial (-1) (by decide)).1 (.inr (by decide))
  obtain ⟨_, failed, g, rfl, kind⟩ := refused.fault
  exact ⟨g, failed, kind, refused.resources⟩

/-- A number of 33 bits over a loaded library: it is no device's, and it is answered. -/
theorem device_outside_answered :
    let w := World.opening .bare .fresh (.loaded none [])
    ¬ w.machine.Visible (2 ^ 32) ∧
      ((Operation.ask (.int (2 ^ 32)) .totalMemory).perform.outcome w).1 = .ok (.int 1048576) :=
  ⟨by decide, rfl⟩

end GpuHandles
