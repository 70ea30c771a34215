import GpuHandles.Proofs.Change
/-!
What calls leave alone.

Calls fill and empty the tables of a machine.  All the rest of it was set up from outside
(`Machine.rest`), and one call alone writes to it, the one that makes a device current.  A call
that does not succeed uses up the code that was set up for its entry point, and no more, unless
it fails after it has taken a handle (`call_failed`); one that succeeds leaves the rest as it was,
but for that code (`call_rest`).
-/

namespace GpuHandles

/-- Is a reply a success? -/
def Reply.succeeded : Reply → Bool
  | .code n _ => n == 0
  | .fault _ => false

/-- The fault that a call may still meet once it has taken a handle: of a device that cannot be a
key, or of a buffer that cannot be made. -/
def NativeCall.late? : NativeCall → Option Fault
  | .defaultPool device => device.unhashable?.map .unhashable
  | .allocate n | .allocateFlagged n _ | .allocateOrdered n _ | .allocateFromPool n _ _ =>
    Machine.bufferFault? n
  | _ => none

/-! ## Calls that fail -/

namespace Machine

/-- The machine once the codes that were set up for some entry points are used up. -/
def spend (m : Machine) (es : List EntryPoint) : Machine :=
  { m with pending := es.foldl Table.erase m.pending }

@[simp] theorem spend_spend (m : Machine) (es fs : List EntryPoint) :
    (m.spend es).spend fs = m.spend (es ++ fs) := by
  simp only [spend, List.foldl_append]

/-- A code that is used up is gone, and every other is still there. -/
theorem injected_spend (m : Machine) (es : List EntryPoint) (e : EntryPoint) :
    (m.spend es).injected e = if e ∈ es then 0 else m.injected e := by
  induction es generalizing m with
  | nil => rfl
  | cons e' es ih =>
    show ((m.spend [e']).spend es).injected e = _
    rw [ih]
    by_cases later : e ∈ es
    · rw [if_pos later, if_pos (.tail _ later)]
    · rw [if_neg later]
      by_cases same : e' = e
      · subst same
        rw [if_pos (.head _)]
        exact congrArg (Option.getD · 0) (Table.get?_erase_self m.pending e')
      · rw [if_neg (fun mem => (List.mem_cons.1 mem).elim (same ·.symm) later)]
        exact congrArg (Option.getD · 0) (Table.get?_erase_of_ne m.pending same)

/-- A call for which nothing is set up has its effect. -/
theorem call_quiet {m : Machine} {c : NativeCall} (quiet : m.injected c.entryPoint = 0) :
    m.call c = (m.spend [c.entryPoint]).perform c := call_of_none quiet

/-- A call for which a code is set up gives that code. -/
theorem call_failing {m : Machine} {c : NativeCall} (failing : m.injected c.entryPoint ≠ 0) :
    m.call c = (.code (m.injected c.entryPoint) .nothing, m.spend [c.entryPoint]) :=
  call_of_injected failing

/-- The part of a machine that its calls do not fill. -/
def rest (m : Machine) : Machine :=
  { m with
    initialized := false
    lastHandle := 0
    allocations := []
    streams := []
    pools := []
    defaultPools := [] }

/-- What a test has set up about the memory of a machine: the total, and what is reported. -/
def setUp (m : Machine) : Int × Reports := (m.totalMemory, m.reports)

/-- An answer that is no success leaves the machine `m` as it was, or meets the fault `late` once
a handle is taken, and no answer changes the part that was set up. -/
def Keeps (m : Machine) (late : Option Fault) (p : Reply × Machine) : Prop :=
  (p.1.succeeded = false → p.2 = m ∨ ∃ f, late = some f ∧ p = (.fault f, m.taken)) ∧
    p.2.rest = m.rest

namespace Keeps

variable {m : Machine} {late : Option Fault}

theorem same {reply : Reply} : Keeps m late (reply, m) := ⟨fun _ => .inl rfl, rfl⟩

/-- A success may change anything else. -/
theorem answer {m' : Machine} {out : Output} (same : m'.rest = m.rest) :
    Keeps m late (m'.answer out) := ⟨nofun, same⟩

theorem taken (f : Fault) : Keeps m (some f) (.fault f, m.taken) :=
  ⟨fun _ => .inr ⟨f, rfl, rfl⟩, rfl⟩

theorem after {α : Type} {result : Except Fault α} {reply : α → Reply × Machine}
    (h : ∀ a, Keeps m late (reply a)) : Keeps m late (m.after result reply) := by
  cases result with
  | ok a => exact h a
  | error f => exact same

theorem ite {c : Prop} [Decidable c] {p q : Reply × Machine} (hp : Keeps m late p)
    (hq : Keeps m late q) : Keeps m late (if c then p else q) := by
  split
  · exact hp
  · exact hq

theorem onDevice {device : Value} {reply : Unit → Reply × Machine}
    (h : Keeps m late (reply ())) : Keeps m late (m.onDevice device reply) :=
  after fun _ => ite h same

/-- The handle is taken before the buffer is made. -/
theorem placeZeros (n : Int) : Keeps m (bufferFault? n) (m.placeZeros n) := by
  unfold Machine.placeZeros
  cases bufferFault? n with
  | some f => exact taken f
  | none => exact answer rfl

theorem reserve (n : Int) : Keeps m (bufferFault? n) (m.reserve n) :=
  ite same (ite same (placeZeros n))

theorem copyIn {k : Address} {bs : List UInt8} {size : Value} :
    Keeps m late (m.copyIn k bs size) := by
  unfold Machine.copyIn
  split
  · exact after fun _ => ite (after fun _ => answer rfl) same
  · exact same

theorem copyOut {k : Address} {size : Value} : Keeps m late (m.copyOut k size) := by
  unfold Machine.copyOut
  split
  · exact after fun _ => ite (after fun _ => answer rfl) same
  · exact same

theorem copyAcross {j k : Address} {size : Value} : Keeps m late (m.copyAcross j k size) := by
  unfold Machine.copyAcross
  split
  · exact after fun _ => ite (after fun _ => ite (after fun _ => answer rfl) same) same
  · exact same

theorem copy {target source : Place} {size : Value} {kind : Int} :
    Keeps m late (m.copy target source size kind) := by
  refine after fun _ => ite same (ite ?_ (ite ?_ (ite ?_ same)))
  · split
    · exact copyIn
    · exact same
  · split
    · exact copyOut
    · exact same
  · split
    · exact copyAcross
    · exact same

theorem fill {target : Address} {value size : Value} :
    Keeps m late (m.fill target value size) := by
  unfold Machine.fill
  split
  · exact after fun _ => ite (after fun _ => after fun _ => answer rfl) same
  · exact same

/-- The handle is taken before the device is looked up. -/
theorem defaultPool (device : Value) :
    Keeps m (device.unhashable?.map .unhashable) (m.defaultPool device) := by
  refine onDevice ?_
  cases device.unhashable? with
  | some type => exact taken (.unhashable type)
  | none =>
    dsimp only
    split
    · exact answer rfl
    · exact answer rfl

end Keeps

theorem perform_keeps (m : Machine) {c : NativeCall} (other : c.entryPoint ≠ .setDevice) :
    Keeps m c.late? (m.perform c) := by
  cases c with
  | setDevice => exact absurd rfl other
  | start | runtimeVersion | driverVersion | deviceCount | synchronize | streamCreate =>
    exact .answer rfl
  | currentDevice => exact .after fun _ => .answer rfl
  | deviceName | totalMemory | computeCapability | deviceAttribute => exact .onDevice (.answer rfl)
  | deviceUuid =>
    refine .onDevice ?_
    unfold uuidReply
    split
    · exact .answer rfl
    · exact .after fun _ => .answer rfl
  | busId => exact .onDevice (.after fun _ => .answer rfl)
  | deviceByBusId text =>
    dsimp only [perform]
    split
    · exact .ite (.answer rfl) .same
    · exact .same
  | peerAttribute => exact .onDevice (.onDevice (.after fun _ => .ite .same (.answer rfl)))
  | defaultPool device => exact .defaultPool device
  | allocate n => exact .reserve n
  | allocateFlagged n => exact .ite (.reserve n) .same
  | allocateOrdered n => exact .after fun _ => .ite (.reserve n) .same
  | allocateFromPool n => exact .ite (.after fun _ => .ite (.reserve n) .same) .same
  | free a =>
    cases a with
    | none => exact .answer rfl
    | some h => exact .ite (.answer rfl) .same
  | copy => exact .copy
  | fill => exact .fill
  | memoryInfo =>
    dsimp only [perform]
    split <;> exact .answer rfl
  | streamDestroy a | streamSynchronize a | poolDestroy a =>
    cases a with
    | none => exact .same
    | some h => exact .ite (.answer rfl) .same
  | streamQuery a =>
    dsimp only [perform]
    split <;> exact .same
  | poolCreate => exact .ite (.answer rfl) .same
  | poolTrim a keep =>
    dsimp only [perform]
    split
    · exact .answer rfl
    · exact .same

/-- A device is made current, or nothing happens. -/
theorem perform_setDevice (m : Machine) (device : Value) :
    m.perform (.setDevice device) = ({ m with currentDevice := device }).answer .nothing ∨
      (m.perform (.setDevice device)).1.succeeded = false ∧
        (m.perform (.setDevice device)).2 = m := by
  dsimp only [perform, onDevice, after]
  split
  · split
    · exact .inl rfl
    · exact .inr ⟨rfl, rfl⟩
  · exact .inr ⟨rfl, rfl⟩

/-- **A call that does not succeed** uses up the code set up for its entry point, and no more, or
it has taken a handle and met the fault that was still to come. -/
theorem call_failed {m : Machine} {c : NativeCall} (failed : (m.call c).1.succeeded = false) :
    (m.call c).2 = m.spend [c.entryPoint] ∨ ∃ f, c.late? = some f ∧
      m.injected c.entryPoint = 0 ∧ m.call c = (.fault f, (m.spend [c.entryPoint]).taken) := by
  by_cases h : m.injected c.entryPoint = 0
  · rw [call_quiet h] at failed ⊢
    by_cases other : c.entryPoint = .setDevice
    · cases c with
      | setDevice device =>
        obtain done | ⟨_, same⟩ := perform_setDevice (m.spend [.setDevice]) device
        · rw [NativeCall.entryPoint, done] at failed
          cases failed
        · exact .inl same
      | _ => cases other
    · obtain same | ⟨f, late, taken⟩ := (perform_keeps _ other).1 failed
      · exact .inl same
      · exact .inr ⟨f, late, h, taken⟩
  · rw [call_failing h]
    exact .inl rfl

/-- A call to make a device current does that, or it fails. -/
theorem call_setDevice (m : Machine) (device : Value) :
    m.call (.setDevice device) =
        ({ m.spend [.setDevice] with currentDevice := device }).answer .nothing ∨
      (m.call (.setDevice device)).1.succeeded = false ∧
        (m.call (.setDevice device)).2 = m.spend [.setDevice] := by
  by_cases h : m.injected .setDevice = 0
  · rw [call_quiet (c := .setDevice device) h]
    exact perform_setDevice _ device
  · rw [call_failing (c := .setDevice device) h]
    exact .inr ⟨beq_eq_false_iff_ne.2 h, rfl⟩

/-- **What a call leaves** of the part that was set up: all of it but the code of its entry
point. -/
theorem call_rest (m : Machine) {c : NativeCall} (other : c.entryPoint ≠ .setDevice) :
    (m.call c).2.rest = (m.spend [c.entryPoint]).rest := by
  by_cases h : m.injected c.entryPoint = 0
  · rw [call_quiet h]
    exact (perform_keeps _ other).2
  · rw [call_failing h]

/-- Whatever a call is for, it leaves the part that was set up but for the code of its entry point
and the current device. -/
theorem call_rest_device (m : Machine) (c : NativeCall) : (m.call c).2.rest =
    { (m.spend [c.entryPoint]).rest with currentDevice := (m.call c).2.currentDevice } := by
  by_cases other : c.entryPoint = .setDevice
  · cases c with
    | setDevice device =>
      obtain done | ⟨_, same⟩ := m.call_setDevice device
      · rw [done]
        rfl
      · rw [same]
        rfl
    | _ => cases other
  · have same := m.call_rest other
    have current := congrArg currentDevice same
    rw [show (m.call c).2.currentDevice = (m.spend [c.entryPoint]).currentDevice from current, same]
    rfl

/-- A call uses up the code of its entry point, and sets up none. -/
theorem call_injected (m : Machine) (c : NativeCall) (e : EntryPoint) :
    (m.call c).2.injected e = if e = c.entryPoint then 0 else m.injected e := by
  have rest := congrArg pending (m.call_rest_device c)
  have spent : (m.call c).2.pending = (m.spend [c.entryPoint]).pending := rest
  have known := m.injected_spend [c.entryPoint] e
  simp only [List.mem_singleton] at known
  unfold injected at known ⊢
  rw [spent, known]

end Machine
end GpuHandles
