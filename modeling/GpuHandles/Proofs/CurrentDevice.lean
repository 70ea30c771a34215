import GpuHandles.Proofs.Apart
import GpuHandles.Proofs.DeviceNumbers
/-!
The current device.

The machine keeps the current device, and nobody else does.  A selection asks for the count of
devices, compares, and calls; there are six ways in which it ends (`Device.Selection`), and only
the last one changes the machine.  No other call writes to the current device
(`Machine.call_rest`), so that at any time in a session it is the one that was chosen last
(`World.chosen`), and a question for it, which is a call each time, tells that one
(`current_device`).
-/

namespace GpuHandles

open Width (InInt)
open Loading (Absent)

/-- Every code that is set up is one that an `int` holds. -/
def Machine.CodesFit (m : Machine) : Prop := ∀ e, InInt (m.injected e)

theorem Machine.CodesFit.spend {m : Machine} (h : m.CodesFit) (es : List EntryPoint) :
    (m.spend es).CodesFit := by
  intro e
  rw [injected_spend]
  split
  · decide
  · exact h e

/-- The count of devices as it is told: an `int` is what stores it. -/
def Machine.told (m : Machine) : Int := Width.int32 m.deviceCount

/-! ## One selection -/

namespace Device

/-- The ways in which the selection of a device by its number ends. -/
inductive Selection (w : World) (n : Int) : Except Fault Value → World → Prop
  /-- the library has no entry point for the count -/
  | unasked {w' : World} (absent : Absent w .deviceCount)
      (way : Passage w w' w.machine w.resources []) :
      Selection w n (.error (.undefinedSymbol EntryPoint.deviceCount.name)) w'
  /-- the count fails -/
  | uncounted {w' : World} {code : Int} (failed : code ≠ 0)
      (way : Passage w w' (w.machine.spend [.deviceCount]) w.resources [(.deviceCount, code)]) :
      Selection w n (.error (.ofCode code)) w'
  /-- there is no such device -/
  | outside {w' : World} (shown : Option String) (outside : ¬ (0 ≤ n ∧ n < w.machine.told))
      (way : Passage w w' (w.machine.spend [.deviceCount]) w.resources [(.deviceCount, 0)]) :
      Selection w n (.error (outOfRange shown w.machine.told)) w'
  /-- the library has no entry point for the selection -/
  | missing {w' : World} (inside : 0 ≤ n ∧ n < w.machine.told) (absent : Absent w .setDevice)
      (way : Passage w w' (w.machine.spend [.deviceCount]) w.resources [(.deviceCount, 0)]) :
      Selection w n (.error (.undefinedSymbol EntryPoint.setDevice.name)) w'
  /-- the call fails -/
  | refused {w' : World} {code : Int} (inside : 0 ≤ n ∧ n < w.machine.told) (failed : code ≠ 0)
      (way : Passage w w' (w.machine.spend [.deviceCount, .setDevice]) w.resources
        [(.deviceCount, 0), (.setDevice (.int n), code)]) :
      Selection w n (.error (.ofCode code)) w'
  /-- the device is the current one -/
  | chosen {w' : World} (inside : 0 ≤ n ∧ n < w.machine.told)
      (way : Passage w w'
        { w.machine.spend [.deviceCount, .setDevice] with currentDevice := .int n } w.resources
        [(.deviceCount, 0), (.setDevice (.int n), 0)]) :
      Selection w n (.ok (.device (.int n))) w'

variable {w : World} {l : Library}

/-- A code that an `int` holds decides on both sides of a library alike. -/
theorem checked_code {code : Int} (fits : InInt code) (out : Output) :
    Loading.checked l (.code code out) = if code = 0 then .ok out else .error (.ofCode code) := by
  unfold Loading.checked
  simp only [Loading.returning_of_fits l fits.1 fits.2]

/-- The machine's answer to the question for the count. -/
theorem call_deviceCount (m : Machine) :
    m.call .deviceCount = (if m.injected .deviceCount = 0 then .code 0 (.int m.deviceCount)
      else .code (m.injected .deviceCount) .nothing, m.spend [.deviceCount]) := by
  by_cases quiet : m.injected .deviceCount = 0
  · rw [Machine.call_quiet (c := .deviceCount) quiet, if_pos quiet]
    rfl
  · rw [Machine.call_failing (c := .deviceCount) quiet, if_neg quiet]
    rfl

theorem perform_setDevice {m : Machine} {n : Int} (there : m.Visible n) :
    m.perform (.setDevice (.int n)) =
      (.code 0 .nothing, { m with currentDevice := .int n }) := by
  dsimp only [Machine.perform]
  rw [Machine.onDevice_visible there]
  rfl

/-- The machine's answer to the selection of a device by its number. -/
theorem call_setDevice {m : Machine} (fits : m.CodesFit) (n : Int) :
    m.call (.setDevice (.int n)) =
        (.code 0 .nothing, { m.spend [.setDevice] with currentDevice := .int n }) ∨
      ∃ code, InInt code ∧ code ≠ 0 ∧
        m.call (.setDevice (.int n)) = (.code code .nothing, m.spend [.setDevice]) := by
  by_cases quiet : m.injected .setDevice = 0
  · rw [Machine.call_quiet (c := .setDevice (.int n)) quiet]
    by_cases there : (m.spend [.setDevice]).Visible n
    · exact .inl (perform_setDevice there)
    · exact .inr ⟨_, by decide, by decide, Machine.perform_outside (.of_single rfl) there⟩
  · rw [Machine.call_failing (c := .setDevice (.int n)) quiet]
    exact .inr ⟨_, fits _, quiet, rfl⟩

/-- A number in a range that an `int` counts passes every library. -/
theorem arriving_setDevice (l : Library) {n : Int} (fits : InInt n) :
    Loading.arriving l (.setDevice (.int n)) = .ok (.setDevice (.int n)) := by
  cases l with
  | direct => rfl
  | loaded =>
    exact congrArg (fun k => Except.ok (NativeCall.setDevice (.int k))) (Width.int32_of_in fits)

theorem inInt_of_told {m : Machine} {n : Int} (inside : 0 ≤ n ∧ n < m.told) : InInt n := by
  have most : m.told < 2 ^ 31 := Int.bmod_lt (by decide)
  exact ⟨by omega, by omega⟩

/-- **What a selection does**: it ends in one of its ways. -/
theorem select_selection (installed : w.library = some l) (fits : w.machine.CodesFit)
    (form : DeviceForm) (n : Int) :
    Selection w n ((select (form.value n)).outcome w).1 ((select (form.value n)).outcome w).2 := by
  have arrived : Loading.arriving l .deviceCount = .ok .deviceCount := by cases l <;> rfl
  unfold select
  rw [form.deviceId_value, Action.outcome_bind_ok (Action.outcome_ofExcept (.ok _) w)]
  obtain ⟨absent, w₁, way, ended⟩ | ⟨w₁, way, ended⟩ := Loading.request_arriving installed arrived
  · have counted : count.outcome w = _ := Action.outcome_bind_error ended
    rw [Action.outcome_bind_error counted]
    exact .unasked absent way
  rw [call_deviceCount] at way ended
  by_cases quiet : w.machine.injected .deviceCount = 0
  · simp only [if_pos quiet] at way ended
    rw [checked_code (by decide), if_pos rfl] at ended
    have counted : count.outcome w = (.ok w.machine.told, w₁) := Action.outcome_bind_ok ended
    rw [Action.outcome_bind_ok counted, inRange_int,
      Action.outcome_bind_ok (Action.outcome_ofExcept (.ok _) w₁)]
    by_cases inside : 0 ≤ n ∧ n < w.machine.told
    · rw [decide_eq_true inside]
      obtain ⟨l', installed'⟩ := Option.isSome_iff_exists.1 (way.isSome (by rw [installed]; rfl))
      have spent : w₁.machine.CodesFit := by
        rw [way.machine]
        exact fits.spend _
      obtain ⟨absent, w₂, way', ended'⟩ | ⟨w₂, way', ended'⟩ :=
        Loading.request_arriving installed' (arriving_setDevice l' (inInt_of_told inside))
      all_goals
        have asked := Action.outcome_discard (Loading.request (.setDevice (.int n))) w₁
        rw [ended'] at asked
      · rw [if_pos rfl, Action.outcome_bind_error asked]
        rw [way.machine, way.resources] at way'
        unfold Absent at absent
        rw [way.machine] at absent
        exact .missing inside absent (by simpa [recorded] using way.trans way')
      rw [way.resources] at way'
      obtain done | ⟨code, small, failed, gave⟩ := call_setDevice spent n
      · rw [done] at way' asked
        rw [checked_code (by decide), if_pos rfl] at asked
        rw [if_pos rfl, Action.outcome_bind_ok asked]
        have both := way.trans way'
        rw [way.machine] at both
        exact .chosen inside (both.write _)
      · rw [gave] at way' asked
        rw [checked_code small, if_neg failed] at asked
        rw [if_pos rfl, Action.outcome_bind_error asked]
        have both := way.trans way'
        rw [way.machine] at both
        exact .refused inside failed both
    · rw [decide_eq_false inside]
      exact .outside _ inside way
  · simp only [if_neg quiet] at way ended
    rw [checked_code (fits _), if_neg quiet] at ended
    have counted : count.outcome w = _ := Action.outcome_bind_error ended
    rw [Action.outcome_bind_error counted]
    exact .uncounted quiet way

namespace Selection

variable {n : Int} {result : Except Fault Value} {w' : World}

/-- The calls of a selection, and what it makes of the machine. -/
theorem passage (h : Selection w n result w') :
    ∃ m cs, Passage w w' m w.resources cs ∧ (∃ es, m.pending = (w.machine.spend es).pending) ∧
      (result = .ok (.device (.int n)) ∧ m.currentDevice = .int n ∧ 0 ≤ n ∧ n < w.machine.told ∨
        (∃ f, result = .error f) ∧ m.currentDevice = w.machine.currentDevice) := by
  cases h with
  | unasked absent way => exact ⟨_, _, way, ⟨[], rfl⟩, .inr ⟨⟨_, rfl⟩, rfl⟩⟩
  | uncounted failed way => exact ⟨_, _, way, ⟨_, rfl⟩, .inr ⟨⟨_, rfl⟩, rfl⟩⟩
  | outside shown outside way => exact ⟨_, _, way, ⟨_, rfl⟩, .inr ⟨⟨_, rfl⟩, rfl⟩⟩
  | missing inside absent way => exact ⟨_, _, way, ⟨_, rfl⟩, .inr ⟨⟨_, rfl⟩, rfl⟩⟩
  | refused inside failed way => exact ⟨_, _, way, ⟨_, rfl⟩, .inr ⟨⟨_, rfl⟩, rfl⟩⟩
  | chosen inside way => exact ⟨_, _, way, ⟨_, rfl⟩, .inl ⟨rfl, rfl, inside⟩⟩

/-- **When a selection reaches the machine**, and with what. -/
theorem reaches (h : Selection w n result w') :
    let cs := calls (w'.trace.drop w.trace.length)
    ((∃ e ∈ cs, e.1.entryPoint = .setDevice) ↔ (.deviceCount, 0) ∈ cs ∧
      (0 ≤ n ∧ n < w.machine.told) ∧
      result ≠ .error (.undefinedSymbol EntryPoint.setDevice.name)) ∧
    (result = .error (.undefinedSymbol EntryPoint.setDevice.name) → Absent w .setDevice) ∧
    ∀ e ∈ cs, e.1.entryPoint = .setDevice → e.1 = .setDevice (.int n) := by
  have status (code : Int) : Fault.ofCode code ≠ .undefinedSymbol EntryPoint.setDevice.name := by
    obtain ⟨f, gave, -⟩ | ⟨-, gave⟩ := Fault.ofCode_cases code <;> simp [gave]
  cases h with
  | unasked absent way =>
    rw [way.calls_drop]
    simp [EntryPoint.name]
  | uncounted failed way =>
    rw [way.calls_drop]
    simp [NativeCall.entryPoint, status, Ne.symm failed]
  | outside shown outside way =>
    rw [way.calls_drop]
    have kind : outOfRange shown w.machine.told ≠
        .undefinedSymbol EntryPoint.setDevice.name := by
      cases shown <;> simp [outOfRange, Fault.ofKind]
    simp [NativeCall.entryPoint, outside, kind]
  | missing inside absent way =>
    rw [way.calls_drop]
    simp [NativeCall.entryPoint, absent]
  | refused inside failed way =>
    rw [way.calls_drop]
    simp [NativeCall.entryPoint, inside, status]
  | chosen inside way =>
    rw [way.calls_drop]
    simp [NativeCall.entryPoint, inside]

end Selection
end Device

/-! ## The device that was chosen last -/

/-- A turn in which a device is given by its number, if one is selected, and in which what is set
up is something that an `int` holds. -/
def Turn.Fair : Turn → Prop
  | operate (.selectDevice device) _ => ∃ form n, device = DeviceForm.value form n
  | failNext _ code => InInt code
  | adjust (.currentDevice n) => InInt n
  | _ => True

/-- The number of the device that a result is. -/
def Device.numberIn? : Except Fault Value → Option Int
  | .ok (.device (.int n)) => some n
  | _ => none

/-- The device that a turn chooses: by a selection that ends with a value, or from outside. -/
def Turn.chosen? : Turn → World → Option Int
  | operate (.selectDevice device) _, w =>
    Device.numberIn? ((Operation.selectDevice device).perform.outcome w).1
  | adjust (.currentDevice n), _ => some n
  | _, _ => none

/-- The device that was chosen last in some turns, if any was, otherwise `start`. -/
def World.chosen (start : Int) : World → List Turn → Int
  | _, [] => start
  | w, t :: ts => chosen ((t.chosen? w).getD start) (t.take w) ts

/-- The current device is `d`, and what is set up fits. -/
structure Machine.Points (m : Machine) (d : Int) : Prop where
  current : m.currentDevice = .int d
  fits : InInt d
  codes : m.CodesFit

/-- An operation that does not select a device does not call for it. -/
theorem Operation.entries_select {op : Operation} (other : ∀ device, op ≠ .selectDevice device)
    {e : EntryPoint} (h : e ∈ op.entries) : e ≠ .setDevice := by
  rintro rfl
  cases op with
  | selectDevice device => exact other device rfl
  | ask device question => cases question <;> simp [entries, DeviceQuestion.entry] at h
  | _ => simp [entries] at h

namespace Machine.Points

variable {m : Machine} {d : Int}

/-- No call but one writes to the current device. -/
theorem call (h : m.Points d) {c : NativeCall} (other : c.entryPoint ≠ .setDevice) :
    (m.call c).2.Points d := by
  have same := m.call_rest other
  refine ⟨?_, h.fits, fun e => ?_⟩
  · have current := congrArg currentDevice same
    exact current.trans h.current
  · have code := congrArg (injected · e) same
    have small := h.codes.spend [c.entryPoint] e
    exact code ▸ small

end Machine.Points

namespace Turn

variable {w : World} {d : Int}

theorem chosen?_of_other {op : Operation} {own : op.isWrap = false}
    (other : ∀ device, op ≠ .selectDevice device) : (operate op own).chosen? w = none := by
  cases op with
  | selectDevice device => exact absurd rfl (other device)
  | _ => rfl

/-- A selection of a device by its number. -/
theorem points_select (form : DeviceForm) (n : Int) {own : _} (orderly : Orderly w)
    (h : w.machine.Points d) :
    ((operate (.selectDevice (form.value n)) own).take w).machine.Points
      (((operate (.selectDevice (form.value n)) own).chosen? w).getD d) := by
  obtain ⟨l, installed⟩ := Option.isSome_iff_exists.1 orderly.installed
  obtain ⟨m, cs, way, ⟨es, pending⟩, ended⟩ :=
    (Device.select_selection installed h.codes form n).passage
  have reached : ((operate (.selectDevice (form.value n)) own).take w).machine = m := way.machine
  have codes : m.CodesFit := by
    intro e
    have small := h.codes.spend es e
    unfold Machine.injected at small ⊢
    rwa [pending]
  rw [reached]
  obtain ⟨ok, current, inside⟩ | ⟨⟨f, failed⟩, current⟩ := ended
  · have chosen : (operate (.selectDevice (form.value n)) own).chosen? w = some n :=
      congrArg Device.numberIn? ok
    rw [chosen]
    exact ⟨current, Device.inInt_of_told inside, codes⟩
  · have kept : (operate (.selectDevice (form.value n)) own).chosen? w = none :=
      congrArg Device.numberIn? failed
    rw [kept]
    exact ⟨current.trans h.current, h.fits, codes⟩

/-- **One turn**: the current device is the one that was chosen last. -/
theorem points (t : Turn) (fair : t.Fair) (orderly : Orderly w) (h : w.machine.Points d) :
    (t.take w).machine.Points ((t.chosen? w).getD d) := by
  cases t with
  | operate op own =>
    by_cases select : ∃ device, op = .selectDevice device
    · obtain ⟨device, rfl⟩ := select
      obtain ⟨form, n, rfl⟩ := fair
      exact points_select form n orderly h
    · have other (device : Value) : op ≠ .selectDevice device := fun same => select ⟨device, same⟩
      obtain ⟨l, installed⟩ := Option.isSome_iff_exists.1 orderly.installed
      rw [chosen?_of_other other]
      refine (op.perform_effect installed orderly.apart.native own).keeps_calls
        (P := fun m => m.Points d) (fun m c allowed points => points.call ?_) h
      rcases allowed with own | release
      · exact Operation.entries_select other own
      · intro same
        rw [same] at release
        cases release
  | failNext entry code =>
    refine ⟨h.current, h.fits, fun e => ?_⟩
    show InInt (((w.machine.pending.put entry code).get? e).getD 0)
    by_cases same : entry = e
    · subst same
      rw [Table.get?_put_self]
      exact fair
    · rw [Table.get?_put_of_ne _ same]
      exact h.codes e
  | adjust setting =>
    cases setting with
    | currentDevice n => exact ⟨rfl, fair, h.codes⟩
    | _ => exact ⟨h.current, h.fits, h.codes⟩

end Turn

namespace World

variable {w : World} {d : Int}

/-- **All turns.** -/
theorem points_after (orderly : Orderly w) (h : w.machine.Points d) {ts : List Turn}
    (fair : ∀ t ∈ ts, t.Fair) : (w.after ts).machine.Points (w.chosen d ts) := by
  induction ts generalizing w d with
  | nil => exact h
  | cons t ts ih =>
    exact ih (t.orderly orderly) (t.points (fair t (.head _)) orderly h)
      fun u hu => fair u (.tail _ hu)

end World

/-! ## The question -/

/-- The machine's answer to the question for the current device. -/
theorem Device.call_currentDevice {m : Machine} {d : Int} (current : m.currentDevice = .int d) :
    m.call .currentDevice = (if m.injected .currentDevice = 0 then .code 0 (.int d)
      else .code (m.injected .currentDevice) .nothing, m.spend [.currentDevice]) := by
  by_cases quiet : m.injected .currentDevice = 0
  · rw [Machine.call_quiet (c := .currentDevice) quiet, if_pos quiet]
    have index : (m.spend [.currentDevice]).currentDevice.toIndex = .ok d :=
      (congrArg Value.toIndex current).trans rfl
    dsimp only [Machine.perform, NativeCall.entryPoint]
    rw [index]
    rfl
  · rw [Machine.call_failing (c := .currentDevice) quiet, if_neg quiet]
    rfl

/-- The question for the current device is a call each time, and tells the one there is. -/
theorem Device.current_tells {w : World} {d : Int} {l : Library} (installed : w.library = some l)
    (h : w.machine.Points d) :
    let out := current.outcome w
    let cs := calls (out.2.trace.drop w.trace.length)
    (Absent w .currentDevice ∧ cs = [] ∧
        out.1 = .error (.undefinedSymbol EntryPoint.currentDevice.name)) ∨
      ∃ code, cs = [(.currentDevice, code)] ∧
        out.1 = if code = 0 then .ok (.device (.int d)) else .error (.ofCode code) := by
  intro out cs
  have arrived : Loading.arriving l .currentDevice = .ok .currentDevice := by cases l <;> rfl
  obtain ⟨absent, w', way, ended⟩ | ⟨w', way, ended⟩ := Loading.request_arriving installed arrived
  · have failed : out = _ := Action.outcome_bind_error ended
    refine .inl ⟨absent, ?_, by rw [failed]; rfl⟩
    show calls (out.2.trace.drop _) = []
    rw [failed]
    exact way.calls_drop
  · right
    rw [call_currentDevice h.current] at way ended
    by_cases quiet : w.machine.injected .currentDevice = 0
    · simp only [if_pos quiet] at way ended
      rw [checked_code (by decide), if_pos rfl] at ended
      have told : out = (.ok (.device (.int (Width.int32 d))), w') := Action.outcome_bind_ok ended
      refine ⟨0, ?_, by rw [told, Width.int32_of_in h.fits]; rfl⟩
      show calls (out.2.trace.drop _) = _
      rw [told]
      exact way.calls_drop
    · simp only [if_neg quiet] at way ended
      rw [checked_code (h.codes _), if_neg quiet] at ended
      have failed : out = _ := Action.outcome_bind_error ended
      refine ⟨_, ?_, by rw [failed, if_neg quiet]⟩
      show calls (out.2.trace.drop _) = _
      rw [failed]
      exact way.calls_drop

/-- **The current device**, at any time in a session over any library, if the device that the
session starts with and the codes that are set up are numbers that an `int` holds and the devices
that are selected are given by their numbers.

It is the one that was chosen last.  A selection calls for it if and only if the count succeeded,
the number is below the count, and the entry point was there to be found; the call gets the
number itself; and a selection that fails leaves the device as it was.  A question for it makes
a call of its own, unless its entry point is missing, and tells the device chosen last if that
call succeeds. -/
theorem current_device (host : Host) (m : Machine) (l : Library) (d : Int)
    (start : m.currentDevice = .int d) (fits : InInt d) (codes : m.CodesFit) (ts : List Turn)
    (fair : ∀ t ∈ ts, t.Fair) :
    let w := (World.opening host m l).after ts
    let chosen := (World.opening host m l).chosen d ts
    w.machine.currentDevice = .int chosen ∧
    (∀ form n,
      let out := (Operation.selectDevice (DeviceForm.value form n)).perform.outcome w
      let cs := calls (out.2.trace.drop w.trace.length)
      ((∃ e ∈ cs, e.1.entryPoint = .setDevice) ↔ (.deviceCount, 0) ∈ cs ∧
        (0 ≤ n ∧ n < w.machine.told) ∧
        out.1 ≠ .error (.undefinedSymbol EntryPoint.setDevice.name)) ∧
      (out.1 = .error (.undefinedSymbol EntryPoint.setDevice.name) → Absent w .setDevice) ∧
      (∀ e ∈ cs, e.1.entryPoint = .setDevice → e.1 = .setDevice (.int n)) ∧
      (out.1 = .ok (.device (.int n)) ∧ out.2.machine.currentDevice = .int n ∨
        (∃ f, out.1 = .error f) ∧ out.2.machine.currentDevice = .int chosen)) ∧
    (let out := Operation.currentDevice.perform.outcome w
      let cs := calls (out.2.trace.drop w.trace.length)
      (Absent w .currentDevice ∧ cs = [] ∧
          out.1 = .error (.undefinedSymbol EntryPoint.currentDevice.name)) ∨
        ∃ code, cs = [(.currentDevice, code)] ∧
          out.1 = if code = 0 then .ok (.device (.int chosen)) else .error (.ofCode code)) := by
  intro w chosen
  have orderly : Orderly w := World.orderly_after (orderly_opening host m l) ts
  have points : w.machine.Points chosen :=
    World.points_after (orderly_opening host m l) ⟨start, fits, codes⟩ fair
  obtain ⟨l', installed⟩ := Option.isSome_iff_exists.1 orderly.installed
  refine ⟨points.current, fun form n => ?_, Device.current_tells installed points⟩
  have selection := Device.select_selection installed points.codes form n
  obtain ⟨reaches, lost, exactly⟩ := selection.reaches
  obtain ⟨m', cs, way, _, ended⟩ := selection.passage
  refine ⟨reaches, lost, exactly, ?_⟩
  rcases ended with ⟨ok, current, _⟩ | ⟨failed, current⟩
  · exact .inl ⟨ok, (congrArg Machine.currentDevice way.machine).trans current⟩
  · exact .inr ⟨failed, (congrArg Machine.currentDevice way.machine).trans
      (current.trans points.current)⟩

/-- A device is chosen over a loaded library, then one that is not there. -/
theorem current_device_kept :
    let ts := [Turn.operate (.selectDevice (.int 1)) rfl, .operate (.selectDevice (.int 2)) rfl]
    ((World.opening .bare .fresh (.loaded none [])).after ts).machine.currentDevice = .int 1 :=
  (current_device .bare .fresh (.loaded none []) 0 rfl (by decide)
    (fun _ => (by decide : InInt 0))
    [.operate (.selectDevice (.int 1)) rfl, .operate (.selectDevice (.int 2)) rfl] (by
      intro t ht
      rcases List.mem_cons.1 ht with rfl | ht
      · exact ⟨.number, 1, rfl⟩
      · rw [List.mem_singleton.1 ht]
        exact ⟨.number, 2, rfl⟩)).1

/-- A library without the entry point: the count succeeds, the number is below it, and nothing
is called for the selection. -/
theorem select_without_entry :
    let m := { Machine.fresh with missing := ["hipSetDevice"] }
    let w := World.opening .bare m .direct
    let out := (Operation.selectDevice (.int 0)).perform.outcome w
    calls out.2.trace = [(.deviceCount, 0)] ∧ 0 < w.machine.told :=
  ⟨rfl, by decide⟩

end GpuHandles
