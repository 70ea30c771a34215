import GpuHandles.Proofs.BusIdLookup
import GpuHandles.Proofs.Cleanup
import GpuHandles.Proofs.CurrentDevice
import GpuHandles.Proofs.ReleaseOrder
/-!
Parts of a tour that go through.

On a machine that nothing was set up for (`Machine.Plain`) every request gets its answer, and
there is one reason left for which a part of a tour can fail: that there is no room for what it
allocates.  A part that allocates nothing `Passes`, which is total correctness: from a world in
which an invariant holds it ends with a value, and the invariant holds again.  A part that
allocates `Fares` according to the room it needs.  The invariant in both is that nothing is held
(`World.Ready`), which a balanced part leaves as it finds it.

This module has the rules, and the parts that allocate nothing.
-/

namespace GpuHandles

/-! ## Machines that nothing was set up for -/

/-- A machine with all entry points, no failures to come and the usual reports, with `d` devices
of `total` bytes. -/
structure Machine.Plain (d total : Int) (m : Machine) : Prop where
  whole : m.missing = []
  quiet : ∀ e, m.injected e = 0
  standard : m.reports = .standard
  count : m.deviceCount = d
  total : m.totalMemory = total

namespace Machine

variable {d total : Int} {m : Machine}

theorem plain_lasting : Lasting (Plain d total) where
  call m c h := by
    obtain ⟨sized, reports⟩ := Prod.mk.inj (m.call_setUp c)
    have count := congrArg deviceCount (m.call_rest_device c)
    refine ⟨(m.call_change c).missing.trans h.whole, fun e => ?_, reports.trans h.standard,
      Eq.trans count h.count, sized.trans h.total⟩
    rw [call_injected, h.quiet e, ite_self]
  frees m h e _ := ⟨by rw [h.whole]; rfl, h.quiet e⟩

theorem Plain.visible (h : m.Plain d total) {n : Int} (there : 0 ≤ n ∧ n < d)
    (es : List EntryPoint) : (m.spend es).Visible n := ⟨there.1, h.count.symm ▸ there.2⟩

end Machine

/-- A world between the parts of a tour: nothing is held, and nothing is in the way of a call. -/
structure World.Ready (d total : Int) (w : World) : Prop where
  tidy : w.Tidy (Machine.Plain d total)
  idle : ∀ id, ¬w.Held id

namespace World.Tidy

variable {d total : Int} {w : World}

theorem present (h : w.Tidy (Machine.Plain d total)) (e : EntryPoint) : ¬Loading.Absent w e := by
  unfold Loading.Absent
  rw [h.lasting.whole]
  exact nofun

theorem unhindered (h : w.Tidy (Machine.Plain d total)) : w.Unhindered where
  direct := h.direct
  native := h.known.agrees
  there e _ := Bool.eq_false_iff.2 (h.present e)
  quiet e _ := h.lasting.quiet e

/-- A request is what the machine answers. -/
theorem request_ok (h : w.Tidy (Machine.Plain d total)) {c : NativeCall} {out : Output}
    {m : Machine} (answer : (w.machine.spend [c.entryPoint]).perform c = (.code 0 out, m)) :
    ∃ w', (Loading.request c).outcome w = (.ok out, w') ∧ w'.machine = m := by
  have asked := (Loading.request_direct h.direct c).trans (if_neg (h.present _))
  rw [Machine.call_quiet (h.lasting.quiet _), answer] at asked
  exact ⟨_, asked, rfl⟩

end World.Tidy

/-! ## Parts of a tour that go through -/

namespace World.Ready

variable {d total : Int} {w w' : World}

/-- Nothing is held after a part that leaves nothing over. -/
theorem steady (h : w.Ready d total) (tidy : w'.Tidy (Machine.Plain d total))
    (steady : w.Steady w') : w'.Ready d total :=
  ⟨tidy, fun id held => h.idle id (steady.owed id held)⟩

theorem calm (h : w.Ready d total) : w.Calm := ⟨h.tidy.lasting.whole, h.tidy.lasting.quiet⟩

/-- The devices are counted. -/
theorem counted (h : w.Ready d total) (few : Width.InInt d) :
    ∃ w', Device.count.outcome w = (.ok d, w') ∧ w'.Tidy (Machine.Plain d total) := by
  have count := h.tidy.lasting.count
  obtain ⟨w', counted, _⟩ := Device.count_calm h.tidy.direct h.calm (count.symm ▸ few)
  rw [count] at counted
  have homely : Operation.deviceCount.Homely := Operation.homely_of_casual rfl
  have after := h.tidy.perform Machine.plain_lasting homely
  have ended : Operation.deviceCount.perform.outcome w = (.ok (.int d), w') :=
    Action.outcome_bind_ok counted
  rw [ended] at after
  exact ⟨w', counted, after⟩

end World.Ready

namespace Tour

variable {α β : Type} {d total : Int} {I : World → Prop}

/-- From a world in which `I` holds a part of a tour ends with a value, of which `post` holds, and
`I` holds again. -/
def Passes (I : World → Prop) (a : Narration α) (post : α → Prop) : Prop :=
  ∀ s : World × String, I s.1 →
    I (a.outcome s).2.1 ∧ ∃ x, (a.outcome s).1 = .ok x ∧ post x

namespace Passes

variable {a : Narration α} {post : α → Prop}

theorem pure {x : α} (h : post x) : Passes I (Pure.pure x) post := fun _ holds => ⟨holds, x, rfl, h⟩

theorem say (line : String) : Passes I (Tour.say line) fun _ => True :=
  fun _ holds => ⟨holds, (), rfl, trivial⟩

theorem textOf (v : Value) : Passes I (Tour.textOf v) fun _ => True :=
  fun _ holds => ⟨holds, _, rfl, trivial⟩

theorem bind {f : α → Narration β} {post' : β → Prop} (first : Passes I a post)
    (rest : ∀ x, post x → Passes I (f x) post') : Passes I (a >>= f) post' := by
  intro s holds
  obtain ⟨between, x, ended, known⟩ := first s holds
  rw [Narration.outcome_bind_of_ok ended]
  exact rest x known _ between

theorem discard (h : Passes I a post) : Passes I (Functor.discard a) fun _ => True :=
  h.bind fun _ _ => pure trivial

theorem forM {f : β → Narration Unit} (xs : List β)
    (each : ∀ x ∈ xs, Passes I (f x) fun _ => True) : Passes I (xs.forM f) fun _ => True := by
  induction xs with
  | nil => exact pure trivial
  | cons x xs ih =>
    exact (each x (.head _)).bind fun _ _ => ih fun y hy => each y (.tail _ hy)

/-- An operation that leaves nothing over, and always succeeds. -/
theorem perform {op : Operation} {post : Value → Prop} (casual : op.casual = true)
    (succeeds : ∀ w : World, w.Ready d total →
      ∃ v, (op.perform.outcome w).1 = .ok v ∧ post v) :
    Passes (World.Ready d total) (Tour.perform op) post := by
  intro s ready
  obtain ⟨tidy, steady⟩ := Balanced.perform Machine.plain_lasting casual s ready.tidy
  exact ⟨ready.steady tidy steady, succeeds s.1 ready⟩

end Passes

/-- The end of a part that goes through if there is room for what it needs, and is out of memory
if there is not. -/
def Ends (room : Prop) (r : Except Fault Unit) : Prop :=
  (room → r = .ok ()) ∧ (¬room → r = .error (.ofCode Status.Kind.outOfMemory.code))

namespace Ends

variable {p q : Prop} {r : Except Fault Unit}

theorem ofOk (h : r = .ok ()) : Ends True r := ⟨fun _ => h, fun never => absurd trivial never⟩

theorem congr (h : Ends p r) (same : p ↔ q) : Ends q r := propext same ▸ h

/-- A part after another one. -/
theorem bind {a : Narration Unit} {f : Unit → Narration Unit} {s : World × String}
    (first : Ends p (a.outcome s).1)
    (rest : Ends q ((f ()).outcome (a.outcome s).2).1) : Ends (p ∧ q) ((a >>= f).outcome s).1 := by
  by_cases room : p
  · rw [Narration.outcome_bind_of_ok (first.1 room)]
    exact rest.congr (and_iff_right room).symm
  · -- the rest is not reached, and the room that it needs makes no difference
    rw [Narration.outcome_bind_of_error (first.2 room)]
    exact ⟨fun both => absurd both.1 room, fun _ => rfl⟩

end Ends

/-- A part of a tour that ends so in every world between two parts, and leaves such a world. -/
def Fares (d total : Int) (room : Prop) (a : Narration Unit) : Prop :=
  ∀ s : World × String, s.1.Ready d total →
    (a.outcome s).2.1.Ready d total ∧ Ends room (a.outcome s).1

namespace Fares

variable {a b : Narration Unit} {p q : Prop}

theorem ofPasses (h : Passes (World.Ready d total) a fun _ => True) : Fares d total True a := by
  intro s ready
  obtain ⟨after, ⟨⟩, ended, _⟩ := h s ready
  exact ⟨after, .ofOk ended⟩

theorem ofBalanced (balanced : Balanced (Machine.Plain d total) a)
    (ends : ∀ s : World × String, s.1.Ready d total → Ends p (a.outcome s).1) :
    Fares d total p a := by
  intro s ready
  obtain ⟨tidy, steady⟩ := balanced s ready.tidy
  exact ⟨ready.steady tidy steady, ends s ready⟩

theorem bind (first : Fares d total p a) (rest : Fares d total q b) :
    Fares d total (p ∧ q) (a >>= fun _ => b) := by
  intro s ready
  obtain ⟨between, ends⟩ := first s ready
  obtain ⟨after, ends'⟩ := rest _ between
  refine ⟨?_, ends.bind ends'⟩
  by_cases room : p
  · rwa [Narration.outcome_bind_of_ok (ends.1 room)]
  · rwa [Narration.outcome_bind_of_error (ends.2 room)]

/-- A part after one that goes through. -/
theorem after {post : α → Prop} {a : Narration α} {f : α → Narration Unit}
    (first : Passes (World.Ready d total) a post)
    (rest : ∀ x, post x → Fares d total p (f x)) : Fares d total p (a >>= f) := by
  intro s ready
  obtain ⟨between, x, ended, known⟩ := first s ready
  rw [Narration.outcome_bind_of_ok ended]
  exact rest x known _ between

theorem congr (h : Fares d total p a) (same : p ↔ q) : Fares d total q a := propext same ▸ h

end Fares

/-- **A block whose resource was made** ends with what its body ends with. -/
theorem block_result {op : Operation} {body : Value → Narration α} {s : World × String} {id : Nat}
    {cls : HandleClass} (tidy : s.1.Tidy (Machine.Plain d total)) (supplies : op.supplies = true)
    (inner : ∀ v, Balanced (Machine.Plain d total) (body v))
    (made : (op.perform.outcome s.1).1 = .ok (.handle id cls)) :
    ((perform op >>= fun v => holding v (body v)).outcome s).1 =
      ((body (.handle id cls)).outcome ((op.perform.outcome s.1).2, s.2)).1 := by
  have homely := Operation.homely_of_supplies supplies
  have between := tidy.perform Machine.plain_lasting homely
  obtain ⟨⟨f, failed⟩, _⟩ | ⟨cls', supplied, active⟩ :=
    (tidy.effect homely.own).supplied (Operation.makes_of_supplies supplies)
  · rw [made] at failed
    cases failed
  · cases made.symm.trans supplied
    obtain ⟨after, steady⟩ := inner (.handle s.1.resources.length cls)
      ((op.perform.outcome s.1).2, s.2) between
    have ended : ((perform op).outcome s).1 = .ok (.handle s.1.resources.length cls) := made
    rw [Narration.outcome_bind_of_ok ended]
    -- the body has left the resource active, and nothing is in the way of its release
    refine Narration.holding_result active.1 ?_
    exact after.unhindered.spares (Narration.subject_leaving _ _) (steady.active active).1

/-! ## The platforms -/

/-- No tool of the host fails in an unexpected way. -/
def Tooled (w : World) : Prop := ∀ command, w.host.outcome command ≠ .broken

theorem probe_passes (command : String) (arguments : List String) :
    Passes Tooled (act (Discovery.probe command arguments)) fun _ => True := by
  intro s tooled
  rw [Narration.outcome_act, Discovery.probe_outcome, Discovery.lists_eq (tooled command)]
  exact ⟨tooled, _, rfl, trivial⟩

theorem defaultPlatform_passes : Passes Tooled (act Discovery.defaultPlatform) fun _ => True := by
  unfold Discovery.defaultPlatform Discovery.hasAmd Discovery.hasNvidia
  rw [Narration.act_bind]
  refine (probe_passes _ _).bind fun amd _ => ?_
  split
  · exact .pure trivial
  · rw [Narration.act_bind]
    refine (probe_passes _ _).bind fun nvidia _ => ?_
    split <;> exact .pure trivial

theorem platforms_passes : Passes Tooled platforms fun _ => True := by
  refine (Passes.say _).bind fun _ _ => (probe_passes _ _).bind fun amd _ => ?_
  refine (Passes.say _).bind fun _ _ => (probe_passes _ _).bind fun nvidia _ => ?_
  refine (Passes.say _).bind fun _ _ => defaultPlatform_passes.bind fun platform _ => ?_
  exact (Passes.say _).bind fun _ _ => .say _

/-! ## The devices -/

/-- An operation that is one request, whose reply is read. -/
theorem request_passes {op : Operation} {c : NativeCall} {read : Output → Action Value}
    {post : Value → Prop} (casual : op.casual = true)
    (asks : op.perform = Loading.request c >>= read)
    (answers : ∀ w : World, w.Ready d total → ∃ out,
      ((w.machine.spend [c.entryPoint]).perform c).1 = .code 0 out ∧
        ∀ w', ∃ v, ((read out).outcome w').1 = .ok v ∧ post v) :
    Passes (World.Ready d total) (perform op) post := by
  refine .perform casual fun w ready => ?_
  obtain ⟨out, answer, reads⟩ := answers w ready
  obtain ⟨w', ended, _⟩ := ready.tidy.request_ok (Prod.ext answer rfl)
  rw [asks, Action.outcome_bind_ok ended]
  exact reads w'

theorem startUp_passes : Passes (World.Ready d total) startUp fun _ => True := by
  have start : Passes (World.Ready d total) (perform .start) fun _ => True :=
    .perform rfl fun w ready => by
      obtain ⟨w', ended, _⟩ := ready.tidy.request_ok (c := .start 0) rfl
      have started : (StartUp.run.outcome w).1 = .ok () := by
        unfold StartUp.run
        rw [Action.outcome_bind, Action.outcome_discard, ended]
        rfl
      have result := Operation.silent_result StartUp.run w
      rw [started] at result
      exact ⟨_, result, trivial⟩
  have runtime : Passes (World.Ready d total) (perform .runtimeVersion) fun _ => True :=
    request_passes rfl rfl fun w ready => ⟨_, rfl, fun _ => ⟨_, rfl, trivial⟩⟩
  have driver : Passes (World.Ready d total) (perform .driverVersion) fun _ => True :=
    request_passes rfl rfl fun w ready => ⟨_, rfl, fun _ => ⟨_, rfl, trivial⟩⟩
  refine (Passes.say _).bind fun _ _ => start.discard.bind fun _ _ => ?_
  refine runtime.bind fun v _ => (Passes.textOf v).bind fun _ _ => ?_
  refine (Passes.say _).bind fun _ _ => driver.bind fun v _ => ?_
  exact (Passes.textOf v).bind fun _ _ => (Passes.say _).bind fun _ _ => .say _

/-- A question about a device that is there, with what the machine answers. -/
theorem ask_passes {question : DeviceQuestion} {n : Nat} {read : Output → Action Value}
    (answer : Machine → Output) (casual : (Operation.ask (.int n) question).casual = true)
    (asks : Operation.answer (.int n) question = Loading.request (question.call 0 n) >>= read)
    (there : (n : Int) < d)
    (answers : ∀ m : Machine, m.reports = .standard → m.Visible n →
      (m.perform (question.call 0 n)).1 = .code 0 (answer m))
    (reads : ∀ m w', ∃ v, ((read (answer m)).outcome w').1 = .ok v) :
    Passes (World.Ready d total) (perform (.ask (.int n) question)) fun _ => True := by
  refine request_passes casual asks fun w ready => ?_
  have plain := ready.tidy.lasting
  exact ⟨_, answers _ plain.standard (plain.visible ⟨Int.natCast_nonneg n, there⟩ _),
    fun w' => (reads _ w').imp fun _ ended => ⟨ended, trivial⟩⟩

theorem device_passes {n : Nat} (there : (n : Int) < d) (fits : n + 3 < 2 ^ 24) :
    Passes (World.Ready d total) (device n) fun _ => True := by
  have name : Passes (World.Ready d total) (perform (.ask (.int n) .name)) fun _ => True :=
    ask_passes (fun m => .bytes (m.nameBuffer Device.nameLength (.int n))) rfl rfl there
      (fun _ _ known => congrArg Prod.fst (Machine.onDevice_visible known _)) fun _ _ => ⟨_, rfl⟩
  have capability :
      Passes (World.Ready d total) (perform (.ask (.int n) .computeCapability)) fun _ => True :=
    ask_passes (fun m => .pair m.reports.capability.1 m.reports.capability.2) rfl rfl there
      (fun _ _ known => congrArg Prod.fst (Machine.onDevice_visible known _)) fun _ _ => ⟨_, rfl⟩
  have memory :
      Passes (World.Ready d total) (perform (.ask (.int n) .totalMemory)) fun _ => True :=
    ask_passes (fun m => .int m.totalMemory) rfl rfl there
      (fun _ _ known => congrArg Prod.fst (Machine.onDevice_visible known _)) fun _ _ => ⟨_, rfl⟩
  have bus : Passes (World.Ready d total) (perform (.ask (.int n) .busId)) fun _ => True :=
    ask_passes (fun _ => .bytes (Machine.fillBuffer 16 (BusId.bytes n))) rfl rfl there
      (fun _ standard known =>
        congrArg Prod.fst (Machine.busId_answered (by rw [standard]; rfl) known fits))
      fun _ w' => by
        dsimp only [Output.storedBytes]
        rw [Device.busId_decodes fits]
        exact ⟨_, rfl⟩
  refine name.bind fun v _ => (Passes.textOf v).bind fun _ _ => ?_
  refine (Passes.say _).bind fun _ _ => capability.bind fun v _ => ?_
  refine (Passes.textOf v).bind fun _ _ => memory.bind fun v _ => ?_
  refine (Passes.say _).bind fun _ _ => bus.bind fun v _ => ?_
  exact (Passes.textOf v).bind fun _ _ => .say _

/-! ## The selection and the accounts -/

theorem deviceCount_passes (few : Width.InInt d) :
    Passes (World.Ready d total) (perform .deviceCount) (· = .int d) :=
  .perform rfl fun w ready => by
    obtain ⟨w', counted, _⟩ := ready.counted few
    have ended : Operation.deviceCount.perform.outcome w = (.ok (.int d), w') :=
      Action.outcome_bind_ok counted
    exact ⟨.int d, congrArg Prod.fst ended, rfl⟩

/-- A device past the end is refused with a status. -/
theorem pastEnd_passes (few : Width.InInt d) :
    Passes (World.Ready d total) (attempt (perform (.selectDevice (.int d))))
      fun r => ∃ f, r = .error (.status f) := by
  intro s ready
  have casual : (Operation.selectDevice (.int d)).casual = true := rfl
  obtain ⟨tidy, steady⟩ := Balanced.perform Machine.plain_lasting casual s ready.tidy
  have count := ready.tidy.lasting.count
  have outside : ¬s.1.machine.Visible d := fun there => by
    have below := there.2
    omega
  have writable : Text.isWritable d = true :=
    Text.isWritable_of_lt (k := 10) (by decide) (by unfold Width.InInt at few; omega)
  obtain ⟨w', refused, _⟩ :=
    Device.select_outside ready.tidy.direct ready.calm (count.symm ▸ few) .number outside
  rw [Text.written?_of_writable writable] at refused
  exact ⟨ready.steady tidy steady, _, rfl, _, congrArg Prod.fst refused⟩

theorem first_passes (few : Width.InInt d) (some_device : 0 < d) :
    Passes (World.Ready d total) (perform (.selectDevice (.int 0))) fun _ => True :=
  .perform rfl fun w ready => by
    obtain ⟨w', counted, tidy⟩ := ready.counted few
    have there := tidy.lasting.visible ⟨Int.le_refl 0, some_device⟩ [.setDevice]
    obtain ⟨w'', ended, _⟩ := tidy.request_ok (c := .setDevice (.int 0))
      (Device.perform_setDevice there)
    have asked : (discard (Loading.request (.setDevice (.int 0)))).outcome w' = (.ok (), w'') := by
      rw [Action.outcome_discard, ended]
      rfl
    refine ⟨.device (.int 0), ?_, trivial⟩
    show ((Device.select (DeviceForm.number.value 0)).outcome w).1 = _
    unfold Device.select
    rw [DeviceForm.deviceId_value, Action.outcome_bind_ok (Action.outcome_ofExcept (.ok _) w),
      Action.outcome_bind_ok counted, Device.inRange_int,
      Action.outcome_bind_ok (Action.outcome_ofExcept (.ok _) w'),
      if_pos (decide_eq_true ⟨Int.le_refl 0, some_device⟩), Action.outcome_bind_ok asked]
    rfl

theorem selection_passes (few : Width.InInt d) (some_device : 0 < d) :
    Passes (World.Ready d total) (selection d) fun _ => True := by
  refine (pastEnd_passes few).bind fun r refused => ?_
  -- a refusal is told and passed over; any other fault would end the tour
  obtain ⟨f, rfl⟩ := refused
  refine (Passes.say _).bind fun _ _ => (first_passes few some_device).bind fun v _ => ?_
  exact (Passes.textOf v).bind fun _ _ => (Passes.say _).bind fun _ _ => .say _

theorem accounts_passes : Passes (World.Ready d total) accounts fun _ => True := by
  have told : Passes (World.Ready d total) (perform .memoryInfo) fun _ => True :=
    request_passes rfl rfl fun w ready => by
      refine ⟨.pair w.machine.freeMemory w.machine.totalMemory, ?_, fun _ => ⟨_, rfl, trivial⟩⟩
      dsimp only [Machine.perform]
      rw [show (w.machine.spend _).reports = _ from ready.tidy.lasting.standard]
      rfl
  refine told.bind fun v _ => ?_
  dsimp only
  split
  · exact (Passes.say _).bind fun _ _ => .say _
  · exact .say _

end Tour
end GpuHandles
