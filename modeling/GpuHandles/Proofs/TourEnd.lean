import GpuHandles.Proofs.TourMemory
/-!
How a tour ends.

The room that the parts of a tour need comes together to that of the largest allocation: the two
buffers are less, and they are not held any more when it is made.  So one number decides whether
a tour with a device goes through (`withDevices_fares`), and the rest of it always does.  What it
leaves behind has nothing to do with that, for which its balance is enough (`tour_ends`).
-/

namespace GpuHandles.Tour

variable {d total : Int}

/-- **The part that needs a device** needs room for what is asked for on the stream; the buffers
before are smaller. -/
theorem withDevices_fares (some_device : 0 < d) (few : d ≤ 2 ^ 24 - 3) :
    Fares d total (2 ^ 20 ≤ total) (withDevices d) := by
  have fits : Width.InInt d := ⟨by omega, by omega⟩
  have each : ∀ n ∈ List.range d.toNat, Passes (World.Ready d total) (device n) fun _ => True := by
    intro n hn
    rw [List.mem_range] at hn
    exact device_passes (by omega) (by omega)
  refine .after (.forM _ each) fun _ _ => .after (.say _) fun _ _ => ?_
  refine .after (selection_passes fits some_device) fun _ _ => ?_
  refine Fares.congr (p := 8192 ≤ total ∧ 2 ^ 20 ≤ total ∧ True) ?_ ?_
  · refine transfer_fares.bind (.after accounts_passes fun _ _ => ?_)
    refine (ordered_fares some_device).bind (.ofPasses ?_)
    exact (Passes.say _).bind fun _ _ => (Passes.say _).bind fun _ _ => .say _
  · simp only [and_true]
    omega

/-- The tour after the look at the platforms. -/
def visit : Narration Unit := do
  startUp
  match ← perform .deviceCount with
  | .int count =>
    say ("Found " ++ toString count ++ " device(s)")
    if count = 0 then say "No HIP devices available - nothing else to do"
    else withDevices count
  | _ => pure ()

theorem visit_fares (count : 0 ≤ d) (few : d ≤ 2 ^ 24 - 3) :
    Fares d total (d = 0 ∨ 2 ^ 20 ≤ total) visit := by
  have fits : Width.InInt d := ⟨by omega, by omega⟩
  refine .after startUp_passes fun _ _ => .after (deviceCount_passes fits) fun v counted => ?_
  subst counted
  refine .after (.say _) fun _ _ => ?_
  by_cases none : d = 0
  · rw [if_pos none]
    exact (Fares.ofPasses (.say _)).congr (iff_of_true trivial (.inl none))
  · rw [if_neg none]
    exact (withDevices_fares (by omega) few).congr (or_iff_right none).symm

theorem narration_eq : narration = (do
    say rule
    say "hiprt - Basic Usage Example"
    say rule
    say ""
    platforms
    visit) := rfl

theorem narration_ends {s : World × String} (tooled : Tooled s.1) (ready : s.1.Ready d total)
    (count : 0 ≤ d) (few : d ≤ 2 ^ 24 - 3) :
    Ends (d = 0 ∨ 2 ^ 20 ≤ total) (narration.outcome s).1 := by
  have after (printed : String) : Ends (d = 0 ∨ 2 ^ 20 ≤ total)
      ((platforms >>= fun _ => visit).outcome (s.1, printed)).1 := by
    obtain ⟨_, ⟨⟩, looked, _⟩ := platforms_passes (s.1, printed) tooled
    obtain ⟨tidy, steady⟩ := platforms_balanced (s.1, printed) ready.tidy
    have ends := (visit_fares count few _ (ready.steady tidy steady)).2
    exact (Ends.bind (.ofOk looked) ends).congr (iff_of_eq (true_and _))
  rw [narration_eq, Narration.outcome_bind_ok (Narration.outcome_say _ _),
    Narration.outcome_bind_ok (Narration.outcome_say _ _),
    Narration.outcome_bind_ok (Narration.outcome_say _ _),
    Narration.outcome_bind_ok (Narration.outcome_say _ _)]
  exact after _

/-- The fault of a tour, by what its narration ends with. -/
def faultOf : Except Fault Unit → Option Fault
  | .ok () => none
  | .error f => some f

theorem Ends.faultOf {room : Prop} {r : Except Fault Unit} (h : Ends room r) :
    (Tour.faultOf r = none ↔ room) ∧
      (¬room → Tour.faultOf r = some (.ofCode Status.Kind.outOfMemory.code)) := by
  by_cases enough : room
  · rw [h.1 enough]
    exact ⟨iff_of_true rfl enough, fun never => absurd enough never⟩
  · rw [h.2 enough]
    exact ⟨iff_of_false nofun enough, fun _ => rfl⟩

theorem run_eq (w : World) : run w =
    ⟨faultOf (narration.outcome (w, "")).1, (narration.outcome (w, "")).2.2,
      (narration.outcome (w, "")).2.1⟩ := by
  show (match narration.outcome (w, "") with
    | (.ok (), s) => ⟨none, s.2, s.1⟩
    | (.error f, s) => ⟨some f, s.2, s.1⟩ : Ending) = _
  rcases narration.outcome (w, "") with ⟨f | _, s⟩ <;> rfl

/-- **How a tour ends**, with the machine itself as library.

* Where nothing fails and no entry point is missing, the tour goes through without a device; with
  one, it goes through if and only if the devices have 2 ^ 20 bytes, and is out of memory if they
  have less.  The two buffers of the transfer are not in the way of the larger allocation, since
  they have been released before it.
* As long as memory and streams can be released, no memory, no stream and no pool is left,
  whichever other calls fail, and wherever the tour ends. -/
theorem tour_ends (host : Host) (m : Machine) :
    let ending := run (.opening host m .direct)
    let left := ending.world.machine
    ((∀ command, host.outcome command ≠ .broken) → m.missing = [] → (∀ e, m.injected e = 0) →
      m.reports = .standard → 0 ≤ m.deviceCount → m.deviceCount ≤ 2 ^ 24 - 3 →
      (m.deviceCount = 0 → ending.fault = none) ∧
      (1 ≤ m.deviceCount → (ending.fault = none ↔ 2 ^ 20 ≤ m.totalMemory) ∧
        (m.totalMemory < 2 ^ 20 →
          ending.fault = some (.ofCode Status.Kind.outOfMemory.code)))) ∧
    ((∀ e : EntryPoint, e = .free ∨ e = .streamDestroy →
        m.missing.contains e.name = false ∧ m.injected e = 0) →
      left.allocations = [] ∧ left.streams = [] ∧ left.pools = []) := by
  intro ending left
  have ended : ending = _ := run_eq (.opening host m .direct)
  refine ⟨fun tooled whole quiet standard count few => ?_, fun frees => ?_⟩
  · have plain : Machine.Plain m.deviceCount m.totalMemory (World.opening host m .direct).machine :=
      ⟨whole, quiet, standard, rfl, rfl⟩
    have ready : (World.opening host m .direct).Ready m.deviceCount m.totalMemory :=
      ⟨.opening host m plain, World.idle_opening host m⟩
    have ends := narration_ends (s := (World.opening host m .direct, "")) tooled ready count few
    obtain ⟨through, full⟩ := ends.faultOf
    rw [ended]
    refine ⟨fun none => through.2 (.inl none), fun some_device => ⟨?_, fun small => full ?_⟩⟩
    · exact through.trans (or_iff_right (by omega))
    · omega
  · -- balanced, the tour leaves only what it found to be released, and it found nothing
    have frees : (World.opening host m .direct).machine.Frees := frees
    obtain ⟨tidy, steady⟩ := narration_balanced Machine.frees_lasting
      (World.opening host m .direct, "") (.opening host m frees)
    have empty := tidy.keys_eq_nil fun id held => World.idle_opening host m id (steady.owed id held)
    have same : left = _ := congrArg (·.world.machine) ended
    rw [same]
    exact ⟨List.map_eq_nil_iff.1 (empty .pointer), List.map_eq_nil_iff.1 (empty .stream),
      List.map_eq_nil_iff.1 (empty .pool)⟩

theorem tour_ends_fresh :
    let small : Machine := { Machine.fresh with totalMemory := 2 ^ 20 - 1 }
    let failing : Machine := { Machine.fresh with pending := [(.copy, 1)] }
    (run (.opening .bare .fresh .direct)).fault = none ∧
      (run (.opening .bare small .direct)).fault = some (.ofCode 2) ∧
      (run (.opening .bare failing .direct)).world.machine.allocations = [] := by
  intro small failing
  have tooled : ∀ command, Host.bare.outcome command ≠ .broken := nofun
  obtain ⟨plenty, _⟩ := tour_ends .bare .fresh
  obtain ⟨little, _⟩ := tour_ends .bare small
  obtain ⟨_, empty⟩ := tour_ends .bare failing
  have through := (plenty tooled rfl (fun _ => rfl) rfl (by decide) (by decide)).2 (by decide)
  have full := (little tooled rfl (fun _ => rfl) rfl (by decide) (by decide)).2 (by decide)
  refine ⟨through.1.2 (by decide), full.2 (by decide), (empty ?_).1⟩
  rintro e (rfl | rfl) <;> exact ⟨by decide, rfl⟩

end GpuHandles.Tour
