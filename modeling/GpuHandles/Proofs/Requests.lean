import GpuHandles.Proofs.Frame
import GpuHandles.Proofs.LoadAttempts
/-!
Requests that nothing keeps from the machine.

A request whose entry point is there and for which no failure is set up ends with the machine's
reply, through a library that is installed (`Loading.request_replied`) and through one that the
request has to load first (`Loading.request_had_replied`).
-/

namespace GpuHandles.Loading

variable {w w₁ : World} {l : Library} {c d : NativeCall}

/-! ## Through an installed library -/

/-- A request whose entry point is there and for which no failure is set up, and its reply. -/
theorem request_replied (installed : w.library = some l) (arrived : arriving l c = .ok d)
    (present : ¬Absent w c.entryPoint) (quiet : w.machine.injected d.entryPoint = 0) :
    let reply := (w.machine.spend [d.entryPoint]).perform d
    ∃ w', (request c).outcome w = (checked l reply.1, w') ∧
      Passage w w' reply.2 w.resources (recorded d reply.1) := by
  obtain ⟨absent, -⟩ | ⟨w', way, ended⟩ := request_arriving installed arrived
  · exact absurd absent present
  · rw [Machine.call_quiet quiet] at way ended
    exact ⟨w', ended, way⟩

/-- A request that arrives as it was made, and that nothing keeps from its answer. -/
theorem request_answered {out : Output} {m : Machine} (installed : w.library = some l)
    (arrived : arriving l c = .ok c) (present : ¬Absent w c.entryPoint)
    (quiet : w.machine.injected c.entryPoint = 0)
    (answer : (w.machine.spend [c.entryPoint]).perform c = (.code 0 out, m)) :
    ∃ w', (request c).outcome w = (.ok out, w') ∧ Passage w w' m w.resources [(c, 0)] := by
  obtain ⟨w', ended, way⟩ := request_replied installed arrived present quiet
  rw [answer] at ended way
  rw [checked_zero] at ended
  exact ⟨w', ended, way⟩

/-! ## Through a library that can be had -/

/-- A library that can be had is installed afterwards, and the machine has noticed nothing. -/
theorem library_had (had : (library.outcome w).1 = .ok l) :
    ∃ w₁, library.outcome w = (.ok l, w₁) ∧ w₁.library = some l ∧ w₁.machine = w.machine := by
  cases installed : w.library with
  | some l' =>
    have same := library_outcome installed
    rw [same] at had
    cases had
    exact ⟨w, same, installed, rfl⟩
  | none =>
    obtain ⟨f, es, ls, fails⟩ | ⟨path, es, loads⟩ := fails_or_loads w.host
    · rw [library_of_fails installed fails] at had
      cases had
    · have loaded := library_of_loads installed loads
      rw [loaded] at had
      cases had
      exact ⟨_, loaded, rfl, rfl⟩

/-- A request that has to load the library first goes on as if it had been installed. -/
theorem request_had (had : library.outcome w = (.ok l, w₁)) (installed : w₁.library = some l)
    (c : NativeCall) : (request c).outcome w = (request c).outcome w₁ := by
  have first : library.outcome w = library.outcome w₁ :=
    had.trans (library_outcome installed).symm
  have resolved : (resolve c.entryPoint).outcome w = (resolve c.entryPoint).outcome w₁ := by
    unfold resolve
    rw [Action.outcome_bind, Action.outcome_bind, first]
  unfold request
  rw [Action.outcome_bind, Action.outcome_bind, resolved]

/-- The same with a library that may still have to be loaded. -/
theorem request_had_replied (had : (library.outcome w).1 = .ok l) (arrived : arriving l c = .ok d)
    (present : ¬Absent w c.entryPoint) (quiet : w.machine.injected d.entryPoint = 0) :
    ∃ w', (request c).outcome w =
      (checked l ((w.machine.spend [d.entryPoint]).perform d).1, w') := by
  obtain ⟨w₁, loaded, installed, machine⟩ := library_had had
  have present : ¬Absent w₁ c.entryPoint := by
    unfold Absent
    rwa [machine]
  rw [← machine] at quiet
  obtain ⟨w', ended, -⟩ := request_replied installed arrived present quiet
  rw [machine] at ended
  exact ⟨w', (request_had loaded installed c).trans ended⟩

end GpuHandles.Loading
