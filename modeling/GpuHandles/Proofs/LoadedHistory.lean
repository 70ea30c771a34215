import GpuHandles.Proofs.Lockstep
import GpuHandles.Proofs.ReleaseEnd
/-!
What happens while a loaded library is installed.

`History` lists it event by event: an entry point is looked up before its first call, those that
the file lacks are looked up each time, and files are searched for and opened by those tasks alone
that are about a file of their own.  Everything that a script does keeps to it
(`served_invariant`).  What the histories have in common follows by induction on the list: an entry
point that the file has is looked up once (`History.lookups`), and called only after that
(`History.call_after`).
-/

namespace GpuHandles

/-- Does an event belong to the search for a library, or to its opening? -/
def Event.finds : Event → Bool
  | .load _ | .lookup _ => true
  | _ => false

/-- Does an event look up an entry point? -/
def Event.asks (e : EntryPoint) : Event → Bool
  | .resolve f => f == e
  | _ => false

theorem Event.asks_of_finds {v : Event} (finds : v.finds = true) (e : EntryPoint) :
    v.asks e = false := by
  cases v <;> first | rfl | cases finds

/-- What happens while a loaded library is installed: the entry points that it has found at the
end, and the events.  At the start it has found `known`; its file lacks `missing`; of the events of
searches and openings there are those of `aside` alone. -/
inductive History (missing : List String) (aside : Event → Prop) (known : List EntryPoint) :
    List EntryPoint → List Event → Prop
  | start : History missing aside known known []
  /-- an entry point is found, and remembered -/
  | found {e : EntryPoint} {fs : List EntryPoint} {es : List Event}
      (h : History missing aside known fs es) (new : e ∉ fs) (there : e.name ∉ missing) :
      History missing aside known (fs ++ [e]) (es ++ [.resolve e])
  /-- an entry point that the file lacks is looked for; nothing is remembered of that -/
  | lost {e : EntryPoint} {fs : List EntryPoint} {es : List Event}
      (h : History missing aside known fs es) (new : e ∉ fs) (lacking : e.name ∈ missing) :
      History missing aside known fs (es ++ [.resolve e])
  /-- an entry point that was found is called -/
  | called {c : NativeCall} {fs : List EntryPoint} {es : List Event}
      (h : History missing aside known fs es) (ready : c.entryPoint ∈ fs) (code : Int) :
      History missing aside known fs (es ++ [.call c code])
  /-- another file is searched for or opened -/
  | opened {v : Event} {fs : List EntryPoint} {es : List Event}
      (h : History missing aside known fs es) (other : aside v) (finds : v.finds = true) :
      History missing aside known fs (es ++ [v])

namespace History

variable {missing : List String} {aside : Event → Prop} {known fs : List EntryPoint}
  {es : List Event}
  {e : EntryPoint}

/-- Nothing that was found is forgotten. -/
theorem grows (h : History missing aside known fs es) : known <+: fs := by
  induction h with
  | start => exact List.prefix_refl _
  | found _ _ _ ih => exact ih.trans (List.prefix_append _ _)
  | lost _ _ _ ih | called _ _ _ ih | opened _ _ _ ih => exact ih

/-- Several files are searched for or opened. -/
theorem opens (h : History missing aside known fs es) {vs : List Event}
    (other : ∀ v ∈ vs, aside v) (finds : ∀ v ∈ vs, v.finds = true) :
    History missing aside known fs (es ++ vs) := by
  induction vs generalizing es with
  | nil => rwa [List.append_nil]
  | cons v vs ih =>
    rw [List.append_cons]
    exact ih (h.opened (other v (.head _)) (finds v (.head _))) (fun u mem => other u (.tail _ mem))
      fun u mem => finds u (.tail _ mem)

/-- Files are searched for and opened only aside. -/
theorem finds_aside (h : History missing aside known fs es) :
    ∀ v ∈ es, v.finds = true → aside v := by
  have append {v : Event} {es : List Event} (ih : ∀ v ∈ es, v.finds = true → aside v)
      (last : v.finds = true → aside v) : ∀ u ∈ es ++ [v], u.finds = true → aside u := by
    intro u mem
    rcases List.mem_append.1 mem with earlier | here
    · exact ih u earlier
    · rwa [List.mem_singleton.1 here]
  induction h with
  | start => exact List.forall_mem_nil _
  | found _ _ _ ih | lost _ _ _ ih | called _ _ _ ih => exact append ih nofun
  | opened _ other _ ih => exact append ih fun _ => other

/-- **An entry point is looked up once** if the file has it, and never again if it was known. -/
theorem lookups (h : History missing aside known fs es) (there : e ∈ known ∨ e.name ∉ missing) :
    es.countP (Event.asks e) = if e ∈ fs ∧ e ∉ known then 1 else 0 := by
  induction h with
  | start => simp
  | @found f fs es h new present ih =>
    rw [List.countP_append, ih, List.countP_singleton]
    by_cases same : f = e
    · cases same
      have unknown : e ∉ known := fun mem => new (h.grows.subset mem)
      simp [Event.asks, new, unknown]
    · simp [Event.asks, same, Ne.symm same]
  | @lost f fs es h new lacking ih =>
    have other : f ≠ e := by
      rintro rfl
      exact there.elim (fun mem => new (h.grows.subset mem)) fun present => present lacking
    rw [List.countP_append, ih, List.countP_singleton]
    simp [Event.asks, other]
  | called _ _ _ ih =>
    rw [List.countP_append, ih]
    rfl
  | opened _ _ finds ih =>
    rw [List.countP_append, ih, List.countP_singleton, Event.asks_of_finds finds]
    rfl

/-- What was found was known, or it was looked up and is there. -/
theorem resolved (h : History missing aside known fs es) (mem : e ∈ fs) :
    e ∈ known ∨ .resolve e ∈ es ∧ e.name ∉ missing := by
  induction h with
  | start => exact .inl mem
  | found _ _ there ih =>
    rcases List.mem_append.1 mem with earlier | here
    · exact (ih earlier).imp_right fun ⟨asked, there⟩ => ⟨List.mem_append_left _ asked, there⟩
    · cases List.mem_singleton.1 here
      exact .inr ⟨List.mem_append_right _ (.head _), there⟩
  | lost _ _ _ ih | called _ _ _ ih | opened _ _ _ ih =>
    exact (ih mem).imp_right fun ⟨asked, there⟩ => ⟨List.mem_append_left _ asked, there⟩

/-- **An entry point is called** only if it was known, or was looked up before and is there. -/
theorem call_after (h : History missing aside known fs es) {before : List Event} {c : NativeCall}
    {code : Int} (at_ : before ++ [.call c code] <+: es) :
    c.entryPoint ∈ known ∨ .resolve c.entryPoint ∈ before ∧ c.entryPoint.name ∉ missing := by
  have earlier {v : Event} {es : List Event} (other : v ≠ .call c code)
      (at_ : before ++ [.call c code] <+: es ++ [v]) : before ++ [.call c code] <+: es := by
    rcases List.prefix_concat_iff.1 at_ with all | part
    · exact absurd (List.append_inj' all rfl).2 (by simpa using other.symm)
    · exact part
  induction h with
  | start => simp at at_
  | @found e _ _ _ _ _ ih | @lost e _ _ _ _ _ ih =>
    exact ih (earlier (v := .resolve e) (by simp) at_)
  | opened _ _ finds ih => exact ih (earlier (by rintro rfl; cases finds) at_)
  | called h ready _ ih =>
    rcases List.prefix_concat_iff.1 at_ with all | part
    · obtain ⟨rfl, same⟩ := List.append_inj' all rfl
      cases same
      exact h.resolved ready
    · exact ih part

end History

/-! ## Worlds with a loaded library -/

/-- The library of a path is installed. -/
def World.Holds (path : Option String) (w : World) : Prop :=
  ∃ found, w.library = some (.loaded path found)

/-- The library of a path is installed; it has found `found` and its file lacks `missing`; the
trace is `base` and then `es`. -/
structure World.Serves (w : World) (missing : List String) (path : Option String)
    (base : List Event) (found : List EntryPoint) (es : List Event) : Prop where
  missing : w.machine.missing = missing
  library : w.library = some (.loaded path found)
  trace : w.trace = base ++ es

/-- A library was installed when the trace was `base`, and its history since is as it should be. -/
def Served (missing : List String) (aside : Event → Prop) (path : Option String)
    (known : List EntryPoint) (base : List Event) (w : World) : Prop :=
  ∃ found es, w.Serves missing path base found es ∧ History missing aside known found es

section

variable {missing : List String} {aside : Event → Prop} {path : Option String}
  {known : List EntryPoint} {base : List Event} {w : World}

theorem Served.start {found : List EntryPoint} (library : w.library = some (.loaded path found))
    (aside : Event → Prop) : Served w.machine.missing aside path found w.trace w :=
  ⟨found, [], ⟨rfl, library, (List.append_nil _).symm⟩, .start⟩

theorem Served.holds (h : Served missing aside path known base w) : w.Holds path := by
  obtain ⟨found, _, serves, _⟩ := h
  exact ⟨found, serves.library⟩

/-- An entry point is asked for: the history goes on, and if it is had, it is among those that
were found. -/
theorem Served.resolve (h : Served missing aside path known base w) (e : EntryPoint) :
    Served missing aside path known base ((Loading.resolve e).outcome w).2 ∧
      ∀ l, ((Loading.resolve e).outcome w).1 = .ok l → (∃ fs, l = .loaded path fs) ∧
        ∃ fs, ((Loading.resolve e).outcome w).2.library = some (.loaded path fs) ∧ e ∈ fs := by
  obtain ⟨fs, es, serves, history⟩ := h
  rw [Loading.resolve_of_loaded serves.library]
  by_cases ready : e ∈ fs
  · rw [if_pos ready]
    refine ⟨⟨fs, es, serves, history⟩, fun l had => ?_⟩
    cases had
    exact ⟨⟨fs, rfl⟩, fs, serves.library, ready⟩
  · rw [if_neg ready, serves.missing]
    have trace : w.trace ++ [.resolve e] = base ++ (es ++ [.resolve e]) := by
      rw [serves.trace, List.append_assoc]
    by_cases lacking : e.name ∈ missing
    · rw [if_pos lacking]
      exact ⟨⟨fs, _, ⟨serves.missing, serves.library, trace⟩, history.lost ready lacking⟩, nofun⟩
    · rw [if_neg lacking]
      refine ⟨⟨fs ++ [e], _, ⟨serves.missing, rfl, trace⟩, history.found ready lacking⟩,
        fun l had => ?_⟩
      cases had
      exact ⟨⟨fs, rfl⟩, _, rfl, List.mem_append_right _ (.head _)⟩

/-- A call of an entry point that was found. -/
theorem Served.invoke (h : Served missing aside path known base w) {c : NativeCall}
    {fs ks : List EntryPoint} (installed : w.library = some (.loaded path fs))
    (ready : c.entryPoint ∈ fs) :
    Served missing aside path known base ((Loading.invoke (.loaded path ks) c).outcome w).2 := by
  obtain ⟨gs, es, serves, history⟩ := h
  cases installed.symm.trans serves.library
  cases arrived : Loading.arriving (.loaded path ks) c with
  | error f =>
    unfold Loading.invoke
    rw [arrived]
    exact ⟨fs, es, serves, history⟩
  | ok c' =>
    have same := (Loading.arriving_keeps arrived).1
    rw [Loading.invoke_outcome arrived]
    have missing := (Machine.call_change w.machine c').missing.trans serves.missing
    cases reply : (w.machine.call c').1 with
    | fault f =>
      exact ⟨fs, es, ⟨missing, serves.library, by rw [← serves.trace]; exact List.append_nil _⟩,
        history⟩
    | code code out =>
      refine ⟨fs, es ++ [.call c' code], ⟨missing, serves.library, ?_⟩,
        history.called (same ▸ ready) code⟩
      rw [← List.append_assoc, ← serves.trace]
      rfl

end

/-- **The history goes on** in everything that a script does, but for the tasks that install a
library or open one of their own. -/
theorem served_invariant (missing : List String) (aside : Event → Prop) (path : Option String)
    (known : List EntryPoint) (base : List Event) :
    Invariant (Served missing aside path known base) where
  relabel := fun ⟨fs, es, serves, history⟩ _ _ =>
    ⟨fs, es, ⟨serves.missing, serves.library, serves.trace⟩, history⟩
  call e r c entry w h := by
    obtain ⟨kept, ready⟩ := h.resolve e
    rcases had : (Loading.resolve e).outcome w with ⟨f | l, w'⟩
    · rw [Action.outcome_bind_error had]
      rwa [had] at kept
    · rw [had] at kept ready
      obtain ⟨⟨ks, rfl⟩, fs, installed, mem⟩ := ready l rfl
      rw [Action.outcome_bind_ok had]
      cases r with
      | error f => exact kept
      | ok x => exact kept.invoke installed (entry x ▸ mem)
  library := fun w h => by
    obtain ⟨fs, es, serves, history⟩ := h
    rw [Loading.library_outcome serves.library]
    exact ⟨fs, es, serves, history⟩
  resolve e _ h := (h.resolve e).1
  adjust := fun ⟨fs, es, serves, history⟩ _ same =>
    ⟨fs, es, ⟨same.trans serves.missing, serves.library, serves.trace⟩, history⟩
  setVariable := fun ⟨fs, es, serves, history⟩ _ _ =>
    ⟨fs, es, ⟨serves.missing, serves.library, serves.trace⟩, history⟩

/-- **An installed library stays** in everything that a script does, but for the tasks that
install a library or open one of their own. -/
theorem holds_invariant (path : Option String) : Invariant (World.Holds path) := by
  have served {α : Type} {a : Action α} (keeps : ∀ missing known base,
      Action.Keeps (Served missing (fun _ => False) path known base) a) :
      Action.Keeps (World.Holds path) a :=
    fun _ ⟨_, installed⟩ => (keeps _ _ _ _ (.start installed _)).holds
  exact {
    relabel := fun holds _ _ => holds
    call := fun e r c entry => served fun _ _ _ => (served_invariant ..).call e r c entry
    library := served fun _ _ _ => (served_invariant ..).library
    resolve := fun e => served fun _ _ _ => (served_invariant ..).resolve e
    adjust := fun holds _ _ => holds
    setVariable := fun holds _ _ => holds }

end GpuHandles
