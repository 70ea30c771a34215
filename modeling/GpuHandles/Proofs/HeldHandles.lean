import GpuHandles.Proofs.Agreement
/-!
Handles that are held.

Whatever the library, a handle does not leave its table before the resource is released that is
answerable for it (`Present`): only the release call of a handle drops it, only a resource with that
handle makes that call, and no other resource has the same handle.  So the machine has a record for
every handle that an active owning resource holds (`World.present_after`).

That there are no other handles in the tables is true of the machine itself alone (`Agrees`): a
loaded library may lose the code of a failure, and a release that failed passes for one that did
not.
-/

namespace GpuHandles

namespace Machine.Change

variable {m m' : Machine} {c : NativeCall} {reply : Reply} {cls : HandleClass} {a : Nat}

/-- A call that is no release drops no handle. -/
theorem retains (h : Change m c reply m') (keeps : c.released? = none)
    (before : a ∈ m.tables.keys cls) : a ∈ m'.tables.keys cls := by
  cases h with
  | kept same => rwa [same]
  | overwrote _ _ same =>
    rw [same]
    exact Tables.mem_keys_set.2 before
  | issued entry _ same =>
    rw [same]
    exact (Tables.mem_keys_issue (EntryPoint.makes_real entry)).2 (.inl before)
  | taken _ same | lent _ same =>
    rw [same]
    cases cls <;> exact before
  | dropped released =>
    rw [keeps] at released
    cases released

/-- A handle that a call has made is in the table of its class. -/
theorem made_key (h : Change m c reply m') (makes : c.entryPoint.makes? = some (cls, true))
    (stored : reply.stored = some a) : a ∈ m'.tables.keys cls := by
  cases h with
  | kept _ none =>
    rw [none] at stored
    cases stored
  | issued entry _ same =>
    cases stored
    cases entry.symm.trans makes
    rw [same]
    exact (Tables.mem_keys_issue (EntryPoint.makes_real makes)).2 (.inr ⟨rfl, rfl⟩)
  | lent entry =>
    rw [entry] at makes
    cases makes
  | overwrote | taken | dropped => cases stored

end Machine.Change

/-- The handles of active owning resources are in the tables. -/
structure Present (rs : List Resource) (t : Tables) : Prop where
  apart : Apart rs t
  held : ∀ r ∈ rs, r.owned = .truth true → r.released = false →
    ∀ a, r.payload.address = some a → a ∈ t.keys r.payload.cls

namespace Present

variable {rs : List Resource} {t t' : Tables}

theorem nil (t : Tables) (lent : t.lent = []) : Present [] t := ⟨.nil t lent, nofun⟩

/-- No handle leaves the tables. -/
theorem keep (h : Present rs t) (apart : Apart rs t')
    (retains : ∀ cls a, a ∈ t.keys cls → a ∈ t'.keys cls) : Present rs t' where
  apart := apart
  held r hr owned active a ha := retains _ _ (h.held r hr owned active a ha)

/-- A resource is released, and no handle but its own leaves the tables. -/
theorem retire {id : Nat} {r : Resource} (h : Present rs t) (there : rs[id]? = some r)
    (apart : Apart (rs.set id r.retired) t')
    (retains : ∀ cls b, b ∈ t.keys cls →
      b ∈ t'.keys cls ∨ r.owned = .truth true ∧ r.payload.address = some b) :
    Present (rs.set id r.retired) t' where
  apart := apart
  held s hs owned active b hb := by
    obtain ⟨k, u, hu, -, -, unchanged⟩ := Agrees.before_set there hs
    obtain ⟨other, rfl⟩ := unchanged active
    rcases retains _ b (h.held s (List.mem_of_getElem? hu) owned active b hb) with
      still | ⟨mine, address⟩
    · exact still
    · exact absurd (h.apart.sole id k r s b there hu mine address hb).symm other

/-- A resource for what a call has just made. -/
theorem made {m m' : Machine} {c : NativeCall} {reply : Reply} {r : Resource} {own : Bool}
    (h : Present rs m.tables) (change : Machine.Change m c reply m')
    (keeps : c.released? = none) (kind : c.entryPoint.makes? = some (r.payload.cls, own))
    (owned : r.owned = .truth own) (address : r.payload.address = reply.stored) :
    Present (rs ++ [r]) m'.tables where
  apart := h.apart.made change kind owned address
  held s hs mine active a ha := by
    rcases List.mem_append.1 hs with old | new
    · exact change.retains keeps (h.held s old mine active a ha)
    · cases List.mem_singleton.1 new
      cases owned.symm.trans mine
      exact change.made_key kind (address.symm.trans ha)

theorem uses {op : Operation} {w w' : World} (h : Present w.resources w.machine.tables)
    (way : Uses (op.Tries w.resources) w w') : Present w'.resources w'.machine.tables := by
  induction way with
  | refl => exact h
  | quiet _ way ih =>
    rw [way.resources, way.machine]
    exact ih
  | @call w₁ _ c _ tries way ih =>
    rw [way.resources, way.machine]
    have change := Machine.call_change w₁.machine c
    have keeps := NativeCall.released_of_keeps (Operation.entries_keep tries.1.1).2
    exact ih.keep (ih.apart.call change) fun _ _ => change.retains keeps

/-- The release of an owning resource by its call, whatever the call comes to. -/
theorem called {w : World} {id : Nat} {r : Resource} {c : NativeCall}
    (h : Present w.resources w.machine.tables) (there : w.resources[id]? = some r)
    (active : r.released = false) (owned : r.owned = .truth true)
    (call : r.payload.releaseCall? = some c) :
    Present (w.resources.set id r.retired) (w.machine.call c).2.tables := by
  have change := Machine.call_change w.machine c
  refine h.retire there ((h.apart.call change).retire there) fun cls b before => ?_
  cases address : r.payload.address with
  | none => exact .inl (change.retains (Payload.released_of_null call address) before)
  | some a =>
    have mine := h.held r (List.mem_of_getElem? there) owned active a address
    rw [(Machine.call_release call address mine).2]
    split
    · by_cases same : b = a
      · exact .inr ⟨owned, congrArg some same.symm⟩
      · exact .inl (Tables.mem_keys_drop.2 ⟨before, fun both => same both.2⟩)
    · exact .inl before

/-- **What one operation keeps**, over any library. -/
theorem effect {l : Library} {op : Operation} {w w' : World} {result : Except Fault Value}
    (h : Present w.resources w.machine.tables) (effect : Effect l op w result w') :
    Present w'.resources w'.machine.tables := by
  cases effect with
  | used way => exact h.uses way
  | @made _ c _ _ _ _ allowed kind owned _ reply _ address _ _ way =>
    rw [way.resources, way.machine]
    have keeps := NativeCall.released_of_keeps (Operation.entries_keep allowed.1).2
    exact h.made (Machine.call_change _ c) keeps kind owned (by rw [reply]; exact address)
  | released _ there active gone =>
    cases gone with
    | called owned call _ way =>
      rw [way.resources, way.machine]
      exact h.called there active owned call
    | marked _ way =>
      rw [way.resources, way.machine]
      exact h.retire there (h.apart.retire there) fun _ _ => .inl

/-- What one turn keeps. -/
theorem take {w : World} (h : Present w.resources w.machine.tables) (t : Turn)
    (orderly : Orderly w) : Present (t.take w).resources (t.take w).machine.tables := by
  obtain ⟨m, _, same, way⟩ | ⟨l, op, result, _, _, effect⟩ := t.take_cases orderly
  · rw [way.resources, way.machine, same]
    exact h
  · exact h.effect effect

end Present

/-- **What a session keeps**: the machine has a record for every handle that is held. -/
theorem World.present_after {w : World} (h : Present w.resources w.machine.tables)
    (orderly : Orderly w) (ts : List Turn) :
    Present (w.after ts).resources (w.after ts).machine.tables := by
  induction ts generalizing w with
  | nil => exact h
  | cons t ts ih => exact ih (h.take t orderly) (t.orderly orderly)

end GpuHandles
