import GpuHandles.Proofs.Change
/-!
Actions that use handles and leave every resource as it is.

`Uses P w w'` is the way of such an action: the machine gets any number of calls, each of which
`P` allows at the moment it arrives.  `Action.Within P rs a post` says that `a` goes such a way
from every world with the resources `rs`, and that a value it ends with has `post`; there is one
rule for each way in which actions are put together.
-/

namespace GpuHandles

/-! ## Handles in calls -/

/-- The handle in an argument that is a value. -/
def Value.carried : Value → List Nat
  | .address a => a.toList
  | _ => []

/-- The handle in one side of a copy. -/
def Place.carried : Place → List Nat
  | .device a => a.toList
  | .host _ => []

/-- The handles in the handle arguments of a call. -/
def NativeCall.handles : NativeCall → List Nat
  | .allocateOrdered _ stream => stream.carried
  | .allocateFromPool _ pool stream => pool.toList ++ stream.carried
  | .copy target source .. => target.carried ++ source.carried
  | .free a | .fill a .. | .streamDestroy a | .streamQuery a | .streamSynchronize a
  | .poolDestroy a | .poolTrim a _ => a.toList
  | _ => []

/-- Is the stream of an allocation, if the call has one, given by an address? -/
def NativeCall.addressed : NativeCall → Bool
  | .allocateOrdered _ (.address _) | .allocateFromPool _ _ (.address _) => true
  | .allocateOrdered .. | .allocateFromPool .. => false
  | _ => true

/-- An active resource has the handle. -/
def Live (rs : List Resource) (h : Nat) : Prop :=
  ∃ r ∈ rs, r.released = false ∧ r.payload.address = some h

theorem live_of_address {rs : List Resource} {r : Resource} (hr : r ∈ rs ∧ r.released = false) :
    ∀ h ∈ r.payload.address.toList, Live rs h := by
  intro h mem
  exact ⟨r, hr.1, hr.2, by simpa using mem⟩

/-- The parameter types keep the entry point of a call, and the handles that are addresses. -/
theorem NativeCall.narrow_keeps {c c' : NativeCall} (h : c.narrow = .ok c') :
    c'.entryPoint = c.entryPoint ∧ (c.addressed → c'.handles = c.handles) := by
  cases c with
  | setDevice | deviceName | totalMemory | computeCapability | deviceUuid | busId
  | deviceAttribute | defaultPool | poolTrim =>
    obtain ⟨_, _, rfl⟩ := map_ok h
    exact ⟨rfl, fun _ => rfl⟩
  | allocateOrdered n stream | allocateFromPool n pool stream =>
    obtain ⟨_, given, rfl⟩ := map_ok h
    refine ⟨rfl, ?_⟩
    intro addressed
    cases stream with
    | address a =>
      cases given
      rfl
    | _ => cases addressed
  | copy =>
    obtain ⟨_, _, h⟩ := bind_ok h
    cases h
    exact ⟨rfl, fun _ => rfl⟩
  | peerAttribute | fill =>
    obtain ⟨_, _, h⟩ := bind_ok h
    obtain ⟨_, _, h⟩ := bind_ok h
    cases h
    exact ⟨rfl, fun _ => rfl⟩
  | _ =>
    cases h
    exact ⟨rfl, fun _ => rfl⟩

theorem Loading.arriving_keeps {l : Library} {c c' : NativeCall} (h : arriving l c = .ok c') :
    c'.entryPoint = c.entryPoint ∧ (c.addressed → c'.handles = c.handles) := by
  cases l with
  | direct => cases h; exact ⟨rfl, fun _ => rfl⟩
  | loaded => exact NativeCall.narrow_keeps h

/-! ## Ways that leave the resources alone -/

/-- Way from one world to another on which no resource changes and the machine gets calls;
`P` holds of each with the machine that gets it. -/
inductive Uses (P : Machine → NativeCall → Prop) (w : World) : World → Prop
  | refl : Uses P w w
  | quiet {w₁ w₂ : World} (before : Uses P w w₁)
      (way : Passage w₁ w₂ w₁.machine w₁.resources []) : Uses P w w₂
  | call {w₁ w₂ : World} {c : NativeCall} (before : Uses P w w₁) (allowed : P w₁.machine c)
      (way : Passage w₁ w₂ (w₁.machine.call c).2 w₁.resources
        (recorded c (w₁.machine.call c).1)) : Uses P w w₂

namespace Uses

variable {P : Machine → NativeCall → Prop} {w w₁ w₂ : World}

theorem trans (h₁ : Uses P w w₁) (h₂ : Uses P w₁ w₂) : Uses P w w₂ := by
  induction h₂ with
  | refl => exact h₁
  | quiet _ way ih => exact ih.quiet way
  | call _ allowed way ih => exact ih.call allowed way

theorem mono {Q : Machine → NativeCall → Prop} (weaker : ∀ m c, P m c → Q m c)
    (h : Uses P w w₁) : Uses Q w w₁ := by
  induction h with
  | refl => exact .refl
  | quiet _ way ih => exact ih.quiet way
  | call _ allowed way ih => exact ih.call (weaker _ _ allowed) way

/-- What a way of this kind leaves as it was, and what is known of its calls. -/
theorem passage (h : Uses P w w₁) : ∃ cs, Passage w w₁ w₁.machine w.resources cs ∧
    ∀ c code, (c, code) ∈ cs → ∃ m, P m c := by
  induction h with
  | refl => exact ⟨[], .refl w, by simp⟩
  | quiet _ way ih =>
    obtain ⟨cs, before, known⟩ := ih
    refine ⟨cs, ?_, known⟩
    simpa [way.machine, before.resources] using before.trans way
  | call _ allowed way ih =>
    obtain ⟨cs, before, known⟩ := ih
    refine ⟨_, by simpa [way.machine, before.resources] using before.trans way, ?_⟩
    intro c code mem
    rcases List.mem_append.1 mem with mem | mem
    · exact known c code mem
    · obtain ⟨rfl, _⟩ := mem_recorded.1 mem
      exact ⟨_, allowed⟩

end Uses

/-! ## Actions -/

namespace Action

variable {α β : Type}

/-- As long as the resources are `rs`, the action goes a way on which `P` allows each call, and
a value that it ends with has `post`. -/
def Within (P : Machine → NativeCall → Prop) (rs : List Resource) (a : Action α)
    (post : α → Prop) : Prop :=
  ∀ w, w.resources = rs → w.library.isSome → Uses P w (a.outcome w).2 ∧
    ∀ x, (a.outcome w).1 = .ok x → post x

namespace Within

variable {P : Machine → NativeCall → Prop} {rs : List Resource} {a : Action α} {post : α → Prop}

theorem pure {x : α} (h : post x) : Within P rs (Pure.pure x) post := by
  refine fun _ _ _ => ⟨.refl, ?_⟩
  intro y hy
  cases hy
  exact h

theorem done (x : α) : Within P rs (Pure.pure x) fun _ => True := pure trivial

theorem throw (f : Fault) : Within P rs (MonadExcept.throw f : Action α) post :=
  fun _ _ _ => ⟨.refl, fun _ hx => by cases hx⟩

theorem ofExcept {r : Except Fault α} (h : ∀ x, r = .ok x → post x) :
    Within P rs (Action.ofExcept r) post := by
  intro w _ _
  rw [outcome_ofExcept]
  exact ⟨.refl, h⟩

theorem compute (r : Except Fault α) : Within P rs (Action.ofExcept r) fun _ => True :=
  ofExcept fun _ _ => trivial

theorem get : Within P rs MonadState.get fun w => w.resources = rs := by
  refine fun _ hw _ => ⟨.refl, ?_⟩
  intro x hx
  cases hx
  exact hw

theorem write (level : Level) (logger : Logger) (text : String) :
    Within P rs (Action.write level logger text) fun _ => True :=
  fun _ _ _ => ⟨.quiet .refl (.ofWrite _), fun _ _ => trivial⟩

/-- A sequence: the second part goes on with a value that the first part gave. -/
theorem bind {f : α → Action β} {post' : β → Prop} (first : Within P rs a post)
    (rest : ∀ x, post x → Within P rs (f x) post') : Within P rs (a >>= f) post' := by
  intro w hw installed
  obtain ⟨way, val⟩ := first w hw installed
  obtain ⟨cs, passage, -⟩ := way.passage
  rw [outcome_bind]
  rcases h : a.outcome w with ⟨r, w'⟩
  rw [h] at way val passage
  cases r with
  | error f => exact ⟨way, fun _ hx => by cases hx⟩
  | ok x =>
    obtain ⟨way', val'⟩ :=
      rest x (val x rfl) w' (passage.resources.trans hw) (passage.isSome installed)
    exact ⟨way.trans way', val'⟩

theorem map (f : α → β) (h : Within P rs a post) : Within P rs (f <$> a) fun _ => True := by
  intro w hw installed
  rw [outcome_map]
  exact ⟨(h w hw installed).1, fun _ _ => trivial⟩

theorem discard (h : Within P rs a post) : Within P rs (Functor.discard a) fun _ => True :=
  h.bind fun _ _ => .done _

theorem silent {a : Action Unit} (h : Within P rs a fun _ => True) :
    Within P rs (Operation.silent a) fun _ => True :=
  h.bind fun _ _ => .done _

theorem resolve (e : EntryPoint) : Within P rs (Loading.resolve e) fun _ => True := by
  intro w _ installed
  obtain ⟨l, hl⟩ := Option.isSome_iff_exists.1 installed
  obtain ⟨w', way, found | ⟨_, f, missed⟩⟩ := Loading.resolve_cases hl e
  · rw [found]
    exact ⟨.quiet .refl way, fun _ _ => trivial⟩
  · rw [missed]
    exact ⟨.quiet .refl way, fun _ _ => trivial⟩

theorem invoke {l : Library} {c : NativeCall}
    (allowed : ∀ c', Loading.arriving l c = .ok c' → ∀ m, P m c') :
    Within P rs (Loading.invoke l c) fun _ => True := by
  intro w _ _
  obtain ⟨f, _, ended⟩ | ⟨c', w', arrived, way, ended⟩ := Loading.invoke_cases l c w
  · rw [ended]
    exact ⟨.refl, fun _ _ => trivial⟩
  · rw [ended]
    exact ⟨.call .refl (allowed c' arrived _) way, fun _ _ => trivial⟩

theorem check (code : Int) : Within P rs (Loading.check code) fun _ => True := by
  intro w _ _
  rw [Loading.check_outcome]
  exact ⟨.refl, fun _ _ => trivial⟩

theorem request {c : NativeCall}
    (allowed : ∀ l c', Loading.arriving l c = .ok c' → ∀ m, P m c') :
    Within P rs (Loading.request c) fun _ => True := by
  intro w _ installed
  obtain ⟨l, hl⟩ := Option.isSome_iff_exists.1 installed
  obtain ⟨f, w', way, _, ended⟩ | ⟨c', w', arrived, way, ended⟩ := Loading.request_cases hl c
  · rw [ended]
    exact ⟨.quiet .refl way, fun _ _ => trivial⟩
  · rw [ended]
    exact ⟨.call .refl (allowed l c' arrived _) way, fun _ _ => trivial⟩

theorem active (id : Nat) :
    Within P rs (Ownership.active id) fun r => r ∈ rs ∧ r.released = false := by
  refine get.bind fun w hw => ?_
  by_cases h : (w.resource id).released
  · rw [if_pos h]
    exact throw _
  · rw [if_neg h]
    refine pure ⟨?_, Bool.eq_false_iff.2 h⟩
    unfold World.resource at h ⊢
    cases there : w.resources[id]? with
    | none => rw [there] at h; exact absurd rfl h
    | some r => exact hw ▸ List.mem_of_getElem? there

end Within
end Action

end GpuHandles
