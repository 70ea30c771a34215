import GpuHandles.Proofs.MemoryAccounts
import GpuHandles.Proofs.Narration
import GpuHandles.Proofs.Platforms
/-!
What a narration leaves behind.

A tour makes resources only to hold them for a block.  `Balanced` says of a part of it that,
whichever way it ends, the resources that were active before are still active, and those that are
active afterwards and are to be released were so before (`World.Steady`).  Parts after one another
are balanced, and so is a block that makes a resource and holds it (`Balanced.block`): that one is
released at the end, whatever happened in between.

The rules rest on what holds of the world all the time (`World.Tidy`): ownership and the tables of
the machine agree without exception.  That takes no more of the machine than that memory and
streams can be released; any other call may fail.
-/

namespace GpuHandles

/-! ## Machines that release -/

namespace Machine

/-- Memory and streams can be released: their entry points are there, and no failure is set up
for them. -/
def Frees (m : Machine) : Prop :=
  ∀ e : EntryPoint, e = .free ∨ e = .streamDestroy →
    m.missing.contains e.name = false ∧ m.injected e = 0

/-- What holds of a machine all the time if it holds at first, and lets memory and streams be
released. -/
structure Lasting (P : Machine → Prop) : Prop where
  call : ∀ m c, P m → P (m.call c).2
  frees : ∀ m, P m → m.Frees

theorem frees_lasting : Lasting Frees where
  call m c h e he := by
    obtain ⟨there, quiet⟩ := h e he
    rw [(m.call_change c).missing, call_injected, quiet, ite_self]
    exact ⟨there, rfl⟩
  frees _ h := h

end Machine

/-- The resource with a number is active, and it is to be released by a call. -/
def World.Held (w : World) (id : Nat) : Prop :=
  ∃ r, w.resources[id]? = some r ∧ r.owned = .truth true ∧ r.released = false

/-- What holds of a world all through a tour, with `P` of its machine. -/
structure World.Tidy (P : Machine → Prop) (w : World) : Prop where
  booked : ∃ s, Booked s w
  known : Known w
  agrees : Agrees w.resources w.machine.tables fun _ => False
  /-- what is owned is memory or a stream -/
  poolless : ∀ r ∈ w.resources, r.owned = .truth true → r.payload.cls ≠ .pool
  lasting : P w.machine

/-- On the way from one world to another no active resource was released, and none more is to be
released. -/
structure World.Steady (w w' : World) : Prop where
  kept : ∀ (id : Nat) (r : Resource), w.resources[id]? = some r → r.released = false →
    w'.resources[id]? = some r
  owed : ∀ id, w'.Held id → w.Held id

theorem World.Active.of_kept {w w' : World} {cls : HandleClass} {id : Nat}
    (h : w.Active cls id) (there : w'.resources[id]? = some (w.resource id)) :
    w'.Active cls id := by
  unfold Active
  rw [resource_of_getElem? there]
  exact h

namespace World.Steady

variable {w w₁ w₂ : World}

/-- The same resources. -/
theorem of_resources (same : w₁.resources = w.resources) : w.Steady w₁ where
  kept id r there _ := by rw [same, there]
  owed id held := by
    unfold Held at held ⊢
    rwa [same] at held

theorem refl (w : World) : w.Steady w := of_resources rfl

theorem trans (h₁ : w.Steady w₁) (h₂ : w₁.Steady w₂) : w.Steady w₂ where
  kept id r there active := h₂.kept id r (h₁.kept id r there active) active
  owed id held := h₁.owed id (h₂.owed id held)

theorem active {cls : HandleClass} {id : Nat} (h : w.Steady w₁) (active : w.Active cls id) :
    w₁.Active cls id :=
  active.of_kept (h.kept id _ (World.getElem?_of_active active.1) active.1)

end World.Steady

/-! ## Operations -/

/-- A pool that is owned is made by one entry point only. -/
theorem EntryPoint.makes_pool {e : EntryPoint} (h : e.makes? = some (.pool, true)) :
    e = .poolCreate := by
  cases e with
  | poolCreate => rfl
  | _ => cases h

namespace Operation

/-- An operation that neither makes what is to be released nor releases anything. -/
def casual (op : Operation) : Bool :=
  !op.isWrap && op.subject.isNone && op.entries.all fun e => !e.makes?.any Prod.snd

/-- An operation that makes a resource, and not a pool of its own. -/
def supplies (op : Operation) : Bool :=
  !op.isWrap && op.makes && op.entries.all (· != .poolCreate)

variable {op : Operation}

theorem makes_of_supplies (h : op.supplies = true) : op.makes = true := by
  simp only [supplies, Bool.and_eq_true] at h
  exact h.1.2

theorem subject_of_makes (makes : op.makes = true) : op.subject = none := by
  cases subject : op.subject with
  | none => rfl
  | some id =>
    rw [makes_of_subject subject] at makes
    cases makes

theorem casual_unowned (h : op.casual = true) {e : EntryPoint} {cls : HandleClass}
    (entry : e ∈ op.entries) : e.makes? ≠ some (cls, true) := by
  intro makes
  simp only [casual, Bool.and_eq_true, List.all_eq_true] at h
  have unowned := h.2 e entry
  rw [makes] at unowned
  cases unowned

theorem subject_of_casual (h : op.casual = true) : op.subject = none := by
  simp only [casual, Bool.and_eq_true, Option.isNone_iff_eq_none] at h
  exact h.1.2

/-- An operation of a tour: it does not wrap a foreign handle, and makes no pool of its own. -/
structure Homely (op : Operation) : Prop where
  own : op.isWrap = false
  poolless : .poolCreate ∉ op.entries

theorem homely_of_casual (h : op.casual = true) : op.Homely where
  own := by
    simp only [casual, Bool.and_eq_true, Bool.not_eq_true'] at h
    exact h.1.1
  poolless entry := casual_unowned h entry rfl

theorem homely_of_supplies (h : op.supplies = true) : op.Homely where
  own := by
    simp only [supplies, Bool.and_eq_true, Bool.not_eq_true'] at h
    exact h.1.1
  poolless entry := by
    simp only [supplies, Bool.and_eq_true, List.all_eq_true] at h
    exact absurd (h.2 _ entry) (by decide)

theorem homely_leaving {α : Type} (id : Nat) (r : Except Fault α) :
    (Tour.Narration.leaving id r).Homely := by
  cases r <;> exact ⟨rfl, List.not_mem_nil⟩

end Operation

namespace Effect

variable {l : Library} {op : Operation} {w w' : World} {result : Except Fault Value}

/-- A resource stays as it is, unless it is the one to be released. -/
theorem kept {id : Nat} {r : Resource} (h : Effect l op w result w')
    (other : op.subject ≠ some id) (there : w.resources[id]? = some r) :
    w'.resources[id]? = some r := by
  cases h with
  | used way =>
    obtain ⟨_, passage, _⟩ := way.passage
    rw [passage.resources, there]
  | made _ _ _ _ _ _ _ _ _ way =>
    obtain ⟨bound, _⟩ := List.getElem?_eq_some_iff.1 there
    rw [way.resources, List.getElem?_append_left bound, there]
  | @released _ _ k _ subject _ _ gone =>
    have ne : k ≠ id := fun same => other (same ▸ subject)
    rw [gone.resources, List.getElem?_set_ne ne, there]

/-- A resource was there before, and if it is active it was as it is; or it has just been made. -/
theorem origin {id : Nat} {r : Resource} (h : Effect l op w result w')
    (there : w'.resources[id]? = some r) :
    (∃ u, w.resources[id]? = some u ∧ r.payload = u.payload ∧ r.owned = u.owned ∧
      (r.released = false → r = u)) ∨
    id = w.resources.length ∧ ∃ e ∈ op.entries, ∃ own,
      e.makes? = some (r.payload.cls, own) ∧ r.owned = .truth own := by
  cases h with
  | used way =>
    obtain ⟨_, passage, _⟩ := way.passage
    rw [passage.resources] at there
    exact .inl ⟨r, there, rfl, rfl, fun _ => rfl⟩
  | made allowed kind owned _ _ _ _ _ _ way =>
    rw [way.resources] at there
    obtain old | ⟨new, rfl⟩ := Later.of_append there
    · exact .inl ⟨r, old, rfl, rfl, fun _ => rfl⟩
    · exact .inr ⟨new, _, allowed.1, _, kind, owned⟩
  | released _ there' _ gone =>
    rw [gone.resources] at there
    obtain ⟨u, old, payload, owned, same⟩ := Later.of_set there' there
    exact .inl ⟨u, old, payload, owned, fun active => (same active).2⟩

/-- What is to be released was so before, or it has just been made. -/
theorem held {id : Nat} (h : Effect l op w result w') (held : w'.Held id) :
    w.Held id ∨ id = w.resources.length ∧
      ∃ e ∈ op.entries, ∃ cls, e.makes? = some (cls, true) := by
  obtain ⟨r, there, owned, active⟩ := held
  obtain ⟨u, old, _, _, same⟩ | ⟨new, e, entry, own, makes, owned'⟩ := h.origin there
  · exact .inl ⟨r, same active ▸ old, owned, active⟩
  · cases owned.symm.trans owned'
    exact .inr ⟨new, e, entry, _, makes⟩

/-- An operation that makes a resource ends with the handle of a new one, which is active; if it
fails there is none. -/
theorem supplied (h : Effect l op w result w') (makes : op.makes = true) :
    (∃ f, result = .error f) ∧ w'.resources = w.resources ∨
      ∃ cls, result = .ok (.handle w.resources.length cls) ∧
        w'.Active cls w.resources.length := by
  cases h with
  | used way failed _ =>
    obtain ⟨_, passage, _⟩ := way.passage
    exact .inl ⟨failed makes, passage.resources⟩
  | @made _ _ r _ _ _ _ _ _ active _ _ _ _ _ way =>
    refine .inr ⟨r.payload.cls, rfl, ?_⟩
    have there : w'.resources[w.resources.length]? = some r := by
      rw [way.resources, List.getElem?_concat_length]
    unfold World.Active
    rw [World.resource_of_getElem? there]
    exact ⟨active, rfl⟩
  | released subject =>
    rw [Operation.subject_of_makes makes] at subject
    cases subject

/-- An operation that makes and releases nothing of its own is steady. -/
theorem steady (h : Effect l op w result w') (casual : op.casual = true) : w.Steady w' where
  kept id r there _ := by
    refine h.kept ?_ there
    rw [Operation.subject_of_casual casual]
    exact nofun
  owed id held := by
    obtain before | ⟨_, e, entry, cls, makes⟩ := h.held held
    · exact before
    · exact absurd makes (Operation.casual_unowned casual entry)

/-- **What is made, held for a while, and released** is not left over. -/
theorem steady_block {w₂ w₃ : World} {closing : Operation} {result' : Except Fault Value}
    (first : Effect l op w result w') (makes : op.makes = true)
    (active : (w'.resource w.resources.length).released = false) (inner : w'.Steady w₂)
    (subject : closing.subject = some w.resources.length)
    (last : Effect l closing w₂ result' w₃) : w.Steady w₃ where
  kept id r there active := by
    obtain ⟨bound, _⟩ := List.getElem?_eq_some_iff.1 there
    have made := first.kept (by rw [Operation.subject_of_makes makes]; exact nofun) there
    refine last.kept ?_ (inner.kept id r made active)
    rw [subject]
    intro same
    cases same
    exact Nat.lt_irrefl _ bound
  owed id held := by
    have there := inner.kept _ _ (World.getElem?_of_active active) active
    have gone := last.subject_released subject there
    obtain before | ⟨_, e, entry, _⟩ := last.held held
    · obtain before | ⟨rfl, _⟩ := first.held (inner.owed id before)
      · exact before
      · obtain ⟨r, there', _, active'⟩ := held
        cases gone.symm.trans there'
        cases active'
    · rw [(Operation.entries_keep entry).1] at subject
      cases subject

end Effect

/-- At first nothing is held. -/
theorem World.idle_opening (host : Host) (m : Machine) (id : Nat) :
    ¬(World.opening host m .direct).Held id := by
  rintro ⟨r, there, _⟩
  cases there

namespace World.Tidy

variable {P : Machine → Prop} {w : World}

theorem direct (h : w.Tidy P) : w.library = some .direct := h.booked.choose_spec.direct

theorem orderly (h : w.Tidy P) : Orderly w := h.booked.choose_spec.orderly

/-- What an operation does in a tidy world. -/
theorem effect (h : w.Tidy P) {op : Operation} (own : op.isWrap = false) :
    Effect .direct op w (op.perform.outcome w).1 (op.perform.outcome w).2 :=
  op.perform_effect h.direct h.orderly.apart.native own

theorem opening (host : Host) (m : Machine) (holds : P (World.opening host m .direct).machine) :
    (World.opening host m .direct).Tidy P where
  booked := ⟨_, .opening host m⟩
  known := .opening host m
  agrees := agrees_opening host m
  poolless := nofun
  lasting := holds

/-- Where nothing is held, the tables of the machine are empty. -/
theorem keys_eq_nil (h : w.Tidy P) (idle : ∀ id, ¬w.Held id) (cls : HandleClass) :
    w.machine.tables.keys cls = [] := by
  rw [List.eq_nil_iff_forall_not_mem]
  intro a key
  obtain ⟨id, r, there, owned, _, _, gone⟩ := h.agrees.backed cls a key
  cases active : r.released with
  | false => exact idle id ⟨r, there, owned, active⟩
  | true => exact gone active

/-- More in the trace makes no difference. -/
theorem trace (h : w.Tidy P) (es : List Event) : Tidy P { w with trace := es } where
  booked := by
    obtain ⟨s, booked⟩ := h.booked
    exact ⟨s, ⟨booked.orderly.installed, booked.orderly.apart⟩, booked.direct, booked.mirrors,
      booked.distinct⟩
  known := ⟨h.known.agrees, h.known.borrowed⟩
  agrees := h.agrees
  poolless := h.poolless
  lasting := h.lasting

variable (lasting : Machine.Lasting P)

include lasting

/-- The release of what is held is called, and its call succeeds. -/
theorem release_clean (h : w.Tidy P) {r : Resource} (there : r ∈ w.resources)
    (owned : r.owned = .truth true) {c : NativeCall} (call : r.payload.releaseCall? = some c) :
    ¬Loading.Absent w c.entryPoint ∧ w.machine.injected c.entryPoint = 0 := by
  have frees : c.entryPoint = .free ∨ c.entryPoint = .streamDestroy := by
    have real := h.poolless r there owned
    cases payload : r.payload with
    | pointer =>
      rw [payload] at call
      cases call
      exact .inl rfl
    | stream =>
      rw [payload] at call
      cases call
      exact .inr rfl
    | pool =>
      rw [payload] at real
      exact absurd rfl real
    | plain =>
      rw [payload] at call
      cases call
  obtain ⟨present, quiet⟩ := lasting.frees _ h.lasting _ frees
  unfold Loading.Absent
  rw [present]
  exact ⟨Bool.false_ne_true, quiet⟩

/-- **What an operation keeps**: the world stays tidy, however the operation ends. -/
theorem perform (h : w.Tidy P) {op : Operation} (homely : op.Homely) :
    (op.perform.outcome w).2.Tidy P := by
  have effect := h.effect homely.own
  refine ⟨?_, h.known.effect effect, ?_, ?_, effect.keeps lasting.call h.lasting⟩
  · obtain ⟨s, booked⟩ := h.booked
    exact ⟨_, booked.take (.operate op homely.own)⟩
  · refine (h.agrees.effect (fun _ r c there owned call absent =>
      (h.release_clean lasting (List.mem_of_getElem? there) owned call).1 absent) effect).mono ?_
    rintro id _ _ _ (none | ⟨subject, c, code, release, made, failure⟩)
    · exact none
    · -- the call of a release ends with the code that was set up for it, and there is none
      have mem : (c, code) ∈ (Turn.operate op homely.own).calls w := by
        rw [show (Turn.operate op homely.own).calls w = [(c, code)] from made]
        exact .head _
      have known := h.agrees.turn_code _ h.orderly mem release
      obtain ⟨k, r, _, there, _, owned, call⟩ :=
        Turn.exists_subject_of_release h.orderly mem release
      exact failure (known.trans
        (h.release_clean lasting (List.mem_of_getElem? there) owned call).2)
  · intro r hr owned pool
    obtain ⟨id, there⟩ := List.mem_iff_getElem?.1 hr
    obtain ⟨u, old, payload, same, _⟩ | ⟨_, e, entry, own, makes, owned'⟩ := effect.origin there
    · exact h.poolless u (List.mem_of_getElem? old) (same ▸ owned) (payload ▸ pool)
    · cases owned.symm.trans owned'
      rw [pool] at makes
      exact homely.poolless (EntryPoint.makes_pool makes ▸ entry)

end World.Tidy

/-! ## Parts of a tour -/

namespace Tour

variable {α β : Type} {P : Machine → Prop}

/-- A part of a tour that leaves the world tidy, releases nothing that was active before it, and
leaves nothing more to be released, whichever way it ends. -/
def Balanced (P : Machine → Prop) (a : Narration α) : Prop :=
  ∀ s : World × String, s.1.Tidy P →
    (a.outcome s).2.1.Tidy P ∧ s.1.Steady (a.outcome s).2.1

namespace Balanced

variable {a : Narration α}

/-- What leaves the world alone is balanced. -/
theorem still (h : ∀ s, (a.outcome s).2.1 = s.1) : Balanced P a := by
  intro s tidy
  rw [h s]
  exact ⟨tidy, .refl _⟩

theorem pure (x : α) : Balanced P (Pure.pure x : Narration α) := still fun _ => rfl

theorem throw (f : Fault) : Balanced P (MonadExcept.throw f : Narration α) := still fun _ => rfl

theorem say (line : String) : Balanced P (Tour.say line) := still fun _ => rfl

theorem textOf (v : Value) : Balanced P (Tour.textOf v) := still fun _ => rfl

theorem bind {f : α → Narration β} (first : Balanced P a) (rest : ∀ x, Balanced P (f x)) :
    Balanced P (a >>= f) := by
  intro s tidy
  obtain ⟨between, steady⟩ := first s tidy
  rw [Narration.outcome_bind]
  rcases ended : a.outcome s with ⟨e | x, s₁⟩
  · rw [ended] at between steady
    exact ⟨between, steady⟩
  · rw [ended] at between steady
    obtain ⟨after, steady'⟩ := rest x s₁ between
    exact ⟨after, steady.trans steady'⟩

theorem attempt (h : Balanced P a) : Balanced P (Tour.attempt a) := h

theorem discard (h : Balanced P a) : Balanced P (Functor.discard a) := by
  intro s tidy
  rw [Narration.outcome_discard]
  exact h s tidy

/-- One part for each item of a list, in order. -/
theorem forM {f : β → Narration Unit} (each : ∀ x, Balanced P (f x)) (xs : List β) :
    Balanced P (xs.forM f) := by
  induction xs with
  | nil => exact pure ()
  | cons x xs ih => exact (each x).bind fun _ => ih

/-- A look at the tools of the host. -/
theorem probe (command : String) (arguments : List String) :
    Balanced P (act (Discovery.probe command arguments)) :=
  fun s tidy => by
    rw [Narration.outcome_act, Discovery.probe_outcome]
    exact ⟨tidy.trace _, .of_resources rfl⟩

section

variable (lasting : Machine.Lasting P)

include lasting

/-- An operation that neither makes what is to be released nor releases anything. -/
theorem perform {op : Operation} (casual : op.casual = true) : Balanced P (Tour.perform op) := by
  intro s tidy
  have homely := Operation.homely_of_casual casual
  exact ⟨tidy.perform lasting homely, (tidy.effect homely.own).steady casual⟩

/-- **A block that makes a resource and holds it.**  It is released at the end of the block. -/
theorem block {op : Operation} {body : Value → Narration β} (supplies : op.supplies = true)
    (inner : ∀ v, Balanced P (body v)) :
    Balanced P (Tour.perform op >>= fun v => holding v (body v)) := by
  intro s tidy
  have homely := Operation.homely_of_supplies supplies
  have makes := Operation.makes_of_supplies supplies
  have subject := Operation.subject_of_makes makes
  have effect := tidy.effect homely.own
  have made := tidy.perform lasting homely
  rw [Narration.outcome_bind, Narration.outcome_perform]
  obtain ⟨⟨f, failed⟩, same⟩ | ⟨cls, supplied, active⟩ := effect.supplied makes
  · rw [failed]
    exact ⟨made, .of_resources same⟩
  · rw [supplied]
    dsimp only
    rw [Narration.outcome_holding active.1]
    obtain ⟨between, steady⟩ := inner (.handle s.1.resources.length cls)
      ((op.perform.outcome s.1).2, s.2) made
    have closing := Operation.homely_leaving s.1.resources.length
      ((body (.handle s.1.resources.length cls)).outcome ((op.perform.outcome s.1).2, s.2)).1
    exact ⟨between.perform lasting closing, effect.steady_block makes active.1 steady
      (Narration.subject_leaving _ _) (between.effect closing.own)⟩

end

end Balanced

/-! ## The tour -/

theorem defaultPlatform_balanced : Balanced P (act Discovery.defaultPlatform) := by
  unfold Discovery.defaultPlatform Discovery.hasAmd Discovery.hasNvidia
  rw [Narration.act_bind]
  refine (Balanced.probe _ _).bind fun amd => ?_
  split
  · exact .pure _
  · rw [Narration.act_bind]
    refine (Balanced.probe _ _).bind fun nvidia => ?_
    split <;> exact .pure _

theorem platforms_balanced : Balanced P platforms := by
  refine (Balanced.say _).bind fun _ => (Balanced.probe _ _).bind fun amd => ?_
  refine (Balanced.say _).bind fun _ => (Balanced.probe _ _).bind fun nvidia => ?_
  refine (Balanced.say _).bind fun _ => defaultPlatform_balanced.bind fun platform => ?_
  exact (Balanced.say _).bind fun _ => .say _

/-! The parts of the tour that hold resources. -/

/-- A second buffer, and the way there and back. -/
def secondBuffer (source : Value) : Narration Unit :=
  perform (.allocate (.int numbers.byteCount)) >>= fun target =>
    holding target (roundTrip source target)

/-- The two buffers of the transfer. -/
def buffers : Narration Unit :=
  perform (.allocate (.int numbers.byteCount)) >>= fun source =>
    holding source (secondBuffer source)

/-- What is done with memory from a pool. -/
def filling : Value → Narration Unit
  | .handle p _ => discard (perform (.fill p (.int 0) .null))
  | _ => pure ()

/-- The wait for a stream. -/
def waiting : Value → Narration Unit
  | .handle s _ => do
    discard (perform (.synchronizeStream s))
    say ("  Stream status: " ++ memberName (← perform (.queryStream s)))
  | _ => pure ()

/-- Memory from a pool on a stream. -/
def pooled (pool : Nat) (stream : Value) : Narration Unit :=
  perform (.allocateFromPool pool (.int (2 ^ 20)) stream) >>= fun pointer =>
    holding pointer (filling pointer)

/-- The work on a stream. -/
def streamed (pool : Nat) (stream : Value) : Narration Unit := do
  let pointer ← perform (.allocateFromPool pool (.int (2 ^ 20)) stream)
  holding pointer (filling pointer)
  waiting stream

theorem streamed_eq (pool : Nat) (stream : Value) :
    streamed pool stream = pooled pool stream >>= fun _ => waiting stream :=
  (bind_assoc _ _ _).symm

/-- A stream, and the work on it. -/
def onStream (pool : Nat) : Narration Unit :=
  perform .createStream >>= fun stream => holding stream (streamed pool stream)

theorem ordered_eq : ordered = (do
    say "Allocating from the default memory pool on a stream..."
    match ← perform (.ask (.int 0) .defaultPool) with
    | .handle pool _ => do
      onStream pool
      say ""
    | _ => say "") := by
  unfold ordered
  refine congrArg (_ >>= ·) (funext fun _ => congrArg (_ >>= ·) (funext fun v => ?_))
  cases v with
  | handle => exact (bind_assoc _ _ _).symm
  | _ => rfl

theorem compared_balanced (result : HostArray) : Balanced P (compared result) := by
  refine (Balanced.say _).bind fun _ => ?_
  split
  · exact .say _
  · exact .throw _

section

variable (lasting : Machine.Lasting P)

include lasting

theorem startUp_balanced : Balanced P startUp := by
  refine (Balanced.say _).bind fun _ => (Balanced.perform lasting rfl).discard.bind fun _ => ?_
  refine (Balanced.perform lasting rfl).bind fun v => (Balanced.textOf v).bind fun _ => ?_
  refine (Balanced.say _).bind fun _ => (Balanced.perform lasting rfl).bind fun v => ?_
  exact (Balanced.textOf v).bind fun _ => (Balanced.say _).bind fun _ => .say _

theorem device_balanced (n : Nat) : Balanced P (device n) := by
  refine (Balanced.perform lasting rfl).bind fun v => (Balanced.textOf v).bind fun _ => ?_
  refine (Balanced.say _).bind fun _ => (Balanced.perform lasting rfl).bind fun v => ?_
  refine (Balanced.textOf v).bind fun _ => (Balanced.perform lasting rfl).bind fun v => ?_
  refine (Balanced.say _).bind fun _ => (Balanced.perform lasting rfl).bind fun v => ?_
  exact (Balanced.textOf v).bind fun _ => .say _

theorem selection_balanced (count : Int) : Balanced P (selection count) := by
  have choice : Balanced P (do
      let chosen ← perform (.selectDevice (.int 0))
      say ("Selected " ++ (← textOf chosen))
      say "") :=
    (Balanced.perform lasting rfl).bind fun v => (Balanced.textOf v).bind fun _ =>
      (Balanced.say _).bind fun _ => .say _
  refine (Balanced.perform lasting rfl).attempt.bind fun result => ?_
  dsimp only
  split
  · exact (Balanced.say _).bind fun _ => choice
  · exact (Balanced.throw _).bind fun _ => choice
  · exact choice

theorem roundTrip_balanced (source target : Value) : Balanced P (roundTrip source target) := by
  refine (Balanced.textOf _).bind fun _ => (Balanced.say _).bind fun _ => ?_
  refine (Balanced.textOf _).bind fun _ => (Balanced.say _).bind fun _ => ?_
  split
  · refine (Balanced.perform lasting rfl).discard.bind fun _ => ?_
    refine (Balanced.perform lasting rfl).discard.bind fun _ => ?_
    refine (Balanced.perform lasting rfl).bind fun v => ?_
    split
    · exact compared_balanced _
    · exact .pure _
  · exact .pure _

theorem secondBuffer_balanced (source : Value) : Balanced P (secondBuffer source) :=
  .block lasting rfl (roundTrip_balanced lasting source)

theorem buffers_balanced : Balanced P buffers := .block lasting rfl (secondBuffer_balanced lasting)

theorem transfer_balanced : Balanced P transfer := by
  refine (Balanced.say _).bind fun _ => ?_
  dsimp only
  rw [← bind_assoc]
  exact (buffers_balanced lasting).bind fun _ => .say _

theorem accounts_balanced : Balanced P accounts := by
  refine (Balanced.perform lasting rfl).bind fun v => ?_
  dsimp only
  split
  · exact (Balanced.say _).bind fun _ => .say _
  · exact .say _

theorem filling_balanced (pointer : Value) : Balanced P (filling pointer) := by
  unfold filling
  split
  · exact (Balanced.perform lasting rfl).discard
  · exact .pure _

theorem waiting_balanced (stream : Value) : Balanced P (waiting stream) := by
  unfold waiting
  split
  · refine (Balanced.perform lasting rfl).discard.bind fun _ => ?_
    exact (Balanced.perform lasting rfl).bind fun _ => .say _
  · exact .pure _

theorem pooled_balanced (pool : Nat) (stream : Value) : Balanced P (pooled pool stream) :=
  .block lasting rfl (filling_balanced lasting)

theorem streamed_balanced (pool : Nat) (stream : Value) : Balanced P (streamed pool stream) := by
  rw [streamed_eq]
  exact (pooled_balanced lasting pool stream).bind fun _ => waiting_balanced lasting stream

theorem onStream_balanced (pool : Nat) : Balanced P (onStream pool) :=
  .block lasting rfl (streamed_balanced lasting pool)

theorem ordered_balanced : Balanced P ordered := by
  rw [ordered_eq]
  refine (Balanced.say _).bind fun _ => (Balanced.perform lasting rfl).bind fun v => ?_
  split
  · exact (onStream_balanced lasting _).bind fun _ => .say _
  · exact .say _

theorem withDevices_balanced (count : Int) : Balanced P (withDevices count) := by
  refine (Balanced.forM (device_balanced lasting) _).bind fun _ => (Balanced.say _).bind fun _ => ?_
  refine (selection_balanced lasting count).bind fun _ => ?_
  refine (transfer_balanced lasting).bind fun _ => ?_
  refine (accounts_balanced lasting).bind fun _ => (ordered_balanced lasting).bind fun _ => ?_
  exact (Balanced.say _).bind fun _ => (Balanced.say _).bind fun _ => .say _

/-- **The whole tour is balanced.** -/
theorem narration_balanced : Balanced P narration := by
  refine (Balanced.say _).bind fun _ => (Balanced.say _).bind fun _ => ?_
  refine (Balanced.say _).bind fun _ => (Balanced.say _).bind fun _ => ?_
  refine platforms_balanced.bind fun _ => (startUp_balanced lasting).bind fun _ => ?_
  refine (Balanced.perform lasting rfl).bind fun v => ?_
  split
  · refine (Balanced.say _).bind fun _ => ?_
    split
    · exact .say _
    · exact withDevices_balanced lasting _
  · exact .pure _

end

end Tour
end GpuHandles
