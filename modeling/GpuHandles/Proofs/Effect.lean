import GpuHandles.Proofs.Calls
/-!
What an operation does to a world.

`perform_effect` is the inversion lemma of every operation but the wrapping of a foreign handle.
An operation uses handles and leaves the resources as they are, or it makes one resource after
the call that created what it stands for, or it releases the one it is to release.  A release
marks the resource and makes its native release call; the call is left out only if the resource
is borrowed or the entry point is missing.
-/

namespace GpuHandles

open Loading

/-- The native call that releases what a payload stands for. -/
def Payload.releaseCall? : Payload → Option NativeCall
  | pointer a _ => some (.free a)
  | stream a => some (.streamDestroy a)
  | pool a _ => some (.poolDestroy a)
  | plain _ => none

/-- Does an operation put a resource around a handle that is there already? -/
def Operation.isWrap : Operation → Bool
  | wrap .. => true
  | _ => false

/-- The size that an operation asks memory for. -/
def Operation.asked? : Operation → Option Value
  | allocate size | allocateFlagged size _ | allocateOrdered size _ | allocateFromPool _ size _ =>
    some size
  | _ => none

/-- Resources as the operations make them: each stands for something native, and it is owned
or it is not. -/
def Native (rs : List Resource) : Prop :=
  ∀ r ∈ rs, r.payload.cls ≠ .plain ∧ ∃ own, r.owned = .truth own

/-- What holds of a call of an operation that does not give it a new handle. -/
def Operation.Tries (op : Operation) (rs : List Resource) (m : Machine) (c : NativeCall) : Prop :=
  op.Allows rs c ∧ (c.entryPoint.makes?.isSome → ∀ out, (m.call c).1 ≠ .code 0 out)

/-- Way on which the active resource `r` with the number `id` is released. -/
inductive Releases (w : World) (id : Nat) (r : Resource) : World → Prop
  /-- with its native call -/
  | called {w' : World} {c : NativeCall} {code : Int} {out : Output}
      (owned : r.owned = .truth true) (call : r.payload.releaseCall? = some c)
      (reply : (w.machine.call c).1 = .code code out)
      (way : Passage w w' (w.machine.call c).2 (w.resources.set id r.retired) [(c, code)]) :
      Releases w id r w'
  /-- without one -/
  | marked {w' : World}
      (cause : r.owned = .truth false ∨
        ∃ c, r.payload.releaseCall? = some c ∧ Absent w c.entryPoint)
      (way : Passage w w' w.machine (w.resources.set id r.retired) []) : Releases w id r w'

/-- What an operation does to a world with the library `l`, by what it ends with. -/
inductive Effect (l : Library) (op : Operation) (w : World) : Except Fault Value → World → Prop
  /-- the resources stay; an operation that was to make one fails -/
  | used {result : Except Fault Value} {w' : World} (way : Uses (op.Tries w.resources) w w')
      (failed : op.makes → ∃ f, result = .error f)
      (idle : ∀ id, op.subject = some id → (w.resource id).released = true) :
      Effect l op w result w'
  /-- a resource more -/
  | made {w' : World} {c : NativeCall} {r : Resource} {own : Bool} {code : Int} {out : Output}
      (allowed : op.Allows w.resources c)
      (kind : c.entryPoint.makes? = some (r.payload.cls, own)) (owned : r.owned = .truth own)
      (active : r.released = false) (reply : (w.machine.call c).1 = .code code out)
      (success : returning l code = 0) (address : r.payload.address = out.storedAddress)
      (size : l = .direct → r.payload.cls = .pointer → r.payload.size = .int c.requested)
      (asked : l = .direct → ∀ v, op.asked? = some v → Memory.validSize v = .ok c.requested)
      (way : Passage w w' (w.machine.call c).2 (w.resources ++ [r]) [(c, code)]) :
      Effect l op w (.ok (.handle w.resources.length r.payload.cls)) w'
  /-- a resource released -/
  | released {result : Except Fault Value} {w' : World} {id : Nat} {r : Resource}
      (subject : op.subject = some id) (there : w.resources[id]? = some r)
      (active : r.released = false) (gone : Releases w id r w') : Effect l op w result w'

/-! ## Reading a resource -/

theorem World.resource_of_getElem? {w : World} {id : Nat} {r : Resource}
    (there : w.resources[id]? = some r) : w.resource id = r := by
  simp [World.resource, there]

/-- A number that was given out belongs to a resource, and any other counts as released. -/
theorem World.getElem?_of_active {w : World} {id : Nat}
    (active : (w.resource id).released = false) : w.resources[id]? = some (w.resource id) := by
  unfold World.resource at active ⊢
  cases there : w.resources[id]? with
  | none => rw [there] at active; cases active
  | some r => rfl

theorem Ownership.active_outcome (id : Nat) (w : World) :
    (active id).outcome w =
      (if (w.resource id).released then .error (.released (w.resource id).payload.cls)
        else .ok (w.resource id), w) := by
  unfold active
  rw [Action.outcome_bind_ok (Action.outcome_get w)]
  dsimp only
  split <;> rfl

theorem Ownership.active_ok {w : World} {id : Nat} {r : Resource}
    (there : w.resources[id]? = some r) (active : r.released = false) :
    (Ownership.active id).outcome w = (.ok r, w) := by
  rw [active_outcome, World.resource_of_getElem? there, active]
  rfl

/-- Asking for a resource to use only reads. -/
theorem Ownership.active_reads (id : Nat) (w : World) :
    ∃ result, (active id).outcome w = (result, w) ∧
      ∀ r, result = .ok r → w.resources[id]? = some r ∧ r.released = false := by
  refine ⟨_, active_outcome id w, ?_⟩
  intro r hr
  split at hr
  · cases hr
  next going =>
    cases hr
    have active := Bool.eq_false_iff.2 going
    exact ⟨World.getElem?_of_active active, active⟩

/-! ## Releasing -/

namespace Releases

variable {w w' : World} {id : Nat} {r : Resource}

/-- With its call or without it, the resource is marked and no other is touched. -/
theorem resources (h : Releases w id r w') : w'.resources = w.resources.set id r.retired := by
  cases h with
  | called _ _ _ way => exact way.resources
  | marked _ way => exact way.resources

theorem write (h : Releases w id r w') (log : List LogRecord) :
    Releases w id r { w' with log := log } := by
  cases h with
  | called owned call reply way => exact .called owned call reply (way.write log)
  | marked cause way => exact .marked cause (way.write log)

end Releases

theorem Payload.exists_releaseCall {p : Payload} (real : p.cls ≠ .plain) :
    ∃ c, p.releaseCall? = some c ∧ Ownership.releaseNative p = discard (request c) := by
  cases p with
  | plain v => exact absurd rfl real
  | _ => exact ⟨_, rfl, rfl⟩

/-- The call that releases a payload arrives as it is, and the machine has a code for it. -/
theorem Payload.releaseCall_arrives {p : Payload} {c : NativeCall}
    (call : p.releaseCall? = some c) (l : Library) : arriving l c = .ok c := by
  cases p with
  | plain v => cases call
  | _ => cases call; cases l <;> rfl

/-- A release call is answered with a code, never with a fault. -/
theorem Machine.release_code (m : Machine) {p : Payload} {c : NativeCall}
    (call : p.releaseCall? = some c) : ∃ code out, (m.call c).1 = .code code out := by
  by_cases h : m.injected c.entryPoint = 0
  · rw [call_of_none h]
    cases p with
    | plain v => cases call
    | pointer a n =>
      cases call
      cases a with
      | none => exact ⟨_, _, rfl⟩
      | some h =>
        dsimp only [perform]
        split <;> exact ⟨_, _, rfl⟩
    | stream a =>
      cases call
      dsimp only [perform]
      split
      · split <;> exact ⟨_, _, rfl⟩
      · exact ⟨_, _, rfl⟩
    | pool a props =>
      cases call
      dsimp only [perform]
      split
      · split <;> exact ⟨_, _, rfl⟩
      · exact ⟨_, _, rfl⟩
  · rw [call_of_injected h]
    exact ⟨_, _, rfl⟩

/-- The native call of a release, asked for after the resource has been marked. -/
theorem Releases.ofRequest {w w₁ : World} {l : Library} {id : Nat} {r : Resource} {c : NativeCall}
    (installed : w₁.library = some l) (owned : r.owned = .truth true)
    (call : r.payload.releaseCall? = some c)
    (marked : Passage w w₁ w.machine (w.resources.set id r.retired) []) :
    Releases w id r ((request c).outcome w₁).2 := by
  obtain ⟨f, w', way, cause, ended⟩ | ⟨c', w', arrived, way, ended⟩ := request_cases installed c
  · rw [ended]
    rw [marked.machine, marked.resources] at way
    refine .marked (.inr ⟨c, call, ?_⟩) (by simpa using marked.trans way)
    rcases cause with absent | ⟨g, refused⟩
    · unfold Absent at absent ⊢
      rwa [marked.machine] at absent
    · rw [Payload.releaseCall_arrives call] at refused
      cases refused
  · rw [Payload.releaseCall_arrives call] at arrived
    cases arrived
    rw [ended]
    obtain ⟨code, out, reply⟩ := w₁.machine.release_code call
    rw [reply, marked.resources] at way
    rw [marked.machine] at way reply
    exact .called owned call reply (by simpa [recorded] using marked.trans way)

theorem World.countsAsTrue_truth (w : World) (b : Bool) : w.countsAsTrue (.truth b) = .ok b := rfl

/-- **A release**: the resource is marked, and the call for its class made if it is owned. -/
theorem Ownership.release_releases {w : World} {l : Library} {id : Nat} {r : Resource}
    (installed : w.library = some l) (native : Native w.resources)
    (there : w.resources[id]? = some r) (active : r.released = false) :
    Releases w id r ((release id).outcome w).2 := by
  obtain ⟨real, own, owned⟩ := native r (List.mem_of_getElem? there)
  obtain ⟨c, call, native⟩ := Payload.exists_releaseCall real
  unfold release
  rw [Action.outcome_bind_ok (active_ok there active),
    Action.outcome_bind_ok (Action.outcome_modify _ w),
    Action.outcome_bind_ok (Action.outcome_get _), owned, World.countsAsTrue_truth,
    Action.outcome_bind_ok (Action.outcome_ofExcept (.ok own) _)]
  have marked : Passage w (w.setResource id r.retired) w.machine
      (w.resources.set id r.retired) [] := ⟨rfl, rfl, rfl, [], (List.append_nil _).symm, rfl⟩
  cases own with
  | false => exact .marked (.inl owned) marked
  | true =>
    rw [if_pos rfl, Action.outcome_bind_ok (Action.outcome_write ..), native,
      Action.outcome_discard]
    exact .ofRequest (installed : (w.setResource id r.retired).library = some l) owned call
      (marked.write _)

theorem Ownership.release_of_released {w : World} {id : Nat}
    (released : (w.resource id).released = true) : ((release id).outcome w).2 = w := by
  have refused := active_outcome id w
  rw [if_pos released] at refused
  unfold release
  rw [Action.outcome_bind_error refused]

/-- The end of a block does to an active resource what a release does; it may add to the log. -/
theorem Ownership.leave_active {w : World} {id : Nat} (body : Option Fault)
    (active : (w.resource id).released = false) :
    ∃ log, ((leave id body).outcome w).2 = { ((release id).outcome w).2 with log := log } := by
  have going : ¬(w.resource id).released = true := by simp [active]
  unfold leave
  rw [Action.outcome_bind_ok (Action.outcome_get w), if_neg going]
  cases body with
  | none => exact ⟨((release id).outcome w).2.log, rfl⟩
  | some f =>
    dsimp only
    rw [Action.outcome_bind_ok (Action.outcome_attempt _ w)]
    split
    · exact ⟨_, rfl⟩
    · exact ⟨_, rfl⟩
    · exact ⟨_, rfl⟩

/-- So does the end of a resource's last name. -/
theorem Ownership.finalize_active {w : World} {id : Nat}
    (active : (w.resource id).released = false) :
    ∃ log, ((finalize id).outcome w).2 = { ((release id).outcome w).2 with log := log } := by
  have going : ¬(w.resource id).released = true := by simp [active]
  unfold finalize
  rw [Action.outcome_bind_ok (Action.outcome_get w), if_neg going,
    Action.outcome_bind_ok (Action.outcome_attempt _ w)]
  split
  · exact ⟨_, rfl⟩
  · exact ⟨_, rfl⟩

theorem Ownership.leave_released {w : World} {id : Nat} (body : Option Fault)
    (released : (w.resource id).released = true) : ((leave id body).outcome w).2 = w := by
  unfold leave
  rw [Action.outcome_bind_ok (Action.outcome_get w), if_pos released]
  cases body <;> rfl

theorem Ownership.finalize_released {w : World} {id : Nat}
    (released : (w.resource id).released = true) : ((finalize id).outcome w).2 = w := by
  unfold finalize
  rw [Action.outcome_bind_ok (Action.outcome_get w), if_pos released]
  rfl

namespace Operation

variable {op : Operation} {w : World} {id : Nat}

theorem silent_world (a : Action Unit) (w : World) :
    ((silent a).outcome w).2 = (a.outcome w).2 := by
  unfold silent
  rw [Action.outcome_bind]
  rcases a.outcome w with ⟨_ | _, _⟩ <;> rfl

theorem silent_result (a : Action Unit) (w : World) :
    ((silent a).outcome w).1 = (a.outcome w).1.map fun _ => Value.null := by
  unfold silent
  rw [Action.outcome_bind]
  rcases a.outcome w with ⟨_ | _, _⟩ <;> rfl

theorem silent_outcome (a : Action Unit) (w : World) :
    (silent a).outcome w = ((a.outcome w).1.map fun _ => Value.null, (a.outcome w).2) :=
  Prod.ext (silent_result a w) (silent_world a w)

theorem silent_ok {a : Action Unit} {w : World} (h : (a.outcome w).1 = .ok ()) :
    ((silent a).outcome w).1 = .ok .null := by
  rw [silent_result, h]
  rfl

theorem free_of_subject {pointer : Value} (subject : (free pointer).subject = some id) :
    Memory.free pointer = Ownership.release id := by
  unfold Operation.subject at subject
  split at subject
  next h =>
    cases h
    cases subject
    rfl
  all_goals simp_all

theorem makes_of_subject (subject : op.subject = some id) : op.makes = false := by
  cases op with
  | free | release | leave | finalize => rfl
  | _ => cases subject

/-- An operation that is to release a released resource does nothing. -/
theorem subject_idle (subject : op.subject = some id) (released : (w.resource id).released = true) :
    (op.perform.outcome w).2 = w := by
  cases op with
  | free pointer =>
    show ((silent (Memory.free pointer)).outcome w).2 = w
    rw [silent_world, free_of_subject subject, Ownership.release_of_released released]
  | release k =>
    cases subject
    exact (silent_world _ w).trans (Ownership.release_of_released released)
  | leave k body =>
    cases subject
    exact (silent_world _ w).trans (Ownership.leave_released body released)
  | finalize k =>
    cases subject
    exact (silent_world _ w).trans (Ownership.finalize_released released)
  | _ => cases subject

/-- An operation that is to release an active resource does what its release does, and it may
add to the log. -/
theorem subject_releases (subject : op.subject = some id)
    (active : (w.resource id).released = false) :
    ∃ log, (op.perform.outcome w).2 = { ((Ownership.release id).outcome w).2 with log := log } := by
  cases op with
  | free pointer =>
    refine ⟨((Ownership.release id).outcome w).2.log, ?_⟩
    show ((silent (Memory.free pointer)).outcome w).2 = _
    rw [silent_world, free_of_subject subject]
  | release k =>
    cases subject
    exact ⟨_, silent_world _ w⟩
  | leave k body =>
    cases subject
    obtain ⟨log, ended⟩ := Ownership.leave_active body active
    exact ⟨log, (silent_world _ w).trans ended⟩
  | finalize k =>
    cases subject
    obtain ⟨log, ended⟩ := Ownership.finalize_active active
    exact ⟨log, (silent_world _ w).trans ended⟩
  | _ => cases subject

variable {l : Library}

/-- An operation that is to release a resource. -/
theorem subject_effect (installed : w.library = some l) (native : Native w.resources)
    (subject : op.subject = some id) :
    Effect l op w (op.perform.outcome w).1 (op.perform.outcome w).2 := by
  cases active : (w.resource id).released with
  | true =>
    rw [subject_idle subject active]
    refine .used .refl ?_ ?_
    · intro makes
      rw [makes_of_subject subject] at makes
      cases makes
    · intro k hk
      cases subject.symm.trans hk
      exact active
  | false =>
    have there := World.getElem?_of_active active
    obtain ⟨log, ended⟩ := subject_releases subject active
    rw [ended]
    exact .released subject there active
      ((Ownership.release_releases installed native there active).write log)

/-! ## Making -/

/-- A call from whose output a resource is made. -/
structure Making (l : Library) (op : Operation) (rs : List Resource) (c : NativeCall)
    (r : Output → Resource) : Prop where
  entry : c.entryPoint ∈ op.entries
  live : ∀ c', arriving l c = .ok c' → ∀ h ∈ c'.handles, Live rs h
  kind : ∀ out, ∃ own, c.entryPoint.makes? = some ((r out).payload.cls, own) ∧
    (r out).owned = .truth own
  active : ∀ out, (r out).released = false
  address : ∀ out, (r out).payload.address = out.storedAddress
  size : ∀ out, (r out).payload.cls = .pointer → (r out).payload.size = .int c.requested
  asked : ∀ v, op.asked? = some v → Memory.validSize v = .ok c.requested

/-- The value of a resource that has been made, after something may have been logged. -/
def Completes (r : Output → Resource) (f : Output → Action Value) : Prop :=
  ∀ out w, ∃ log, (f out).outcome w =
    (.ok (.handle w.resources.length (r out).payload.cls),
      { w with resources := w.resources ++ [r out], log := log })

/-- A call that makes something, and the resource for it once it has succeeded. -/
theorem request_effect {c : NativeCall} {r : Output → Resource} {f : Output → Action Value}
    (installed : w.library = some l) (keeps : op.subject = none)
    (making : Making l op w.resources c r) (completes : Completes r f) :
    Effect l op w ((request c >>= f).outcome w).1 ((request c >>= f).outcome w).2 := by
  obtain ⟨g, w', way, _, ended⟩ | ⟨c', w', arrived, way, ended⟩ := request_cases installed c
  · rw [Action.outcome_bind_error ended]
    refine .used (.quiet .refl way) (fun _ => ⟨g, rfl⟩) ?_
    intro id hid
    rw [keeps] at hid
    cases hid
  · have allowed : op.Allows w.resources c' :=
      ⟨(arriving_keeps arrived).1 ▸ making.entry, making.live c' arrived⟩
    obtain ⟨g, error, refused⟩ | ⟨code, out, reply, success, ok⟩ :=
      checked_cases l (w.machine.call c').1
    · rw [error] at ended
      rw [Action.outcome_bind_error ended]
      refine .used (.call .refl ⟨allowed, fun _ => refused⟩ way) (fun _ => ⟨g, rfl⟩) ?_
      intro id hid
      rw [keeps] at hid
      cases hid
    · rw [ok] at ended
      rw [reply] at way
      obtain ⟨log, completed⟩ := completes out w'
      obtain ⟨own, kind, owned⟩ := making.kind out
      rw [Action.outcome_bind_ok ended, completed, way.resources]
      rw [← (arriving_keeps arrived).1] at kind
      refine .made allowed kind owned (making.active out) reply success (making.address out)
        ?_ ?_ (way.withResources _ log)
      · intro direct pointer
        subst direct
        cases arrived
        exact making.size out pointer
      · intro direct
        subst direct
        cases arrived
        exact making.asked

theorem refused_effect (keeps : op.subject = none) (f : Fault) : Effect l op w (.error f) w :=
  .used .refl (fun _ => ⟨f, rfl⟩) fun id hid => by
    rw [keeps] at hid
    cases hid

/-- What comes first only reads, and the rest goes on in the same world. -/
theorem reading_effect {α : Type} {a : Action α} {f : α → Action Value} {result : Except Fault α}
    (keeps : op.subject = none) (reads : a.outcome w = (result, w))
    (rest : ∀ x, result = .ok x → Effect l op w ((f x).outcome w).1 ((f x).outcome w).2) :
    Effect l op w ((a >>= f).outcome w).1 ((a >>= f).outcome w).2 := by
  cases result with
  | error g =>
    rw [Action.outcome_bind_error reads]
    exact refused_effect keeps g
  | ok x =>
    rw [Action.outcome_bind_ok reads]
    exact rest x rfl

/-- The stream that an allocation is given is read from an active resource. -/
theorem handleOf_reads (native : Native w.resources) (stream : Value) :
    ∃ result, (Memory.handleOf stream).outcome w = (result, w) ∧
      ∀ x, result = .ok x → ∃ a, x = .address a ∧ ∀ h ∈ a.toList, Live w.resources h := by
  unfold Memory.handleOf
  split
  next id _ =>
    obtain ⟨result, reads, known⟩ := Ownership.active_reads id w
    cases result with
    | error f => exact ⟨_, Action.outcome_bind_error reads, fun x hx => by cases hx⟩
    | ok r =>
      obtain ⟨there, active⟩ := known r rfl
      refine ⟨_, Action.outcome_bind_ok reads, ?_⟩
      intro x hx
      have mem := List.mem_of_getElem? there
      cases hx
      refine ⟨r.payload.address, ?_, live_of_address ⟨mem, active⟩⟩
      obtain ⟨real, -⟩ := native r mem
      cases payload : r.payload with
      | plain v => rw [payload] at real; exact absurd rfl real
      | _ => rfl
  next => exact ⟨_, Action.outcome_ofExcept _ w, fun x hx => by cases hx⟩

theorem completes_write {r : Output → Resource} {level : Level} {logger : Logger}
    {text : Output → String} : Completes r fun out => do
      let v ← Ownership.constructed (r out)
      Action.write level logger (text out)
      return v :=
  fun _ _ => ⟨_, rfl⟩

/-- An allocation by any of the entry points that take a size. -/
theorem allocateBy_effect {call : Int → NativeCall} (installed : w.library = some l)
    (keeps : op.subject = none) (entry : ∀ n, (call n).entryPoint ∈ op.entries)
    (kind : ∀ n, (call n).entryPoint.makes? = some (.pointer, true))
    (asked : ∀ n, (call n).requested = n) (addressed : ∀ n, (call n).addressed)
    (live : ∀ n, ∀ h ∈ (call n).handles, Live w.resources h) {size : Value}
    (only : op.asked? = some size) :
    Effect l op w ((Memory.allocateBy call size).outcome w).1
      ((Memory.allocateBy call size).outcome w).2 := by
  refine reading_effect keeps (Action.outcome_ofExcept _ w) fun n hn => ?_
  refine request_effect (r := fun out => .owning (.pointer out.storedAddress (.int n)))
    installed keeps ⟨entry n, ?_, fun out => ⟨true, kind n, rfl⟩, fun _ => rfl,
      fun _ => rfl, ?_, ?_⟩ completes_write
  · intro c' arrived
    rw [(arriving_keeps arrived).2 (addressed n)]
    exact live n
  · intro _ _
    exact congrArg Value.int (asked n).symm
  · intro v hv
    cases only.symm.trans hv
    rw [asked n]
    exact hn

theorem create_effect (installed : w.library = some l) :
    Effect l .createStream w (Stream.create.outcome w).1 (Stream.create.outcome w).2 := by
  refine request_effect (r := fun out => .owning (.stream out.storedAddress)) installed rfl
    ⟨.head _, ?_, fun out => ⟨true, rfl, rfl⟩, fun _ => rfl, fun _ => rfl,
      fun _ h => (by cases h), fun _ h => (by cases h)⟩ completes_write
  intro c' arrived
  rw [(arriving_keeps arrived).2 rfl]
  exact List.forall_mem_nil _

theorem createPool_effect (installed : w.library = some l) (props : Value) :
    Effect l (.createPool props) w ((Pool.create props).outcome w).1
      ((Pool.create props).outcome w).2 := by
  refine reading_effect rfl (Action.outcome_get w) fun _ _ => ?_
  refine reading_effect rfl (Action.outcome_ofExcept _ w) fun p _ => ?_
  refine reading_effect rfl (Action.outcome_ofExcept _ w) fun image _ => ?_
  refine request_effect (r := fun out => .owning (.pool out.storedAddress (some p))) installed rfl
    ⟨.head _, ?_, fun out => ⟨true, rfl, rfl⟩, fun _ => rfl, fun _ => rfl,
      fun _ h => (by cases h), fun _ h => (by cases h)⟩ completes_write
  intro c' arrived
  rw [(arriving_keeps arrived).2 rfl]
  exact List.forall_mem_nil _

/-- The default pool of a device, asked of the pools or of the device. -/
theorem defaultOf_effect (installed : w.library = some l) (keeps : op.subject = none)
    (entry : EntryPoint.defaultPool ∈ op.entries) (sizeless : op.asked? = none) (device : Value) :
    Effect l op w ((Pool.defaultOf device).outcome w).1 ((Pool.defaultOf device).outcome w).2 := by
  refine request_effect (r := fun out => .borrowing (.pool out.storedAddress none)) installed keeps
    ⟨entry, ?_, fun out => ⟨false, rfl, rfl⟩, fun _ => rfl, fun _ => rfl,
      fun _ h => (by cases h), ?_⟩ fun _ _ => ⟨_, rfl⟩
  · intro c' arrived
    rw [(arriving_keeps arrived).2 rfl]
    exact List.forall_mem_nil _
  · intro v h
    rw [sizeless] at h
    cases h

/-- An operation that makes a resource. -/
theorem makes_effect (installed : w.library = some l) (native : Native w.resources)
    (makes : op.makes = true) (own : op.isWrap = false) :
    Effect l op w (op.perform.outcome w).1 (op.perform.outcome w).2 := by
  cases op with
  | allocate size =>
    exact allocateBy_effect installed rfl (fun _ => .head _) (fun _ => rfl) (fun _ => rfl)
      (fun _ => rfl) (fun _ => List.forall_mem_nil _) rfl
  | allocateFlagged size flags =>
    refine reading_effect rfl (Action.outcome_ofExcept _ w) fun k _ => ?_
    exact allocateBy_effect installed rfl (fun _ => .head _) (fun _ => rfl) (fun _ => rfl)
      (fun _ => rfl) (fun _ => List.forall_mem_nil _) rfl
  | allocateOrdered size stream =>
    obtain ⟨result, reads, known⟩ := handleOf_reads native stream
    refine reading_effect rfl reads fun x hx => ?_
    obtain ⟨a, rfl, live⟩ := known x hx
    refine allocateBy_effect installed rfl (fun _ => .head _) (fun _ => rfl) (fun _ => rfl)
      (fun _ => rfl) ?_ rfl
    intro _
    exact live
  | allocateFromPool id size stream =>
    obtain ⟨result, reads, known⟩ := Ownership.active_reads id w
    refine reading_effect rfl reads fun pool hp => ?_
    obtain ⟨there, active⟩ := known pool hp
    obtain ⟨result', reads', known'⟩ := handleOf_reads native stream
    refine reading_effect rfl reads' fun x hx => ?_
    obtain ⟨a, rfl, live⟩ := known' x hx
    refine allocateBy_effect installed rfl (fun _ => .head _) (fun _ => rfl) (fun _ => rfl)
      (fun _ => rfl) ?_ rfl
    intro _ h mem
    rcases List.mem_append.1 mem with mem | mem
    · exact live_of_address ⟨List.mem_of_getElem? there, active⟩ h mem
    · exact live h mem
  | createStream => exact create_effect installed
  | createPool props => exact createPool_effect installed props
  | defaultPool device =>
    refine reading_effect rfl (Action.outcome_ofExcept _ w) fun n _ => ?_
    exact defaultOf_effect installed rfl (.head _) rfl n
  | ask device question =>
    cases question with
    | defaultPool => exact defaultOf_effect installed rfl (.head _) rfl device
    | _ => cases makes
  | wrap => cases own
  | _ => cases makes

theorem makes_of_entry {c : NativeCall} (uses : op.makes = false)
    (entry : c.entryPoint ∈ op.entries) : c.entryPoint.makes? = none := by
  cases op with
  | ask device question =>
    cases question with
    | defaultPool => cases uses
    | _ => rw [List.mem_singleton.1 entry]; rfl
  | selectDevice =>
    rcases List.mem_cons.1 entry with h | h
    · rw [h]; rfl
    · rw [List.mem_singleton.1 h]; rfl
  | free | readHandle | readAddress | release | enter | leave | finalize => cases entry
  | allocate | allocateFlagged | allocateOrdered | allocateFromPool | createStream | createPool
  | defaultPool | wrap => cases uses
  | _ => rw [List.mem_singleton.1 entry]; rfl

/-- **What an operation does**, whatever the library and however the machine answers. -/
theorem perform_effect (installed : w.library = some l) (native : Native w.resources)
    (own : op.isWrap = false) :
    Effect l op w (op.perform.outcome w).1 (op.perform.outcome w).2 := by
  cases makes : op.makes with
  | true => exact makes_effect installed native makes own
  | false =>
    cases subject : op.subject with
    | some id => exact subject_effect installed native subject
    | none =>
      obtain ⟨way, -⟩ := perform_calls op makes subject w rfl (by rw [installed]; rfl)
      refine .used (way.mono fun m c allowed => ⟨allowed, ?_⟩)
        (fun h => by rw [makes] at h; cases h) fun id hid => by rw [subject] at hid; cases hid
      intro made
      rw [makes_of_entry makes allowed.1] at made
      cases made

end Operation
end GpuHandles
