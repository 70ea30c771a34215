import GpuHandles.Proofs.Bare
import GpuHandles.Proofs.Effect
import Mathlib.Data.List.TakeWhile
/-!
Actions over a loaded library and over the machine itself.

Two worlds are twins if the one calls its machine as it is, the other through a loaded library,
and nothing else tells them apart but what passing the library does: numbers lose their names,
and entry points are looked up first (`World.Twin`).  `Action.Twinned a b` says that `a` in the
one and `b` in the other end alike and leave twins, as long as every code that the machine gives
`a` is one that an `int` holds.  The lemmas about it follow the ways in which actions are put
together.  The machine comes in at one place, `Twinned.invoke`, for calls whose arguments fit
the declared parameter types (`NativeCall.Fits`), which are the ones that pass them with nothing
lost but names (`narrow_of_fits`).
-/

namespace GpuHandles

/-! ## What fits a parameter -/

namespace Width

/-- A number that a C `int` holds. -/
def InInt (n : Int) : Prop := -2 ^ 31 ≤ n ∧ n < 2 ^ 31

/-- A number that a C `unsigned` holds. -/
def InUnsigned (n : Int) : Prop := 0 ≤ n ∧ n < 2 ^ 32

/-- A number that a C `size_t` holds. -/
def InSize (n : Int) : Prop := 0 ≤ n ∧ n < 2 ^ 64

instance (n : Int) : Decidable (InInt n) := inferInstanceAs (Decidable (_ ∧ _))

instance (n : Int) : Decidable (InUnsigned n) := inferInstanceAs (Decidable (_ ∧ _))

instance (n : Int) : Decidable (InSize n) := inferInstanceAs (Decidable (_ ∧ _))

theorem int32_of_in {n : Int} (h : InInt n) : int32 n = n := by
  obtain ⟨lo, hi⟩ := h
  exact signed_eq_self (by omega) (by omega)

theorem int32_in (n : Int) : InInt (int32 n) := by
  have low : -(2 ^ 32 / 2) ≤ n.bmod (2 ^ 32) := Int.le_bmod (by decide)
  have high : n.bmod (2 ^ 32) < (2 ^ 32 + 1) / 2 := Int.bmod_lt (by decide)
  unfold InInt int32 signed
  omega

/-- A C `int` leaves alone exactly the numbers that it holds. -/
theorem int32_eq_self_iff {n : Int} : int32 n = n ↔ InInt n :=
  ⟨fun same => same ▸ int32_in n, int32_of_in⟩

theorem uint32_of_in {n : Int} (h : InUnsigned n) : (uint32 n : Int) = n := by
  obtain ⟨lo, hi⟩ := h
  obtain ⟨k, rfl⟩ := Int.eq_ofNat_of_zero_le lo
  rw [uint32, unsigned_eq_self (by omega)]

theorem uint64_of_in {n : Int} (h : InSize n) : (uint64 n : Int) = n := by
  obtain ⟨lo, hi⟩ := h
  obtain ⟨k, rfl⟩ := Int.eq_ofNat_of_zero_le lo
  rw [uint64, unsigned_eq_self (by omega)]

theorem uint64_in (n : Int) : InSize (uint64 n) := by
  have high := unsigned_lt 64 n
  unfold InSize uint64
  omega

/-- A C `size_t` leaves alone exactly the numbers that it holds. -/
theorem uint64_eq_self_iff {n : Int} : (uint64 n : Int) = n ↔ InSize n :=
  ⟨fun same => same ▸ uint64_in n, uint64_of_in⟩

end Width

open Width (InInt InUnsigned InSize)

/-- A whole number of a range, which may be a member of a numeric enumeration. -/
def Value.Within (range : Int → Prop) (v : Value) : Prop := ∃ n, v.bare = .int n ∧ range n

namespace Value

variable {v : Value} {n : Int}

theorem bare_bare (v : Value) : v.bare.bare = v.bare := by
  obtain same | ⟨e, s, n, -, -, bare⟩ := v.bare_cases
  · rw [same, same]
  · rw [bare]
    rfl

theorem index?_of_bare (whole : v.bare = .int n) : v.index? = some n := by
  rw [← index?_bare, whole]
  rfl

end Value

namespace NativeCall

/-- A call whose arguments fit the types of their parameters. -/
def Fits : NativeCall → Prop
  | start flags => InUnsigned flags
  | setDevice device | totalMemory device | computeCapability device | deviceUuid device
  | defaultPool device => device.Within InInt
  | deviceName length device | busId length device => InInt length ∧ device.Within InInt
  | deviceByBusId text => 0 ∉ text
  | deviceAttribute code device => InInt code ∧ device.Within InInt
  | peerAttribute code source target =>
    InInt code ∧ source.Within InInt ∧ target.Within InInt
  | allocate n => InSize n
  | allocateFlagged n flags => InSize n ∧ InUnsigned flags
  | allocateOrdered n stream | allocateFromPool n _ stream =>
    InSize n ∧ ∃ a, stream = .address a
  | copy _ _ n kind => n.Within InSize ∧ InInt kind
  | fill _ value n => value.Within InInt ∧ n.Within InSize
  | poolTrim _ keep => keep.Within InSize
  | _ => True

theorem bare_bare (c : NativeCall) : c.bare.bare = c.bare := by
  cases c <;> simp only [bare, Value.bare_bare]

theorem narrowWhole_of_within {range : Int → Prop} {cut : Int → Int} {v : Value}
    (position : Nat) (kept : ∀ n, range n → cut n = n) (h : v.Within range) :
    narrowWhole position cut v = .ok v.bare := by
  obtain ⟨n, whole, inside⟩ := h
  unfold narrowWhole
  rw [Value.index?_of_bare whole, whole, ← kept n inside]
  simp only [kept n inside]

theorem narrowWhole_int {v : Value} (position : Nat) (h : v.Within InInt) :
    narrowWhole position Width.int32 v = .ok v.bare :=
  narrowWhole_of_within position (fun _ => Width.int32_of_in) h

theorem narrowWhole_size {v : Value} (position : Nat) (h : v.Within InSize) :
    narrowWhole position size v = .ok v.bare :=
  narrowWhole_of_within position (fun _ => Width.uint64_of_in) h

theorem size_of_in {n : Int} (h : InSize n) : size n = n := Width.uint64_of_in h

/-- **The declared parameter types** take nothing from a call that fits them but names. -/
theorem narrow_of_fits {c : NativeCall} (h : c.Fits) : c.narrow = .ok c.bare := by
  cases c with
  | start flags => exact congrArg (Except.ok <| start ·) (Width.uint32_of_in h)
  | setDevice device =>
    dsimp only [narrow, bare]
    rw [narrowWhole_int 1 h]
    rfl
  | totalMemory device | deviceUuid device | defaultPool device =>
    dsimp only [narrow, bare]
    rw [narrowWhole_int 2 h]
    rfl
  | computeCapability device =>
    dsimp only [narrow, bare]
    rw [narrowWhole_int 3 h]
    rfl
  | deviceName length device | busId length device | deviceAttribute code device =>
    dsimp only [narrow, bare]
    rw [narrowWhole_int 3 h.2, Width.int32_of_in h.1]
    rfl
  | deviceByBusId text =>
    have whole : text.takeWhile (· != 0) = text := by
      rw [List.takeWhile_eq_self_iff]
      intro b hb
      exact bne_iff_ne.2 fun zero => h (zero ▸ hb)
    exact congrArg (Except.ok <| deviceByBusId ·) whole
  | peerAttribute code source target =>
    dsimp only [narrow, bare]
    rw [narrowWhole_int 3 h.2.1, narrowWhole_int 4 h.2.2, Width.int32_of_in h.1]
    rfl
  | allocate n => exact congrArg (Except.ok <| allocate ·) (size_of_in h)
  | allocateFlagged n flags =>
    dsimp only [narrow, bare]
    rw [size_of_in h.1, Width.uint32_of_in h.2]
  | allocateOrdered n stream | allocateFromPool n pool stream =>
    obtain ⟨inside, a, rfl⟩ := h
    dsimp only [narrow, bare]
    rw [size_of_in inside]
    rfl
  | copy target source n kind =>
    dsimp only [narrow, bare]
    rw [narrowWhole_size 3 h.1, Width.int32_of_in h.2]
    rfl
  | fill target value n =>
    dsimp only [narrow, bare]
    rw [narrowWhole_int 2 h.1, narrowWhole_size 3 h.2]
    rfl
  | poolTrim pool keep =>
    dsimp only [narrow, bare]
    rw [narrowWhole_size 2 h]
    rfl
  | _ => rfl

end NativeCall

/-- A size that does not fit loses more than a name. -/
example : (NativeCall.allocate (2 ^ 64 + 16)).narrow = .ok (.allocate 16) := rfl

/-! ## Twins -/

/-- An event whose numbers have lost their names. -/
def Event.bare : Event → Event
  | .call c code => .call c.bare code
  | e => e

/-- Is an event the look for an entry point? -/
def Event.isResolve : Event → Bool
  | .resolve _ => true
  | _ => false

/-- The events that are no look for an entry point. -/
def unresolved (es : List Event) : List Event := es.filter fun e => !e.isResolve

/-- Every code that the machine gave is one that an `int` holds. -/
def CodesFit (es : List Event) : Prop := ∀ e ∈ calls es, InInt e.2

/-- A payload as the interface makes it, and as it may be wrapped: its handle is an address, and
its size is one that a `size_t` holds. -/
def Payload.Native (p : Payload) : Prop := (∃ a, p.value = .address a) ∧ p.size.Within InSize

namespace World

/-- The machine itself is the library, it has every entry point, and resources stand for
something native. -/
structure Sound (w : World) : Prop where
  direct : w.library = some .direct
  complete : w.machine.missing = []
  native : ∀ r ∈ w.resources, r.payload.Native

/-- What `v` is to `w`, where calls go through a loaded library in `v` and to the machine itself
in `w`. -/
structure Twin (w v : World) : Prop where
  loaded : ∃ path found, v.library = some (.loaded path found)
  /-- the machines are the same once numbers have lost their names -/
  machine : v.machine.bare = w.machine.bare
  resources : v.resources = w.resources
  log : v.log = w.log
  /-- the loaded library has looked for entry points besides -/
  trace : unresolved v.trace = w.trace.map Event.bare

end World

theorem CodesFit.of_append {es fs : List Event} (h : CodesFit (es ++ fs)) : CodesFit es := by
  intro e he
  refine h e ?_
  rw [calls_append]
  exact List.mem_append_left _ he

theorem unresolved_append (es fs : List Event) :
    unresolved (es ++ fs) = unresolved es ++ unresolved fs := List.filter_append ..

theorem calls_unresolved (es : List Event) : calls (unresolved es) = calls es := by
  induction es with
  | nil => rfl
  | cons e es ih =>
    cases e with
    | call c code => exact congrArg ((c, code) :: ·) ih
    | _ => exact ih

theorem calls_map_bare (es : List Event) :
    calls (es.map Event.bare) = (calls es).map fun e => (e.1.bare, e.2) := by
  induction es with
  | nil => rfl
  | cons e es ih =>
    cases e with
    | call c code => exact congrArg ((c.bare, code) :: ·) ih
    | _ => exact ih

/-! ## Actions in twins -/

/-- Over the machine itself `a` keeps what `Sound` says and adds to the trace; and if all codes
fit, `b` ends in a twin as `a` does, and leaves a twin of the world that `a` leaves. -/
def Action.Twinned {α : Type} (a b : Action α) : Prop :=
  ∀ w : World, w.Sound → (a.outcome w).2.Sound ∧ (∃ es, (a.outcome w).2.trace = w.trace ++ es) ∧
    ∀ v, w.Twin v → CodesFit (a.outcome w).2.trace →
      (a.outcome w).2.Twin (b.outcome v).2 ∧ (b.outcome v).1 = (a.outcome w).1

namespace Action.Twinned

variable {α β : Type} {a b : Action α} {f g : α → Action β}

theorem bind (first : Twinned a b) (rest : ∀ x, Twinned (f x) (g x)) :
    Twinned (a >>= f) (b >>= g) := by
  intro w sound
  obtain ⟨sound₁, ⟨es, grown⟩, twin₁⟩ := first w sound
  rw [outcome_bind]
  rcases run : a.outcome w with ⟨result, w₁⟩
  rw [run] at sound₁ grown twin₁
  cases result with
  | error e =>
    refine ⟨sound₁, ⟨es, grown⟩, ?_⟩
    intro v twin codes
    obtain ⟨twin', same⟩ := twin₁ v twin codes
    rcases run' : b.outcome v with ⟨result', v₁⟩
    rw [run'] at twin' same
    cases same
    rw [outcome_bind_error run']
    exact ⟨twin', rfl⟩
  | ok x =>
    obtain ⟨sound₂, ⟨es', grown'⟩, twin₂⟩ := rest x w₁ sound₁
    refine ⟨sound₂, ⟨es ++ es', ?_⟩, ?_⟩
    · rw [grown', grown, List.append_assoc]
    · intro v twin codes
      -- the codes up to here are among those of the whole, as the trace only grows
      have before : CodesFit w₁.trace := by
        rw [grown'] at codes
        exact codes.of_append
      obtain ⟨twin', same⟩ := twin₁ v twin before
      rcases run' : b.outcome v with ⟨result', v₁⟩
      rw [run'] at twin' same
      cases same
      rw [outcome_bind_ok run']
      exact twin₂ v₁ twin' codes

/-- An action that records no event, and does the same to resources and log in twins. -/
theorem quiet {a : Action α} (still : ∀ w, (a.outcome w).2.trace = w.trace)
    (sound : ∀ w, w.Sound → (a.outcome w).2.Sound)
    (same : ∀ w v, w.Twin v →
      (a.outcome w).2.Twin (a.outcome v).2 ∧ (a.outcome v).1 = (a.outcome w).1) :
    Twinned a a := by
  intro w hw
  refine ⟨sound w hw, ⟨[], ?_⟩, fun v twin _ => same w v twin⟩
  rw [still w, List.append_nil]

/-- A computation that touches no world. -/
theorem compute (r : Except Fault α) : Twinned (ofExcept r) (ofExcept r) := by
  refine quiet (fun w => ?_) (fun w sound => ?_) fun w v twin => ?_
  · rw [outcome_ofExcept]
  · rw [outcome_ofExcept]
    exact sound
  · rw [outcome_ofExcept, outcome_ofExcept]
    exact ⟨twin, rfl⟩

theorem pure (x : α) : Twinned (Pure.pure x) (Pure.pure x : Action α) := compute (.ok x)

theorem throw (f : Fault) : Twinned (MonadExcept.throw f) (MonadExcept.throw f : Action α) :=
  compute (.error f)

/-- A computation comes first, and the rest may rest on its result. -/
theorem computing {r : Except Fault α} (rest : ∀ x, r = .ok x → Twinned (f x) (g x)) :
    Twinned (ofExcept r >>= f) (ofExcept r >>= g) := by
  cases r with
  | error e => exact throw e
  | ok x => exact rest x rfl

/-- A look at the world; what is known of twins is that their resources are the same. -/
theorem get {f g : World → Action β}
    (rest : ∀ w v, w.Sound → v.resources = w.resources → Twinned (f w) (g v)) :
    Twinned (MonadState.get >>= f) (MonadState.get >>= g) := by
  intro w sound
  obtain ⟨sound', grown, -⟩ := rest w w sound rfl w sound
  rw [outcome_bind_ok (outcome_get w)]
  refine ⟨sound', grown, ?_⟩
  intro v twin codes
  rw [outcome_bind_ok (outcome_get v)]
  exact (rest w v sound twin.resources w sound).2.2 v twin codes

/-- A resource that may be used. -/
theorem active {f g : Resource → Action β} (id : Nat)
    (rest : ∀ r, r.payload.Native → Twinned (f r) (g r)) :
    Twinned (Ownership.active id >>= f) (Ownership.active id >>= g) := by
  unfold Ownership.active
  rw [bind_assoc, bind_assoc]
  refine get fun w v sound same => ?_
  rw [World.resource_congr same]
  dsimp only
  split
  · exact throw _
  next going =>
    refine rest _ (sound.native _ ?_)
    exact List.mem_of_getElem? (World.getElem?_of_active (Bool.eq_false_iff.2 going))

theorem map (f : α → β) (h : Twinned a b) : Twinned (f <$> a) (f <$> b) := by
  rw [map_eq_pure_bind, map_eq_pure_bind]
  exact h.bind fun x => .pure (f x)

theorem discard (h : Twinned a b) : Twinned (Functor.discard a) (Functor.discard b) :=
  h.map fun _ => PUnit.unit

theorem silent {a b : Action Unit} (h : Twinned a b) :
    Twinned (Operation.silent a) (Operation.silent b) := h.bind fun _ => .pure _

/-- An attempt ends with the result of what it attempts as its value. -/
theorem attempt (h : Twinned a b) : Twinned (Action.attempt a) (Action.attempt b) := by
  intro w sound
  obtain ⟨sound', grown, twins⟩ := h w sound
  refine ⟨sound', grown, ?_⟩
  intro v twin codes
  obtain ⟨twin', same⟩ := twins v twin codes
  exact ⟨twin', congrArg Except.ok same⟩

/-- A line of the log. -/
theorem write (level : Level) (logger : Logger) (text : String) :
    Twinned (Action.write level logger text) (Action.write level logger text) := by
  refine quiet (fun _ => rfl) (fun w sound => ?_) fun w v twin => ?_
  · exact ⟨sound.direct, sound.complete, sound.native⟩
  · refine ⟨⟨twin.loaded, twin.machine, twin.resources, ?_, twin.trace⟩, rfl⟩
    exact congrArg (· ++ _) twin.log

/-- A resource that is made. -/
theorem constructed {r : Resource} (native : r.payload.Native) :
    Twinned (Ownership.constructed r) (Ownership.constructed r) := by
  refine quiet (fun _ => rfl) (fun w sound => ?_) fun w v twin => ?_
  · refine ⟨sound.direct, sound.complete, ?_⟩
    intro s hs
    rcases List.mem_append.1 hs with old | new
    · exact sound.native s old
    · rw [List.mem_singleton.1 new]
      exact native
  · refine ⟨⟨twin.loaded, twin.machine, ?_, twin.log, twin.trace⟩, ?_⟩
    · exact congrArg (· ++ [r]) twin.resources
    · exact congrArg (fun rs => Except.ok (Value.handle rs.length r.payload.cls)) twin.resources

/-- A resource that is marked as released. -/
theorem retire (id : Nat) {r : Resource} (native : r.payload.Native) :
    Twinned (modify fun w => w.setResource id r.retired : Action PUnit)
      (modify fun w => w.setResource id r.retired) := by
  refine quiet (fun _ => rfl) (fun w sound => ?_) fun w v twin => ?_
  · refine ⟨sound.direct, sound.complete, ?_⟩
    intro s hs
    rcases List.mem_or_eq_of_mem_set hs with old | new
    · exact sound.native s old
    · rw [new]
      exact native
  · refine ⟨⟨twin.loaded, twin.machine, ?_, twin.log, twin.trace⟩, rfl⟩
    exact congrArg (·.set id r.retired) twin.resources

/-! ### Calls -/

/-- The look for an entry point: a loaded library may make it, and remembers what it found. -/
theorem resolve {f g : Library → Action β} (e : EntryPoint)
    (rest : ∀ path found, Twinned (f .direct) (g (.loaded path found))) :
    Twinned (Loading.resolve e >>= f) (Loading.resolve e >>= g) := by
  intro w sound
  have looked := Loading.resolve_direct sound.direct e
  rw [sound.complete, if_neg (by simp)] at looked
  rw [outcome_bind_ok looked]
  obtain ⟨sound', grown, -⟩ := rest none [] w sound
  refine ⟨sound', grown, ?_⟩
  intro v twin codes
  obtain ⟨path, found, loaded⟩ := twin.loaded
  have there : v.machine.missing.contains e.name = false := by
    have complete : v.machine.missing = [] :=
      (congrArg Machine.missing twin.machine).trans sound.complete
    rw [complete]
    rfl
  rw [outcome_bind_ok (Loading.resolve_loaded loaded there)]
  refine (rest path found w sound).2.2 _ ?_ codes
  split
  · exact twin
  · refine ⟨⟨path, _, rfl⟩, twin.machine, twin.resources, twin.log, ?_⟩
    rw [unresolved_append, twin.trace]
    exact List.append_nil _

/-- The events of a call, once with names and once without. -/
theorem map_bare_recorded (c : NativeCall) (reply : Reply) :
    ((recorded c reply).map Event.ofCall).map Event.bare =
      unresolved ((recorded c.bare reply).map Event.ofCall) := by
  cases reply <;> rfl

/-- **A call that fits** gets through a loaded library the answer that it gets from the machine
itself. -/
theorem invoke {c : NativeCall} (fits : c.Fits) (path : Option String) (found : List EntryPoint) :
    Twinned (Loading.invoke .direct c) (Loading.invoke (.loaded path found) c) := by
  intro w sound
  have itself := Loading.invoke_outcome (l := .direct) (c := c) rfl w
  rw [itself]
  refine ⟨⟨sound.direct, ?_, sound.native⟩, ⟨_, rfl⟩, ?_⟩
  · exact (Machine.call_change w.machine c).missing.trans sound.complete
  · intro v twin codes
    have through := Loading.invoke_outcome (l := .loaded path found)
      (NativeCall.narrow_of_fits fits) v
    rw [through]
    -- the machines are the same without names, and so are the calls that reach them
    have named := Machine.call_bare v.machine c.bare
    rw [NativeCall.bare_bare, twin.machine, Machine.call_bare] at named
    obtain ⟨reply, machine⟩ := Prod.mk.inj named
    rw [← reply]
    refine ⟨⟨twin.loaded, machine.symm, twin.resources, twin.log, ?_⟩, ?_⟩
    · show unresolved (v.trace ++ _) = (w.trace ++ _).map Event.bare
      rw [unresolved_append, List.map_append, twin.trace, map_bare_recorded]
    · cases answer : (w.machine.call c).1 with
      | fault e => rfl
      | code code out =>
        have inside : InInt code := by
          refine codes (c, code) ?_
          show _ ∈ calls (w.trace ++ _)
          rw [calls_append, calls_map_ofCall, answer]
          exact List.mem_append_right _ (.head _)
        show Except.ok (Loading.returning _ code, out) = .ok (Loading.returning .direct code, out)
        rw [Loading.returning_of_fits _ inside.1 inside.2]
        rfl

theorem check (code : Int) : Twinned (Loading.check code) (Loading.check code) := by
  unfold Loading.check
  split
  · exact .pure ()
  · exact .throw _

theorem request {c : NativeCall} (fits : c.Fits) :
    Twinned (Loading.request c) (Loading.request c) :=
  .resolve _ fun path found => (invoke fits path found).bind fun (code, _) =>
    (check code).bind fun _ => .pure _

/-- A call that creates something, the resource for it, and the line of the log that says so. -/
theorem making {c : NativeCall} {r : Output → Resource} {logger : Logger} {text : Output → String}
    (fits : c.Fits) (native : ∀ out, (r out).payload.Native) :
    Twinned
      (do
        let out ← Loading.request c
        let v ← Ownership.constructed (r out)
        Action.write .debug logger (text out)
        return v)
      (do
        let out ← Loading.request c
        let v ← Ownership.constructed (r out)
        Action.write .debug logger (text out)
        return v) := by
  refine bind (request fits) fun out => ?_
  refine bind (constructed (native out)) fun v => ?_
  exact bind (write _ _ _) fun _ => .pure v

end Action.Twinned
end GpuHandles
