import GpuHandles.Proofs.Outcome
/-!
What a native call does to a world.

A passage from one world to another is told by four things: the machine and the resources at
its end, the file behind the library, which stays, and the native calls that the trace gained.
Passages compose (`Passage.trans`).

`request_cases` is the one lemma about calls that later proofs use: a request either ends
before it reaches the machine, because the symbol is missing or an argument does not pass, or
the machine gets exactly one call, the one that arrives, and its code decides.
-/

namespace GpuHandles

/-- The native call in an event, with its code. -/
def Event.call? : Event → Option (NativeCall × Int)
  | .call c code => some (c, code)
  | _ => none

/-- The event of a native call with its code. -/
def Event.ofCall (e : NativeCall × Int) : Event := .call e.1 e.2

/-- The native calls among events, with their codes. -/
def calls (es : List Event) : List (NativeCall × Int) := es.filterMap Event.call?

@[simp] theorem calls_nil : calls [] = [] := rfl

@[simp] theorem calls_append (es fs : List Event) : calls (es ++ fs) = calls es ++ calls fs :=
  List.filterMap_append

@[simp] theorem calls_call (c : NativeCall) (code : Int) : calls [.call c code] = [(c, code)] := rfl

@[simp] theorem calls_resolve (e : EntryPoint) : calls [.resolve e] = [] := rfl

@[simp] theorem calls_map_ofCall (cs : List (NativeCall × Int)) :
    calls (cs.map Event.ofCall) = cs := by
  induction cs with
  | nil => rfl
  | cons e cs ih => exact congrArg (e :: ·) ih

/-- A library without the entry points that were found in it so far. -/
def Library.file : Library → Library
  | .direct => .direct
  | .loaded path _ => .loaded path []

/-- Way from `w` to `w'` that ends with machine `m` and resources `rs`, and on which the native
calls `cs` were made. -/
structure Passage (w w' : World) (m : Machine) (rs : List Resource)
    (cs : List (NativeCall × Int)) : Prop where
  machine : w'.machine = m
  resources : w'.resources = rs
  library : w'.library.map Library.file = w.library.map Library.file
  trace : ∃ es, w'.trace = w.trace ++ es ∧ calls es = cs

namespace Passage

variable {w w₁ w₂ : World} {m m₁ m₂ : Machine} {rs rs₁ rs₂ : List Resource}
  {cs cs₁ cs₂ : List (NativeCall × Int)}

theorem refl (w : World) : Passage w w w.machine w.resources [] :=
  ⟨rfl, rfl, rfl, [], by simp, rfl⟩

theorem trans (h₁ : Passage w w₁ m₁ rs₁ cs₁) (h₂ : Passage w₁ w₂ m₂ rs₂ cs₂) :
    Passage w w₂ m₂ rs₂ (cs₁ ++ cs₂) := by
  obtain ⟨es₁, t₁, rfl⟩ := h₁.trace
  obtain ⟨es₂, t₂, rfl⟩ := h₂.trace
  refine ⟨h₂.machine, h₂.resources, h₂.library.trans h₁.library, es₁ ++ es₂, ?_, by simp⟩
  rw [t₂, t₁, List.append_assoc]

/-- A log record more or less makes no difference. -/
theorem write (h : Passage w w₁ m rs cs) (log : List LogRecord) :
    Passage w { w₁ with log := log } m rs cs :=
  ⟨h.machine, h.resources, h.library, h.trace⟩

theorem ofWrite (log : List LogRecord) :
    Passage w { w with log := log } w.machine w.resources [] := (refl w).write log

/-- A way after which the resources are put in place of others. -/
theorem withResources (h : Passage w w₁ m rs cs) (rs' : List Resource) (log : List LogRecord) :
    Passage w { w₁ with resources := rs', log := log } m rs' cs :=
  ⟨h.machine, rfl, h.library, h.trace⟩

/-- A library that was installed is installed at the end. -/
theorem isSome (h : Passage w w₁ m rs cs) (installed : w.library.isSome) : w₁.library.isSome := by
  have := congrArg Option.isSome h.library
  simpa [installed] using this

theorem direct (h : Passage w w₁ m rs cs) (direct : w.library = some .direct) :
    w₁.library = some .direct := by
  have same := h.library
  rw [direct] at same
  cases installed : w₁.library with
  | none =>
    rw [installed] at same
    cases same
  | some l =>
    rw [installed] at same
    cases l with
    | direct => rfl
    | loaded path found => cases same

/-- The native calls of a way are those that its end has in its trace over its start. -/
theorem calls_drop (h : Passage w w₁ m rs cs) : calls (w₁.trace.drop w.trace.length) = cs := by
  obtain ⟨es, t, rfl⟩ := h.trace
  rw [t, List.drop_left]

end Passage

/-! ## One call -/

/-- What the trace keeps of a call: nothing if the machine failed inside. -/
def recorded (c : NativeCall) : Reply → List (NativeCall × Int)
  | .code code _ => [(c, code)]
  | .fault _ => []

theorem mem_recorded {c d : NativeCall} {code : Int} {reply : Reply} :
    (d, code) ∈ recorded c reply ↔ d = c ∧ ∃ out, reply = .code code out := by
  cases reply with
  | fault f => simp [recorded]
  | code k out =>
    simp only [recorded, List.mem_singleton, Prod.mk.injEq, Reply.code.injEq]
    constructor
    · rintro ⟨rfl, rfl⟩
      exact ⟨rfl, out, rfl, rfl⟩
    · rintro ⟨rfl, _, rfl, _⟩
      exact ⟨rfl, rfl⟩

namespace Loading

/-- What a reply is on this side of a library. -/
def answered (l : Library) : Reply → Except Fault (Int × Output)
  | .code code out => .ok (returning l code, out)
  | .fault f => .error f

/-- What a reply is once its code has been checked. -/
def checked (l : Library) : Reply → Except Fault Output
  | .code code out => if returning l code = 0 then .ok out else .error (.ofCode (returning l code))
  | .fault f => .error f

/-- A code that an `int` holds comes back as it is. -/
theorem returning_of_fits (l : Library) {code : Int} (lo : -2 ^ 31 ≤ code) (hi : code < 2 ^ 31) :
    returning l code = code := by
  cases l with
  | direct => rfl
  | loaded => exact Width.signed_eq_self (by omega) (by omega)

/-- An entry point that the machine does not have. -/
def Absent (w : World) (e : EntryPoint) : Prop := w.machine.missing.contains e.name = true

variable {w : World} {l : Library}

theorem library_outcome (installed : w.library = some l) : library.outcome w = (.ok l, w) := by
  unfold library
  rw [Action.outcome_bind_ok (Action.outcome_get w), installed]
  rfl

/-- The machine itself, once it is known to have an entry point. -/
theorem resolve_direct (direct : w.library = some .direct) (e : EntryPoint) :
    (resolve e).outcome w =
      (if w.machine.missing.contains e.name then .error (.undefinedSymbol e.name)
        else .ok .direct, w) := by
  unfold resolve
  rw [Action.outcome_bind_ok (library_outcome direct),
    Action.outcome_bind_ok (Action.outcome_get w)]
  dsimp only
  split <;> rfl

/-- A loaded library is asked for an entry point unless it has found it before. -/
theorem resolve_of_loaded {path : Option String} {found : List EntryPoint}
    (loaded : w.library = some (.loaded path found)) (e : EntryPoint) :
    (resolve e).outcome w =
      if e ∈ found then (.ok (.loaded path found), w)
      else if e.name ∈ w.machine.missing then
        (.error (.undefinedSymbol e.name), { w with trace := w.trace ++ [.resolve e] })
      else (.ok (.loaded path found), { w with
        library := some (.loaded path (found ++ [e])), trace := w.trace ++ [.resolve e] }) := by
  unfold resolve
  rw [Action.outcome_bind_ok (library_outcome loaded),
    Action.outcome_bind_ok (Action.outcome_get w)]
  dsimp only
  by_cases known : e ∈ found
  · rw [if_pos known, if_pos (List.contains_iff_mem.2 known)]
    rfl
  · rw [if_neg known, if_neg (mt List.contains_iff_mem.1 known),
      Action.outcome_bind_ok (Action.outcome_record _ _)]
    by_cases absent : e.name ∈ w.machine.missing
    · rw [if_pos absent, if_pos (List.contains_iff_mem.2 absent)]
      rfl
    · rw [if_neg absent, if_neg (mt List.contains_iff_mem.1 absent)]
      rfl

/-- A loaded library with an entry point that the machine has: it is looked up once. -/
theorem resolve_loaded {path : Option String} {found : List EntryPoint} {e : EntryPoint}
    (loaded : w.library = some (.loaded path found))
    (there : w.machine.missing.contains e.name = false) :
    (resolve e).outcome w = (.ok (.loaded path found),
      if found.contains e then w
      else { w with
        library := some (.loaded path (found ++ [e])), trace := w.trace ++ [.resolve e] }) := by
  have present : e.name ∉ w.machine.missing := fun absent => by
    rw [List.contains_iff_mem.2 absent] at there
    cases there
  rw [resolve_of_loaded loaded, if_neg present]
  by_cases known : e ∈ found
  · rw [if_pos known, if_pos (List.contains_iff_mem.2 known)]
  · rw [if_neg known, if_neg (mt List.contains_iff_mem.1 known)]

/-- The library of a resolved entry point; a missing one is found out, and no call is made. -/
theorem resolve_cases (installed : w.library = some l) (e : EntryPoint) :
    ∃ w', Passage w w' w.machine w.resources [] ∧
      ((resolve e).outcome w = (.ok l, w') ∨
        Absent w e ∧ ∃ f, (resolve e).outcome w = (.error f, w')) := by
  unfold resolve Absent
  rw [Action.outcome_bind_ok (library_outcome installed),
    Action.outcome_bind_ok (Action.outcome_get w)]
  cases l with
  | direct =>
    refine ⟨w, .refl w, ?_⟩
    cases h : w.machine.missing.contains e.name with
    | true => exact .inr ⟨rfl, _, rfl⟩
    | false => exact .inl rfl
  | loaded path found =>
    dsimp only
    cases hf : found.contains e with
    | true => exact ⟨w, .refl w, .inl rfl⟩
    | false =>
      cases h : w.machine.missing.contains e.name with
      | true =>
        exact ⟨{ w with trace := w.trace ++ [.resolve e] },
          ⟨rfl, rfl, rfl, [.resolve e], rfl, rfl⟩, .inr ⟨rfl, _, rfl⟩⟩
      | false =>
        refine ⟨{ w with
          library := some (.loaded path (found ++ [e])), trace := w.trace ++ [.resolve e] },
          ⟨rfl, rfl, ?_, [.resolve e], rfl, rfl⟩, .inl rfl⟩
        rw [installed]
        rfl

/-- The world after a call has reached the machine. -/
theorem invoke_outcome {c c' : NativeCall} (arrived : arriving l c = .ok c') (w : World) :
    (invoke l c).outcome w = (answered l (w.machine.call c').1,
      { w with
        machine := (w.machine.call c').2
        trace := w.trace ++ (recorded c' (w.machine.call c').1).map Event.ofCall }) := by
  unfold invoke
  rw [arrived, Action.outcome_bind_ok (Action.outcome_ofExcept (.ok c') w),
    Action.outcome_bind_ok (Action.outcome_get w)]
  rcases hr : w.machine.call c' with ⟨code | f, machine⟩
  · rfl
  · show (_, { w with machine := machine }) = (_, { w with
      machine := machine, trace := w.trace ++ [] })
    rw [List.append_nil]
    rfl

/-- A call that passes the parameter types reaches the machine, once. -/
theorem invoke_cases (l : Library) (c : NativeCall) (w : World) :
    (∃ f, arriving l c = .error f ∧ (invoke l c).outcome w = (.error f, w)) ∨
      ∃ c' w', arriving l c = .ok c' ∧
        Passage w w' (w.machine.call c').2 w.resources (recorded c' (w.machine.call c').1) ∧
        (invoke l c).outcome w = (answered l (w.machine.call c').1, w') := by
  cases ha : arriving l c with
  | error f =>
    refine .inl ⟨f, rfl, ?_⟩
    unfold invoke
    rw [ha]
    rfl
  | ok c' =>
    refine .inr ⟨c', _, rfl, ?_, invoke_outcome ha w⟩
    exact ⟨rfl, rfl, rfl, _, rfl, calls_map_ofCall _⟩

/-- Success comes back as success. -/
theorem checked_zero (l : Library) (out : Output) : checked l (.code 0 out) = .ok out := by
  cases l <;> rfl

/-- A call succeeds with a code that comes back as zero; code zero always does. -/
theorem checked_cases (l : Library) (reply : Reply) :
    (∃ f, checked l reply = .error f ∧ ∀ out, reply ≠ .code 0 out) ∨
      ∃ code out, reply = .code code out ∧ returning l code = 0 ∧ checked l reply = .ok out := by
  cases reply with
  | fault f => exact .inl ⟨f, rfl, fun _ h => by cases h⟩
  | code code out =>
    by_cases h : returning l code = 0
    · exact .inr ⟨code, out, rfl, h, if_pos h⟩
    · refine .inl ⟨_, if_neg h, fun out' same => h ?_⟩
      cases same
      cases l <;> rfl

theorem check_outcome (code : Int) (w : World) :
    (check code).outcome w = (if code = 0 then .ok () else .error (.ofCode code), w) := by
  unfold check
  split <;> rfl

/-- An entry point that cannot be resolved is named in the fault. -/
theorem resolve_fault (installed : w.library = some l) {e : EntryPoint} {f : Fault} {w' : World}
    (missed : (resolve e).outcome w = (.error f, w')) : f = .undefinedSymbol e.name := by
  cases l with
  | direct =>
    rw [resolve_direct installed] at missed
    split at missed
    · cases missed
      rfl
    · cases missed
  | loaded path found =>
    rw [resolve_of_loaded installed] at missed
    split at missed
    · cases missed
    · split at missed
      · cases missed
        rfl
      · cases missed

/-- A request whose entry point is there and whose arguments pass. -/
theorem request_resolved {c d : NativeCall} {w₁ : World}
    (found : (resolve c.entryPoint).outcome w = (.ok l, w₁))
    (way : Passage w w₁ w.machine w.resources []) (arrived : arriving l c = .ok d) :
    ∃ w', Passage w w' (w.machine.call d).2 w.resources (recorded d (w.machine.call d).1) ∧
      (request c).outcome w = (checked l (w.machine.call d).1, w') := by
  obtain ⟨f, refused, _⟩ | ⟨d', w₂, came, way', invoked⟩ := invoke_cases l c w₁
  · rw [arrived] at refused
    cases refused
  · rw [arrived] at came
    cases came
    rw [way.machine] at way' invoked
    refine ⟨w₂, by simpa [way.resources] using way.trans way', ?_⟩
    unfold request
    rw [Action.outcome_bind_ok found]
    cases reply : (w.machine.call d).1 with
    | fault f => exact Action.outcome_bind_error (by rw [invoked, reply]; rfl)
    | code code out =>
      rw [reply] at invoked
      rw [Action.outcome_bind_ok invoked]
      have checking := check_outcome (returning l code) w₂
      by_cases success : returning l code = 0
      · rw [if_pos success] at checking
        rw [Action.outcome_bind_ok checking]
        simp [checked, success]
      · rw [if_neg success] at checking
        rw [Action.outcome_bind_error checking]
        simp [checked, success]

/-- A request with arguments that pass: its entry point is missing, or the machine gets it. -/
theorem request_arriving (installed : w.library = some l) {c d : NativeCall}
    (arrived : arriving l c = .ok d) :
    (Absent w c.entryPoint ∧ ∃ w', Passage w w' w.machine w.resources [] ∧
      (request c).outcome w = (.error (.undefinedSymbol c.entryPoint.name), w')) ∨
      ∃ w', Passage w w' (w.machine.call d).2 w.resources (recorded d (w.machine.call d).1) ∧
        (request c).outcome w = (checked l (w.machine.call d).1, w') := by
  obtain ⟨w₁, way, found | ⟨absent, f, missed⟩⟩ := resolve_cases installed c.entryPoint
  · exact .inr (request_resolved found way arrived)
  · obtain rfl := resolve_fault installed missed
    exact .inl ⟨absent, w₁, way, Action.outcome_bind_error missed⟩

/-- A request ends before it reaches the machine, or the machine gets the call that arrives. -/
theorem request_cases (installed : w.library = some l) (c : NativeCall) :
    (∃ f w', Passage w w' w.machine w.resources [] ∧
        (Absent w c.entryPoint ∨ ∃ g, arriving l c = .error g) ∧
        (request c).outcome w = (.error f, w')) ∨
      ∃ c' w', arriving l c = .ok c' ∧
        Passage w w' (w.machine.call c').2 w.resources (recorded c' (w.machine.call c').1) ∧
        (request c).outcome w = (checked l (w.machine.call c').1, w') := by
  obtain ⟨w₁, way, found | ⟨absent, f, missed⟩⟩ := resolve_cases installed c.entryPoint
  · obtain ⟨f, refused, invoked⟩ | ⟨c', _, arrived, _⟩ := invoke_cases l c w₁
    · refine .inl ⟨f, w₁, way, .inr ⟨f, refused⟩, ?_⟩
      unfold request
      rw [Action.outcome_bind_ok found]
      exact Action.outcome_bind_error invoked
    · obtain ⟨w', way', ended⟩ := request_resolved found way arrived
      exact .inr ⟨c', w', arrived, way', ended⟩
  · exact .inl ⟨f, w₁, way, .inl absent, Action.outcome_bind_error missed⟩

end Loading
end GpuHandles
