import GpuHandles.Proofs.FailedCall
/-!
How a release ends, whatever the library is.

A release of an active resource marks it first, and then ends in one of five ways (`ReleaseEnd`):
it cannot be told whether the resource is owned, it is not owned, its class has no native
release, the entry point cannot be had, or the native call was made and its code decides.  The
library may have to be found and loaded on the way; that writes no error to the log, calls
nothing, and a fault that it ends in is no status (`Loading.resolve_searches`).
-/

namespace GpuHandles

/-! ## What a way adds to the histories -/

/-- The errors among log records. -/
def errors (ls : List LogRecord) : List LogRecord := ls.filter (·.level = .error)

@[simp] theorem errors_append (ls ms : List LogRecord) :
    errors (ls ++ ms) = errors ls ++ errors ms := List.filter_append ..

/-- The native calls among events that release something, with their codes. -/
def releaseCalls (es : List Event) : List (NativeCall × Int) :=
  (calls es).filter (·.1.entryPoint.releases)

@[simp] theorem releaseCalls_append (es fs : List Event) :
    releaseCalls (es ++ fs) = releaseCalls es ++ releaseCalls fs := by
  simp [releaseCalls]

/-- On the way from `w` to `w'` the trace gained `es` and the log `ls`. -/
structure World.Gains (w w' : World) (es : List Event) (ls : List LogRecord) : Prop where
  trace : w'.trace = w.trace ++ es
  log : w'.log = w.log ++ ls

namespace World.Gains

variable {w w₁ w₂ : World} {es es₁ es₂ : List Event} {ls ls₁ ls₂ : List LogRecord}

theorem refl (w : World) : w.Gains w [] [] := ⟨(List.append_nil _).symm, (List.append_nil _).symm⟩

theorem trans (h₁ : w.Gains w₁ es₁ ls₁) (h₂ : w₁.Gains w₂ es₂ ls₂) :
    w.Gains w₂ (es₁ ++ es₂) (ls₁ ++ ls₂) where
  trace := by rw [h₂.trace, h₁.trace, List.append_assoc]
  log := by rw [h₂.log, h₁.log, List.append_assoc]

end World.Gains

/-! ## The search for the library -/

/-- A result that is not the fault of a status. -/
def Unstatused {α : Type} (r : Except Fault α) : Prop := ∀ f, r = .error f → f.isStatus = false

namespace Unstatused

variable {α β : Type}

theorem ok (a : α) : Unstatused (.ok a) := fun _ h => by cases h

theorem error {f : Fault} (h : f.isStatus = false) : Unstatused (.error f : Except Fault α) :=
  fun _ same => by cases same; exact h

theorem bind {r : Except Fault α} {f : α → Except Fault β} (first : Unstatused r)
    (rest : ∀ a, r = .ok a → Unstatused (f a)) : Unstatused (r >>= f) := by
  cases r with
  | ok a => exact rest a rfl
  | error g => exact error (first g rfl)

end Unstatused

/-- Way of a search: the machine and the resources stay, nothing is called, and no error is
written. -/
structure World.Searched (w w' : World) : Prop where
  machine : w'.machine = w.machine
  resources : w'.resources = w.resources
  gains : ∃ es ls, w.Gains w' es ls ∧ calls es = [] ∧ errors ls = []

namespace World.Searched

variable {w w₁ w₂ : World}

theorem refl (w : World) : w.Searched w := ⟨rfl, rfl, [], [], .refl w, rfl, rfl⟩

theorem trans (h₁ : w.Searched w₁) (h₂ : w₁.Searched w₂) : w.Searched w₂ := by
  obtain ⟨es, ls, way, uncalled, fine⟩ := h₁.gains
  obtain ⟨es', ls', way', uncalled', fine'⟩ := h₂.gains
  exact ⟨h₂.machine.trans h₁.machine, h₂.resources.trans h₁.resources, _, _, way.trans way',
    by rw [calls_append, uncalled, uncalled']; rfl, by rw [errors_append, fine, fine']; rfl⟩

/-- An event that is no call. -/
theorem record (w : World) {e : Event} (uncalled : e.call? = none) :
    w.Searched { w with trace := w.trace ++ [e] } :=
  ⟨rfl, rfl, [e], [], ⟨rfl, (List.append_nil _).symm⟩, by simp [calls, uncalled], rfl⟩

/-- Another library. -/
theorem install (w : World) (l : Option Library) : w.Searched { w with library := l } :=
  ⟨rfl, rfl, [], [], ⟨(List.append_nil _).symm, (List.append_nil _).symm⟩, rfl, rfl⟩

/-- A line of the log that is no error. -/
theorem write (w : World) (logger : Logger) (text : String) :
    w.Searched { w with log := w.log ++ [⟨.debug, logger, text⟩] } :=
  ⟨rfl, rfl, [], _, ⟨(List.append_nil _).symm, rfl⟩, rfl, rfl⟩

end World.Searched

/-- The action searches, and it does not end in a status. -/
def Action.Searches {α : Type} (a : Action α) : Prop :=
  ∀ w, w.Searched (a.outcome w).2 ∧ Unstatused (a.outcome w).1

namespace Action.Searches

variable {α β : Type} {a : Action α}

theorem pure (x : α) : Searches (Pure.pure x : Action α) := fun w => ⟨.refl w, .ok x⟩

theorem throw {f : Fault} (h : f.isStatus = false) :
    Searches (MonadExcept.throw f : Action α) := fun w => ⟨.refl w, .error h⟩

theorem compute {r : Except Fault α} (h : Unstatused r) : Searches (Action.ofExcept r) := by
  intro w
  rw [outcome_ofExcept]
  exact ⟨.refl w, h⟩

theorem get : Searches (MonadState.get : Action World) := fun w => ⟨.refl w, .ok w⟩

theorem record {e : Event} (uncalled : e.call? = none) : Searches (Action.record e) :=
  fun w => ⟨.record w uncalled, .ok ()⟩

theorem write (logger : Logger) (text : String) : Searches (Action.write .debug logger text) :=
  fun w => ⟨.write w logger text, .ok ()⟩

theorem install (l : Option Library) : Searches (Loading.install l) :=
  fun w => ⟨.install w l, .ok ()⟩

theorem bind {f : α → Action β} (first : Searches a) (rest : ∀ x, Searches (f x)) :
    Searches (a >>= f) := by
  intro w
  obtain ⟨way, unstatused⟩ := first w
  rw [outcome_bind]
  rcases run : a.outcome w with ⟨result, w₁⟩
  rw [run] at way unstatused
  cases result with
  | error g => exact ⟨way, .error (unstatused g rfl)⟩
  | ok x =>
    obtain ⟨way', unstatused'⟩ := rest x w₁
    exact ⟨way.trans way', unstatused'⟩

end Action.Searches

open GpuHandles.Action (Searches)

namespace Discovery

theorem probe_searches (command : String) (arguments : List String) :
    Searches (probe command arguments) := by
  refine (Searches.record rfl).bind fun _ => Searches.get.bind fun w => .compute ?_
  unfold lists
  split
  · exact .ok _
  · exact .ok _
  · exact .ok _
  · exact .ok _
  · exact .error rfl

theorem defaultPlatform_searches : Searches defaultPlatform := by
  refine (probe_searches _ _).bind fun amd => ?_
  split
  · exact .pure _
  · refine (probe_searches _ _).bind fun nvidia => ?_
    split <;> exact .pure _

theorem platformOf_searches (s : String) : Searches (platformOf s) := by
  unfold platformOf
  dsimp only
  split
  · exact defaultPlatform_searches
  · split
    · exact .pure _
    · exact .throw rfl

theorem candidates_searches : Searches (candidates .null) := by
  refine Searches.get.bind fun w => (Searches.compute (.ok _)).bind fun asked => ?_
  dsimp only
  split
  · exact (Searches.pure asked).bind fun _ => .pure _
  · exact (platformOf_searches asked).bind fun _ => .pure _

theorem systemSearch_searches : Searches systemSearch :=
  (Searches.record rfl).bind fun _ => Searches.get.bind fun _ => .pure _

theorem find_searches : Searches (find .null) := by
  refine Searches.get.bind fun w => ?_
  dsimp only
  split
  · split
    · exact .pure _
    · exact .throw rfl
  · refine candidates_searches.bind fun tried => ?_
    split
    · exact .pure _
    · split
      · exact .throw rfl
      · refine systemSearch_searches.bind fun found => ?_
        split
        · exact .pure _
        · exact .throw rfl

end Discovery

namespace Loading

theorem openFile_searches (path : String) : Searches (openFile path) := by
  refine (Searches.record rfl).bind fun _ => Searches.get.bind fun w => ?_
  split
  · exact .throw rfl
  · exact .pure _

theorem library_searches : Searches library := by
  refine Searches.get.bind fun w => ?_
  split
  · exact .pure _
  · refine Searches.bind ?_ fun l => (Searches.install _).bind fun _ => .pure _
    exact Discovery.find_searches.bind fun path => (Searches.write _ _).bind fun _ =>
      openFile_searches path

/-- **An entry point** is found without a call, without an error in the log, and without a
status. -/
theorem resolve_searches (e : EntryPoint) : Searches (resolve e) := by
  refine library_searches.bind fun l => Searches.get.bind fun w => ?_
  dsimp only
  split
  · split
    · exact .throw rfl
    · exact .pure _
  · split
    · exact .pure _
    · refine (Searches.record rfl).bind fun _ => ?_
      split
      · exact .throw rfl
      · exact (Searches.install _).bind fun _ => .pure _

variable {w w' : World} {l : Library} {e : EntryPoint} {g : Fault}

/-- A library that is had is the installed one from then on. -/
theorem library_installs (had : library.outcome w = (.ok l, w')) : w'.library = some l := by
  unfold library at had
  rw [Action.outcome_bind_ok (Action.outcome_get w)] at had
  cases installed : w.library with
  | some k =>
    rw [installed] at had
    cases had
    exact installed
  | none =>
    rw [installed, Action.outcome_bind] at had
    rcases loaded : (load none).outcome w with ⟨_ | k, w₁⟩
    · rw [loaded] at had
      cases had
    · rw [loaded] at had
      cases had
      rfl

/-- Has a library found an entry point before? -/
def knows : Library → EntryPoint → Bool
  | .direct, _ => false
  | .loaded _ found, e => found.contains e

/-- An entry point asked of a library: it is missing only where it was not found before. -/
theorem resolve_had {w₁ : World} (had : library.outcome w = (.ok l, w₁)) (e : EntryPoint) :
    ∃ w₂ k, w₂.library = some k ∧ (∀ code, returning k code = returning l code) ∧
      (resolve e).outcome w =
        (if !knows l e && w.machine.missing.contains e.name then
          .error (.undefinedSymbol e.name)
        else .ok l, w₂) := by
  have installed := library_installs had
  have same : w₁.machine = w.machine := by
    have way := (library_searches w).1.machine
    rwa [had] at way
  unfold resolve
  rw [Action.outcome_bind_ok had, Action.outcome_bind_ok (Action.outcome_get w₁), same]
  cases l with
  | direct =>
    refine ⟨w₁, _, installed, fun _ => rfl, ?_⟩
    cases w.machine.missing.contains e.name <;> rfl
  | loaded path found =>
    dsimp only
    by_cases known : found.contains e = true
    · rw [if_pos known, show knows (.loaded path found) e = true from known]
      exact ⟨w₁, _, installed, fun _ => rfl, rfl⟩
    · rw [if_neg known, show knows (.loaded path found) e = false from Bool.eq_false_iff.2 known]
      cases w.machine.missing.contains e.name with
      | true =>
        exact ⟨{ w₁ with trace := w₁.trace ++ [.resolve e] }, _, installed, fun _ => rfl, rfl⟩
      | false =>
        exact ⟨{ w₁ with
          library := some (.loaded path (found ++ [e])), trace := w₁.trace ++ [.resolve e] },
          _, rfl, fun _ => rfl, rfl⟩

/-- **What keeps an entry point from being had**: there is no library, or the library does not
have it and has not found it before. -/
theorem resolve_error_iff : ((resolve e).outcome w).1 = .error g ↔
    (library.outcome w).1 = .error g ∨ ∃ l, (library.outcome w).1 = .ok l ∧ knows l e = false ∧
      Absent w e ∧ g = .undefinedSymbol e.name := by
  rcases had : library.outcome w with ⟨f | l, w₁⟩
  · have missed : (resolve e).outcome w = (.error f, w₁) := Action.outcome_bind_error had
    simp [missed]
  · obtain ⟨w₂, k, -, -, asked⟩ := resolve_had had e
    rw [asked]
    unfold Absent
    generalize w.machine.missing.contains e.name = absent
    cases known : knows l e <;> cases absent <;> simp [known, @eq_comm _ g]

/-- The library of an entry point that is had gives codes back as the installed one does. -/
theorem resolve_installs (asked : (resolve e).outcome w = (.ok l, w')) :
    ∃ k, w'.library = some k ∧ ∀ code, returning k code = returning l code := by
  rcases had : library.outcome w with ⟨f | l', w₁⟩
  · have missed : (resolve e).outcome w = (.error f, w₁) := Action.outcome_bind_error had
    rw [missed] at asked
    cases asked
  · obtain ⟨w₂, k, installed, same, asked'⟩ := resolve_had had e
    rw [asked'] at asked
    split at asked
    · cases asked
    · cases asked
      exact ⟨k, installed, same⟩

end Loading

/-! ## The end of a release -/

namespace World

/-- The world with a resource marked as released. -/
def marked (w : World) (id : Nat) : World := w.setResource id (w.resource id).retired

/-- The world in which the native release of a resource is asked for: it is marked, and the log
says so. -/
def ready (w : World) (id : Nat) : World := { w.marked id with log := w.log ++ [w.releasing id] }

end World

/-- **What keeps the native release of a resource from being called.** -/
inductive Hindered (w : World) (id : Nat) : Fault → Prop
  /-- it cannot be told whether the resource is owned -/
  | unclear {g : Fault} (truth : (w.marked id).countsAsTrue (w.resource id).owned = .error g) :
      Hindered w id g
  /-- the class has no native release -/
  | bare (owned : (w.marked id).countsAsTrue (w.resource id).owned = .ok true)
      (none : (w.resource id).payload.releaseCall? = none) : Hindered w id .noRelease
  /-- there is no library -/
  | unloaded {c : NativeCall} {g : Fault}
      (owned : (w.marked id).countsAsTrue (w.resource id).owned = .ok true)
      (call : (w.resource id).payload.releaseCall? = some c)
      (failed : (Loading.library.outcome (w.ready id)).1 = .error g) : Hindered w id g
  /-- the library does not have the entry point -/
  | absent {c : NativeCall} {l : Library}
      (owned : (w.marked id).countsAsTrue (w.resource id).owned = .ok true)
      (call : (w.resource id).payload.releaseCall? = some c)
      (had : (Loading.library.outcome (w.ready id)).1 = .ok l)
      (new : Loading.knows l c.entryPoint = false) (missing : Loading.Absent w c.entryPoint) :
      Hindered w id (.undefinedSymbol c.entryPoint.name)

/-- There is at most one thing that keeps a release from being called. -/
theorem Hindered.unique {w : World} {id : Nat} {g g' : Fault} (h : Hindered w id g)
    (h' : Hindered w id g') : g = g' := by
  cases h <;> cases h' <;> simp_all

/-- Nothing has to be called for a resource that is not owned. -/
theorem Hindered.not_borrowed {w : World} {id : Nat} {g : Fault} (h : Hindered w id g) :
    (w.marked id).countsAsTrue (w.resource id).owned ≠ .ok false := by
  intro borrowed
  cases h <;> simp_all

/-- What a call of an entry point without output ends with, by the code that came back. -/
def codeResult (code : Int) : Except Fault Unit :=
  if code = 0 then .ok () else .error (.ofCode code)

/-- How the release of an active resource ends. -/
inductive ReleaseEnd (w : World) (id : Nat) : Except Fault Unit → World → Prop
  /-- its native call cannot be made -/
  | hindered {g : Fault} {w' : World} (cause : Hindered w id g) (search : (w.marked id).Searched w') :
      ReleaseEnd w id (.error g) w'
  /-- it is not owned -/
  | kept (borrowed : (w.marked id).countsAsTrue (w.resource id).owned = .ok false) :
      ReleaseEnd w id (.ok ()) (w.marked id)
  /-- its native call was made -/
  | called {w' : World} {l : Library} {c : NativeCall} {code : Int} {out : Output}
      (free : ∀ g, ¬Hindered w id g)
      (owned : (w.marked id).countsAsTrue (w.resource id).owned = .ok true)
      (call : (w.resource id).payload.releaseCall? = some c) (search : (w.ready id).Searched w')
      (installed : w'.library = some l) (reply : (w.machine.call c).1 = .code code out) :
      ReleaseEnd w id (codeResult (Loading.returning l code))
        { w' with machine := (w.machine.call c).2, trace := w'.trace ++ [.call c code] }

/-- Whether a value counts as true does not end in a status. -/
theorem Value.countsAsTrue_unstatused (size : Nat → Value) (v : Value) :
    Unstatused (v.countsAsTrue size) := by
  have index (v : Value) : Unstatused v.toIndex := by
    unfold Value.toIndex
    split
    · exact .ok _
    · exact .error rfl
    · exact .error rfl
  have length (v : Value) : Unstatused (Value.lengthOfSize v) := by
    refine (index v).bind fun n _ => ?_
    split
    · exact .error rfl
    · split
      · exact .error rfl
      · exact .ok n
  have item : Unstatused v.item := by
    unfold Value.item Value.onlyItem
    split
    · split
      · exact .error rfl
      · split
        · exact .error rfl
        · split <;> exact .ok _
    · exact .ok v
  refine item.bind fun v _ => ?_
  split
  · exact .ok _
  · exact .ok _
  · exact .ok _
  · exact .ok _
  · exact (length _).bind fun n _ => .ok _
  · split <;> exact .ok _

/-- A fault that keeps a release from being called is no status. -/
theorem Hindered.unstatused {w : World} {id : Nat} {g : Fault} (h : Hindered w id g) :
    g.isStatus = false := by
  cases h with
  | unclear truth => exact Value.countsAsTrue_unstatused _ _ _ truth
  | bare => rfl
  | unloaded _ _ failed => exact (Loading.library_searches _).2 _ failed
  | absent => rfl

/-- A request for a call that arrives as it is and is answered with a code. -/
theorem Loading.request_ends {w : World} {c : NativeCall} (arrives : ∀ l, arriving l c = .ok c)
    {code : Int} {out : Output} (reply : (w.machine.call c).1 = .code code out) :
    (∃ g w', ((resolve c.entryPoint).outcome w).1 = .error g ∧ w.Searched w' ∧
        (discard (request c)).outcome w = (.error g, w')) ∨
      ∃ l w', (∀ g, ((resolve c.entryPoint).outcome w).1 ≠ .error g) ∧ w.Searched w' ∧
        w'.library = some l ∧ (discard (request c)).outcome w =
          (codeResult (returning l code), { w' with
            machine := (w.machine.call c).2, trace := w'.trace ++ [.call c code] }) := by
  have search := (resolve_searches c.entryPoint w).1
  rw [Action.outcome_discard]
  unfold request
  rw [Action.outcome_bind]
  rcases asked : (resolve c.entryPoint).outcome w with ⟨g | l, w₁⟩
  · rw [asked] at search
    exact .inl ⟨g, w₁, rfl, search, rfl⟩
  · rw [asked] at search
    obtain ⟨k, installed, same⟩ := resolve_installs asked
    refine .inr ⟨k, w₁, (fun g h => by cases h), search, installed, ?_⟩
    dsimp only
    rw [Action.outcome_bind, invoke_outcome (arrives l) w₁, search.machine, reply, same]
    dsimp only [answered]
    rw [Action.outcome_bind, check_outcome, codeResult]
    by_cases success : returning l code = 0
    · rw [if_pos success]
      rfl
    · rw [if_neg success]
      rfl

/-- A release that is to be made is kept from being called by what its entry point is missed
for, and by nothing else. -/
theorem Hindered.iff_missed {w : World} {id : Nat} {c : NativeCall} {g : Fault}
    (owned : (w.marked id).countsAsTrue (w.resource id).owned = .ok true)
    (call : (w.resource id).payload.releaseCall? = some c) : Hindered w id g ↔
      ((Loading.resolve c.entryPoint).outcome (w.ready id)).1 = .error g := by
  rw [Loading.resolve_error_iff]
  constructor
  · intro cause
    cases cause with
    | unclear unclear => cases owned.symm.trans unclear
    | bare _ none => cases call.symm.trans none
    | unloaded _ same failed =>
      cases call.symm.trans same
      exact .inl failed
    | absent _ same had new missing =>
      cases call.symm.trans same
      exact .inr ⟨_, had, new, missing, rfl⟩
  · rintro (failed | ⟨l, had, new, missing, rfl⟩)
    · exact .unloaded owned call failed
    · exact .absent owned call had new missing

namespace Ownership

variable {w : World} {id : Nat}

/-- How the native release of a resource ends. -/
theorem releaseNative_ends (owned : (w.marked id).countsAsTrue (w.resource id).owned = .ok true) :
    ReleaseEnd w id ((releaseNative (w.resource id).payload).outcome (w.ready id)).1
      ((releaseNative (w.resource id).payload).outcome (w.ready id)).2 := by
  have written : (w.marked id).Searched (w.ready id) := .write _ _ _
  cases call : (w.resource id).payload.releaseCall? with
  | none =>
    obtain ⟨v, plain⟩ : ∃ v, (w.resource id).payload = .plain v := by
      cases payload : (w.resource id).payload <;> rw [payload] at call <;> cases call
      exact ⟨_, rfl⟩
    rw [plain]
    exact .hindered (.bare owned call) written
  | some c =>
    have native : releaseNative (w.resource id).payload = discard (Loading.request c) := by
      cases payload : (w.resource id).payload <;> rw [payload] at call <;> cases call <;> rfl
    rw [native]
    obtain ⟨code, out, reply⟩ := w.machine.release_code call
    obtain ⟨g, w', missed, search, ended⟩ | ⟨l, w', had, search, installed, ended⟩ :=
      Loading.request_ends (w := w.ready id) (Payload.releaseCall_arrives call) reply
    · rw [ended]
      exact .hindered ((Hindered.iff_missed owned call).2 missed) (written.trans search)
    · rw [ended]
      have free (g : Fault) : ¬Hindered w id g := fun cause =>
        had g ((Hindered.iff_missed owned call).1 cause)
      exact .called free owned call search installed reply

/-- **How a release ends.** -/
theorem release_ends (active : (w.resource id).released = false) :
    ReleaseEnd w id ((release id).outcome w).1 ((release id).outcome w).2 := by
  have there := World.getElem?_of_active active
  have begun : (release id).outcome w = (do
      if ← Action.ofExcept ((w.marked id).countsAsTrue (w.resource id).owned) then
        Action.write .debug .ownership (w.releasing id).text
        releaseNative (w.resource id).payload
      else return () : Action Unit).outcome (w.marked id) := by
    unfold release
    rw [Action.outcome_bind_ok (active_ok there active),
      Action.outcome_bind_ok (Action.outcome_modify _ w),
      Action.outcome_bind_ok (Action.outcome_get _)]
    rfl
  rw [begun]
  cases truth : (w.marked id).countsAsTrue (w.resource id).owned with
  | error g => exact .hindered (.unclear truth) (.refl _)
  | ok own =>
    rw [Action.outcome_bind_ok (Action.outcome_ofExcept (.ok own) _)]
    cases own with
    | false => exact .kept truth
    | true =>
      rw [if_pos rfl, Action.outcome_bind_ok (Action.outcome_write ..)]
      exact releaseNative_ends truth

end Ownership

namespace ReleaseEnd

open World (Gains)

variable {w w' : World} {id : Nat} {result : Except Fault Unit}

/-- A release marks its resource, however it ends. -/
theorem resources (h : ReleaseEnd w id result w') :
    w'.resources = w.resources.set id (w.resource id).retired := by
  cases h with
  | hindered _ search => exact search.resources
  | kept => rfl
  | called _ _ _ search => exact search.resources

/-- A release writes no error.  It calls nothing, or its native call is all that it calls, and the
code of that decides how it ends. -/
theorem gains (h : ReleaseEnd w id result w') :
    let r := w.resource id
    ∃ es ls, w.Gains w' es ls ∧ errors ls = [] ∧
      ((∃ g, Hindered w id g ∧ result = .error g ∧ calls es = []) ∨
        (∀ g, ¬Hindered w id g) ∧
          ((w.marked id).countsAsTrue r.owned = .ok false ∧ result = .ok () ∧ calls es = [] ∨
            ∃ c l code, r.payload.releaseCall? = some c ∧ w'.library = some l ∧
              calls es = [(c, code)] ∧ result = codeResult (Loading.returning l code))) := by
  have marked : w.Gains (w.marked id) [] [] := ⟨(Gains.refl w).trace, (Gains.refl w).log⟩
  have ready : w.Gains (w.ready id) [] [w.releasing id] := ⟨(Gains.refl w).trace, rfl⟩
  cases h with
  | hindered cause search =>
    obtain ⟨es, ls, way, uncalled, fine⟩ := search.gains
    exact ⟨es, ls, marked.trans way, fine, .inl ⟨_, cause, rfl, uncalled⟩⟩
  | kept borrowed =>
    exact ⟨[], [], marked, rfl,
      .inr ⟨fun g cause => cause.not_borrowed borrowed, .inl ⟨borrowed, rfl, rfl⟩⟩⟩
  | @called w₁ l c code _ free _ call search installed _ =>
    obtain ⟨es, ls, way, uncalled, fine⟩ := search.gains
    have called : w₁.Gains { w₁ with
        machine := (w.machine.call c).2, trace := w₁.trace ++ [.call c code] }
        [.call c code] [] := ⟨rfl, (Gains.refl w₁).log⟩
    refine ⟨_, _, ready.trans (way.trans called), ?_,
      .inr ⟨free, .inr ⟨c, l, code, call, installed, ?_, rfl⟩⟩⟩
    · rw [errors_append, errors_append, fine]
      rfl
    · simp [uncalled]

end ReleaseEnd

end GpuHandles
