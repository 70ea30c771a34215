import GpuHandles.Proofs.LoadAttempts
import GpuHandles.Proofs.Lockstep
/-!
The same world on another host.

A search reads of a host its files, the system's answer, the kind of system, and those variables
that are filled (`Host.Alike`).  It reads one thing more, which platform is asked for; this is a
premise by itself (`Hosted.candidates`), and void where the environment names a library
(`Hosted.find_of_named`).  Worlds that differ in such hosts alone, and in nothing else, stand in a
relation that the search keeps, and with it the load, every call through the library, and whole
scripts (`Hosted.lockstep`).
-/

namespace GpuHandles

/-- The hosts look the same to a search and to the load of what it finds: the same files, the same
answer of the system, and the same texts in the variables that are filled. -/
structure Host.Alike (h k : Host) : Prop where
  files : k.files = h.files
  system : k.systemLibrary = h.systemLibrary
  windows : k.isWindows = h.isWindows
  unloadable : k.unloadable = h.unloadable
  filled : ∀ name, k.filled? name = h.filled? name

/-- A relation of worlds that differ in the host alone, where the hosts look the same to a search.
Whatever leaves the host as it is and starts no tool keeps it. -/
structure Hosted (R : World → World → Prop) : Prop where
  same : ∀ {w v}, R w v → v = w.on v.host
  alike : ∀ {w v}, R w v → w.host.Alike v.host
  keeps : ∀ {w v}, R w v → ∀ w' : World, w'.host = w.host →
    (∃ es, w'.trace = w.trace ++ es ∧ ∀ command, Event.run command ∉ es) → R w' (w'.on v.host)

open GpuHandles.Action (Respects)
open Lockstep (bind compute)

namespace Host.Alike

variable {h k : Host} (alike : h.Alike k)
include alike

theorem hasFile : k.hasFile = h.hasFile := by
  funext path
  unfold Host.hasFile
  rw [alike.files]

theorem candidatePaths : Discovery.candidatePaths k = Discovery.candidatePaths h := by
  have names : Discovery.fileNames k = Discovery.fileNames h := by
    unfold Discovery.fileNames
    rw [alike.windows]
  have filled : k.filled? = h.filled? := funext alike.filled
  unfold Discovery.candidatePaths Discovery.roots
  rw [names, filled]

end Host.Alike

namespace Hosted

variable {R : World → World → Prop} {α : Type} {argument : Value}

/-- A look at the world that does not tell related ones apart. -/
theorem look {f : World → Action α} (blind : ∀ {w v}, R w v → f v = f w)
    (each : ∀ w, Respects R (f w)) : Respects R (get >>= f) := by
  intro w v related
  rw [Action.outcome_bind_ok (Action.outcome_get w), Action.outcome_bind_ok (Action.outcome_get v),
    blind related]
  exact each w w v related

variable (h : Hosted R)
include h

theorem change {f : World → World} (commutes : ∀ w k, f (w.on k) = (f w).on k)
    (host : ∀ w, (f w).host = w.host)
    (quiet : ∀ w, ∃ es, (f w).trace = w.trace ++ es ∧ ∀ command, Event.run command ∉ es) :
    Respects R (modify f) := by
  intro w v related
  have moved : f v = (f w).on v.host := (congrArg f (h.same related)).trans (commutes w v.host)
  refine ⟨rfl, ?_⟩
  show R (f w) (f v)
  rw [moved]
  exact h.keeps related _ (host w) (quiet w)

theorem record {e : Event} (quiet : ∀ command, e ≠ .run command) :
    Respects R (Action.record e) :=
  h.change (fun _ _ => rfl) (fun _ => rfl) fun _ =>
    ⟨[e], rfl, fun command mem => quiet command (List.mem_singleton.1 mem).symm⟩

theorem write (level : Level) (logger : Logger) (text : String) :
    Respects R (Action.write level logger text) :=
  h.change (fun _ _ => rfl) (fun _ => rfl) fun _ => ⟨[], (List.append_nil _).symm, nofun⟩

theorem install (l : Option Library) : Respects R (Loading.install l) :=
  h.change (fun _ _ => rfl) (fun _ => rfl) fun _ => ⟨[], (List.append_nil _).symm, nofun⟩

/-! ## The search -/

omit h in
theorem platformOf {s : String} (plain : Text.lowercase s ≠ "auto") :
    Respects R (Discovery.platformOf s) := by
  intro w v related
  rw [Discovery.platformOf_outcome plain, Discovery.platformOf_outcome plain]
  exact ⟨rfl, related⟩

theorem candidates (asked : ∀ {w v}, R w v →
      Discovery.requested argument v.host = Discovery.requested argument w.host) :
    Respects R (Discovery.candidates argument) := by
  refine look (fun related => ?_) fun w => bind (compute _) fun asked => ?_
  · dsimp only
    rw [asked related, (h.alike related).candidatePaths]
  · dsimp only
    split
    · exact compute (.ok _)
    · next other =>
      exact bind (platformOf (by simpa using other)) fun settled => compute (.ok _)

theorem systemSearch : Respects R Discovery.systemSearch :=
  bind (h.record nofun) fun _ => look
    (fun related => by rw [(h.alike related).system]) fun _ => compute (.ok _)

theorem find (tried : Respects R (Discovery.candidates argument)) :
    Respects R (Discovery.find argument) := by
  refine look (fun related => ?_) fun w => ?_
  · dsimp only
    rw [(h.alike related).filled, (h.alike related).hasFile]
  · dsimp only
    split
    · split
      · exact compute (.ok _)
      · exact compute (.error _)
    · refine bind tried fun tried => ?_
      split
      · exact compute (.ok _)
      · split
        · exact compute (.error _)
        · refine bind h.systemSearch fun found => ?_
          split
          · exact compute (.ok _)
          · exact compute (.error _)

/-- Where the environment names a library, no platform is looked at. -/
theorem find_of_named
    (named : ∀ {w v}, R w v → w.host.filled? Discovery.libraryVariable ≠ none) :
    Respects R (Discovery.find argument) := by
  intro w v related
  obtain ⟨path, filled⟩ := Option.ne_none_iff_exists'.1 (named related)
  have other := ((h.alike related).filled Discovery.libraryVariable).trans filled
  rw [Discovery.find_of_named (Discovery.filled?_eq_some.1 filled),
    Discovery.find_of_named (Discovery.filled?_eq_some.1 other), (h.alike related).hasFile]
  exact ⟨rfl, related⟩

/-! ## The load, and calls through the library -/

theorem openFile (path : String) : Respects R (Loading.openFile path) := by
  refine bind (h.record nofun) fun _ => look (fun related => ?_) fun w => ?_
  · rw [(h.alike related).unloadable]
  · split
    · exact compute (.error _)
    · exact compute (.ok _)

theorem load_some (path : String) : Respects R (Loading.load (some path)) :=
  bind (compute (.ok path)) fun _ => bind (h.write _ _ _) fun _ => h.openFile _

variable (search : Respects R (Discovery.find .null))
include search

theorem load (path : Option String) : Respects R (Loading.load path) := by
  cases path with
  | some path => exact h.load_some path
  | none => exact bind search fun path => h.load_some path

theorem library : Respects R Loading.library := by
  refine look (fun related => ?_) fun w => ?_
  · rw [h.same related]
    rfl
  · split
    · exact compute (.ok _)
    · exact bind (h.load search none) fun l => bind (h.install _) fun _ => compute (.ok l)

theorem resolve (e : EntryPoint) : Respects R (Loading.resolve e) := by
  refine bind (h.library search) fun l => look (fun related => ?_) fun w => ?_
  · rw [h.same related]
    rfl
  · dsimp only
    split
    · split
      · exact compute (.error _)
      · exact compute (.ok _)
    · split
      · exact compute (.ok _)
      · refine bind (h.record nofun) fun _ => ?_
        split
        · exact compute (.error _)
        · exact bind (h.install _) fun _ => compute (.ok _)

omit search in
theorem invoke (l : Library) (c : NativeCall) : Respects R (Loading.invoke l c) := by
  intro w v related
  obtain ⟨k, rfl⟩ : ∃ k, v = w.on k := ⟨_, h.same related⟩
  cases arrived : Loading.arriving l c with
  | error f =>
    unfold Loading.invoke
    rw [arrived]
    exact ⟨rfl, related⟩
  | ok c' =>
    rw [Loading.invoke_outcome arrived, Loading.invoke_outcome arrived]
    refine ⟨rfl, h.keeps related _ rfl ⟨_, rfl, fun command mem => ?_⟩⟩
    obtain ⟨_, _, ⟨⟩⟩ := List.mem_map.1 mem

/-! ## Scripts -/

/-- **The same world on two hosts** stays in lockstep, if the search ends alike, and if a variable
that is set on both keeps the relation. -/
theorem lockstep (set : ∀ {w v}, R w v → ∀ name value,
      R { w with host := w.host.setVariable name value }
        { v with host := v.host.setVariable name value }) :
    ScriptLockstep R where
  machine related := by rw [h.same related]; rfl
  resources related := by rw [h.same related]; rfl
  trace related := by rw [h.same related]; rfl
  log related := by rw [h.same related]; rfl
  relabel {w v} related rs ls := by
    rw [h.same related]
    exact h.keeps related { w with resources := rs, log := ls } rfl
      ⟨[], (List.append_nil _).symm, nofun⟩
  call e r c _ := bind (h.resolve search e) fun l => bind (compute r) fun x => h.invoke l (c x)
  library := h.library search
  resolve := h.resolve search
  adjust {w v} related m _ := by
    rw [h.same related]
    exact h.keeps related { w with machine := m } rfl ⟨[], (List.append_nil _).symm, nofun⟩
  setVariable := set

omit search in
theorem installation (target : Script.Installation) : Respects R target.install := by
  cases target with
  | direct | none => exact h.install _
  | loaded => exact bind (h.openFile _) fun _ => h.install _

theorem tame (t : Script.Task) : t.Tame R := by
  cases t with
  | install target => exact h.installation target
  | load path => exact h.load search path
  | _ => trivial

end Hosted

/-! ## Two hosts -/

/-- The same world on hosts that stand in a relation. -/
structure Elsewhere (P : Host → Host → Prop) (w v : World) : Prop where
  same : v = w.on v.host
  hosts : P w.host v.host

theorem hosted_elsewhere {P : Host → Host → Prop} (alike : ∀ {h k}, P h k → h.Alike k) :
    Hosted (Elsewhere P) where
  same related := related.same
  alike related := alike related.hosts
  keeps related w' host _ := by
    refine ⟨rfl, ?_⟩
    rw [host]
    exact related.hosts

/-- The same world on one host and on another. -/
def Between (h k : Host) : World → World → Prop := Elsewhere fun h' k' => h' = h ∧ k' = k

theorem hosted_between {h k : Host} (alike : h.Alike k) : Hosted (Between h k) :=
  hosted_elsewhere fun {_ _} hosts => by
    rw [hosts.1, hosts.2]
    exact alike

/-- An action ends alike in a world, whichever of two hosts it is on: with one result, and in worlds
that differ in the host alone. -/
def Action.Indifferent {α : Type} (a : Action α) (w : World) (h k : Host) : Prop :=
  (a.outcome (w.on k)).1 = (a.outcome (w.on h)).1 ∧
    (a.outcome (w.on k)).2 = (a.outcome (w.on h)).2.on k

theorem Action.indifferent_of_respects {α : Type} {a : Action α} {h k : Host}
    (respects : Respects (Between h k) a) (w : World) : a.Indifferent w h k := by
  obtain ⟨same, ended⟩ := respects (w.on h) (w.on k) ⟨rfl, rfl, rfl⟩
  refine ⟨same, ended.same.trans ?_⟩
  rw [ended.hosts.2]

end GpuHandles
