import GpuHandles.Proofs.OtherHosts
/-!
The library is found without the vendor's tools.

`w.retooled tools` is `w` with other tools on its host.  The two worlds stay in lockstep
(`lockstep_retooled`): the search only names a platform that was not `auto`, so it never asks the
hardware (`candidates_respects`), and nothing else looks at the tools.  Hence the candidates, the
search and whole scripts end alike in both, and no tool is run (`tools_make_no_difference`).
-/

namespace GpuHandles

/-- The command of a tool that was started. -/
def Event.command? : Event → Option (List String)
  | .run command => some command
  | _ => none

/-- The tools started among events. -/
def toolRuns (es : List Event) : List (List String) := es.filterMap Event.command?

@[simp] theorem toolRuns_append (es fs : List Event) :
    toolRuns (es ++ fs) = toolRuns es ++ toolRuns fs := List.filterMap_append

theorem toolRuns_eq_nil {es : List Event} (none : ∀ command, .run command ∉ es) :
    toolRuns es = [] := by
  refine List.filterMap_eq_nil_iff.2 fun e mem => ?_
  cases e with
  | run command => exact absurd mem (none command)
  | _ => rfl

/-- The world with other vendor tools on its host. -/
def World.retooled (w : World) (tools : Table String ToolOutcome) : World :=
  { w with host := { w.host with tools := tools } }

/-- The same world but for the tools; those that were started so far are `runs`. -/
structure Retooled (tools : Table String ToolOutcome) (runs : List (List String))
    (w v : World) : Prop where
  same : v = w.retooled tools
  runs : toolRuns w.trace = runs

open GpuHandles.Action (Respects)

section

variable {tools : Table String ToolOutcome} {runs : List (List String)}

theorem hosted_retooled (tools : Table String ToolOutcome) (runs : List (List String)) :
    Hosted (Retooled tools runs) where
  same related := by rw [related.same]; rfl
  alike related := by rw [related.same]; exact ⟨rfl, rfl, rfl, rfl, fun _ => rfl⟩
  keeps := by
    rintro w _ ⟨rfl, same⟩ w' host ⟨es, trace, none⟩
    refine ⟨?_, ?_⟩
    · unfold World.retooled World.on
      rw [host]
    · rw [trace, toolRuns_append, toolRuns_eq_nil none, List.append_nil, same]

namespace Discovery

theorem candidates_respects (argument : Value) :
    Respects (Retooled tools runs) (candidates argument) :=
  (hosted_retooled tools runs).candidates fun related => by rw [related.same]; rfl

theorem find_respects (argument : Value) : Respects (Retooled tools runs) (find argument) :=
  (hosted_retooled tools runs).find (candidates_respects argument)

end Discovery

/-- **A world and the same world with other tools** stay in lockstep. -/
theorem lockstep_retooled (tools : Table String ToolOutcome) (runs : List (List String)) :
    ScriptLockstep (Retooled tools runs) :=
  (hosted_retooled tools runs).lockstep (Discovery.find_respects .null)
    fun related name value => ⟨by rw [related.same]; cases value <;> rfl, related.runs⟩

theorem Script.Task.tame_retooled (t : Script.Task) : t.Tame (Retooled tools runs) :=
  (hosted_retooled tools runs).tame (Discovery.find_respects .null) t

end

/-- **Vendor tools make no difference.**  In a world and in the same world with other tools on its
host, whatever these answer:

* the candidates are the same for every platform argument, and so is what the search ends with;
  the worlds after the search differ in the tools alone;
* every script leaves the same report: results, faults, events and log lines of each step, and
  the tables of the machine at its end;
* no tool is started on the way. -/
theorem tools_make_no_difference (w : World) (tools : Table String ToolOutcome) :
    let v := w.retooled tools
    (∀ argument : Value,
      ((Discovery.candidates argument).outcome v).1 =
          ((Discovery.candidates argument).outcome w).1 ∧
        ((Discovery.candidates argument).outcome v).2 =
          ((Discovery.candidates argument).outcome w).2.retooled tools ∧
        toolRuns ((Discovery.candidates argument).outcome w).2.trace = toolRuns w.trace) ∧
    (∀ argument : Value,
      ((Discovery.find argument).outcome v).1 = ((Discovery.find argument).outcome w).1 ∧
        ((Discovery.find argument).outcome v).2 =
          ((Discovery.find argument).outcome w).2.retooled tools ∧
        toolRuns ((Discovery.find argument).outcome w).2.trace = toolRuns w.trace) ∧
    ∀ script : List Script.Step, Script.run v script = Script.run w script ∧
      Script.last v script = (Script.last w script).retooled tools ∧
      toolRuns (Script.last w script).trace = toolRuns w.trace := by
  intro v
  have related : Retooled tools (toolRuns w.trace) w v := ⟨rfl, rfl⟩
  refine ⟨fun argument => ?_, fun argument => ?_, fun script => ?_⟩
  · obtain ⟨same, ended⟩ := Discovery.candidates_respects argument w v related
    exact ⟨same, ended.same, ended.runs⟩
  · obtain ⟨same, ended⟩ := Discovery.find_respects argument w v related
    exact ⟨same, ended.same, ended.runs⟩
  · have h := lockstep_retooled tools (toolRuns w.trace)
    have tame : ∀ t ∈ Script.tasksOf script, t.Tame (Retooled tools (toolRuns w.trace)) :=
      fun t _ => t.tame_retooled
    have start : Script.Paired (Retooled tools (toolRuns w.trace)) ⟨w, []⟩ ⟨v, []⟩ := ⟨rfl, related⟩
    obtain ⟨_, paired⟩ := h.steps start script tame
    have ended := h.dropAll (Script.runSteps ⟨w, []⟩ script).2.names paired.world
    refine ⟨h.run related script tame, ?_, ended.runs⟩
    unfold Script.last
    dsimp only
    rw [paired.names]
    exact ended.same

end GpuHandles
