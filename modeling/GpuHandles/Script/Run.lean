import GpuHandles.Script.Answer
import GpuHandles.Script.Sharing
import GpuHandles.Script.Step
/-!
Running a script.

Each step leaves a record: its answer or fault, and the events and log lines that
it caused.  A resource lives as long as a name, a block, or another living resource
holds it; when the last hold is gone it is finalized within the same step, and then
what it held itself.  At the end every name is given up, in the order in which the
names were first bound.
-/

namespace GpuHandles.Script

/-- What a step leaves behind. -/
inductive Record where
  | mk (outcome : Except Fault Answer) (body : Option (List Record)) (events : List Event)
      (log : List LogRecord)

/-- A script on its way. -/
structure State where
  world : World
  names : Bindings

/-! ## Holds -/

/-- Resources with everything that they hold.  A resource holds only what was made before
it, so the number of resources bounds how deep they lie. -/
def reached (w : World) : Nat → List Nat → List Nat
  | 0, ids => ids
  | fuel + 1, ids =>
    if ids.isEmpty then []
    else ids ++ reached w fuel (ids.flatMap fun id => heldInside (w.resource id))

/-- The resources that blocks and names keep alive. -/
def living (held : List Nat) (names : Bindings) (w : World) : List Nat :=
  reached w w.resources.length (held ++ names.flatMap fun e => heldBy e.2)

/-- Resources that lost a hold: those that do not live are finalized, and give up what they
held. -/
def abandon (alive : List Nat) : Nat → List Nat → World → World
  | 0, _, w => w
  | fuel + 1, ids, w =>
    ids.foldl
      (fun w id =>
        if alive.contains id then w
        else
          let after := ((Ownership.finalize id).outcome w).2
          abandon alive fuel (heldInside (after.resource id)) after)
      w

/-- A value that lost a hold, with the blocks and names that are left. -/
def giveUp (held : List Nat) (names : Bindings) (v : Value) (w : World) : World :=
  match heldBy v with
  | [] => w
  | ids => abandon (living held names w) w.resources.length ids w

/-! ## Steps -/

/-- A value bound to a name; what the name stood for before is given up. -/
def bindName (held : List Nat) (names : Bindings) (name : String) (v : Value) (w : World) : State :=
  let after := names.put name v
  match names.get? name with
  | some old => ⟨giveUp held after old w, after⟩
  | none => ⟨w, after⟩

/-- A record of what happened between two worlds. -/
def recordBetween (before after : World) (outcome : Except Fault Answer)
    (body : Option (List Record)) : Record :=
  .mk outcome body (after.trace.drop before.trace.length) (after.log.drop before.log.length)

/-- A task: its result is named, or given up once it has been shown.  An array that a copy
has filled shows under all its names. -/
def runTask (held : List Nat) (st : State) (t : Task) (bind : Option String) :
    Except Fault Answer × State :=
  match (t.perform st.names).outcome st.world with
  | (.error f, w) => (.error f, { st with world := w })
  | (.ok v, w) =>
    let answer := Answer.ofValue w v
    let names := renewNames v st.names
    let w := renewWorld v w
    match bind with
    | some name => (.ok answer, bindName held names name v w)
    | none => (.ok answer, ⟨giveUp held names v w, names⟩)

/-- A name given up. -/
def dropName (held : List Nat) (st : State) (name : String) : Except Fault Answer × State :=
  match lookup st.names name with
  | .error f => (.error f, st)
  | .ok v =>
    let after := st.names.erase name
    (.ok .null, ⟨giveUp held after v st.world, after⟩)

/-- The resource that a block holds. -/
def blockResource (names : Bindings) (name : String) : Except Fault Nat := do
  match ← lookup names name with
  | .handle id _ => return id
  | v => .error (.noBlock v.qualifiedType)

/-- The resource of a block, entered. -/
def enterBlock (names : Bindings) (name : String) : Action Nat := do
  let id ← Action.ofExcept (blockResource names name)
  Ownership.enter id
  return id

/-- The end of a block: what leaves it, and the state after it. -/
def leaveBlock (st : State) (id : Nat) (fault : Option Fault) : Except Fault Answer × State :=
  match (Ownership.leave id fault).outcome st.world with
  | (.ok (), w) => (.ok .null, { st with world := w })
  | (.error f, w) => (.error f, { st with world := w })

/-- The fault with which a step ends the block around it. -/
def escaping (escapes : Bool) : Except Fault Answer → Option Fault
  | .error f => if escapes then some f else none
  | .ok _ => none

mutual
/-- One step: its record, the fault that escapes from it, and the state after it.  What
leaves an inner block is recorded and goes no further. -/
def runStep (held : List Nat) (st : State) : Step → Record × Option Fault × State
  | .task t bind escapes =>
    let (outcome, after) := runTask held st t bind
    (recordBetween st.world after.world outcome none, escaping escapes outcome, after)
  | .snapshot =>
    (recordBetween st.world st.world (.ok (.snapshot st.world.machine.snapshot)) none, none, st)
  | .drop name escapes =>
    let (outcome, after) := dropName held st name
    (recordBetween st.world after.world outcome none, escaping escapes outcome, after)
  | .block name body raise =>
    match (enterBlock st.names name).outcome st.world with
    | (.error f, w) => (recordBetween st.world w (.error f) (some []), none, { st with world := w })
    | (.ok id, w) =>
      let (records, escaped, inner) := runBody (id :: held) { st with world := w } body
      let (outcome, after) := leaveBlock inner id (escaped.or raise)
      (recordBetween inner.world after.world outcome (some records), none, after)

/-- Steps in order, up to the first whose fault escapes. -/
def runBody (held : List Nat) (st : State) : List Step → List Record × Option Fault × State
  | [] => ([], none, st)
  | s :: rest =>
    match runStep held st s with
    | (r, some f, after) => ([r], some f, after)
    | (r, none, after) =>
      let (records, escaped, last) := runBody held after rest
      (r :: records, escaped, last)
end

/-- The steps of a script; here no fault ends anything. -/
def runSteps (st : State) : List Step → List Record × State
  | [] => ([], st)
  | s :: rest =>
    let (r, _, after) := runStep [] st s
    let (records, last) := runSteps after rest
    (r :: records, last)

/-- Every name given up, first bound first. -/
def dropAll : Bindings → World → World
  | [], w => w
  | e :: rest, w => dropAll rest (giveUp [] rest e.2 w)

mutual
/-- A record as it is written into the report, with the history of the whole run. -/
def settle (events : List Event) : Record → Record
  | .mk outcome body own log =>
    .mk (outcome.map (Answer.settled events))
      (match body with
        | some rs => some (settleAll events rs)
        | none => none)
      own log

/-- Several records as they are written into the report. -/
def settleAll (events : List Event) : List Record → List Record
  | [] => []
  | r :: rs => settle events r :: settleAll events rs
end

/-- What a script leaves behind. -/
structure Report where
  records : List Record
  /-- what giving up the names at the end caused -/
  events : List Event
  log : List LogRecord
  final : Snapshot

/-- A script run in a world. -/
def run (w : World) (steps : List Step) : Report :=
  let (records, st) := runSteps ⟨w, []⟩ steps
  let last := dropAll st.names st.world
  { records := settleAll last.trace records
    events := last.trace.drop st.world.trace.length
    log := last.log.drop st.world.log.length
    final := last.machine.snapshot }

end GpuHandles.Script
