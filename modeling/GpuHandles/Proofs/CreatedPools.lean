import GpuHandles.Proofs.AllocationSize
import GpuHandles.Proofs.DeviceNumbers
import GpuHandles.Proofs.PoolDescriptions
/-!
Pools made from descriptions.

A description by whole numbers is cut to the native structure, and the machine makes the pool that
the structure describes, or refuses it (`Pool.CreateEnd`).  Nothing on the way compares the numbers
with what is left of them: where they all fit, the pool is the one that was described; where one
does not, the pool is that of the number's low bits, on another device or of another size
(`created_pools`).
-/

namespace GpuHandles

open PoolProps (Setting)

namespace Machine

variable {m : Machine} {i : PoolImage}

/-- The place of a pool is a device that is there. -/
def Hosts (m : Machine) (i : PoolImage) : Prop := i.locationType = 1 ∧ m.Visible i.locationId

instance (m : Machine) (i : PoolImage) : Decidable (m.Hosts i) :=
  inferInstanceAs (Decidable (_ ∧ _))

/-- The machine with a new pool. -/
def withPool (m : Machine) (i : PoolImage) : Machine :=
  { m with
    lastHandle := m.nextHandle
    pools := m.pools ++ [(m.nextHandle, (⟨i, none⟩ : PoolRecord))] }

/-- A call for a new pool that no set-up code stands in for. -/
theorem call_poolCreate (quiet : m.injected .poolCreate = 0) (i : PoolImage) :
    m.call (.poolCreate i) =
      if m.Hosts i then
        (.code 0 (.address (some m.nextHandle)), (m.spend [.poolCreate]).withPool i)
      else (.code Status.Kind.invalidValue.code .nothing, m.spend [.poolCreate]) := by
  rw [call_quiet (c := .poolCreate i) quiet]
  rfl

/-- A handle that was not given out yet is that of the new pool. -/
theorem get?_withPool (unused : m.pools.get? m.nextHandle = none) :
    (m.withPool i).pools.get? m.nextHandle = some ⟨i, none⟩ := by
  show Table.get? (m.pools ++ [(m.nextHandle, _)]) m.nextHandle = _
  rw [Table.get?_append, unused, Table.get?_cons, if_pos rfl]
  rfl

end Machine

/-- All through a session, the handle that comes next is that of no pool. -/
theorem World.next_pool_unused {w : World} (orderly : Orderly w) (none : w.machine.pools = [])
    (ts : List Turn) :
    (w.after ts).machine.pools.get? (w.after ts).machine.nextHandle = .none := by
  have counted : ∀ k ∈ (w.after ts).machine.tables.keys .pool,
      k ≤ (w.after ts).machine.tables.lastHandle :=
    World.keeps_after (P := fun t => ∀ k ∈ t.keys .pool, k ≤ t.lastHandle) orderly
      (fun m c before => (Machine.call_change m c).counted .pool before)
      (by
        show ∀ k ∈ w.machine.pools.keys, _
        rw [none]
        exact nofun) ts
  exact Table.get?_of_notMem (Tables.next_notMem counted)

namespace Pool

variable {w : World} {l : Library} {p : PoolProps} {n : Setting → Int}

/-- How the creation of a pool ends that no set-up failure stands in for: its entry point is
missing, the machine refuses the place, or there is one pool more, with its resource. -/
inductive CreateEnd (w : World) (p : PoolProps) (i : PoolImage) :
    Except Fault Value → World → Prop
  | missing {w' : World} (absent : Loading.Absent w .poolCreate)
      (way : Passage w w' w.machine w.resources []) :
      CreateEnd w p i (.error (.undefinedSymbol EntryPoint.poolCreate.name)) w'
  | refused {w' : World} (outside : ¬w.machine.Hosts i)
      (way : Passage w w' (w.machine.spend [.poolCreate]) w.resources
        [(.poolCreate i, Status.Kind.invalidValue.code)]) :
      CreateEnd w p i (.error (.ofCode Status.Kind.invalidValue.code)) w'
  | created {w' : World} (inside : w.machine.Hosts i)
      (way : Passage w w' ((w.machine.spend [.poolCreate]).withPool i)
        (w.resources ++ [.owning (.pool (some w.machine.nextHandle) (some p))])
        [(.poolCreate i, 0)]) :
      CreateEnd w p i (.ok (.handle w.resources.length .pool)) w'

theorem create_ends (installed : w.library = some l) (described : p.Spells n)
    (quiet : w.machine.injected .poolCreate = 0) : CreateEnd w p (.ofNumbers n)
      ((create p.toValue).outcome w).1 ((create p.toValue).outcome w).2 := by
  have given : description w p.toValue = .ok p := rfl
  have arrived : Loading.arriving l (.poolCreate (.ofNumbers n)) =
      .ok (.poolCreate (.ofNumbers n)) := by
    cases l <;> rfl
  unfold create
  rw [Action.outcome_bind_ok (Action.outcome_get w), given,
    Action.outcome_bind_ok (Action.outcome_ofExcept (.ok p) w), described.image,
    Action.outcome_bind_ok (Action.outcome_ofExcept (.ok _) w)]
  obtain ⟨absent, w', way, ended⟩ | ⟨w', way, ended⟩ := Loading.request_arriving installed arrived
  · rw [Action.outcome_bind_error ended]
    exact .missing absent way
  · rw [Machine.call_poolCreate quiet] at way ended
    by_cases hosted : w.machine.Hosts (.ofNumbers n)
    · rw [if_pos hosted] at way ended
      rw [Action.outcome_bind_ok (ended.trans (congrArg (·, w') (Loading.checked_zero l _)))]
      show CreateEnd w p _ (.ok (.handle w'.resources.length .pool)) _
      rw [way.resources]
      exact .created hosted (way.resources ▸ way.withResources _ _)
    · rw [if_neg hosted] at way ended
      have failure : Loading.checked l (.code Status.Kind.invalidValue.code .nothing) =
          .error (.ofCode Status.Kind.invalidValue.code) := by
        cases l <;> rfl
      rw [Action.outcome_bind_error (ended.trans (congrArg (·, w') failure))]
      exact .refused hosted way

end Pool

/-- **Created pools**, at any time in a session over any library, as long as no failure is set up for
the call.  A pool that is returned is one more behind a handle of its own, with the numbers of its
description cut to their fields, and it lies on a device that is there.  Otherwise there is no new
pool and no new resource.  Where all numbers fit their fields, none of them is changed, so that a
description of a place that is not there is refused. -/
theorem created_pools (host : Host) (m : Machine) (l : Library) (ts : List Turn) {p : PoolProps}
    {n : Setting → Int} (described : p.Spells n)
    (quiet : ((World.opening host m l).after ts).machine.injected .poolCreate = 0) :
    let w := (World.opening host m l).after ts
    let ended := (Operation.createPool p.toValue).perform.outcome w
    let i := PoolImage.ofNumbers n
    i.Encodes n ∧
      (∀ v, ended.1 = .ok v → w.machine.Hosts i ∧ ∃ h, v = .handle w.resources.length .pool ∧
        ended.2.resources = w.resources ++ [.owning (.pool (some h) (some p))] ∧
        w.machine.pools.get? h = none ∧ ended.2.machine.pools.get? h = some ⟨i, none⟩) ∧
      (∀ f, ended.1 = .error f → (Loading.Absent w .poolCreate ∨ ¬w.machine.Hosts i) ∧
        ended.2.resources = w.resources ∧ ended.2.machine.pools = w.machine.pools) ∧
      ((∀ f : Setting, f.Fits (n f)) → i.number = n ∧
        (w.machine.Hosts i ↔ n .locationType = 1 ∧ w.machine.Visible (n .locationId))) := by
  intro w ended i
  have orderly : Orderly w := World.orderly_after (orderly_opening host m l) ts
  obtain ⟨l', installed⟩ := Option.isSome_iff_exists.1 orderly.installed
  have unused : w.machine.pools.get? w.machine.nextHandle = none :=
    World.next_pool_unused (orderly_opening host m l) rfl ts
  have ends : Pool.CreateEnd w p i ended.1 ended.2 := Pool.create_ends installed described quiet
  have encodes : i.Encodes n := PoolImage.encodes n
  clear_value ended
  obtain ⟨result, w'⟩ := ended
  refine ⟨encodes, ?_, ?_, ?_⟩
  · intro v returned
    cases ends with
    | missing | refused => cases returned
    | created inside way =>
      cases returned
      refine ⟨inside, w.machine.nextHandle, rfl, way.resources, unused, ?_⟩
      rw [way.machine]
      exact Machine.get?_withPool (m := w.machine.spend _) unused
  · intro f failed
    cases ends with
    | missing absent way =>
      exact ⟨.inl absent, way.resources, by rw [way.machine]⟩
    | refused outside way =>
      refine ⟨.inr outside, way.resources, ?_⟩
      rw [way.machine]
      rfl
    | created => cases failed
  · intro fits
    have same : i.number = n := encodes.exact_iff.2 fits
    have type : i.locationType = n .locationType := congrFun same .locationType
    have place : i.locationId = n .locationId := congrFun same .locationId
    refine ⟨same, ?_⟩
    unfold Machine.Hosts
    rw [type, place]

/-- A pool of four kilobytes on the second device, over a loaded library. -/
theorem created_pools_second :
    let w := World.opening .bare .fresh (.loaded none [])
    let p := { PoolProps.standard with locationId := .truth true, maxSize := .int 4096 }
    let ended := (Operation.createPool p.toValue).perform.outcome w
    ∃ h, ended.2.resources = [.owning (.pool (some h) (some p))] ∧
      ended.2.machine.pools.get? h = some ⟨⟨1, 1, 1, 1, 4096⟩, none⟩ := by
  intro w p ended
  have described : p.Spells (PoolProps.numbers 1 1 1 1 4096) :=
    PoolProps.standard_spells ⟨trivial, rfl⟩ (Value.isWhole_int 4096)
  obtain ⟨-, returned, -⟩ := created_pools .bare .fresh (.loaded none []) [] described rfl
  obtain ⟨-, h, -, resources, -, record⟩ := returned (.handle 0 .pool) rfl
  exact ⟨h, resources, record⟩

/-- There is no device with the number 4294967296, and a pool described for it is made on the first
device. -/
theorem created_pools_elsewhere :
    let w := World.opening .bare .fresh .direct
    let p := { PoolProps.standard with locationId := .int 4294967296 }
    let ended := (Operation.createPool p.toValue).perform.outcome w
    p.Spells (PoolProps.numbers 1 1 1 4294967296 0) ∧ ¬w.machine.Visible 4294967296 ∧
      ended.1 = .ok (.handle 0 .pool) ∧
      ended.2.resources = [.owning (.pool (some 0x7f0000001000) (some p))] ∧
      ended.2.machine.pools = [(0x7f0000001000, ⟨⟨1, 1, 1, 0, 0⟩, none⟩)] := by
  intro w p ended
  have described : p.Spells (PoolProps.numbers 1 1 1 4294967296 0) :=
    PoolProps.standard_spells (Value.isWhole_int 4294967296) (Value.isWhole_int 0)
  exact ⟨described, by decide, rfl, rfl, rfl⟩

end GpuHandles
