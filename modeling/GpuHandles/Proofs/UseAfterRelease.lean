import GpuHandles.Proofs.Session
/-!
What is said of a released resource that is used.

An operation uses the resource it is asked of, and the memory or the stream it is given
(`Operation.uses`).  If one of them has been released, the operation says so and does nothing,
in every world and whatever else it is given.  There is one exception: a copy from memory that
is null fails for that, before its target is looked at (`use_of_released`).
-/

namespace GpuHandles

/-- The resource that a value is a handle of. -/
def Value.resource? : Value → Option Nat
  | .handle id _ => some id
  | _ => none

/-- The memory that a value is a handle of. -/
def Value.memory? : Value → Option Nat
  | .handle id .pointer => some id
  | _ => none

/-- The resources that an operation uses.  The end of a block and the end of the last name are
no uses. -/
def Operation.uses : Operation → List Nat
  | free pointer => pointer.memory?.toList
  | copyTo pointer target _ => pointer :: target.memory?.toList
  | copyFromHost id _ | copyToHost id .. | fill id .. | queryStream id | synchronizeStream id
  | trimPool id _ | readHandle id | readAddress id | release id | enter id => [id]
  | allocateOrdered _ stream => stream.resource?.toList
  | allocateFromPool pool _ stream => pool :: stream.resource?.toList
  | _ => []

/-- The action ends at once with the fault that resource `id` has been released. -/
def Action.Refused {α : Type} (a : Action α) (w : World) (id : Nat) : Prop :=
  a.outcome w = (.error (.released (w.resource id).payload.cls), w)

/-- A copy from memory at no address: of all uses of a released target the one that is not
found out. -/
def Operation.NullCopy (op : Operation) (w : World) (id : Nat) : Prop :=
  ∃ source target kind, op = .copyTo source target kind ∧ target.memory? = some id ∧
    (w.resource source).released = false ∧ (w.resource source).payload.address = none

namespace Action.Refused

variable {α β : Type} {a : Action α} {w : World} {id : Nat}

theorem bind {f : α → Action β} (h : a.Refused w id) : (a >>= f).Refused w id :=
  outcome_bind_error h

theorem silent {a : Action Unit} (h : a.Refused w id) : (Operation.silent a).Refused w id :=
  h.bind

/-- What comes first only reads. -/
theorem after {f : α → Action β} {x : α} (reads : a.outcome w = (.ok x, w))
    (rest : (f x).Refused w id) : (a >>= f).Refused w id := by
  unfold Refused
  rw [outcome_bind_ok reads]
  exact rest

end Action.Refused

namespace Ownership

variable {w : World} {id : Nat}

theorem active_refused (released : (w.resource id).released = true) : (active id).Refused w id := by
  unfold Action.Refused
  rw [active_outcome, if_pos released]

theorem active_going (going : (w.resource id).released = false) :
    (active id).outcome w = (.ok (w.resource id), w) := by
  rw [active_outcome, if_neg (Bool.eq_false_iff.1 going)]

theorem release_refused (released : (w.resource id).released = true) :
    (release id).Refused w id := (active_refused released).bind

end Ownership

namespace Memory

open Ownership

variable {w : World} {id : Nat}

theorem handleOf_refused {stream : Value} (given : stream.resource? = some id)
    (released : (w.resource id).released = true) : (handleOf stream).Refused w id := by
  cases stream with
  | handle k cls =>
    cases given
    exact (active_refused released).bind
  | _ => cases given

theorem addressOf_refused {target : Value} (given : target.memory? = some id)
    (released : (w.resource id).released = true) : (addressOf target).Refused w id := by
  unfold Value.memory? at given
  split at given
  next =>
    cases given
    exact (active_refused released).bind
  next => cases given

theorem free_refused {pointer : Value} (given : pointer.memory? = some id)
    (released : (w.resource id).released = true) : (free pointer).Refused w id := by
  unfold Value.memory? at given
  split at given
  next =>
    cases given
    exact release_refused released
  next => cases given

/-- A copy from memory at no address fails for that, whatever its target is. -/
theorem copyTo_null {target kind : Value} (going : (w.resource id).released = false)
    (null : (w.resource id).payload.address = none) :
    (copyTo id target kind).outcome w = (.error nullCopy, w) := by
  unfold copyTo
  rw [Action.outcome_bind_ok (active_going going), null]
  rfl

/-- A copy from memory at an address looks at its target next. -/
theorem copyTo_refused {source : Nat} {target : Value} (kind : Value)
    (going : (w.resource source).released = false)
    (somewhere : (w.resource source).payload.address ≠ none)
    (given : target.memory? = some id) (released : (w.resource id).released = true) :
    (copyTo source target kind).Refused w id := by
  refine .after (active_going going) ?_
  rw [if_neg (by simpa using somewhere)]
  exact (addressOf_refused given released).bind

/-- An allocation from a pool looks at the pool first, then at the stream. -/
theorem allocateFromPool_refused {pool : Nat} {size stream : Value}
    (going : (w.resource pool).released = false) (given : stream.resource? = some id)
    (released : (w.resource id).released = true) :
    (allocateFromPool pool size stream).Refused w id :=
  .after (active_going going) (handleOf_refused given released).bind

end Memory

namespace Operation

open Ownership Memory

variable {w : World} {id : Nat}

/-- An operation that is asked of a released resource says so. -/
theorem perform_refused {op : Operation} {rest : List Nat} (asked : op.uses = id :: rest)
    (released : (w.resource id).released = true) : op.perform.Refused w id := by
  have active := active_refused released
  cases op with
  | free pointer =>
    refine (free_refused ?_ released).silent
    change pointer.memory?.toList = id :: rest at asked
    cases given : pointer.memory? with
    | none => rw [given] at asked; cases asked
    | some k => rw [given] at asked; cases asked; rfl
  | allocateOrdered size stream =>
    refine (handleOf_refused ?_ released).bind
    change stream.resource?.toList = id :: rest at asked
    cases given : stream.resource? with
    | none => rw [given] at asked; cases asked
    | some k => rw [given] at asked; cases asked; rfl
  | copyTo | copyFromHost | fill | synchronizeStream | trimPool | release | enter =>
    cases asked
    exact active.bind.silent
  | copyToHost | queryStream | readHandle | readAddress | allocateFromPool =>
    cases asked
    exact active.bind
  | _ => cases asked

/-- So does one that is given a released resource, unless it is a copy from nowhere. -/
theorem perform_refused_given {op : Operation} {first : Nat} {rest : List Nat}
    (uses : op.uses = first :: rest) (going : (w.resource first).released = false)
    (given : id ∈ rest) (released : (w.resource id).released = true) :
    op.perform.Refused w id ∨ op.NullCopy w id ∧ op.perform.outcome w = (.error nullCopy, w) := by
  cases op with
  | copyTo source target kind =>
    cases uses
    have target_eq : target.memory? = some id := by simpa [eq_comm] using given
    by_cases null : (w.resource first).payload.address = none
    · refine .inr ⟨⟨first, target, kind, rfl, target_eq, going, null⟩, ?_⟩
      exact Action.outcome_bind_error (copyTo_null going null)
    · exact .inl (copyTo_refused kind going null target_eq released).silent
  | allocateFromPool pool size stream =>
    cases uses
    have stream_eq : stream.resource? = some id := by simpa [eq_comm] using given
    exact .inl (allocateFromPool_refused going stream_eq released)
  | free pointer =>
    change pointer.memory?.toList = first :: rest at uses
    cases memory : pointer.memory? <;> rw [memory] at uses <;> cases uses
    cases given
  | allocateOrdered size stream =>
    change stream.resource?.toList = first :: rest at uses
    cases resource : stream.resource? <;> rw [resource] at uses <;> cases uses
    cases given
  | _ =>
    cases uses
    try cases given

end Operation

/-- **A released resource that is used is reported**, in every world: the operation fails for
the release of one that it uses, and neither calls nor changes anything.  The exception is a
copy from memory at no address to a released target, which fails as a copy from nowhere. -/
theorem use_of_released (w : World) (op : Operation) (id : Nat) (uses : id ∈ op.uses)
    (released : (w.resource id).released = true) :
    (∃ k ∈ op.uses, (w.resource k).released = true ∧ op.perform.Refused w k) ∨
      op.NullCopy w id ∧ op.perform.outcome w = (.error Memory.nullCopy, w) := by
  cases all : op.uses with
  | nil =>
    rw [all] at uses
    cases uses
  | cons first rest =>
    cases going : (w.resource first).released with
    | true => exact .inl ⟨first, .head _, going, op.perform_refused all going⟩
    | false =>
      have given : id ∈ rest := by
        rw [all] at uses
        rcases List.mem_cons.1 uses with rfl | given
        · rw [released] at going
          cases going
        · exact given
      rcases op.perform_refused_given all going given released with refused | null
      · exact .inl ⟨id, .tail _ given, released, refused⟩
      · exact .inr null

/-- Two allocations of the given sizes, of which the second is released. -/
def secondReleased (first second : Int) : List Turn :=
  [.operate (.allocate (.int first)) rfl, .operate (.allocate (.int second)) rfl,
    .operate (.release 1) rfl]

theorem use_of_released_target :
    let w := (World.opening .bare .fresh .direct).after (secondReleased 8 16)
    (Operation.copyTo 0 (.handle 1 .pointer) (.int 3)).perform.outcome w =
      (.error (.released .pointer), w) := by
  intro w
  rcases use_of_released w (.copyTo 0 (.handle 1 .pointer) (.int 3)) 1 (.tail _ (.head _)) rfl
    with ⟨k, used, released, refused⟩ | ⟨⟨source, target, kind, same, _, _, null⟩, _⟩
  · rcases List.mem_cons.1 used with rfl | used
    · exact absurd released (by decide)
    · rw [List.mem_singleton.1 used] at refused
      exact refused
  · cases same
    exact absurd null (by decide)

/-- The first allocation has no bytes and so no address: its copy to the released second one
fails with a status. -/
theorem use_of_released_unreported :
    let w := (World.opening .bare .fresh .direct).after (secondReleased 0 16)
    let op := Operation.copyTo 0 (.handle 1 .pointer) (.int 3)
    1 ∈ op.uses ∧ (w.resource 1).released = true ∧
      ∃ f, (op.perform.outcome w).1 = .error f ∧ f.kind = "HipError" :=
  ⟨.tail _ (.head _), rfl, Memory.nullCopy, rfl, rfl⟩

end GpuHandles
