import GpuHandles.Proofs.Frame
import GpuHandles.Proofs.ReadBack
/-!
Copies and fills that fit.

An operation that moves bytes can be refused for what it is given, or because a failure is set up
for its call.  Where neither is the case it succeeds: the resources are active, so the memory
behind them is there with the bytes of the store, and what is moved is not longer.
-/

namespace GpuHandles

variable {s : Store} {w : World}

theorem Memory.checkFits_ok {n k : Nat} (room : k ≤ n) (what : String) (w : World) :
    (checkFits (.int n) (.int k) what).outcome w = (.ok (), w) := by
  unfold checkFits
  rw [Action.outcome_bind_ok (Action.outcome_get w), Value.above_nat,
    Action.outcome_bind_ok (Action.outcome_ofExcept (.ok (decide (n < k))) w),
    if_neg (by simpa using room)]
  rfl

theorem Value.atMost_of_le {a b : Int} (h : a ≤ b) :
    (Value.int a).compare .atMost (.int b) = .ok true := by
  rw [Value.compare_int]
  rcases Int.lt_or_eq_of_le h with h | rfl
  · simp [Relation.holds, Int.compare_eq_lt.2 h]
  · simp [Relation.holds]

theorem Memory.checkByte_ok {b : Int} (byte : 0 ≤ b ∧ b < 256) (w : World) :
    (checkByte (.int b)).outcome w = (.ok (), w) := by
  have low := Value.atMost_of_le byte.1
  have high := Value.atMost_of_le (show b ≤ 255 by omega)
  unfold checkByte
  rw [Action.outcome_bind_ok (Action.outcome_get w), low,
    Action.outcome_bind_ok (Action.outcome_ofExcept (.ok true) w), if_pos rfl, high]
  rfl

namespace Machine

variable {m : Machine}

theorem call_copyIn_fits {k n : Nat} {buffer : List UInt8} (bs : List UInt8)
    (quiet : m.injected .copy = 0) (there : m.allocations.get? k = some buffer)
    (fits : n ≤ buffer.length) :
    (m.call (.copy (.device (some k)) (.host bs) (.int n) 1)).1 = .code 0 .nothing := by
  rw [call_quiet (c := .copy ..) quiet]
  exact congrArg Prod.fst (copyIn_fits (m := m.spend [.copy]) bs there fits)

theorem call_copyAcross_fits {j k n : Nat} {old new : List UInt8} (quiet : m.injected .copy = 0)
    (target : m.allocations.get? j = some old) (source : m.allocations.get? k = some new)
    (room : n ≤ old.length) (fits : n ≤ new.length) :
    (m.call (.copy (.device (some j)) (.device (some k)) (.int n) 3)).1 = .code 0 .nothing := by
  rw [call_quiet (c := .copy ..) quiet]
  exact congrArg Prod.fst (copyAcross_fits (m := m.spend [.copy]) target source room fits)

theorem byteOf_byte {b : Int} (byte : 0 ≤ b ∧ b < 256) :
    byteOf (.int b) = .ok (UInt8.ofNat b.toNat) := if_pos byte

theorem call_fill_fits {k n : Nat} {b : Int} {buffer : List UInt8} (quiet : m.injected .fill = 0)
    (there : m.allocations.get? k = some buffer) (fits : n ≤ buffer.length)
    (byte : 0 ≤ b ∧ b < 256) :
    (m.call (.fill (some k) (.int b) (.int n))).1 = .code 0 .nothing := by
  rw [call_quiet (c := .fill ..) quiet]
  have filled := fill_fits (m := m.spend [.fill]) (.int b) there fits
  rw [byteOf_byte byte] at filled
  exact congrArg Prod.fst filled

end Machine

namespace Mirrors

/-- A copy from the host to active memory that is large enough. -/
theorem copyFromHost_ok (h : Mirrors s w.resources w.machine.tables)
    (direct : w.library = some .direct) (present : ¬Loading.Absent w .copy)
    (quiet : w.machine.injected .copy = 0) {id : Nat} {source : Value} {r : Resource}
    {host : HostArray} (there : w.resources[id]? = some r) (active : r.released = false)
    (given : HostArray.ofValue source = .ok host) (room : host.byteCount ≤ (s id).length) :
    ((Memory.copyFromHost id source).outcome w).1 = .ok () := by
  unfold Memory.copyFromHost
  rw [Action.outcome_bind_ok (Ownership.active_ok there active), given,
    Action.outcome_bind_ok (Action.outcome_ofExcept (.ok host) w), h.sized id r there,
    Action.outcome_bind_ok (Memory.checkFits_ok room _ w)]
  by_cases empty : host.byteCount = 0
  · rw [if_pos empty]
    rfl
  · rw [if_neg empty]
    have filled : s id ≠ [] := fun none => by
      rw [none] at room
      exact empty (Nat.le_zero.1 room)
    obtain ⟨_, k, address, holds⟩ := h.held id r there active filled
    rw [address]
    obtain ⟨w', ended⟩ := Loading.request_ok direct
      (Machine.call_copyIn_fits host.bytes quiet holds room) present
    rw [Action.outcome_discard]
    show Except.map _ ((Loading.request (.copy _ _ _ 1)).outcome w).1 = _
    rw [ended]
    rfl

/-- A copy of active memory over the start of other memory that is large enough. -/
theorem copyTo_ok (h : Mirrors s w.resources w.machine.tables)
    (direct : w.library = some .direct) (present : ¬Loading.Absent w .copy)
    (quiet : w.machine.injected .copy = 0) {i j : Nat} {r u : Resource}
    (there : w.resources[i]? = some r) (active : r.released = false)
    (there' : w.resources[j]? = some u) (active' : u.released = false) (filled : s i ≠ [])
    (room : (s i).length ≤ (s j).length) :
    ((Memory.copyTo i (.handle j .pointer) (.int 3)).outcome w).1 = .ok () := by
  have filled' : s j ≠ [] := fun none => by
    rw [none] at room
    exact filled (List.eq_nil_of_length_eq_zero (Nat.le_zero.1 room))
  obtain ⟨_, k, address, holds⟩ := h.held i r there active filled
  obtain ⟨_, k', address', holds'⟩ := h.held j u there' active' filled'
  have aimed : (Memory.addressOf (.handle j .pointer)).outcome w =
      (.ok (u, u.payload.address), w) :=
    Action.outcome_bind_ok (Ownership.active_ok there' active')
  have resolved : (Loading.resolve .copy).outcome w = (.ok .direct, w) :=
    (Loading.resolve_direct direct .copy).trans (congrArg (·, w) (if_neg present))
  have kind : (Value.int 3).toWhole = .ok 3 := rfl
  have reply := Machine.call_copyAcross_fits quiet holds' holds room (Nat.le_refl _)
  have invoked := Loading.invoke_outcome (l := .direct)
    (c := .copy (.device (some k')) (.device (some k)) (.int (s i).length) 3) rfl w
  rw [reply] at invoked
  unfold Memory.copyTo
  rw [Action.outcome_bind_ok (Ownership.active_ok there active), address, if_neg (by simp),
    Action.outcome_bind_ok aimed]
  dsimp only
  rw [address', if_neg (by simp), h.sized i r there, h.sized j u there',
    Action.outcome_bind_ok (Memory.checkFits_ok room _ w), Action.outcome_bind_ok resolved, kind,
    Action.outcome_bind_ok (Action.outcome_ofExcept (.ok (3 : Int)) w),
    Action.outcome_bind_ok invoked]
  rfl

/-- A fill of active memory with a byte. -/
theorem fill_ok (h : Mirrors s w.resources w.machine.tables)
    (direct : w.library = some .direct) (present : ¬Loading.Absent w .fill)
    (quiet : w.machine.injected .fill = 0) {id : Nat} {r : Resource} {b : Int}
    (there : w.resources[id]? = some r) (active : r.released = false) (byte : 0 ≤ b ∧ b < 256) :
    ((Memory.fill id (.int b) .null).outcome w).1 = .ok () := by
  have checked := Memory.checkByte_ok byte w
  unfold Memory.fill
  rw [Action.outcome_bind_ok (Ownership.active_ok there active), Action.outcome_bind_ok checked]
  dsimp only
  rw [Action.outcome_bind_ok (Action.outcome_pure _ w), h.sized id r there,
    Action.outcome_bind_ok (Memory.checkFits_ok (Nat.le_refl _) _ w), Value.sameAs_zero,
    Action.outcome_bind_ok (Action.outcome_ofExcept (.ok _) w)]
  by_cases empty : (s id).length = 0
  · rw [if_pos (decide_eq_true empty)]
    rfl
  · rw [if_neg (by simpa using empty)]
    have filled : s id ≠ [] := fun none => empty (by rw [none]; rfl)
    obtain ⟨_, k, address, holds⟩ := h.held id r there active filled
    rw [address]
    obtain ⟨w', ended⟩ := Loading.request_ok direct
      (Machine.call_fill_fits quiet holds (Nat.le_refl _) byte) present
    rw [Action.outcome_discard, ended]
    rfl

end Mirrors
end GpuHandles
