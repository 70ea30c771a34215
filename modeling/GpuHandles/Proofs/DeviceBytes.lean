import GpuHandles.Proofs.AllocationSize
import GpuHandles.Proofs.Fitting
import GpuHandles.Proofs.StatusCodes
import GpuHandles.Proofs.Twin
import GpuHandles.Proofs.Views
/-!
Device bytes as a copy moves them.

The bytes behind an allocation are a matter of the tables alone (`World.memory`).  A copy to the
host that has an array to fill ends in one of four ways (`ReadEnd`), whatever the library is, and
none of them touches a table; where it fills the array, the array has the first bytes of the
allocation.  A copy of these bytes back to the device changes nothing (`Machine.get?_writeBack`).
-/

namespace GpuHandles

/-- The bytes behind an address: none behind null. -/
def Machine.behind (m : Machine) (a : Address) : List UInt8 := (at? m.allocations a).getD []

/-- The bytes behind an allocation. -/
def World.memory (w : World) (id : Nat) : List UInt8 :=
  w.machine.behind (w.resource id).payload.address

theorem World.memory_of_getElem? {w : World} {id : Nat} {r : Resource}
    (there : w.resources[id]? = some r) : w.memory id = w.machine.behind r.payload.address := by
  unfold memory
  rw [resource_of_getElem? there]

namespace Memory

/-- The call for the first `n` bytes behind an address. -/
def readCall (a : Address) (n : Nat) : NativeCall :=
  .copy (.host []) (.device a) (.int n) deviceToHost

/-- The call that puts the bytes of an array behind an address. -/
def writeCall (a : Address) (host : HostArray) : NativeCall :=
  .copy (.device a) (.host host.bytes) (.int host.byteCount) hostToDevice

end Memory

/-! ## In the machine -/

namespace Machine

open Memory (readCall writeCall)

variable {m m' : Machine}

theorem behind_congr (same : m'.tables = m.tables) : m'.behind = m.behind := by
  funext a
  show (at? m'.tables.bytes a).getD [] = _
  rw [same]
  rfl

theorem behind_some {k : Nat} {buffer : List UInt8} (there : m.allocations.get? k = some buffer) :
    m.behind (some k) = buffer := by
  simp [behind, at?, there]

theorem copyOut_eq (m : Machine) (a : Address) {n : Nat} (some_bytes : n ≠ 0) :
    m.copyOut a (.int n) =
      if n ≤ (m.behind a).length then m.answer (.bytes ((m.behind a).take n))
      else m.refuse .invalidValue := by
  unfold copyOut behind
  cases at? m.allocations a with
  | none => exact (if_neg (mt Nat.le_zero.1 some_bytes)).symm
  | some buffer =>
    dsimp only [Option.getD_some]
    rw [after_holds, endOf_nat]
    rfl

/-- A copy to the host changes no table.  It gives the first bytes, or it fails with the code that
was set up for it, or because there are not as many bytes. -/
theorem read_reply (m : Machine) (a : Address) {n : Nat} (some_bytes : n ≠ 0) :
    (m.call (readCall a n)).2.tables = m.tables ∧
      (n ≤ (m.behind a).length ∧
          (m.call (readCall a n)).1 = .code 0 (.bytes ((m.behind a).take n)) ∨
        ∃ code, code ≠ 0 ∧ (code = m.injected .copy ∨
            code = Status.Kind.invalidValue.code ∧ (m.behind a).length < n) ∧
          (m.call (readCall a n)).1 = .code code .nothing) := by
  by_cases quiet : m.injected .copy = 0
  · have run : m.call (readCall a n) = (m.spend [.copy]).copyOut a (.int n) := by
      rw [call_quiet (c := readCall a n) quiet]
      show (m.spend [.copy]).copy (.host []) (.device a) (.int n) 2 = _
      unfold copy
      rw [Value.below_zero]
      rfl
    rw [run, copyOut_eq _ a some_bytes, show (m.spend [.copy]).behind a = m.behind a from rfl]
    by_cases fits : n ≤ (m.behind a).length
    · rw [if_pos fits]
      exact ⟨rfl, .inl ⟨fits, rfl⟩⟩
    · rw [if_neg fits]
      exact ⟨rfl, .inr ⟨_, by decide, .inr ⟨rfl, Nat.not_le.1 fits⟩, rfl⟩⟩
  · rw [call_failing (c := readCall a n) quiet]
    exact ⟨rfl, .inr ⟨_, quiet, .inl rfl, rfl⟩⟩

namespace Overwrites

variable {a : Address} {bs : List UInt8}

theorem get?_eq (h : m.Overwrites m' a bs) (key : Nat) :
    m'.allocations.get? key = if a = some key then (m.allocations.get? key).map (overwrite · bs)
      else m.allocations.get? key := by
  obtain ⟨k, buffer, rfl, there, -, tables⟩ := h
  have bytes : m'.allocations = m.allocations.set k (overwrite buffer bs) :=
    congrArg Tables.bytes tables
  rw [bytes, Table.get?_set]
  by_cases same : k = key
  · subst same
    rw [if_pos rfl, if_pos rfl, there]
    rfl
  · rw [if_neg same, if_neg fun h => same (Option.some.inj h)]

theorem others (h : m.Overwrites m' a bs) {key : Nat} (other : a ≠ some key) :
    m'.allocations.get? key = m.allocations.get? key := by
  rw [h.get?_eq, if_neg other]

/-- Bytes that overwrite others are in front of what is left of these. -/
theorem behind (h : m.Overwrites m' a bs) :
    m'.behind a = bs ++ (m.behind a).drop bs.length := by
  obtain ⟨k, buffer, rfl, there, -⟩ := id h
  have now := h.get?_eq k
  rw [if_pos rfl, there] at now
  rw [behind_some now, behind_some there]
  rfl

theorem backs (h : m.Overwrites m' a bs) {n : Nat} (live : m.Backs a n) : m'.Backs a n := by
  obtain ⟨k, buffer, rfl, there, fits⟩ := live
  have now := h.get?_eq k
  rw [if_pos rfl, there] at now
  refine ⟨k, _, rfl, now, Nat.le_trans fits ?_⟩
  show buffer.length ≤ (bs ++ buffer.drop bs.length).length
  rw [List.length_append, List.length_drop]
  omega

end Overwrites

theorem overwrite_take (buffer : List UInt8) (n : Nat) :
    overwrite buffer (buffer.take n) = buffer := by
  unfold overwrite
  rcases Nat.le_total n buffer.length with short | long
  · rw [List.length_take, Nat.min_eq_left short, List.take_append_drop]
  · rw [List.take_of_length_le long, List.drop_length, List.append_nil]

/-- The first bytes of an allocation written over themselves. -/
theorem get?_writeBack (m : Machine) (a : Address) (n key : Nat) :
    (m.call (.copy (.device a) (.host ((m.behind a).take n)) (.int n) 1)).2.allocations.get? key =
      m.allocations.get? key := by
  generalize run : NativeCall.copy (.device a) (.host ((m.behind a).take n)) (.int n) 1 = c
  by_cases success : ∃ out, (m.call c).1 = .code 0 out
  · obtain ⟨out, success⟩ := success
    subst run
    have wrote := call_copyIn success
    rw [wrote.get?_eq, List.take_take, Nat.min_self]
    split
    next same =>
      subst same
      cases there : m.allocations.get? key with
      | none => rfl
      | some buffer => rw [behind_some there, Option.map_some, overwrite_take]
    next => rfl
  · have same := (call_change m c).bytes_of_failure fun out reply => success ⟨out, reply⟩
    exact congrArg (Table.get? · key) same

end Machine

/-! ## Arrays that are filled -/

/-- An array once it holds these bytes: it is of the same type and along the same axes, as free to
be written, and known by the number it was known by, if it was. -/
structure HostArray.Filled (b a : HostArray) (bs : List UInt8) : Prop where
  type : b.type = a.type
  shape : b.shape = a.shape
  writable : b.writable = a.writable
  identity : a.identity ≠ 0 → b.identity = a.identity
  laid : b.Laid
  bytes : b.bytes = bs

namespace HostArray.Filled

variable {a b : HostArray} {bs : List UInt8}

theorem count (h : b.Filled a bs) : b.byteCount = a.byteCount := by
  unfold byteCount HostArray.count
  rw [h.type, h.shape]

theorem numbered (w : World) (fits : bs.length = a.byteCount) :
    (Memory.numbered w (a.withBytes bs)).Filled a bs := by
  have laid : (a.withBytes bs).Laid := laid_ofBytes a.type a.shape bs
  unfold Memory.numbered
  split
  next unknown =>
    exact ⟨rfl, rfl, rfl, fun known => absurd unknown known, laid, withBytes_bytes fits⟩
  next => exact ⟨rfl, rfl, rfl, fun _ => rfl, laid, withBytes_bytes fits⟩

end HostArray.Filled

/-! ## Copies with the host -/

/-- A library that takes the size of a copy over as it is, and gives its code back as it is: the
size is one of 64 bits, and a code that was set up is an `int`. -/
def Library.Carries (l : Library) (w : World) (n : Nat) : Prop :=
  l = .direct ∨ n < 2 ^ 64 ∧ Width.InInt (w.machine.injected .copy)

/-- A copy with the host arrives as it is. -/
theorem Library.Carries.arriving {l : Library} {w : World} {n : Nat} (h : l.Carries w n)
    (target source : Place) {kind : Int} (known : 0 ≤ kind ∧ kind < 2 ^ 31) :
    Loading.arriving l (.copy target source (.int n) kind) =
      .ok (.copy target source (.int n) kind) := by
  rcases h with rfl | ⟨small, -⟩
  · rfl
  · have passed : l.passed n = n :=
      (l.passed_eq_iff (Int.natCast_nonneg n)).2 (.inr (by exact_mod_cast small))
    cases l with
    | direct => rfl
    | loaded =>
      have passed : NativeCall.size n = n := passed
      have same : Width.int32 kind = kind := Width.signed_eq_self (by omega) (by omega)
      show Except.ok (NativeCall.copy _ _ (.int (NativeCall.size n)) (Width.int32 kind)) = _
      rw [same, passed]

theorem Library.Carries.returning {l : Library} {w : World} {n : Nat} (h : l.Carries w n)
    {code : Int} (known : code = w.machine.injected .copy ∨ code = Status.Kind.invalidValue.code) :
    Loading.returning l code = code := by
  rcases h with rfl | ⟨-, fits⟩
  · rfl
  · rcases known with rfl | rfl
    · exact Loading.returning_of_fits l fits.1 fits.2
    · exact Loading.returning_of_fits l (by decide) (by decide)

/-- The next call of an entry point goes through: it is there, and no failure is set up. -/
structure World.Prompt (w : World) (e : EntryPoint) : Prop where
  present : ¬Loading.Absent w e
  quiet : w.machine.injected e = 0

namespace Memory

variable {w : World} {l : Library} {id n : Nat} {r : Resource} {type out : Value} {a : HostArray}

/-- The fault of bytes that an allocation has no room for. -/
def exceeds (what : String) (bytes size : Nat) : Fault :=
  tooMany what (Text.written? bytes) (Text.written? size)

/-- The failure says how many bytes there are of both, if that can be written. -/
theorem exceeds_cases (what : String) (k n : Nat) :
    (∃ words, exceeds what k n = .ofKind .invalidValue words) ∨
      (Text.isWritable k && Text.isWritable n) = false ∧ exceeds what k n = .longNumber := by
  unfold exceeds tooMany Text.written?
  cases Text.isWritable k with
  | false => exact .inr ⟨rfl, rfl⟩
  | true =>
    cases Text.isWritable n with
    | false => exact .inr ⟨rfl, rfl⟩
    | true => exact .inl ⟨_, rfl⟩

theorem checkFits_eq (n k : Nat) (what : String) (w : World) :
    (checkFits (.int n) (.int k) what).outcome w =
      (if n < k then .error (exceeds what k n) else .ok (), w) := by
  unfold checkFits
  rw [Action.outcome_bind_ok (Action.outcome_get w), Value.above_nat,
    Action.outcome_bind_ok (Action.outcome_ofExcept (.ok (decide (n < k))) w)]
  by_cases long : n < k
  · rw [if_pos (decide_eq_true long), if_pos long]
    rfl
  · rw [if_neg (by simpa using long), if_neg long]
    rfl

/-- How a copy to the host ends that has an array to fill: its entry point is missing, or there is
the one native call `c`, and the code of that decides. -/
inductive ReadEnd (w : World) (id : Nat) (c : NativeCall) (a : HostArray) :
    Except Fault Value → World → Prop
  | missing {w' : World} (absent : Loading.Absent w .copy)
      (way : Passage w w' w.machine w.resources []) :
      ReadEnd w id c a (.error (.undefinedSymbol EntryPoint.copy.name)) w'
  | failed {code : Int} {w' : World} (failure : code ≠ 0)
      (cause : code = w.machine.injected .copy ∨
        code = Status.Kind.invalidValue.code ∧ (w.memory id).length < a.byteCount)
      (way : Passage w w' (w.machine.call c).2 w.resources [(c, code)])
      (still : w'.machine.tables = w.machine.tables) :
      ReadEnd w id c a (.error (.ofCode code)) w'
  | filled {b : HostArray} {w' : World} (room : a.byteCount ≤ (w.memory id).length)
      (full : b.Filled a ((w.memory id).take a.byteCount))
      (way : Passage w w' (w.machine.call c).2 w.resources [(c, 0)])
      (still : w'.machine.tables = w.machine.tables) :
      ReadEnd w id c a (.ok (.array b)) w'

namespace ReadEnd

variable {w' : World} {c : NativeCall} {result : Except Fault Value} {f : Fault}

/-- Only the library and the machine refuse, and neither does with a fault of values, unless it is
the refusal to write the code of the machine. -/
theorem kind_of_error (h : ReadEnd w id c a (.error f) w') :
    f.kind = "AttributeError" ∨ f.kind = "HipError" ∨
      Text.isWritable (w.machine.injected .copy) = false ∧ f = .longNumber := by
  cases h with
  | missing => exact .inl rfl
  | @failed code _ failure cause =>
    obtain ⟨g, gave, -⟩ | ⟨unwritable, gave⟩ := Fault.ofCode_cases code
    · rw [gave]
      exact .inr (.inl rfl)
    · rcases cause with rfl | ⟨rfl, -⟩
      · exact .inr (.inr ⟨unwritable, gave⟩)
      · cases unwritable

/-- A `ValueError` is the refusal to write the code of the machine. -/
theorem of_valueError (h : ReadEnd w id c a (.error f) w') (kind : f.kind = "ValueError") :
    f = .longNumber ∧ Text.isWritable (w.machine.injected .copy) = false := by
  rcases h.kind_of_error with other | other | ⟨unwritable, gave⟩
  · exact absurd (other.symm.trans kind) (by decide)
  · exact absurd (other.symm.trans kind) (by decide)
  · exact ⟨gave, unwritable⟩

theorem resources (h : ReadEnd w id c a result w') :
    w'.resources = w.resources := by
  cases h with
  | missing _ way => exact way.resources
  | failed _ _ way => exact way.resources
  | filled _ _ way => exact way.resources

/-- What goes through fills an array that there are enough bytes for. -/
theorem filled_of (h : ReadEnd w id c a result w')
    (prompt : w.Prompt .copy) (room : a.byteCount ≤ (w.memory id).length) :
    ∃ b, result = .ok (.array b) ∧ b.Filled a ((w.memory id).take a.byteCount) := by
  cases h with
  | missing absent => exact absurd absent prompt.present
  | failed failure cause =>
    rcases cause with set | ⟨-, short⟩
    · exact absurd (set.trans prompt.quiet) failure
    · omega
  | filled _ full => exact ⟨_, rfl, full⟩

end ReadEnd

/-- A copy to the host that has nothing to fill is refused. -/
theorem copyToHost_refused {f : Fault} (there : w.resources[id]? = some r)
    (active : r.released = false) (target : (targetArray r type out).outcome w = (.error f, w)) :
    (copyToHost id type out).outcome w = (.error f, w) := by
  unfold copyToHost
  rw [Action.outcome_bind_ok (Ownership.active_ok there active), Action.outcome_bind_error target]

/-- A copy to the host that has no element to fill asks nobody. -/
theorem copyToHost_empty (there : w.resources[id]? = some r) (active : r.released = false)
    (target : (targetArray r type out).outcome w = (.ok a, w)) (empty : a.byteCount = 0) :
    (copyToHost id type out).outcome w = (.ok (.array a), w) := by
  unfold copyToHost
  rw [Action.outcome_bind_ok (Ownership.active_ok there active), Action.outcome_bind_ok target,
    if_pos empty]
  rfl

theorem copyToHost_ends (installed : w.library = some l) (there : w.resources[id]? = some r)
    (active : r.released = false) (target : (targetArray r type out).outcome w = (.ok a, w))
    (some_bytes : a.byteCount ≠ 0) (carries : l.Carries w a.byteCount) :
    ReadEnd w id (readCall r.payload.address a.byteCount) a
      ((copyToHost id type out).outcome w).1 ((copyToHost id type out).outcome w).2 := by
  have arrived : Loading.arriving l (readCall r.payload.address a.byteCount) = .ok (readCall _ _) :=
    carries.arriving (.host []) (.device r.payload.address) (by decide)
  obtain ⟨still, reply⟩ := w.machine.read_reply r.payload.address some_bytes
  rw [← World.memory_of_getElem? there] at reply
  unfold copyToHost
  rw [Action.outcome_bind_ok (Ownership.active_ok there active), Action.outcome_bind_ok target,
    if_neg some_bytes]
  show ReadEnd w id _ a ((Loading.request (readCall _ _) >>= _).outcome w).1
    ((Loading.request (readCall _ _) >>= _).outcome w).2
  obtain ⟨absent, w', way, ended⟩ | ⟨w', way, ended⟩ := Loading.request_arriving installed arrived
  · rw [Action.outcome_bind_error ended]
    exact .missing absent way
  · have still : w'.machine.tables = w.machine.tables := way.machine ▸ still
    obtain ⟨room, success⟩ | ⟨code, failure, cause, failed⟩ := reply
    · rw [success] at ended way
      have zero : Loading.returning l 0 = 0 := by cases l <;> rfl
      rw [Loading.checked, if_pos zero] at ended
      rw [Action.outcome_bind_ok ended]
      exact .filled room (.numbered w' (by rw [List.length_take]; omega)) way still
    · rw [failed] at ended way
      have told := carries.returning (cause.imp_right And.left)
      rw [Loading.checked, told, if_neg failure] at ended
      rw [Action.outcome_bind_error ended]
      exact .failed failure cause way still

/-- A copy from the host of an array that fits. -/
theorem copyFromHost_fits {source : Value} {host : HostArray} (there : w.resources[id]? = some r)
    (active : r.released = false) (size : r.payload.size = .int n)
    (given : HostArray.ofValue source = .ok host) (room : host.byteCount ≤ n) :
    (copyFromHost id source).outcome w =
      if host.byteCount = 0 then (.ok (), w)
      else (discard (Loading.request (writeCall r.payload.address host))).outcome w := by
  unfold copyFromHost
  rw [Action.outcome_bind_ok (Ownership.active_ok there active), given,
    Action.outcome_bind_ok (Action.outcome_ofExcept (.ok host) w), size,
    Action.outcome_bind_ok (checkFits_ok room _ w)]
  split <;> rfl

end Memory

/-! ## Memory that is there -/

/-- Memory that may be used: a resource of `n` bytes that is not released, and for which the
machine has as many.  No bytes at all need nothing behind them. -/
structure World.Backed (w : World) (id n : Nat) (r : Resource) : Prop where
  there : w.resources[id]? = some r
  active : r.released = false
  size : r.payload.size = .int n
  live : n = 0 ∨ w.machine.Backs r.payload.address n

theorem World.Backed.length_memory {w : World} {id n : Nat} {r : Resource} (h : w.Backed id n r) :
    n ≤ (w.memory id).length := by
  obtain none | ⟨k, buffer, address, holds, fits⟩ := h.live
  · omega
  · rw [World.memory_of_getElem? h.there, address, Machine.behind_some holds]
    exact fits

namespace Mirrors

variable {s : Store} {w : World} {id : Nat} {r : Resource}

theorem backed (h : Mirrors s w.resources w.machine.tables) (there : w.resources[id]? = some r)
    (active : r.released = false) : w.Backed id (s id).length r where
  there := there
  active := active
  size := h.sized id r there
  live := by
    by_cases empty : s id = []
    · exact .inl (by rw [empty]; rfl)
    · obtain ⟨_, k, address, holds⟩ := h.held id r there active empty
      exact .inr ⟨k, _, address, holds, Nat.le_refl _⟩

end Mirrors

end GpuHandles
