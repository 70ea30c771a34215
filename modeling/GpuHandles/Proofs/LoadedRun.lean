import GpuHandles.Proofs.Session
import GpuHandles.Proofs.Transfer
import GpuHandles.Proofs.Twin
/-!
A loaded library does what the machine itself does.

Every operation, given numbers that fit the parameters they go to (`Operation.Fits`), ends in
twins alike (`Operation.perform_twinned`).  So does a whole run, in which operations take turns
with failures set up in between and with foreign handles that are wrapped (`loaded_run`): same
results, same log, same calls, same resources, and machines that differ in nothing but the names
of numbers.
-/

namespace GpuHandles

open Width (InInt InUnsigned InSize)

/-! ## What an operation is given -/

/-- A question whose code fits its parameter. -/
def DeviceQuestion.Fits : DeviceQuestion → Prop
  | attributeValue code => ∀ n, code.toWhole = .ok n → InInt n
  | _ => True

/-- A size that a `size_t` holds, if it is one at all. -/
def Value.SizeFits (size : Value) : Prop := ∀ n, Memory.validSize size = .ok n → n < 2 ^ 64

/-- The number of a device, by itself or as a device, that an `int` holds. -/
def Value.DeviceFits (device : Value) : Prop :=
  ∀ v, Pool.deviceId device = .ok v → v.Within InInt

/-- An operation whose whole numbers fit the parameters of the calls that they go to; what it
refuses by itself goes to none.  A handle that is wrapped has to be an address. -/
def Operation.Fits : Operation → Prop
  | selectDevice device | defaultPool device => device.DeviceFits
  | ask device question => device.Within InInt ∧ question.Fits
  | deviceOfBusId text => ∀ bs, Device.busIdBytes text = .ok bs → 0 ∉ bs
  | peerAttribute code source target =>
    (∀ n, code.toWhole = .ok n → InInt n) ∧ source.DeviceFits ∧ target.DeviceFits
  | allocate size | allocateOrdered size _ | allocateFromPool _ size _ => size.SizeFits
  | allocateFlagged size flags => size.SizeFits ∧ ∀ n, flags.toWhole = .ok n → InUnsigned n
  | copyTo _ _ kind => ∀ n, kind.toWhole = .ok n → InInt n
  | fill _ value size => value.Within InInt ∧ size.SizeFits
  | trimPool _ keep => keep.Within (· < 2 ^ 64)
  | wrap payload _ => payload.Native
  | _ => True

/-! ## Operations in twins -/

namespace Value

variable {v : Value} {n k : Int}

/-- What is not more than a size is at most its number. -/
theorem le_of_not_above (whole : v.bare = .int n)
    (h : (Value.int k).compare .above v = .ok false) : k ≤ n := by
  rw [← compare_of_bare, whole, compare_int] at h
  have order : ¬Ord.compare k n = .gt := by simpa [Relation.holds] using h
  rw [Int.compare_eq_gt] at order
  exact Int.not_lt.1 order

/-- What is not below zero is a count. -/
theorem nonneg_of_not_below (whole : v.bare = .int n)
    (h : v.compare .below (.int 0) = .ok false) : 0 ≤ n := by
  rw [← compare_bare, whole, compare_int] at h
  have order : ¬Ord.compare n 0 = .lt := by simpa [Relation.holds] using h
  rw [Int.compare_eq_lt] at order
  exact Int.not_lt.1 order

theorem SizeFits.inSize {size : Value} (fits : size.SizeFits)
    (valid : Memory.validSize size = .ok n) : InSize n :=
  ⟨(Memory.validSize_index valid).2, fits n valid⟩

end Value

open GpuHandles.Action (Twinned)

namespace Memory

theorem allocateBy_twinned {call : Int → NativeCall} {size : Value} (inside : size.SizeFits)
    (fits : ∀ n, InSize n → (call n).Fits) :
    Twinned (allocateBy call size) (allocateBy call size) := by
  refine .computing fun n valid => ?_
  have room : InSize n := inside.inSize valid
  exact .making (fits n room) fun _ => ⟨⟨_, rfl⟩, n, rfl, room⟩

/-- The handle of a stream, or of something else that has one, is an address. -/
theorem handleOf_twinned {β : Type} {f g : Value → Action β} (stream : Value)
    (rest : ∀ a, Twinned (f (.address a)) (g (.address a))) :
    Twinned (handleOf stream >>= f) (handleOf stream >>= g) := by
  unfold handleOf
  split
  · rw [bind_assoc, bind_assoc]
    refine .active _ fun r native => ?_
    rw [pure_bind, pure_bind]
    obtain ⟨a, address⟩ := native.1
    rw [address]
    exact rest a
  · refine .computing fun x missing => ?_
    cases missing

theorem allocateOrdered_twinned {size : Value} (stream : Value) (inside : size.SizeFits) :
    Twinned (allocateOrdered size stream) (allocateOrdered size stream) :=
  handleOf_twinned stream fun a => allocateBy_twinned inside fun _ room => ⟨room, a, rfl⟩

theorem allocateFromPool_twinned (pool : Nat) {size : Value} (stream : Value)
    (inside : size.SizeFits) :
    Twinned (allocateFromPool pool size stream) (allocateFromPool pool size stream) :=
  .active pool fun _ _ => handleOf_twinned stream fun a =>
    allocateBy_twinned inside fun _ room => ⟨room, a, rfl⟩

/-- The rest after a check of sizes may rest on what was checked. -/
theorem checkFits_twinned {β : Type} {f g : Unit → Action β} {size bytes : Value} (what : String)
    (rest : bytes.compare .above size = .ok false → Twinned (f ()) (g ())) :
    Twinned (checkFits size bytes what >>= f) (checkFits size bytes what >>= g) := by
  unfold checkFits
  rw [bind_assoc, bind_assoc]
  refine .get fun w v _ same => ?_
  rw [World.name_congr same, bind_assoc, bind_assoc]
  refine .computing fun above compared => ?_
  cases above with
  | true => exact .throw _
  | false => exact rest compared

theorem addressOf_twinned {β : Type} {f g : Resource × Address → Action β} (target : Value)
    (rest : ∀ p, Twinned (f p) (g p)) :
    Twinned (addressOf target >>= f) (addressOf target >>= g) := by
  unfold addressOf
  split
  · rw [bind_assoc, bind_assoc]
    refine .active _ fun r _ => ?_
    rw [pure_bind, pure_bind]
    exact rest _
  · exact .computing fun p _ => rest p

theorem copyTo_twinned (id : Nat) (target : Value) {kind : Value}
    (fits : ∀ n, kind.toWhole = .ok n → InInt n) :
    Twinned (copyTo id target kind) (copyTo id target kind) := by
  refine .active id fun source native => ?_
  split
  · exact .throw _
  · refine addressOf_twinned target fun (destination, address) => ?_
    dsimp only
    split
    · exact .throw _
    · refine checkFits_twinned _ fun _ => ?_
      refine .resolve _ fun path found => .computing fun k known => ?_
      refine Twinned.bind (.invoke ?_ path found) fun (code, _) => .check code
      exact ⟨native.2, fits k known⟩

theorem copyFromHost_twinned (id : Nat) (source : Value) :
    Twinned (copyFromHost id source) (copyFromHost id source) := by
  refine .active id fun r native => .computing fun host _ => ?_
  obtain ⟨n, whole, lo, hi⟩ := native.2
  refine checkFits_twinned _ fun compared => ?_
  have room := Value.le_of_not_above whole compared
  split
  · exact .pure ()
  · refine Twinned.discard (.request ?_)
    exact ⟨⟨host.byteCount, rfl, by omega, by omega⟩, by decide⟩

theorem targetArray_twinned {β : Type} {f g : HostArray → Action β} {r : Resource}
    (native : r.payload.Native) (type out : Value)
    (rest : ∀ a, InSize a.byteCount → Twinned (f a) (g a)) :
    Twinned (targetArray r type out >>= f) (targetArray r type out >>= g) := by
  obtain ⟨n, whole, lo, hi⟩ := native.2
  unfold targetArray
  split
  · rw [bind_assoc, bind_assoc]
    refine .get fun w v _ same => ?_
    rw [World.name_congr same, bind_assoc, bind_assoc]
    refine .computing fun t _ => .computing fun a made => rest a ?_
    -- a new array takes the bytes of the whole allocation
    unfold arrayFor at made
    rw [Value.index?_of_bare whole] at made
    obtain ⟨k, rfl⟩ := Int.eq_ofNat_of_zero_le lo
    have bytes := (arrayOfWhole_ok made).2
    exact ⟨by omega, by omega⟩
  next a =>
    split
    · exact .throw _
    · rw [bind_assoc, bind_assoc]
      refine checkFits_twinned _ fun compared => ?_
      have room := Value.le_of_not_above whole compared
      exact rest a ⟨by omega, by omega⟩
  · exact .throw _
  · exact .computing fun a missing => by cases missing

end Memory

/-- A result without the number that tells an array from others with the same elements. -/
def Value.unnumbered : Value → Value
  | .array a => .array { a with identity := 0 }
  | v => v

namespace Memory

theorem unnumbered_numbered (w v : World) (a : HostArray) :
    (Value.array (numbered w a)).unnumbered = (Value.array (numbered v a)).unnumbered := by
  unfold numbered
  split <;> rfl

/-- A new array takes its number from the trace, which is longer in one of the twins: this is
where the results of twins differ, and only by that number. -/
theorem copyToHost_twinned (id : Nat) (type out : Value) :
    Twinned (Value.unnumbered <$> copyToHost id type out)
      (Value.unnumbered <$> copyToHost id type out) := by
  unfold copyToHost
  rw [map_bind]
  refine .active id fun r native => ?_
  rw [map_bind]
  refine targetArray_twinned native type out fun a room => ?_
  split
  · exact .map _ (.pure _)
  · rw [map_bind]
    refine Twinned.bind (.request ?_) fun reply => ?_
    · exact ⟨⟨a.byteCount, rfl, room⟩, by decide⟩
    · split
      · rw [map_bind]
        refine .get fun w v _ _ => ?_
        rw [map_pure, map_pure, unnumbered_numbered w v]
        exact .pure _
      · exact .map _ (.pure _)

theorem checkByte_twinned (v : Value) : Twinned (checkByte v) (checkByte v) := by
  refine .get fun w w' _ same => ?_
  rw [World.name_congr same]
  refine Twinned.bind (.compute _) fun enough => ?_
  have bounded : Twinned
      (if enough then Action.ofExcept (v.compare .atMost (.int 255)) else pure false)
      (if enough then Action.ofExcept (v.compare .atMost (.int 255)) else pure false) := by
    split
    · exact .compute _
    · exact .pure _
  refine bounded.bind fun fits => ?_
  split
  · exact .pure _
  · exact .throw _

theorem fillTo_twinned (r : Resource) {value n : Value} (byte : value.Within InInt)
    (inside : n.Within InSize) : Twinned (fillTo r value n) (fillTo r value n) := by
  refine checkFits_twinned _ fun _ => Twinned.bind (.compute _) fun empty => ?_
  split
  · exact .pure _
  · exact Twinned.discard (.request ⟨byte, inside⟩)

theorem fill_twinned (id : Nat) {value size : Value} (byte : value.Within InInt)
    (inside : size.SizeFits) : Twinned (fill id value size) (fill id value size) := by
  refine .active id fun r native => (checkByte_twinned value).bind fun _ => ?_
  split
  · rw [pure_bind]
    exact fillTo_twinned r byte native.2
  · rw [bind_map_left]
    refine .computing fun n valid => ?_
    exact fillTo_twinned r byte ⟨n, rfl, inside.inSize valid⟩

theorem info_twinned : Twinned info info := by
  refine Twinned.bind (.request trivial) fun out => ?_
  dsimp only
  split <;> exact .pure _

end Memory

namespace Pool

theorem defaultOf_twinned {device : Value} (fits : device.Within InInt) :
    Twinned (defaultOf device) (defaultOf device) := by
  refine Twinned.bind (.request fits) fun out => ?_
  exact .constructed ⟨⟨_, rfl⟩, 0, rfl, by decide⟩

theorem create_twinned (props : Value) : Twinned (create props) (create props) := by
  refine .get fun w v _ same => ?_
  have described : description v props = description w props := by
    unfold description
    rw [World.countsAsTrue_congr same]
  rw [described]
  refine Twinned.bind (.compute _) fun p => Twinned.bind (.compute _) fun image => ?_
  exact .making trivial fun _ => ⟨⟨_, rfl⟩, 0, rfl, by decide⟩

theorem trim_twinned (id : Nat) {keep : Value} (fits : keep.Within (· < 2 ^ 64)) :
    Twinned (trim id keep) (trim id keep) := by
  refine .active id fun r _ => .get fun w v _ same => ?_
  rw [World.name_congr same]
  refine .computing fun negative compared => ?_
  cases negative with
  | true => exact .throw _
  | false =>
    obtain ⟨n, whole, hi⟩ := fits
    refine Twinned.discard (.request ?_)
    exact ⟨n, whole, Value.nonneg_of_not_below whole compared, hi⟩

end Pool

namespace Device

theorem count_twinned : Twinned count count := Twinned.bind (.request trivial) fun _ => .pure _

theorem select_twinned {device : Value} (fits : device.DeviceFits) :
    Twinned (select device) (select device) := by
  refine .computing fun id known => count_twinned.bind fun n => ?_
  refine Twinned.bind (.compute _) fun inside => ?_
  split
  · refine Twinned.bind (.discard (.request (fits id known))) fun _ => ?_
    exact Twinned.bind (.write _ _ _) fun _ => .pure _
  · refine .get fun w v _ same => ?_
    rw [World.name_congr same]
    exact .throw _

theorem computeCapability_twinned {device : Value} (fits : device.Within InInt) :
    Twinned (computeCapability device) (computeCapability device) := by
  refine Twinned.bind (.request fits) fun out => ?_
  dsimp only
  split <;> exact .pure _

theorem busId_twinned {device : Value} (fits : device.Within InInt) :
    Twinned (busId device) (busId device) := by
  refine Twinned.bind (.request ⟨by decide, fits⟩) fun out => ?_
  split
  · exact .pure _
  · exact .throw _

theorem attributeValue_twinned {device code : Value} (fits : device.Within InInt)
    (small : ∀ n, code.toWhole = .ok n → InInt n) :
    Twinned (attributeValue device code) (attributeValue device code) := by
  refine .resolve _ fun path found => .computing fun n known => ?_
  refine Twinned.bind (.invoke ?_ path found) fun (code, _) => ?_
  · exact ⟨small n known, fits⟩
  · exact Twinned.bind (.check code) fun _ => .pure _

theorem ofBusId_twinned {text : Value} (fits : ∀ bs, busIdBytes text = .ok bs → 0 ∉ bs) :
    Twinned (ofBusId text) (ofBusId text) := by
  refine .resolve _ fun path found => .computing fun bs known => ?_
  refine Twinned.bind (.invoke ?_ path found) fun (code, _) => ?_
  · exact fits bs known
  · exact Twinned.bind (.check code) fun _ => .pure _

theorem peerAttribute_twinned {code source target : Value}
    (small : ∀ n, code.toWhole = .ok n → InInt n) (first : source.DeviceFits)
    (second : target.DeviceFits) :
    Twinned (peerAttribute code source target) (peerAttribute code source target) := by
  refine .resolve _ fun path found => .computing fun n known => ?_
  refine .computing fun s hs => .computing fun t ht => ?_
  refine Twinned.bind (.invoke ?_ path found) fun (code, _) => ?_
  · exact ⟨small n known, first s hs, second t ht⟩
  · exact Twinned.bind (.check code) fun _ => .pure _

end Device

namespace Stream

theorem create_twinned : Twinned create create :=
  .making trivial fun _ => ⟨⟨_, rfl⟩, 0, rfl, by decide⟩

theorem query_twinned (id : Nat) : Twinned (query id) (query id) := by
  refine .active id fun r _ => .resolve _ fun path found => ?_
  refine Twinned.bind (.invoke ?_ path found) fun (code, _) => ?_
  · trivial
  · dsimp only
    split
    · exact .pure _
    · exact Twinned.bind (.check code) fun _ => .pure _

end Stream

namespace Ownership

theorem releaseNative_twinned (p : Payload) : Twinned (releaseNative p) (releaseNative p) := by
  cases p with
  | plain v => exact .throw _
  | _ => exact Twinned.discard (.request trivial)

theorem release_twinned (id : Nat) : Twinned (release id) (release id) := by
  refine .active id fun r native => Twinned.bind (.retire id native) fun _ => ?_
  refine .get fun w v _ same => ?_
  rw [World.countsAsTrue_congr same, World.name_congr same]
  refine Twinned.bind (.compute _) fun own => ?_
  split
  · exact Twinned.bind (.write _ _ _) fun _ => releaseNative_twinned r.payload
  · exact .pure _

theorem leave_twinned (id : Nat) (body : Option Fault) :
    Twinned (leave id body) (leave id body) := by
  refine .get fun w v _ same => ?_
  rw [World.resource_congr same]
  dsimp only
  split
  · split
    · exact .throw _
    · exact .pure _
  · split
    · exact release_twinned id
    · refine (release_twinned id).attempt.bind fun result => ?_
      split
      · exact Twinned.bind (.write _ _ _) fun _ => .throw _
      · exact .throw _
      · exact .throw _

theorem finalize_twinned (id : Nat) : Twinned (finalize id) (finalize id) := by
  refine .get fun w v _ same => ?_
  rw [World.resource_congr same]
  dsimp only
  split
  · exact .pure _
  · refine (release_twinned id).attempt.bind fun result => ?_
    split
    · exact .write _ _ _
    · exact .pure _

end Ownership

namespace Operation

theorem answer_twinned {device : Value} {question : DeviceQuestion} (fits : device.Within InInt)
    (small : question.Fits) : Twinned (answer device question) (answer device question) := by
  cases question with
  | name => exact Twinned.bind (.request ⟨by decide, fits⟩) fun _ => .pure _
  | totalMemory | uuid => exact Twinned.bind (.request fits) fun _ => .pure _
  | computeCapability => exact Device.computeCapability_twinned fits
  | busId => exact Device.busId_twinned fits
  | attributeValue code => exact Device.attributeValue_twinned fits small
  | defaultPool => exact Pool.defaultOf_twinned fits

/-- **What one operation does** over a loaded library is what it does over the machine itself. -/
theorem perform_twinned (op : Operation) (fits : op.Fits) :
    Twinned (Value.unnumbered <$> op.perform) (Value.unnumbered <$> op.perform) := by
  cases op with
  | copyToHost id type out => exact Memory.copyToHost_twinned id type out
  | start =>
    refine .map _ (.silent ?_)
    have flags : InUnsigned 0 := by decide
    exact Twinned.bind (.discard (.request flags)) fun _ => .write _ _ _
  | runtimeVersion | driverVersion | currentDevice =>
    exact .map _ (Twinned.bind (.request trivial) fun _ => .pure _)
  | deviceCount => exact .map _ (Device.count_twinned.bind fun _ => .pure _)
  | selectDevice device => exact .map _ (Device.select_twinned fits)
  | synchronizeDevice => exact .map _ (.silent (.discard (.request trivial)))
  | ask device question => exact .map _ (answer_twinned fits.1 fits.2)
  | deviceOfBusId text => exact .map _ (Device.ofBusId_twinned fits)
  | peerAttribute code source target =>
    exact .map _ (Device.peerAttribute_twinned fits.1 fits.2.1 fits.2.2)
  | allocate size => exact .map _ (Memory.allocateBy_twinned fits fun _ room => room)
  | allocateFlagged size flags =>
    refine .map _ (.computing fun n known => ?_)
    exact Memory.allocateBy_twinned fits.1 fun _ room => ⟨room, fits.2 n known⟩
  | allocateOrdered size stream => exact .map _ (Memory.allocateOrdered_twinned stream fits)
  | allocateFromPool pool size stream =>
    exact .map _ (Memory.allocateFromPool_twinned pool stream fits)
  | free pointer =>
    refine .map _ (.silent ?_)
    unfold Memory.free
    split
    · exact Ownership.release_twinned _
    · exact .throw _
  | memoryInfo => exact .map _ Memory.info_twinned
  | copyTo id target kind => exact .map _ (Memory.copyTo_twinned id target fits).silent
  | copyFromHost id source => exact .map _ (Memory.copyFromHost_twinned id source).silent
  | fill id value size => exact .map _ (Memory.fill_twinned id fits.1 fits.2).silent
  | createStream => exact .map _ Stream.create_twinned
  | queryStream id => exact .map _ (Stream.query_twinned id)
  | synchronizeStream id =>
    exact .map _ (.silent (.active id fun _ _ => Twinned.discard (.request trivial)))
  | createPool props => exact .map _ (Pool.create_twinned props)
  | defaultPool device =>
    exact .map _ (.computing fun id known => Pool.defaultOf_twinned (fits id known))
  | trimPool id keep => exact .map _ (Pool.trim_twinned id fits).silent
  | wrap payload owned => exact .map _ (.constructed fits)
  | readHandle id | readAddress id => exact .map _ (.active id fun _ _ => .pure _)
  | release id => exact .map _ (Ownership.release_twinned id).silent
  | enter id => exact .map _ (.silent (Twinned.active id fun _ _ => .pure _))
  | leave id body => exact .map _ (Ownership.leave_twinned id body).silent
  | finalize id => exact .map _ (Ownership.finalize_twinned id).silent

end Operation

/-! ## Runs -/

/-- What happens in a run: a turn of a session, or the wrapping of a foreign handle. -/
inductive Move where
  | turn (t : Turn)
  | wrap (payload : Payload) (owned : Value)

namespace Move

/-- The operation of a move; a set-up between operations is none. -/
def operation? : Move → Option Operation
  | turn (.operate op _) => some op
  | turn _ => none
  | wrap payload owned => some (.wrap payload owned)

/-- The world after a move. -/
def take : Move → World → World
  | turn t, w => t.take w
  | wrap payload owned, w => ((Operation.wrap payload owned).perform.outcome w).2

/-- A move whose operation is given numbers that fit. -/
def Fits (s : Move) : Prop := ∀ op, s.operation? = some op → op.Fits

/-- What the operation of a move ends with. -/
def result? (s : Move) (w : World) : Option (Except Fault Value) :=
  s.operation?.map fun op => (op.perform.outcome w).1

theorem take_of_operation {s : Move} {op : Operation} (h : s.operation? = some op) (w : World) :
    s.take w = (op.perform.outcome w).2 := by
  cases s with
  | turn t =>
    cases t with
    | operate op' own =>
      cases h
      rfl
    | _ => cases h
  | wrap payload owned =>
    cases h
    rfl

/-- A set-up changes the machine alone, and asks for no name. -/
theorem take_of_none {s : Move} (h : s.operation? = none) :
    ∃ change : Machine → Machine, (∀ w, s.take w = { w with machine := change w.machine }) ∧
      (∀ m, (change m).missing = m.missing) ∧ ∀ m m', m.bare = m'.bare →
        (change m).bare = (change m').bare := by
  have congr {change : Machine → Machine} (kept : ∀ m, (change m).bare = change m.bare)
      (m m' : Machine) (same : m.bare = m'.bare) : (change m).bare = (change m').bare := by
    rw [kept, kept, same]
  cases s with
  | turn t =>
    cases t with
    | operate op own => cases h
    | failNext entry code =>
      exact ⟨(·.failNext entry code), fun _ => rfl, fun _ => rfl, congr fun _ => rfl⟩
    | adjust setting =>
      refine ⟨setting.apply, fun _ => rfl, fun m => ?_, congr fun m => ?_⟩
      · cases setting <;> rfl
      · cases setting <;> rfl
  | wrap payload owned => cases h

end Move

namespace World

/-- The world after some moves. -/
def moved (w : World) (ms : List Move) : World := ms.foldl (fun w s => s.take w) w

@[simp] theorem moved_cons (w : World) (s : Move) (ms : List Move) :
    w.moved (s :: ms) = (s.take w).moved ms := rfl

/-- What the operations of some moves end with, one after the other. -/
def results : World → List Move → List (Except Fault Value)
  | _, [] => []
  | w, s :: ms => (s.result? w).toList ++ results (s.take w) ms

variable {w v : World}

/-- **One move.** -/
theorem Sound.move (sound : w.Sound) (s : Move) (fits : s.Fits) :
    (s.take w).Sound ∧ (∃ es, (s.take w).trace = w.trace ++ es) ∧
      ∀ v, w.Twin v → CodesFit (s.take w).trace → (s.take w).Twin (s.take v) ∧
        (s.result? v).map (·.map Value.unnumbered) =
          (s.result? w).map (·.map Value.unnumbered) := by
  cases known : s.operation? with
  | some op =>
    have twinned := op.perform_twinned (fits op known) w sound
    simp only [Action.outcome_map] at twinned
    obtain ⟨sound', grown, twins⟩ := twinned
    unfold Move.result?
    simp only [Move.take_of_operation known, known]
    refine ⟨sound', grown, ?_⟩
    intro v twin codes
    obtain ⟨twin', same⟩ := twins v twin codes
    exact ⟨twin', congrArg some same⟩
  | none =>
    obtain ⟨change, take, missing, bare⟩ := Move.take_of_none known
    unfold Move.result?
    simp only [take, known]
    refine ⟨⟨sound.direct, ?_, sound.native⟩, ⟨[], (List.append_nil _).symm⟩, ?_⟩
    · exact (missing _).trans sound.complete
    · intro v twin _
      exact ⟨⟨twin.loaded, bare _ _ twin.machine, twin.resources, twin.log, twin.trace⟩, rfl⟩

/-- The trace of a run over the machine itself only grows. -/
theorem Sound.grows (sound : w.Sound) (ms : List Move) (fits : ∀ s ∈ ms, s.Fits) :
    ∃ es, (w.moved ms).trace = w.trace ++ es := by
  induction ms generalizing w with
  | nil => exact ⟨[], (List.append_nil _).symm⟩
  | cons s ms ih =>
    obtain ⟨sound', ⟨es, first⟩, -⟩ := sound.move s (fits s (.head _))
    obtain ⟨fs, rest⟩ := ih sound' fun s hs => fits s (.tail _ hs)
    exact ⟨es ++ fs, by rw [moved_cons, rest, first, List.append_assoc]⟩

/-- **Runs from twins** have the same results and end in twins. -/
theorem Twin.moved (twin : w.Twin v) (sound : w.Sound) (ms : List Move)
    (fits : ∀ s ∈ ms, s.Fits) (codes : CodesFit (w.moved ms).trace) :
    (w.moved ms).Twin (v.moved ms) ∧
      (v.results ms).map (·.map Value.unnumbered) =
        (w.results ms).map (·.map Value.unnumbered) := by
  induction ms generalizing w v with
  | nil => exact ⟨twin, rfl⟩
  | cons s ms ih =>
    have rest : ∀ s ∈ ms, s.Fits := fun s hs => fits s (.tail _ hs)
    obtain ⟨sound', -, move⟩ := sound.move s (fits s (.head _))
    have before : CodesFit (s.take w).trace := by
      obtain ⟨es, grown⟩ := sound'.grows ms rest
      rw [moved_cons, grown] at codes
      exact codes.of_append
    obtain ⟨twin', first⟩ := move v twin before
    obtain ⟨twin'', others⟩ := ih twin' sound' rest codes
    refine ⟨twin'', ?_⟩
    have heads := congrArg Option.toList first
    rw [Option.toList_map, Option.toList_map] at heads
    unfold results
    rw [List.map_append, List.map_append, others, heads]

end World

/-- A call as it is recorded: its entry point, its arguments, and the code that it gave. -/
def written (e : NativeCall × Int) : EntryPoint × List Argument × Int :=
  (e.1.entryPoint, e.1.arguments, e.2)

theorem written_bare (e : NativeCall × Int) : written (e.1.bare, e.2) = written e := by
  unfold written
  rw [NativeCall.entryPoint_bare, NativeCall.arguments_bare]

/-- Twins have the same calls, as these are recorded. -/
theorem World.Twin.calls {w v : World} (twin : w.Twin v) :
    (GpuHandles.calls v.trace).map written = (GpuHandles.calls w.trace).map written := by
  rw [← calls_unresolved, twin.trace, calls_map_bare, List.map_map]
  exact List.map_congr_left fun e _ => written_bare e

/-- **A loaded library does what the machine itself does.**  Let operations be given numbers
that fit their parameters, let the machine have every entry point, and let an `int` hold every
code that it gives.  Then the run over a loaded library and the run over the machine itself have
the same results, but for the number that tells a new array from others, the same log, the same
resources, and the same events once the looks for entry points are left out, in which the calls
have the same arguments and codes.  The machines end alike, too, but for the names of numbers,
which a loaded library drops: a member of a numeric enumeration has become the number that it is
equal to. -/
theorem loaded_run (host : Host) (m : Machine) (path : Option String) (ms : List Move)
    (complete : m.missing = []) (fits : ∀ s ∈ ms, s.Fits)
    (codes : CodesFit ((World.opening host m .direct).moved ms).trace) :
    let w := World.opening host m .direct
    let v := World.opening host m (.loaded path [])
    (v.results ms).map (·.map Value.unnumbered) = (w.results ms).map (·.map Value.unnumbered) ∧
      (v.moved ms).log = (w.moved ms).log ∧
      (v.moved ms).resources = (w.moved ms).resources ∧
      unresolved (v.moved ms).trace = (w.moved ms).trace.map Event.bare ∧
      (calls (v.moved ms).trace).map written = (calls (w.moved ms).trace).map written ∧
      (v.moved ms).machine.bare = (w.moved ms).machine.bare := by
  intro w v
  have sound : w.Sound := by
    refine ⟨rfl, complete, ?_⟩
    intro r hr
    cases hr
  have twin : w.Twin v := ⟨⟨path, [], rfl⟩, rfl, rfl, rfl, rfl⟩
  obtain ⟨twin', results⟩ := twin.moved sound ms fits codes
  exact ⟨results, twin'.log, twin'.resources, twin'.trace, twin'.calls, twin'.machine⟩

/-- A device is chosen by a named number, memory is made, a failure is set up and met, and the
memory is copied to itself, which is asked for by name as well. -/
def namedMoves : List Move :=
  [.turn (.operate (.selectDevice (.member .copyKind ⟨some "HOST_TO_DEVICE", .number 1⟩)) rfl),
    .turn (.operate (.allocate (.int 24)) rfl), .turn (.failNext .memoryInfo (-5)),
    .turn (.operate .memoryInfo rfl),
    .turn (.operate (.copyTo 0 (.handle 0 .pointer)
      (.member .copyKind ⟨some "DEVICE_TO_DEVICE", .number 3⟩)) rfl)]

/-- The current device of the one machine has a name, and that of the other has not. -/
theorem loaded_run_named :
    let w := (World.opening .bare .fresh .direct).moved namedMoves
    let v := (World.opening .bare .fresh (.loaded none [])).moved namedMoves
    v.machine.bare = w.machine.bare ∧ v.machine.currentDevice = .int 1 ∧
      w.machine.currentDevice = .member .copyKind ⟨some "HOST_TO_DEVICE", .number 1⟩ ∧
      (calls v.trace).map (·.2) = [0, 0, 0, -5, 0] := by
  have fits : ∀ s ∈ namedMoves, s.Fits := by
    have device : (Value.member .copyKind ⟨some "HOST_TO_DEVICE", .number 1⟩).DeviceFits := by
      intro v known
      cases known
      exact ⟨1, rfl, by decide⟩
    have size : (Value.int 24).SizeFits := by
      intro n valid
      cases valid
      decide
    have kind (n : Int)
        (known : (Value.member .copyKind ⟨some "DEVICE_TO_DEVICE", .number 3⟩).toWhole = .ok n) :
        InInt n := by
      cases known
      decide
    simp only [namedMoves, List.forall_mem_cons]
    refine ⟨?_, ?_, ?_, ?_, ?_, by simp⟩ <;> intro op same <;> cases same
    · exact device
    · exact size
    · trivial
    · exact kind
  have codes : CodesFit ((World.opening .bare .fresh .direct).moved namedMoves).trace := by
    have given : (calls ((World.opening .bare .fresh .direct).moved namedMoves).trace).map (·.2) =
        [0, 0, 0, -5, 0] := rfl
    have small : ∀ code ∈ [0, 0, 0, -5, 0], InInt code := by decide
    intro e he
    exact small e.2 (given ▸ List.mem_map_of_mem he)
  obtain ⟨-, -, -, -, -, machine⟩ := loaded_run .bare .fresh none namedMoves rfl fits codes
  exact ⟨machine, rfl, rfl, rfl⟩

end GpuHandles
