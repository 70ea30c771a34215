import GpuHandles.Proofs.Fitting
import GpuHandles.Proofs.NumberKeys
import GpuHandles.Proofs.TourRun
/-!
The memory that a tour needs.

Inside a block a world is `Working`: the store says what bytes the buffers have, and the accounts
what is free.  An operation that succeeds moves both on (`Working.step`), so that a block which
allocates goes through if there is room for its memory and its body goes through in what is left
(`Working.block`).  The transfer holds its two buffers one inside the other, and the numbers come
back as they were sent; the work on the stream finds all memory free again.
-/

namespace GpuHandles

/-! ## Worlds inside a block -/

/-- A world inside a block of a tour, with the bytes of its memory, the memory that is free, and
the resources that are in use. -/
structure World.Working (d total : Int) (bytes : Store) (room : Int)
    (live : List (HandleClass × Nat)) (w : World) : Prop where
  tidy : w.Tidy (Machine.Plain d total)
  booked : Booked bytes w
  free : w.machine.freeMemory = room
  live : ∀ p ∈ live, w.Active p.1 p.2

variable {d total room n : Int} {bytes : Store} {live : List (HandleClass × Nat)} {w w' : World}
  {op : Operation} {v size : Value}

/-- Between two parts all memory is free. -/
theorem World.Ready.working (h : w.Ready d total) :
    ∃ bytes, w.Working d total bytes total [] := by
  obtain ⟨bytes, booked⟩ := h.tidy.booked
  have none : w.machine.allocations = [] :=
    List.map_eq_nil_iff.1 (h.tidy.keys_eq_nil h.idle .pointer)
  refine ⟨bytes, h.tidy, booked, ?_, nofun⟩
  unfold Machine.freeMemory Machine.usedMemory
  rw [none, h.tidy.lasting.total]
  exact Int.sub_zero _

theorem Machine.streamQuery_found {m : Machine} {a : Nat} {status : Int}
    (found : m.streams.get? a = some status) :
    m.perform (.streamQuery (some a)) = (.code status .nothing, m) := by
  have same : at? m.streams (some a) = some status := found
  dsimp only [perform]
  rw [same]

namespace World.Working

/-- An operation that releases nothing. -/
theorem step (h : w.Working d total bytes room live) (homely : op.Homely)
    (keeps : op.subject = none) (ended : op.perform.outcome w = (.ok v, w')) :
    w'.Working d total (bytes.succeed op v) (room - op.granted (.ok v)) live := by
  have tidy := h.tidy.perform Machine.plain_lasting homely
  have effect := h.tidy.effect homely.own
  have booked := h.booked.take (.operate op homely.own)
  have used := (h.booked.posts (.operate op homely.own)).used
  have none : (Turn.operate op homely.own).returned w = 0 := Turn.returned_of_none keeps
  have taken : (Turn.operate op homely.own).take w = w' := congrArg Prod.snd ended
  have more : (Turn.operate op homely.own).granted w = op.granted (.ok v) :=
    congrArg (fun r : Except Fault Value × World => op.granted r.1) ended
  have same : bytes.take w (.operate op homely.own) = bytes.succeed op v :=
    congrArg (fun r : Except Fault Value × World => bytes.step op r.1) ended
  rw [ended] at tidy effect
  rw [same, taken] at booked
  rw [none, more, taken] at used
  refine ⟨tidy, booked, ?_, fun p hp => ?_⟩
  · -- the total stays, and what is in use grows by what was granted
    have before := h.free
    unfold Machine.freeMemory at before ⊢
    rw [h.tidy.lasting.total] at before
    rw [tidy.lasting.total]
    omega
  · have active := h.live p hp
    refine active.of_kept (effect.kept ?_ (World.getElem?_of_active active.1))
    rw [keeps]
    exact nofun

/-- Only memory takes room. -/
theorem sizeless {r : Except Fault Value} (h : w.Working d total bytes (room - op.granted r) live)
    (none : op.asked? = none) : w.Working d total bytes room live := by
  rw [Operation.granted_of_none none] at h
  exact { h with free := h.free.trans (Int.sub_zero _) }

/-- An operation that makes nothing either. -/
theorem pass (h : w.Working d total bytes room live) (casual : op.casual = true)
    (sizeless : op.asked? = none) (ended : op.perform.outcome w = (.ok v, w')) :
    w'.Working d total (bytes.succeed op v) room live :=
  (h.step (Operation.homely_of_casual casual) (Operation.subject_of_casual casual) ended).sizeless
    sizeless

/-- An operation that makes a resource. -/
theorem made (h : w.Working d total bytes room live) (homely : op.Homely) (makes : op.makes = true)
    {id : Nat} {cls : HandleClass} (ended : op.perform.outcome w = (.ok (.handle id cls), w')) :
    w'.Working d total (bytes.succeed op (.handle id cls))
      (room - op.granted (.ok (.handle id cls))) ((cls, id) :: live) := by
  have step := h.step homely (Operation.subject_of_makes makes) ended
  refine { step with live := List.forall_mem_cons.2 ⟨?_, step.live⟩ }
  have effect := h.tidy.effect homely.own
  rw [ended] at effect
  obtain ⟨⟨f, failed⟩, _⟩ | ⟨cls', same, active⟩ := effect.supplied makes
  · cases failed
  · cases same
    exact active

/-- Memory that addresses reach is there if there is room for it. -/
theorem allocation (h : w.Working d total bytes room live) (asked : op.asked? = some size)
    (valid : Memory.validSize size = .ok n) (some_bytes : 0 < n) (within : n < addressable)
    (supplied : op.Supplied w) :
    (op.perform.outcome w).1 = if n ≤ room then .ok (.handle w.resources.length .pointer)
      else .error (.ofCode Status.Kind.outOfMemory.code) := by
  have result := Operation.allocation_result h.tidy.known h.tidy.direct asked valid some_bytes
    supplied fun e _ => ⟨Bool.eq_false_iff.2 (h.tidy.present e), h.tidy.lasting.quiet e⟩
  rwa [h.free, if_pos within] at result

/-- **A block that allocates memory** needs room for it, and for what its body needs. -/
theorem block {body : Value → Tour.Narration Unit} {printed : String} {q : Prop}
    (h : w.Working d total bytes room live) (supplies : op.supplies = true)
    (asked : op.asked? = some size) (valid : Memory.validSize size = .ok n) (some_bytes : 0 < n)
    (within : n < addressable) (supplied : op.Supplied w)
    (inner : ∀ v, Tour.Balanced (Machine.Plain d total) (body v))
    (ends : ∀ (id : Nat) (w' : World),
      w'.Working d total (bytes.put id (List.replicate n.toNat 0)) (room - n)
        ((.pointer, id) :: live) →
      Tour.Ends q ((body (.handle id .pointer)).outcome (w', printed)).1) :
    Tour.Ends (n ≤ room ∧ q)
      ((Tour.perform op >>= fun v => Tour.holding v (body v)).outcome (w, printed)).1 := by
  have result := h.allocation asked valid some_bytes within supplied
  by_cases fits : n ≤ room
  · rw [if_pos fits] at result
    have count : size.count = n.toNat := by
      rw [Value.count, (Memory.validSize_index valid).1]
      rfl
    have inside := h.made (Operation.homely_of_supplies supplies)
      (Operation.makes_of_supplies supplies) (Prod.ext result rfl)
    rw [Store.succeed_of_asked asked, count, Operation.granted_of_valid asked valid,
      Int.toNat_of_nonneg (Int.le_of_lt some_bytes)] at inside
    rw [Tour.block_result (s := (w, printed)) h.tidy supplies inner result]
    exact (ends _ _ inside).congr (and_iff_right fits).symm
  · rw [if_neg fits] at result
    have failed : ((Tour.perform op).outcome (w, printed)).1 = .error _ := result
    rw [Tour.Narration.outcome_bind_of_error failed]
    exact ⟨fun both => absurd both.1 fits, fun _ => rfl⟩

end World.Working

/-! ## There and back -/

theorem Binary.agrees_self (x : Binary) : x.agrees x = true := by
  unfold Binary.agrees
  cases defined : x.isUndefined with
  | true => simp
  | false =>
    have same : x.order x = some .eq := Same.of_defined defined
    simp [same]

/-- An array does not differ from one with the same elements, whatever number it goes by. -/
theorem HostArray.difference?_self (a : HostArray) (k : Nat) :
    ({ a with identity := k } : HostArray).difference? a = none := by
  have beside (xs : List Binary) : ∀ p ∈ xs.zip xs, p.1 = p.2 := by
    induction xs with
    | nil => exact nofun
    | cons x xs ih =>
      rw [List.zip_cons_cons]
      exact List.forall_mem_cons.2 ⟨rfl, ih⟩
  have alike (xs : List Binary) : ((xs.zip xs).filter fun p => !p.1.agrees p.2) = [] := by
    rw [List.filter_eq_nil_iff]
    intro p hp
    rw [beside xs p hp, Binary.agrees_self]
    exact Bool.false_ne_true
  exact if_pos (congrArg List.isEmpty (alike (a.elements.map (Element.asReal _))))

namespace Tour

theorem length_encode (n : Int) :
    (Element.encode .int64 .float32 (.number (.int n))).length = 4 :=
  Width.length_littleEndian _ _

/-- The bytes that the numbers are made of. -/
def numberBytes : List UInt8 :=
  (List.range 1024).flatMap fun (n : Nat) => Element.encode .int64 .float32 (.number (.int n))

theorem length_numberBytes : numberBytes.length = 4096 := by
  unfold numberBytes
  simp only [List.length_flatMap, length_encode]
  rw [List.map_const', List.sum_replicate_nat, List.length_range]

theorem numbers_eq : numbers = .ofBytes .float32 [1024] numberBytes := rfl

theorem content_numbers : numbers.content = numberBytes := by
  have fits : numberBytes.length =
      (HostArray.ofBytes .float32 [1024] numberBytes).byteCount := length_numberBytes
  rw [numbers_eq, HostArray.content_eq (HostArray.laid_ofBytes ..), HostArray.bytes_ofBytes fits]

/-- The bytes of the numbers make up the numbers. -/
theorem withBytes_numbers (k : Nat) :
    { (HostArray.blank ElementType.float32 1024).withBytes numberBytes with identity := k } =
      { numbers with identity := k } := rfl

/-- An array that does not differ from the numbers passes. -/
theorem compared_ok {a : HostArray} (same : a.difference? numbers = none) (s : World × String) :
    ((compared a).outcome s).1 = .ok () := by
  unfold compared
  rw [Narration.outcome_bind_ok (Narration.outcome_say _ s), same]
  dsimp only
  rw [Narration.outcome_say]

/-- A copy to the host of as many bytes as the numbers have is one to an array like theirs. -/
theorem targetArray_numbers {r : Resource} (size : r.payload.size = .int 4096) (w : World) :
    (Memory.targetArray r (.text "float32") .null).outcome w =
      (.ok (.blank ElementType.float32 1024), w) := by
  have type : Memory.elementType w.name (.text "float32") = .ok ElementType.float32 := rfl
  have array : Memory.arrayFor w.name (.int 4096) ElementType.float32 =
      .ok (.blank ElementType.float32 1024) := rfl
  unfold Memory.targetArray
  rw [Action.outcome_bind_ok (Action.outcome_get w), type,
    Action.outcome_bind_ok (Action.outcome_ofExcept (.ok _) w), size, array]
  rfl

variable {s : World × String} {i j : Nat}

/-- The numbers are sent to memory that is as long. -/
theorem sent (h : w.Working d total bytes room live) (here : (.pointer, i) ∈ live)
    (length : (bytes i).length = 4096) :
    ∃ w', (Operation.copyFromHost i (.array numbers)).perform.outcome w = (.ok .null, w') ∧
      w'.Working d total (bytes.put i numberBytes) room live := by
  have active := (h.live _ here).1
  have ended : ((Operation.copyFromHost i (.array numbers)).perform.outcome w).1 = .ok .null :=
    Operation.silent_ok (h.booked.mirrors.copyFromHost_ok h.tidy.direct (h.tidy.present _)
      (h.tidy.lasting.quiet _) (World.getElem?_of_active active) active rfl
      (Nat.le_of_eq length.symm))
  have after := h.pass rfl rfl (Prod.ext ended rfl)
  have same : bytes.succeed (.copyFromHost i (.array numbers)) .null =
      bytes.write i numberBytes := congrArg (bytes.write i) content_numbers
  rw [same, Store.write_whole (by rw [length_numberBytes, length])] at after
  exact ⟨_, Prod.ext ended rfl, after⟩

/-- Memory is copied to other memory that is as long. -/
theorem copied (h : w.Working d total bytes room live) (source : (.pointer, i) ∈ live)
    (target : (.pointer, j) ∈ live) (filled : bytes i ≠ [])
    (length : (bytes i).length = (bytes j).length) :
    ∃ w', (Operation.copyTo i (.handle j .pointer) (.int 3)).perform.outcome w =
        (.ok .null, w') ∧ w'.Working d total (bytes.put j (bytes i)) room live := by
  have active := (h.live _ source).1
  have active' := (h.live _ target).1
  have ended : ((Operation.copyTo i (.handle j .pointer) (.int 3)).perform.outcome w).1 =
      .ok .null :=
    Operation.silent_ok (h.booked.mirrors.copyTo_ok h.tidy.direct (h.tidy.present _)
      (h.tidy.lasting.quiet _) (World.getElem?_of_active active) active
      (World.getElem?_of_active active') active' filled (Nat.le_of_eq length))
  have after := h.pass rfl rfl (Prod.ext ended rfl)
  have same : bytes.succeed (.copyTo i (.handle j .pointer) (.int 3)) .null =
      bytes.write j (bytes i) := rfl
  rw [same, Store.write_whole length] at after
  exact ⟨_, Prod.ext ended rfl, after⟩

/-- The numbers come back. -/
theorem returned (h : w.Working d total bytes room live) (here : (.pointer, j) ∈ live)
    (holds : bytes j = numberBytes) :
    ∃ k w', (Operation.copyToHost j (.text "float32") .null).perform.outcome w =
      (.ok (.array { numbers with identity := k }), w') := by
  have active := (h.live _ here).1
  have there := World.getElem?_of_active active
  have size : (w.resource j).payload.size = .int 4096 := by
    rw [h.booked.mirrors.sized j _ there, holds, length_numberBytes]
    rfl
  obtain ⟨k, ended⟩ := h.booked.mirrors.copyToHost_value h.tidy.direct (h.tidy.present _)
    (h.tidy.lasting.quiet _) there active (targetArray_numbers size w) (by decide)
  have whole :
      (bytes j).take (HostArray.blank ElementType.float32 1024).byteCount = numberBytes := by
    rw [holds]
    exact List.take_of_length_le (Nat.le_of_eq length_numberBytes)
  rw [whole, withBytes_numbers] at ended
  exact ⟨k, _, Prod.ext ended rfl⟩

/-- **The round trip**: the bytes that were sent are those that come back. -/
theorem roundTrip_ok (h : w.Working d total bytes room live) (source : (.pointer, i) ∈ live)
    (target : (.pointer, j) ∈ live) (length : (bytes i).length = 4096)
    (length' : (bytes j).length = 4096) (printed : String) :
    ((roundTrip (.handle i .pointer) (.handle j .pointer)).outcome (w, printed)).1 = .ok () := by
  obtain ⟨w₁, first, h₁⟩ := sent h source length
  have here : bytes.put i numberBytes i = numberBytes := Store.put_self
  -- nothing says that the two are not one buffer, and it makes no difference
  have same : (bytes.put i numberBytes i).length = (bytes.put i numberBytes j).length := by
    by_cases one : j = i
    · rw [one]
    · rw [here, Store.put_of_ne one, length', length_numberBytes]
  have filled : bytes.put i numberBytes i ≠ [] := by
    rw [here]
    exact List.ne_nil_of_length_pos (by rw [length_numberBytes]; decide)
  obtain ⟨w₂, second, h₂⟩ := copied h₁ source target filled same
  obtain ⟨k, w₃, third⟩ := returned h₂ target (Store.put_self.trans here)
  unfold roundTrip
  rw [Narration.outcome_bind_ok (Narration.outcome_textOf _ _),
    Narration.outcome_bind_ok (Narration.outcome_say _ _),
    Narration.outcome_bind_ok (Narration.outcome_textOf _ _),
    Narration.outcome_bind_ok (Narration.outcome_say _ _)]
  dsimp only
  rw [Narration.outcome_bind_ok (Narration.outcome_done first),
    Narration.outcome_bind_ok (Narration.outcome_done second),
    Narration.outcome_bind_ok (Narration.outcome_performed third)]
  exact compared_ok (numbers.difference?_self k) _

theorem length_zeros : (List.replicate (4096 : Int).toNat (0 : UInt8)).length = 4096 :=
  List.length_replicate

theorem validSize_numbers : Memory.validSize (.int numbers.byteCount) = .ok 4096 := rfl

theorem secondBuffer_ends (h : w.Working d total bytes room live) (source : (.pointer, i) ∈ live)
    (length : (bytes i).length = 4096) (printed : String) :
    Ends (4096 ≤ room) ((secondBuffer (.handle i .pointer)).outcome (w, printed)).1 := by
  refine Ends.congr (p := 4096 ≤ room ∧ True) ?_ (iff_of_eq (and_true _))
  refine h.block rfl rfl validSize_numbers (by decide) (by decide) trivial
    (roundTrip_balanced Machine.plain_lasting _) fun j w₁ h₁ => ?_
  refine .ofOk (roundTrip_ok h₁ (.tail _ source) (.head _) ?_ ?_ _)
  · by_cases one : i = j
    · rw [one, Store.put_self, length_zeros]
    · rw [Store.put_of_ne one, length]
  · rw [Store.put_self, length_zeros]

theorem buffers_fares : Fares d total (8192 ≤ total) buffers := by
  refine .ofBalanced (buffers_balanced Machine.plain_lasting) fun s ready => ?_
  obtain ⟨bytes, h⟩ := ready.working
  refine Ends.congr (p := 4096 ≤ total ∧ 4096 ≤ total - 4096) ?_ (by omega)
  refine h.block rfl rfl validSize_numbers (by decide) (by decide) trivial
    (secondBuffer_balanced Machine.plain_lasting) fun i w₁ h₁ => ?_
  exact secondBuffer_ends h₁ (.head _) (by rw [Store.put_self, length_zeros]) _

/-- **The transfer** needs room for two buffers. -/
theorem transfer_fares : Fares d total (8192 ≤ total) transfer := by
  refine .after (.say _) fun _ _ => ?_
  dsimp only
  rw [← bind_assoc]
  exact (buffers_fares.bind (.ofPasses (.say _))).congr (iff_of_eq (and_true _))

/-! ## On a stream -/

/-- The default pool of the first device. -/
theorem pool_lent (h : w.Working d total bytes room live) (some_device : 0 < d) :
    ∃ p w', (Operation.ask (.int 0) .defaultPool).perform.outcome w =
      (.ok (.handle p .pool), w') ∧ w'.Working d total bytes room ((.pool, p) :: live) := by
  have there := h.tidy.lasting.visible ⟨Int.le_refl 0, some_device⟩ [.defaultPool]
  obtain ⟨out, answer⟩ : ∃ out,
      ((w.machine.spend [.defaultPool]).perform (.defaultPool (.int 0))).1 = .code 0 out := by
    dsimp only [Machine.perform]
    unfold Machine.defaultPool
    rw [Machine.onDevice_visible there]
    dsimp only [Value.unhashable?]
    split <;> exact ⟨_, rfl⟩
  obtain ⟨w₁, ended, _⟩ := h.tidy.request_ok (c := .defaultPool (.int 0)) (Prod.ext answer rfl)
  have made : (Operation.ask (.int 0) .defaultPool).perform.outcome w =
      (.ok (.handle w₁.resources.length .pool), _) := Action.outcome_bind_ok ended
  have homely : (Operation.ask (.int 0) .defaultPool).Homely := Operation.homely_of_casual rfl
  exact ⟨_, _, made, (h.made homely rfl made).sizeless rfl⟩

/-- A new stream. -/
theorem stream_made (h : w.Working d total bytes room live) :
    ∃ i w', Operation.createStream.perform.outcome w = (.ok (.handle i .stream), w') ∧
      w'.Working d total bytes room ((.stream, i) :: live) := by
  obtain ⟨w₁, ended, _⟩ := h.tidy.request_ok (c := .streamCreate) rfl
  have made : Operation.createStream.perform.outcome w =
      (.ok (.handle w₁.resources.length .stream), _) := Action.outcome_bind_ok ended
  have homely : Operation.createStream.Homely := Operation.homely_of_supplies rfl
  exact ⟨_, _, made, (h.made homely rfl made).sizeless rfl⟩

/-- After the wait for a stream no work on it is left. -/
theorem stream_waited (h : w.Tidy (Machine.Plain d total)) {i a : Nat}
    (active : (w.resource i).released = false) (address : (w.resource i).payload.address = some a)
    (known : w.machine.streams.has a = true) :
    ∃ w', (Operation.synchronizeStream i).perform.outcome w = (.ok .null, w') ∧
      w'.machine.streams.get? a = some 0 := by
  have there := Ownership.active_ok (World.getElem?_of_active active) active
  obtain ⟨w₁, asked, machine⟩ :=
    h.request_ok (c := .streamSynchronize (some a)) (if_pos known)
  have done : (Stream.synchronize i).outcome w = (.ok (), w₁) := by
    unfold Stream.synchronize
    rw [Action.outcome_bind_ok there, address, Action.outcome_discard, asked]
    rfl
  have ended : (Operation.synchronizeStream i).perform.outcome w = (.ok .null, w₁) :=
    Action.outcome_bind_ok done
  refine ⟨w₁, ended, ?_⟩
  rw [machine]
  show (w.machine.streams.set a 0).get? a = some 0
  rw [Table.get?_set, if_pos rfl]
  rw [Table.has_eq_isSome_get?, Option.isSome_iff_exists] at known
  obtain ⟨status, found⟩ := known
  rw [found]
  rfl

/-- A stream on which all work has ended is told to be complete. -/
theorem stream_complete (h : w.Tidy (Machine.Plain d total)) {i a : Nat}
    (active : (w.resource i).released = false) (address : (w.resource i).payload.address = some a)
    (status : w.machine.streams.get? a = some 0) :
    ∃ v, ((Operation.queryStream i).perform.outcome w).1 = .ok v := by
  have reply : (w.machine.call (.streamQuery (some a))).1 = .code 0 .nothing := by
    have found : (w.machine.spend [.streamQuery]).streams.get? a = some 0 := status
    rw [Machine.call_quiet (h.lasting.quiet _)]
    exact congrArg Prod.fst (Machine.streamQuery_found found)
  have resolved : (Loading.resolve .streamQuery).outcome w = (.ok .direct, w) :=
    (Loading.resolve_direct h.direct _).trans (congrArg (·, w) (if_neg (h.present _)))
  have invoked := Loading.invoke_outcome (l := .direct) (c := .streamQuery (some a)) rfl w
  rw [reply] at invoked
  refine ⟨Stream.statusValue "COMPLETE" "complete", ?_⟩
  show ((Stream.query i).outcome w).1 = _
  unfold Stream.query
  rw [Action.outcome_bind_ok (Ownership.active_ok (World.getElem?_of_active active) active),
    Action.outcome_bind_ok resolved, address, Action.outcome_bind_ok invoked]
  rfl

/-- The wait for a stream, and a look at it. -/
theorem waiting_ok (h : w.Tidy (Machine.Plain d total)) {i : Nat} (active : w.Active .stream i)
    (printed : String) : ((waiting (.handle i .stream)).outcome (w, printed)).1 = .ok () := by
  have homely : (Operation.synchronizeStream i).Homely := Operation.homely_of_casual rfl
  obtain ⟨a, address, known | ⟨pool, _⟩⟩ := h.known.of_active active nofun
  · have has : w.machine.streams.has a = true := (Table.has_iff_mem_keys _ _).2 known
    obtain ⟨w₁, waited, status⟩ := stream_waited h active.1 address has
    -- the wait is an operation like any other: the stream is there afterwards, with its address
    have after := h.perform Machine.plain_lasting homely
    have kept := (h.effect homely.own).kept nofun (World.getElem?_of_active active.1)
    rw [waited] at after kept
    have same := World.resource_of_getElem? kept
    obtain ⟨v, told⟩ := stream_complete after (same ▸ active.1) (same ▸ address) status
    unfold waiting
    rw [Narration.outcome_bind_ok (Narration.outcome_done waited),
      Narration.outcome_bind_ok (Narration.outcome_performed (Prod.ext told rfl))]
    rfl
  · cases pool

theorem filling_ok (h : w.Working d total bytes room live) {j : Nat} (here : (.pointer, j) ∈ live)
    (printed : String) : ((filling (.handle j .pointer)).outcome (w, printed)).1 = .ok () := by
  have active := (h.live _ here).1
  have filled : ((Operation.fill j (.int 0) .null).perform.outcome w).1 = .ok .null :=
    Operation.silent_ok (h.booked.mirrors.fill_ok h.tidy.direct (h.tidy.present _)
      (h.tidy.lasting.quiet _) (World.getElem?_of_active active) active (by decide))
  exact congrArg Prod.fst (Narration.outcome_done (Prod.ext filled rfl))

/-- Memory from a pool on a stream needs room for it. -/
theorem streamed_ends (h : w.Working d total bytes room live) {p i : Nat}
    (pool : (.pool, p) ∈ live) (stream : (.stream, i) ∈ live) (printed : String) :
    Ends (2 ^ 20 ≤ room) ((streamed p (.handle i .stream)).outcome (w, printed)).1 := by
  have active := h.live _ stream
  have size : Memory.validSize (.int (2 ^ 20)) = .ok (2 ^ 20) := rfl
  have filled : Ends (2 ^ 20 ≤ room ∧ True)
      ((pooled p (.handle i .stream)).outcome (w, printed)).1 :=
    h.block rfl rfl size (by decide) (by decide) ⟨h.live _ pool, i, rfl, active⟩
      (filling_balanced Machine.plain_lasting) fun j w₁ h₁ => .ofOk (filling_ok h₁ (.head _) _)
  obtain ⟨tidy, steady⟩ :=
    pooled_balanced Machine.plain_lasting p (.handle i .stream) (w, printed) h.tidy
  rw [streamed_eq]
  have waited := waiting_ok tidy (steady.active active)
  refine (filled.bind (.ofOk (waited _))).congr ?_
  simp only [and_true]

theorem onStream_ends (h : w.Working d total bytes room live) {p : Nat} (pool : (.pool, p) ∈ live)
    (printed : String) : Ends (2 ^ 20 ≤ room) ((onStream p).outcome (w, printed)).1 := by
  obtain ⟨i, w₁, made, h₁⟩ := stream_made h
  have ended : (Operation.createStream.perform.outcome w).1 = .ok (.handle i .stream) :=
    congrArg Prod.fst made
  have inner : ∀ stream, Balanced (Machine.Plain d total) (streamed p stream) :=
    streamed_balanced Machine.plain_lasting p
  have result : ((onStream p).outcome (w, printed)).1 = _ :=
    block_result (s := (w, printed)) h.tidy rfl inner ended
  rw [result, made]
  exact streamed_ends h₁ (.tail _ pool) (.head _) printed

/-- **The work on a stream** needs room for what it asks for. -/
theorem ordered_fares (some_device : 0 < d) : Fares d total (2 ^ 20 ≤ total) ordered := by
  refine .ofBalanced (ordered_balanced Machine.plain_lasting) fun s ready => ?_
  obtain ⟨bytes, h⟩ := ready.working
  obtain ⟨p, w₁, lent, h₁⟩ := pool_lent h some_device
  rw [ordered_eq, Narration.outcome_bind_ok (Narration.outcome_say _ s),
    Narration.outcome_bind_ok (Narration.outcome_performed lent)]
  have ends := onStream_ends h₁ (.head _)
  exact ((ends _).bind (.ofOk rfl)).congr (iff_of_eq (and_true _))

end Tour
end GpuHandles
