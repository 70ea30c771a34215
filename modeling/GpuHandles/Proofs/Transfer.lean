import GpuHandles.Proofs.Buffers
import GpuHandles.Proofs.Effect
import GpuHandles.Proofs.HostBytes
/-!
Copies and fills.

For each operation that moves bytes there is one inversion lemma (`copyFromHost_transfer` and so
on): it is refused, or it has nothing to move, or the machine gets one call, whose operands and
size the checks have passed, and the operation succeeds if that call does.
-/

namespace GpuHandles

/-- A size that is given is a count. -/
theorem Memory.validSize_index {v : Value} {n : Int} (h : validSize v = .ok n) :
    v.index? = some n ∧ 0 ≤ n := by
  unfold validSize at h
  dsimp only at h
  split at h
  next k given =>
    split at h
    · cases h
    next sign =>
      cases h
      refine ⟨?_, Int.not_lt.1 sign⟩
      cases v with
      | truth b => cases given
      | scalar t c n =>
        dsimp only at given
        split at given
        · exact given
        · cases given
      | array a => cases given
      | _ => exact given
  next => cases h

/-- The allocation that an operation copies or fills. -/
def Operation.moves? : Operation → Option Nat
  | copyTo id .. | copyFromHost id _ | copyToHost id .. | fill id .. => some id
  | _ => none

/-- No other operation calls for a copy or a fill. -/
theorem Operation.entries_of_still {op : Operation} (still : op.moves? = none) :
    .copy ∉ op.entries ∧ .fill ∉ op.entries := by
  cases op with
  | copyTo | copyFromHost | copyToHost | fill => cases still
  | ask device question =>
    cases question <;> exact ⟨by simp [entries, DeviceQuestion.entry],
      by simp [entries, DeviceQuestion.entry]⟩
  | _ => exact ⟨by simp [entries], by simp [entries]⟩

/-- Resources whose size, if they are memory, is a whole number. -/
def Sized (rs : List Resource) : Prop := ∀ r ∈ rs, ∃ n : Nat, r.payload.size = .int n

/-- What an action that moves bytes comes to.  `idle` holds of its value if there is nothing to
move, `asks` of the call that it makes otherwise, and `gives` of the value after a call that
succeeded. -/
inductive Transfers {α : Type} (w : World) (idle : α → Prop) (asks : NativeCall → Prop)
    (gives : NativeCall → Output → α → Prop) : Except Fault α → World → Prop
  | refused {f : Fault} {w' : World} (way : Passage w w' w.machine w.resources []) :
      Transfers w idle asks gives (.error f) w'
  | idled {x : α} {w' : World} (nothing : idle x)
      (way : Passage w w' w.machine w.resources []) : Transfers w idle asks gives (.ok x) w'
  | failed {c : NativeCall} {f : Fault} {w' : World} (asked : asks c)
      (failure : ∀ out, (w.machine.call c).1 ≠ .code 0 out)
      (way : Passage w w' (w.machine.call c).2 w.resources (recorded c (w.machine.call c).1)) :
      Transfers w idle asks gives (.error f) w'
  | moved {c : NativeCall} {out : Output} {x : α} {w' : World} (asked : asks c)
      (success : (w.machine.call c).1 = .code 0 out) (value : gives c out x)
      (way : Passage w w' (w.machine.call c).2 w.resources (recorded c (w.machine.call c).1)) :
      Transfers w idle asks gives (.ok x) w'

namespace Transfers

variable {α β : Type} {w w₁ : World} {idle : α → Prop} {asks : NativeCall → Prop}
  {gives : NativeCall → Output → α → Prop}

/-- What comes first only reads. -/
theorem reading {a : Action β} {f : β → Action α} {result : Except Fault β}
    (reads : a.outcome w = (result, w))
    (rest : ∀ x, result = .ok x →
      Transfers w idle asks gives ((f x).outcome w).1 ((f x).outcome w).2) :
    Transfers w idle asks gives ((a >>= f).outcome w).1 ((a >>= f).outcome w).2 := by
  cases result with
  | error g =>
    rw [Action.outcome_bind_error reads]
    exact .refused (.refl w)
  | ok x =>
    rw [Action.outcome_bind_ok reads]
    exact rest x rfl

/-- The machine itself is asked, and its code checked. -/
theorem asking {c : NativeCall} {f : Output → Action α} (direct : w.library = some .direct)
    (asked : asks c)
    (finish : ∀ out w', ∃ x, (f out).outcome w' = (.ok x, w') ∧ gives c out x) :
    Transfers w idle asks gives ((Loading.request c >>= f).outcome w).1
      ((Loading.request c >>= f).outcome w).2 := by
  obtain ⟨g, w', way, _, ended⟩ | ⟨c', w', arrived, way, ended⟩ :=
    Loading.request_cases direct c
  · rw [Action.outcome_bind_error ended]
    exact .refused way
  · cases arrived
    obtain ⟨g, error, failure⟩ | ⟨code, out, reply, success, ok⟩ :=
      Loading.checked_cases .direct (w.machine.call c).1
    · rw [error] at ended
      rw [Action.outcome_bind_error ended]
      exact .failed asked failure way
    · rw [ok] at ended
      obtain ⟨x, finished, value⟩ := finish out w'
      rw [Action.outcome_bind_ok ended, finished]
      have zero : code = 0 := success
      exact .moved asked (zero ▸ reply) value way

/-- The machine itself is called, and the code checked afterwards. -/
theorem calling {c : NativeCall} {idle : Unit → Prop} (asked : asks c) :
    Transfers w idle asks (fun _ _ _ => True)
      ((Loading.invoke .direct c >>= fun p => Loading.check p.1).outcome w).1
      ((Loading.invoke .direct c >>= fun p => Loading.check p.1).outcome w).2 := by
  obtain ⟨f, refused, _⟩ | ⟨c', w', arrived, way, ended⟩ := Loading.invoke_cases .direct c w
  · cases refused
  · cases arrived
    cases reply : (w.machine.call c).1 with
    | fault f =>
      rw [reply] at ended
      rw [Action.outcome_bind_error ended]
      exact .failed asked (fun out same => by rw [reply] at same; cases same) way
    | code code out =>
      rw [reply] at ended
      rw [Action.outcome_bind_ok ended]
      have checked : (Loading.check (Loading.returning .direct code)).outcome w' = _ :=
        Loading.check_outcome code w'
      by_cases zero : code = 0
      · rw [if_pos zero] at checked
        rw [checked]
        exact .moved asked (zero ▸ reply) trivial way
      · rw [if_neg zero] at checked
        rw [checked]
        refine .failed asked (fun out' same => zero ?_) way
        rw [reply] at same
        injection same

theorem silent {a : Action Unit} {idle : Unit → Prop}
    {gives : NativeCall → Output → Unit → Prop}
    (h : Transfers w idle asks gives (a.outcome w).1 (a.outcome w).2) :
    Transfers w (fun _ => idle ()) asks (fun c out _ => gives c out ())
      ((Operation.silent a).outcome w).1 ((Operation.silent a).outcome w).2 := by
  unfold Operation.silent
  rcases ended : a.outcome w with ⟨result, w'⟩
  rw [ended] at h
  cases h with
  | refused way =>
    rw [Action.outcome_bind_error ended]
    exact .refused way
  | idled nothing way =>
    rw [Action.outcome_bind_ok ended]
    exact .idled nothing way
  | failed asked failure way =>
    rw [Action.outcome_bind_error ended]
    exact .failed asked failure way
  | moved asked success value way =>
    rw [Action.outcome_bind_ok ended]
    exact .moved asked success value way

/-- What moves bytes makes no call, or one call, of which `P` holds if it holds of what is
asked. -/
theorem passes {P : NativeCall → Prop} {result : Except Fault α}
    (h : Transfers w idle asks gives result w₁) (known : ∀ c, asks c → P c) :
    Passage w w₁ w.machine w.resources [] ∨ ∃ c, P c ∧
      Passage w w₁ (w.machine.call c).2 w.resources (recorded c (w.machine.call c).1) := by
  cases h with
  | refused way => exact .inl way
  | idled _ way => exact .inl way
  | failed asked _ way => exact .inr ⟨_, known _ asked, way⟩
  | moved asked _ _ way => exact .inr ⟨_, known _ asked, way⟩

end Transfers

namespace Memory

variable {w : World}

theorem checkFits_reads (n k : Nat) (what : String) (w : World) :
    ∃ result, (checkFits (.int n) (.int k) what).outcome w = (result, w) ∧
      ∀ u, result = .ok u → k ≤ n := by
  unfold checkFits
  rw [Action.outcome_bind_ok (Action.outcome_get w), Value.above_nat,
    Action.outcome_bind_ok (Action.outcome_ofExcept (.ok (decide (n < k))) w)]
  by_cases h : n < k
  · exact ⟨_, by rw [if_pos (decide_eq_true h)]; rfl, fun u hu => by cases hu⟩
  · refine ⟨_, by rw [if_neg (by simpa using h)]; rfl, fun _ _ => Nat.le_of_not_lt h⟩

/-- The call for a copy from the host. -/
def AsksFromHost (rs : List Resource) (id : Nat) (source : Value) (c : NativeCall) : Prop :=
  ∃ (r : Resource) (host : HostArray) (n : Nat), rs[id]? = some r ∧ r.released = false ∧
    r.payload.size = .int n ∧ HostArray.ofValue source = .ok host ∧ host.byteCount ≠ 0 ∧
    host.byteCount ≤ n ∧
    c = .copy (.device r.payload.address) (.host host.bytes) (.int host.byteCount) hostToDevice

theorem copyFromHost_transfer (direct : w.library = some .direct) (sized : Sized w.resources)
    (id : Nat) (source : Value) :
    Transfers w (fun _ => ∃ host, HostArray.ofValue source = .ok host ∧ host.byteCount = 0)
      (AsksFromHost w.resources id source) (fun _ _ _ => True)
      ((copyFromHost id source).outcome w).1 ((copyFromHost id source).outcome w).2 := by
  obtain ⟨result, reads, known⟩ := Ownership.active_reads id w
  refine .reading reads fun r hr => ?_
  obtain ⟨there, active⟩ := known r hr
  obtain ⟨n, size⟩ := sized r (List.mem_of_getElem? there)
  refine .reading (Action.outcome_ofExcept _ w) fun host given => ?_
  obtain ⟨result', reads', room⟩ := checkFits_reads n host.byteCount "Host array" w
  rw [← size] at reads'
  refine .reading reads' fun u hu => ?_
  by_cases empty : host.byteCount = 0
  · rw [if_pos empty]
    exact .idled ⟨host, given, empty⟩ (.refl w)
  · rw [if_neg empty]
    exact .asking direct ⟨r, host, n, there, active, size, given, empty, room u hu, rfl⟩
      fun _ _ => ⟨(), rfl, trivial⟩

/-- The array that a copy to the host fills: the given one, or a new one for all bytes. -/
structure Target (name : Nat → String) (n : Nat) (type out : Value) (a : HostArray) : Prop where
  room : a.byteCount ≤ n
  given : ∀ b, out = .array b → a = b
  fresh : out = .null → ∃ t, elementType name type = .ok t ∧ a = .blank t (n / t.size) ∧
    a.byteCount = n

theorem arrayOfWhole_ok {n : Nat} {shown : Option String} {t : ElementBlock} {a : HostArray}
    (h : arrayOfWhole n shown t = .ok a) : a = .blank t (n / t.size) ∧ a.byteCount = n := by
  unfold arrayOfWhole at h
  split at h
  · cases h
  · split at h
    · cases h
    next whole =>
      have rest : n % t.size = 0 := by
        have : ((n : Int) % t.size) = 0 := by simpa using whole
        exact_mod_cast this
      split at h
      · cases h
      · dsimp only at h
        rw [← Int.natCast_ediv, Int.toNat_natCast] at h
        split at h
        · cases h
        · split at h
          · cases h
          · split at h
            · cases h
            · cases h
              refine ⟨rfl, ?_⟩
              rw [HostArray.blank, HostArray.byteCount_blocks]
              exact Nat.div_mul_cancel (Nat.dvd_of_mod_eq_zero rest)

theorem targetArray_reads {r : Resource} {n : Nat} (size : r.payload.size = .int n)
    (type out : Value) (w : World) :
    ∃ result, (targetArray r type out).outcome w = (result, w) ∧
      ∀ a, result = .ok a → Target w.name n type out a := by
  unfold targetArray
  split
  · rw [Action.outcome_bind_ok (Action.outcome_get w)]
    have named := Action.outcome_ofExcept (elementType w.name type) w
    cases known : elementType w.name type with
    | error f =>
      rw [known] at named
      exact ⟨_, Action.outcome_bind_error named, fun a ha => by cases ha⟩
    | ok t =>
      rw [known] at named
      rw [Action.outcome_bind_ok named]
      refine ⟨_, Action.outcome_ofExcept _ w, ?_⟩
      intro a ha
      rw [size] at ha
      obtain ⟨blank, whole⟩ := arrayOfWhole_ok ha
      exact ⟨Nat.le_of_eq whole, fun b hb => (by cases hb), fun _ => ⟨t, known, blank, whole⟩⟩
  next b =>
    split
    · exact ⟨_, rfl, fun a ha => by cases ha⟩
    · obtain ⟨result, reads, room⟩ := checkFits_reads n b.byteCount "Output array" w
      rw [← size] at reads
      cases result with
      | error f => exact ⟨_, Action.outcome_bind_error reads, fun a ha => by cases ha⟩
      | ok u =>
        refine ⟨_, Action.outcome_bind_ok reads, ?_⟩
        intro a ha
        cases ha
        exact ⟨room u rfl, fun c hc => (by cases hc; rfl), fun null => by cases null⟩
  · exact ⟨_, rfl, fun a ha => by cases ha⟩
  · exact ⟨_, Action.outcome_ofExcept _ w, fun a ha => by cases ha⟩

theorem numbered_eq (w : World) (a : HostArray) : ∃ k, numbered w a = { a with identity := k } := by
  unfold numbered
  split
  · exact ⟨_, rfl⟩
  · exact ⟨a.identity, rfl⟩

/-- The call for a copy to the host, by the array that it fills. -/
def AsksToHost (w : World) (id : Nat) (type out : Value) (a : HostArray) (c : NativeCall) : Prop :=
  ∃ (r : Resource) (n : Nat), w.resources[id]? = some r ∧ r.released = false ∧
    r.payload.size = .int n ∧ Target w.name n type out a ∧ a.byteCount ≠ 0 ∧
    c = .copy (.host []) (.device r.payload.address) (.int a.byteCount) deviceToHost

theorem copyToHost_transfer (direct : w.library = some .direct) (sized : Sized w.resources)
    (id : Nat) (type out : Value) :
    Transfers w
      (fun v => ∃ (r : Resource) (n : Nat) (a : HostArray), w.resources[id]? = some r ∧
        r.released = false ∧ r.payload.size = .int n ∧ Target w.name n type out a ∧
        a.byteCount = 0 ∧ v = .array a)
      (fun c => ∃ a, AsksToHost w id type out a c)
      (fun c reply v => ∃ a, AsksToHost w id type out a c ∧
        ∀ bs, reply = .bytes bs → ∃ k, v = .array { a.withBytes bs with identity := k })
      ((copyToHost id type out).outcome w).1 ((copyToHost id type out).outcome w).2 := by
  obtain ⟨result, reads, known⟩ := Ownership.active_reads id w
  refine .reading reads fun r hr => ?_
  obtain ⟨there, active⟩ := known r hr
  obtain ⟨n, size⟩ := sized r (List.mem_of_getElem? there)
  obtain ⟨result', reads', target⟩ := targetArray_reads size type out w
  refine .reading reads' fun a ha => ?_
  have filled := target a ha
  by_cases empty : a.byteCount = 0
  · rw [if_pos empty]
    exact .idled ⟨r, n, a, there, active, size, filled, empty, rfl⟩ (.refl w)
  · rw [if_neg empty]
    have asks : AsksToHost w id type out a _ := ⟨r, n, there, active, size, filled, empty, rfl⟩
    refine .asking direct ⟨a, asks⟩ ?_
    intro reply w'
    cases reply with
    | bytes bs =>
      obtain ⟨k, same⟩ := numbered_eq w' (a.withBytes bs)
      refine ⟨_, rfl, a, asks, fun bs' stored => ⟨k, ?_⟩⟩
      cases stored
      rw [same]
    | _ => exact ⟨_, rfl, a, asks, fun bs same => by cases same⟩

theorem addressOf_reads (target : Value) (w : World) :
    ∃ result, (addressOf target).outcome w = (result, w) ∧
      ∀ p, result = .ok p → ∃ j, target = .handle j .pointer ∧ w.resources[j]? = some p.1 ∧
        p.1.released = false ∧ p.2 = p.1.payload.address := by
  unfold addressOf
  split
  next j =>
    obtain ⟨result, reads, known⟩ := Ownership.active_reads j w
    cases result with
    | error f => exact ⟨_, Action.outcome_bind_error reads, fun p hp => by cases hp⟩
    | ok r =>
      obtain ⟨there, active⟩ := known r rfl
      refine ⟨_, Action.outcome_bind_ok reads, ?_⟩
      intro p hp
      cases hp
      exact ⟨j, rfl, there, active, rfl⟩
  next => exact ⟨_, Action.outcome_ofExcept _ w, fun p hp => by cases hp⟩

theorem resolve_reads (direct : w.library = some .direct) (e : EntryPoint) :
    ∃ result, (Loading.resolve e).outcome w = (result, w) ∧
      ∀ l, result = .ok l → l = .direct := by
  refine ⟨_, Loading.resolve_direct direct e, ?_⟩
  intro l hl
  split at hl
  · cases hl
  · cases hl
    rfl

/-- The call for a copy between allocations. -/
def AsksAcross (rs : List Resource) (id : Nat) (target kind : Value) (c : NativeCall) : Prop :=
  ∃ (j : Nat) (source destination : Resource) (n room : Nat) (k : Int), rs[id]? = some source ∧
    source.released = false ∧ target = .handle j .pointer ∧ rs[j]? = some destination ∧
    destination.released = false ∧ source.payload.size = .int n ∧
    destination.payload.size = .int room ∧ n ≤ room ∧ source.payload.address.isSome ∧
    destination.payload.address.isSome ∧ kind.toWhole = .ok k ∧
    c = .copy (.device destination.payload.address) (.device source.payload.address) (.int n) k

theorem copyTo_transfer (direct : w.library = some .direct) (sized : Sized w.resources)
    (id : Nat) (target kind : Value) :
    Transfers w (fun _ => False) (AsksAcross w.resources id target kind) (fun _ _ _ => True)
      ((copyTo id target kind).outcome w).1 ((copyTo id target kind).outcome w).2 := by
  obtain ⟨result, reads, known⟩ := Ownership.active_reads id w
  refine .reading reads fun source hs => ?_
  obtain ⟨there, active⟩ := known source hs
  obtain ⟨n, size⟩ := sized source (List.mem_of_getElem? there)
  by_cases null : source.payload.address.isNone
  · rw [if_pos null]
    exact .refused (.refl w)
  · rw [if_neg null]
    obtain ⟨result', reads', found⟩ := addressOf_reads target w
    refine .reading reads' fun p hp => ?_
    obtain ⟨destination, address⟩ := p
    obtain ⟨j, rfl, there', active', same⟩ := found _ hp
    dsimp only at there' active' same ⊢
    subst same
    obtain ⟨room, size'⟩ := sized destination (List.mem_of_getElem? there')
    by_cases null' : destination.payload.address.isNone
    · rw [if_pos null']
      exact .refused (.refl w)
    · rw [if_neg null']
      obtain ⟨result₂, reads₂, fits⟩ := checkFits_reads room n "Copy" w
      rw [← size, ← size'] at reads₂
      refine .reading reads₂ fun u hu => ?_
      obtain ⟨result₃, reads₃, itself⟩ := resolve_reads direct .copy
      refine .reading reads₃ fun l hl => ?_
      refine .reading (Action.outcome_ofExcept _ w) fun k hk => ?_
      cases itself l hl
      refine .calling ⟨j, source, destination, n, room, k, there, active, rfl, there', active',
        size, size', fits u hu, ?_, ?_, hk, by rw [size]⟩
      · simpa [Option.isSome_iff_ne_none] using null
      · simpa [Option.isSome_iff_ne_none] using null'

/-- The number of bytes that a fill is asked for, of an allocation of `n` bytes. -/
def Filled (size : Value) (n k : Nat) : Prop :=
  size = .null ∧ k = n ∨ validSize size = .ok (k : Int)

/-- The call for a fill. -/
def AsksFill (rs : List Resource) (id : Nat) (value size : Value) (c : NativeCall) : Prop :=
  ∃ (r : Resource) (n k : Nat), rs[id]? = some r ∧ r.released = false ∧
    r.payload.size = .int n ∧ Filled size n k ∧ k ≠ 0 ∧ k ≤ n ∧
    c = .fill r.payload.address value (.int k)

theorem checkByte_reads (value : Value) (w : World) :
    ∃ result, (checkByte value).outcome w = (result, w) := by
  unfold checkByte
  rw [Action.outcome_bind_ok (Action.outcome_get w)]
  have first := Action.outcome_ofExcept ((Value.int 0).compare .atMost value) w
  cases low : (Value.int 0).compare .atMost value with
  | error f =>
    rw [low] at first
    exact ⟨_, Action.outcome_bind_error first⟩
  | ok enough =>
    rw [low] at first
    rw [Action.outcome_bind_ok first]
    have second : ∃ result, (if enough then Action.ofExcept (value.compare .atMost (.int 255))
        else pure false : Action Bool).outcome w = (result, w) := by
      split
      · exact ⟨_, Action.outcome_ofExcept _ w⟩
      · exact ⟨_, rfl⟩
    obtain ⟨result, reads⟩ := second
    cases result with
    | error f => exact ⟨_, Action.outcome_bind_error reads⟩
    | ok fits =>
      rw [Action.outcome_bind_ok reads]
      split
      · exact ⟨_, rfl⟩
      · exact ⟨_, rfl⟩

/-- Nothing is to be filled. -/
def FillsNothing (rs : List Resource) (id : Nat) (size : Value) (_ : Unit) : Prop :=
  ∃ (r : Resource) (n : Nat), rs[id]? = some r ∧ r.released = false ∧
    r.payload.size = .int n ∧ Filled size n 0

theorem fillTo_transfer (direct : w.library = some .direct) {id : Nat} (value : Value)
    {size : Value} {r : Resource} {n k : Nat} (there : w.resources[id]? = some r)
    (active : r.released = false) (length : r.payload.size = .int n)
    (filled : Filled size n k) :
    Transfers w (FillsNothing w.resources id size) (AsksFill w.resources id value size)
      (fun _ _ _ => True) ((fillTo r value (.int k)).outcome w).1
      ((fillTo r value (.int k)).outcome w).2 := by
  obtain ⟨result, reads, room⟩ := checkFits_reads n k "memset" w
  rw [← length] at reads
  refine .reading reads fun u hu => ?_
  refine .reading (Action.outcome_ofExcept _ w) fun empty same => ?_
  rw [Value.sameAs_zero] at same
  cases same
  by_cases zero : k = 0
  · rw [if_pos (decide_eq_true zero)]
    exact .idled ⟨r, n, there, active, length, zero ▸ filled⟩ (.refl w)
  · rw [if_neg (by simpa using zero)]
    exact .asking direct ⟨r, n, k, there, active, length, filled, zero, room u hu, rfl⟩
      fun _ _ => ⟨(), rfl, trivial⟩

theorem fill_transfer (direct : w.library = some .direct) (sized : Sized w.resources)
    (id : Nat) (value size : Value) :
    Transfers w (FillsNothing w.resources id size) (AsksFill w.resources id value size)
      (fun _ _ _ => True)
      ((fill id value size).outcome w).1 ((fill id value size).outcome w).2 := by
  obtain ⟨result, reads, known⟩ := Ownership.active_reads id w
  refine .reading reads fun r hr => ?_
  obtain ⟨there, active⟩ := known r hr
  obtain ⟨n, length⟩ := sized r (List.mem_of_getElem? there)
  obtain ⟨result', reads'⟩ := checkByte_reads value w
  refine .reading reads' fun _ _ => ?_
  split
  · have whole := fillTo_transfer direct value there active length (.inl ⟨rfl, rfl⟩)
    rw [← length] at whole
    exact whole
  · have counted : (Value.int <$> Action.ofExcept (validSize size)).outcome w =
        ((validSize size).map .int, w) := by
      rw [Action.outcome_map, Action.outcome_ofExcept]
    refine .reading counted fun x hx => ?_
    obtain ⟨n, known, rfl⟩ := map_ok hx
    obtain ⟨k, rfl⟩ := Int.eq_ofNat_of_zero_le (Memory.validSize_index known).2
    exact fillTo_transfer direct value there active length (.inr known)

end Memory
end GpuHandles
