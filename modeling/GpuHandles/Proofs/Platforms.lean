import GpuHandles.Proofs.LibrarySearch
/-!
What platform a text names.

A text names a platform by its lower-case form alone (`validPlatform_outcome`).  The names of
platforms stand for themselves (`validPlatform_platform`); `auto` is what the vendor tools make of
it, the first vendor's before the second's (`defaultPlatform_outcome`); every other text is refused
(`platform_of_text`).
-/

namespace GpuHandles

/-! ## Tools -/

/-- A tool lists a device: it ends well, and what it has written mentions one. -/
def ToolOutcome.Lists : ToolOutcome → Prop
  | finished code written => code = 0 ∧ Discovery.mark <:+: written
  | missing | denied | timedOut | broken => False

instance : (t : ToolOutcome) → Decidable t.Lists
  | .finished code written => inferInstanceAs (Decidable (code = 0 ∧ Discovery.mark <:+: written))
  | .missing | .denied | .timedOut | .broken => inferInstanceAs (Decidable False)

namespace Discovery

theorem occursIn_iff (needle bs : List UInt8) : occursIn needle bs = true ↔ needle <:+: bs := by
  induction bs with
  | nil => simp [occursIn]
  | cons b bs ih =>
    unfold occursIn
    rw [Bool.or_eq_true, List.isPrefixOf_iff_prefix, ih, List.infix_cons_iff]

/-- Whether a tool lists a device is known unless it fails in an unexpected way. -/
theorem lists_eq {t : ToolOutcome} (usable : t ≠ .broken) : lists t = .ok (decide t.Lists) := by
  cases t with
  | finished code written =>
    refine congrArg Except.ok ?_
    rw [Bool.eq_iff_iff, Bool.and_eq_true, beq_iff_eq, occursIn_iff, decide_eq_true_iff]
    exact Iff.rfl
  | missing | denied | timedOut => rfl
  | broken => exact absurd rfl usable

theorem probe_outcome (command : String) (arguments : List String) (w : World) :
    (probe command arguments).outcome w = (lists (w.host.outcome command),
      { w with trace := w.trace ++ [.run (command :: arguments)] }) := by
  unfold probe
  rw [Action.outcome_bind_ok (Action.outcome_record _ w),
    Action.outcome_bind_ok (Action.outcome_get _), Action.outcome_ofExcept]

/-! ## Platforms -/

/-- The commands of the vendor tools, in the order in which they are asked. -/
def vendorTools : List String := ["rocm-smi", "nvidia-smi"]

/-- The vendor tools of a host list a device, or list none; they do not fail in an unexpected
way. -/
def Usable (host : Host) : Prop := ∀ command ∈ vendorTools, host.outcome command ≠ .broken

instance (host : Host) : Decidable (Usable host) :=
  inferInstanceAs (Decidable (∀ command ∈ vendorTools, host.outcome command ≠ .broken))

/-- The platform that the hardware suggests. -/
def suggested (host : Host) : String :=
  if ¬(host.outcome "rocm-smi").Lists ∧ (host.outcome "nvidia-smi").Lists then "nvidia" else "amd"

/-- The commands that are run to learn what `auto` means; the second only if the first one did not
list a device. -/
def consulted (host : Host) : List (List String) :=
  ["rocm-smi", "--showid"] ::
    if (host.outcome "rocm-smi").Lists then [] else [["nvidia-smi", "-L"]]

variable {w : World} {s : String}

/-- The answer of a vendor tool. -/
theorem probe_usable (w : World) (usable : Usable w.host) {command : String}
    (vendor : command ∈ vendorTools) (arguments : List String) :
    (probe command arguments).outcome w = (.ok (decide (w.host.outcome command).Lists),
      { w with trace := w.trace ++ [.run (command :: arguments)] }) := by
  rw [probe_outcome, lists_eq (usable command vendor)]

theorem defaultPlatform_outcome (usable : Usable w.host) : defaultPlatform.outcome w =
    (.ok (suggested w.host), { w with trace := w.trace ++ (consulted w.host).map .run }) := by
  have amd : hasAmd.outcome w = _ := probe_usable w usable (.head _) ["--showid"]
  unfold defaultPlatform suggested consulted
  rw [Action.outcome_bind_ok amd]
  by_cases first : (w.host.outcome "rocm-smi").Lists
  · rw [if_pos (decide_eq_true first), if_pos first, if_neg fun h : ¬_ ∧ _ => h.1 first]
    rfl
  · have nvidia : hasNvidia.outcome _ = _ :=
      probe_usable { w with trace := w.trace ++ [.run ["rocm-smi", "--showid"]] } usable
        (.tail _ (.head _)) ["-L"]
    rw [if_neg (mt of_decide_eq_true first), if_neg first, Action.outcome_bind_ok nvidia]
    dsimp only [List.map_cons, List.map_nil]
    rw [List.append_assoc]
    by_cases second : (w.host.outcome "nvidia-smi").Lists
    · rw [if_pos (decide_eq_true second), if_pos ⟨first, second⟩]
      rfl
    · rw [if_neg (mt of_decide_eq_true second), if_neg fun h : ¬_ ∧ _ => second h.2]
      rfl

theorem suggested_mem (host : Host) : suggested host ∈ platforms := by
  unfold suggested
  split <;> decide

theorem suggested_eq_nvidia_iff (host : Host) : suggested host = "nvidia" ↔
    ¬(host.outcome "rocm-smi").Lists ∧ (host.outcome "nvidia-smi").Lists := by
  unfold suggested
  split
  next lists => exact ⟨fun _ => lists, fun _ => rfl⟩
  next none => exact ⟨fun same => absurd same (by decide), fun lists => absurd lists none⟩

/-- The names of platforms are in lower case. -/
theorem lowercase_platform {p : String} (known : p ∈ platforms) : Text.lowercase p = p := by
  have each : ∀ p ∈ platforms, Text.lowercase p = p := by decide
  exact each p known

/-- What a text names: the platform of its lower-case form, or what the tools make of `auto`. -/
theorem validPlatform_outcome (s : String) (w : World) (usable : Usable w.host) :
    (validPlatform (.text s)).outcome w =
      if Text.lowercase s = "auto" then
        (.ok (suggested w.host), { w with trace := w.trace ++ (consulted w.host).map .run })
      else (if Text.lowercase s ∈ platforms then .ok (Text.lowercase s)
        else .error (.badPlatform s), w) := by
  have named : (validPlatform (.text s)).outcome w = (platformOf s).outcome w := rfl
  rw [named]
  by_cases auto : Text.lowercase s = "auto"
  · rw [if_pos auto, ← defaultPlatform_outcome usable]
    unfold platformOf
    rw [if_pos (beq_iff_eq.2 auto)]
  · rw [if_neg auto, platformOf_outcome auto]
    simp only [List.contains_iff_mem]

/-- A text names what the tools suggest, or the platform that it is in lower case, or nothing. -/
theorem validPlatform_cases (s : String) (w : World) (usable : Usable w.host) :
    (Text.lowercase s = "auto" ∧ (validPlatform (.text s)).outcome w =
      (.ok (suggested w.host), { w with trace := w.trace ++ (consulted w.host).map .run })) ∨
    (Text.lowercase s ∈ platforms ∧ Text.lowercase s ≠ "auto" ∧
      (validPlatform (.text s)).outcome w = (.ok (Text.lowercase s), w)) ∨
    (Text.lowercase s ∉ ["amd", "nvidia", "auto"] ∧
      (validPlatform (.text s)).outcome w = (.error (.badPlatform s), w)) := by
  rw [validPlatform_outcome s w usable]
  by_cases auto : Text.lowercase s = "auto"
  · exact .inl ⟨auto, if_pos auto⟩
  · rw [if_neg auto]
    by_cases known : Text.lowercase s ∈ platforms
    · exact .inr (.inl ⟨known, auto, by rw [if_pos known]⟩)
    · refine .inr (.inr ⟨?_, by rw [if_neg known]⟩)
      rw [show ["amd", "nvidia", "auto"] = platforms ++ ["auto"] from rfl, List.mem_append,
        List.mem_singleton]
      exact not_or.2 ⟨known, auto⟩

/-- A platform names itself, and no tool is asked. -/
theorem validPlatform_platform {p : String} (known : p ∈ platforms) (w : World) :
    (validPlatform (.text p)).outcome w = (.ok p, w) := by
  have lowered := lowercase_platform known
  have other : ∀ p ∈ platforms, p ≠ "auto" := by decide
  have plain : Text.lowercase p ≠ "auto" := by
    rw [lowered]
    exact other p known
  show (platformOf p).outcome w = _
  rw [platformOf_outcome plain, lowered, if_pos (List.contains_iff_mem.2 known)]

end Discovery

open Discovery (validPlatform platforms Usable)

/-- **What platform a text names**, on a host whose vendor tools can be used:

* it names a platform, or is refused, and this exactly if its lower-case form is neither a platform
  nor `auto`;
* texts with one lower-case form end alike, but for the text that a refusal quotes;
* the name of a platform stands for itself on every host, and no tool is run for it;
* tools are run for `auto` alone, the first vendor's first, the second vendor's if and only if that
  one did not list a device;
* `auto` is the second vendor's platform exactly if its tool lists a device and the other does
  not. -/
theorem platform_of_text (w : World) (usable : Usable w.host) (s : String) :
    let run := (validPlatform (.text s)).outcome w
    let lists := fun command => (w.host.outcome command).Lists
    ((∃ p ∈ ["amd", "nvidia"], run.1 = .ok p) ∨
      run.1 = .error (.badPlatform s) ∧ (Fault.badPlatform s).kind = "ValueError") ∧
    (run.1 = .error (.badPlatform s) ↔ Text.lowercase s ∉ ["amd", "nvidia", "auto"]) ∧
    (∀ t, Text.lowercase t = Text.lowercase s →
      (validPlatform (.text t)).outcome w = (run.1.mapError fun _ => .badPlatform t, run.2)) ∧
    (∀ p, run.1 = .ok p → ∀ v, (validPlatform (.text p)).outcome v = (.ok p, v)) ∧
    run.2 = { w with trace := w.trace ++ List.map .run (if Text.lowercase s = "auto" then
      ["rocm-smi", "--showid"] :: if lists "rocm-smi" then [] else [["nvidia-smi", "-L"]]
      else []) } ∧
    (Text.lowercase s = "auto" →
      (run.1 = .ok "nvidia" ↔ ¬lists "rocm-smi" ∧ lists "nvidia-smi")) := by
  intro run lists
  have same (t : String) (alike : Text.lowercase t = Text.lowercase s) :
      (validPlatform (.text t)).outcome w = (run.1.mapError fun _ => .badPlatform t, run.2) := by
    show _ = (((validPlatform (.text s)).outcome w).1.mapError _,
      ((validPlatform (.text s)).outcome w).2)
    rw [Discovery.validPlatform_outcome t w usable, Discovery.validPlatform_outcome s w usable,
      alike]
    split
    · rfl
    · split <;> rfl
  have again (p) (known : p ∈ platforms) (v) : (validPlatform (.text p)).outcome v = (.ok p, v) :=
    Discovery.validPlatform_platform known v
  have untouched : { w with trace := w.trace ++ [] } = w := by rw [List.append_nil]
  rcases Discovery.validPlatform_cases s w usable with
    ⟨auto, ended⟩ | ⟨known, plain, ended⟩ | ⟨unknown, ended⟩
  -- the tools are asked
  · have found : run = _ := ended
    have known := Discovery.suggested_mem w.host
    refine ⟨.inl ⟨_, known, by rw [found]⟩, ?_, same, ?_, ?_, fun _ => ?_⟩
    · rw [found, auto]
      exact ⟨nofun, fun other => absurd (by decide) other⟩
    · rw [found]
      rintro _ ⟨⟩ v
      exact again _ known v
    · rw [found, if_pos auto]
      rfl
    · rw [found, Except.ok.injEq]
      exact Discovery.suggested_eq_nvidia_iff w.host
  -- the text is a platform
  · have found : run = _ := ended
    refine ⟨.inl ⟨_, known, by rw [found]⟩, ?_, same, ?_, ?_, fun auto => absurd auto plain⟩
    · rw [found]
      exact ⟨nofun, fun other => absurd (List.mem_append_left ["auto"] known) other⟩
    · rw [found]
      rintro _ ⟨⟩ v
      exact again _ known v
    · rw [found, if_neg plain]
      exact untouched.symm
  -- the text is refused
  · have found : run = _ := ended
    have plain : Text.lowercase s ≠ "auto" := by
      intro auto
      rw [auto] at unknown
      exact absurd (by decide) unknown
    refine ⟨.inr ⟨by rw [found], rfl⟩, ?_, same, ?_, ?_, fun auto => absurd auto plain⟩
    · rw [found]
      exact ⟨fun _ => unknown, fun _ => rfl⟩
    · rw [found]
      exact nofun
    · rw [found, if_neg plain]
      exact untouched.symm

/-- The first tool runs out of time and the second lists a device: `Auto` is the second vendor's
platform, which then stands for itself on a host without tools. -/
theorem platform_of_text_auto :
    let written : List UInt8 := [71, 80, 85, 32, 48, 58]
    let host : Host :=
      { Host.bare with tools := [("rocm-smi", .timedOut), ("nvidia-smi", .finished 0 written)] }
    let w := World.start host .fresh none
    let v := World.start .bare .fresh none
    let run := (validPlatform (.text "Auto")).outcome w
    Usable host ∧ run.1 = .ok "nvidia" ∧
      run.2.trace = [.run ["rocm-smi", "--showid"], .run ["nvidia-smi", "-L"]] ∧
      (validPlatform (.text "nvidia")).outcome v = (.ok "nvidia", v) := by
  intro written host w v run
  have usable : Usable host := by decide
  obtain ⟨-, -, -, again, ended, auto⟩ := platform_of_text w usable "Auto"
  have chosen : run.1 = .ok "nvidia" := (auto (by decide)).2 (by decide)
  refine ⟨usable, chosen, ?_, again _ chosen v⟩
  rw [show run.2 = _ from ended, if_pos (by decide)]
  rfl

end GpuHandles
