import CameraHotplug.Bench
import CameraHotplug.Proofs.NodeName
import CameraHotplug.Proofs.Observation
import Mathlib.Data.List.DropRight

/-!
# What a classification is decided by

A node introduces itself when it opens for a probe, tells its capability and has a readable name.
From then on the verdict is decided by what it has shown: its name keeps codecs out, its driver
tells cameras from receivers, and only a camera is asked for a format. Nothing is asked after an
answer that decides.
-/

namespace CameraHotplug

namespace Text

/-- `name` is what is left of `content` without the blanks at its end. -/
structure Trims (content name : String) : Prop where
  rest : ∃ blanks : List Char, content.toList = name.toList ++ blanks ∧
    ∀ char ∈ blanks, isBlank char = true
  bare : ∀ char ∈ name.toList.getLast?, isBlank char = false

theorem toList_trimEnd (content : String) :
    (trimEnd content).toList = content.toList.rdropWhile isBlank :=
  String.toList_ofList

theorem trims_trimEnd (content : String) : Trims content (trimEnd content) := by
  constructor
  · refine ⟨content.toList.rtakeWhile isBlank, ?_, fun _ => List.mem_rtakeWhile_imp⟩
    rw [toList_trimEnd, List.rdropWhile_append_rtakeWhile]
  · intro char hchar
    rw [toList_trimEnd] at hchar
    obtain ⟨hne, rfl⟩ := List.mem_getLast?_eq_getLast hchar
    exact Bool.eq_false_iff.mpr (List.rdropWhile_last_not _ _ hne)

theorem Trims.trimEnd_eq {content name : String} (htrims : Trims content name) :
    trimEnd content = name := by
  obtain ⟨⟨blanks, hcontent, hblank⟩, hbare⟩ := htrims
  have hreverse : ∀ char ∈ blanks.reverse, isBlank char = true :=
    fun char hchar => hblank char (List.mem_reverse.mp hchar)
  apply String.toList_injective
  calc (trimEnd content).toList
      = (name.toList ++ blanks).rdropWhile isBlank := by rw [toList_trimEnd, hcontent]
    _ = name.toList.rdropWhile isBlank := by
          rw [List.rdropWhile, List.reverse_append, List.dropWhile_append_of_pos hreverse,
            List.rdropWhile]
    _ = name.toList := by
          rw [List.rdropWhile_eq_self_iff]
          intro hne
          exact Bool.eq_false_iff.mp (hbare _ (List.getLast_mem_getLast? hne))

theorem contains_iff_infix {text marker : String} :
    contains text marker = true ↔ marker.toList <:+: text.toList :=
  occurs_iff_infix _ _

end Text

theorem Patterns.isCodec_iff {patterns : Patterns} {name : String} :
    patterns.isCodec name = true ↔
      ∃ lead ∈ patterns.codecPrefixes, lead.toList <+: name.toList := by
  simp only [isCodec, List.any_eq_true, Text.startsWith_iff_prefix]

variable {σ ν δ : Type}

/-- The answers of a node that opens for a probe, tells its capability and has a readable name,
asked in this order. -/
structure Introduction (environment : Environment σ ν δ) (root : Path) (node : DeviceNode)
    (state : σ) where
  opened : ν
  capability : Capability
  content : String
  name : String
  opening : σ
  told : σ
  last : σ
  opens : environment.openNode node.path .probe state = (.ok opened, opening)
  tells : environment.queryCapability opened opening = (.ok capability, told)
  reads : environment.readAttribute (node.nameAttribute root) told = (.ok content, last)
  trims : Text.Trims content name

namespace Introduction

variable {environment : Environment σ ν δ} {root : Path} {node : DeviceNode} {state : σ}

instance : Subsingleton (Introduction environment root node state) where
  allEq left right := by
    obtain ⟨opened, capability, content, name, opening, told, last, hopens, htells, hreads,
      htrims⟩ := left
    obtain ⟨opened', capability', content', name', opening', told', last', hopens', htells',
      hreads', htrims'⟩ := right
    cases hopens.symm.trans hopens'
    cases htells.symm.trans htells'
    cases hreads.symm.trans hreads'
    obtain rfl : name = name' := htrims.trimEnd_eq.symm.trans htrims'.trimEnd_eq
    rfl

variable (shown : Introduction environment root node state)

def IsCodec (patterns : Patterns) : Prop :=
  ∃ lead ∈ patterns.codecPrefixes, lead.toList <+: shown.name.toList

def HasMarker (marker : String) : Prop :=
  marker.toList <:+: shown.capability.driver.toList

def IsReceiver (patterns : Patterns) : Prop :=
  patterns.receiverPrefix.toList <+: shown.name.toList

instance (marker : String) : Decidable (shown.HasMarker marker) :=
  inferInstanceAs (Decidable (_ <:+: _))

instance (patterns : Patterns) : Decidable (shown.IsReceiver patterns) :=
  inferInstanceAs (Decidable (_ <+: _))

/-- The answer when the first format of the capture queue is asked for next. -/
def firstFormat : Except IoError FourCC × σ :=
  environment.enumerateFormat shown.opened Kernel.captureQueue 0 shown.last

def Enumerates : Prop :=
  ∃ format, shown.firstFormat.1 = .ok format

def calls : List Call :=
  [.openNode node.path .probe (.ok ()), .queryCapability (.ok shown.capability),
    .readAttribute (node.nameAttribute root) (.ok shown.content)]

end Introduction

section Classify

variable {environment : Environment σ ν δ} {settings : Settings} {node : DeviceNode}
  {observed : Observed σ}

namespace Introduction

variable (shown : Introduction environment settings.sysfsRoot node observed.state)

/-- What is observed once the node has introduced itself. -/
def outside : Observed σ :=
  ⟨shown.last, observed.calls ++ [.openNode node.path .probe (.ok ())] ++
    [.queryCapability (.ok shown.capability)] ++
    [.readAttribute (node.nameAttribute settings.sysfsRoot) (.ok shown.content)]⟩

def afterFormat : Observed σ :=
  ⟨shown.firstFormat.2, shown.outside.calls ++
    [.enumerateFormat Kernel.captureQueue 0 shown.firstFormat.1]⟩

theorem classify_eq :
    classify environment settings node observed =
      if settings.patterns.isCodec shown.name then (.notExternal, shown.outside)
      else if Text.contains shown.capability.driver settings.patterns.uvcMarker then
        (match shown.firstFormat.1 with | .ok _ => .external | .error _ => .notExternal,
          shown.afterFormat)
      else if Text.contains shown.capability.driver settings.patterns.captureMarker &&
          Text.startsWith shown.name settings.patterns.receiverPrefix then
        (.externalReceiver, shown.outside)
      else (.notExternal, shown.outside) := by
  have hopen : Observed.openNode environment node.path .probe observed =
      (.ok shown.opened,
        ⟨shown.opening, observed.calls ++ [.openNode node.path .probe (.ok ())]⟩) := by
    rw [Observed.openNode, Observed.call_apply, shown.opens]
    rfl
  have htell : ∀ earlier, Observed.queryCapability environment shown.opened
      ⟨shown.opening, earlier⟩ =
        (.ok shown.capability,
          ⟨shown.told, earlier ++ [.queryCapability (.ok shown.capability)]⟩) := by
    intro earlier
    rw [Observed.queryCapability, Observed.call_apply, shown.tells]
  have hread : ∀ earlier, Observed.readAttribute environment (node.nameAttribute settings.sysfsRoot)
      ⟨shown.told, earlier⟩ =
        (.ok shown.content, ⟨shown.last, earlier ++
          [.readAttribute (node.nameAttribute settings.sysfsRoot) (.ok shown.content)]⟩) := by
    intro earlier
    rw [Observed.readAttribute, Observed.call_apply, shown.reads]
  have hask : Observed.enumerateFormat environment shown.opened Kernel.captureQueue 0
      shown.outside = (shown.firstFormat.1, shown.afterFormat) := rfl
  simp only [classify, bind_apply, hopen, htell, hread, shown.trims.trimEnd_eq]
  split_ifs
  · rfl
  · change (Observed.enumerateFormat environment shown.opened Kernel.captureQueue 0 >>= _)
      shown.outside = _
    rw [bind_apply, hask]
    cases shown.firstFormat.1 <;> rfl
  · rfl
  · rfl

end Introduction

/-- What is asked about a node, without the answer. -/
inductive Question where
  | openNode (path : Path) (mode : OpenMode)
  | queryCapability
  | readAttribute (path : Path)
  | enumerateFormat (queue index : UInt32)

def Call.question? : Call → Option Question
  | .openNode path mode _ => some (.openNode path mode)
  | .queryCapability _ => some .queryCapability
  | .readAttribute path _ => some (.readAttribute path)
  | .enumerateFormat queue index _ => some (.enumerateFormat queue index)
  | _ => none

def Call.isAnswered : Call → Bool
  | .openNode _ _ (.ok _) | .queryCapability (.ok _) => true
  | .readAttribute _ (.ok _) | .enumerateFormat _ _ (.ok _) => true
  | _ => false

/-- All that a classification may ask, in its order. -/
def questions (settings : Settings) (node : DeviceNode) : List Question :=
  [.openNode node.path .probe, .queryCapability,
    .readAttribute (node.nameAttribute settings.sysfsRoot), .enumerateFormat Kernel.captureQueue 0]

/-- The calls ask in the order of a classification, and none follows one that fails. -/
structure Follows (settings : Settings) (node : DeviceNode) (made : List Call) : Prop where
  asked : made.map Call.question? <+: (questions settings node).map some
  answered : ∀ call ∈ made.dropLast, call.isAnswered = true

theorem classify_of_isEmpty
    (hnone : IsEmpty (Introduction environment settings.sysfsRoot node observed.state)) :
    (classify environment settings node observed).1 = .notExternal ∧
      ∃ made, (classify environment settings node observed).2.calls = observed.calls ++ made ∧
        Follows settings node made ∧
        ∀ answer, .enumerateFormat Kernel.captureQueue 0 answer ∉ made := by
  unfold classify
  rw [bind_apply, Observed.openNode, Observed.call_apply]
  rcases hopen : environment.openNode node.path .probe observed.state with
    ⟨cause | opened, opening⟩
  · refine ⟨rfl, [.openNode node.path .probe (.error cause)], rfl, ?_, by simp⟩
    exact ⟨⟨_, rfl⟩, by simp⟩
  dsimp only
  rw [bind_apply, Observed.queryCapability, Observed.call_apply]
  rcases htell : environment.queryCapability opened opening with ⟨cause | capability, told⟩
  · refine ⟨rfl, [.openNode node.path .probe (.ok ()), .queryCapability (.error cause)],
      List.append_assoc _ _ _, ?_, by simp⟩
    exact ⟨⟨_, rfl⟩, by simp [Call.isAnswered]⟩
  dsimp only
  rw [bind_apply, Observed.readAttribute, Observed.call_apply]
  rcases hread : environment.readAttribute (node.nameAttribute settings.sysfsRoot) told with
    ⟨cause | content, last⟩
  · refine ⟨rfl, [.openNode node.path .probe (.ok ()), .queryCapability (.ok capability),
      .readAttribute (node.nameAttribute settings.sysfsRoot) (.error cause)], ?_, ?_, by simp⟩
    · simp [pure_apply, Except.map]
    · exact ⟨⟨_, rfl⟩, by simp [Call.isAnswered]⟩
  exact hnone.elim ⟨opened, capability, content, Text.trimEnd content, opening, told, last,
    hopen, htell, hread, Text.trims_trimEnd content⟩

namespace Introduction

variable (shown : Introduction environment settings.sysfsRoot node observed.state)

theorem classify_of_isCodec (hcodec : shown.IsCodec settings.patterns) :
    classify environment settings node observed = (.notExternal, shown.outside) := by
  rw [shown.classify_eq, if_pos (Patterns.isCodec_iff.mpr hcodec)]

theorem classify_of_uvc (hcodec : ¬ shown.IsCodec settings.patterns)
    (huvc : shown.HasMarker settings.patterns.uvcMarker) :
    classify environment settings node observed =
      (match shown.firstFormat.1 with | .ok _ => .external | .error _ => .notExternal,
        shown.afterFormat) := by
  rw [shown.classify_eq, if_neg (mt Patterns.isCodec_iff.mp hcodec),
    if_pos (Text.contains_iff_infix.mpr huvc)]

theorem classify_of_not_uvc (hcodec : ¬ shown.IsCodec settings.patterns)
    (huvc : ¬ shown.HasMarker settings.patterns.uvcMarker) :
    classify environment settings node observed =
      (if shown.HasMarker settings.patterns.captureMarker ∧ shown.IsReceiver settings.patterns then
        .externalReceiver else .notExternal, shown.outside) := by
  rw [shown.classify_eq, if_neg (mt Patterns.isCodec_iff.mp hcodec),
    if_neg (mt Text.contains_iff_infix.mp huvc)]
  by_cases hreceiver : shown.HasMarker settings.patterns.captureMarker ∧
      shown.IsReceiver settings.patterns
  · rw [if_pos hreceiver, if_pos (Bool.and_eq_true_iff.mpr
      ⟨Text.contains_iff_infix.mpr hreceiver.1, Text.startsWith_iff_prefix.mpr hreceiver.2⟩)]
  · rw [if_neg hreceiver, if_neg]
    rw [Bool.and_eq_true, Text.contains_iff_infix, Text.startsWith_iff_prefix]
    exact hreceiver

theorem external_iff :
    (classify environment settings node observed).1 = .external ↔
      ¬ shown.IsCodec settings.patterns ∧ shown.HasMarker settings.patterns.uvcMarker ∧
        shown.Enumerates := by
  by_cases hcodec : shown.IsCodec settings.patterns
  · simp [shown.classify_of_isCodec hcodec, hcodec]
  by_cases huvc : shown.HasMarker settings.patterns.uvcMarker
  · rw [shown.classify_of_uvc hcodec huvc, and_iff_right hcodec, and_iff_right huvc, Enumerates]
    cases shown.firstFormat.1 <;> simp
  · rw [shown.classify_of_not_uvc hcodec huvc]
    split_ifs <;> simp [huvc]

theorem externalReceiver_iff :
    (classify environment settings node observed).1 = .externalReceiver ↔
      ¬ shown.IsCodec settings.patterns ∧ shown.HasMarker settings.patterns.captureMarker ∧
        ¬ shown.HasMarker settings.patterns.uvcMarker ∧ shown.IsReceiver settings.patterns := by
  by_cases hcodec : shown.IsCodec settings.patterns
  · simp [shown.classify_of_isCodec hcodec, hcodec]
  by_cases huvc : shown.HasMarker settings.patterns.uvcMarker
  · rw [shown.classify_of_uvc hcodec huvc]
    cases shown.firstFormat.1 <;> simp [huvc]
  · rw [shown.classify_of_not_uvc hcodec huvc]
    simp [hcodec, huvc]

theorem calls_classify :
    ∃ made, (classify environment settings node observed).2.calls = observed.calls ++ made ∧
      Follows settings node made ∧
      ((∃ answer, .enumerateFormat Kernel.captureQueue 0 answer ∈ made) ↔
        ¬ shown.IsCodec settings.patterns ∧ shown.HasMarker settings.patterns.uvcMarker) := by
  have houtside : shown.outside.calls = observed.calls ++ shown.calls := by simp [outside, calls]
  have hfollows : Follows settings node shown.calls :=
    ⟨⟨_, rfl⟩, by simp [calls, Call.isAnswered]⟩
  have hunasked : ∀ answer, .enumerateFormat Kernel.captureQueue 0 answer ∉ shown.calls := by
    simp [calls]
  by_cases hcodec : shown.IsCodec settings.patterns
  · refine ⟨shown.calls, ?_, hfollows, ?_⟩
    · rw [shown.classify_of_isCodec hcodec, houtside]
    · simp [hunasked, hcodec]
  by_cases huvc : shown.HasMarker settings.patterns.uvcMarker
  · refine ⟨shown.calls ++ [.enumerateFormat Kernel.captureQueue 0 shown.firstFormat.1],
      ?_, ?_, ?_⟩
    · rw [shown.classify_of_uvc hcodec huvc, ← List.append_assoc, ← houtside, afterFormat]
    · exact ⟨⟨[], rfl⟩, by simp [calls, Call.isAnswered]⟩
    · simp [hcodec, huvc]
  · refine ⟨shown.calls, ?_, hfollows, ?_⟩
    · rw [shown.classify_of_not_uvc hcodec huvc, houtside]
    · simp [hunasked, huvc]

end Introduction

variable (environment settings) in
def ShowsCamera (node : DeviceNode) (state : σ) : Prop :=
  ∃ shown : Introduction environment settings.sysfsRoot node state,
    ¬ shown.IsCodec settings.patterns ∧ shown.HasMarker settings.patterns.uvcMarker ∧
      shown.Enumerates

variable (environment settings) in
def ShowsReceiver (node : DeviceNode) (state : σ) : Prop :=
  ∃ shown : Introduction environment settings.sysfsRoot node state,
    ¬ shown.IsCodec settings.patterns ∧ shown.HasMarker settings.patterns.captureMarker ∧
      ¬ shown.HasMarker settings.patterns.uvcMarker ∧ shown.IsReceiver settings.patterns

theorem nonempty_introduction
    (hexternal : (classify environment settings node observed).1 ≠ .notExternal) :
    Nonempty (Introduction environment settings.sysfsRoot node observed.state) := by
  by_contra hnone
  rw [not_nonempty_iff] at hnone
  exact hexternal (classify_of_isEmpty hnone).1

theorem classify_eq_external_iff :
    (classify environment settings node observed).1 = .external ↔
      ShowsCamera environment settings node observed.state := by
  refine ⟨?_, fun ⟨shown, hshown⟩ => shown.external_iff.mpr hshown⟩
  intro hexternal
  obtain ⟨shown⟩ := nonempty_introduction (hexternal.trans_ne nofun)
  exact ⟨shown, shown.external_iff.mp hexternal⟩

theorem classify_eq_externalReceiver_iff :
    (classify environment settings node observed).1 = .externalReceiver ↔
      ShowsReceiver environment settings node observed.state := by
  refine ⟨?_, fun ⟨shown, hshown⟩ => shown.externalReceiver_iff.mpr hshown⟩
  intro hreceiver
  obtain ⟨shown⟩ := nonempty_introduction (hreceiver.trans_ne nofun)
  exact ⟨shown, shown.externalReceiver_iff.mp hreceiver⟩

def Settings.withCodecs (settings : Settings) (prefixes : List String) : Settings :=
  { settings with patterns := { settings.patterns with codecPrefixes := prefixes } }

/-- More codec prefixes keep more nodes out and change nothing else. -/
theorem classify_withCodecs {more : List String}
    (hmore : settings.patterns.codecPrefixes ⊆ more) :
    (classify environment (settings.withCodecs more) node observed).1 = .notExternal ∨
      (classify environment (settings.withCodecs more) node observed).1 =
        (classify environment settings node observed).1 := by
  cases hstricter : (classify environment (settings.withCodecs more) node observed).1 with
  | notExternal => exact Or.inl rfl
  | external =>
      obtain ⟨shown, hcodec, hrest⟩ := classify_eq_external_iff.mp hstricter
      right
      symm
      refine classify_eq_external_iff.mpr ⟨shown, ?_, hrest⟩
      exact fun ⟨lead, hlead, hname⟩ => hcodec ⟨lead, hmore hlead, hname⟩
  | externalReceiver =>
      obtain ⟨shown, hcodec, hrest⟩ := classify_eq_externalReceiver_iff.mp hstricter
      right
      symm
      refine classify_eq_externalReceiver_iff.mpr ⟨shown, ?_, hrest⟩
      exact fun ⟨lead, hlead, hname⟩ => hcodec ⟨lead, hmore hlead, hname⟩

variable (environment settings node observed) in
/-- The verdict is decided by what the node shows, the calls stop at the first that fails, a format
is asked for exactly of those nodes with the driver of a USB camera that are no codecs, and more
codec prefixes can only keep a node out. -/
theorem classify_decides :
    let verdict := (classify environment settings node observed).1
    (verdict = .external ↔ ShowsCamera environment settings node observed.state) ∧
    (verdict = .externalReceiver ↔ ShowsReceiver environment settings node observed.state) ∧
    (verdict = .notExternal ↔ ¬ ShowsCamera environment settings node observed.state ∧
      ¬ ShowsReceiver environment settings node observed.state) ∧
    (∃ made, (classify environment settings node observed).2.calls = observed.calls ++ made ∧
      Follows settings node made ∧
      ((∃ answer, .enumerateFormat Kernel.captureQueue 0 answer ∈ made) ↔
        ∃ shown : Introduction environment settings.sysfsRoot node observed.state,
          ¬ shown.IsCodec settings.patterns ∧ shown.HasMarker settings.patterns.uvcMarker)) ∧
    ∀ more, settings.patterns.codecPrefixes ⊆ more →
      (classify environment (settings.withCodecs more) node observed).1 = .notExternal ∨
        (classify environment (settings.withCodecs more) node observed).1 = verdict := by
  intro verdict
  refine ⟨classify_eq_external_iff, classify_eq_externalReceiver_iff, ?_, ?_,
    fun more => classify_withCodecs⟩
  · rw [← classify_eq_external_iff, ← classify_eq_externalReceiver_iff]
    change verdict = _ ↔ ¬ verdict = _ ∧ ¬ verdict = _
    cases verdict <;> simp
  · rcases isEmpty_or_nonempty (Introduction environment settings.sysfsRoot node observed.state)
      with hnone | ⟨⟨shown⟩⟩
    · obtain ⟨-, made, hcalls, hfollows, hunasked⟩ := classify_of_isEmpty hnone
      refine ⟨made, hcalls, hfollows, ?_⟩
      simp [hunasked]
    · obtain ⟨made, hcalls, hfollows, hasked⟩ := shown.calls_classify
      refine ⟨made, hcalls, hfollows, hasked.trans ⟨fun hshown => ⟨shown, hshown⟩, ?_⟩⟩
      rintro ⟨other, hother⟩
      obtain rfl := Subsingleton.elim other shown
      exact hother

end Classify

/-- A USB camera whose name begins with `USB`. -/
def usbBench : Observed Bench :=
  ⟨(Bench.ofSettings .standard).addNode "video2" .uvcCamera, []⟩

theorem usbBench_kept_out :
    let world := Bench.environment fun _ _ => Construction.built ()
    let node : DeviceNode := ⟨"video2", ⟨"/dev/video2"⟩, 2⟩
    let more := "USB" :: Settings.standard.patterns.codecPrefixes
    Settings.standard.patterns.codecPrefixes ⊆ more ∧
      ShowsCamera world .standard node usbBench.state ∧
      (classify world (Settings.standard.withCodecs more) node usbBench).1 = .notExternal := by
  intro world node more
  have hmore : Settings.standard.patterns.codecPrefixes ⊆ more := List.subset_cons_self _ _
  obtain ⟨hcamera, -, -, -, hstricter⟩ := classify_decides world .standard node usbBench
  have hexternal : (classify world .standard node usbBench).1 = .external := by decide +kernel
  have hchanged : (classify world (Settings.standard.withCodecs more) node usbBench).1 ≠
      (classify world .standard node usbBench).1 := by decide +kernel
  exact ⟨hmore, hcamera.mp hexternal, (hstricter more hmore).resolve_right hchanged⟩

end CameraHotplug
