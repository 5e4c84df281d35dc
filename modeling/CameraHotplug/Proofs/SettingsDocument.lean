import CameraHotplug.Settings.Document
import CameraHotplug.Proofs.Ascending
import CameraHotplug.Proofs.JsonWriting

/-!
# Settings are what their document says

A document that gives some fields of some settings, in any order and among members that mean
nothing, is read as those fields with the standard values for the rest, unless that is flawed. The
document that the settings themselves are written as is one of these.
-/

namespace CameraHotplug

open Json

/-! ### Patterns -/

namespace Patterns

inductive Field where
  | codecPrefixes
  | uvcMarker
  | captureMarker
  | receiverPrefix
  deriving DecidableEq

namespace Field

def all : List Field :=
  [.codecPrefixes, .uvcMarker, .captureMarker, .receiverPrefix]

theorem mem_all (field : Field) : field ∈ all := by
  cases field <;> decide

def name : Field → String
  | .codecPrefixes => "codec_name_prefixes"
  | .uvcMarker => "uvc_marker"
  | .captureMarker => "capture_marker"
  | .receiverPrefix => "receiver_name_prefix"

/-- The ways to write a field of some patterns. -/
def Writes (patterns : Patterns) : Field → List Char → Prop
  | .codecPrefixes => IsList IsText patterns.codecPrefixes
  | .uvcMarker => IsText patterns.uvcMarker
  | .captureMarker => IsText patterns.captureMarker
  | .receiverPrefix => IsText patterns.receiverPrefix

def json (patterns : Patterns) : Field → Json
  | .codecPrefixes => .array (patterns.codecPrefixes.map .string)
  | .uvcMarker => .string patterns.uvcMarker
  | .captureMarker => .string patterns.captureMarker
  | .receiverPrefix => .string patterns.receiverPrefix

theorem writes_json (patterns : Patterns) (field : Field) :
    field.Writes patterns (field.json patterns).compact := by
  cases field with
  | codecPrefixes => exact layout_compact.isList layout_compact.isText _
  | uvcMarker => exact layout_compact.isText _
  | captureMarker => exact layout_compact.isText _
  | receiverPrefix => exact layout_compact.isText _

def put (patterns : Patterns) : Field → Patterns → Patterns
  | .codecPrefixes, other => { other with codecPrefixes := patterns.codecPrefixes }
  | .uvcMarker, other => { other with uvcMarker := patterns.uvcMarker }
  | .captureMarker, other => { other with captureMarker := patterns.captureMarker }
  | .receiverPrefix, other => { other with receiverPrefix := patterns.receiverPrefix }

end Field

/-- An object of some fields. -/
def jsonOf (patterns : Patterns) (fields : List Field) : Json :=
  .object (fields.map fun field => (field.name, field.json patterns))

theorem isRecord_jsonOf (patterns : Patterns) {fields : List Field} (hnodup : fields.Nodup) :
    IsRecord Field.name (Field.Writes patterns) fields (patterns.jsonOf fields).compact :=
  (layout_compact.isObject (fun field _ => Field.writes_json patterns field) hnodup).isRecord

/-- Some fields of `patterns`, and the others as they are. -/
def taking (other patterns : Patterns) (fields : List Field) : Patterns where
  codecPrefixes :=
    if .codecPrefixes ∈ fields then patterns.codecPrefixes else other.codecPrefixes
  uvcMarker := if .uvcMarker ∈ fields then patterns.uvcMarker else other.uvcMarker
  captureMarker := if .captureMarker ∈ fields then patterns.captureMarker else other.captureMarker
  receiverPrefix :=
    if .receiverPrefix ∈ fields then patterns.receiverPrefix else other.receiverPrefix

theorem foldl_put (other patterns : Patterns) (fields : List Field) :
    fields.foldl (fun other field => field.put patterns other) other =
      other.taking patterns fields := by
  induction fields generalizing other with
  | nil => simp [taking]
  | cons field fields ih =>
      rw [List.foldl_cons, ih]
      cases field <;> simp [taking, Field.put]

theorem covers_parts (patterns : Patterns) :
    Covers parts Field.name (Field.Writes patterns) (Field.put patterns) where
  injective := injective_of_nodup Field.mem_all (by decide)
  known field := by
    cases field with
    | codecPrefixes =>
        refine ⟨_, rfl, ?_⟩
        intro chars hchars
        exact (reads_of_isList (fun _ _ => reads_of_isText) hchars).part _ _
    | uvcMarker => exact ⟨_, rfl, fun _ hchars => (reads_of_isText hchars).part _ _⟩
    | captureMarker => exact ⟨_, rfl, fun _ hchars => (reads_of_isText hchars).part _ _⟩
    | receiverPrefix => exact ⟨_, rfl, fun _ hchars => (reads_of_isText hchars).part _ _⟩
  unknown other hother := find?_eq_none_of_names Field.all rfl hother

end Patterns

/-! ### Settings -/

namespace Settings

inductive Field where
  | idOffset
  | internalDevices
  | versionMinor
  | deviceDirectory
  | nodePrefix
  | auxPrefix
  | sysfsRoot
  | settleDelay
  | receiverSettleDelay
  | pollTimeout
  | patterns
  deriving DecidableEq

namespace Field

def all : List Field :=
  [.idOffset, .internalDevices, .versionMinor, .deviceDirectory, .nodePrefix, .auxPrefix,
    .sysfsRoot, .settleDelay, .receiverSettleDelay, .pollTimeout, .patterns]

theorem mem_all (field : Field) : field ∈ all := by
  cases field <;> decide

def name : Field → String
  | .idOffset => "camera_id_offset"
  | .internalDevices => "internal_devices"
  | .versionMinor => "device_version_minor"
  | .deviceDirectory => "device_dir"
  | .nodePrefix => "node_prefix"
  | .auxPrefix => "aux_prefix"
  | .sysfsRoot => "sysfs_root"
  | .settleDelay => "settle_delay_ms"
  | .receiverSettleDelay => "receiver_settle_delay_ms"
  | .pollTimeout => "poll_timeout_ms"
  | .patterns => "classifier"

/-- The ways to write a field of some settings. Internal devices may come in any order and repeat;
of the patterns only some fields are written. -/
def Writes (settings : Settings) (inner : List Patterns.Field) : Field → List Char → Prop
  | .idOffset => IsNumeral settings.idOffset.toNat
  | .internalDevices => fun chars => ∃ suffixes : List UInt32,
      (∀ suffix, suffix ∈ suffixes ↔ suffix ∈ settings.internalDevices) ∧
        IsList (fun suffix : UInt32 => IsNumeral suffix.toNat) suffixes chars
  | .versionMinor => IsNumeral settings.versionMinor.toNat
  | .deviceDirectory => IsText settings.deviceDirectory.text
  | .nodePrefix => IsText settings.nodePrefix
  | .auxPrefix => IsText settings.auxPrefix
  | .sysfsRoot => IsText settings.sysfsRoot.text
  | .settleDelay => IsNumeral settings.settleDelay.toNat
  | .receiverSettleDelay => IsNumeral settings.receiverSettleDelay.toNat
  | .pollTimeout => IsNumeral settings.pollTimeout.toNat
  | .patterns => IsRecord Patterns.Field.name (Patterns.Field.Writes settings.patterns) inner

def json (settings : Settings) (inner : List Patterns.Field) : Field → Json
  | .idOffset => .number settings.idOffset.toNat
  | .internalDevices =>
    .array (settings.internalDevices.toList.map fun suffix => .number suffix.toNat)
  | .versionMinor => .number settings.versionMinor.toNat
  | .deviceDirectory => .string settings.deviceDirectory.text
  | .nodePrefix => .string settings.nodePrefix
  | .auxPrefix => .string settings.auxPrefix
  | .sysfsRoot => .string settings.sysfsRoot.text
  | .settleDelay => .number settings.settleDelay.toNat
  | .receiverSettleDelay => .number settings.receiverSettleDelay.toNat
  | .pollTimeout => .number settings.pollTimeout.toNat
  | .patterns => settings.patterns.jsonOf inner

theorem writes_json (settings : Settings) {inner : List Patterns.Field} (hnodup : inner.Nodup)
    (field : Field) : field.Writes settings inner (field.json settings inner).compact := by
  cases field with
  | internalDevices =>
      refine ⟨settings.internalDevices.toList, fun _ => Iff.rfl, ?_⟩
      exact layout_compact.isList (fun suffix : UInt32 => layout_compact.isNumeral suffix.toNat) _
  | patterns => exact settings.patterns.isRecord_jsonOf hnodup
  | deviceDirectory => exact layout_compact.isText _
  | nodePrefix => exact layout_compact.isText _
  | auxPrefix => exact layout_compact.isText _
  | sysfsRoot => exact layout_compact.isText _
  | _ => exact layout_compact.isNumeral _

def put (settings : Settings) (inner : List Patterns.Field) : Field → Settings → Settings
  | .idOffset, other => { other with idOffset := settings.idOffset }
  | .internalDevices, other => { other with internalDevices := settings.internalDevices }
  | .versionMinor, other => { other with versionMinor := settings.versionMinor }
  | .deviceDirectory, other => { other with deviceDirectory := settings.deviceDirectory }
  | .nodePrefix, other => { other with nodePrefix := settings.nodePrefix }
  | .auxPrefix, other => { other with auxPrefix := settings.auxPrefix }
  | .sysfsRoot, other => { other with sysfsRoot := settings.sysfsRoot }
  | .settleDelay, other => { other with settleDelay := settings.settleDelay }
  | .receiverSettleDelay, other =>
    { other with receiverSettleDelay := settings.receiverSettleDelay }
  | .pollTimeout, other => { other with pollTimeout := settings.pollTimeout }
  | .patterns, other =>
    { other with patterns := Patterns.standard.taking settings.patterns inner }

end Field

/-- Some fields of `settings`, and the others as they are. Where the patterns are taken, the fields
of them that are not among the inner ones are standard. -/
def taking (other settings : Settings) (fields : List Field) (inner : List Patterns.Field) :
    Settings where
  idOffset := if .idOffset ∈ fields then settings.idOffset else other.idOffset
  internalDevices :=
    if .internalDevices ∈ fields then settings.internalDevices else other.internalDevices
  versionMinor := if .versionMinor ∈ fields then settings.versionMinor else other.versionMinor
  deviceDirectory :=
    if .deviceDirectory ∈ fields then settings.deviceDirectory else other.deviceDirectory
  nodePrefix := if .nodePrefix ∈ fields then settings.nodePrefix else other.nodePrefix
  auxPrefix := if .auxPrefix ∈ fields then settings.auxPrefix else other.auxPrefix
  sysfsRoot := if .sysfsRoot ∈ fields then settings.sysfsRoot else other.sysfsRoot
  settleDelay := if .settleDelay ∈ fields then settings.settleDelay else other.settleDelay
  receiverSettleDelay := if .receiverSettleDelay ∈ fields then settings.receiverSettleDelay
    else other.receiverSettleDelay
  pollTimeout := if .pollTimeout ∈ fields then settings.pollTimeout else other.pollTimeout
  patterns := if .patterns ∈ fields then Patterns.standard.taking settings.patterns inner
    else other.patterns

theorem foldl_put (other settings : Settings) (fields : List Field)
    (inner : List Patterns.Field) :
    fields.foldl (fun other field => field.put settings inner other) other =
      other.taking settings fields inner := by
  induction fields generalizing other with
  | nil => simp [taking]
  | cons field fields ih =>
      rw [List.foldl_cons, ih]
      cases field <;> simp [taking, Field.put]

theorem taking_all (other settings : Settings) :
    other.taking settings Field.all Patterns.Field.all = settings := by
  simp [taking, Patterns.taking, Field.mem_all, Patterns.Field.mem_all]

theorem reads_path {path : Path} {chars : List Char} (htext : IsText path.text chars) :
    Reads readPath path chars :=
  (reads_of_isText htext).map Path.mk

theorem covers_parts (settings : Settings) (inner : List Patterns.Field) :
    Covers parts Field.name (Field.Writes settings inner) (Field.put settings inner) where
  injective := injective_of_nodup Field.mem_all (by decide)
  known field := by
    cases field with
    | idOffset => exact ⟨_, rfl, fun _ hchars => (reads_uint32 hchars).part _ _⟩
    | internalDevices =>
        refine ⟨_, rfl, ?_⟩
        rintro chars ⟨suffixes, hmem, hlist⟩ record
        have hset : Ascending.ofList suffixes = settings.internalDevices :=
          Ascending.ext_mem fun suffix => Ascending.mem_ofList.trans (hmem suffix)
        rw [Field.put, ← hset]
        exact (reads_of_isList (fun _ _ => reads_uint32) hlist).part _ _ record
    | versionMinor => exact ⟨_, rfl, fun _ hchars => (reads_uint32 hchars).part _ _⟩
    | deviceDirectory => exact ⟨_, rfl, fun _ hchars => (reads_path hchars).part _ _⟩
    | nodePrefix => exact ⟨_, rfl, fun _ hchars => (reads_of_isText hchars).part _ _⟩
    | auxPrefix => exact ⟨_, rfl, fun _ hchars => (reads_of_isText hchars).part _ _⟩
    | sysfsRoot => exact ⟨_, rfl, fun _ hchars => (reads_path hchars).part _ _⟩
    | settleDelay => exact ⟨_, rfl, fun _ hchars => (reads_uint64 hchars).part _ _⟩
    | receiverSettleDelay => exact ⟨_, rfl, fun _ hchars => (reads_uint64 hchars).part _ _⟩
    | pollTimeout => exact ⟨_, rfl, fun _ hchars => (reads_uint64 hchars).part _ _⟩
    | patterns =>
        refine ⟨_, rfl, ?_⟩
        intro chars hchars record
        rw [Field.put, ← Patterns.foldl_put]
        exact (reads_record (Patterns.covers_parts settings.patterns) hchars _).part _ _ record
  unknown other hother := find?_eq_none_of_names Field.all rfl hother

/-- A document that gives these fields of the settings, and of their patterns these inner ones. -/
def IsDocument (settings : Settings) (fields : List Field) (inner : List Patterns.Field) :
    String → Prop :=
  Json.IsDocument (IsRecord Field.name (Field.Writes settings inner) fields)

/-- The settings' own document, with these fields alone. -/
def documentOf (settings : Settings) (fields : List Field) (inner : List Patterns.Field) : String :=
  (Json.object (fields.map fun field => (field.name, field.json settings inner))).line

theorem line_eq_documentOf (settings : Settings) :
    settings.line = settings.documentOf Field.all Patterns.Field.all :=
  rfl

/-- Any of the fields can be given. -/
theorem isDocument_documentOf (settings : Settings) {fields : List Field}
    {inner : List Patterns.Field} (hfields : fields.Nodup) (hinner : inner.Nodup) :
    settings.IsDocument fields inner (settings.documentOf fields inner) :=
  isDocument_line (layout_compact.isObject (fun field _ => Field.writes_json settings hinner field)
    hfields).isRecord

theorem readUnchecked_of_isDocument {settings : Settings} {fields : List Field}
    {inner : List Patterns.Field} {text : String}
    (hdocument : settings.IsDocument fields inner text) :
    readUnchecked text = .ok (standard.taking settings fields inner) := by
  have hreads := readDocument_of_isDocument
    (fun _ hrecord => reads_record (covers_parts settings inner) hrecord standard) hdocument
  rw [readUnchecked, hreads, foldl_put]
  rfl

theorem read_of_isDocument {settings : Settings} {fields : List Field}
    {inner : List Patterns.Field} {text : String}
    (hdocument : settings.IsDocument fields inner text) :
    read text = orError (standard.taking settings fields inner).check := by
  rw [read, readUnchecked_of_isDocument hdocument]
  rfl

/-- Flawless settings are read back from how they are written. A document that gives some fields is
read as these with the standard values for the others, unless this is flawed: then that is the
error. -/
theorem document_decides (settings : Settings) :
    (settings.flaw? = none → read settings.line = .ok settings) ∧
      ∀ fields inner text, settings.IsDocument fields inner text →
        read text = match (standard.taking settings fields inner).flaw? with
          | none => .ok (standard.taking settings fields inner)
          | some flaw => .error (.settings flaw.message) := by
  constructor
  · intro hflawless
    have hdocument : settings.IsDocument Field.all Patterns.Field.all _ :=
      settings.isDocument_documentOf (by decide) (by decide)
    rw [line_eq_documentOf, read_of_isDocument hdocument, taking_all, check, hflawless]
    rfl
  · intro fields inner text hdocument
    rw [read_of_isDocument hdocument, check]
    cases (standard.taking settings fields inner).flaw? <;> rfl

/-! ### A document with everything that may vary -/

def usbCameras : Settings :=
  { standard with
    internalDevices := .ofList [7, 12]
    nodePrefix := "cam"
    pollTimeout := 40
    patterns := { Patterns.standard with uvcMarker := "usb" } }

/-- The marker with an escape, after a member that means nothing. -/
def loosePatterns : List Char :=
  "\x7b\"extra\":[null,-1.5e3],\"uvc_marker\":\"u\\u0073b\"\x7d".toList

theorem loosePatterns_isRecord :
    IsRecord Patterns.Field.name (Patterns.Field.Writes usbCameras.patterns) [.uvcMarker]
      loosePatterns := by
  have hextra : IsValue "[null,-1.5e3]".toList := by
    have hnumber : IsNumber (['-'] ++ (['1'] ++ (['.', '5'] ++ ['e', '3']))) :=
      .mk (by decide) (by decide) (.some (by decide))
        (.some (by decide) (by decide : [] ∈ _) (by decide))
    have henclosed : Enclosed '[' ']' ["null".toList, "-1.5e3".toList] "[null,-1.5e3]".toList :=
      .filled (.more isBlank_nil isBlank_nil (.last isBlank_nil isBlank_nil))
    refine .array henclosed (List.forall_mem_cons.mpr ⟨.word (by decide), ?_⟩)
    exact List.forall_mem_singleton.mpr (.number hnumber)
  have hmarker : IsText "usb" (quoted "u\\u0073b".toList) := by
    have htext : "usb".toList = ['u', 's', 'b'] := by decide
    have hunit : IsUnit 's'.toNat ['0', '0', '7', '3'] :=
      ⟨_, _, _, _, rfl, ⟨by decide, .inl (by decide)⟩, ⟨by decide, .inl (by decide)⟩,
        ⟨by decide, .inl (by decide)⟩, ⟨by decide, .inl (by decide)⟩⟩
    refine ⟨_, ?_, rfl⟩
    rw [htext]
    exact .plain (by decide) (.unit hunit (.plain (by decide) .nil))
  have hmembers : List.Forall₂
      (IsMember Patterns.Field.name (Patterns.Field.Writes usbCameras.patterns))
      [none, some .uvcMarker]
      [Member.chars ⟨"extra".toList, [], [], "[null,-1.5e3]".toList⟩,
        Member.chars ⟨"uvc_marker".toList, [], [], quoted "u\\u0073b".toList⟩] :=
    .cons (.unknown (by intro field; cases field <;> decide) (spells_escape "extra".toList)
        isBlank_nil isBlank_nil hextra)
      (.cons (.known (spells_escape _) isBlank_nil isBlank_nil hmarker) .nil)
  refine ⟨by decide, _, _, ?_, hmembers, rfl⟩
  exact .filled (.more isBlank_nil isBlank_nil (.last isBlank_nil isBlank_nil))

/-- Fields out of order, blanks, and devices in any order, one of them twice. -/
def looseText : String :=
  "\x7b\"classifier\": " ++ String.ofList loosePatterns ++
    ",\n\"note\":\"\", \"internal_devices\":[12,7,12] ,\"node_prefix\":\"cam\"\x7d\n"

theorem looseText_isDocument :
    usbCameras.IsDocument [.patterns, .internalDevices, .nodePrefix] [.uvcMarker] looseText := by
  have hbreak : IsBlank ['\n'] := by decide
  have hspace : IsBlank [' '] := by decide
  have hdevices : Field.internalDevices.Writes usbCameras [.uvcMarker] "[12,7,12]".toList := by
    refine ⟨[12, 7, 12], ?_, ["12".toList, "7".toList, "12".toList], ?_, ?_⟩
    · intro suffix
      have hmem : suffix ∈ usbCameras.internalDevices ↔ suffix ∈ [7, 12] := Ascending.mem_ofList
      simp only [hmem, List.mem_cons, List.not_mem_nil, or_false]
      rw [or_left_comm, or_self]
    · exact .filled (.more isBlank_nil isBlank_nil
        (.more isBlank_nil isBlank_nil (.last isBlank_nil isBlank_nil)))
    · exact .cons rfl (.cons rfl (.cons rfl .nil))
  have hmembers : List.Forall₂ (IsMember Field.name (Field.Writes usbCameras [.uvcMarker]))
      [some .patterns, none, some .internalDevices, some .nodePrefix]
      [Member.chars ⟨"classifier".toList, [], [' '], loosePatterns⟩,
        Member.chars ⟨"note".toList, [], [], quoted []⟩,
        Member.chars ⟨"internal_devices".toList, [], [], "[12,7,12]".toList⟩,
        Member.chars ⟨"node_prefix".toList, [], [], quoted "cam".toList⟩] :=
    .cons (.known (spells_escape _) isBlank_nil hspace loosePatterns_isRecord)
      (.cons (.unknown (by intro field; cases field <;> decide) (spells_escape "note".toList)
          isBlank_nil isBlank_nil (.string .nil))
        (.cons (.known (spells_escape _) isBlank_nil isBlank_nil hdevices)
          (.cons (.known (spells_escape _) isBlank_nil isBlank_nil
            (layout_compact.isText "cam")) .nil)))
  refine ⟨[], _, ['\n'], ?_, isBlank_nil, hbreak, by decide, _, _,
    .filled (.more isBlank_nil isBlank_nil (.more hbreak isBlank_nil
      (.more hspace hspace (.last isBlank_nil isBlank_nil)))), hmembers, rfl⟩
  decide +kernel

def crowdedPrefix : Settings :=
  { standard with nodePrefix := "ce" }

/-- The settings come back whole; of the loose document the poll timeout is standard; a prefix that
begins the other is an error though only one of them is given. -/
theorem looseText_decides :
    read usbCameras.line = .ok usbCameras ∧
      read looseText = .ok { usbCameras with pollTimeout := 250 } ∧
      read (crowdedPrefix.documentOf [.nodePrefix] []) =
        .error (.settings "node_prefix 'ce' and aux_prefix 'cec' overlap") := by
  have hcrowded : crowdedPrefix.IsDocument [.nodePrefix] [] _ :=
    crowdedPrefix.isDocument_documentOf (by decide) (by decide)
  refine ⟨(document_decides usbCameras).1 (by decide), ?_, ?_⟩
  · rw [(document_decides usbCameras).2 _ _ _ looseText_isDocument]
    decide +kernel
  · rw [(document_decides crowdedPrefix).2 _ _ _ hcrowded]
    decide +kernel

end Settings

end CameraHotplug
