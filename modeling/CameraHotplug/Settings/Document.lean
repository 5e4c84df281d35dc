import CameraHotplug.Error
import CameraHotplug.Json
import CameraHotplug.Settings
import CameraHotplug.Text.Utf8

/-!
Settings as JSON documents. Every part may be left out and keeps its standard value then.
-/

namespace CameraHotplug

def Json.readPath : Reader Path := fun chars =>
  (Json.readString chars).map fun (text, rest) => (⟨text⟩, rest)

def Patterns.parts : List (Json.Part Patterns) :=
  [.of "codec_name_prefixes" (Json.readArray Json.readString)
      fun patterns prefixes => { patterns with codecPrefixes := prefixes },
    .of "uvc_marker" Json.readString fun patterns marker => { patterns with uvcMarker := marker },
    .of "capture_marker" Json.readString
      fun patterns marker => { patterns with captureMarker := marker },
    .of "receiver_name_prefix" Json.readString
      fun patterns start => { patterns with receiverPrefix := start }]

namespace Settings

def parts : List (Json.Part Settings) :=
  [.of "camera_id_offset" Json.readUInt32
      fun settings offset => { settings with idOffset := offset },
    .of "internal_devices" (Json.readArray Json.readUInt32)
      fun settings suffixes => { settings with internalDevices := .ofList suffixes },
    .of "device_version_minor" Json.readUInt32
      fun settings minor => { settings with versionMinor := minor },
    .of "device_dir" Json.readPath fun settings path => { settings with deviceDirectory := path },
    .of "node_prefix" Json.readString fun settings start => { settings with nodePrefix := start },
    .of "aux_prefix" Json.readString fun settings start => { settings with auxPrefix := start },
    .of "sysfs_root" Json.readPath fun settings path => { settings with sysfsRoot := path },
    .of "settle_delay_ms" Json.readUInt64
      fun settings delay => { settings with settleDelay := delay },
    .of "receiver_settle_delay_ms" Json.readUInt64
      fun settings delay => { settings with receiverSettleDelay := delay },
    .of "poll_timeout_ms" Json.readUInt64
      fun settings delay => { settings with pollTimeout := delay },
    .of "classifier" (Json.readRecord Patterns.parts .standard)
      fun settings patterns => { settings with patterns }]

/-- The settings of a document, which may still be flawed. -/
def readUnchecked (text : String) : Except Error Settings :=
  (Json.readDocument (Json.readRecord parts standard) text).mapError .json

def orError {α : Type} (result : Except Flaw α) : Except Error α :=
  result.mapError fun flaw => .settings flaw.message

def read (text : String) : Except Error Settings := do
  let settings ← readUnchecked text
  orError settings.check

/-- The settings of a file, by its bytes. -/
def readContents (contents : Except IoError (List UInt8)) : Except Error Settings := do
  let bytes ← contents.mapError .io
  match Utf8.decode? bytes with
  | some text => read (String.ofList text)
  | none => throw (.io .notText)

end Settings

def Patterns.toJson (patterns : Patterns) : Json :=
  .object [("codec_name_prefixes", .array (patterns.codecPrefixes.map .string)),
    ("uvc_marker", .string patterns.uvcMarker), ("capture_marker", .string patterns.captureMarker),
    ("receiver_name_prefix", .string patterns.receiverPrefix)]

def Settings.toJson (settings : Settings) : Json :=
  .object [("camera_id_offset", .number settings.idOffset.toNat),
    ("internal_devices",
      .array (settings.internalDevices.toList.map fun suffix => .number suffix.toNat)),
    ("device_version_minor", .number settings.versionMinor.toNat),
    ("device_dir", .string settings.deviceDirectory.text),
    ("node_prefix", .string settings.nodePrefix), ("aux_prefix", .string settings.auxPrefix),
    ("sysfs_root", .string settings.sysfsRoot.text),
    ("settle_delay_ms", .number settings.settleDelay.toNat),
    ("receiver_settle_delay_ms", .number settings.receiverSettleDelay.toNat),
    ("poll_timeout_ms", .number settings.pollTimeout.toNat),
    ("classifier", settings.patterns.toJson)]

def Settings.line (settings : Settings) : String :=
  settings.toJson.line

end CameraHotplug
