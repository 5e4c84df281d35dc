import CameraHotplug.Path

/-!
The arguments of the command line. Options that hold for all commands may stand before or after the
command; where both give a value, the later place wins. An option may be given once in each place.
-/

namespace CameraHotplug.CommandLine

structure Options where
  json : Bool
  configFile? : Option Path
  offset? : Option UInt32
  minor? : Option UInt32
  deriving Repr

inductive Command where
  | scan (externalOnly : Bool)
  | monitor (duration? : Option UInt64)
  | parse (name : String)
  deriving Repr

/-- Why the arguments give no command to run. -/
inductive Halt where
  | usage (reason : String)
  | version (program : String)
  | help

inductive Level where
  | top
  | scan
  | monitor
  | parse
  deriving DecidableEq

def Level.program : Level → String
  | .top => "extcam"
  | .scan => "extcam-scan"
  | .monitor => "extcam-monitor"
  | .parse => "extcam-parse"

inductive OptionName where
  | verbose
  | quiet
  | json
  | config
  | offset
  | minor
  | external
  | duration
  | help
  | version
  deriving DecidableEq

namespace OptionName

def takesValue : OptionName → Bool
  | .config | .offset | .minor | .duration => true
  | _ => false

def ofLong? (level : Level) (name : String) : Option OptionName :=
  match name with
  | "verbose" => some .verbose
  | "quiet" => some .quiet
  | "json" => some .json
  | "config" => some .config
  | "offset" => some .offset
  | "device-version-minor" => some .minor
  | "help" => some .help
  | "version" => some .version
  | "external" => if level = .scan then some .external else none
  | "duration" => if level = .monitor then some .duration else none
  | _ => none

def ofShort? (level : Level) (letter : Char) : Option OptionName :=
  match letter with
  | 'v' => some .verbose
  | 'q' => some .quiet
  | 'c' => some .config
  | 'h' => some .help
  | 'V' => some .version
  | 'd' => if level = .monitor then some .duration else none
  | _ => none

end OptionName

/-- What the arguments so far come to. `seen` holds the options given in the present place. An
option whose value is an argument of its own is `pending` until something else is given there, and
only then judged. A command takes over at once: what is wrong with an option pending before it is
`overdue`, and counts only when nothing after the command ends the reading. -/
structure Draft where
  level : Level
  seen : List OptionName
  pending? : Option (OptionName × String)
  overdue? : Option Halt
  options : Options
  externalOnly : Bool
  duration? : Option UInt64
  name? : Option String
  onlyPositional : Bool

def Draft.empty : Draft where
  level := .top
  seen := []
  pending? := none
  overdue? := none
  options := ⟨false, none, none, none⟩
  externalOnly := false
  duration? := none
  name? := none
  onlyPositional := false

section Values

def digitsValue? (chars : List Char) : Option Nat :=
  if chars ≠ [] && chars.all Char.isDigit then
    some (chars.foldl (fun total digit => 10 * total + (digit.toNat - '0'.toNat)) 0)
  else none

def naturalValue? (text : String) : Option Nat :=
  match text.toList with
  | '+' :: digits => digitsValue? digits
  | digits => digitsValue? digits

/-- A sign is read even where only zero may carry it. -/
def uint32Value? (text : String) : Option UInt32 :=
  let value? := match text.toList with
    | '-' :: digits => (digitsValue? digits).filter (· = 0)
    | _ => naturalValue? text
  value?.bind fun value => if value < UInt32.size then some (UInt32.ofNat value) else none

def uint64Value? (text : String) : Option UInt64 :=
  (naturalValue? text).bind fun value =>
    if value < UInt64.size then some (UInt64.ofNat value) else none

def invalidValue (text : String) : Halt :=
  .usage s!"invalid value '{text}'"

end Values

namespace Draft

def mark (draft : Draft) (option : OptionName) : Except Halt Draft :=
  if option ∈ draft.seen then .error (.usage "an option cannot be used multiple times")
  else .ok { draft with seen := option :: draft.seen }

def applyValue (draft : Draft) (option : OptionName) (text : String) : Except Halt Draft :=
  (draft.mark option).bind fun draft =>
    match option with
    | .config =>
      if text = "" then .error (invalidValue text)
      else .ok { draft with options := { draft.options with configFile? := some ⟨text⟩ } }
    | .offset =>
      match uint32Value? text with
      | some offset => .ok { draft with options := { draft.options with offset? := some offset } }
      | none => .error (invalidValue text)
    | .minor =>
      match uint32Value? text with
      | some minor => .ok { draft with options := { draft.options with minor? := some minor } }
      | none => .error (invalidValue text)
    | .duration =>
      match uint64Value? text with
      | some duration => .ok { draft with duration? := some duration }
      | none => .error (invalidValue text)
    | _ => .ok draft

/-- Judges the pending option. -/
def settle (draft : Draft) : Except Halt Draft :=
  match draft.pending? with
  | none => .ok draft
  | some (option, text) => { draft with pending? := none }.applyValue option text

def postpone (draft : Draft) (option : OptionName) (text : String) : Except Halt Draft :=
  draft.settle.map fun draft => { draft with pending? := some (option, text) }

def attachValue (draft : Draft) (option : OptionName) (text : String) : Except Halt Draft :=
  draft.settle.bind fun draft => draft.applyValue option text

def applyFlag (draft : Draft) (option : OptionName) : Except Halt Draft :=
  draft.settle.bind fun draft =>
    match option with
    | .help => .error .help
    | .version => .error (.version draft.level.program)
    | .json => (draft.mark option).map fun draft =>
      { draft with options := { draft.options with json := true } }
    | .external => (draft.mark option).map fun draft => { draft with externalOnly := true }
    | _ => draft.mark option

/-- Letters after one hyphen: flags, and at the end an option with its value. An option whose value
is still to come is handed back. -/
def applyLetters (draft : Draft) : List Char → Except Halt (Option OptionName × Draft)
  | [] => .ok (none, draft)
  | letter :: letters =>
    match OptionName.ofShort? draft.level letter with
    | none => .error (.usage "unexpected argument")
    | some option =>
      if option.takesValue then
        match letters with
        | [] => .ok (some option, draft)
        | '=' :: value => (draft.attachValue option (String.ofList value)).map (none, ·)
        | value => (draft.attachValue option (String.ofList value)).map (none, ·)
      else (draft.applyFlag option).bind fun draft => draft.applyLetters letters

/-- A word after two hyphens, with its value where an equals sign stands in it. -/
def applyWord (draft : Draft) (word : List Char) : Except Halt (Option OptionName × Draft) :=
  let (name, value?) := match word.span (· ≠ '=') with
    | (name, _ :: value) => (name, some (String.ofList value))
    | (name, []) => (name, none)
  match OptionName.ofLong? draft.level (String.ofList name), value? with
  | none, _ => .error (.usage "unexpected argument")
  | some option, some value =>
    if option.takesValue then (draft.attachValue option value).map (none, ·)
    else .error (.usage "unexpected value")
  | some option, none =>
    if option.takesValue then .ok (some option, draft)
    else (draft.applyFlag option).map (none, ·)

/-- A command is known by its name whatever is pending. -/
def enter (draft : Draft) (level : Level) : Draft :=
  match draft.settle with
  | .ok draft => { draft with level, seen := [] }
  | .error halt => { draft with level, seen := [], pending? := none, overdue? := some halt }

/-- Help takes the name of one command, or none. -/
def helpOn : List String → Halt
  | [] => .help
  | [topic] =>
    if topic ∈ ["scan", "monitor", "parse", "help"] then .help
    else .usage "unrecognized subcommand"
  | _ => .usage "unrecognized subcommand"

def applyPositional (draft : Draft) (argument : String) (following : List String) :
    Except Halt Draft :=
  match draft.level with
  | .top =>
    if draft.onlyPositional then .error (.usage "unexpected argument")
    else match argument with
      | "scan" => .ok (draft.enter .scan)
      | "monitor" => .ok (draft.enter .monitor)
      | "parse" => .ok (draft.enter .parse)
      | "help" => .error (helpOn following)
      | _ => .error (.usage "unrecognized subcommand")
  | .parse =>
    if draft.name?.isSome then .error (.usage "unexpected argument")
    else draft.settle.map fun draft => { draft with name? := some argument }
  | _ => .error (.usage "unexpected argument")

/-- A hyphen alone is an argument like any other. -/
def isOption (argument : String) : Bool :=
  match argument.toList with
  | '-' :: _ :: _ => true
  | _ => false

def applyOption (draft : Draft) (argument : String) : Except Halt (Option OptionName × Draft) :=
  match argument.toList with
  | '-' :: '-' :: word => draft.applyWord word
  | _ :: letters => draft.applyLetters letters
  | [] => .ok (none, draft)

def finish (draft : Draft) : Except Halt Draft :=
  draft.settle.bind fun draft =>
    match draft.overdue? with
    | some halt => .error halt
    | none => .ok draft

def read (draft : Draft) : List String → Except Halt Draft
  | [] => draft.finish
  | argument :: arguments =>
    if draft.onlyPositional || !isOption argument then
      (draft.applyPositional argument arguments).bind fun draft => draft.read arguments
    else if argument = "--" then { draft with onlyPositional := true }.read arguments
    else
      match draft.applyOption argument, arguments with
      | .error halt, _ => .error halt
      | .ok (none, draft), arguments => draft.read arguments
      | .ok (some _, _), [] => .error (.usage "a value is required")
      | .ok (some option, draft), value :: arguments =>
        if isOption value then .error (.usage "a value is required")
        else (draft.postpone option value).bind fun draft => draft.read arguments

end Draft

def readArguments (arguments : List String) : Except Halt (Options × Command) :=
  (Draft.empty.read arguments).bind fun draft =>
    match draft.level, draft.name? with
    | .top, _ => .error (.usage "a subcommand is required")
    | .scan, _ => .ok (draft.options, .scan draft.externalOnly)
    | .monitor, _ => .ok (draft.options, .monitor draft.duration?)
    | .parse, some name => .ok (draft.options, .parse name)
    | .parse, none => .error (.usage "a required argument was not provided")

end CameraHotplug.CommandLine
