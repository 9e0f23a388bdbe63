import DebugDashboard.Config.Basic
import DebugDashboard.Text.Decimal

/-!
# Command line

Options start with two dashes, and their values follow as the next argument or after an equals
sign. One argument that is no option names the log; after `--` every argument is one. What belongs
to the latest option or to the log is only judged when the next known option or the end is reached,
so an unknown option in between is reported first.
-/

namespace DebugDashboard

/-- Why a command line is refused, or what it asks for instead of a run. -/
inductive CommandLineError where
  | unknownArgument
  | valueValidation
  | invalidValue
  | argumentConflict
  | tooManyValues
  | displayHelp
  | displayVersion
  deriving Repr, DecidableEq

/-- What a command line sets. -/
structure CommandLine where
  logPath : Path := ⟨"logs/debug-mcp-server.log"⟩
  configPath? : Option Path := none
  cursor? : Option Path := none
  fresh : Bool := false
  pollInterval? : Option Nat := none
  windowSize? : Option Nat := none
  edgeMargin? : Option Nat := none
  logDirectory? : Option Path := none
  deriving Repr, DecidableEq

namespace CommandLine

/-- What takes a value. -/
inductive Slot where
  | log
  | config
  | cursor
  | pollInterval
  | windowSize
  | edgeMargin
  | logDirectory
  deriving Repr, DecidableEq

/-- What an option does. -/
inductive Switch where
  | value (slot : Slot)
  | fresh
  | help
  | version
  deriving Repr, DecidableEq

def option? (name : String) : Option Switch :=
  match name with
  | "config" => some (.value .config)
  | "cursor" => some (.value .cursor)
  | "poll-interval-ms" => some (.value .pollInterval)
  | "window-size" => some (.value .windowSize)
  | "edge-margin" => some (.value .edgeMargin)
  | "log-dir" => some (.value .logDirectory)
  | "fresh" => some .fresh
  | "help" => some .help
  | "version" => some .version
  | _ => none

/-- What has been read: the settings, the slots that are filled, and the slot that waits with the
value it has got so far. -/
structure State where
  settings : CommandLine := {}
  filled : List Slot := []
  pending? : Option (Slot × Option String) := none

def store (c : CommandLine) (slot : Slot) (text : String) : Except CommandLineError CommandLine :=
  let path (set : Path → CommandLine) : Except CommandLineError CommandLine :=
    if text = "" then .error .invalidValue else .ok (set ⟨text⟩)
  let word (set : Nat → CommandLine) : Except CommandLineError CommandLine :=
    match Text.Decimal.word? text with
    | some n => .ok (set n)
    | none => .error .valueValidation
  match slot with
  | .log => path fun p => { c with logPath := p }
  | .config => path fun p => { c with configPath? := some p }
  | .cursor => path fun p => { c with cursor? := some p }
  | .logDirectory => path fun p => { c with logDirectory? := some p }
  | .pollInterval => word fun n => { c with pollInterval? := some n }
  | .windowSize => word fun n => { c with windowSize? := some n }
  | .edgeMargin => word fun n => { c with edgeMargin? := some n }

/-- Fills a slot: it needs a value, only one, and a fitting one. -/
def fill (s : State) (slot : Slot) (text? : Option String) : Except CommandLineError State :=
  match text? with
  | none => .error .invalidValue
  | some text =>
    if s.filled.contains slot then .error .argumentConflict
    else do
      let settings ← store s.settings slot text
      .ok { settings := settings, filled := slot :: s.filled, pending? := none }

def settle (s : State) : Except CommandLineError State :=
  match s.pending? with
  | none => .ok s
  | some (slot, text?) => fill { s with pending? := none } slot text?

/-- Takes an option without a value, or with one behind an equals sign. -/
def takeOption (s : State) (o : Switch) (attached? : Option String) :
    Except CommandLineError State :=
  match o, attached? with
  | .value slot, some text => do fill (← settle s) slot (some text)
  | .value slot, none => do .ok { ← settle s with pending? := some (slot, none) }
  | _, some _ => .error .tooManyValues
  | .fresh, none => do
    let s ← settle s
    if s.settings.fresh then .error .argumentConflict
    else .ok { s with settings := { s.settings with fresh := true } }
  | .help, none => do
    let _ ← settle s
    .error .displayHelp
  | .version, none => do
    let _ ← settle s
    .error .displayVersion

def takeLetters (s : State) : List Char → Except CommandLineError State
  | 'h' :: _ => takeOption s .help none
  | 'V' :: _ => takeOption s .version none
  | _ => .error .unknownArgument

/-- Takes an argument that is no option: as the value that the slot before it waits for, else as the
log. -/
def takeValue (s : State) (afterDashes : Bool) (text : String) : Except CommandLineError State :=
  match s.pending?, afterDashes with
  | some (slot, none), false => .ok { s with pending? := some (slot, some text) }
  | some (.log, some _), _ => .error .unknownArgument
  | _, _ =>
    if s.filled.contains .log then .error .unknownArgument
    else do .ok { ← settle s with pending? := some (.log, some text) }

/-- The name of an option and the value behind its equals sign. -/
def splitEquals (cs : List Char) : String × Option String :=
  let (name, rest) := cs.span (· ≠ '=')
  match rest with
  | _ :: value => (String.ofList name, some (String.ofList value))
  | [] => (String.ofList name, none)

/-- Takes an argument in front of `--`. -/
def takeArgument (s : State) (text : String) : Except CommandLineError State :=
  match text.toList with
  | '-' :: '-' :: body =>
    let (name, attached?) := splitEquals body
    match option? name with
    | some o => takeOption s o attached?
    | none => .error .unknownArgument
  | '-' :: c :: rest => takeLetters s (c :: rest)
  | _ => takeValue s false text

def takeAll (afterDashes : Bool) (s : State) : List String → Except CommandLineError State
  | [] => settle s
  | text :: rest =>
    if afterDashes then do takeAll true (← takeValue s true text) rest
    else if text = "--" then takeAll true s rest
    else do takeAll false (← takeArgument s text) rest

def parse (arguments : List String) : Except CommandLineError CommandLine := do
  let s ← takeAll false {} arguments
  .ok s.settings

/-- The configuration in which the settings of the command line take precedence. -/
def apply (c : CommandLine) (config : Config) : Config :=
  { config with
    tail := { config.tail with
      cursorPath := c.cursor?.getD config.tail.cursorPath
      pollInterval := c.pollInterval?.getD config.tail.pollInterval }
    view := { config.view with
      windowSize := c.windowSize?.getD config.view.windowSize
      edgeMargin := c.edgeMargin?.getD config.view.edgeMargin } }

end CommandLine

end DebugDashboard
