import DebugDashboard.Config.Basic
import DebugDashboard.Path.Normalise
import DebugDashboard.FileSystem.Operations
import DebugDashboard.Toml.Parser

/-!
# Reading configurations

A configuration is a TOML document with a table for each group of settings. Every setting may be
missing, none may be unknown. A group may also be an array of its settings in their order; what it
has beyond them does not count.
-/

namespace DebugDashboard

/-- Why there is no configuration. -/
inductive ConfigError where
  /-- The text is not TOML, or does not describe a configuration. -/
  | syntaxError
  | setting (e : SettingError)
  /-- The file cannot be read. -/
  | unreadable (file : Path)
  /-- The error lies in a file. -/
  | inFile (file : Path) (e : ConfigError)
  deriving Repr, DecidableEq

def ConfigError.message : ConfigError → String
  | syntaxError => "parsing configuration"
  | setting e => e.message
  | unreadable file => "reading config file " ++ file.text
  | inFile file e => "in " ++ file.text ++ ": " ++ e.message

namespace Config

/-- The entries of a group of settings with the given names. -/
def groupEntries (names : List String) : Toml → Option Toml.Entries
  | .table _ entries => if entries.all fun e => names.contains e.1 then some entries else none
  | .array items => some (names.zip items)
  | .tables reversed => some (names.zip (reversed.reverse.map (.table .header)))
  | _ => none

def number (limit : Nat) (entries : Toml.Entries) (name : String) (preset : Nat) : Option Nat :=
  match entries.lookup name with
  | none => some preset
  | some (.integer i) => if 0 ≤ i && i < limit then some i.toNat else none
  | some _ => none

def path (entries : Toml.Entries) (name : String) (preset : Path) : Option Path :=
  match entries.lookup name with
  | none => some preset
  | some (.string s) => some ⟨s⟩
  | some _ => none

def word (entries : Toml.Entries) (name : String) (preset : Nat) : Option Nat :=
  number Word.limit entries name preset

def tailSettings (v : Toml) : Option TailSettings := do
  let es ← groupEntries ["poll_interval_ms", "missing_file_backoff_ms", "error_backoff_ms",
    "stop_timeout_ms", "cursor_path"] v
  let preset : TailSettings := {}
  some {
    pollInterval := ← word es "poll_interval_ms" preset.pollInterval
    missingFileBackoff := ← word es "missing_file_backoff_ms" preset.missingFileBackoff
    errorBackoff := ← word es "error_backoff_ms" preset.errorBackoff
    stopTimeout := ← word es "stop_timeout_ms" preset.stopTimeout
    cursorPath := ← path es "cursor_path" preset.cursorPath }

def viewSettings (v : Toml) : Option ViewSettings := do
  let es ← groupEntries ["window_size", "edge_margin", "refresh_hz"] v
  let preset : ViewSettings := {}
  some {
    windowSize := ← word es "window_size" preset.windowSize
    edgeMargin := ← word es "edge_margin" preset.edgeMargin
    refreshRate := ← number (Nat.pow 2 32) es "refresh_hz" preset.refreshRate }

def stateSettings (v : Toml) : Option StateSettings := do
  let es ← groupEntries ["activity_capacity"] v
  let preset : StateSettings := {}
  some { activityCapacity := ← word es "activity_capacity" preset.activityCapacity }

/-- A group of settings, or its presets if it is missing. -/
def group {α : Type} (entries : Toml.Entries) (name : String) (preset : α)
    (read : Toml → Option α) : Option α :=
  match entries.lookup name with
  | none => some preset
  | some v => read v

def ofEntries? (entries : Toml.Entries) : Option Config := do
  let es ← groupEntries ["tailer", "view", "state"] (.table .header entries)
  some {
    tail := ← group es "tailer" {} tailSettings
    view := ← group es "view" {} viewSettings
    state := ← group es "state" {} stateSettings }

/-- The configuration in a text, with valid values. -/
def parse (home? : Option Path) (text : String) : Except ConfigError Config :=
  match (Toml.parse? text).bind ofEntries? with
  | none => .error .syntaxError
  | some c =>
    let c := { c with tail := { c.tail with cursorPath := c.tail.cursorPath.expandHome home? } }
    match c.validate with
    | .ok () => .ok c
    | .error e => .error (.setting e)

/-- Where the configuration is looked for unless said otherwise. -/
def defaultPath (home : Path) : Path :=
  ((home.join ⟨".config"⟩).join ⟨"dapviz"⟩).join ⟨"config.toml"⟩

/-- The configuration in a file; presets if a file that need not exist is missing. -/
def loadFrom (host : Host) (file : Path) (required : Bool) : Except ConfigError Config :=
  match host.files.readText file with
  | .error e => if e = .notFound && !required then .ok {} else .error (.unreadable file)
  | .ok text =>
    match parse host.home? text with
    | .ok c => .ok c
    | .error e => .error (.inFile file e)

/-- The configuration in the given file, which must exist, or in the default place. -/
def load (host : Host) (file? : Option Path) : Except ConfigError Config :=
  match file?, host.home? with
  | some file, home? => loadFrom host (file.expandHome home?) true
  | none, some home => loadFrom host (defaultPath home) false
  | none, none => .ok {}

end Config

end DebugDashboard
