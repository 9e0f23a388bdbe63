import DebugDashboard.Dashboard

/-!
# The command line program

Copies the files that matter into a file system value before each tick, and what the tick changed
back to the machine. Each line typed on standard input is taken as the keys in it.
-/

namespace DebugDashboard.Program

/-- The bytes of a file of the machine, if it can be read. -/
def readBytes? (p : Path) : IO (Option (List UInt8)) := do
  try
    return some (← IO.FS.readBinFile p.text).toList
  catch _ => return none

/-- The directories above a path, made in a file system. -/
def withParents (files : FileSystem) (p : Path) : FileSystem :=
  match p.parent? with
  | some parent => (files.makeDirectories parent).2
  | none => files

/-- A file system with a file as it is on the machine. -/
def observe (files : FileSystem) (p : Path) : IO FileSystem := do
  match ← readBytes? p, files.read p with
  | none, _ => return ((files.removeFile p).toOption).getD files
  | some bytes, .ok known =>
    if known = bytes then return files
    else return ((files.write p bytes).toOption).getD files
  | some bytes, .error _ =>
    let files := withParents files p
    return ((files.write p bytes).toOption).getD files

def makeParents (p : Path) : IO Unit := do
  match p.parent? with
  | some parent => if parent.text ≠ "" then IO.FS.createDirAll parent.text
  | none => return

/-- Brings a file of the machine from one file system to another. A file that becomes empty is
opened for appending, so that nothing is lost that was written meanwhile. -/
def publish (before after : FileSystem) (p : Path) : IO Unit := do
  match (before.read p).toOption, (after.read p).toOption with
  | known?, some bytes =>
    if known? ≠ some bytes then
      makeParents p
      if bytes.isEmpty then
        let _ ← IO.FS.Handle.mk p.text .append
      else IO.FS.writeBinFile p.text (ByteArray.mk bytes.toArray)
  | some _, none => IO.FS.removeFile p.text
  | none, none => return

/-- The columns or rows of the terminal, by the variable that holds them. -/
def extent (name : String) (preset : Nat) : IO Nat := do
  return ((← IO.getEnv name).bind (·.toNat?)).getD preset

/-- The time at which a file of the machine was last changed, in milliseconds since the start of
1970. It dates the records of a log that give no time. -/
def changeTime (p : Path) : IO Int := do
  try
    let info ← ((← IO.currentDir) / p.text).metadata
    return info.modified.sec * 1000 + info.modified.nsec.toNat / 1000000
  catch _ => return 0

def showScreen (grid : Display.Grid) : IO Unit := do
  let out ← IO.getStdout
  out.putStr ("\x1b[2J\x1b[H" ++ "\n".intercalate (grid.map Display.Row.text) ++ "\n")
  out.flush

def keysOf (line : String) : List KeyEvent :=
  (line.toList.filter (· ≠ '\n')).map fun c =>
    { key := if c = '\x1b' then .escape else .character c }

def readKeys : IO (Task (Except IO.Error String)) := do
  let input ← IO.getStdin
  IO.asTask input.getLine

/-- The keys typed since the last look, and the task that reads the next ones. -/
def takeKeys (typing : Task (Except IO.Error String)) :
    IO (List KeyEvent × Task (Except IO.Error String)) := do
  if ← IO.hasFinished typing then
    match typing.get with
    | .ok line => if line.isEmpty then return ([], typing) else return (keysOf line, ← readKeys)
    | .error _ => return ([], typing)
  else return ([], typing)

/-- Ticks, draws and takes keys until the user ends it. -/
partial def run (pause : Nat) (typing : Task (Except IO.Error String)) (d : Dashboard) :
    IO Unit := do
  let files ← d.logFiles.foldlM observe d.around.files
  let ticked := (d.withFiles files).tick (← changeTime d.follower.path)
  publish files ticked.around.files d.follower.cursorPath
  let ticked := ticked.withFiles (← ticked.sourceFiles.foldlM observe ticked.around.files)
  let (grid, drawn) := ticked.draw (← extent "COLUMNS" 80) (← extent "LINES" 24)
  showScreen grid
  let (keys, typing) ← takeKeys typing
  let d := keys.foldl Dashboard.handleKey drawn
  if d.board.ended then return
  IO.sleep pause.toUInt32
  run pause typing d

/-- The machine as far as the start of the program looks at it. -/
def observeHost (line : CommandLine) : IO Host := do
  let home? := (← IO.getEnv "HOME").map Path.mk
  let here : Path := ⟨(← IO.currentDir).toString⟩
  let empty := (FileSystem.empty.makeDirectories here).2
  let files := { empty with workingDirectory := here.segments.filter (· ≠ "") }
  let configs := (line.configPath?.map (·.expandHome home?)).toList ++
    (home?.map Config.defaultPath).toList
  return ⟨← (line.logPath :: configs).foldlM observe files, home?⟩

def follow (line : CommandLine) : IO UInt32 := do
  let host ← observeHost line
  match Dashboard.configure host line with
  | .error e =>
    IO.eprintln e.message
    return 1
  | .ok config =>
    let files ← observe host.files config.tail.cursorPath
    match Dashboard.ofCommandLine ⟨files, host.home?⟩ line with
    | .error e =>
      IO.eprintln e.message
      return 1
    | .ok (config, d) =>
      publish files d.around.files line.logPath
      publish files d.around.files config.tail.cursorPath
      run config.tail.pollInterval (← readKeys) d
      return 0

def version : String := "dapviz 0.1.0"

def usage : String := "Usage: dapviz [OPTIONS] [LOG_PATH]"

def start (arguments : List String) : IO UInt32 := do
  match CommandLine.parse arguments with
  | .ok line => follow line
  | .error .displayHelp =>
    IO.println usage
    return 0
  | .error .displayVersion =>
    IO.println version
    return 0
  | .error _ =>
    IO.eprintln usage
    return 2

end DebugDashboard.Program

def main (arguments : List String) : IO UInt32 := DebugDashboard.Program.start arguments
