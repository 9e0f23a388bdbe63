import DebugDashboard.Tail.Poller

/-!
# Following a log

A follower has handlers and counters that outlast its pollers. Starting it makes the log if it is
missing and goes on where the cursor file says.
-/

namespace DebugDashboard

/-- What a start failed at. -/
inductive StartError where
  | makingDirectory (directory : Path)
  | makingLog (log : Path)
  | readingMetadata (log : Path)
  deriving Repr, DecidableEq

def StartError.message : StartError → String
  | makingDirectory directory => "creating log directory " ++ directory.text
  | makingLog log => "creating log file " ++ log.text
  | readingMetadata log => "reading metadata of " ++ log.text

/-- Why the saved offset could not be forgotten. -/
inductive ClearError where
  /-- The offset belongs to a running poller. -/
  | running
  | cursor (e : CursorChangeError)
  deriving Repr, DecidableEq

def ClearError.message : ClearError → String
  | running => "cannot clear the cursor of a running tailer"
  | cursor e => e.message

/-- Follows a log. -/
structure Follower (σ : Type) where
  path : Path
  cursorPath : Path
  handlers : Handlers σ := Handlers.none
  /-- Whether pollers go on. -/
  running : Bool := false
  poller? : Option Poller := none

namespace Follower

variable {σ : Type}

def register (f : Follower σ) (kind : Kind) (h : Handler σ) : Follower σ :=
  { f with handlers := f.handlers.register kind h }

def makeLog (files : FileSystem) (log : Path) : Except StartError Unit × FileSystem :=
  let parent? := log.parent?.filter (·.text ≠ "")
  let (made, files) := match parent? with
    | some parent => files.makeDirectories parent
    | none => (.ok (), files)
  match made with
  | .error _ => (.error (.makingDirectory (parent?.getD log)), files)
  | .ok () =>
    match files.append log [] with
    | .ok files => (.ok (), files)
    | .error _ => (.error (.makingLog log), files)

/-- Makes a poller that goes on at the saved offset: the offset, or what failed. -/
def start (f : Follower σ) (s : Surroundings σ) :
    Except StartError Nat × Follower σ × Surroundings σ :=
  match makeLog s.files f.path with
  | (.error e, files) => (.error e, f, { s with files := files })
  | (.ok (), files) =>
    let s := { s with files := files }
    match files.metadata f.path with
    | .error _ => (.error (.readingMetadata f.path), f, s)
    | .ok info =>
      let offset := CursorFile.resumeOffset files f.cursorPath info.length
      (.ok offset,
        { f with
          running := true
          poller? := some { path := f.path, cursorPath := f.cursorPath, offset := offset } },
        s.count fun c => c.setPosition offset)

def isRunning (f : Follower σ) : Bool := f.poller?.isSome

/-- Makes a poller unless one is at work. -/
def ensureStarted (f : Follower σ) (s : Surroundings σ) :
    Except StartError Unit × Follower σ × Surroundings σ :=
  if f.isRunning then (.ok (), f, s)
  else match f.start s with
    | (.ok _, f, s) => (.ok (), f, s)
    | (.error e, f, s) => (.error e, f, s)

def halt (f : Follower σ) : Follower σ := { f with running := false }

/-- Makes the poller go no further, and drops it. -/
def stop (f : Follower σ) : Follower σ := { f.halt with poller? := none }

/-- One poll, if there is a poller. -/
def poll (f : Follower σ) (s : Surroundings σ) :
    Option (Except PollError Pause × Poller) × Follower σ × Surroundings σ :=
  match f.poller? with
  | none => (none, f, s)
  | some p =>
    let (result, p, s) := p.poll f.handlers f.running s
    (some (result, p), { f with poller? := some p }, s)

/-- Polls until there is something to wait for, if there is a poller. -/
def settle (f : Follower σ) (s : Surroundings σ) : Follower σ × Surroundings σ :=
  match f.poller? with
  | none => (f, s)
  | some p =>
    let (p, s) := p.run f.handlers f.running s
    ({ f with poller? := some p }, s)

/-- Calls the handler of a record that did not come from the log: what the call left, if there is a
handler. -/
def inject (f : Follower σ) (s : Surroundings σ) (r : Record) : Bool × Surroundings σ :=
  match f.handlers r.kind with
  | some h => (true, { s with observer := (h s.files r s.observer).observer })
  | none => (false, s)

/-- Forgets the saved offset. -/
def clearCursor (f : Follower σ) (s : Surroundings σ) : Except ClearError Unit × Surroundings σ :=
  if f.isRunning then (.error .running, s)
  else match CursorFile.clear s.files f.cursorPath with
    | .error e => (.error (.cursor e), s)
    | .ok files => (.ok (), { s with files := files }.count fun c => c.setPosition 0)

end Follower

end DebugDashboard
