import DebugDashboard.Tail.CursorFile
import DebugDashboard.Tail.Handlers
import DebugDashboard.Tail.LineReader

/-!
# Polling the log

One poll looks at the log, notices when it was removed, replaced or truncated, and hands on the
complete lines from the offset on, at most 1024 of them. Each line takes three effects: it is
dispatched, the offset advances past it, and the offset is saved. The open reader is kept for the
next poll.
-/

namespace DebugDashboard

/-- What is to be done after a poll. -/
inductive Pause where
  /-- There may be more lines. -/
  | busy
  | idle
  /-- The last line is not complete. -/
  | partialLine
  | missingFile
  deriving Repr, DecidableEq

/-- What a poll failed at. -/
inductive PollError where
  | metadata
  | opening
  | reading
  deriving Repr, DecidableEq

def PollError.message : PollError → String
  | metadata => "reading log file metadata"
  | opening => "opening log file"
  | reading => "reading log file"

def maxLinesPerPoll : Nat := 1024

/-- The place in the log, and the open reader. -/
structure Poller where
  path : Path
  cursorPath : Path
  offset : Nat
  /-- The file that the offset refers to. -/
  inode? : Option Nat := none
  reader? : Option LineReader := none
  deriving Repr, DecidableEq

/-- One effect of a line. -/
inductive Effect where
  | dispatch (line : List UInt8)
  | advance (count : Nat)
  | persist
  deriving Repr, DecidableEq

namespace Effect

/-- The effects of a complete line, in order. -/
def ofLine (line : List UInt8) : List Effect :=
  [.dispatch line, .advance line.length, .persist]

end Effect

/-- The offset and the surroundings, which change from line to line. -/
structure Progress (σ : Type) where
  offset : Nat
  surroundings : Surroundings σ

namespace Progress

variable {σ : Type}

/-- The progress after one effect. A cursor that cannot be saved stops nothing. -/
def perform (hs : Handlers σ) (cursorPath : Path) (p : Progress σ) : Effect → Progress σ
  | .dispatch line => { p with surroundings := p.surroundings.dispatch hs line }
  | .advance count =>
    let offset := p.offset + count
    ⟨offset, p.surroundings.count fun s => s.setPosition offset⟩
  | .persist =>
    let files := (CursorFile.save p.surroundings.files cursorPath p.offset).2
    { p with surroundings := { p.surroundings with files := files } }

def performLine (hs : Handlers σ) (cursorPath : Path) (p : Progress σ) (line : List UInt8) :
    Progress σ :=
  (Effect.ofLine line).foldl (perform hs cursorPath) p

end Progress

namespace Poller

variable {σ : Type}

/-- Hands on complete lines, at most as many as given, while the tailer is running. A line that is
not complete is left for later. -/
def drain (hs : Handlers σ) (cursorPath : Path) (running : Bool) :
    Nat → LineReader → Progress σ → Except PollError Pause × LineReader × Progress σ
  | 0, r, p => (.ok .busy, r, p)
  | count + 1, r, p =>
    if !running then (.ok .busy, r, p)
    else match r.read p.surroundings.files with
      | .error _ => (.error .reading, r, p)
      | .ok (line, r) =>
        if line.isEmpty then (.ok .idle, r, p)
        else if line.getLast? ≠ some LineReader.lineFeed then
          (.ok .partialLine, r.seek p.offset, p)
        else drain hs cursorPath running count r (p.performLine hs cursorPath line)

def restart (p : Poller) : Poller := { p with offset := 0, reader? := none }

/-- Notices a removed log: whatever comes next is another file. -/
def noticeMissing (p : Poller) (s : Surroundings σ) : Poller × Surroundings σ :=
  if p.reader?.isSome || 0 < p.offset then
    ({ p.restart with inode? := none }, s.count Stats.countRotation)
  else (p, s)

/-- Whether the file at the path is another one than before. -/
def isReplaced (p : Poller) (info : Metadata) : Bool :=
  p.inode?.isSome && p.inode? ≠ some info.inode

/-- Notices a log that was replaced, or that has become shorter than the offset. -/
def notice (p : Poller) (info : Metadata) (s : Surroundings σ) : Poller × Surroundings σ :=
  let seen := { p with inode? := some info.inode }
  if p.isReplaced info || info.length < p.offset then
    (seen.restart, s.count Stats.countRotation)
  else (seen, s)

/-- The open reader, or one opened at the offset. -/
def reader (p : Poller) (files : FileSystem) : Except IoError LineReader :=
  match p.reader? with
  | some r => .ok r
  | none => do
    let handle ← files.openFile p.path
    .ok (.openAt handle p.offset)

def poll (hs : Handlers σ) (running : Bool) (p : Poller) (s : Surroundings σ) :
    Except PollError Pause × Poller × Surroundings σ :=
  match s.files.metadata p.path with
  | .error .notFound => (.ok .missingFile, p.noticeMissing s)
  | .error _ => (.error .metadata, p, s)
  | .ok info =>
    let (p, s) := p.notice info s
    match p.reader s.files with
    | .error _ => (.error .opening, p, s)
    | .ok r =>
      let (result, r, progress) :=
        drain hs p.cursorPath running maxLinesPerPoll r ⟨p.offset, s⟩
      (result, { p with offset := progress.offset, reader? := some r }, progress.surroundings)

/-- Polls until there is something to wait for, or a poll fails, at most as often as given. A
failure is counted. -/
def runWithin (hs : Handlers σ) (running : Bool) :
    Nat → Poller → Surroundings σ → Poller × Surroundings σ
  | 0, p, s => (p, s)
  | polls + 1, p, s =>
    if !running then (p, s)
    else match p.poll hs running s with
      | (.ok .busy, p, s) => runWithin hs running polls p s
      | (.ok _, p, s) => (p, s)
      | (.error _, p, s) => ({ p with reader? := none }, s.count Stats.countIoError)

/-- The most polls that a log can keep busy, and one more. A busy poll takes at least one byte for
each of its lines. -/
def pollBound (p : Poller) (files : FileSystem) : Nat :=
  match files.metadata p.path with
  | .ok info => info.length / maxLinesPerPoll + 2
  | .error _ => 1

def run (hs : Handlers σ) (running : Bool) (p : Poller) (s : Surroundings σ) :
    Poller × Surroundings σ :=
  runWithin hs running (p.pollBound s.files) p s

end Poller

end DebugDashboard
