import DebugDashboard.FileSystem.Operations
import DebugDashboard.Text.Blank
import DebugDashboard.Text.Decimal
import DebugDashboard.Text.Quoted

/-!
# Cursor files

A file beside the log keeps the offset of the first line that has not been processed. It is
replaced as a whole: the number is written to a second file, which then takes the name.
-/

namespace DebugDashboard

/-- Why a cursor file yields no offset. -/
inductive CursorError where
  | missing (file : Path)
  | corrupt (contents : String)
  | io
  deriving Repr, DecidableEq

def CursorError.message : CursorError → String
  | missing file => "no cursor file at " ++ file.text
  | corrupt contents =>
    "cursor file contains " ++ Text.Quoted.print contents ++ ", not a byte offset"
  | io => "reading cursor file"

/-- What a change of a cursor file failed at. -/
inductive CursorChangeError where
  | writing (file : Path)
  | moving (file : Path)
  | removing (file : Path)
  deriving Repr, DecidableEq

def CursorChangeError.message : CursorChangeError → String
  | writing file => "writing cursor to " ++ file.text
  | moving file => "moving cursor into " ++ file.text
  | removing file => "removing cursor " ++ file.text

namespace CursorFile

/-- The file that a new offset is written to before it takes the place of the old one. -/
def draft (p : Path) : Path := ⟨p.text ++ ".tmp"⟩

/-- The offset in a cursor file. -/
def load (fs : FileSystem) (p : Path) : Except CursorError Nat :=
  match fs.readText p with
  | .ok contents =>
    match Text.Decimal.word? (Text.trim contents) with
    | some offset => .ok offset
    | none => .error (.corrupt contents)
  | .error .notFound => .error (.missing p)
  | .error _ => .error .io

/-- Replaces the offset in a cursor file. -/
def save (fs : FileSystem) (p : Path) (offset : Nat) :
    Except CursorChangeError Unit × FileSystem :=
  match fs.write (draft p) (Text.Utf8.encode (Text.Decimal.print offset)) with
  | .error _ => (.error (.writing (draft p)), fs)
  | .ok fs =>
    match fs.rename (draft p) p with
    | .error _ => (.error (.moving p), fs)
    | .ok fs => (.ok (), fs)

/-- Removes a cursor file, if it is there. -/
def clear (fs : FileSystem) (p : Path) : Except CursorChangeError FileSystem :=
  match fs.removeFile p with
  | .ok fs => .ok fs
  | .error .notFound => .ok fs
  | .error _ => .error (.removing p)

/-- The offset at which to go on in a log of the given length: the saved one if the log reaches that
far, the start if it does not or nothing was saved, and the end if the cursor cannot be read. -/
def resumeOffset (fs : FileSystem) (p : Path) (length : Nat) : Nat :=
  match load fs p with
  | .ok offset => if offset ≤ length then offset else 0
  | .error (.missing _) => 0
  | .error _ => length

end CursorFile

end DebugDashboard
