import DebugDashboard.FileSystem.Operations

/-!
# Reading lines ahead

A reader takes whole blocks from its file and hands out lines. What it has read ahead stays with
it, whatever becomes of the file, until it is moved to another offset.
-/

namespace DebugDashboard

/-- A reader of an open file. -/
structure LineReader where
  handle : Handle
  /-- Where the next block begins. -/
  position : Nat
  /-- What was read ahead. -/
  buffer : List UInt8
  deriving Repr, DecidableEq

namespace LineReader

def lineFeed : UInt8 := 10

def blockSize : Nat := 8192

/-- A reader at an offset of an open file. -/
def openAt (handle : Handle) (offset : Nat) : LineReader := ⟨handle, offset, []⟩

/-- The reader at another offset, without what it has read ahead. -/
def seek (r : LineReader) (offset : Nat) : LineReader := openAt r.handle offset

/-- The bytes up to and with the first line feed, and those after it; none if there is no line
feed. -/
def splitLine? (bytes : List UInt8) : Option (List UInt8 × List UInt8) :=
  let (line, rest) := bytes.span (· ≠ lineFeed)
  match rest with
  | _ :: rest => some (line ++ [lineFeed], rest)
  | [] => none

/-- The next line of a reader whose file holds `content`: what was read ahead and blocks of the
file, up to and with a line feed or to the end of the file. -/
def nextLine (r : LineReader) (content : List UInt8) : List UInt8 × LineReader :=
  match splitLine? r.buffer with
  | some (line, buffer) => (line, { r with buffer := buffer })
  | none =>
    let ahead := content.drop r.position
    match splitLine? ahead with
    | some (line, _) =>
      let blocks := ahead.take (((line.length - 1) / blockSize + 1) * blockSize)
      (r.buffer ++ line,
        { r with position := r.position + blocks.length, buffer := blocks.drop line.length })
    | none =>
      (r.buffer ++ ahead, { r with position := r.position + ahead.length, buffer := [] })

/-- Reads the next line. A directory can be opened but not read. -/
def read (fs : FileSystem) (r : LineReader) : Except IoError (List UInt8 × LineReader) :=
  if r.handle.isDirectory then .error .isDirectory
  else .ok (r.nextLine (fs.content r.handle.inode))

end LineReader

end DebugDashboard
