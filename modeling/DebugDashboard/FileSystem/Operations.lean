import DebugDashboard.FileSystem.Resolve
import DebugDashboard.Text.Utf8

/-!
# File operations

Reading, writing, removing and moving, as system calls do it. A failing operation changes
nothing, except that making or removing nested directories keeps what was done before the failure.
-/

namespace DebugDashboard

/-- What is known about a file or directory without reading it. -/
structure Metadata where
  inode : Nat
  length : Nat
  modified : FileTime
  deriving Repr, DecidableEq

/-- An open file. It refers to the inode, whatever becomes of the name. -/
structure Handle where
  inode : Nat
  isDirectory : Bool
  deriving Repr, DecidableEq

namespace FileSystem

def directoryLength : Nat := 4096

/-- What stands at the end of a path, links followed. -/
def find (fs : FileSystem) (p : Path) : Except IoError Node := do
  match ← fs.resolve true p with
  | .found _ node => .ok node
  | .vacant _ => .error .notFound

def metadata (fs : FileSystem) (p : Path) : Except IoError Metadata := do
  match ← fs.find p with
  | .file inode =>
    .ok ⟨inode, (fs.content inode).length, (fs.inodes[inode]?.map (·.modified)).getD (.change 0)⟩
  | .directory inode =>
    .ok ⟨inode, directoryLength, (fs.inodes[inode]?.map (·.modified)).getD (.change 0)⟩
  | .link _ => .error .tooManyLinks

def isDirectory (fs : FileSystem) (p : Path) : Bool :=
  match fs.find p with
  | .ok (.directory _) => true
  | _ => false

def openFile (fs : FileSystem) (p : Path) : Except IoError Handle := do
  match ← fs.find p with
  | .file inode => .ok ⟨inode, false⟩
  | .directory inode => .ok ⟨inode, true⟩
  | .link _ => .error .tooManyLinks

def read (fs : FileSystem) (p : Path) : Except IoError (List UInt8) := do
  let handle ← fs.openFile p
  if handle.isDirectory then .error .isDirectory else .ok (fs.content handle.inode)

def readText (fs : FileSystem) (p : Path) : Except IoError String := do
  match Text.Utf8.decode? (← fs.read p) with
  | some text => .ok text
  | none => .error .invalidText

/-- Opens a file for writing, and creates it if there is none: its inode. -/
def openForWriting (fs : FileSystem) (p : Path) : Except IoError (FileSystem × Nat) := do
  match ← fs.resolve true p with
  | .found _ (.file inode) => .ok (fs, inode)
  | .found _ (.directory _) => .error .isDirectory
  | .found _ (.link _) => .error .tooManyLinks
  | .vacant at_ =>
    let (fs, inode) := fs.allocate []
    .ok (fs.put at_ (.file inode), inode)

/-- Replaces the content of a file, or creates the file with it. -/
def write (fs : FileSystem) (p : Path) (bytes : List UInt8) : Except IoError FileSystem := do
  let (fs, inode) ← fs.openForWriting p
  .ok (fs.setContent inode bytes)

/-- Adds to the end of a file, or creates the file. -/
def append (fs : FileSystem) (p : Path) (bytes : List UInt8) : Except IoError FileSystem := do
  let (fs, inode) ← fs.openForWriting p
  .ok (if bytes.isEmpty then fs else fs.setContent inode (fs.content inode ++ bytes))

/-- Cuts a file to a length, or fills it up with zero bytes. -/
def truncate (fs : FileSystem) (p : Path) (length : Nat) : Except IoError FileSystem := do
  match ← fs.find p with
  | .file inode =>
    let bytes := fs.content inode
    .ok (fs.setContent inode (bytes.take length ++ List.replicate (length - bytes.length) 0))
  | .directory _ => .error .isDirectory
  | .link _ => .error .tooManyLinks

def touch (fs : FileSystem) (p : Path) (time : FileTime) : Except IoError FileSystem := do
  let info ← fs.metadata p
  .ok (fs.setModified info.inode time)

def removeFile (fs : FileSystem) (p : Path) : Except IoError FileSystem := do
  match ← fs.resolve false p with
  | .found _ (.directory _) => .error .isDirectory
  | .found at_ _ => .ok (fs.erase at_)
  | .vacant _ => .error .notFound

/-- A path without the slashes at its end, unless it is nothing else. -/
def dropEndSlashes (p : Path) : Path :=
  let body := (p.text.toList.reverse.dropWhile (· = '/')).reverse
  if body.isEmpty then p else ⟨String.ofList body⟩

/-- Whether a path ends with a name, so that what it names can be moved or removed. -/
def endsWithName (p : Path) : Bool :=
  match (dropEndSlashes p).steps.getLast? with
  | some (.name _) => true
  | _ => false

def isEmptyAt (fs : FileSystem) (at_ : Location) : Bool :=
  !fs.entries.any fun e => at_.isPrefixOf e.1 && e.1 ≠ at_ && !isRemoved e.1

/-- Removes an empty directory. The path must end with its name. -/
def removeDirectory (fs : FileSystem) (p : Path) : Except IoError FileSystem := do
  match ← fs.resolve false (dropEndSlashes p) with
  | .vacant _ => .error .notFound
  | .found at_ (.directory _) =>
    if !endsWithName p then .error .invalidMove
    else if !fs.isEmptyAt at_ then .error .notEmpty
    else .ok (fs.eraseTree at_)
  | .found _ _ => .error .notDirectory

/-- Removes a directory and all below it; a link is removed by itself. What is below goes first, and
with it the path may cease to name anything, which is no failure. -/
def removeTree (fs : FileSystem) (p : Path) : Except IoError Unit × FileSystem :=
  match fs.resolve false p with
  | .error e => (.error e, fs)
  | .ok (.vacant _) => (.error .notFound, fs)
  | .ok (.found _ (.file _)) => (.error .notDirectory, fs)
  | .ok (.found at_ (.link _)) => (.ok (), fs.erase at_)
  | .ok (.found at_ (.directory _)) =>
    let fs := fs.eraseBelow at_
    match fs.removeDirectory p with
    | .ok fs => (.ok (), fs)
    | .error e => (if e = .notFound then .ok () else .error e, fs)

def makeDirectory (fs : FileSystem) (p : Path) : Except IoError FileSystem := do
  match ← fs.resolve false (dropEndSlashes p) with
  | .found _ _ => .error .alreadyExists
  | .vacant at_ =>
    let (fs, inode) := fs.allocate []
    .ok (fs.put at_ (.directory inode))

/-- Makes a directory and those above it that are missing, going up at most `depth` times. -/
def makeDirectoriesWithin : Nat → FileSystem → Path → Except IoError Unit × FileSystem
  | 0, fs, _ => (.error .notFound, fs)
  | depth + 1, fs, p =>
    if p.text = "" then (.ok (), fs)
    else match fs.makeDirectory p with
      | .ok fs => (.ok (), fs)
      | .error .notFound =>
        match p.parent? with
        | none => (.error .notFound, fs)
        | some parent =>
          match makeDirectoriesWithin depth fs parent with
          | (.error e, fs) => (.error e, fs)
          | (.ok (), fs) =>
            match fs.makeDirectory p with
            | .ok fs => (.ok (), fs)
            | .error e => (if fs.isDirectory p then .ok () else .error e, fs)
      | .error e => (if fs.isDirectory p then .ok () else .error e, fs)

def makeDirectories (fs : FileSystem) (p : Path) : Except IoError Unit × FileSystem :=
  makeDirectoriesWithin (p.components.length + 1) fs p

def makeLink (fs : FileSystem) (p target : Path) : Except IoError FileSystem := do
  if target.text = "" then .error .notFound
  else if target.text.toList.contains '\x00' then .error .invalidPath
  else match ← fs.resolve false p with
    | .found _ _ => .error .alreadyExists
    | .vacant at_ => .ok (fs.put at_ (.link target))

/-- A location with its start `source` replaced. -/
def rebase (source dest : Location) (at_ : Location) : Location :=
  if source.isPrefixOf at_ then dest ++ at_.drop source.length else at_

/-- The file system in which what stood at `source`, and all below it, stands at `dest`, in place of
what stood there. -/
def move (fs : FileSystem) (source dest : Location) : FileSystem :=
  let fs := fs.eraseTree dest
  { fs with
    entries := fs.entries.map fun e => (rebase source dest e.1, e.2)
    workingDirectory := rebase source dest fs.workingDirectory }

def endsWithSlash (p : Path) : Bool := p.text.toList.getLast? = some '/'

/-- Moves a file, link or directory to another name, which it takes over: that of a file or link
from a file or link, that of an empty directory from a directory. Both paths must end with names,
and with slashes behind them only for a directory. -/
def rename (fs : FileSystem) (p q : Path) : Except IoError FileSystem := do
  match ← fs.resolve false (dropEndSlashes p), ← fs.resolve false (dropEndSlashes q) with
  | .vacant _, _ => .error .notFound
  | .found source node, target =>
    let isDirectory := fs.isDirectoryAt source
    if !endsWithName p || !endsWithName q then .error .invalidMove
    else if !isDirectory && (endsWithSlash p || endsWithSlash q) then .error .notDirectory
    else match target with
      | .vacant dest =>
        if isDirectory && source.isPrefixOf dest then .error .invalidMove
        else .ok (fs.move source dest)
      | .found dest other =>
        if dest = source then .ok fs
        else match node, other with
          | .directory _, .directory _ =>
            if source.isPrefixOf dest then .error .invalidMove
            else if !fs.isEmptyAt dest then .error .notEmpty
            else .ok (fs.move source dest)
          | .directory _, _ => .error .notDirectory
          | _, .directory _ => .error .isDirectory
          | _, _ => .ok (fs.move source dest)

end FileSystem

end DebugDashboard
