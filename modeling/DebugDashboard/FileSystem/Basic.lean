import DebugDashboard.Path.Basic

/-!
# File systems

A tree of directories, files and symbolic links, given by what stands at each location. Contents
live in a table of inodes, so that a reader keeps its file when the name goes away. An inode
number is never used twice. Directories that are removed while the process works in them stay, as
places without a name.
-/

namespace DebugDashboard

/-- The names that lead from the root directory to a place, none of them a link, `.` or `..`. -/
abbrev Location := List String

/-- What stands at a location. -/
inductive Node where
  | directory (inode : Nat)
  | file (inode : Nat)
  | link (target : Path)
  deriving Repr, DecidableEq

/-- When an inode was last modified: at a time that was set, or by a change that the clock of the
file system numbers. -/
inductive FileTime where
  | set (seconds : Int)
  | change (tick : Nat)
  deriving Repr, DecidableEq

/-- The content of a file and its modification time. -/
structure Inode where
  bytes : List UInt8
  modified : FileTime
  deriving Repr, DecidableEq

/-- What a system call complains about. -/
inductive IoError where
  | notFound
  | notDirectory
  | isDirectory
  | alreadyExists
  | notEmpty
  | tooManyLinks
  | nameTooLong
  | invalidPath
  | invalidText
  | invalidMove
  deriving Repr, DecidableEq

/-- A file system as one process sees it. -/
structure FileSystem where
  /-- What stands at each location other than the root. -/
  entries : List (Location × Node)
  inodes : Array Inode
  /-- The number of the next change. -/
  clock : Nat
  workingDirectory : Location
  deriving Repr, DecidableEq

namespace FileSystem

def empty : FileSystem := ⟨[], #[⟨[], .change 0⟩], 1, []⟩

def node? (fs : FileSystem) (at_ : Location) : Option Node :=
  if at_ = [] then some (.directory 0) else fs.entries.lookup at_

def isDirectoryAt (fs : FileSystem) (at_ : Location) : Bool :=
  match fs.node? at_ with
  | some (.directory _) => true
  | _ => false

/-- Entries with a node at a location: in its place if there is one, else at the end. -/
def putEntry : List (Location × Node) → Location → Node → List (Location × Node)
  | [], at_, node => [(at_, node)]
  | (l, n) :: rest, at_, node =>
    if l = at_ then (l, node) :: rest else (l, n) :: putEntry rest at_ node

def put (fs : FileSystem) (at_ : Location) (node : Node) : FileSystem :=
  { fs with entries := putEntry fs.entries at_ node }

def erase (fs : FileSystem) (at_ : Location) : FileSystem :=
  { fs with entries := fs.entries.filter (·.1 ≠ at_) }

/-- What stands in a location for the name of a removed directory. No path leads there, since no
step of a path has an empty name. -/
def noName : String := ""

/-- Whether a location lies in a removed directory, or is one. -/
def isRemoved (at_ : Location) : Bool := at_.contains noName

/-- The file system without the locations that are `gone`, all of them below `base`. Of those that
lead to the working directory only the names go. -/
def forget (fs : FileSystem) (gone : Location → Bool) (base : Location) : FileSystem :=
  let unname (at_ : Location) : Location :=
    base ++ List.replicate (at_.length - base.length) noName
  { fs with
    entries := fs.entries.filterMap fun e =>
      if !gone e.1 then some e
      else if e.1.isPrefixOf fs.workingDirectory then some (unname e.1, e.2)
      else none
    workingDirectory :=
      if gone fs.workingDirectory then unname fs.workingDirectory else fs.workingDirectory }

def eraseTree (fs : FileSystem) (at_ : Location) : FileSystem :=
  fs.forget at_.isPrefixOf at_.dropLast

def eraseBelow (fs : FileSystem) (at_ : Location) : FileSystem :=
  fs.forget (fun l => at_.isPrefixOf l && l ≠ at_) at_

/-- The file system with one more inode, and its number. -/
def allocate (fs : FileSystem) (bytes : List UInt8) : FileSystem × Nat :=
  ({ fs with inodes := fs.inodes.push ⟨bytes, .change fs.clock⟩, clock := fs.clock + 1 },
    fs.inodes.size)

/-- The content of an inode. -/
def content (fs : FileSystem) (inode : Nat) : List UInt8 :=
  match fs.inodes[inode]? with
  | some i => i.bytes
  | none => []

/-- The file system with another content of an inode, changed now. -/
def setContent (fs : FileSystem) (inode : Nat) (bytes : List UInt8) : FileSystem :=
  { fs with
    inodes := fs.inodes.setIfInBounds inode ⟨bytes, .change fs.clock⟩, clock := fs.clock + 1 }

/-- The file system with a modification time of an inode. -/
def setModified (fs : FileSystem) (inode : Nat) (time : FileTime) : FileSystem :=
  { fs with inodes := fs.inodes.modify inode fun i => { i with modified := time } }

end FileSystem

def Path.ofLocation (at_ : Location) : Path :=
  ⟨"/" ++ Path.joinSegments at_⟩

end DebugDashboard
