import DebugDashboard.FileSystem.Basic

/-!
# Resolving paths

A path is walked step by step from the root or the working directory. Every step but the last
needs a directory, `..` leads to the parent (at the root, to the root), and a link is replaced by
the steps of its target, at most forty times. A removed directory has no names in it, not even free
ones.
-/

namespace DebugDashboard

/-- One step of a walk. -/
inductive Step where
  | stay
  | up
  | name (s : String)
  deriving Repr, DecidableEq

/-- Where a walk ends: at a node, or at a free name in a directory. -/
inductive Target where
  | found (at_ : Location) (node : Node)
  | vacant (at_ : Location)
  deriving Repr, DecidableEq

/-- The steps of a path. A slash at its end needs a directory, like a final `.` does. -/
def Path.steps (p : Path) : List Step :=
  let step (s : String) : Option Step :=
    if s = "" then none else if s = "." then some .stay else if s = ".." then some .up
    else some (.name s)
  p.segments.filterMap step ++ if p.text.toList.getLast? = some '/' then [.stay] else []

namespace FileSystem

def maxNameBytes : Nat := 255

/-- The most bytes of a path in a system call, its end mark included. -/
def maxPathBytes : Nat := 4096

def maxLinks : Nat := 40

def start (base : Location) (p : Path) : Location :=
  if p.isAbsolute then [] else base

/-- A walk up to the next link, which `onLink` takes over. A link at the end is followed only if
`follow` says so. -/
def walkPlain (fs : FileSystem) (follow : Bool)
    (onLink : Location → List Step → Except IoError Target) :
    Location → List Step → Except IoError Target
  | at_, [] => match fs.node? at_ with
    | some node => .ok (.found at_ node)
    | none => .error .notFound
  | at_, step :: rest =>
    if fs.isDirectoryAt at_ then
      match step with
      | .stay => walkPlain fs follow onLink at_ rest
      | .up => walkPlain fs follow onLink at_.dropLast rest
      | .name s =>
        if maxNameBytes < s.utf8ByteSize then .error .nameTooLong
        else match fs.node? (at_ ++ [s]) with
          | none =>
            if rest.isEmpty && !isRemoved at_ then .ok (.vacant (at_ ++ [s])) else .error .notFound
          | some (.link target) =>
            if rest.isEmpty && !follow then .ok (.found (at_ ++ [s]) (.link target))
            else onLink (start at_ target) (target.steps ++ rest)
          | some _ => walkPlain fs follow onLink (at_ ++ [s]) rest
    else .error (if (fs.node? at_).isSome then .notDirectory else .notFound)

/-- A walk that follows at most the given number of links. -/
def walk (fs : FileSystem) (follow : Bool) : Nat → Location → List Step → Except IoError Target
  | 0 => walkPlain fs follow fun _ _ => .error .tooManyLinks
  | links + 1 => walkPlain fs follow (walk fs follow links)

/-- The end of the walk along a path. The empty path names nothing, and no path contains NUL. -/
def locate (fs : FileSystem) (follow : Bool) (p : Path) : Except IoError Target :=
  if p.text = "" then .error .notFound
  else if p.text.toList.contains '\x00' then .error .invalidPath
  else fs.walk follow maxLinks (start fs.workingDirectory p) p.steps

/-- The end of the walk along a path that is handed to a system call. -/
def resolve (fs : FileSystem) (follow : Bool) (p : Path) : Except IoError Target :=
  if maxPathBytes ≤ p.text.utf8ByteSize then .error .nameTooLong else fs.locate follow p

/-- The path of the working directory; none if it has been removed. -/
def workingPath? (fs : FileSystem) : Option Path :=
  if isRemoved fs.workingDirectory then none else some (.ofLocation fs.workingDirectory)

/-- The absolute path without links, `.` and `..` to what a path names. A relative path has none
while the working directory has no path. -/
def canonicalise (fs : FileSystem) (p : Path) : Except IoError Path := do
  if !p.isAbsolute && fs.workingPath?.isNone then .error .notFound
  match ← fs.locate true p with
  | .found at_ _ => .ok (.ofLocation at_)
  | .vacant _ => .error .notFound

end FileSystem

end DebugDashboard
