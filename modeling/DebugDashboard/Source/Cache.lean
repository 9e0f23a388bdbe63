import DebugDashboard.FileSystem.Operations
import DebugDashboard.Source.Encoding
import DebugDashboard.Text.Line

/-!
# Cached source files

The lines of the files that were read, by path, with the modification time they had. A file is
read once, and again only after its entry was dropped.
-/

namespace DebugDashboard.Source

/-- A file that was read. -/
structure CachedFile where
  lines : List String
  modified? : Option FileTime
  deriving Repr, DecidableEq

/-- The files that were read. -/
abbrev FileCache := List (Path × CachedFile)

def readLines (fs : FileSystem) (p : Path) : Except IoError (List String) := do
  let bytes ← fs.read p
  .ok (Text.lines (decode bytes).1)

/-- When a file was last modified, if it is there. -/
def modified? (fs : FileSystem) (p : Path) : Option FileTime :=
  match fs.metadata p with
  | .ok info => some info.modified
  | .error _ => none

namespace FileCache

def get? (cache : FileCache) (p : Path) : Option CachedFile :=
  (cache.find? fun e => e.1.same p).map (·.2)

def contains (cache : FileCache) (p : Path) : Bool := (cache.get? p).isSome

def remove (cache : FileCache) (p : Path) : FileCache :=
  cache.filter fun e => !e.1.same p

def paths (cache : FileCache) : List Path := cache.map (·.1)

/-- The lines of a file, and the cache that then holds them. A failure is not kept. -/
def lines (cache : FileCache) (fs : FileSystem) (p : Path) :
    Except IoError (List String) × FileCache :=
  match cache.get? p with
  | some cached => (.ok cached.lines, cache)
  | none =>
    match readLines fs p with
    | .ok ls => (.ok ls, cache ++ [(p, ⟨ls, modified? fs p⟩)])
    | .error e => (.error e, cache)

/-- Whether a file was modified since it was read, and the cache without it if so. -/
def dropModified (cache : FileCache) (fs : FileSystem) (p : Path) : Bool × FileCache :=
  match cache.get? p with
  | none => (false, cache)
  | some cached =>
    if modified? fs p = cached.modified? then (false, cache) else (true, cache.remove p)

end FileCache

end DebugDashboard.Source
