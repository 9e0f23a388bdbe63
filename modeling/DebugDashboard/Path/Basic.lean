/-!
# Paths

A path is a text whose segments are separated by slashes. Its components leave out empty segments
and `.` segments, except a `.` at the start of a relative path; `..` segments stay. Two spellings
with the same components name the same file in every file system.
-/

namespace DebugDashboard

/-- A path as it was written. -/
structure Path where
  text : String
  deriving Repr, DecidableEq, Inhabited

/-- One component of a path. -/
inductive Path.Component where
  /-- The root directory, at the start of an absolute path. -/
  | root
  /-- The current directory, at the start of a relative path. -/
  | current
  /-- The parent of the directory before it. -/
  | parent
  | name (s : String)
  deriving Repr, DecidableEq

namespace Path

def segments (p : Path) : List String :=
  (p.text.toList.splitOn '/').map String.ofList

def isAbsolute (p : Path) : Bool :=
  p.text.toList.head? = some '/'

def Component.ofSegment? (s : String) : Option Component :=
  if s = "" || s = "." then none else if s = ".." then some .parent else some (.name s)

def components (p : Path) : List Component :=
  if p.isAbsolute then .root :: p.segments.filterMap Component.ofSegment?
  else match p.segments with
    | "." :: rest => .current :: rest.filterMap Component.ofSegment?
    | segments => segments.filterMap Component.ofSegment?

def same (p q : Path) : Bool :=
  p.components = q.components

theorem same_refl (p : Path) : p.same p = true := by simp [same]

theorem same_iff {p q : Path} : p.same q = true ↔ p.components = q.components := by simp [same]

theorem same_comm (p q : Path) : p.same q = q.same p := by
  rw [Bool.eq_iff_iff, same_iff, same_iff]
  exact eq_comm

/-- Two spellings of one file are spellings of the same files. -/
theorem same_congr {p q : Path} (hsame : p.same q = true) (other : Path) :
    p.same other = q.same other := by
  simp only [same, same_iff.mp hsame]

def joinSegments (segments : List String) : String :=
  "/".intercalate segments

/-- Whether a segment stands for no component, unless it is the first. -/
def isIdle (s : String) : Bool := s = "" || s = "."

def dropIdleEnd (segments : List String) : List String :=
  (segments.reverse.dropWhile isIdle).reverse

/-- The last component, if it is a name. -/
def fileName? (p : Path) : Option String :=
  match p.components.getLast? with
  | some (.name s) => some s
  | _ => none

/-- The name of the file, or the whole text where there is none. -/
def baseName (p : Path) : String :=
  p.fileName?.getD p.text

/-- The path without its last component and without what follows the component before; none for the
root directory and the empty path. -/
def parent? (p : Path) : Option Path :=
  if p.isAbsolute then
    let body := dropIdleEnd (p.segments.drop 1)
    if body.isEmpty then none else some ⟨"/" ++ joinSegments (dropIdleEnd body.dropLast)⟩
  else match p.segments with
    | "." :: rest =>
      let body := dropIdleEnd rest
      if body.isEmpty then some ⟨""⟩
      else some ⟨joinSegments ("." :: dropIdleEnd body.dropLast)⟩
    | segments =>
      let body := dropIdleEnd segments
      if body.isEmpty then none else some ⟨joinSegments (dropIdleEnd body.dropLast)⟩

/-- A path seen from a directory: an absolute path stays as it is. -/
def join (base p : Path) : Path :=
  if p.isAbsolute then p
  else if base.text = "" || base.text.toList.getLast? = some '/' then ⟨base.text ++ p.text⟩
  else ⟨base.text ++ "/" ++ p.text⟩

/-- What follows a tilde that is the first component, without idle segments at its two ends. -/
def afterTilde? (p : Path) : Option Path :=
  match p.segments with
  | "~" :: rest => some ⟨joinSegments (dropIdleEnd (rest.dropWhile isIdle))⟩
  | _ => none

/-- A path whose leading tilde is replaced by the home directory. -/
def expandHome (home? : Option Path) (p : Path) : Path :=
  match p.afterTilde?, home? with
  | some rest, some home => home.join rest
  | _, _ => p

end Path

end DebugDashboard
