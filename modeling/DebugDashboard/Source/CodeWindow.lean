import DebugDashboard.Source.Cache
import DebugDashboard.Source.Viewport

/-!
# Windows on source files

A window shows the lines of a viewport of one file at a time, with marks for breakpoints and the
current line. It reads files through a cache, and remembers the lines it showed last.
-/

namespace DebugDashboard.Source

/-- One row of a window. -/
structure DisplayLine where
  /-- The number of the line; a message has none. -/
  number? : Option Nat
  breakpoint : Bool
  current : Bool
  text : String
  deriving Repr, DecidableEq

namespace DisplayLine

def message (text : String) : DisplayLine := ⟨none, false, false, text⟩

/-- The column for a breakpoint, and the column for the current line. -/
def markers (l : DisplayLine) : String :=
  (if l.breakpoint then "●" else " ") ++ (if l.current then "→" else " ")

def display (l : DisplayLine) : String :=
  match l.number? with
  | some _ => l.markers ++ " " ++ l.text
  | none => "   " ++ l.text

end DisplayLine

/-- What a window shows. -/
structure View where
  lines : List DisplayLine
  range : LineRange
  deriving Repr, DecidableEq

namespace View

def message (text : String) : View := ⟨[.message text], ⟨1, 1⟩⟩

def isMessage (v : View) : Bool :=
  match v.lines with
  | [l] => l.number?.isNone
  | _ => false

end View

/-- The lines that were shown last, and of which file. -/
structure Shown where
  file : Path
  range : LineRange
  deriving Repr, DecidableEq

/-- A window on source files. -/
structure CodeWindow where
  viewport : Viewport
  cache : FileCache
  shown? : Option Shown
  deriving Repr, DecidableEq

namespace CodeWindow

def new (size margin : Nat) : CodeWindow := ⟨.new size margin, [], none⟩

/-- How many lines a window shows unless said otherwise. -/
def defaultSize : Nat := 20

/-- The margin of a window unless said otherwise. -/
def defaultMargin : Nat := 3

/-- The path under which a file is cached: the canonical one, or as given if there is none. -/
def resolve (fs : FileSystem) (p : Path) : Path :=
  match fs.canonicalise p with
  | .ok canonical => canonical
  | .error _ => p

/-- The lines from one number to another; none if they reach beyond the file. -/
def slice? (lines : List String) (range : LineRange) : Option (List String) := do
  let before ← Word.minus range.first 1
  if before ≤ range.last && range.last ≤ lines.length then
    some ((lines.take range.last).drop before)
  else none

/-- The rows for lines that are numbered from `first`. -/
def rows (breakpoints : List Nat) (current? : Option Nat) (first : Nat) (lines : List String) :
    List DisplayLine :=
  (lines.zipIdx first).map fun (text, number) =>
    ⟨some number, breakpoints.contains number, current? = some number, text⟩

/-- What the window shows of the lines of a resolved file; none if a number leaves its word. -/
def viewLines (w : CodeWindow) (file : Path) (lines : List String) (focus : Nat)
    (breakpoints : List Nat) (current? : Option Nat) : Option (View × CodeWindow) := do
  let shown? := (w.shown?.filter fun s => s.file.same file).map (·.range)
  let range ← w.viewport.bounds shown? focus lines.length
  let part ← slice? lines range
  some (⟨rows breakpoints current? range.first part, range⟩,
    { w with shown? := some ⟨file, range⟩ })

/-- What the window shows of a file, and the window then; no view if a number leaves its word. -/
def view (w : CodeWindow) (fs : FileSystem) (p : Path) (focus : Nat) (breakpoints : List Nat)
    (current? : Option Nat) : Option View × CodeWindow :=
  let file := resolve fs p
  match w.cache.lines fs file with
  | (.error _, cache) =>
    (some (.message ("Error: Could not read " ++ file.text)), { w with cache := cache })
  | (.ok lines, cache) =>
    let w := { w with cache := cache }
    if lines.isEmpty then (some (.message "Error: Empty file"), w)
    else match w.viewLines file lines focus breakpoints current? with
      | some (v, w) => (some v, w)
      | none => (none, w)

def forget (w : CodeWindow) (fs : FileSystem) (p : Path) : CodeWindow :=
  let file := resolve fs p
  { w with cache := w.cache.remove file, shown? := w.shown?.filter fun s => !s.file.same file }

def forgetAll (w : CodeWindow) : CodeWindow :=
  { w with cache := [], shown? := none }

/-- Whether a file was modified since it was read, and the window without its lines if so. The
lines shown last stay remembered. -/
def dropModified (w : CodeWindow) (fs : FileSystem) (p : Path) : Bool × CodeWindow :=
  let (dropped, cache) := w.cache.dropModified fs (resolve fs p)
  (dropped, { w with cache := cache })

def cachedFiles (w : CodeWindow) : List Path := w.cache.paths

end CodeWindow

end DebugDashboard.Source
