import DebugDashboard.FileSystem.Resolve

/-!
# Normalised paths

The path under which a reported file is kept. A leading tilde is the home directory, a relative
path starts at the working directory unless that has been removed, and a path that names something
is replaced by its canonical form. A path that names nothing is cleaned by its spelling alone: `.`
is left out and `..` takes back the component before it; directly after the root, and at the start
of a path that stays relative, it is kept.
-/

namespace DebugDashboard

/-- What the meaning of a reported path depends on. -/
structure Host where
  files : FileSystem
  home? : Option Path
  deriving Repr

namespace Path

/-- One more component of a path whose components so far, last first, are `done`. -/
def pushLexical (done : List Component) : Component → List Component
  | .current => done
  | .parent => match done with
    | [] => [.parent]
    | [.root] => [.parent, .root]
    | _ :: rest => rest
  | .root => [.root]
  | .name s => .name s :: done

def Component.text : Component → String
  | .root => "/"
  | .current => "."
  | .parent => ".."
  | .name s => s

def ofComponents : List Component → Path
  | .root :: rest => ⟨"/" ++ joinSegments (rest.map Component.text)⟩
  | cs => ⟨joinSegments (cs.map Component.text)⟩

/-- The path that remains when `.` and `..` are resolved by spelling alone. -/
def lexical (p : Path) : Path :=
  ofComponents (p.components.foldl pushLexical []).reverse

/-- A reported path with the home directory for its tilde, seen from the working directory. It stays
relative if the working directory has no path. -/
def absolute (host : Host) (p : Path) : Path :=
  let q := p.expandHome host.home?
  match host.files.workingPath? with
  | some directory => directory.join q
  | none => q

def normalise (host : Host) (p : Path) : Path :=
  let q := p.absolute host
  match host.files.canonicalise q with
  | .ok canonical => canonical
  | .error _ => q.lexical

end Path

end DebugDashboard
