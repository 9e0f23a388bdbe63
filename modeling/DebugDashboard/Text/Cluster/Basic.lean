import DebugDashboard.Text.Cluster.Class
import DebugDashboard.Text.Width.Basic

/-!
# Clusters

A reader sees a character and those that combine with it as one: an extended grapheme cluster. A
text is cut into its clusters by the classes of its characters alone.
-/

namespace DebugDashboard.Text

/-- What a reader sees as one character, and the columns it takes. -/
structure Cluster where
  text : List Char
  width : Nat
  deriving Repr, DecidableEq

def Cluster.ofChars (cs : List Char) : Cluster := ⟨cs, Text.width cs⟩

/-- A beginning that may take in more than what combines with any character. -/
inductive ClusterRun where
  | none
  /-- A picture, and what extends it. -/
  | picture
  /-- The same with a joiner at the end, which takes in a picture. -/
  | joinedPicture
  /-- A consonant, and what extends it. -/
  | consonant
  /-- The same with a linker, which takes in a consonant. -/
  | linkedConsonant
  /-- A regional indicator that lacks its partner. -/
  | regional
  deriving Repr, DecidableEq

/-- The end of a cluster as far as it has been read. -/
structure ClusterEnd where
  last : ClusterClass
  run : ClusterRun
  deriving Repr, DecidableEq

namespace ClusterRun

def start : ClusterClass → ClusterRun
  | .picture => picture
  | .consonant => consonant
  | .regional => regional
  | _ => none

def next (run : ClusterRun) (k : ClusterClass) : ClusterRun :=
  match run, k with
  | picture, .extend | picture, .linker | picture, .nonJoiner => picture
  | picture, .joiner => joinedPicture
  | consonant, .extend | consonant, .joiner => consonant
  | consonant, .linker => linkedConsonant
  | linkedConsonant, .extend | linkedConsonant, .joiner | linkedConsonant, .linker =>
    linkedConsonant
  | regional, .regional => none
  | _, k => start k

def takes (run : ClusterRun) (k : ClusterClass) : Bool :=
  match run, k with
  | joinedPicture, .picture | linkedConsonant, .consonant | regional, .regional => true
  | _, _ => false

end ClusterRun

/-- Whether a part of a Hangul syllable continues the one before it. -/
def continuesSyllable : ClusterClass → ClusterClass → Bool
  | .initial, .initial | .initial, .vowel | .initial, .openSyllable
  | .initial, .closedSyllable => true
  | .openSyllable, .vowel | .openSyllable, .final | .vowel, .vowel | .vowel, .final => true
  | .closedSyllable, .final | .final, .final => true
  | _, _ => false

namespace ClusterEnd

def start (k : ClusterClass) : ClusterEnd := ⟨k, .start k⟩

def next (e : ClusterEnd) (k : ClusterClass) : ClusterEnd := ⟨k, e.run.next k⟩

def takes (e : ClusterEnd) (k : ClusterClass) : Bool :=
  if e.last.isControl || k.isControl then e.last = .carriageReturn && k = .lineFeed
  else k.combines || e.last = .prepended || continuesSyllable e.last k || e.run.takes k

end ClusterEnd

/-- The characters of a text in their clusters, given the characters of the cluster before it (last
first) and its end. -/
def splitClusters (done : List Char) (e : ClusterEnd) : List Char → List (List Char)
  | [] => [done.reverse]
  | c :: rest =>
    let k := ClusterClass.of c
    if e.takes k then splitClusters (c :: done) (e.next k) rest
    else done.reverse :: splitClusters [c] (.start k) rest

def clusters : List Char → List Cluster
  | [] => []
  | c :: rest => (splitClusters [c] (.start (.of c)) rest).map .ofChars

example : (clusters ['e', '\u0301', 'x', '\r', '\n']).map (·.text) =
    [['e', '\u0301'], ['x'], ['\r', '\n']] := by
  decide +kernel

end DebugDashboard.Text
