import DebugDashboard.Toml.Scalar

/-!
# Reading TOML

A document is read line by line: a key with its value, a header that begins a table, or nothing.
No key is given twice, and a table is begun by one header only.
-/

namespace DebugDashboard.Toml.Parser

/-! ### Keys -/

def isBare (c : Char) : Bool :=
  ('a' ≤ c && c ≤ 'z') || ('A' ≤ c && c ≤ 'Z') || c.isDigit || c = '_' || c = '-'

def keyPart (cs : List Char) : Option (String × List Char) :=
  match cs with
  | '"' :: rest => basicString (rest.length + 1) [] rest
  | '\'' :: rest => literalString rest
  | cs =>
    let (name, rest) := cs.span isBare
    if name.isEmpty then none else some (String.ofList name, rest)

/-- The parts of a key with dots between them, spaces around them aside. -/
def keyParts : Nat → List Char → Option (List String × List Char)
  | 0, _ => none
  | fuel + 1, cs => do
    let (part, rest) ← keyPart (skipSpaces cs)
    match skipSpaces rest with
    | '.' :: rest =>
      let (parts, rest) ← keyParts fuel rest
      some (part :: parts, rest)
    | rest => some ([part], rest)

/-- How deep a key may lead, and how deep arrays and tables between braces may nest. -/
def maxDepth : Nat := 79

def key (cs : List Char) : Option (List String × List Char) := do
  let (parts, rest) ← keyParts (cs.length + 1) cs
  if maxDepth < parts.length then none else some (parts, rest)

/-! ### Values -/

/-- The elements of an array, given those before (last first). -/
def items (item : List Char → Option (Toml × List Char)) :
    Nat → List Toml → List Char → Option (Toml × List Char)
  | 0, _, _ => none
  | fuel + 1, done, cs =>
    let skip (cs : List Char) := skipLines (cs.length + 1) cs
    match skip cs with
    | ']' :: rest => some (.array done.reverse, rest)
    | cs => do
      let (v, rest) ← item cs
      match skip rest with
      | ',' :: rest => items item fuel (v :: done) rest
      | ']' :: rest => some (.array (v :: done).reverse, rest)
      | _ => none

/-- The entries with one for a key of one or more parts. -/
def putKey (entries : Entries) (path : List String) (value : Toml) : Option Entries := do
  let last ← path.getLast?
  insideDotted (fun inner => insertNew inner last value) path.dropLast entries

/-- The entries of a table between braces, given those before. -/
def fields (item : List Char → Option (Toml × List Char)) :
    Nat → Entries → List Char → Option (Toml × List Char)
  | 0, _, _ => none
  | fuel + 1, done, cs => do
    let (path, rest) ← key cs
    let rest ← expect '=' (skipSpaces rest)
    let (v, rest) ← item (skipSpaces rest)
    let done ← putKey done path v
    match skipSpaces rest with
    | ',' :: rest => fields item fuel done rest
    | '}' :: rest => some (.table .inline done, rest)
    | _ => none

def word? (expected : String) (cs : List Char) : Option (List Char) :=
  if expected.toList.isPrefixOf cs then some (cs.drop expected.length) else none

/-- A value at the start of the text whose containers nest at most as deep as given. -/
def value (depth : Nat) (cs : List Char) : Option (Toml × List Char) :=
  match cs with
  | '"' :: _ => (string cs).map fun (s, rest) => (.string s, rest)
  | '\'' :: _ => (string cs).map fun (s, rest) => (.string s, rest)
  | '[' :: rest => match depth with
    | 0 => none
    | depth + 1 => items (value depth) (rest.length + 1) [] rest
  | '{' :: rest => match depth with
    | 0 => none
    | depth + 1 => match skipSpaces rest with
      | '}' :: rest => some (.table .inline [], rest)
      | rest => fields (value depth) (rest.length + 1) [] rest
  | 't' :: _ => (word? "true" cs).map fun rest => (.bool true, rest)
  | 'f' :: _ => (word? "false" cs).map fun rest => (.bool false, rest)
  | '0' :: 'x' :: rest => based 16 (fun c => (hexDigit? c).isSome) rest
  | '0' :: 'o' :: rest => based 8 (fun c => '0' ≤ c && c ≤ '7') rest
  | '0' :: 'b' :: rest => based 2 (fun c => c = '0' || c = '1') rest
  | '+' :: rest => signed false rest
  | '-' :: rest => signed true rest
  | cs => match dateTime cs with
    | some result => some result
    | none => signed false cs

/-! ### Lines -/

/-- The document so far, and the header under which keys are added. -/
structure State where
  document : Entries
  header : List String

def State.putKey (s : State) (path : List String) (value : Toml) : Option State := do
  let document ← insideHeader (fun inner => Parser.putKey inner path value) s.header s.document
  some { s with document := document }

def State.beginTable (s : State) (path : List String) : Option State := do
  let last ← path.getLast?
  let document ← insideHeader (Toml.beginTable last) path.dropLast s.document
  some ⟨document, path⟩

def State.beginElement (s : State) (path : List String) : Option State := do
  let last ← path.getLast?
  let document ← insideHeader (Toml.beginElement last) path.dropLast s.document
  some ⟨document, path⟩

/-- What a line says, and the text after it up to its comment or end. -/
def statement (s : State) (cs : List Char) : Option (State × List Char) := do
  match cs with
  | '[' :: '[' :: rest =>
    let (path, rest) ← key rest
    let rest ← expect ']' (← expect ']' rest)
    some (← s.beginElement path, rest)
  | '[' :: rest =>
    let (path, rest) ← key rest
    let rest ← expect ']' rest
    some (← s.beginTable path, rest)
  | cs =>
    let (path, rest) ← key cs
    let rest ← expect '=' rest
    let (v, rest) ← value maxDepth (skipSpaces rest)
    some (← s.putKey path v, rest)

def document : Nat → State → List Char → Option Entries
  | 0, _, _ => none
  | fuel + 1, s, cs => do
    match skipLines (cs.length + 1) cs with
    | [] => some s.document
    | cs =>
      let (s, rest) ← statement s cs
      let rest := skipComment (skipSpaces rest)
      if rest.isEmpty then some s.document
      else document fuel s (← lineEnd? rest)

end Parser

/-- The entries of a document. A byte order mark in front of it does not count. -/
def parse? (text : String) : Option Entries :=
  let cs := match text.toList with
    | '\ufeff' :: rest => rest
    | cs => cs
  Parser.document (cs.length + 1) ⟨[], []⟩ cs

end DebugDashboard.Toml
