/-!
# TOML documents

A document is a table of keys. How a table came about decides whether later lines may add to it.
-/

namespace DebugDashboard

/-- How a table came about. -/
inductive Toml.TableKind where
  /-- By a header of its own, or as the document itself. -/
  | header
  /-- By the header of a table below it. -/
  | implied
  /-- By a dotted key. -/
  | dotted
  /-- Between braces. -/
  | inline
  deriving Repr, DecidableEq

/-- A TOML value. Numbers with a fraction and dates are kept as they were written. -/
inductive Toml where
  | string (s : String)
  | integer (i : Int)
  | float (text : String)
  | bool (b : Bool)
  | dateTime (text : String)
  | array (items : List Toml)
  | table (kind : Toml.TableKind) (entries : List (String × Toml))
  /-- The tables that headers in double brackets have begun, the last one first. -/
  | tables (reversed : List (List (String × Toml)))
  deriving Repr, BEq, Inhabited

namespace Toml

/-- Keys and their values. -/
abbrev Entries := List (String × Toml)

/-- A key with a value in its place, or at the end. -/
def putEntry : Entries → String → Toml → Entries
  | [], key, value => [(key, value)]
  | (k, v) :: rest, key, value =>
    if k = key then (k, value) :: rest else (k, v) :: putEntry rest key value

/-- A new key with its value; none if the key is there. -/
def insertNew (entries : Entries) (key : String) (value : Toml) : Option Entries :=
  if (entries.lookup key).isSome then none else some (entries ++ [(key, value)])

/-- Changes the entries of the table that a key in a line, up to its last part, leads to. The tables
on the way are made if they are missing; they may not have headers of their own, and no value
stands in the way. -/
def insideDotted (f : Entries → Option Entries) : List String → Entries → Option Entries
  | [], entries => f entries
  | key :: path, entries => do
    match entries.lookup key with
    | none =>
      let inner ← insideDotted f path []
      some (putEntry entries key (.table .dotted inner))
    | some (.table .dotted inner) =>
      let inner ← insideDotted f path inner
      some (putEntry entries key (.table .dotted inner))
    | some (.table .implied inner) =>
      if path.isEmpty then none
      else do
        let inner ← insideDotted f path inner
        some (putEntry entries key (.table .implied inner))
    | some _ => none

/-- Changes the entries of the table that a header, up to its last part, leads to. Of tables in
double brackets the last one is meant. -/
def insideHeader (f : Entries → Option Entries) : List String → Entries → Option Entries
  | [], entries => f entries
  | key :: path, entries => do
    match entries.lookup key with
    | none =>
      let inner ← insideHeader f path []
      some (putEntry entries key (.table .implied inner))
    | some (.table .inline _) => none
    | some (.table kind inner) =>
      let inner ← insideHeader f path inner
      some (putEntry entries key (.table kind inner))
    | some (.tables (inner :: before)) =>
      let inner ← insideHeader f path inner
      some (putEntry entries key (.tables (inner :: before)))
    | some _ => none

/-- Begins the table of a header; only one that other headers implied may be there. -/
def beginTable (key : String) (entries : Entries) : Option Entries :=
  match entries.lookup key with
  | none => some (putEntry entries key (.table .header []))
  | some (.table .implied inner) => some (putEntry entries key (.table .header inner))
  | some _ => none

def beginElement (key : String) (entries : Entries) : Option Entries :=
  match entries.lookup key with
  | none => some (putEntry entries key (.tables [[]]))
  | some (.tables before) => some (putEntry entries key (.tables ([] :: before)))
  | some _ => none

end Toml

end DebugDashboard
