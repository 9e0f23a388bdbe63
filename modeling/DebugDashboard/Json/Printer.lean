import DebugDashboard.Json.Basic
import DebugDashboard.Number.Layout

/-!
# Writing JSON

The compact form: no blanks, fields in their order, characters other than quotes, backslashes and
controls as they are.
-/

namespace DebugDashboard.Json

/-- Doubles are written without exponent from `1e-5` up to below `1e16`, positive exponents carry a
plus sign, and a tie between two shortest forms goes to the even digit. -/
def doubleLayout : Binary64.Layout := ⟨-5, 15, "+", .even⟩

def Number.print : Number → String
  | .integer i => if i < 0 then "-" ++ Nat.repr i.natAbs else Nat.repr i.toNat
  | .double x => x.write doubleLayout

def hexChar (n : Nat) : Char := Nat.digitChar (n % 16)

def escapeChar (c : Char) : List Char :=
  match c with
  | '"' => ['\\', '"']
  | '\\' => ['\\', '\\']
  | '\x08' => ['\\', 'b']
  | '\x0c' => ['\\', 'f']
  | '\n' => ['\\', 'n']
  | '\r' => ['\\', 'r']
  | '\t' => ['\\', 't']
  | c =>
    if c.toNat < 0x20 then ['\\', 'u', '0', '0', hexChar (c.toNat / 16), hexChar c.toNat] else [c]

def printString (s : String) : String :=
  String.ofList ('"' :: s.toList.flatMap escapeChar ++ ['"'])

mutual

def print : Json → String
  | .null => "null"
  | .bool b => if b then "true" else "false"
  | .number n => n.print
  | .string s => printString s
  | .array items => "[" ++ ",".intercalate (printItems items) ++ "]"
  | .object fields => "\x7b" ++ ",".intercalate (printFields fields) ++ "\x7d"

def printItems : List Json → List String
  | [] => []
  | v :: rest => print v :: printItems rest

def printFields : List (String × Json) → List String
  | [] => []
  | (k, v) :: rest => (printString k ++ ":" ++ print v) :: printFields rest

end

/-- A value as a reader sees it: a string without quotes, all else in compact form. -/
def display : Json → String
  | .string s => s
  | v => v.print

end DebugDashboard.Json
