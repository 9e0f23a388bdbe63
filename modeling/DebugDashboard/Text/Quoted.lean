import DebugDashboard.Text.Unprintable

/-!
# Quoted text

A text in double quotes on one line, as messages show it. A quote and a backslash get a backslash
in front, four control characters have a letter of their own, and what cannot be seen by itself
is written by its code point.
-/

namespace DebugDashboard.Text.Quoted

/-- A code point in lower-case hexadecimal digits, within braces. -/
def codePoint (c : Char) : List Char :=
  ['\\', 'u', '\x7b'] ++ Nat.toDigits 16 c.toNat ++ ['\x7d']

def escape (c : Char) : List Char :=
  match c with
  | '\x00' => ['\\', '0']
  | '\t' => ['\\', 't']
  | '\n' => ['\\', 'n']
  | '\r' => ['\\', 'r']
  | '"' => ['\\', '"']
  | '\\' => ['\\', '\\']
  | c => if isUnprintable c then codePoint c else [c]

def print (text : String) : String :=
  String.ofList ('"' :: text.toList.flatMap escape ++ ['"'])

example : print "a\"\\\x7f" = "\"a\\\"\\\\\\u\x7b7f\x7d\"" := by decide +kernel

end DebugDashboard.Text.Quoted
