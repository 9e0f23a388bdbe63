/-!
# Blank characters

The characters with the Unicode property White_Space, and trimming by them. Format characters
such as the zero-width space and the byte order mark are not blank.
-/

namespace DebugDashboard.Text

/-- The characters with the Unicode property White_Space. -/
def isBlank (c : Char) : Bool :=
  let n := c.toNat
  (0x9 ≤ n && n ≤ 0xd) || n == 0x20 || n == 0x85 || n == 0xa0 || n == 0x1680 ||
    (0x2000 ≤ n && n ≤ 0x200a) || n == 0x2028 || n == 0x2029 || n == 0x202f ||
    n == 0x205f || n == 0x3000

/-- A list without the elements at its end that satisfy `drop`. -/
def dropWhileEnd (drop : Char → Bool) (cs : List Char) : List Char :=
  (cs.reverse.dropWhile drop).reverse

/-- The characters between the first and the last that are not blank. -/
def trimBlank (cs : List Char) : List Char :=
  dropWhileEnd isBlank (cs.dropWhile isBlank)

def trim (text : String) : String :=
  String.ofList (trimBlank text.toList)

end DebugDashboard.Text
