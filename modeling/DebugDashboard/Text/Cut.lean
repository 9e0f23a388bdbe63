/-!
# Cut texts

Texts are measured and cut in characters, not in bytes.
-/

namespace DebugDashboard.Text

def takeChars (count : Nat) (text : String) : String :=
  String.ofList (text.toList.take count)

/-- A text of at most `limit` characters as it is; of a longer one the first `keep` characters and
three dots. -/
def ellipsize (limit keep : Nat) (text : String) : String :=
  if limit < text.toList.length then takeChars keep text ++ "..." else text

def shortId (id : String) : String := takeChars 8 id

def dropEndLineFeeds (text : String) : String :=
  String.ofList (text.toList.reverse.dropWhile (· = '\n')).reverse

/-- A number in at least `columns` columns, filled up on the left. -/
def padNat (fill : Char) (columns n : Nat) : String :=
  let ds := Nat.toDigits 10 n
  String.ofList (List.replicate (columns - ds.length) fill ++ ds)

end DebugDashboard.Text
