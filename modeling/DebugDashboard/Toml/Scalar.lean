import DebugDashboard.Number.Binary64
import DebugDashboard.Toml.Basic

/-!
# Strings, numbers and dates of TOML

Each function reads one item at the start of a text and yields what follows it.
-/

namespace DebugDashboard.Toml.Parser

def isSpace (c : Char) : Bool := c = ' ' || c = '\t'

def skipSpaces (cs : List Char) : List Char := cs.dropWhile isSpace

/-- Whether a character may stand in a comment or a string on one line. -/
def isPlain (c : Char) : Bool := c = '\t' || (0x20 ≤ c.toNat && c.toNat ≠ 0x7f)

def lineEnd? : List Char → Option (List Char)
  | '\n' :: rest => some rest
  | '\r' :: '\n' :: rest => some rest
  | _ => none

def skipComment : List Char → List Char
  | '#' :: rest => rest.dropWhile isPlain
  | cs => cs

/-- The text after spaces, comments and line ends. -/
def skipLines : Nat → List Char → List Char
  | 0, cs => cs
  | fuel + 1, cs =>
    let cs := skipComment (skipSpaces cs)
    match lineEnd? cs with
    | some rest => skipLines fuel rest
    | none => cs

/-! ### Strings -/

def hexDigit? (c : Char) : Option Nat :=
  if '0' ≤ c ∧ c ≤ '9' then some (c.toNat - 48)
  else if 'a' ≤ c ∧ c ≤ 'f' then some (c.toNat - 87)
  else if 'A' ≤ c ∧ c ≤ 'F' then some (c.toNat - 55)
  else none

/-- The character whose code point has the given count of hexadecimal digits. -/
def codePoint (count : Nat) (cs : List Char) : Option (Char × List Char) := do
  let ds := cs.take count
  if ds.length < count then none
  else
    let values ← ds.mapM hexDigit?
    let n := values.foldl (fun n d => n * 16 + d) 0
    if n < 0xd800 || (0xdfff < n && n < 0x110000) then some (Char.ofNat n, cs.drop count) else none

def escape : List Char → Option (Char × List Char)
  | 'b' :: rest => some ('\x08', rest)
  | 't' :: rest => some ('\t', rest)
  | 'n' :: rest => some ('\n', rest)
  | 'f' :: rest => some ('\x0c', rest)
  | 'r' :: rest => some ('\r', rest)
  | '"' :: rest => some ('"', rest)
  | '\\' :: rest => some ('\\', rest)
  | 'u' :: rest => codePoint 4 rest
  | 'U' :: rest => codePoint 8 rest
  | _ => none

/-- A string between double quotes, after the first. -/
def basicString : Nat → List Char → List Char → Option (String × List Char)
  | 0, _, _ => none
  | _ + 1, _, [] => none
  | _ + 1, done, '"' :: rest => some (String.ofList done.reverse, rest)
  | fuel + 1, done, '\\' :: rest => do
    let (c, rest) ← escape rest
    basicString fuel (c :: done) rest
  | fuel + 1, done, c :: rest => if isPlain c then basicString fuel (c :: done) rest else none

/-- A string between single quotes, after the first. -/
def literalString (cs : List Char) : Option (String × List Char) :=
  let (body, rest) := cs.span fun c => isPlain c && c ≠ '\''
  match rest with
  | '\'' :: rest => some (String.ofList body, rest)
  | _ => none

/-- The quotes at the end of a string in triple quotes: three end it, and up to two more before
them belong to it. -/
def closing (quote : Char) (done cs : List Char) : Option (String × List Char) :=
  let quotes := (cs.takeWhile (· = quote)).length
  if quotes < 3 then none
  else
    let inside := min (quotes - 3) 2
    some (String.ofList (List.replicate inside quote ++ done).reverse, cs.drop (inside + 3))

/-- The text without the spaces and line ends at its start. -/
def skipBlanks : List Char → List Char
  | '\r' :: '\n' :: rest => skipBlanks rest
  | c :: rest => if isSpace c || c = '\n' then skipBlanks rest else c :: rest
  | [] => []

/-- The text after a backslash at the end of a line: spaces and line ends up to the next character
are left out. -/
def continuation? (cs : List Char) : Option (List Char) :=
  (lineEnd? (skipSpaces cs)).map skipBlanks

/-- A string between triple quotes, after the first three. Escapes count unless `literal`. -/
def longString (quote : Char) (literal : Bool) :
    Nat → List Char → List Char → Option (String × List Char)
  | 0, _, _ => none
  | _ + 1, _, [] => none
  | fuel + 1, done, c :: rest =>
    if c = quote then
      match closing quote done (c :: rest) with
      | some result => some result
      | none => longString quote literal fuel (c :: done) rest
    else if c = '\\' && !literal then
      match continuation? rest with
      | some rest => longString quote literal fuel done rest
      | none => do
        let (c, rest) ← escape rest
        longString quote literal fuel (c :: done) rest
    else match lineEnd? (c :: rest) with
      | some rest => longString quote literal fuel ('\n' :: done) rest
      | none => if isPlain c then longString quote literal fuel (c :: done) rest else none

def skipLineEnd (cs : List Char) : List Char := (lineEnd? cs).getD cs

def string (cs : List Char) : Option (String × List Char) :=
  match cs with
  | '"' :: '"' :: '"' :: rest => longString '"' false (rest.length + 1) [] (skipLineEnd rest)
  | '\'' :: '\'' :: '\'' :: rest => longString '\'' true (rest.length + 1) [] (skipLineEnd rest)
  | '"' :: rest => basicString (rest.length + 1) [] rest
  | '\'' :: rest => literalString rest
  | _ => none

/-! ### Numbers -/

/-- Digits with single underscores between them: the digits, and what follows. -/
def digits (isDigit : Char → Bool) : Nat → List Char → Option (List Char × List Char)
  | 0, _ => none
  | fuel + 1, cs =>
    let (ds, rest) := cs.span isDigit
    if ds.isEmpty then none
    else match rest with
      | '_' :: rest => (digits isDigit fuel rest).map fun (more, rest) => (ds ++ more, rest)
      | rest => some (ds, rest)

/-- Decimal digits with underscores between them. -/
def decimal (cs : List Char) : Option (List Char × List Char) :=
  digits Char.isDigit (cs.length + 1) cs

/-- An integer that fits into a signed word. -/
def inWord (i : Int) : Option Toml :=
  if Word.isSigned i then some (.integer i) else none

/-- An integer in another base, after the letter for the base. -/
def based (base : Nat) (isDigit : Char → Bool) (cs : List Char) : Option (Toml × List Char) := do
  let (ds, rest) ← digits isDigit (cs.length + 1) cs
  let values ← ds.mapM hexDigit?
  let value ← inWord (values.foldl (fun n d => n * base + d) 0 : Nat)
  some (value, rest)

/-- The exponent of a number, zero if it is not written. -/
def exponent (cs : List Char) : Option (Int × List Char) :=
  match cs with
  | c :: rest =>
    if c = 'e' || c = 'E' then
      let (negative, rest) := match rest with
        | '+' :: rest => (false, rest)
        | '-' :: rest => (true, rest)
        | rest => (false, rest)
      (decimal rest).map fun (ds, rest) =>
        let n : Int := Nat.ofDigitChars 10 ds 0
        (if negative then -n else n, rest)
    else some (0, cs)
  | [] => some (0, cs)

/-- The characters in front of what is left of a text. -/
def before (cs rest : List Char) : String := String.ofList (cs.take (cs.length - rest.length))

/-- A number with a fraction or an exponent, given by its digits and power of ten. One that is too
great for a double is refused, but one that is too far below zero stands for the infinity there. -/
def float (negative : Bool) (digits : List Char) (power : Int) (text : String) : Option Toml :=
  if !negative && Binary64.overflows (Nat.ofDigitChars 10 digits 0) power then none
  else some (.float text)

def number (negative : Bool) (cs : List Char) : Option (Toml × List Char) := do
  let (ds, rest) ←
    match cs with
    | '0' :: rest => some (['0'], rest)
    | cs => decimal cs
  let whole : Int := Nat.ofDigitChars 10 ds 0
  match rest with
  | '.' :: fraction =>
    let (places, rest) ← decimal fraction
    let (power, rest) ← exponent rest
    let value ← float negative (ds ++ places) (power - places.length) (before cs rest)
    some (value, rest)
  | rest =>
    let (power, rest') ← exponent rest
    if rest'.length < rest.length then do
      let value ← float negative ds power (before cs rest')
      some (value, rest')
    else do
      let value ← inWord (if negative then -whole else whole)
      some (value, rest)

/-- A number, infinity or not-a-number after its sign. -/
def signed (negative : Bool) (cs : List Char) : Option (Toml × List Char) :=
  match cs with
  | 'i' :: 'n' :: 'f' :: rest => some (.float "inf", rest)
  | 'n' :: 'a' :: 'n' :: rest => some (.float "nan", rest)
  | cs => number negative cs

/-! ### Dates -/

/-- A number of exactly `count` digits from `least` to `greatest`. -/
def field (count least greatest : Nat) (cs : List Char) : Option (Nat × List Char) :=
  let ds := cs.take count
  if ds.length = count && ds.all Char.isDigit then
    let n := Nat.ofDigitChars 10 ds 0
    if least ≤ n && n ≤ greatest then some (n, cs.drop count) else none
  else none

def expect (c : Char) : List Char → Option (List Char)
  | d :: rest => if c = d then some rest else none
  | [] => none

/-- The days of a month in the Gregorian calendar. -/
def daysInMonth (year month : Nat) : Nat :=
  match month with
  | 2 => if year % 4 = 0 && (year % 100 ≠ 0 || year % 400 = 0) then 29 else 28
  | 4 | 6 | 9 | 11 => 30
  | _ => 31

def date (cs : List Char) : Option (List Char) := do
  let (year, cs) ← field 4 0 9999 cs
  let (month, cs) ← field 2 1 12 (← expect '-' cs)
  let (_, cs) ← field 2 1 (daysInMonth year month) (← expect '-' cs)
  some cs

/-- The text after a time. The sixtieth second is a leap second. -/
def time (cs : List Char) : Option (List Char) := do
  let (_, cs) ← field 2 0 23 cs
  let (_, cs) ← field 2 0 59 (← expect ':' cs)
  let (_, cs) ← field 2 0 60 (← expect ':' cs)
  match cs with
  | '.' :: rest =>
    let (ds, rest) := rest.span Char.isDigit
    if ds.isEmpty then none else some rest
  | cs => some cs

def offset (cs : List Char) : Option (List Char) :=
  match cs with
  | c :: rest =>
    if c = 'Z' || c = 'z' then some rest
    else if c = '+' || c = '-' then do
      let (_, cs) ← field 2 0 23 rest
      let (_, cs) ← field 2 0 59 (← expect ':' cs)
      some cs
    else some cs
  | [] => some cs

/-- A date, a time, or both at the start of the text. -/
def dateTime (cs : List Char) : Option (Toml × List Char) :=
  match date cs with
  | some rest =>
    let after := match rest with
      | c :: more =>
        if c = 'T' || c = 't' then (time more).bind offset
        else if c = ' ' then some (((time more).bind offset).getD rest)
        else some rest
      | [] => some rest
    after.map fun rest => (.dateTime (before cs rest), rest)
  | none => (time cs).map fun rest => (.dateTime (before cs rest), rest)

end DebugDashboard.Toml.Parser
