import DebugDashboard.Json.Basic

/-!
# Reading JSON

A text is one value between blanks. Containers nest at most 127 deep, escapes denote characters
(so a lone surrogate is refused), and of two fields with one key the later value counts.

A number without point and exponent that fits into 64 bits is an integer, all others are doubles.
The double is found in two roundings: the digits, as far as they fit into 64 bits, are rounded to
a double, which is then multiplied or divided by the double nearest to the power of ten.
-/

namespace DebugDashboard.Json.Parser

def isBlank (c : Char) : Bool := c = ' ' || c = '\n' || c = '\t' || c = '\r'

def skipBlanks (cs : List Char) : List Char := cs.dropWhile isBlank

/-! ### Strings -/

def hexDigit? (c : Char) : Option Nat :=
  if '0' ≤ c ∧ c ≤ '9' then some (c.toNat - 48)
  else if 'a' ≤ c ∧ c ≤ 'f' then some (c.toNat - 87)
  else if 'A' ≤ c ∧ c ≤ 'F' then some (c.toNat - 55)
  else none

/-- The value of four hexadecimal digits at the start of the text. -/
def hex4 : List Char → Option (Nat × List Char)
  | a :: b :: c :: d :: rest => do
    let a ← hexDigit? a
    let b ← hexDigit? b
    let c ← hexDigit? c
    let d ← hexDigit? d
    some (((a * 16 + b) * 16 + c) * 16 + d, rest)
  | _ => none

/-- The character of a `\u` escape: one code unit, or a leading and a trailing surrogate. -/
def unicodeEscape (cs : List Char) : Option (Char × List Char) := do
  let (n, rest) ← hex4 cs
  if 0xdc00 ≤ n ∧ n ≤ 0xdfff then none
  else if 0xd800 ≤ n ∧ n ≤ 0xdbff then
    match rest with
    | '\\' :: 'u' :: rest => do
      let (m, rest) ← hex4 rest
      if 0xdc00 ≤ m ∧ m ≤ 0xdfff then
        some (Char.ofNat (0x10000 + (n - 0xd800) * 0x400 + (m - 0xdc00)), rest)
      else none
    | _ => none
  else some (Char.ofNat n, rest)

def escape : List Char → Option (Char × List Char)
  | '"' :: rest => some ('"', rest)
  | '\\' :: rest => some ('\\', rest)
  | '/' :: rest => some ('/', rest)
  | 'b' :: rest => some ('\x08', rest)
  | 'f' :: rest => some ('\x0c', rest)
  | 'n' :: rest => some ('\n', rest)
  | 'r' :: rest => some ('\r', rest)
  | 't' :: rest => some ('\t', rest)
  | 'u' :: rest => unicodeEscape rest
  | _ => none

/-- The rest of a string after its opening quote, given the characters so far (last first). -/
def stringFrom : Nat → List Char → List Char → Option (String × List Char)
  | 0, _, _ => none
  | _ + 1, _, [] => none
  | _ + 1, done, '"' :: rest => some (String.ofList done.reverse, rest)
  | fuel + 1, done, '\\' :: rest => do
    let (c, rest) ← escape rest
    stringFrom fuel (c :: done) rest
  | fuel + 1, done, c :: rest =>
    if c.toNat < 0x20 then none else stringFrom fuel (c :: done) rest

def string (cs : List Char) : Option (String × List Char) :=
  stringFrom (cs.length + 1) [] cs

/-! ### Numbers -/

def digits (cs : List Char) : List Char × List Char := cs.span Char.isDigit

def digitValue (c : Char) : Nat := c.toNat - 48

/-- Digits read as one number of at most 64 bits, and the power of ten it stands for. -/
structure Decimal where
  significand : Nat
  exponent : Int

/-- One more digit of the whole part. The first that does not fit, and all after it, only raise the
power of ten. -/
def Decimal.pushWhole (full : Bool × Decimal) (c : Char) : Bool × Decimal :=
  let (dropping, d) := full
  let n := d.significand * 10 + digitValue c
  if dropping || Word.limit ≤ n then (true, { d with exponent := d.exponent + 1 })
  else (false, { d with significand := n })

/-- One more digit behind the point. The first that does not fit, and all after it, are dropped. -/
def Decimal.pushFraction (full : Bool × Decimal) (c : Char) : Bool × Decimal :=
  let (dropping, d) := full
  let n := d.significand * 10 + digitValue c
  if dropping || Word.limit ≤ n then (true, d) else (false, ⟨n, d.exponent - 1⟩)

/-- The double nearest to a power of ten that is finite. -/
def tenTo (k : Nat) : Binary64 :=
  (Binary64.ofQuotient? false (Nat.pow 10 k) 1).getD (Binary64.zero false)

/-- A double times a power of ten; none on overflow. Powers below `10 ^ (-308)` are divided out in
steps of `10 ^ 308`; of these, three take every word to zero. -/
def timesTenTo : Nat → Binary64 → Int → Option Binary64
  | 0, x, _ => some x
  | steps + 1, x, exponent =>
    if exponent.natAbs ≤ 308 then
      if 0 ≤ exponent then x.mul? (tenTo exponent.toNat) else x.div? (tenTo exponent.natAbs)
    else if x.isZero then some x
    else if 0 ≤ exponent then none
    else do
      let x ← x.div? (tenTo 308)
      timesTenTo steps x (exponent + 308)

/-- The greatest power of ten that is looked at. -/
def maxPower : Nat := Nat.pow 2 31 - 1

/-- The double of a decimal with a written exponent: beyond the greatest power a number that is not
zero overflows, below the least every number is zero. -/
def Decimal.toDouble? (d : Decimal) (negativePower : Bool) (power : Nat) : Option Binary64 :=
  if maxPower < power then
    if d.significand ≠ 0 && !negativePower then none else some (Binary64.zero false)
  else
    let e : Int := if negativePower then d.exponent - power else d.exponent + power
    timesTenTo 8 (Binary64.ofNat d.significand) (max (-(maxPower : Int) - 1) (min maxPower e))

/-- The exponent after its letter: its sign and digits. -/
def power (cs : List Char) : Option (Bool × Nat × List Char) :=
  let (negative, cs) := match cs with
    | '+' :: cs => (false, cs)
    | '-' :: cs => (true, cs)
    | cs => (false, cs)
  let (ds, rest) := digits cs
  if ds.isEmpty then none else some (negative, Nat.ofDigitChars 10 ds 0, rest)

def signed (negative : Bool) (x : Binary64) : Json :=
  .number (.double (if negative then x.neg else x))

def whole (negative : Bool) (dropped : Bool) (d : Decimal) : Option Json :=
  if dropped then (d.toDouble? false 0).map (signed negative)
  else if !negative then some (.number (.integer d.significand))
  else if d.significand = 0 || Word.signedLimit < d.significand then
    some (signed true (Binary64.ofNat d.significand))
  else some (.number (.integer (-d.significand)))

/-- A number after its sign. No zero stands in front of other digits, and there are digits on both
sides of a point. -/
def number (negative : Bool) (cs : List Char) : Option (Json × List Char) := do
  let (ws, rest) := digits cs
  if ws.isEmpty || (ws.head? = some '0' && 1 < ws.length) then none
  else
    let (dropped, d) := ws.foldl Decimal.pushWhole (false, ⟨0, 0⟩)
    let (fractional, d, rest) ← match rest with
      | '.' :: rest =>
        let (fs, rest) := digits rest
        if fs.isEmpty then none
        else some (true, (fs.foldl Decimal.pushFraction (false, d)).2, rest)
      | rest => some (false, d, rest)
    match rest with
    | c :: after =>
      if c = 'e' || c = 'E' then do
        let (negativePower, p, rest) ← power after
        let x ← d.toDouble? negativePower p
        some (signed negative x, rest)
      else if fractional then do
        let x ← d.toDouble? false 0
        some (signed negative x, rest)
      else (whole negative dropped d).map (·, rest)
    | [] =>
      if fractional then do
        let x ← d.toDouble? false 0
        some (signed negative x, [])
      else (whole negative dropped d).map (·, [])

/-! ### Values -/

def word (expected : String) (value : Json) (cs : List Char) : Option (Json × List Char) :=
  if expected.toList.isPrefixOf cs then some (value, cs.drop expected.length) else none

/-- What remains after a field's or an element's separator: the end of the container, or one more
element. -/
inductive Separator where
  | more (rest : List Char)
  | done (rest : List Char)

def separator (close : Char) (cs : List Char) : Option Separator :=
  match skipBlanks cs with
  | c :: rest =>
    if c = close then some (.done rest) else if c = ',' then some (.more rest) else none
  | [] => none

/-- The elements of an array, given those before (last first). -/
def elements (item : List Char → Option (Json × List Char)) :
    Nat → List Json → List Char → Option (Json × List Char)
  | 0, _, _ => none
  | fuel + 1, done, cs => do
    let (v, rest) ← item cs
    match ← separator ']' rest with
    | .done rest => some (.array (v :: done).reverse, rest)
    | .more rest => elements item fuel (v :: done) rest

def key (cs : List Char) : Option (String × List Char) :=
  match skipBlanks cs with
  | '"' :: rest => do
    let (k, rest) ← string rest
    match skipBlanks rest with
    | ':' :: rest => some (k, rest)
    | _ => none
  | _ => none

/-- The fields of an object, given those before. -/
def members (item : List Char → Option (Json × List Char)) :
    Nat → Fields → List Char → Option (Json × List Char)
  | 0, _, _ => none
  | fuel + 1, done, cs => do
    let (k, rest) ← key cs
    let (v, rest) ← item rest
    match ← separator '}' rest with
    | .done rest => some (.object (done.put k v), rest)
    | .more rest => members item fuel (done.put k v) rest

/-- A value at the start of the text whose containers nest at most as deep as given. -/
def value (depth : Nat) (cs : List Char) : Option (Json × List Char) :=
  match skipBlanks cs with
  | 'n' :: rest => word "ull" .null rest
  | 't' :: rest => word "rue" (.bool true) rest
  | 'f' :: rest => word "alse" (.bool false) rest
  | '"' :: rest => (string rest).map fun (s, rest) => (.string s, rest)
  | '-' :: rest => number true rest
  | '[' :: rest => match depth with
    | 0 => none
    | depth + 1 => match skipBlanks rest with
      | ']' :: rest => some (.array [], rest)
      | rest => elements (value depth) (rest.length + 1) [] rest
  | '{' :: rest => match depth with
    | 0 => none
    | depth + 1 => match skipBlanks rest with
      | '}' :: rest => some (.object [], rest)
      | rest => members (value depth) (rest.length + 1) [] rest
  | cs => number false cs

end Parser

/-- How deep containers may nest. -/
def maxDepth : Nat := 127

def parse? (text : String) : Option Json := do
  let (v, rest) ← Parser.value maxDepth text.toList
  if (Parser.skipBlanks rest).isEmpty then some v else none

end DebugDashboard.Json
