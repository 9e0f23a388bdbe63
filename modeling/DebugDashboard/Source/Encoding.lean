import DebugDashboard.Text.Utf8

/-!
# Encodings of source files

The bytes of a source file are read as UTF-8, a byte order mark aside. Bytes that are not UTF-8 are
read as Windows-1252, one character each, unless they hold one of the five bytes that Windows-1252
leaves undefined; then they are read as UTF-8 with U+FFFD for what is invalid.
-/

namespace DebugDashboard.Source

/-- How a file was read. -/
inductive Encoding where
  | utf8
  | windows1252
  | lossy
  deriving Repr, DecidableEq

/-- The characters of Windows-1252 for the bytes 0x80 to 0x9F. -/
def windows1252High : List (Option Char) :=
  [some '\u20ac', none, some '\u201a', some '\u0192', some '\u201e', some '\u2026', some '\u2020',
    some '\u2021', some '\u02c6', some '\u2030', some '\u0160', some '\u2039', some '\u0152', none,
    some '\u017d', none, none, some '\u2018', some '\u2019', some '\u201c', some '\u201d',
    some '\u2022', some '\u2013', some '\u2014', some '\u02dc', some '\u2122', some '\u0161',
    some '\u203a', some '\u0153', none, some '\u017e', some '\u0178']

/-- The character of a byte in Windows-1252; the bytes outside the table are their code points. -/
def windows1252Char? (b : UInt8) : Option Char :=
  if 0x80 ≤ b ∧ b ≤ 0x9f then (windows1252High[b.toNat - 0x80]?).join
  else some (Char.ofNat b.toNat)

/-- The text of bytes in Windows-1252. -/
def decodeWindows1252? (bytes : List UInt8) : Option String :=
  (bytes.mapM windows1252Char?).map String.ofList

def dropMark : List UInt8 → List UInt8
  | 0xef :: 0xbb :: 0xbf :: rest => rest
  | bytes => bytes

/-- The text of a source file, and how it was read. -/
def decode (bytes : List UInt8) : String × Encoding :=
  let bytes := dropMark bytes
  match Text.Utf8.decode? bytes with
  | some text => (text, .utf8)
  | none =>
    match decodeWindows1252? bytes with
    | some text => (text, .windows1252)
    | none => (Text.Utf8.decodeLossy bytes, .lossy)

end DebugDashboard.Source
