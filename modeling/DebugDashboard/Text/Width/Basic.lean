import DebugDashboard.Text.Width.Char
import DebugDashboard.Text.Width.Emoji

/-!
# The width of a text

How many columns of a character grid a text takes. Some characters take another number of columns
in front of certain others than by themselves: emoji with selectors, skin tones and joiners, and
letters that are drawn as one sign. The text is read from its end, and what has been read says what
the next character adds.
-/

namespace DebugDashboard.Text

/-- What may be drawn as one sign with the letter in front of it. `joined` tells that a joiner
stands in between. -/
inductive Ligature where
  /-- An Arabic alef, as one sign with a lam. -/
  | alef
  /-- A Hebrew lamed, with an alef and a joiner. -/
  | lamed (joined : Bool)
  /-- A Buginese ya, with an a, a vowel sign and a joiner. -/
  | ya (joined : Bool)
  /-- That vowel sign and what follows it. -/
  | signYa
  /-- A Tifinagh consonant, with another one and a joiner. -/
  | tifinagh (joined : Bool)
  /-- The Tifinagh joiner and the consonant behind it. -/
  | tifinaghJoiner
  /-- The second part of a Lisu tone. -/
  | tone
  /-- An Old Turkic i, with an ec and a joiner. -/
  | orkhonI (joined : Bool)
  /-- A Khmer letter, under a coeng sign. -/
  | khmer
  deriving Repr, DecidableEq

/-- What a joiner connects to the emoji in front of it. -/
inductive JoinedEmoji where
  | emoji
  /-- The frame of a keycap, and an emoji behind another joiner. -/
  | keycap
  /-- One regional indicator, or several. -/
  | regional
  | regionals (even : Bool)
  /-- The tags at the end of a flag, as far as they have been read. -/
  | tags (letters digits : Nat)
  deriving Repr, DecidableEq

/-- What has been read of a text from its end, as far as it matters to what is in front of it. -/
inductive Following where
  | other
  | lineFeed
  | skinTone
  | regional
  | regionals
  | emoji
  | joined (e : JoinedEmoji)
  | ligature (l : Ligature)
  deriving Repr, DecidableEq

/-- What a selector asks for. -/
inductive Selector where
  | text
  | picture
  deriving Repr, DecidableEq

/-- What follows a character, and a selector between the two. -/
structure WidthContext where
  following : Following := .other
  selector? : Option Selector := none
  deriving Repr, DecidableEq

/-- Whether a character is an ignorable mark, which does not come between letters. -/
def isIgnorableMark (c : Char) : Bool :=
  inRanges [(0x34f, 0x34f), (0x17b4, 0x17b5), (0x180b, 0x180d), (0x180f, 0x180f), (0x200d, 0x200d),
    (0xfe00, 0xfe0f), (0xe0100, 0xe01ef)] c

/-- The Arabic letters of the joining group alef. -/
def isAlef (c : Char) : Bool :=
  inRanges [(0x622, 0x623), (0x625, 0x625), (0x627, 0x627), (0x671, 0x673), (0x675, 0x675),
    (0x773, 0x774), (0x870, 0x882)] c

/-- The Arabic letters of the joining group lam. -/
def isLam (c : Char) : Bool :=
  inRanges [(0x644, 0x644), (0x6b5, 0x6b8), (0x76a, 0x76a), (0x8a6, 0x8a6), (0x8c7, 0x8c7)] c

/-- The consonants of Tifinagh. -/
def isTifinagh (c : Char) : Bool := inRanges [(0x2d31, 0x2d65), (0x2d6f, 0x2d6f)] c

/-- The Khmer letters that have a form under a coeng sign. -/
def isKhmer (c : Char) : Bool :=
  inRanges [(0x1780, 0x1782), (0x1784, 0x1787), (0x1789, 0x178c), (0x178e, 0x1793),
    (0x1795, 0x1798), (0x179b, 0x179d), (0x17a0, 0x17a0), (0x17a2, 0x17a2), (0x17a7, 0x17a7),
    (0x17ab, 0x17ac), (0x17af, 0x17af)] c

def Ligature.ofChar? (c : Char) : Option Ligature :=
  if isAlef c then some .alef
  else if c = '\u05dc' then some (.lamed false)
  else if c = '\u1a10' then some (.ya false)
  else if isTifinagh c then some (.tifinagh false)
  else if inRanges [(0xa4fc, 0xa4fd)] c then some .tone
  else if c.toNat = 0x10c03 then some (.orkhonI false)
  else if isKhmer c then some .khmer
  else none

/-- What a character adds that nothing behind it changes, and what it is to the one before it. -/
def alone (c : Char) : Int × Following :=
  if Emoji.isTone c then (2, .skinTone)
  else if Emoji.isRegional c then (1, .regional)
  else if Emoji.isPresentation c then (2, .emoji)
  else (charWidth c, ((Ligature.ofChar? c).map .ligature).getD .other)

namespace Ligature

def join : Ligature → Ligature
  | lamed _ => lamed true
  | ya _ => ya true
  | tifinagh _ => tifinagh true
  | orkhonI _ => orkhonI true
  | l => l

/-- What a character adds in front of a ligature; none if the two have nothing to do with each
other. -/
def before? (l : Ligature) (c : Char) : Option (Int × Following) :=
  match l with
  | alef => if isLam c then some (0, .other)
    else if isTransparent c then some (0, .ligature alef) else none
  | l =>
    if c = '\u200d' then some (0, .ligature l.join)
    else if isIgnorableMark c then some (0, .ligature l)
    else match l with
      | lamed true => if c = '\u05d0' then some (0, .other) else none
      | ya true => if c = '\u1a17' then some (0, .ligature signYa) else none
      | signYa => if c = '\u1a15' then some (0, .other) else none
      | tifinagh joined =>
        if c = '\u2d7f' then some (1, .ligature tifinaghJoiner)
        else if joined && isTifinagh c then some (0, .other) else none
      | tifinaghJoiner => if isTifinagh c then some (-1, .other) else none
      | tone => if inRanges [(0xa4f8, 0xa4fb)] c then some (0, .other) else none
      | orkhonI true => if c.toNat = 0x10c32 then some (0, .other) else none
      | khmer => if c = '\u17d2' then some (-1, .other) else none
      | _ => none

end Ligature

namespace JoinedEmoji

/-- Whether a selector in front leaves the joiner's effect as it is. -/
def keepsSelector : JoinedEmoji → Bool
  | emoji | keycap => true
  | _ => false

/-- The tags of a flag with one more in front: up to three digits, and up to six letters behind
them. -/
def tagBefore? (letters digits : Nat) (c : Char) : Option JoinedEmoji :=
  if inRanges [(0xe0061, 0xe007a)] c then
    if digits = 0 && letters < 6 then some (tags (letters + 1) 0) else none
  else if inRanges [(0xe0030, 0xe0039)] c then
    if digits = 0 && letters ≤ 4 then some (tags letters 1)
    else if 0 < digits && digits < 3 then some (tags letters (digits + 1)) else none
  else none

/-- What a character adds in front of a joiner and what the joiner connects it to. -/
def before? (e : JoinedEmoji) (c : Char) : Option (Int × Following) :=
  match e with
  | emoji =>
    if c = '\u20e3' then some (0, .joined keycap)
    else if Emoji.isRegional c then some (1, .joined regional)
    else if Emoji.isTone c then some (0, .skinTone)
    else if c.toNat = 0xe007f then some (0, .joined (tags 0 0))
    else if Emoji.isPresentation c then some (0, .emoji) else none
  | keycap => none
  | regional => if Emoji.isRegional c then some (-1, .joined (regionals true)) else none
  | regionals even =>
    if Emoji.isRegional c then some (if even then 3 else -1, .joined (regionals !even))
    else if c = '\u200d' then some (0, .joined emoji) else none
  | tags letters digits =>
    if c.toNat = 0x1f3f4 && (digits = 3 || (digits = 0 && 3 ≤ letters)) then some (0, .emoji)
    else (tagBefore? letters digits c).map fun e => (0, .joined e)

end JoinedEmoji

namespace Following

/-- What a character adds, and what it is to the one before it. Selectors, and characters of the
Latin-1 controls and Basic Latin, are no matter of this. -/
def before (f : Following) (c : Char) : Int × Following :=
  let changed := match f with
    | skinTone => if Emoji.takesTone c then some (0, emoji)
      else if c = '\u200d' then some (0, joined .emoji) else none
    | regional => if Emoji.isRegional c then some (1, regionals) else none
    | regionals => if Emoji.isRegional c then some (1, regionals)
      else if c = '\u200d' then some (0, joined .emoji) else none
    | emoji => if c = '\u200d' then some (0, joined .emoji) else none
    | joined e => e.before? c
    | ligature l => l.before? c
    | _ => none
  changed.getD (alone c)

/-- What remains of what follows a selector when the selector has no effect. -/
def behind (selector? : Option Selector) : Following → Following
  | ligature l => ligature l
  | f => if selector? = some .picture then other else f

/-- What a selector stands in front of, as far as it still matters. -/
def under (selector : Selector) : Following → Following
  | ligature l => ligature l
  | joined e => if selector = .picture && e.keepsSelector then joined e else other
  | _ => other

/-- Whether a joiner draws an emoji in front of it together with this. -/
def isJoined : Following → Bool
  | joined _ => true
  | _ => false

end Following

namespace WidthContext

/-- What a character adds to the columns of a text, and the context for the one before it. -/
def step (s : WidthContext) (c : Char) : Int × WidthContext :=
  if s.selector? = some .picture && Emoji.takesPicture c then
    (if s.following.isJoined then 0 else 2, { following := .emoji })
  else
    let f := s.following.behind s.selector?
    if c.toNat ≤ 0xa0 then
      if c = '\n' then (1, { following := .lineFeed })
      else (if c = '\r' && f = .lineFeed then 0 else 1, {})
    else if c = '\ufe0f' then (0, ⟨f.under .picture, some .picture⟩)
    else if c = '\ufe0e' then (0, ⟨f.under .text, some .text⟩)
    else if s.selector? = some .text && Emoji.takesText c then (1, {})
    else
      let (columns, f) := f.before c
      (columns, { following := f })

end WidthContext

def width (cs : List Char) : Nat :=
  let (total, _) := cs.foldr (fun c (total, s) =>
    let (columns, s) := WidthContext.step s c
    (total + columns, s)) ((0 : Int), ({} : WidthContext))
  total.toNat

example : width ['a', '中'] = 3 ∧ width ['👨', '\u200d', '👩'] = 2 ∧ width ['❤', '\ufe0f'] = 2 ∧
    width ['\u0644', '\u0627'] = 1 := by
  decide +kernel

end DebugDashboard.Text
