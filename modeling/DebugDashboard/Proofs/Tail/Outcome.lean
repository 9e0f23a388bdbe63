import DebugDashboard.Tail.Handlers
import Mathlib.Data.List.TakeWhile

/-!
# What becomes of a line

Whether a complete line is passed over, dropped, or handed to a handler depends on the text that it
holds and on the kinds that have a handler, and on nothing else.
-/

namespace DebugDashboard

namespace Text

theorem dropWhileEnd_eq_nil_iff {drop : Char → Bool} {cs : List Char} :
    dropWhileEnd drop cs = [] ↔ ∀ c ∈ cs, drop c = true := by
  rw [dropWhileEnd, List.reverse_eq_nil_iff, List.dropWhile_eq_nil_iff]
  simp only [List.mem_reverse]

theorem trimBlank_eq_nil_iff {cs : List Char} :
    trimBlank cs = [] ↔ ∀ c ∈ cs, isBlank c = true := by
  rw [trimBlank, dropWhileEnd_eq_nil_iff]
  constructor
  · intro hleft c hc
    rw [← List.takeWhile_append_dropWhile (p := isBlank) (l := cs)] at hc
    rcases List.mem_append.mp hc with hfront | hbehind
    · exact List.mem_takeWhile_imp hfront
    · exact hleft c hbehind
  · intro hblank c hc
    exact hblank c ((List.dropWhile_suffix _).subset hc)

theorem trim_eq_empty_iff {text : String} :
    trim text = "" ↔ ∀ c ∈ text.toList, isBlank c = true := by
  rw [trim, String.ofList_eq_empty_iff, trimBlank_eq_nil_iff]

end Text

theorem Json.parse?_empty : Json.parse? "" = none := by decide

namespace Kind

theorem ofWord?_eq_some_iff {word : String} {kind : Kind} :
    ofWord? word = some kind ↔ kind.word = word := by
  constructor
  · intro hfind
    simpa using List.find?_some hfind
  · rintro rfl
    exact ofWord?_word kind

theorem word_injective {kind other : Kind} (hword : kind.word = other.word) : kind = other := by
  have hkind := ofWord?_word kind
  rw [hword, ofWord?_word] at hkind
  exact (Option.some.inj hkind).symm

theorem ofWord?_eq_none_iff {word : String} :
    ofWord? word = none ↔ ∀ kind : Kind, kind.word ≠ word := by
  rw [Option.eq_none_iff_forall_ne_some]
  exact forall_congr' fun kind => not_congr ofWord?_eq_some_iff

end Kind

/-! ## The word of a line -/

/-- The text holds a JSON object, which has the word as its message. -/
def Record.Says (text word : String) : Prop :=
  ∃ fields, Json.parse? (Text.trim text) = some (.object fields) ∧
    Fields.get? fields "message" = some (.string word)

namespace Record.Says

variable {text word other : String}

theorem unique (h : Says text word) (h' : Says text other) : word = other := by
  obtain ⟨fields, hfields, hword⟩ := h
  obtain ⟨fields', hfields', hother⟩ := h'
  obtain rfl := Json.object.inj (Option.some.inj (hfields.symm.trans hfields'))
  exact Json.string.inj (Option.some.inj (hword.symm.trans hother))

theorem trim_ne_empty (h : Says text word) : Text.trim text ≠ "" := by
  obtain ⟨fields, hfields, -⟩ := h
  intro hempty
  rw [hempty, Json.parse?_empty] at hfields
  cases hfields

/-- A text with a word is a record exactly if the word names a kind. -/
theorem parse (h : Says text word) :
    (∃ r, Record.parse text = .ok r ∧ r.kind.word = word) ∨
      Record.parse text = .error (.unknownDiscriminator word) ∧
        ∀ kind : Kind, kind.word ≠ word := by
  have hne := h.trim_ne_empty
  obtain ⟨fields, hfields, hword⟩ := h
  have hstring : Fields.string? fields "message" = some word := by rw [Fields.string?, hword]
  simp only [Record.parse, if_neg hne, hfields, ofJson, hstring, Kind.parse]
  cases hkind : Kind.ofWord? word with
  | some kind => exact .inl ⟨_, rfl, Kind.ofWord?_eq_some_iff.mp hkind⟩
  | none => exact .inr ⟨rfl, Kind.ofWord?_eq_none_iff.mp hkind⟩

end Record.Says

/-- A text that is neither blank nor has a word is malformed. -/
theorem Record.parse_of_not_says {text : String} (hne : Text.trim text ≠ "")
    (hnone : ∀ word, ¬ Says text word) :
    Record.parse text = .error .json ∨ Record.parse text = .error .missingDiscriminator := by
  rw [Record.parse, if_neg hne]
  cases hparse : Json.parse? (Text.trim text) with
  | none => exact .inl rfl
  | some value =>
      right
      cases value with
      | object fields =>
          simp only [ofJson]
          split
          · rfl
          next word hstring =>
            refine absurd ⟨fields, hparse, ?_⟩ (hnone word)
            rw [Fields.string?] at hstring
            split at hstring
            next hget => rw [hget, Option.some.inj hstring]
            · cases hstring
      | _ => rfl

/-! ## What a line is -/

namespace Log

/-- The line is UTF-8, of blank characters only. -/
def Blank (line : List UInt8) : Prop :=
  ∃ text, Text.Utf8.decode? line = some text ∧ ∀ c ∈ text.toList, Text.isBlank c = true

/-- The line is UTF-8 and holds a JSON object, which has the word as its message. -/
def Says (line : List UInt8) (word : String) : Prop :=
  ∃ text, Text.Utf8.decode? line = some text ∧ Record.Says text word

variable {line : List UInt8} {text word other : String}

theorem blank_iff (htext : Text.Utf8.decode? line = some text) :
    Blank line ↔ Text.trim text = "" := by
  rw [Text.trim_eq_empty_iff]
  constructor
  · rintro ⟨text', htext', hblank⟩
    obtain rfl := Option.some.inj (htext.symm.trans htext')
    exact hblank
  · intro hblank
    exact ⟨text, htext, hblank⟩

theorem says_iff (htext : Text.Utf8.decode? line = some text) :
    Says line word ↔ Record.Says text word := by
  constructor
  · rintro ⟨text', htext', hword⟩
    obtain rfl := Option.some.inj (htext.symm.trans htext')
    exact hword
  · intro hword
    exact ⟨text, htext, hword⟩

theorem Says.unique (h : Says line word) (h' : Says line other) : word = other := by
  obtain ⟨text, htext, hword⟩ := h
  exact hword.unique ((says_iff htext).mp h')

theorem Says.not_blank (h : Says line word) : ¬ Blank line := by
  obtain ⟨text, htext, hword⟩ := h
  rw [blank_iff htext]
  exact hword.trim_ne_empty

end Log

/-- The four things that a complete line can be, each with the lines that are it. -/
inductive LineClass.Is (line : List UInt8) : LineClass → Prop
  | blank (hblank : Log.Blank line) : Is line .blank
  | malformed (hblank : ¬ Log.Blank line) (hnone : ∀ word, ¬ Log.Says line word) :
      Is line .malformed
  | foreign {word : String} (hword : Log.Says line word)
      (hnone : ∀ kind : Kind, kind.word ≠ word) : Is line .foreign
  | record {r : Record} (hword : Log.Says line r.kind.word) : Is line (.record r)

theorem LineClass.is_of (line : List UInt8) : Is line (of line) := by
  unfold of
  cases htext : Text.Utf8.decode? line with
  | none =>
      refine .malformed ?_ ?_
      · rintro ⟨text, htext', -⟩
        rw [htext] at htext'
        cases htext'
      · rintro word ⟨text, htext', -⟩
        rw [htext] at htext'
        cases htext'
  | some text =>
      dsimp only
      by_cases hempty : Text.trim text = ""
      · rw [Record.parse, if_pos hempty]
        exact .blank ((Log.blank_iff htext).mpr hempty)
      by_cases hword : ∃ word, Record.Says text word
      · obtain ⟨word, hword⟩ := hword
        have hsays := (Log.says_iff htext).mpr hword
        rcases hword.parse with ⟨r, hparse, rfl⟩ | ⟨hparse, hnone⟩
        · rw [hparse]
          exact .record hsays
        · rw [hparse]
          exact .foreign hsays hnone
      · have hmalformed : Is line .malformed := by
          refine .malformed (fun hblank => hempty ((Log.blank_iff htext).mp hblank)) ?_
          intro word hsays
          exact hword ⟨word, (Log.says_iff htext).mp hsays⟩
        rcases Record.parse_of_not_says hempty (not_exists.mp hword) with hparse | hparse
        · rw [hparse]
          exact hmalformed
        · rw [hparse]
          exact hmalformed

/-! ## What becomes of it -/

/-- What can become of a complete line. -/
inductive Outcome where
  | blank
  | malformed
  | unhandled
  | dispatched
  deriving Repr, DecidableEq

namespace Handlers

variable {σ : Type} (hs : Handlers σ) (line : List UInt8)

/-- What becomes of a complete line, given the handlers. -/
def outcome : Outcome :=
  match LineClass.of line with
  | .blank => .blank
  | .malformed => .malformed
  | .foreign => .unhandled
  | .record r => if (hs r.kind).isSome then .dispatched else .unhandled

/-- What becomes of a line, in terms of its text and of the kinds that have a handler. -/
theorem outcome_iff :
    (hs.outcome line = .blank ↔ Log.Blank line) ∧
    (hs.outcome line = .malformed ↔ ¬ Log.Blank line ∧ ∀ word, ¬ Log.Says line word) ∧
    (hs.outcome line = .unhandled ↔ ∃ word, Log.Says line word ∧
      ((∀ kind : Kind, kind.word ≠ word) ∨
        ∃ kind : Kind, kind.word = word ∧ hs kind = Option.none)) ∧
    (hs.outcome line = .dispatched ↔ ∃ (kind : Kind) (h : Handler σ),
      Log.Says line kind.word ∧ hs kind = some h) := by
  have his := LineClass.is_of line
  unfold outcome
  generalize LineClass.of line = c at his
  cases his with
  | blank hblank =>
      have hnone : ∀ word, ¬ Log.Says line word := fun word hword => hword.not_blank hblank
      simp [hblank, hnone]
  | malformed hblank hnone => simp [hblank, hnone]
  | @foreign word hword hnone =>
      have hother : ∀ other, Log.Says line other ↔ other = word :=
        fun other => ⟨fun h => h.unique hword, fun h => h ▸ hword⟩
      simp [hword.not_blank, hother, hnone]
  | @record r hword =>
      have hother : ∀ other, Log.Says line other ↔ other = r.kind.word :=
        fun other => ⟨fun h => h.unique hword, fun h => h ▸ hword⟩
      have hkind : ∀ kind : Kind, kind.word = r.kind.word ↔ kind = r.kind :=
        fun kind => ⟨fun h => Kind.word_injective h, fun h => h ▸ rfl⟩
      cases hh : hs r.kind with
      | none => simp [hword.not_blank, hother, hkind, hh]
      | some h => simp [hword.not_blank, hother, hkind, hh]

end Handlers

/-- The counter of an outcome, if it has one, goes up by one. -/
def Outcome.count : Outcome → Stats → Stats
  | .blank => id
  | .malformed => Stats.countMalformed
  | .unhandled => Stats.countUnhandled
  | .dispatched => Stats.countDispatched

theorem Surroundings.dispatch_stats {σ : Type} (hs : Handlers σ) (s : Surroundings σ)
    (line : List UInt8) :
    (s.dispatch hs line).stats = (hs.outcome line).count s.stats := by
  unfold dispatch Handlers.outcome
  cases LineClass.of line with
  | record r =>
      cases hh : hs r.kind with
      | none => simp [hh, Outcome.count, count]
      | some h => simp [hh, Outcome.count, count]
  | _ => rfl

end DebugDashboard
