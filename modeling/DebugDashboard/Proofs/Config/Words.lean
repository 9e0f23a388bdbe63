import DebugDashboard.CommandLine
import DebugDashboard.Config.Reader

/-!
# Settings are words

Whatever stands in a configuration file or on a command line, a number that is read from it fits
into the word that is to hold it. Nothing else is known of the numbers of a command line: each word
can be written there.
-/

namespace DebugDashboard

/-- A computation that succeeds does so in both of its steps. -/
theorem Except.bind_eq_ok_iff {ε α β : Type} {x : Except ε α} {f : α → Except ε β} {b : β} :
    x >>= f = .ok b ↔ ∃ a, x = .ok a ∧ f a = .ok b := by
  cases x with
  | error e => simp [bind, Except.bind]
  | ok a => simp [bind, Except.bind]

/-! ## The command line -/

namespace CommandLine

/-- The numbers of a command line are words. -/
structure Fits (c : CommandLine) : Prop where
  pollInterval : ∀ n ∈ c.pollInterval?, n < Word.limit
  windowSize : ∀ n ∈ c.windowSize?, n < Word.limit
  edgeMargin : ∀ n ∈ c.edgeMargin?, n < Word.limit

theorem fits_default : Fits {} := by
  constructor <;> rintro n ⟨⟩

variable {c c' : CommandLine} {s s' : State} {slot : Slot}

theorem lt_of_word? {text : String} {n : Nat} (h : Text.Decimal.word? text = some n) :
    n < Word.limit := by
  obtain ⟨-, hlt⟩ := Option.filter_eq_some_iff.mp h
  exact of_decide_eq_true hlt

theorem Fits.store (h : c.Fits) {text : String} (hstore : store c slot text = .ok c') :
    c'.Fits := by
  obtain ⟨hpoll, hsize, hmargin⟩ := h
  cases slot with
  | pollInterval | windowSize | edgeMargin =>
      simp only [CommandLine.store] at hstore
      split at hstore
      next n hword =>
        have hn : n < Word.limit := lt_of_word? hword
        cases hstore
        constructor <;> first | assumption | simpa using hn
      next => cases hstore
  | log | config | cursor | logDirectory =>
      simp only [CommandLine.store] at hstore
      split at hstore
      · cases hstore
      · cases hstore
        exact ⟨hpoll, hsize, hmargin⟩

theorem Fits.fill (h : s.settings.Fits) {text? : Option String}
    (hfill : fill s slot text? = .ok s') : s'.settings.Fits := by
  cases text? with
  | none => cases hfill
  | some text =>
      simp only [CommandLine.fill] at hfill
      split at hfill
      · cases hfill
      · obtain ⟨settings, hstore, hfill⟩ := Except.bind_eq_ok_iff.mp hfill
        cases hfill
        exact h.store hstore

theorem Fits.settle (h : s.settings.Fits) (hsettle : settle s = .ok s') : s'.settings.Fits := by
  unfold CommandLine.settle at hsettle
  split at hsettle
  · cases hsettle
    exact h
  · exact Fits.fill h hsettle

theorem Fits.takeOption (h : s.settings.Fits) {o : Switch} {attached? : Option String}
    (htake : takeOption s o attached? = .ok s') : s'.settings.Fits := by
  unfold CommandLine.takeOption at htake
  split at htake
  next slot text =>
    obtain ⟨settled, hsettle, hfill⟩ := Except.bind_eq_ok_iff.mp htake
    exact (h.settle hsettle).fill hfill
  next slot =>
    obtain ⟨settled, hsettle, htake⟩ := Except.bind_eq_ok_iff.mp htake
    have hsettled := h.settle hsettle
    cases htake
    exact hsettled
  next => cases htake
  next =>
    obtain ⟨settled, hsettle, htake⟩ := Except.bind_eq_ok_iff.mp htake
    obtain ⟨hpoll, hsize, hmargin⟩ := h.settle hsettle
    split at htake
    · cases htake
    · cases htake
      exact ⟨hpoll, hsize, hmargin⟩
  next =>
    obtain ⟨settled, -, htake⟩ := Except.bind_eq_ok_iff.mp htake
    cases htake
  next =>
    obtain ⟨settled, -, htake⟩ := Except.bind_eq_ok_iff.mp htake
    cases htake

theorem Fits.takeValue (h : s.settings.Fits) {afterDashes : Bool} {text : String}
    (htake : takeValue s afterDashes text = .ok s') : s'.settings.Fits := by
  unfold CommandLine.takeValue at htake
  split at htake
  · cases htake
    exact h
  · cases htake
  · split at htake
    · cases htake
    · obtain ⟨settled, hsettle, htake⟩ := Except.bind_eq_ok_iff.mp htake
      have hsettled := h.settle hsettle
      cases htake
      exact hsettled

theorem Fits.takeArgument (h : s.settings.Fits) {text : String}
    (htake : takeArgument s text = .ok s') : s'.settings.Fits := by
  unfold CommandLine.takeArgument at htake
  split at htake
  · dsimp only at htake
    split at htake
    · exact h.takeOption htake
    · cases htake
  · unfold takeLetters at htake
    split at htake
    · exact h.takeOption htake
    · exact h.takeOption htake
    · cases htake
  · exact h.takeValue htake

theorem Fits.takeAll (h : s.settings.Fits) {afterDashes : Bool} {arguments : List String}
    (htake : takeAll afterDashes s arguments = .ok s') : s'.settings.Fits := by
  induction arguments generalizing afterDashes s with
  | nil => exact h.settle htake
  | cons text rest ih =>
      unfold CommandLine.takeAll at htake
      split at htake
      · obtain ⟨next, hvalue, htake⟩ := Except.bind_eq_ok_iff.mp htake
        exact ih (h.takeValue hvalue) htake
      · split at htake
        · exact ih h htake
        · obtain ⟨next, hargument, htake⟩ := Except.bind_eq_ok_iff.mp htake
          exact ih (h.takeArgument hargument) htake

/-- What is read of the arguments are words. -/
theorem fits_parse {arguments : List String} (hparse : parse arguments = .ok c) : c.Fits := by
  obtain ⟨s, htake, hparse⟩ := Except.bind_eq_ok_iff.mp hparse
  cases hparse
  exact fits_default.takeAll htake

/-! ## Numbers behind options -/

theorem exists_print (n : Nat) :
    ∃ c cs, (Text.Decimal.print n).toList = c :: cs ∧ c.isDigit = true := by
  rw [Text.Decimal.print, String.toList_ofList]
  cases hdigits : Nat.toDigits 10 n with
  | nil => exact absurd hdigits (by simp)
  | cons c cs =>
      have hmem : c ∈ Nat.toDigits 10 n := hdigits ▸ List.mem_cons_self
      exact ⟨c, cs, rfl, Nat.isDigit_of_mem_toDigits (by decide) (by decide) hmem⟩

/-- The text of a number is no option. -/
theorem takeArgument_print (s : State) (n : Nat) :
    takeArgument s (Text.Decimal.print n) = takeValue s false (Text.Decimal.print n) := by
  obtain ⟨c, cs, hprint, hdigit⟩ := exists_print n
  unfold takeArgument
  rw [hprint]
  split
  next heq =>
    cases heq
    cases hdigit
  next heq =>
    cases heq
    cases hdigit
  next => rfl

theorem print_ne_dashes (n : Nat) : Text.Decimal.print n ≠ "--" := by
  obtain ⟨c, cs, hprint, hdigit⟩ := exists_print n
  intro hdashes
  rw [hdashes] at hprint
  cases hprint
  cases hdigit

/-- An option takes the number behind it. -/
theorem takeAll_number {option : String}
    (hoption : ∀ s, takeArgument s option = takeOption s (.value slot) none)
    (hdashes : option ≠ "--") (s : State) (n : Nat) (rest : List String) :
    takeAll false s (option :: Text.Decimal.print n :: rest) = settle s >>= fun settled =>
      takeAll false { settled with pending? := some (slot, some (Text.Decimal.print n)) } rest := by
  rw [takeAll, if_neg Bool.false_ne_true, if_neg hdashes, hoption, takeOption]
  cases settle s with
  | error e => rfl
  | ok settled =>
      simp only [bind, Except.bind]
      rw [takeAll, if_neg Bool.false_ne_true, if_neg (print_ne_dashes n), takeArgument_print]
      rfl

/-- Any two words can be the size and the margin of the window. -/
theorem parse_view {size margin : Nat} (hsize : size < Word.limit) (hmargin : margin < Word.limit) :
    parse ["--window-size", Text.Decimal.print size, "--edge-margin", Text.Decimal.print margin] =
      .ok { windowSize? := some size, edgeMargin? := some margin } := by
  have hsizeOption : ∀ s, takeArgument s "--window-size" =
      takeOption s (.value .windowSize) none := fun s => rfl
  have hmarginOption : ∀ s, takeArgument s "--edge-margin" =
      takeOption s (.value .edgeMargin) none := fun s => rfl
  rw [parse, takeAll_number hsizeOption (by decide)]
  simp only [settle, bind, Except.bind]
  rw [takeAll_number hmarginOption (by decide)]
  simp only [settle, fill, store, takeAll, Text.Decimal.word?_print hsize,
    Text.Decimal.word?_print hmargin, bind, Except.bind]
  rfl

end CommandLine

/-! ## The configuration file -/

structure TailSettings.Fits (t : TailSettings) : Prop where
  pollInterval : t.pollInterval < Word.limit
  missingFileBackoff : t.missingFileBackoff < Word.limit
  errorBackoff : t.errorBackoff < Word.limit
  stopTimeout : t.stopTimeout < Word.limit

structure ViewSettings.Fits (v : ViewSettings) : Prop where
  windowSize : v.windowSize < Word.limit
  edgeMargin : v.edgeMargin < Word.limit
  refreshRate : v.refreshRate < Nat.pow 2 32

structure StateSettings.Fits (s : StateSettings) : Prop where
  activityCapacity : s.activityCapacity < Word.limit

namespace Config

/-- The numbers of a configuration are words. -/
structure Fits (c : Config) : Prop where
  tail : c.tail.Fits
  view : c.view.Fits
  state : c.state.Fits

theorem fits_default : Fits {} := by
  constructor <;> constructor <;> decide

/-- The preset values pass their own checks. -/
theorem validate_default : validate {} = .ok () := rfl

theorem number_lt {limit n preset : Nat} {entries : Toml.Entries} {name : String}
    (h : number limit entries name preset = some n) (hpreset : preset < limit) : n < limit := by
  unfold number at h
  split at h
  · cases h
    exact hpreset
  · split at h
    next i hi =>
      cases h
      simp only [Bool.and_eq_true, decide_eq_true_eq] at hi
      omega
    next => cases h
  · cases h

theorem fits_tailSettings {v : Toml} {t : TailSettings} (h : tailSettings v = some t) :
    t.Fits := by
  simp only [tailSettings, word, Option.bind_eq_bind, Option.bind_eq_some_iff] at h
  obtain ⟨entries, -, poll, hpoll, missing, hmissing, error, herror, stop, hstop, cursor, -, h⟩ := h
  cases h
  constructor
  · exact number_lt hpoll (by decide)
  · exact number_lt hmissing (by decide)
  · exact number_lt herror (by decide)
  · exact number_lt hstop (by decide)

theorem fits_viewSettings {v : Toml} {view : ViewSettings} (h : viewSettings v = some view) :
    view.Fits := by
  simp only [viewSettings, word, Option.bind_eq_bind, Option.bind_eq_some_iff] at h
  obtain ⟨entries, -, size, hsize, margin, hmargin, rate, hrate, h⟩ := h
  cases h
  constructor
  · exact number_lt hsize (by decide)
  · exact number_lt hmargin (by decide)
  · exact number_lt hrate (by decide)

theorem fits_stateSettings {v : Toml} {s : StateSettings} (h : stateSettings v = some s) :
    s.Fits := by
  simp only [stateSettings, word, Option.bind_eq_bind, Option.bind_eq_some_iff] at h
  obtain ⟨entries, -, capacity, hcapacity, h⟩ := h
  cases h
  exact ⟨number_lt hcapacity (by decide)⟩

/-- A group of settings is the preset one, or was read. -/
theorem of_group {α : Type} {P : α → Prop} {entries : Toml.Entries} {name : String} {preset a : α}
    {read : Toml → Option α} (h : group entries name preset read = some a) (hpreset : P preset)
    (hread : ∀ v a, read v = some a → P a) : P a := by
  unfold group at h
  split at h
  · cases h
    exact hpreset
  · exact hread _ _ h

theorem fits_ofEntries {entries : Toml.Entries} {c : Config} (h : ofEntries? entries = some c) :
    c.Fits := by
  simp only [ofEntries?, Option.bind_eq_bind, Option.bind_eq_some_iff] at h
  obtain ⟨groups, -, t, htail, view, hview, s, hstate, h⟩ := h
  cases h
  constructor
  · exact of_group htail fits_default.tail fun _ _ => fits_tailSettings
  · exact of_group hview fits_default.view fun _ _ => fits_viewSettings
  · exact of_group hstate fits_default.state fun _ _ => fits_stateSettings

/-- What is read of a text has valid values. -/
theorem fits_parse {home? : Option Path} {text : String} {c : Config}
    (h : parse home? text = .ok c) : c.Fits ∧ c.validate = .ok () := by
  unfold parse at h
  split at h
  · cases h
  next read hread =>
    obtain ⟨entries, -, hentries⟩ := Option.bind_eq_some_iff.mp hread
    obtain ⟨⟨hpoll, hmissing, herror, hstop⟩, hview, hstate⟩ := fits_ofEntries hentries
    dsimp only at h
    split at h
    next hvalid =>
      cases h
      exact ⟨⟨⟨hpoll, hmissing, herror, hstop⟩, hview, hstate⟩, hvalid⟩
    next => cases h

theorem fits_loadFrom {host : Host} {file : Path} {required : Bool} {c : Config}
    (h : loadFrom host file required = .ok c) : c.Fits ∧ c.validate = .ok () := by
  unfold loadFrom at h
  split at h
  · split at h
    · cases h
      exact ⟨fits_default, validate_default⟩
    · cases h
  · split at h
    next hparse =>
      cases h
      exact fits_parse hparse
    next => cases h

/-- What is loaded has valid values, be it read or preset. -/
theorem fits_load {host : Host} {file? : Option Path} {c : Config}
    (h : load host file? = .ok c) : c.Fits ∧ c.validate = .ok () := by
  unfold load at h
  split at h
  · exact fits_loadFrom h
  · exact fits_loadFrom h
  · cases h
    exact ⟨fits_default, validate_default⟩

/-- The settings of a command line leave words. -/
theorem Fits.apply {c : Config} (h : c.Fits) {line : CommandLine} (hline : line.Fits) :
    (line.apply c).Fits := by
  have hor : ∀ {n? : Option Nat} {n : Nat}, (∀ m ∈ n?, m < Word.limit) → n < Word.limit →
      n?.getD n < Word.limit := by
    intro n? n hsome hnone
    cases n? with
    | none => exact hnone
    | some m => exact hsome m rfl
  constructor
  · exact ⟨hor hline.pollInterval h.tail.pollInterval, h.tail.missingFileBackoff,
      h.tail.errorBackoff, h.tail.stopTimeout⟩
  · exact ⟨hor hline.windowSize h.view.windowSize, hor hline.edgeMargin h.view.edgeMargin,
      h.view.refreshRate⟩
  · exact h.state

end Config

end DebugDashboard
