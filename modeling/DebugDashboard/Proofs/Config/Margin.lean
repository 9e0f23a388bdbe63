import DebugDashboard.Dashboard
import DebugDashboard.Proofs.Config.Words
import DebugDashboard.Proofs.Source.Viewport
import Mathlib.Tactic.SplitIfs

/-!
# Margins that are accepted

A configuration is accepted if its margins leave room for a line between them, and then the window
has the size and the margin that were set. The check doubles the margin, and from half of the words
on the doubled margin is no word: such a margin is not refused, the check itself fails.
-/

namespace DebugDashboard

open Source

namespace ViewSettings

/-- What becomes of the margin of a view: its double is taken, and compared with the size. -/
theorem checkMargin_eq (v : ViewSettings) :
    v.checkMargin =
      if Word.signedLimit ≤ v.edgeMargin then .error .overflow
      else if 2 * v.edgeMargin < v.windowSize then .ok ()
      else .error (.edgeMargin v.edgeMargin v.windowSize) := by
  have hsigned : Word.signedLimit = 2 ^ 63 := rfl
  have hlimit : Word.limit = 2 ^ 64 := rfl
  unfold checkMargin Word.checked
  by_cases hlarge : Word.signedLimit ≤ v.edgeMargin
  · rw [if_pos hlarge, if_neg (by omega)]
  · rw [if_neg hlarge, if_pos (by omega)]

end ViewSettings

theorem requirePositive_eq_ok_iff {n : Nat} {e : SettingError} :
    requirePositive n e = .ok () ↔ 0 < n := by
  unfold requirePositive
  by_cases hn : n = 0
  · simp [hn]
  · simp [hn, Nat.pos_of_ne_zero hn]

namespace Config

variable {c : Config}

/-- A check that comes first decides, unless it succeeds. -/
theorem bind_unit_eq_ok_iff {ε : Type} {x : Except ε Unit} {f : Unit → Except ε Unit} :
    x >>= f = .ok () ↔ x = .ok () ∧ f () = .ok () := by
  rw [Except.bind_eq_ok_iff]
  exact ⟨fun ⟨_, hx, hf⟩ => ⟨hx, hf⟩, fun ⟨hx, hf⟩ => ⟨(), hx, hf⟩⟩

theorem validate_eq_ok_iff :
    c.validate = .ok () ↔ 0 < c.tail.pollInterval ∧ 0 < c.view.windowSize ∧
      c.view.checkMargin = .ok () ∧ 0 < c.view.refreshRate ∧ 0 < c.state.activityCapacity := by
  simp only [validate, bind_unit_eq_ok_iff, requirePositive_eq_ok_iff]

/-- Where the last values are valid, the first value that is not decides. -/
theorem validate_eq (hrate : 0 < c.view.refreshRate) (hcapacity : 0 < c.state.activityCapacity) :
    c.validate =
      if c.tail.pollInterval = 0 then .error .pollInterval
      else if c.view.windowSize = 0 then .error .windowSize
      else c.view.checkMargin := by
  have hlast : (requirePositive c.view.refreshRate .refreshRate >>= fun _ =>
      requirePositive c.state.activityCapacity .activityCapacity) = .ok () := by
    rw [bind_unit_eq_ok_iff, requirePositive_eq_ok_iff, requirePositive_eq_ok_iff]
    exact ⟨hrate, hcapacity⟩
  rw [validate]
  split
  next hpoll =>
    rw [requirePositive, if_pos hpoll]
    rfl
  next hpoll =>
    rw [requirePositive_eq_ok_iff.mpr (Nat.pos_of_ne_zero hpoll)]
    split
    next hsize =>
      rw [requirePositive, if_pos hsize]
      rfl
    next hsize =>
      rw [requirePositive_eq_ok_iff.mpr (Nat.pos_of_ne_zero hsize), hlast]
      cases c.view.checkMargin <;> rfl

/-- Set over valid values, the words of a command line are accepted exactly if they leave room for
a line between the margins, which is when a window has the size and the margin that were set. No
other margin is accepted, but not all of them are refused: from half of the words on, the check
fails. -/
theorem validate_apply {line : CommandLine} (hline : line.Fits) {file : Config} (hfile : file.Fits)
    (hvalid : file.validate = .ok ()) :
    let config := line.apply file
    let poll := config.tail.pollInterval
    let size := config.view.windowSize
    let margin := config.view.edgeMargin
    (size < Word.limit ∧ margin < Word.limit) ∧
    (config.validate = .ok () ↔ 0 < poll ∧ 0 < size ∧ 2 * margin < size) ∧
    (0 < size ∧ 2 * margin < size ↔ (CodeWindow.new size margin).viewport = ⟨size, margin⟩) ∧
    (config.validate = .error .overflow ↔ 0 < poll ∧ 0 < size ∧ Word.signedLimit ≤ margin) ∧
    (0 < poll → margin < Word.signedLimit → ¬ (0 < size ∧ 2 * margin < size) →
      config.validate = .error (if size = 0 then .windowSize else .edgeMargin margin size)) := by
  intro config poll size margin
  have hfits : config.Fits := hfile.apply hline
  obtain ⟨-, -, -, hrate, hcapacity⟩ := validate_eq_ok_iff.mp hvalid
  have hlimit : Word.limit = 2 * Word.signedLimit := rfl
  have hsize : size < Word.limit := hfits.view.windowSize
  have hverdict : config.validate =
      if poll = 0 then .error .pollInterval
      else if size = 0 then .error .windowSize
      else if Word.signedLimit ≤ margin then .error .overflow
      else if 2 * margin < size then .ok ()
      else .error (.edgeMargin margin size) := by
    rw [← ViewSettings.checkMargin_eq config.view]
    exact validate_eq hrate hcapacity
  refine ⟨⟨hsize, hfits.view.edgeMargin⟩, ?_, Viewport.new_eq_iff.symm, ?_, ?_⟩
  · rw [hverdict]
    split_ifs <;> simp <;> omega
  · rw [hverdict]
    split_ifs <;> simp <;> omega
  · intro hpoll hmargin hroom
    rw [hverdict, if_neg (Nat.ne_of_gt hpoll)]
    by_cases hzero : size = 0
    · rw [if_pos hzero, if_pos hzero]
    · have hnarrow : ¬ 2 * margin < size := fun h => hroom ⟨Nat.pos_of_ne_zero hzero, h⟩
      rw [if_neg hzero, if_neg hzero, if_neg (Nat.not_le.mpr hmargin), if_neg hnarrow]

/-- A margin of half the words, given on the command line: the check fails, though the margin leaves
no room. -/
theorem validate_apply_half :
    ∃ line, CommandLine.parse ["--window-size", Text.Decimal.print 20,
        "--edge-margin", Text.Decimal.print Word.signedLimit] = .ok line ∧
      line.Fits ∧ Fits {} ∧ validate {} = .ok () ∧
      (line.apply {}).validate = .error .overflow ∧
      ¬ (0 < (line.apply {}).view.windowSize ∧
        2 * (line.apply {}).view.edgeMargin < (line.apply {}).view.windowSize) := by
  have hparse := CommandLine.parse_view (show 20 < Word.limit by decide)
    (show Word.signedLimit < Word.limit by decide)
  have hline := CommandLine.fits_parse hparse
  obtain ⟨-, -, -, hoverflow, -⟩ := validate_apply hline fits_default validate_default
  have hlarge : Word.signedLimit ≤ Word.signedLimit := Nat.le_refl _
  refine ⟨_, hparse, hline, fits_default, validate_default, hoverflow.mpr ?_, by decide⟩
  exact ⟨by decide, by decide, hlarge⟩

end Config

/-! ## The program -/

theorem Except.mapError_eq_ok_iff {ε δ α : Type} {x : Except ε α} {f : ε → δ} {a : α} :
    x.mapError f = .ok a ↔ x = .ok a := by
  cases x <;> simp [Except.mapError]

namespace Dashboard

variable {host : Host} {line : CommandLine} {config : Config} {d d' : Dashboard}

theorem exists_load_of_configure (h : configure host line = .ok config) :
    ∃ file, Config.load host line.configPath? = .ok file ∧ config = line.apply file ∧
      config.validate = .ok () := by
  obtain ⟨file, hload, h⟩ := Except.bind_eq_ok_iff.mp h
  obtain ⟨_, hvalid, h⟩ := Except.bind_eq_ok_iff.mp h
  cases h
  exact ⟨file, Except.mapError_eq_ok_iff.mp hload, rfl, Except.mapError_eq_ok_iff.mp hvalid⟩

theorem new_window {log : Path} (h : new host log config = .ok d) :
    d.board.window = .new config.view.windowSize config.view.edgeMargin := by
  obtain ⟨session, -, h⟩ := Except.bind_eq_ok_iff.mp h
  cases h
  rfl

theorem forgetOffset_board (h : d.forgetOffset = .ok d') : d'.board = d.board := by
  unfold forgetOffset at h
  split at h <;> cases h
  rfl

theorem start_board (h : d.start = .ok d') : d'.board = d.board := by
  unfold start at h
  split at h <;> cases h
  rfl

/-- A program that has started has words for its settings. Its window has the size and the margin
that were set. -/
theorem ofCommandLine_viewport {arguments : List String}
    (hline : CommandLine.parse arguments = .ok line)
    (h : ofCommandLine host line = .ok (config, d)) :
    config.Fits ∧
      d.board.window.viewport = ⟨config.view.windowSize, config.view.edgeMargin⟩ := by
  obtain ⟨accepted, hconfigure, h⟩ := Except.bind_eq_ok_iff.mp h
  obtain ⟨file, hload, happly, hvalid⟩ := exists_load_of_configure hconfigure
  obtain ⟨hfile, -⟩ := Config.fits_load hload
  have hfits : accepted.Fits := happly ▸ hfile.apply (CommandLine.fits_parse hline)
  obtain ⟨-, hsize, hmargin, -⟩ := Config.validate_eq_ok_iff.mp hvalid
  have hroom : 2 * accepted.view.edgeMargin < accepted.view.windowSize := by
    rw [ViewSettings.checkMargin_eq] at hmargin
    split_ifs at hmargin with hlarge hroom
    exact hroom
  have hviewport := Viewport.new_eq_iff.mpr ⟨hsize, hroom⟩
  obtain ⟨made, hmade, h⟩ := Except.bind_eq_ok_iff.mp h
  have hstart : ∀ begun : Dashboard, begun.board = made.board →
      (begun.start >>= fun d => Except.ok (accepted, d)) = .ok (config, d) →
      config.Fits ∧ d.board.window.viewport = ⟨config.view.windowSize, config.view.edgeMargin⟩ := by
    intro begun hbegun hrun
    obtain ⟨started, hstarted, hrun⟩ := Except.bind_eq_ok_iff.mp hrun
    cases hrun
    rw [start_board hstarted, hbegun, new_window hmade]
    exact ⟨hfits, hviewport⟩
  split at h
  · obtain ⟨begun, hbegun, h⟩ := Except.bind_eq_ok_iff.mp h
    exact hstart begun (forgetOffset_board hbegun) h
  · exact hstart _ rfl h

end Dashboard

end DebugDashboard
