import DebugDashboard.Duration
import DebugDashboard.Proofs.Number.Rounding
import DebugDashboard.Proofs.Text.Numeral

/-!
# Durations as they are shown

Below `2 ^ 50` milliseconds the quotients of doubles are exact enough: the whole parts that are
shown are those of the exact quotients, and the tenths of a second are the nearest ones. Since the
unit is chosen before the tenths are rounded, the last fifty milliseconds of the first minute are
shown as sixty seconds. No other unit reaches the next greater one.
-/

namespace DebugDashboard.Duration

open Binary64 Text

variable {millis longer : Nat} {x : Binary64}

/-! ## What is shown -/

/-- A duration in one of the units in which it is shown. -/
inductive Shown where
  | millis (n : Nat)
  | seconds (whole tenth : Nat)
  | minutes (minutes seconds : Nat)
  | hours (hours minutes : Nat)

namespace Shown

variable {a b : Shown}

def text : Shown → String
  | .millis n => Nat.repr n ++ "ms"
  | .seconds whole tenth => Nat.repr whole ++ "." ++ Nat.repr tenth ++ "s"
  | .minutes m s => Nat.repr m ++ "m " ++ Nat.repr s ++ "s"
  | .hours h m => Nat.repr h ++ "h " ++ Nat.repr m ++ "m"

/-- The milliseconds that a reader takes it for. -/
def value : Shown → Nat
  | .millis n => n
  | .seconds whole tenth => 1000 * whole + 100 * tenth
  | .minutes m s => 60000 * m + 1000 * s
  | .hours h m => 3600000 * h + 60000 * m

/-- No unit reaches the next greater one. -/
def Canonical : Shown → Prop
  | .millis n => n < 1000
  | .seconds whole tenth => whole < 60 ∧ tenth < 10
  | .minutes m s => m < 60 ∧ s < 60
  | .hours _ m => m < 60

/-- What is shown of a number of milliseconds, in the unit that its size asks for: seconds to the
nearest tenth, all else cut to whole numbers. -/
def Tells (millis : Nat) : Shown → Prop
  | .millis n => millis < 1000 ∧ n = millis
  | .seconds whole tenth => 1000 ≤ millis ∧ millis < 60000 ∧ tenth < 10 ∧
      1000 * whole + 100 * tenth ≤ millis + 50 ∧ millis ≤ 1000 * whole + 100 * tenth + 50
  | .minutes m s => 60000 ≤ millis ∧ millis < 3600000 ∧
      m = millis / 60000 ∧ s = millis / 1000 % 60
  | .hours h m => 3600000 ≤ millis ∧ h = millis / 3600000 ∧ m = millis / 60000 % 60

/-! ### Reading the text -/

/-- The number that a text begins with. -/
def first : Shown → Nat
  | .millis n | .seconds n _ | .minutes n _ | .hours n _ => n

/-- What marks the end of the first number. -/
def mark : Shown → Char
  | .millis _ | .minutes _ _ => 'm'
  | .seconds _ _ => '.'
  | .hours _ _ => 'h'

def rest : Shown → List Char
  | .millis _ => ['s']
  | .seconds _ tenth => Nat.toDigits 10 tenth ++ ['s']
  | .minutes _ s => ' ' :: (Nat.toDigits 10 s ++ ['s'])
  | .hours _ m => ' ' :: (Nat.toDigits 10 m ++ ['m'])

theorem toList_text (a : Shown) : a.text.toList = Nat.toDigits 10 a.first ++ a.mark :: a.rest := by
  cases a <;> simp [text, first, mark, rest]

theorem mark_isDigit (a : Shown) : a.mark.isDigit = false := by
  cases a <;> rfl

/-- A text shows one duration only. -/
theorem text_injective (h : a.text = b.text) : a = b := by
  have hlist := congrArg String.toList h
  rw [toList_text, toList_text] at hlist
  have hdigits := congrArg (List.takeWhile Char.isDigit) hlist
  rw [takeWhile_toDigits _ a.mark_isDigit, takeWhile_toDigits _ b.mark_isDigit] at hdigits
  rw [hdigits] at hlist
  have hfirst : a.first = b.first := toDigits_inj.mp hdigits
  have hrest := List.append_cancel_left hlist
  cases a <;> cases b <;> simp_all [first, mark, rest, toDigits_inj]

end Shown

/-! ## Quotients -/

theorem rounds_divide {n : Nat} (hx : 0 < x.magnitude) (hmax : x.magnitude ≤ (2 ^ 53 : Nat))
    (hn : 0 < n) (hlt : n < 2 ^ 53) : Rounds (x.magnitude / n) (divide x n) := by
  have hden : (ofNat n).magnitude = n := ofNat_magnitude hlt
  have hpos : (0 : ℚ) < n := Nat.cast_pos.mpr hn
  have hone : (1 : ℚ) ≤ n := Nat.one_le_cast.mpr hn
  have hquotient : x.magnitude / n ≤ (2 ^ 53 : Nat) := (div_le_self hx.le hone).trans hmax
  obtain ⟨z, hz, hround⟩ := rounds_div? (y := ofNat n) hx (hden ▸ hpos)
    (hden ▸ lt_two_pow_of_le hquotient)
  rw [hden] at hround
  rwa [divide, hz]

/-- The seconds of a duration, as a double. -/
def seconds (millis : Nat) : Binary64 := divide (Binary64.ofNat millis) 1000

theorem rounds_seconds (hpos : 0 < millis) (h : millis < 2 ^ 50) :
    Rounds (millis / (1000 : Nat)) (seconds millis) := by
  have hlt : millis < 2 ^ 53 := h.trans (by decide)
  have hexact := ofNat_magnitude hlt
  have hround := rounds_divide (x := Binary64.ofNat millis) (n := 1000)
    (hexact ▸ Nat.cast_pos.mpr hpos) (hexact ▸ Nat.cast_le.mpr hlt.le) (by decide) (by decide)
  rwa [hexact] at hround

theorem seconds_floorAbs (hlow : 1000 ≤ millis) (h : millis < 2 ^ 50) :
    (seconds millis).floorAbs = millis / 1000 :=
  (rounds_seconds (by omega) h).floorAbs_eq_div (by decide) (h.trans (by decide)) hlow

theorem seconds_absLt_iff (hlow : 1000 ≤ millis) (h : millis < 2 ^ 50) :
    (seconds millis).absLt 60 = true ↔ millis < 60000 := by
  rw [absLt_iff, seconds_floorAbs hlow h]
  omega

/-- The seconds that are left of the minutes are cut like those of the exact number. -/
theorem seconds_rem (hlow : 1000 ≤ millis) (h : millis < 2 ^ 50) :
    ((seconds millis).rem 60).floorAbs = millis / 1000 % 60 := by
  have hdouble := (rounds_seconds (by omega) h).isDouble
  rw [rem_floorAbs hdouble (by decide) (by decide), seconds_floorAbs hlow h]

/-- Neither of the two roundings lifts a duration to the next minute. -/
theorem minutes_floorAbs (hlow : 60000 ≤ millis) (h : millis < 2 ^ 50) :
    (divide (seconds millis) 60).floorAbs = millis / 60000 := by
  have hseconds := rounds_seconds (by omega) h
  have hmillis : (60000 : ℚ) ≤ millis := by exact_mod_cast hlow
  have hsmall : (millis : ℚ) < 2 ^ 50 := by exact_mod_cast h
  have hwhole : ((60 * (millis / 60000) : Nat) : ℚ) ≤ (seconds millis).magnitude := by
    refine hseconds.le (isDouble_natCast (by omega)) ((le_div_iff₀ (by norm_num)).mpr ?_)
    exact_mod_cast (by omega : 60 * (millis / 60000) * 1000 ≤ millis)
  have hsixty : (60 : ℚ) ≤ (seconds millis).magnitude := by
    refine le_trans ?_ hwhole
    exact_mod_cast (by omega : 60 ≤ 60 * (millis / 60000))
  push_cast at hseconds hwhole
  have herror := abs_le.mp (hseconds.relative_error (by linarith))
  have hminutes := rounds_divide (x := seconds millis) (n := 60) (by linarith)
    (by push_cast; linarith [herror.2]) (by decide) (by decide)
  push_cast at hminutes
  have herror' := abs_le.mp (hminutes.relative_error (by linarith))
  refine floorAbs_eq_div (by decide) ?_ ?_
  · exact hminutes.le (isDouble_natCast (by omega)) (by linarith)
  · push_cast
    linarith [herror.2, herror'.2]

/-- The tenths of a second that are shown are the nearest ones to the exact number, too. -/
theorem exists_seconds_tenths (hlow : 1000 ≤ millis) (h : millis < 60000) :
    ∃ n : Nat, (seconds millis).tenths = (n / 10, n % 10) ∧
      100 * n ≤ millis + 50 ∧ millis ≤ 100 * n + 50 := by
  have hseconds := rounds_seconds (by omega : 0 < millis) (h.trans (by decide))
  have hmillis : (1000 : ℚ) ≤ millis := by exact_mod_cast hlow
  have hsmall : (millis : ℚ) < 60000 := by exact_mod_cast h
  push_cast at hseconds
  have herror := abs_le.mp (hseconds.relative_error (by linarith))
  obtain ⟨n, htenths, hnear⟩ := exists_tenths (seconds millis)
  have hnear := abs_le.mp hnear
  have hhigh : (100 * n : ℚ) < millis + 51 := by linarith [hnear.2, herror.2]
  have hlow : (millis : ℚ) < 100 * n + 51 := by linarith [hnear.1, herror.1]
  refine ⟨n, htenths, Nat.lt_succ_iff.mp ?_, Nat.lt_succ_iff.mp ?_⟩
  · exact_mod_cast hhigh
  · exact_mod_cast hlow

/-! ## The text -/

theorem print_of_tenths {whole tenth : Nat} (hlow : 1000 ≤ millis)
    (hlt : (seconds millis).absLt 60 = true) (htenths : (seconds millis).tenths = (whole, tenth)) :
    print millis = (Shown.seconds whole tenth).text := by
  rw [print, if_neg (Nat.not_lt.mpr hlow), ← seconds]
  -- any double will do, and this one is not to be computed
  generalize seconds millis = x at *
  change (if x.absLt 60 = true then _ else _) = _
  rw [if_pos hlt, htenths]
  rfl

theorem print_of_minutes {m s : Nat} (hlow : 1000 ≤ millis)
    (hle : ¬ (seconds millis).absLt 60 = true) (hm : (divide (seconds millis) 60).floorAbs = m)
    (hs : ((seconds millis).rem 60).floorAbs = s) :
    print millis =
      if m < 60 then (Shown.minutes m s).text else (Shown.hours (m / 60) (m % 60)).text := by
  subst hm hs
  rw [print, if_neg (Nat.not_lt.mpr hlow), ← seconds]
  generalize seconds millis = x at *
  change (if x.absLt 60 = true then _ else _) = _
  rw [if_neg hle]
  rfl

/-- Below `2 ^ 50` milliseconds a duration is told by what is shown of it. -/
theorem exists_tells (h : millis < 2 ^ 50) :
    ∃ shown : Shown, print millis = shown.text ∧ shown.Tells millis := by
  by_cases hmillis : millis < 1000
  · exact ⟨.millis millis, if_pos hmillis, hmillis, rfl⟩
  have hlow := Nat.not_lt.mp hmillis
  by_cases hseconds : millis < 60000
  · obtain ⟨n, htenths, hnear⟩ := exists_seconds_tenths hlow hseconds
    have htext := print_of_tenths hlow ((seconds_absLt_iff hlow h).mpr hseconds) htenths
    exact ⟨_, htext, hlow, hseconds, Nat.mod_lt n (by decide), by omega⟩
  · have hminute := Nat.not_lt.mp hseconds
    have htext := print_of_minutes hlow (mt (seconds_absLt_iff hlow h).mp hseconds)
      (minutes_floorAbs hminute h) (seconds_rem hlow h)
    by_cases hminutes : millis < 3600000
    · rw [if_pos (by omega)] at htext
      exact ⟨_, htext, hminute, hminutes, rfl, rfl⟩
    · rw [if_neg (by omega), Nat.div_div_eq_div_mul] at htext
      exact ⟨_, htext, Nat.not_lt.mp hminutes, rfl, rfl⟩

theorem tells_of_print (h : millis < 2 ^ 50) {shown : Shown} (htext : print millis = shown.text) :
    shown.Tells millis := by
  obtain ⟨shown', htext', htells⟩ := exists_tells h
  rwa [Shown.text_injective (htext.symm.trans htext')]

namespace Shown.Tells

variable {a b : Shown}

/-- What is shown of a duration stands for no more than what is shown of a longer one. -/
theorem value_mono (ha : a.Tells millis) (hb : b.Tells longer) (hlt : millis < longer) :
    a.value ≤ b.value := by
  cases a <;> cases b <;> simp only [Tells, value] at * <;> omega

/-- Only seconds are rounded up, and then to a full minute at most. -/
theorem canonical_or (ha : a.Tells millis) : a.Canonical ∨ a = .seconds 60 0 := by
  cases a <;> simp only [Tells, Canonical, seconds.injEq, reduceCtorEq, or_false] at * <;> omega

/-- Midway between two tenths both are near enough; elsewhere the nearest one is the only one. -/
theorem canonical_iff (ha : a.Tells millis) (hne : millis ≠ 59950) :
    a.Canonical ↔ ¬ (59950 ≤ millis ∧ millis < 60000) := by
  cases a <;> simp only [Tells, Canonical] at * <;> omega

end Shown.Tells

/-- Midway between the last tenth of the minute and the full minute, the double lies above. -/
theorem print_midway : print 59950 = (Shown.seconds 60 0).text := by decide

/-- Below `2 ^ 50` milliseconds a duration is shown in the unit that its size asks for, exactly but
for the rounding of seconds to tenths. No unit reaches the next greater one, unless the duration is
one of the last fifty milliseconds of the first minute: these are shown as sixty seconds. A longer
duration is not shown as a shorter one. -/
theorem print_canonical_iff (h : millis < 2 ^ 50) :
    ∃ shown : Shown, print millis = shown.text ∧ shown.Tells millis ∧
      (shown.Canonical ↔ ¬ (59950 ≤ millis ∧ millis < 60000)) ∧
      (59950 ≤ millis → millis < 60000 → print millis = "60.0s") ∧
      ∀ longer (other : Shown), millis ≤ longer → longer < 2 ^ 50 → print longer = other.text →
        shown.value ≤ other.value := by
  obtain ⟨shown, htext, htells⟩ := exists_tells h
  have hcanonical : shown.Canonical ↔ ¬ (59950 ≤ millis ∧ millis < 60000) := by
    by_cases hmidway : millis = 59950
    · subst hmidway
      obtain rfl : shown = .seconds 60 0 := Shown.text_injective (htext.symm.trans print_midway)
      simp [Shown.Canonical]
    · exact htells.canonical_iff hmidway
  refine ⟨shown, htext, htells, hcanonical, ?_, ?_⟩
  · intro hlow hhigh
    rcases htells.canonical_or with hshown | rfl
    · exact absurd ⟨hlow, hhigh⟩ (hcanonical.mp hshown)
    · exact htext
  · intro longer other hle hlonger hother
    rcases Nat.eq_or_lt_of_le hle with rfl | hlt
    · rw [Shown.text_injective (htext.symm.trans hother)]
    · exact htells.value_mono (tells_of_print hlonger hother) hlt

/-- The last millisecond of the first minute is shown as sixty seconds, the next one as a minute. -/
theorem print_canonical_iff_carried :
    59999 < 2 ^ 50 ∧ 60000 < 2 ^ 50 ∧ print 59999 = "60.0s" ∧
      print 60000 = (Shown.minutes 1 0).text ∧ ¬ (Shown.seconds 60 0).Canonical ∧
      (Shown.seconds 60 0).value ≤ (Shown.minutes 1 0).value := by
  obtain ⟨shown, htext, -, hcanonical, hcarried, hlonger⟩ :=
    print_canonical_iff (show 59999 < 2 ^ 50 by decide)
  have hsixty : print 59999 = (Shown.seconds 60 0).text := hcarried (by decide) (by decide)
  have hminute : print 60000 = (Shown.minutes 1 0).text := by decide +kernel
  obtain rfl : shown = .seconds 60 0 := Shown.text_injective (htext.symm.trans hsixty)
  have hshown : ¬ (Shown.seconds 60 0).Canonical := mt hcanonical.mp (by decide)
  exact ⟨by decide, by decide, hsixty, hminute, hshown,
    hlonger 60000 (.minutes 1 0) (by decide) (by decide) hminute⟩

end DebugDashboard.Duration
