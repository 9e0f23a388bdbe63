import DebugDashboard.Proofs.Text.Ascii
import Mathlib.Data.List.Induction
import Mathlib.Data.List.TakeWhile

/-!
# Numerals

What a text looks like that is read as a number: decimal digits, perhaps behind a plus sign, and
blanks around them. It need not be the print of the number, since zeros may stand in front.
-/

namespace DebugDashboard.Text

variable {cs before after : List Char} {text : String} {n : Nat}

/-- Decimal digits, at least one, and the number that they stand for. -/
inductive Digits : List Char → Nat → Prop
  | one {d : Nat} (hd : d < 10) : Digits [Nat.digitChar d] d
  | more {cs : List Char} {n d : Nat} (h : Digits cs n) (hd : d < 10) :
      Digits (cs ++ [Nat.digitChar d]) (10 * n + d)

/-- A text that stands for a number: digits with an optional plus sign in front, between blanks. -/
def Numeral (text : String) (n : Nat) : Prop :=
  ∃ before sign digits after, text.toList = before ++ (sign ++ digits) ++ after ∧
    (∀ c ∈ before, isBlank c = true) ∧ (∀ c ∈ after, isBlank c = true) ∧
    (sign = [] ∨ sign = ['+']) ∧ Digits digits n

/-! ## Digits -/

theorem exists_digitChar {c : Char} (hc : c.isDigit = true) : ∃ d < 10, c = Nat.digitChar d := by
  obtain ⟨hlow, hhigh⟩ := toNat_of_isDigit hc
  have hd : c.toNat - 48 < 10 := by omega
  refine ⟨c.toNat - 48, hd, Char.toNat_inj.mp ?_⟩
  rw [Nat.toNat_digitChar_of_lt_ten hd]
  omega

theorem Digits.ne_nil (h : Digits cs n) : cs ≠ [] := by
  cases h <;> simp

theorem Digits.isDigit (h : Digits cs n) : ∀ c ∈ cs, c.isDigit = true := by
  have hdigit : ∀ {d}, d < 10 → (Nat.digitChar d).isDigit = true := by
    intro d hd
    rw [Nat.isDigit_digitChar, decide_eq_true hd]
  induction h with
  | one hd => simpa using hdigit hd
  | more h hd ih =>
      intro c hc
      rcases List.mem_append.mp hc with hc | hc
      · exact ih c hc
      · rw [List.mem_singleton.mp hc]
        exact hdigit hd

theorem ofDigitChars_concat {d : Nat} (hd : d < 10) (cs : List Char) :
    Nat.ofDigitChars 10 (cs ++ [Nat.digitChar d]) 0 = 10 * Nat.ofDigitChars 10 cs 0 + d := by
  rw [Nat.ofDigitChars_append, Nat.ofDigitChars_cons, Nat.ofDigitChars_nil,
    Nat.toNat_digitChar_of_lt_ten hd]
  simp

theorem Digits.value (h : Digits cs n) : Nat.ofDigitChars 10 cs 0 = n := by
  induction h with
  | one hd => simpa using ofDigitChars_concat hd []
  | more h hd ih => rw [ofDigitChars_concat hd, ih]

theorem digits_of_isDigit (hne : cs ≠ []) (hcs : ∀ c ∈ cs, c.isDigit = true) :
    Digits cs (Nat.ofDigitChars 10 cs 0) := by
  induction cs using List.reverseRecOn with
  | nil => exact absurd rfl hne
  | append_singleton front c ih =>
      obtain ⟨d, hd, rfl⟩ := exists_digitChar (hcs c (by simp))
      rw [ofDigitChars_concat hd]
      by_cases hfront : front = []
      · subst hfront
        simpa using Digits.one hd
      · exact .more (ih hfront fun c hc => hcs c (List.mem_append_left _ hc)) hd

/-- What is read as digits are digits. -/
theorem digits?_eq_some_iff : Decimal.digits? cs = some n ↔ Digits cs n := by
  unfold Decimal.digits?
  constructor
  · intro h
    split at h
    · cases h
    next hcs =>
      simp only [Bool.or_eq_true, List.isEmpty_iff, Bool.not_eq_true', not_or,
        Bool.not_eq_false, List.all_eq_true] at hcs
      cases h
      exact digits_of_isDigit hcs.1 hcs.2
  · intro h
    rw [if_neg, h.value]
    simpa [h.ne_nil] using h.isDigit

theorem toDigits_inj {m n : Nat} : Nat.toDigits 10 m = Nat.toDigits 10 n ↔ m = n := by
  refine ⟨fun h => ?_, congrArg _⟩
  have hvalue := congrArg (Nat.ofDigitChars 10 · 0) h
  simpa only [Nat.ofDigitChars_ten_toDigits] using hvalue

/-- Digits end at the first character that is none. -/
theorem takeWhile_toDigits (n : Nat) {c : Char} (hc : c.isDigit = false) (cs : List Char) :
    (Nat.toDigits 10 n ++ c :: cs).takeWhile Char.isDigit = Nat.toDigits 10 n := by
  have hdigits : ∀ c ∈ Nat.toDigits 10 n, c.isDigit = true :=
    fun _ hmem => Nat.isDigit_of_mem_toDigits (by decide) (by decide) hmem
  rw [List.takeWhile_append_of_pos hdigits, List.takeWhile_cons_of_neg (by simp [hc]),
    List.append_nil]

/-! ## Blanks -/

/-- Trimming leaves out blanks at both ends. -/
theorem trimBlank_append (cs : List Char) : ∃ before after,
    cs = before ++ trimBlank cs ++ after ∧
      (∀ c ∈ before, isBlank c = true) ∧ ∀ c ∈ after, isBlank c = true := by
  refine ⟨cs.takeWhile isBlank, ((cs.dropWhile isBlank).reverse.takeWhile isBlank).reverse, ?_,
    fun c hc => List.mem_takeWhile_imp hc,
    fun c hc => List.mem_takeWhile_imp (List.mem_reverse.mp hc)⟩
  rw [trimBlank, dropWhileEnd, List.append_assoc, ← List.reverse_append,
    List.takeWhile_append_dropWhile, List.reverse_reverse, List.takeWhile_append_dropWhile]

/-- What has no blank in it is all that trimming leaves. -/
theorem trimBlank_eq (hbefore : ∀ c ∈ before, isBlank c = true)
    (hcs : ∀ c ∈ cs, isBlank c = false) (hne : cs ≠ [])
    (hafter : ∀ c ∈ after, isBlank c = true) : trimBlank (before ++ cs ++ after) = cs := by
  have hleft : (before ++ cs ++ after).dropWhile isBlank = cs ++ after := by
    obtain ⟨first, rest, rfl⟩ := List.exists_cons_of_ne_nil hne
    rw [List.append_assoc, List.dropWhile_append_of_pos hbefore, List.cons_append,
      List.dropWhile_cons_of_neg (by simp [hcs first List.mem_cons_self])]
  rw [trimBlank, hleft, dropWhileEnd, List.reverse_append,
    List.dropWhile_append_of_pos fun c hc => hafter c (List.mem_reverse.mp hc),
    dropWhile_eq_self fun c hc => hcs c (List.mem_reverse.mp hc), List.reverse_reverse]

/-! ## Numbers -/

theorem dropPlus_append (cs : List Char) :
    ∃ sign, (sign = [] ∨ sign = ['+']) ∧ cs = sign ++ Decimal.dropPlus cs := by
  unfold Decimal.dropPlus
  split
  · exact ⟨['+'], .inr rfl, rfl⟩
  · exact ⟨[], .inl rfl, rfl⟩

theorem dropPlus_eq {sign : List Char} (hsign : sign = [] ∨ sign = ['+']) (h : Digits cs n) :
    Decimal.dropPlus (sign ++ cs) = cs := by
  rcases hsign with rfl | rfl
  · obtain ⟨first, rest, rfl⟩ := List.exists_cons_of_ne_nil h.ne_nil
    have hfirst := h.isDigit first List.mem_cons_self
    rw [List.nil_append, Decimal.dropPlus]
    rintro others heq
    cases heq
    exact absurd hfirst (by decide)
  · rfl

/-- A trimmed text is read as a number if it stands for one that fits into a word. -/
theorem word?_trim_eq_some_iff :
    Decimal.word? (trim text) = some n ↔ Numeral text n ∧ n < Word.limit := by
  rw [Decimal.word?, trim, String.toList_ofList, Option.filter_eq_some_iff, digits?_eq_some_iff,
    decide_eq_true_iff]
  refine and_congr_left fun _ => ⟨fun hdigits => ?_, ?_⟩
  · obtain ⟨before, after, htext, hbefore, hafter⟩ := trimBlank_append text.toList
    obtain ⟨sign, hsign, hbody⟩ := dropPlus_append (trimBlank text.toList)
    rw [hbody] at htext
    exact ⟨before, sign, _, after, htext, hbefore, hafter, hsign, hdigits⟩
  · rintro ⟨before, sign, digits, after, htext, hbefore, hafter, hsign, hdigits⟩
    have hbody : ∀ c ∈ sign ++ digits, isBlank c = false := by
      intro c hc
      rcases List.mem_append.mp hc with hc | hc
      · rcases hsign with rfl | rfl
        · cases hc
        · rw [List.mem_singleton.mp hc]
          decide
      · exact isBlank_of_isDigit (hdigits.isDigit c hc)
    have hne : sign ++ digits ≠ [] := by simp [hdigits.ne_nil]
    rwa [htext, trimBlank_eq hbefore hbody hne hafter, dropPlus_eq hsign hdigits]

end DebugDashboard.Text
