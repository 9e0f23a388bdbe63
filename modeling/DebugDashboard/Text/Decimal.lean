import DebugDashboard.Number.Word

/-!
# Unsigned decimal numbers

A number is read from one or more ASCII digits with an optional plus sign in front, and must fit
into a machine word of 64 bits.
-/

namespace DebugDashboard.Text.Decimal

def digits? (cs : List Char) : Option Nat :=
  if cs.isEmpty || !cs.all Char.isDigit then none else some (Nat.ofDigitChars 10 cs 0)

def dropPlus : List Char → List Char
  | '+' :: cs => cs
  | cs => cs

def word? (text : String) : Option Nat :=
  (digits? (dropPlus text.toList)).filter (· < Word.limit)

def print (n : Nat) : String :=
  String.ofList (Nat.toDigits 10 n)

/-- A number that fits into a word is read back from its digits. -/
theorem word?_print {n : Nat} (h : n < Word.limit) : word? (print n) = some n := by
  have digit : ∀ c ∈ Nat.toDigits 10 n, c.isDigit = true :=
    fun c hc => Nat.isDigit_of_mem_toDigits (by decide) (by decide) hc
  have plus : dropPlus (Nat.toDigits 10 n) = Nat.toDigits 10 n := by
    unfold dropPlus
    split
    · next cs eq =>
      have := digit '+' (by rw [eq]; exact List.mem_cons_self)
      exact absurd this (by decide)
    · rfl
  have nonempty : (Nat.toDigits 10 n).isEmpty = false := by
    cases eq : Nat.toDigits 10 n with
    | nil => exact absurd eq (by simp)
    | cons => rfl
  have all : (Nat.toDigits 10 n).all Char.isDigit = true := List.all_eq_true.mpr digit
  simp [word?, print, plus, digits?, nonempty, all, h, Nat.ofDigitChars_toDigits]

end DebugDashboard.Text.Decimal
