import DebugDashboard.Number.Binary64
import Mathlib.Algebra.Order.Floor.Semifield
import Mathlib.Data.Int.Log
import Mathlib.Data.Nat.Cast.Order.Field
import Mathlib.Data.Rat.Floor
import Mathlib.Tactic.FieldSimp
import Mathlib.Tactic.Linarith

/-!
# Rounding to doubles

What a quotient and its rounded double have to do with each other: no double lies between them, and
they are at most half a unit of the last place apart. So a quotient that is a double stays what it
is, and a quotient of natural numbers below `2 ^ 53` keeps its whole part.
-/

namespace DebugDashboard.Binary64

variable {x y : Binary64} {num den m n : Nat} {q r : ℚ} {e : Int}

/-! ## Doubles as fractions -/

/-- The absolute value of a double. -/
def magnitude (x : Binary64) : ℚ := x.significand * 2 ^ x.exponent

theorem cast_pow_toNat (he : 0 ≤ e) : ((Nat.pow 2 e.toNat : Nat) : ℚ) = 2 ^ e := by
  rw [Nat.pow_eq, Nat.cast_pow, Nat.cast_ofNat, ← zpow_natCast, Int.toNat_of_nonneg he]

theorem quotient_div (x : Binary64) : (x.quotient.1 / x.quotient.2 : ℚ) = x.magnitude := by
  unfold quotient magnitude
  split
  next he => rw [Nat.cast_one, div_one, Nat.cast_mul, cast_pow_toNat he]
  next he => rw [cast_pow_toNat (by omega), zpow_neg, div_inv_eq_mul]

theorem quotient_pos (x : Binary64) : 0 < x.quotient.2 := by
  unfold quotient
  split
  · exact Nat.one_pos
  · exact Nat.two_pow_pos _

theorem scale_div (num den : Nat) (e : Int) :
    ((scale num den e).1 / (scale num den e).2 : ℚ) = num / den / 2 ^ e := by
  unfold scale
  split
  next he => rw [Nat.cast_mul, cast_pow_toNat he, div_mul_eq_div_div]
  next he =>
    rw [Nat.cast_mul, cast_pow_toNat (by omega), zpow_neg, ← div_eq_mul_inv, div_right_comm]

theorem scale_pos (num : Nat) (hden : 0 < den) (e : Int) : 0 < (scale num den e).2 := by
  unfold scale
  split
  · exact Nat.mul_pos hden (Nat.two_pow_pos _)
  · exact hden

theorem floorAbs_eq (x : Binary64) : x.floorAbs = ⌊x.magnitude⌋₊ := by
  rw [← quotient_div, Nat.floor_div_eq_div]
  rfl

theorem absLt_iff : x.absLt n = true ↔ x.floorAbs < n := by
  rw [floorAbs, Nat.div_lt_iff_lt_mul x.quotient_pos]
  exact decide_eq_true_iff

/-! ## The nearest natural number -/

theorem roundQuotient_near (num : Nat) (hden : 0 < den) :
    |(roundQuotient num den - num / den : ℚ)| ≤ 1 / 2 := by
  have hpos : (0 : ℚ) < den := Nat.cast_pos.mpr hden
  have hmod := Nat.mod_lt num hden
  have hdivide := Nat.div_add_mod' num den
  have hnear : 2 * (roundQuotient num den * den) ≤ 2 * num + den ∧
      2 * num ≤ 2 * (roundQuotient num den * den) + den := by
    unfold roundQuotient
    dsimp only
    split_ifs <;> (try rw [Nat.add_mul]) <;> omega
  have hhigh : (2 * (roundQuotient num den * den) : ℚ) ≤ 2 * num + den := by exact_mod_cast hnear.1
  have hlow : (2 * num : ℚ) ≤ 2 * (roundQuotient num den * den) + den := by exact_mod_cast hnear.2
  have hscaled : (roundQuotient num den - num / den : ℚ) =
      (roundQuotient num den * den - num) / den := by
    field_simp
  rw [hscaled, abs_div, abs_of_pos hpos, div_le_iff₀ hpos, abs_le]
  constructor <;> linarith

/-- A natural number below a number is not above the nearest natural number either. -/
theorem le_of_near (hnear : |(m - q : ℚ)| ≤ 1 / 2) (hn : n ≤ q) : n ≤ m := by
  have hlow := (abs_le.mp hnear).1
  have hlt : (n : ℚ) < m + 1 := by linarith
  exact Nat.lt_succ_iff.mp (by exact_mod_cast hlt)

theorem ge_of_near (hnear : |(m - q : ℚ)| ≤ 1 / 2) (hn : q ≤ n) : m ≤ n := by
  have hhigh := (abs_le.mp hnear).2
  have hlt : (m : ℚ) < n + 1 := by linarith
  exact Nat.lt_succ_iff.mp (by exact_mod_cast hlt)

theorem exists_tenths (x : Binary64) :
    ∃ n : Nat, x.tenths = (n / 10, n % 10) ∧ |(n - 10 * x.magnitude : ℚ)| ≤ 1 / 2 := by
  refine ⟨roundQuotient (10 * x.quotient.1) x.quotient.2, rfl, ?_⟩
  rw [← quotient_div, ← mul_div_assoc]
  exact_mod_cast roundQuotient_near (10 * x.quotient.1) x.quotient_pos

/-! ## The last place -/

theorem zpow_le_iff (hq : 0 < q) : (2 : ℚ) ^ e ≤ q ↔ e ≤ Int.log 2 q := by
  simpa using Int.zpow_le_iff_le_log (R := ℚ) Nat.one_lt_two hq

theorem lt_zpow_iff (hq : 0 < q) : q < (2 : ℚ) ^ e ↔ Int.log 2 q < e := by
  simpa using Int.lt_zpow_iff_log_lt (R := ℚ) Nat.one_lt_two hq

theorem zpow_log_le (hq : 0 < q) : (2 : ℚ) ^ Int.log 2 q ≤ q :=
  (zpow_le_iff hq).mpr (Int.le_refl _)

theorem lt_zpow_log (hq : 0 < q) : q < (2 : ℚ) ^ (Int.log 2 q + 1) :=
  (lt_zpow_iff hq).mpr (Int.lt_add_one_of_le (Int.le_refl _))

theorem log_div_le (hq : 0 < q) (hr : 0 < r) : Int.log 2 (q / r) ≤ Int.log 2 q - Int.log 2 r := by
  have hlt : q / r < 2 ^ (Int.log 2 q - Int.log 2 r + 1) := by
    rw [div_lt_iff₀ hr]
    calc q < 2 ^ (Int.log 2 q + 1) := lt_zpow_log hq
      _ = 2 ^ (Int.log 2 q - Int.log 2 r + 1) * 2 ^ Int.log 2 r := by
        rw [← zpow_add₀ two_ne_zero]
        congr 1
        omega
      _ ≤ 2 ^ (Int.log 2 q - Int.log 2 r + 1) * r :=
        mul_le_mul_of_nonneg_left (zpow_log_le hr) (zpow_pos two_pos _).le
  exact Int.lt_add_one_iff.mp ((lt_zpow_iff (div_pos hq hr)).mp hlt)

theorem le_log_div (hq : 0 < q) (hr : 0 < r) :
    Int.log 2 q - Int.log 2 r - 1 ≤ Int.log 2 (q / r) := by
  rw [← zpow_le_iff (div_pos hq hr), le_div_iff₀ hr]
  calc (2 : ℚ) ^ (Int.log 2 q - Int.log 2 r - 1) * r
      ≤ 2 ^ (Int.log 2 q - Int.log 2 r - 1) * 2 ^ (Int.log 2 r + 1) :=
        mul_le_mul_of_nonneg_left (lt_zpow_log hr).le (zpow_pos two_pos _).le
    _ = 2 ^ Int.log 2 q := by
        rw [← zpow_add₀ two_ne_zero]
        congr 1
        omega
    _ ≤ q := zpow_log_le hq

theorem floorLog2_eq (hnum : 0 < num) (hden : 0 < den) :
    floorLog2 num den = Int.log 2 (num / den : ℚ) := by
  have hnumerator : (0 : ℚ) < num := Nat.cast_pos.mpr hnum
  have hdenominator : (0 : ℚ) < den := Nat.cast_pos.mpr hden
  have hhigh := log_div_le hnumerator hdenominator
  have hlow := le_log_div hnumerator hdenominator
  have hlog : ∀ n : Nat, (Nat.log2 n : Int) = Int.log 2 (n : ℚ) := by
    intro n
    rw [Nat.log2_eq_log_two, Int.log_natCast]
  have hbelow : ∀ k : Int, (scale num den k).1 < (scale num den k).2 ↔
      Int.log 2 (num / den : ℚ) < k := by
    intro k
    have hpos : (0 : ℚ) < (scale num den k).2 := Nat.cast_pos.mpr (scale_pos num hden k)
    rw [← lt_zpow_iff (div_pos hnumerator hdenominator), ← Nat.cast_lt (α := ℚ),
      ← div_lt_one hpos, scale_div, div_lt_one (zpow_pos two_pos k)]
  unfold floorLog2
  simp only [hlog, hbelow]
  split_ifs <;> omega

/-- The exponent of the last place of the doubles around a positive number. -/
def lastPlace (q : ℚ) : Int := max minExponent (Int.log 2 q - 52)

theorem minExponent_le_lastPlace (q : ℚ) : minExponent ≤ lastPlace q := le_max_left _ _

theorem div_lastPlace_lt (hq : 0 < q) : q / 2 ^ lastPlace q < (2 ^ 53 : Nat) := by
  rw [div_lt_iff₀ (zpow_pos two_pos _)]
  calc q < 2 ^ (Int.log 2 q + 1) := lt_zpow_log hq
    _ ≤ 2 ^ ((53 : Nat) + lastPlace q) := by
      apply zpow_le_zpow_right₀ one_le_two
      unfold lastPlace
      omega
    _ = (2 ^ 53 : Nat) * 2 ^ lastPlace q := by
      rw [zpow_add₀ two_ne_zero, zpow_natCast, Nat.cast_pow, Nat.cast_ofNat]

/-! ## Doubles -/

/-- The magnitudes that doubles have, were there no greatest one. -/
def IsDouble (q : ℚ) : Prop :=
  ∃ (m : Nat) (e : Int), m < 2 ^ 53 ∧ minExponent ≤ e ∧ q = m * 2 ^ e

theorem isDouble_natCast (hn : n < 2 ^ 53) : IsDouble n :=
  ⟨n, 0, hn, by decide, by rw [zpow_zero, mul_one]⟩

/-- The first significand that has too many bits is carried into the exponent. -/
theorem carry_mul_zpow (e : Int) :
    ((2 ^ 53 : Nat) * 2 ^ e : ℚ) = (2 ^ 52 : Nat) * 2 ^ (e + 1) := by
  rw [zpow_add_one₀ two_ne_zero, pow_succ, Nat.cast_mul, Nat.cast_ofNat, mul_right_comm, mul_assoc]

theorem isDouble_mul_zpow (hm : m ≤ 2 ^ 53) (he : minExponent ≤ e) : IsDouble (m * 2 ^ e) := by
  rcases Nat.lt_or_eq_of_le hm with hlt | rfl
  · exact ⟨m, e, hlt, he, rfl⟩
  · exact ⟨2 ^ 52, e + 1, by decide, by omega, carry_mul_zpow e⟩

/-- What is left of a double above a natural number is a double, if it is not too much. -/
theorem IsDouble.sub_natCast (h : IsDouble r) (hn : n ≤ r) (hlt : r - n < (2 ^ 53 : Nat)) :
    IsDouble (r - n) := by
  obtain ⟨m, e, hm, he, rfl⟩ := h
  by_cases hsign : 0 ≤ e
  · rw [← cast_pow_toNat hsign, ← Nat.cast_mul] at hn hlt ⊢
    rw [← Nat.cast_sub (Nat.cast_le.mp hn)] at hlt ⊢
    exact isDouble_natCast (Nat.cast_lt.mp hlt)
  · have hunit : (0 : ℚ) < 2 ^ e := zpow_pos two_pos e
    -- the number in units of the last place of the double
    have hunits : (n : ℚ) = (n * Nat.pow 2 (-e).toNat : Nat) * 2 ^ e := by
      rw [Nat.cast_mul, cast_pow_toNat (by omega), mul_assoc, ← zpow_add₀ two_ne_zero,
        neg_add_cancel, zpow_zero, mul_one]
    rw [hunits] at hn ⊢
    have hle := Nat.cast_le.mp (le_of_mul_le_mul_right hn hunit)
    rw [← sub_mul, ← Nat.cast_sub hle]
    exact ⟨_, e, by omega, he, rfl⟩

/-- A double is made of units of the last place of another number, unless it lies so far below that
a power of two is between them. -/
theorem IsDouble.units (h : IsDouble r) (hq : 0 < q) :
    (∃ n : Nat, r = n * 2 ^ lastPlace q) ∨
      r < (2 ^ 52 : Nat) * 2 ^ lastPlace q ∧ (2 ^ 52 : Nat) * 2 ^ lastPlace q ≤ q := by
  obtain ⟨m, e, hm, he, rfl⟩ := h
  by_cases hplace : lastPlace q ≤ e
  · refine .inl ⟨m * 2 ^ (e - lastPlace q).toNat, ?_⟩
    rw [Nat.cast_mul, ← Nat.pow_eq, cast_pow_toNat (by omega), mul_assoc,
      ← zpow_add₀ two_ne_zero, sub_add_cancel]
  · have hlog : (52 : Nat) + lastPlace q = Int.log 2 q := by
      unfold lastPlace at hplace ⊢
      omega
    refine .inr ⟨?_, ?_⟩
    · calc (m * 2 ^ e : ℚ) < (2 ^ 53 : Nat) * 2 ^ e :=
            mul_lt_mul_of_pos_right (Nat.cast_lt.mpr hm) (zpow_pos two_pos e)
        _ = (2 ^ 52 : Nat) * 2 ^ (e + 1) := carry_mul_zpow e
        _ ≤ (2 ^ 52 : Nat) * 2 ^ lastPlace q := by
            apply mul_le_mul_of_nonneg_left _ (Nat.cast_nonneg _)
            exact zpow_le_zpow_right₀ one_le_two (by omega)
    · rw [Nat.cast_pow, Nat.cast_ofNat, ← zpow_natCast, ← zpow_add₀ two_ne_zero, hlog]
      exact zpow_log_le hq

/-! ## Rounding -/

/-- A double that a positive number is rounded to: none lies between the two, and they are at most
half a unit of the last place apart. -/
structure Rounds (q : ℚ) (x : Binary64) : Prop where
  isDouble : IsDouble x.magnitude
  le {r : ℚ} : IsDouble r → r ≤ q → r ≤ x.magnitude
  ge {r : ℚ} : IsDouble r → q ≤ r → x.magnitude ≤ r
  error : |x.magnitude - q| ≤ 2 ^ lastPlace q / 2

/-- It is enough that the significand is a natural number nearest to the scaled number. -/
theorem rounds_of_near (hq : 0 < q) (hnear : |(m - q / 2 ^ lastPlace q : ℚ)| ≤ 1 / 2)
    (hx : x.magnitude = m * 2 ^ lastPlace q) : Rounds q x := by
  have hunit : (0 : ℚ) < 2 ^ lastPlace q := zpow_pos two_pos _
  have hm : m ≤ 2 ^ 53 := ge_of_near hnear (div_lastPlace_lt hq).le
  have hmono : ∀ {a b : Nat}, a ≤ b → (a * 2 ^ lastPlace q : ℚ) ≤ b * 2 ^ lastPlace q :=
    fun h => mul_le_mul_of_nonneg_right (Nat.cast_le.mpr h) hunit.le
  refine ⟨?_, ?_, ?_, ?_⟩
  · rw [hx]
    exact isDouble_mul_zpow hm (minExponent_le_lastPlace q)
  · intro r hr hle
    rw [hx]
    rcases hr.units hq with ⟨n, rfl⟩ | ⟨hlow, hpower⟩
    · exact hmono (le_of_near hnear ((le_div_iff₀ hunit).mpr hle))
    · exact hlow.le.trans (hmono (le_of_near hnear ((le_div_iff₀ hunit).mpr hpower)))
  · intro r hr hge
    rw [hx]
    rcases hr.units hq with ⟨n, rfl⟩ | ⟨hlow, hpower⟩
    · exact hmono (ge_of_near hnear ((div_le_iff₀ hunit).mpr hge))
    · exact absurd (hlow.trans_le hpower) hge.not_gt
  · have hscaled : x.magnitude - q = (m - q / 2 ^ lastPlace q) * 2 ^ lastPlace q := by
      rw [hx, sub_mul, div_mul_cancel₀ q hunit.ne']
    rw [hscaled, abs_mul, abs_of_pos hunit]
    linarith [mul_le_mul_of_nonneg_right hnear hunit.le]

theorem Rounds.eq_of_isDouble (h : Rounds q x) (hq : IsDouble q) : x.magnitude = q :=
  le_antisymm (h.ge hq (le_refl q)) (h.le hq (le_refl q))

/-- From one on, the relative error is half a unit in the last of 53 bits. -/
theorem Rounds.relative_error (h : Rounds q x) (hq : 1 ≤ q) :
    |x.magnitude - q| ≤ q / 2 ^ 53 := by
  have hpos : 0 < q := one_pos.trans_le hq
  have hlog : 0 ≤ Int.log 2 q := (zpow_le_iff hpos).mp (by rwa [zpow_zero])
  have hplace : lastPlace q = Int.log 2 q - 52 := by
    unfold lastPlace minExponent
    omega
  calc |x.magnitude - q| ≤ 2 ^ lastPlace q / 2 := h.error
    _ = 2 ^ Int.log 2 q / 2 ^ 53 := by
      rw [hplace, zpow_sub₀ two_ne_zero, div_div, zpow_ofNat, ← pow_succ]
    _ ≤ q / 2 ^ 53 := div_le_div_of_nonneg_right (zpow_log_le hpos) (by positivity)

/-- Every quotient is rounded that does not come close to the greatest double. -/
theorem rounds_ofQuotient? (hnum : 0 < num) (hden : 0 < den) (hmax : (num / den : ℚ) < 2 ^ 1023)
    (negative : Bool) :
    ∃ x, ofQuotient? negative num den = some x ∧ Rounds (num / den) x := by
  have hq : (0 : ℚ) < num / den := div_pos (Nat.cast_pos.mpr hnum) (Nat.cast_pos.mpr hden)
  have hplace : max minExponent (floorLog2 num den - 52) = lastPlace (num / den) := by
    rw [floorLog2_eq hnum hden]
    rfl
  have hnear := roundQuotient_near (scale num den (lastPlace (num / den))).1
    (scale_pos num hden (lastPlace (num / den)))
  rw [scale_div] at hnear
  have hroom : lastPlace (num / den) < maxExponent := by
    have hlog : Int.log 2 (num / den : ℚ) < (1023 : Nat) :=
      (lt_zpow_iff hq).mp (by rwa [zpow_natCast])
    unfold lastPlace minExponent maxExponent
    omega
  unfold ofQuotient?
  simp only [if_neg hnum.ne', hplace]
  split_ifs with hcarry hlarge hlarge
  · exact absurd hlarge (by omega)
  · refine ⟨_, rfl, rounds_of_near hq hnear ?_⟩
    rw [hcarry]
    exact (carry_mul_zpow _).symm
  · exact absurd hlarge (by omega)
  · exact ⟨_, rfl, rounds_of_near hq hnear rfl⟩

/-! ## Operations -/

theorem lt_two_pow_of_le (hq : q ≤ (2 ^ 53 : Nat)) : q < 2 ^ 1023 := by
  refine hq.trans_lt ?_
  rw [Nat.cast_pow, Nat.cast_ofNat]
  exact pow_lt_pow_right₀ one_lt_two (by decide)

theorem ofNat_magnitude (hn : n < 2 ^ 53) : (ofNat n).magnitude = n := by
  rcases Nat.eq_zero_or_pos n with rfl | hpos
  · simp [ofNat, ofQuotient?, magnitude, zero]
  · have hone : (n / (1 : Nat) : ℚ) = n := by rw [Nat.cast_one, div_one]
    have hmax : (n / (1 : Nat) : ℚ) < 2 ^ 1023 := by
      rw [hone]
      exact lt_two_pow_of_le (Nat.cast_le.mpr hn.le)
    obtain ⟨x, hx, hround⟩ := rounds_ofQuotient? hpos Nat.one_pos hmax false
    rw [hone] at hround
    rw [ofNat, hx]
    exact hround.eq_of_isDouble (isDouble_natCast hn)

theorem floorAbs_eq_div (hn : 0 < n) (hlow : (m / n : Nat) ≤ x.magnitude)
    (hhigh : x.magnitude < (m + 1) / n) : x.floorAbs = m / n := by
  have hnext : ((m + 1) / n : ℚ) ≤ (m / n : Nat) + 1 := by
    rw [div_le_iff₀ (Nat.cast_pos.mpr hn), mul_comm]
    exact_mod_cast Nat.lt_mul_div_succ m hn
  rw [floorAbs_eq, Nat.floor_eq_iff ((Nat.cast_nonneg _).trans hlow)]
  exact ⟨hlow, hhigh.trans_le hnext⟩

/-- A quotient of natural numbers below `2 ^ 53` may be rounded up, but not to the next natural
number. -/
theorem Rounds.floorAbs_eq_div (h : Rounds (m / n) x) (hn : 0 < n) (hm : m < 2 ^ 53) (hle : n ≤ m) :
    x.floorAbs = m / n := by
  have hpos : (0 : ℚ) < n := Nat.cast_pos.mpr hn
  have hone : (1 : ℚ) ≤ m / n := (one_le_div hpos).mpr (Nat.cast_le.mpr hle)
  have herror : (m / n / 2 ^ 53 : ℚ) < 1 / n := by
    rw [div_right_comm, div_lt_div_iff_of_pos_right hpos, div_lt_one (by positivity)]
    exact_mod_cast hm
  refine Binary64.floorAbs_eq_div hn ?_ ?_
  · exact h.le (isDouble_natCast ((Nat.div_le_self m n).trans_lt hm)) Nat.cast_div_le
  · have hnear := (abs_le.mp (h.relative_error hone)).2
    rw [add_div]
    linarith

theorem rounds_div? (hx : 0 < x.magnitude) (hy : 0 < y.magnitude)
    (hmax : x.magnitude / y.magnitude < 2 ^ 1023) :
    ∃ z, x.div? y = some z ∧ Rounds (x.magnitude / y.magnitude) z := by
  have hpos : ∀ {x : Binary64}, 0 < x.magnitude → 0 < x.quotient.1 := by
    intro x hx
    refine Nat.pos_of_ne_zero fun hzero => hx.ne' ?_
    rw [← quotient_div, hzero, Nat.cast_zero, zero_div]
  have hquotient : (x.quotient.1 * y.quotient.2 : Nat) / (x.quotient.2 * y.quotient.1 : Nat) =
      x.magnitude / y.magnitude := by
    rw [← quotient_div x, ← quotient_div y, div_div_div_eq, Nat.cast_mul, Nat.cast_mul]
  obtain ⟨z, hz, hround⟩ := rounds_ofQuotient? (Nat.mul_pos (hpos hx) y.quotient_pos)
    (Nat.mul_pos x.quotient_pos (hpos hy)) (hquotient ▸ hmax) (x.negative != y.negative)
  exact ⟨z, hz, hquotient ▸ hround⟩

theorem cast_mod_div (m n : Nat) {den : Nat} (hden : 0 < den) :
    ((m % (n * den) : Nat) / den : ℚ) = m / den - (n * (m / (n * den)) : Nat) := by
  have hpos : (0 : ℚ) < den := Nat.cast_pos.mpr hden
  have hmod : m % (n * den) + n * (m / (n * den)) * den = m := by
    rw [Nat.mul_right_comm, Nat.mod_add_div]
  rw [eq_sub_iff_add_eq, div_add' _ _ _ hpos.ne', ← Nat.cast_mul, ← Nat.cast_add, hmod]

/-- The remainder by a natural number is not rounded. -/
theorem rem_magnitude (hx : IsDouble x.magnitude) (hn : 0 < n) (hmax : n < 2 ^ 53) :
    (x.rem n).magnitude = (x.quotient.1 % (n * x.quotient.2) : Nat) / x.quotient.2 := by
  have hden : (0 : ℚ) < x.quotient.2 := Nat.cast_pos.mpr x.quotient_pos
  have hleft := cast_mod_div x.quotient.1 n x.quotient_pos
  rw [quotient_div] at hleft
  have hlt : ((x.quotient.1 % (n * x.quotient.2) : Nat) / x.quotient.2 : ℚ) < (2 ^ 53 : Nat) := by
    refine lt_trans ?_ (Nat.cast_lt.mpr hmax)
    rw [div_lt_iff₀ hden]
    exact_mod_cast Nat.mod_lt _ (Nat.mul_pos hn x.quotient_pos)
  have hdouble : IsDouble ((x.quotient.1 % (n * x.quotient.2) : Nat) / x.quotient.2) := by
    rw [hleft]
    refine hx.sub_natCast ?_ (hleft ▸ hlt)
    rw [← sub_nonneg, ← hleft]
    exact div_nonneg (Nat.cast_nonneg _) hden.le
  rcases Nat.eq_zero_or_pos (x.quotient.1 % (n * x.quotient.2)) with hzero | hpos
  · simp [rem, hzero, ofQuotient?, magnitude, zero]
  · obtain ⟨y, hy, hround⟩ := rounds_ofQuotient? hpos x.quotient_pos (lt_two_pow_of_le hlt.le)
      x.negative
    rw [rem]
    dsimp only
    rw [hy]
    exact hround.eq_of_isDouble hdouble

theorem rem_floorAbs (hx : IsDouble x.magnitude) (hn : 0 < n) (hmax : n < 2 ^ 53) :
    (x.rem n).floorAbs = x.floorAbs % n := by
  rw [floorAbs_eq, rem_magnitude hx hn hmax, Nat.floor_div_eq_div, Nat.mul_comm,
    Nat.mod_mul_right_div_self]
  rfl

end DebugDashboard.Binary64
