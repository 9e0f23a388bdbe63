import Mathlib.Data.List.Basic
import Mathlib.Tactic.IntervalCases
import DebugDashboard.Proofs.Text.Ascii

/-!
# The bytes of a character

A character below 0x80 is one byte. Any other one is a sequence that the decoder takes: a byte that
begins it, and bytes within the bounds that the decoder keeps.
-/

namespace DebugDashboard.Text.Utf8

/-! ## Encodings of two, three and four bytes -/

theorem toNat_ofNat {n : Nat} (hn : n.isValidChar) : (Char.ofNat n).toNat = n := by
  rw [Char.ofNat, dif_pos hn]
  rfl

section Bytes

variable {c : Char} {x y z w : Nat}

theorem encodeChar_two (hc : c.toNat = x * 64 + y) (hx : 2 ≤ x ∧ x < 32) (hy : y < 64) :
    String.utf8EncodeChar c = [UInt8.ofNat (x + 0xc0), UInt8.ofNat (y + 0x80)] := by
  change c.val.toNat = _ at hc
  have hone : ¬ c.val.toNat ≤ 0x7f := by omega
  have htwo : c.val.toNat ≤ 0x7ff := by omega
  have hlead : c.val.toNat / 64 % 32 = x := by omega
  have hlast : c.val.toNat % 64 = y := by omega
  simp only [String.utf8EncodeChar, if_neg hone, if_pos htwo, hlead, hlast]

theorem encodeChar_three (hc : c.toNat = (x * 64 + y) * 64 + z) (hx : x < 16) (hy : y < 64)
    (hz : z < 64) (hlow : 0x800 ≤ c.toNat) :
    String.utf8EncodeChar c =
      [UInt8.ofNat (x + 0xe0), UInt8.ofNat (y + 0x80), UInt8.ofNat (z + 0x80)] := by
  change c.val.toNat = _ at hc
  change _ ≤ c.val.toNat at hlow
  have hone : ¬ c.val.toNat ≤ 0x7f := by omega
  have htwo : ¬ c.val.toNat ≤ 0x7ff := by omega
  have hthree : c.val.toNat ≤ 0xffff := by omega
  have hlead : c.val.toNat / 4096 % 16 = x := by omega
  have hnext : c.val.toNat / 64 % 64 = y := by omega
  have hlast : c.val.toNat % 64 = z := by omega
  simp only [String.utf8EncodeChar, if_neg hone, if_neg htwo, if_pos hthree, hlead, hnext, hlast]

theorem encodeChar_four (hc : c.toNat = ((x * 64 + y) * 64 + z) * 64 + w) (hx : x < 5)
    (hy : y < 64) (hz : z < 64) (hw : w < 64) (hlow : 0x10000 ≤ c.toNat) :
    String.utf8EncodeChar c = [UInt8.ofNat (x + 0xf0), UInt8.ofNat (y + 0x80),
      UInt8.ofNat (z + 0x80), UInt8.ofNat (w + 0x80)] := by
  change c.val.toNat = _ at hc
  change _ ≤ c.val.toNat at hlow
  have hone : ¬ c.val.toNat ≤ 0x7f := by omega
  have htwo : ¬ c.val.toNat ≤ 0x7ff := by omega
  have hthree : ¬ c.val.toNat ≤ 0xffff := by omega
  have hlead : c.val.toNat / 262144 % 8 = x := by omega
  have hnext : c.val.toNat / 4096 % 64 = y := by omega
  have hthird : c.val.toNat / 64 % 64 = z := by omega
  have hlast : c.val.toNat % 64 = w := by omega
  simp only [String.utf8EncodeChar, if_neg hone, if_neg htwo, if_neg hthree, hlead, hnext, hthird,
    hlast]

theorem start?_two (hx : 2 ≤ x ∧ x < 32) :
    Partial.start? (UInt8.ofNat (x + 0xc0)) = some ⟨0, 0x80, 0xbf, x⟩ := by
  obtain ⟨hlow, hhigh⟩ := hx
  interval_cases x <;> rfl

theorem start?_three (hx : x < 16) :
    Partial.start? (UInt8.ofNat (x + 0xe0)) =
      some ⟨1, if x = 0 then 0xa0 else 0x80, if x = 13 then 0x9f else 0xbf, x⟩ := by
  interval_cases x <;> rfl

theorem start?_four (hx : x < 5) :
    Partial.start? (UInt8.ofNat (x + 0xf0)) =
      some ⟨2, if x = 0 then 0x90 else 0x80, if x = 4 then 0x8f else 0xbf, x⟩ := by
  interval_cases x <;> rfl

theorem eq_ofNat_add {b : UInt8} {base : Nat} (hbase : base ≤ b.toNat) :
    b = UInt8.ofNat (b.toNat - base + base) := by
  rw [Nat.sub_add_cancel hbase, UInt8.ofNat_toNat]

/-- The bytes that begin a sequence. -/
theorem start?_cases {b : UInt8} {p : Partial} (h : Partial.start? b = some p) :
    (∃ x, (2 ≤ x ∧ x < 32) ∧ b = UInt8.ofNat (x + 0xc0)) ∨
      (∃ x < 16, b = UInt8.ofNat (x + 0xe0)) ∨ ∃ x < 5, b = UInt8.ofNat (x + 0xf0) := by
  have hrange : (0xc2 ≤ b.toNat ∧ b.toNat < 0xe0) ∨ (0xe0 ≤ b.toNat ∧ b.toNat < 0xf0) ∨
      0xf0 ≤ b.toNat ∧ b.toNat < 0xf5 := by
    simp only [Partial.start?, UInt8.le_iff_toNat_le, ← UInt8.toNat_inj, UInt8.reduceToNat] at h
    split_ifs at h <;> omega
  rcases hrange with hrange | hrange | hrange
  · exact .inl ⟨b.toNat - 0xc0, by omega, eq_ofNat_add (by omega)⟩
  · exact .inr (.inl ⟨b.toNat - 0xe0, by omega, eq_ofNat_add (by omega)⟩)
  · exact .inr (.inr ⟨b.toNat - 0xf0, by omega, eq_ofNat_add (by omega)⟩)

end Bytes

/-! ## What follows the beginning of a sequence -/

/-- The bytes complete a sequence that has begun to the encoding of a character. -/
def Partial.Completes (c : Char) : Partial → List UInt8 → Prop
  | _, [] => False
  | p, b :: rest => p.accepts b = true ∧
    match p.more with
    | 0 => rest = [] ∧ c = Char.ofNat (p.push b)
    | more + 1 => Completes c ⟨more, 0x80, 0xbf, p.push b⟩ rest

theorem accepts_iff {p : Partial} {b : UInt8} :
    p.accepts b = true ↔ p.low.toNat ≤ b.toNat ∧ b.toNat ≤ p.high.toNat := by
  simp only [Partial.accepts, Bool.and_eq_true, decide_eq_true_eq, UInt8.le_iff_toNat_le]

theorem toNat_tail {y : Nat} (hy : y < 64) : (UInt8.ofNat (y + 0x80)).toNat = y + 0x80 := by
  rw [UInt8.toNat_ofNat']
  omega

theorem push_tail (p : Partial) {y : Nat} (hy : y < 64) :
    p.push (UInt8.ofNat (y + 0x80)) = p.value * 64 + y := by
  unfold Partial.push
  rw [toNat_tail hy, Nat.add_sub_cancel]

section Completes

variable {c : Char} {rest : List UInt8} {low high : UInt8} {value : Nat}
  (hlow : 0x80 ≤ low.toNat) (hhigh : high.toNat ≤ 0xbf)

include hlow hhigh

/-- What is taken next carries six bits. -/
theorem accepts_iff_tail {more : Nat} {b : UInt8} :
    (⟨more, low, high, value⟩ : Partial).accepts b = true ↔
      ∃ y < 64, b = UInt8.ofNat (y + 0x80) ∧ low.toNat ≤ y + 0x80 ∧ y + 0x80 ≤ high.toNat := by
  rw [accepts_iff]
  constructor
  · rintro ⟨hle, hge⟩
    have hb : 0x80 ≤ b.toNat := hlow.trans hle
    have hb' : b.toNat ≤ 0xbf := hge.trans hhigh
    refine ⟨b.toNat - 0x80, by omega, eq_ofNat_add hb, ?_⟩
    rw [Nat.sub_add_cancel hb]
    exact ⟨hle, hge⟩
  · rintro ⟨y, hy, rfl, hle, hge⟩
    rw [toNat_tail hy]
    exact ⟨hle, hge⟩

/-- A sequence that lacks one byte. -/
theorem completes_last_iff :
    Partial.Completes c ⟨0, low, high, value⟩ rest ↔ ∃ y < 64, rest = [UInt8.ofNat (y + 0x80)] ∧
      (low.toNat ≤ y + 0x80 ∧ y + 0x80 ≤ high.toNat) ∧ c = Char.ofNat (value * 64 + y) := by
  cases rest with
  | nil => simp [Partial.Completes]
  | cons b rest =>
      rw [Partial.Completes, accepts_iff_tail hlow hhigh]
      constructor
      · rintro ⟨⟨y, hy, rfl, hbounds⟩, rfl, hc⟩
        rw [push_tail _ hy] at hc
        exact ⟨y, hy, rfl, hbounds, hc⟩
      · rintro ⟨y, hy, hrest, hbounds, hc⟩
        cases hrest
        refine ⟨⟨y, hy, rfl, hbounds⟩, rfl, ?_⟩
        rw [push_tail _ hy, hc]

/-- A sequence that lacks more bytes. -/
theorem completes_more_iff {more : Nat} :
    Partial.Completes c ⟨more + 1, low, high, value⟩ rest ↔
      ∃ y < 64, ∃ behind, rest = UInt8.ofNat (y + 0x80) :: behind ∧
        (low.toNat ≤ y + 0x80 ∧ y + 0x80 ≤ high.toNat) ∧
        Partial.Completes c ⟨more, 0x80, 0xbf, value * 64 + y⟩ behind := by
  cases rest with
  | nil => simp [Partial.Completes]
  | cons b rest =>
      rw [Partial.Completes, accepts_iff_tail hlow hhigh]
      constructor
      · rintro ⟨⟨y, hy, rfl, hbounds⟩, hrest⟩
        rw [push_tail _ hy] at hrest
        exact ⟨y, hy, rest, rfl, hbounds, hrest⟩
      · rintro ⟨y, hy, behind, hrest, hbounds, hbehind⟩
        cases hrest
        refine ⟨⟨y, hy, rfl, hbounds⟩, ?_⟩
        rw [push_tail _ hy]
        exact hbehind

end Completes

theorem tail_bounds {y : Nat} (hy : y < 64) :
    (0x80 : UInt8).toNat ≤ y + 0x80 ∧ y + 0x80 ≤ (0xbf : UInt8).toNat := by
  simp only [UInt8.reduceToNat]
  omega

/-- What may follow the lead of three bytes: overlong forms and surrogates are excluded. -/
theorem bounds_three_iff {x y : Nat} (hy : y < 64) :
    ((if x = 0 then 0xa0 else 0x80 : UInt8).toNat ≤ y + 0x80 ∧
        y + 0x80 ≤ (if x = 13 then 0x9f else 0xbf : UInt8).toNat) ↔
      (x = 0 → 0x20 ≤ y) ∧ (x = 13 → y < 0x20) := by
  split <;> split <;> simp only [UInt8.reduceToNat] <;> omega

/-- What may follow the lead of four bytes: overlong forms and too great values are excluded. -/
theorem bounds_four_iff {x y : Nat} (hy : y < 64) :
    ((if x = 0 then 0x90 else 0x80 : UInt8).toNat ≤ y + 0x80 ∧
        y + 0x80 ≤ (if x = 4 then 0x8f else 0xbf : UInt8).toNat) ↔
      (x = 0 → 0x10 ≤ y) ∧ (x = 4 → y < 0x10) := by
  split <;> split <;> simp only [UInt8.reduceToNat] <;> omega

theorem low_three (x : Nat) : 0x80 ≤ (if x = 0 then 0xa0 else 0x80 : UInt8).toNat := by
  split <;> decide

theorem high_three (x : Nat) : (if x = 13 then 0x9f else 0xbf : UInt8).toNat ≤ 0xbf := by
  split <;> decide

theorem low_four (x : Nat) : 0x80 ≤ (if x = 0 then 0x90 else 0x80 : UInt8).toNat := by
  split <;> decide

theorem high_four (x : Nat) : (if x = 4 then 0x8f else 0xbf : UInt8).toNat ≤ 0xbf := by
  split <;> decide

/-- A sequence that the decoder takes is the encoding of the character it makes of it. -/
theorem encodeChar_of_completes {c : Char} {b : UInt8} {p : Partial} {rest : List UInt8}
    (hstart : Partial.start? b = some p) (h : p.Completes c rest) :
    String.utf8EncodeChar c = b :: rest := by
  rcases start?_cases hstart with ⟨x, hx, rfl⟩ | ⟨x, hx, rfl⟩ | ⟨x, hx, rfl⟩
  · rw [start?_two hx] at hstart
    cases hstart
    obtain ⟨y, hy, rfl, -, rfl⟩ := (completes_last_iff le_rfl le_rfl).mp h
    exact encodeChar_two (toNat_ofNat (.inl (by omega))) hx hy
  · rw [start?_three hx] at hstart
    cases hstart
    obtain ⟨y, hy, behind, rfl, hbounds, h⟩ :=
      (completes_more_iff (low_three x) (high_three x)).mp h
    obtain ⟨z, hz, rfl, -, rfl⟩ := (completes_last_iff le_rfl le_rfl).mp h
    rw [bounds_three_iff hy] at hbounds
    have hvalid : ((x * 64 + y) * 64 + z).isValidChar := by
      unfold Nat.isValidChar
      omega
    have hn := toNat_ofNat hvalid
    exact encodeChar_three hn hx hy hz (by rw [hn]; omega)
  · rw [start?_four hx] at hstart
    cases hstart
    obtain ⟨y, hy, behind, rfl, hbounds, h⟩ :=
      (completes_more_iff (low_four x) (high_four x)).mp h
    obtain ⟨z, hz, behind, rfl, -, h⟩ := (completes_more_iff le_rfl le_rfl).mp h
    obtain ⟨w, hw, rfl, -, rfl⟩ := (completes_last_iff le_rfl le_rfl).mp h
    rw [bounds_four_iff hy] at hbounds
    have hvalid : (((x * 64 + y) * 64 + z) * 64 + w).isValidChar := by
      unfold Nat.isValidChar
      omega
    have hn := toNat_ofNat hvalid
    exact encodeChar_four hn hx hy hz hw (by rw [hn]; omega)

/-- An encoding is one ASCII byte, or a sequence that the decoder takes. -/
theorem encodeChar_cases (c : Char) :
    isAscii c ∨
      ∃ b p rest, String.utf8EncodeChar c = b :: rest ∧ Partial.start? b = some p ∧
        p.Completes c rest := by
  have hvalid : c.toNat.isValidChar := c.valid
  unfold Nat.isValidChar at hvalid
  by_cases hone : c.toNat < 0x80
  · exact .inl hone
  right
  have hback : Char.ofNat c.toNat = c := Char.ofNat_toNat c
  by_cases htwo : c.toNat < 0x800
  · obtain ⟨x, y, hx, hy, hc⟩ : ∃ x y, (2 ≤ x ∧ x < 32) ∧ y < 64 ∧ c.toNat = x * 64 + y :=
      ⟨c.toNat / 64, c.toNat % 64, by omega⟩
    refine ⟨_, _, _, encodeChar_two hc hx hy, start?_two hx, ?_⟩
    rw [completes_last_iff le_rfl le_rfl]
    exact ⟨y, hy, rfl, tail_bounds hy, by rw [← hc, hback]⟩
  by_cases hthree : c.toNat < 0x10000
  · obtain ⟨x, y, z, hx, hy, hz, hc⟩ : ∃ x y z, x < 16 ∧ y < 64 ∧ z < 64 ∧
        c.toNat = (x * 64 + y) * 64 + z :=
      ⟨c.toNat / 4096, c.toNat / 64 % 64, c.toNat % 64, by omega⟩
    refine ⟨_, _, _, encodeChar_three hc hx hy hz (by omega), start?_three hx, ?_⟩
    rw [completes_more_iff (low_three x) (high_three x)]
    refine ⟨y, hy, _, rfl, (bounds_three_iff hy).mpr (by omega), ?_⟩
    rw [completes_last_iff le_rfl le_rfl]
    exact ⟨z, hz, rfl, tail_bounds hz, by rw [← hc, hback]⟩
  · obtain ⟨x, y, z, w, hx, hy, hz, hw, hc⟩ : ∃ x y z w, x < 5 ∧ y < 64 ∧ z < 64 ∧ w < 64 ∧
        c.toNat = ((x * 64 + y) * 64 + z) * 64 + w :=
      ⟨c.toNat / 262144, c.toNat / 4096 % 64, c.toNat / 64 % 64, c.toNat % 64, by omega⟩
    refine ⟨_, _, _, encodeChar_four hc hx hy hz hw (by omega), start?_four hx, ?_⟩
    rw [completes_more_iff (low_four x) (high_four x)]
    refine ⟨y, hy, _, rfl, (bounds_four_iff hy).mpr (by omega), ?_⟩
    rw [completes_more_iff le_rfl le_rfl]
    refine ⟨z, hz, _, rfl, tail_bounds hz, ?_⟩
    rw [completes_last_iff le_rfl le_rfl]
    exact ⟨w, hw, rfl, tail_bounds hw, by rw [← hc, hback]⟩

theorem start?_of_ascii {b : UInt8} (hb : b < 0x80) : Partial.start? b = none := by
  cases hstart : Partial.start? b with
  | none => rfl
  | some p =>
      rw [UInt8.lt_iff_toNat_lt] at hb
      rcases start?_cases hstart with ⟨x, hx, rfl⟩ | ⟨x, hx, rfl⟩ | ⟨x, hx, rfl⟩ <;>
        (simp only [UInt8.toNat_ofNat', UInt8.reduceToNat] at hb; omega)

theorem toNat_ofNat_of_ascii {c : Char} (hc : isAscii c) :
    (UInt8.ofNat c.toNat).toNat = c.toNat := by
  unfold isAscii at hc
  rw [UInt8.toNat_ofNat']
  omega

theorem isAscii_ofNat {b : UInt8} (hb : b < 0x80) :
    isAscii (Char.ofNat b.toNat) ∧ (Char.ofNat b.toNat).toNat = b.toNat := by
  have hlow : b.toNat < 0x80 := UInt8.lt_iff_toNat_lt.mp hb
  have hc : (Char.ofNat b.toNat).toNat = b.toNat := toNat_ofNat (.inl (by omega))
  exact ⟨hc.trans_lt hlow, hc⟩

/-- The first byte of an encoding tells what follows it. -/
theorem encodeChar_eq_cons_iff {c : Char} {b : UInt8} {rest : List UInt8} :
    String.utf8EncodeChar c = b :: rest ↔
      (b < 0x80 ∧ rest = [] ∧ c = Char.ofNat b.toNat) ∨
        ∃ p, Partial.start? b = some p ∧ p.Completes c rest := by
  constructor
  · intro hencode
    rcases encodeChar_cases c with hc | ⟨b', p, rest', hmany, hstart, hcompletes⟩
    · rw [encodeChar_of_ascii hc] at hencode
      cases hencode
      refine .inl ⟨?_, rfl, by rw [toNat_ofNat_of_ascii hc, Char.ofNat_toNat]⟩
      rw [UInt8.lt_iff_toNat_lt, toNat_ofNat_of_ascii hc]
      exact hc
    · rw [hmany] at hencode
      cases hencode
      exact .inr ⟨p, hstart, hcompletes⟩
  · rintro (⟨hb, rfl, rfl⟩ | ⟨p, hstart, hcompletes⟩)
    · obtain ⟨hascii, hc⟩ := isAscii_ofNat hb
      rw [encodeChar_of_ascii hascii, hc, UInt8.ofNat_toNat]
    · exact encodeChar_of_completes hstart hcompletes

end DebugDashboard.Text.Utf8
