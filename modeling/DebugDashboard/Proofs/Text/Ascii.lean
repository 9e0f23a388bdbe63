import DebugDashboard.Text.Blank
import DebugDashboard.Text.Decimal
import DebugDashboard.Text.Utf8

/-!
# ASCII text

A text of ASCII characters is one byte for each character and is read back from its bytes. The
digits of a number are such a text, and have no blanks around them.
-/

namespace DebugDashboard.Text

/-- Whether a character is one byte. -/
def isAscii (c : Char) : Prop := c.toNat < 0x80

theorem encodeChar_of_ascii {c : Char} (hc : isAscii c) :
    String.utf8EncodeChar c = [UInt8.ofNat c.toNat] := by
  have hle : c.val.toNat ≤ 0x7f := Nat.le_of_lt_succ hc
  simp only [String.utf8EncodeChar, if_pos hle]
  rfl

theorem feed_ascii {c : Char} (hc : isAscii c) :
    Utf8.feed none (UInt8.ofNat c.toNat) = ([some c], none) := by
  have hbyte : (UInt8.ofNat c.toNat).toNat = c.toNat := by
    have : c.toNat < 0x80 := hc
    rw [UInt8.toNat_ofNat']
    omega
  have hlt : UInt8.ofNat c.toNat < 0x80 := by
    rw [UInt8.lt_iff_toNat_lt, hbyte]
    exact hc
  simp only [Utf8.feed, Utf8.startWith, if_pos hlt, hbyte, Char.ofNat_toNat]

theorem piecesFrom_ascii {cs : List Char} (hcs : ∀ c ∈ cs, isAscii c) (done : List Utf8.Piece) :
    Utf8.piecesFrom done none (cs.flatMap String.utf8EncodeChar) = done.reverse ++ cs.map some := by
  induction cs generalizing done with
  | nil => simp [Utf8.piecesFrom]
  | cons c rest ih =>
      have hc := hcs c List.mem_cons_self
      have hrest := ih fun c hmem => hcs c (List.mem_cons_of_mem _ hmem)
      simp [Utf8.piecesFrom, encodeChar_of_ascii hc, feed_ascii hc, hrest]

/-- An ASCII text is read back from its bytes. -/
theorem decode?_encode_of_ascii {text : String} (htext : ∀ c ∈ text.toList, isAscii c) :
    Utf8.decode? (Utf8.encode text) = some text := by
  have hpieces := piecesFrom_ascii htext []
  simp [Utf8.decode?, Utf8.encode, Utf8.pieces, hpieces, List.filterMap_map]

theorem toNat_of_isDigit {c : Char} (hc : c.isDigit = true) : 0x30 ≤ c.toNat ∧ c.toNat ≤ 0x39 := by
  simp only [Char.isDigit, Bool.and_eq_true, decide_eq_true_eq, UInt32.le_iff_toNat_le] at hc
  exact hc

theorem isAscii_of_isDigit {c : Char} (hc : c.isDigit = true) : isAscii c :=
  Nat.lt_of_le_of_lt (toNat_of_isDigit hc).2 (by decide)

theorem isBlank_of_isDigit {c : Char} (hc : c.isDigit = true) : isBlank c = false := by
  obtain ⟨hlow, hhigh⟩ := toNat_of_isDigit hc
  simp only [isBlank, Bool.or_eq_false_iff, Bool.and_eq_false_iff, decide_eq_false_iff_not,
    beq_eq_false_iff_ne]
  omega

theorem isDigit_of_mem_print {n : Nat} {c : Char} (hc : c ∈ (Decimal.print n).toList) :
    c.isDigit = true := by
  rw [Decimal.print, String.toList_ofList] at hc
  exact Nat.isDigit_of_mem_toDigits (by decide) (by decide) hc

theorem decode?_encode_print (n : Nat) :
    Utf8.decode? (Utf8.encode (Decimal.print n)) = some (Decimal.print n) :=
  decode?_encode_of_ascii fun _ hc => isAscii_of_isDigit (isDigit_of_mem_print hc)

theorem dropWhile_eq_self {drop : Char → Bool} {cs : List Char} (hcs : ∀ c ∈ cs, drop c = false) :
    cs.dropWhile drop = cs := by
  cases cs with
  | nil => rfl
  | cons c rest => simp [hcs c List.mem_cons_self]

/-- There is nothing to trim from the digits of a number. -/
theorem trim_print (n : Nat) : trim (Decimal.print n) = Decimal.print n := by
  have hblank : ∀ c ∈ (Decimal.print n).toList, isBlank c = false :=
    fun c hc => isBlank_of_isDigit (isDigit_of_mem_print hc)
  rw [trim, trimBlank, dropWhile_eq_self hblank, dropWhileEnd,
    dropWhile_eq_self (fun c hc => hblank c (List.mem_reverse.mp hc)), List.reverse_reverse,
    String.ofList_toList]

end DebugDashboard.Text
