import DebugDashboard.Json.Printer

/-!
# Compact JSON

The texts that stand for JSON values in compact form, with a rule for each kind of value. Printing
gives the one text that stands for a value.
-/

namespace DebugDashboard.Json

/-! ## Strings -/

/-- The characters with an escape of two characters, and the second of these. -/
def letters : List (Char × Char) :=
  [('"', '"'), ('\\', '\\'), ('\x08', 'b'), ('\x0c', 'f'), ('\n', 'n'), ('\r', 'r'), ('\t', 't')]

/-- How a character is written in a string: by its letter, by the code of a control character, or as
it is. -/
inductive Escaped (c : Char) : List Char → Prop
  | letter {l : Char} (hletter : (c, l) ∈ letters) : Escaped c ['\\', l]
  | control (hnone : ∀ l, (c, l) ∉ letters) (hcode : c.toNat < 0x20) :
    Escaped c ['\\', 'u', '0', '0', Nat.digitChar (c.toNat / 16), Nat.digitChar (c.toNat % 16)]
  | plain (hnone : ∀ l, (c, l) ∉ letters) (hcode : 0x20 ≤ c.toNat) : Escaped c [c]

/-- How the characters of a text are written, one after the other. -/
inductive Inner : List Char → List Char → Prop
  | nil : Inner [] []
  | cons {c : Char} {cs written more : List Char} (hfirst : Escaped c written)
    (hrest : Inner cs more) : Inner (c :: cs) (written ++ more)

/-- A text is written between quotes. -/
inductive Quotes (s : String) : String → Prop
  | intro {inner : List Char} (h : Inner s.toList inner) :
    Quotes s (String.ofList ('"' :: inner ++ ['"']))

theorem escapeChar_of_letter {c l : Char} (h : (c, l) ∈ letters) : escapeChar c = ['\\', l] := by
  simp only [letters, List.mem_cons, List.not_mem_nil, or_false, Prod.mk.injEq] at h
  rcases h with ⟨rfl, rfl⟩ | ⟨rfl, rfl⟩ | ⟨rfl, rfl⟩ | ⟨rfl, rfl⟩ | ⟨rfl, rfl⟩ | ⟨rfl, rfl⟩ |
    ⟨rfl, rfl⟩ <;> rfl

theorem escapeChar_of_no_letter {c : Char} (h : ∀ l, (c, l) ∉ letters) :
    escapeChar c = if c.toNat < 0x20 then
      ['\\', 'u', '0', '0', Nat.digitChar (c.toNat / 16), Nat.digitChar (c.toNat % 16)]
      else [c] := by
  unfold escapeChar
  split
  case h_8 =>
    split
    next hcode =>
      have hhigh : c.toNat / 16 % 16 = c.toNat / 16 := Nat.mod_eq_of_lt (by omega)
      rw [hexChar, hexChar, hhigh]
    next => rfl
  all_goals simp [letters] at h

theorem escaped_iff {c : Char} {written : List Char} :
    Escaped c written ↔ escapeChar c = written := by
  constructor
  · rintro (hletter | ⟨hnone, hcode⟩ | ⟨hnone, hcode⟩)
    · exact escapeChar_of_letter hletter
    · rw [escapeChar_of_no_letter hnone, if_pos hcode]
    · rw [escapeChar_of_no_letter hnone, if_neg (Nat.not_lt.mpr hcode)]
  · rintro rfl
    by_cases hletter : ∃ l, (c, l) ∈ letters
    · obtain ⟨l, hl⟩ := hletter
      rw [escapeChar_of_letter hl]
      exact .letter hl
    · have hnone : ∀ l, (c, l) ∉ letters := not_exists.mp hletter
      rw [escapeChar_of_no_letter hnone]
      split
      next hcode => exact .control hnone hcode
      next hcode => exact .plain hnone (Nat.not_lt.mp hcode)

theorem inner_iff {cs inner : List Char} : Inner cs inner ↔ cs.flatMap escapeChar = inner := by
  induction cs generalizing inner with
  | nil =>
      constructor
      · rintro ⟨⟩
        rfl
      · rintro rfl
        exact .nil
  | cons c cs ih =>
      rw [List.flatMap_cons]
      constructor
      · rintro (_ | ⟨hfirst, hrest⟩)
        rw [escaped_iff.mp hfirst, ih.mp hrest]
      · rintro rfl
        exact .cons (escaped_iff.mpr rfl) (ih.mpr rfl)

theorem quotes_iff {s text : String} : Quotes s text ↔ printString s = text := by
  constructor
  · rintro ⟨h⟩
    rw [printString, inner_iff.mp h]
  · rintro rfl
    exact .intro (inner_iff.mpr rfl)

/-! ## Doubles -/

/-- The digits behind the point, and the point if there are any. -/
def fraction (rest : List Char) : List Char := if rest = [] then [] else '.' :: rest

/-- Where the point stands among digits `ds` that are followed by a power of ten: behind them and
zeros, between them, or in front of zeros and them. Greater and smaller numbers have one digit in
front of the point, and their power of ten behind. -/
inductive LaidOut (ds : List Char) (exponent : Int) : List Char → Prop
  | whole {n : Nat} (hexponent : exponent = n) (hgreat : ds.length + n ≤ 16) :
    LaidOut ds exponent (ds ++ List.replicate n '0' ++ ['.', '0'])
  | point {front back : List Char} (hdigits : ds = front ++ back) (hfront : front ≠ [])
    (hback : back ≠ []) (hexponent : exponent = -(back.length : Int)) (hgreat : front.length ≤ 16) :
    LaidOut ds exponent (front ++ '.' :: back)
  | small {n : Nat} (hexponent : exponent = -((n + ds.length : Nat) : Int)) (hsmall : n ≤ 4) :
    LaidOut ds exponent ('0' :: '.' :: (List.replicate n '0' ++ ds))
  | great {first : Char} {rest : List Char} {power : Nat} (hdigits : ds = first :: rest)
    (hpower : exponent + rest.length = power) (hgreat : 16 ≤ power) :
    LaidOut ds exponent (first :: fraction rest ++ 'e' :: '+' :: Nat.toDigits 10 power)
  | tiny {first : Char} {rest : List Char} {power : Nat} (hdigits : ds = first :: rest)
    (hpower : exponent + rest.length = -(power : Int)) (hsmall : 6 ≤ power) :
    LaidOut ds exponent (first :: fraction rest ++ 'e' :: '-' :: Nat.toDigits 10 power)

def sign (x : Binary64) : List Char := if x.negative then ['-'] else []

/-- The text of a double: a minus sign if it is negative, and zero or the shortest digits that read
back as it. -/
inductive Spelled (x : Binary64) : List Char → Prop
  | zero (hx : x.significand = 0) : Spelled x (sign x ++ ['0', '.', '0'])
  | digits {text : List Char} (hx : x.significand ≠ 0)
    (htext : LaidOut (Nat.toDigits 10 (x.shortest .even).digits) (x.shortest .even).exponent text) :
    Spelled x (sign x ++ text)

theorem scientific_cons (first : Char) (rest : List Char) (power : Int) :
    Binary64.scientific "+" (first :: rest) power =
      first :: fraction rest ++ 'e' ::
        (if power < 0 then '-' :: Nat.toDigits 10 power.natAbs
          else '+' :: Nat.toDigits 10 power.toNat) := by
  simp [Binary64.scientific, fraction]

variable {ds text : List Char} {exponent : Int}

theorem laidOut_positional (hne : ds ≠ []) (hleast : -5 ≤ exponent + ds.length - 1)
    (hgreatest : exponent + ds.length - 1 ≤ 15) :
    LaidOut ds exponent (Binary64.positional ds exponent) := by
  have hlength := List.length_pos_iff.mpr hne
  unfold Binary64.positional
  split
  next hexponent =>
    obtain ⟨n, rfl⟩ := Int.eq_ofNat_of_zero_le hexponent
    exact .whole rfl (by omega)
  next hexponent =>
    dsimp only
    split
    next hplaces =>
      have hfront : ds.take (ds.length - (-exponent).toNat) ≠ [] := by simp [hne]; omega
      have hback : ds.drop (ds.length - (-exponent).toNat) ≠ [] := by simp; omega
      refine .point (List.take_append_drop _ ds).symm hfront hback ?_ ?_
      · rw [List.length_drop]
        omega
      · rw [List.length_take]
        omega
    next hplaces =>
      exact .small (by omega) (by omega)

theorem laidOut_scientific (hne : ds ≠ [])
    (houtside : ¬ (-5 ≤ exponent + ds.length - 1 ∧ exponent + ds.length - 1 ≤ 15)) :
    LaidOut ds exponent (Binary64.scientific "+" ds (exponent + ds.length - 1)) := by
  obtain ⟨first, rest, rfl⟩ := List.exists_cons_of_ne_nil hne
  rw [List.length_cons] at houtside ⊢
  rw [scientific_cons]
  by_cases hnegative : exponent + (rest.length + 1 : Nat) - 1 < 0
  · rw [if_pos hnegative]
    refine .tiny rfl ?_ ?_ <;> omega
  · rw [if_neg hnegative]
    refine .great rfl ?_ ?_ <;> omega

/-- Digits that are laid out with a point only. -/
theorem LaidOut.positional_eq (h : LaidOut ds exponent text) (hne : ds ≠ [])
    (hleast : -5 ≤ exponent + ds.length - 1) (hgreatest : exponent + ds.length - 1 ≤ 15) :
    Binary64.positional ds exponent = text := by
  cases h with
  | whole hexponent hgreat =>
      subst hexponent
      rw [Binary64.positional, if_pos (by omega)]
      rfl
  | @point front back hdigits hfront hback hexponent hgreat =>
      subst hdigits hexponent
      have hone := List.length_pos_iff.mpr hfront
      have hplaces := List.length_pos_iff.mpr hback
      have hcount : (front ++ back).length - back.length = front.length := by simp
      rw [Binary64.positional, if_neg (by omega)]
      simp only [Int.neg_neg, Int.toNat_natCast, hcount]
      rw [if_pos (by rw [List.length_append]; omega), List.take_left, List.drop_left]
  | @small n hexponent hsmall =>
      subst hexponent
      have hone := List.length_pos_iff.mpr hne
      have hzeros : n + ds.length - ds.length = n := Nat.add_sub_cancel n _
      rw [Binary64.positional, if_neg (by omega)]
      simp only [Int.neg_neg, Int.toNat_natCast, hzeros]
      rw [if_neg (by omega)]
      rfl
  | great hdigits hpower hgreat =>
      rw [hdigits, List.length_cons] at hgreatest
      omega
  | tiny hdigits hpower hsmall =>
      rw [hdigits, List.length_cons] at hleast
      omega

/-- Digits that are laid out with a power of ten. -/
theorem LaidOut.scientific_eq (h : LaidOut ds exponent text) (hne : ds ≠ [])
    (houtside : ¬ (-5 ≤ exponent + ds.length - 1 ∧ exponent + ds.length - 1 ≤ 15)) :
    Binary64.scientific "+" ds (exponent + ds.length - 1) = text := by
  have hone := List.length_pos_iff.mpr hne
  cases h with
  | whole hexponent hgreat => omega
  | point hdigits hfront hback hexponent hgreat =>
      have hplaces := List.length_pos_iff.mpr hfront
      rw [hdigits, List.length_append] at houtside
      omega
  | small hexponent hsmall => omega
  | @great first rest power hdigits hpower hgreat =>
      subst hdigits
      have hwhole : exponent + (rest.length + 1 : Nat) - 1 = power := by omega
      rw [List.length_cons, hwhole, scientific_cons, if_neg (by omega), Int.toNat_natCast]
  | @tiny first rest power hdigits hpower hsmall =>
      subst hdigits
      have hwhole : exponent + (rest.length + 1 : Nat) - 1 = -(power : Int) := by omega
      rw [List.length_cons, hwhole, scientific_cons, if_pos (by omega), Int.natAbs_neg,
        Int.natAbs_natCast]

/-- How a double that is not zero is written, once its digits are found. -/
theorem write_eq {x : Binary64} (hx : x.significand ≠ 0) :
    let short := x.shortest .even
    let ds := Nat.toDigits 10 short.digits
    let power : Int := short.exponent + ds.length - 1
    x.write doubleLayout = String.ofList (sign x ++
      if -5 ≤ power ∧ power ≤ 15 then Binary64.positional ds short.exponent
      else Binary64.scientific "+" ds power) := by
  intro short ds power
  have hzero : ¬ x.isZero = true := by simpa [Binary64.isZero] using hx
  have hpower : (decide (doubleLayout.least ≤ power) && decide (power ≤ doubleLayout.greatest)) =
      true ↔ -5 ≤ power ∧ power ≤ 15 := by
    rw [Bool.and_eq_true, decide_eq_true_eq, decide_eq_true_eq]
    rfl
  have hwrite : x.write doubleLayout = String.ofList (sign x ++
      if decide (doubleLayout.least ≤ power) && decide (power ≤ doubleLayout.greatest) then
        Binary64.positional ds short.exponent
      else Binary64.scientific "+" ds power) := if_neg hzero
  simp only [hwrite, hpower]

theorem spelled_iff {x : Binary64} :
    Spelled x text ↔ x.write doubleLayout = String.ofList text := by
  by_cases hx : x.significand = 0
  · have hwrite : x.write doubleLayout =
        String.ofList (sign x ++ ['0', '.', '0']) := by
      simp [Binary64.write, Binary64.isZero, sign, hx]
    rw [hwrite, String.ofList_inj]
    constructor
    · rintro (- | ⟨hother, -⟩)
      · rfl
      · exact absurd hx hother
    · rintro rfl
      exact .zero hx
  have hdigits : Nat.toDigits 10 (x.shortest .even).digits ≠ [] := Nat.toDigits_ne_nil
  rw [write_eq hx, String.ofList_inj]
  constructor
  · rintro (hother | ⟨-, htext⟩)
    · exact absurd hother hx
    · split
      next hpower => rw [htext.positional_eq hdigits hpower.1 hpower.2]
      next houtside => rw [htext.scientific_eq hdigits houtside]
  · rintro rfl
    refine .digits hx ?_
    split
    next hpower => exact laidOut_positional hdigits hpower.1 hpower.2
    next houtside => exact laidOut_scientific hdigits houtside

/-! ## Values -/

mutual

/-- The text of a value. An integer is written in decimal digits, with a minus sign below zero. -/
inductive Compact : Json → String → Prop
  | null : Compact .null "null"
  | true : Compact (.bool true) "true"
  | false : Compact (.bool false) "false"
  | natural (n : Nat) : Compact (.number (.integer n)) (Nat.repr n)
  | negative (n : Nat) : Compact (.number (.integer (-(n + 1 : Nat)))) ("-" ++ Nat.repr (n + 1))
  | double {x : Binary64} {text : List Char} (h : Spelled x text) :
    Compact (.number (.double x)) (String.ofList text)
  | string {s text : String} (h : Quotes s text) : Compact (.string s) text
  | array {items : List Json} {texts : List String} (h : CompactItems items texts) :
    Compact (.array items) ("[" ++ ",".intercalate texts ++ "]")
  | object {fields : List (String × Json)} {texts : List String} (h : CompactFields fields texts) :
    Compact (.object fields) ("\x7b" ++ ",".intercalate texts ++ "\x7d")

/-- The texts of the items of an array, in their order. -/
inductive CompactItems : List Json → List String → Prop
  | nil : CompactItems [] []
  | cons {value : Json} {rest : List Json} {text : String} {texts : List String}
    (hfirst : Compact value text) (hrest : CompactItems rest texts) :
    CompactItems (value :: rest) (text :: texts)

/-- The texts of the fields of an object, in their order: the key, a colon and the value. -/
inductive CompactFields : List (String × Json) → List String → Prop
  | nil : CompactFields [] []
  | cons {key : String} {value : Json} {rest : List (String × Json)} {name text : String}
    {texts : List String} (hkey : Quotes key name) (hvalue : Compact value text)
    (hrest : CompactFields rest texts) :
    CompactFields ((key, value) :: rest) ((name ++ ":" ++ text) :: texts)

end

theorem Number.print_natCast (n : Nat) : (Number.integer n).print = Nat.repr n := rfl

theorem Number.print_neg (n : Nat) :
    (Number.integer (-(n + 1 : Nat))).print = "-" ++ Nat.repr (n + 1) := by
  have hneg : -((n + 1 : Nat) : Int) < 0 := by omega
  simp only [Number.print, if_pos hneg, Int.natAbs_neg, Int.natAbs_natCast]

theorem compact_double (x : Binary64) : Compact (.number (.double x)) (x.write doubleLayout) := by
  obtain ⟨text, htext⟩ : ∃ text, x.write doubleLayout = String.ofList text :=
    ⟨_, String.ofList_toList.symm⟩
  rw [htext]
  exact .double (spelled_iff.mpr htext)

mutual

theorem compact_print : ∀ value : Json, Compact value value.print
  | .null => .null
  | .bool true => .true
  | .bool false => .false
  | .number (.integer (.ofNat n)) => by
      rw [print]
      exact Number.print_natCast n ▸ .natural n
  | .number (.integer (.negSucc n)) => by
      rw [print]
      exact Number.print_neg n ▸ .negative n
  | .number (.double x) => compact_double x
  | .string s => .string (quotes_iff.mpr rfl)
  | .array items => .array (compactItems_print items)
  | .object fields => .object (compactFields_print fields)

theorem compactItems_print : ∀ items : List Json, CompactItems items (printItems items)
  | [] => .nil
  | value :: rest => .cons (compact_print value) (compactItems_print rest)

theorem compactFields_print :
    ∀ fields : List (String × Json), CompactFields fields (printFields fields)
  | [] => .nil
  | (_, value) :: rest =>
    .cons (quotes_iff.mpr rfl) (compact_print value) (compactFields_print rest)

end

mutual

theorem Compact.print_eq {value : Json} {text : String} : Compact value text → value.print = text
  | .null => rfl
  | .true => rfl
  | .false => rfl
  | .natural n => Number.print_natCast n
  | .negative n => Number.print_neg n
  | .double h => spelled_iff.mp h
  | .string h => quotes_iff.mp h
  | .array h => by rw [print, h.printItems_eq]
  | .object h => by rw [print, h.printFields_eq]

theorem CompactItems.printItems_eq {items : List Json} {texts : List String} :
    CompactItems items texts → printItems items = texts
  | .nil => rfl
  | .cons hfirst hrest => by rw [printItems, hfirst.print_eq, hrest.printItems_eq]

theorem CompactFields.printFields_eq {fields : List (String × Json)} {texts : List String} :
    CompactFields fields texts → printFields fields = texts
  | .nil => rfl
  | .cons hkey hvalue hrest => by
      rw [printFields, quotes_iff.mp hkey, hvalue.print_eq, hrest.printFields_eq]

end

/-- What is printed for a value is its text, and its only one. -/
theorem compact_iff {value : Json} {text : String} : Compact value text ↔ value.print = text :=
  ⟨Compact.print_eq, fun h => h ▸ compact_print value⟩

end DebugDashboard.Json
