import DebugDashboard.Proofs.Text.Sequence

/-!
# UTF-8 and what is invalid in it

A byte string reads in one way only as encodings of characters and maximal invalid runs. The decoder
finds this reading byte by byte: the sequence that has begun tells what may follow it to the end of
an encoding.
-/

namespace DebugDashboard.Text.Utf8

/-! ## Sequences that have begun -/

/-- The bytes are the beginning of an encoding, or all of it. -/
def Begins (bytes : List UInt8) : Prop := ∃ c, bytes <+: String.utf8EncodeChar c

/-- The decoder has read the bytes since the beginning of a sequence: what completes the sequence
completes them to an encoding, and it is not complete. -/
structure Opens (run : List UInt8) (p : Partial) : Prop where
  ne_nil : run ≠ []
  encode_iff : ∀ c rest, String.utf8EncodeChar c = run ++ rest ↔ p.Completes c rest
  incomplete : ∀ c, ¬ String.utf8EncodeChar c <+: run
  room : p.low ≤ p.high

theorem encodeChar_ne_nil (c : Char) : String.utf8EncodeChar c ≠ [] := by
  rcases encodeChar_cases c with hc | ⟨b, p, rest, hmany, -⟩
  · rw [encodeChar_of_ascii hc]
    exact List.cons_ne_nil _ _
  · rw [hmany]
    exact List.cons_ne_nil _ _

theorem Partial.completes_cons_last {p : Partial} {c : Char} {b : UInt8} {rest : List UInt8}
    (hmore : p.more = 0) :
    p.Completes c (b :: rest) ↔
      p.accepts b = true ∧ rest = [] ∧ c = Char.ofNat (p.push b) := by
  rw [Completes, hmore]

theorem Partial.completes_cons_more {p : Partial} {c : Char} {b : UInt8} {rest : List UInt8}
    {more : Nat} (hmore : p.more = more + 1) :
    p.Completes c (b :: rest) ↔
      p.accepts b = true ∧ Completes c ⟨more, 0x80, 0xbf, p.push b⟩ rest := by
  rw [Completes, hmore]

theorem Partial.Completes.accepts {p : Partial} {c : Char} {b : UInt8} {rest : List UInt8}
    (h : p.Completes c (b :: rest)) : p.accepts b = true := h.1

/-- A sequence can always be completed. -/
theorem Partial.exists_completes {p : Partial} (hroom : p.low ≤ p.high) :
    ∃ c rest, p.Completes c rest := by
  generalize hmore : p.more = more
  induction more generalizing p with
  | zero =>
      refine ⟨Char.ofNat (p.push p.low), [p.low], (completes_cons_last hmore).mpr ⟨?_, rfl, rfl⟩⟩
      simpa [Partial.accepts] using hroom
  | succ more ih =>
      have htail : (0x80 : UInt8) ≤ 0xbf := by decide
      obtain ⟨c, rest, hrest⟩ := ih (p := ⟨more, 0x80, 0xbf, p.push p.low⟩) htail rfl
      refine ⟨c, p.low :: rest, (completes_cons_more hmore).mpr ⟨?_, hrest⟩⟩
      simpa [Partial.accepts] using hroom

theorem room_of_start? {b : UInt8} {p : Partial} (hstart : Partial.start? b = some p) :
    p.low ≤ p.high := by
  unfold Partial.start? at hstart
  split_ifs at hstart <;> (cases hstart; dsimp only; decide)

theorem opens_start {b : UInt8} {p : Partial} (hstart : Partial.start? b = some p) :
    Opens [b] p := by
  have hencode : ∀ c rest, String.utf8EncodeChar c = b :: rest ↔ p.Completes c rest := by
    intro c rest
    rw [encodeChar_eq_cons_iff]
    constructor
    · rintro (⟨hb, -⟩ | ⟨p', hstart', hcompletes⟩)
      · rw [start?_of_ascii hb] at hstart
        cases hstart
      · rw [hstart] at hstart'
        cases hstart'
        exact hcompletes
    · exact fun hcompletes => .inr ⟨p, hstart, hcompletes⟩
  refine ⟨List.cons_ne_nil _ _, hencode, fun c hprefix => ?_, room_of_start? hstart⟩
  rcases List.prefix_cons_iff.mp hprefix with hnone | ⟨rest, hone, hrest⟩
  · exact absurd hnone (encodeChar_ne_nil c)
  · rw [List.prefix_nil.mp hrest] at hone
    exact (hencode c []).mp hone

namespace Opens

variable {run : List UInt8} {p : Partial} {b : UInt8} (h : Opens run p)

include h

theorem more {more : Nat} (hb : p.accepts b = true) (hmore : p.more = more + 1) :
    Opens (run ++ [b]) ⟨more, 0x80, 0xbf, p.push b⟩ := by
  have hencode : ∀ c rest, String.utf8EncodeChar c = run ++ [b] ++ rest ↔
      Partial.Completes c ⟨more, 0x80, 0xbf, p.push b⟩ rest := by
    intro c rest
    rw [List.append_assoc, List.singleton_append, h.encode_iff, Partial.completes_cons_more hmore]
    simp [hb]
  refine ⟨by simp, hencode, fun c hprefix => ?_, ?_⟩
  · rcases List.prefix_concat_iff.mp hprefix with hall | hless
    · rw [← List.append_nil (run ++ [b])] at hall
      exact (hencode c []).mp hall
    · exact h.incomplete c hless
  · change (0x80 : UInt8) ≤ 0xbf
    decide

theorem last (hb : p.accepts b = true) (hmore : p.more = 0) :
    String.utf8EncodeChar (Char.ofNat (p.push b)) = run ++ [b] := by
  rw [h.encode_iff, Partial.completes_cons_last hmore]
  exact ⟨hb, rfl, rfl⟩

theorem begins : Begins run := by
  obtain ⟨c, rest, hcompletes⟩ := Partial.exists_completes h.room
  exact ⟨c, rest, ((h.encode_iff c rest).mpr hcompletes).symm⟩

/-- The decoder accepts exactly what goes on with an encoding. -/
theorem begins_concat_iff : Begins (run ++ [b]) ↔ p.accepts b = true := by
  constructor
  · rintro ⟨c, rest, hencode⟩
    rw [List.append_assoc, List.singleton_append] at hencode
    exact ((h.encode_iff c (b :: rest)).mp hencode.symm).accepts
  · intro hb
    cases hmore : p.more with
    | zero =>
        refine ⟨Char.ofNat (p.push b), ?_⟩
        exact ⟨[], by rw [List.append_nil, h.last hb hmore]⟩
    | succ more => exact (h.more hb hmore).begins

end Opens

/-! ## Readings -/

/-- A run in which no encoding begins that ends in it or behind it; it is the longest beginning of
an encoding there, or a byte with which none begins. -/
structure Invalid (run rest : List UInt8) : Prop where
  ne_nil : run ≠ []
  no_char : ∀ c, ¬ String.utf8EncodeChar c <+: run ++ rest
  begins : Begins run ∨ run.length = 1
  maximal : ∀ b ∈ rest.head?, ¬ Begins (run ++ [b])

/-- A byte string read as encodings of characters and maximal invalid runs. -/
inductive Reads : List UInt8 → List Piece → Prop
  | nil : Reads [] []
  | char {c : Char} {rest : List UInt8} {ps : List Piece} :
      Reads rest ps → Reads (String.utf8EncodeChar c ++ rest) (some c :: ps)
  | invalid {run rest : List UInt8} {ps : List Piece} :
      Invalid run rest → Reads rest ps → Reads (run ++ rest) (none :: ps)

theorem Opens.invalid_nil {run : List UInt8} {p : Partial} (h : Opens run p) : Invalid run [] where
  ne_nil := h.ne_nil
  no_char := fun c => by
    rw [List.append_nil]
    exact h.incomplete c
  begins := .inl h.begins
  maximal := by simp

theorem Opens.invalid_cons {run rest : List UInt8} {p : Partial} {b : UInt8} (h : Opens run p)
    (hb : p.accepts b = false) : Invalid run (b :: rest) := by
  have hbreak : ¬ Begins (run ++ [b]) := by
    rw [h.begins_concat_iff, hb]
    exact Bool.false_ne_true
  refine ⟨h.ne_nil, fun c hprefix => ?_, .inl h.begins, by simpa using hbreak⟩
  have hhere : run ++ [b] <+: run ++ b :: rest :=
    (List.prefix_append_right_inj run).mpr (List.prefix_append [b] rest)
  rcases List.prefix_or_prefix_of_prefix hprefix hhere with hshort | hlong
  · rcases List.prefix_concat_iff.mp hshort with hall | hless
    · exact hbreak ⟨c, hall ▸ List.prefix_rfl⟩
    · exact h.incomplete c hless
  · exact hbreak ⟨c, hlong⟩

/-- A byte with which no encoding begins. -/
theorem invalid_single {b : UInt8} (rest : List UInt8) (hascii : ¬ b < 0x80)
    (hstart : Partial.start? b = none) : Invalid [b] rest := by
  have hnone : ∀ c behind, String.utf8EncodeChar c ≠ b :: behind := by
    intro c behind hencode
    rcases encodeChar_eq_cons_iff.mp hencode with ⟨hb, -⟩ | ⟨p, hp, -⟩
    · exact hascii hb
    · rw [hstart] at hp
      cases hp
  refine ⟨List.cons_ne_nil _ _, fun c hprefix => ?_, .inr rfl, ?_⟩
  · rcases List.prefix_cons_iff.mp hprefix with hnil | ⟨behind, hencode, -⟩
    · exact encodeChar_ne_nil c hnil
    · exact hnone c behind hencode
  · rintro b' - ⟨c, behind, hencode⟩
    exact hnone c _ hencode.symm

/-! ## The decoder reads -/

theorem piecesFrom_eq_append (done : List Piece) (state : Option Partial) (bytes : List UInt8) :
    piecesFrom done state bytes = done.reverse ++ piecesFrom [] state bytes := by
  induction bytes generalizing done state with
  | nil =>
      unfold piecesFrom
      split <;> simp
  | cons b rest ih =>
      simp only [piecesFrom]
      rw [ih, ih ((feed state b).1.reverseAux [])]
      simp [List.reverseAux_eq]

theorem piecesFrom_cons (state : Option Partial) (b : UInt8) (rest : List UInt8) :
    piecesFrom [] state (b :: rest) =
      (feed state b).1 ++ piecesFrom [] (feed state b).2 rest := by
  simp only [piecesFrom]
  rw [piecesFrom_eq_append]
  simp [List.reverseAux_eq]

/-- The decoder reads what is left, behind the sequence that has begun if there is one. -/
theorem reads_piecesFrom (bytes : List UInt8) :
    Reads bytes (piecesFrom [] none bytes) ∧
      ∀ run p, Opens run p → Reads (run ++ bytes) (piecesFrom [] (some p) bytes) := by
  induction bytes with
  | nil => exact ⟨.nil, fun run p h => .invalid h.invalid_nil .nil⟩
  | cons b rest ih =>
      have hfresh : Reads (b :: rest)
          ((startWith b).1 ++ piecesFrom [] (startWith b).2 rest) := by
        unfold startWith
        by_cases hascii : b < 0x80
        · rw [if_pos hascii]
          have hencode : String.utf8EncodeChar (Char.ofNat b.toNat) = [b] :=
            encodeChar_eq_cons_iff.mpr (.inl ⟨hascii, rfl, rfl⟩)
          have hread := Reads.char (c := Char.ofNat b.toNat) ih.1
          rwa [hencode] at hread
        rw [if_neg hascii]
        cases hstart : Partial.start? b with
        | some p => exact ih.2 [b] p (opens_start hstart)
        | none => exact .invalid (invalid_single rest hascii hstart) ih.1
      refine ⟨by rw [piecesFrom_cons]; exact hfresh, fun run p h => ?_⟩
      rw [piecesFrom_cons]
      cases hb : p.accepts b with
      | false =>
          simp only [feed, hb, Bool.false_eq_true, if_false]
          exact .invalid (h.invalid_cons hb) hfresh
      | true =>
          rw [List.append_cons]
          cases hmore : p.more with
          | zero =>
              simp only [feed, hb, hmore, if_true]
              rw [← h.last hb hmore]
              exact .char ih.1
          | succ more =>
              simp only [feed, hb, hmore, if_true]
              exact ih.2 _ _ (h.more hb hmore)

theorem reads_pieces (bytes : List UInt8) : Reads bytes (pieces bytes) := (reads_piecesFrom bytes).1

/-! ## There is one reading -/

theorem Partial.Completes.unique {p : Partial} {c c' : Char} {bytes more : List UInt8}
    (h : p.Completes c bytes) (h' : p.Completes c' (bytes ++ more)) : c = c' := by
  induction bytes generalizing p with
  | nil => cases h
  | cons b rest ih =>
      cases hmore : p.more with
      | zero =>
          obtain ⟨-, -, hc⟩ := (completes_cons_last hmore).mp h
          obtain ⟨-, -, hc'⟩ := (completes_cons_last hmore).mp h'
          rw [hc, hc']
      | succ more =>
          exact ih ((completes_cons_more hmore).mp h).2 ((completes_cons_more hmore).mp h').2

/-- No encoding is the beginning of another one. -/
theorem eq_of_prefix_encodeChar {c c' : Char}
    (h : String.utf8EncodeChar c <+: String.utf8EncodeChar c') : c = c' := by
  obtain ⟨more, hmore⟩ := h
  cases hencode : String.utf8EncodeChar c with
  | nil => exact absurd hencode (encodeChar_ne_nil c)
  | cons b rest =>
      rw [hencode] at hmore
      rcases encodeChar_eq_cons_iff.mp hencode with ⟨hb, -, hc⟩ | ⟨p, hstart, hcompletes⟩
      · rcases encodeChar_eq_cons_iff.mp hmore.symm with ⟨-, -, hc'⟩ | ⟨p, hstart, -⟩
        · rw [hc, hc']
        · rw [start?_of_ascii hb] at hstart
          cases hstart
      · rcases encodeChar_eq_cons_iff.mp hmore.symm with ⟨hb, -⟩ | ⟨p', hstart', hcompletes'⟩
        · rw [start?_of_ascii hb] at hstart
          cases hstart
        · rw [hstart] at hstart'
          cases hstart'
          exact hcompletes.unique hcompletes'

variable {run run' rest rest' bytes : List UInt8} {ps ps' : List Piece}

/-- Of two invalid runs at the beginning of the same bytes, neither is longer. -/
theorem Invalid.isPrefix (h : Invalid run rest) (h' : Invalid run' rest')
    (heq : run ++ rest = run' ++ rest') : run' <+: run := by
  have hrun : run <+: run' ++ rest' := ⟨rest, heq⟩
  rcases List.prefix_or_prefix_of_prefix hrun (List.prefix_append run' rest') with
    ⟨behind, rfl⟩ | hshort
  · cases behind with
    | nil => simp
    | cons b behind =>
        rw [List.append_assoc, List.append_cancel_left_eq] at heq
        refine absurd ?_ (h.maximal b (by rw [heq]; rfl))
        rcases h'.begins with ⟨c, hlong⟩ | hone
        · rw [List.append_cons] at hlong
          exact ⟨c, (List.prefix_append (run ++ [b]) behind).trans hlong⟩
        · have hpositive := List.length_pos_iff.mpr h.ne_nil
          simp only [List.length_append, List.length_cons] at hone
          omega
  · exact hshort

theorem Invalid.unique (h : Invalid run rest) (h' : Invalid run' rest')
    (heq : run ++ rest = run' ++ rest') : run = run' :=
  ((h'.isPrefix h heq.symm).eq_of_length_le (h.isPrefix h' heq).length_le)

theorem Reads.of_nil (h : Reads [] ps) : ps = [] := by
  generalize hbytes : [] = bytes at h
  cases h with
  | nil => rfl
  | char h => exact absurd (List.append_eq_nil_iff.mp hbytes.symm).1 (encodeChar_ne_nil _)
  | invalid hrun h => exact absurd (List.append_eq_nil_iff.mp hbytes.symm).1 hrun.ne_nil

theorem Reads.of_char {c : Char} (h : Reads (String.utf8EncodeChar c ++ rest) ps) :
    ∃ ps', ps = some c :: ps' ∧ Reads rest ps' := by
  generalize hbytes : String.utf8EncodeChar c ++ rest = bytes at h
  cases h with
  | nil => exact absurd (List.append_eq_nil_iff.mp hbytes).1 (encodeChar_ne_nil c)
  | @char c' rest' ps h =>
      have hc : c = c' := by
        rcases List.prefix_or_prefix_of_prefix ⟨rest, hbytes⟩ (List.prefix_append _ rest') with
          hless | hless
        · exact eq_of_prefix_encodeChar hless
        · exact (eq_of_prefix_encodeChar hless).symm
      subst hc
      rw [List.append_cancel_left_eq] at hbytes
      exact ⟨ps, rfl, hbytes ▸ h⟩
  | invalid hrun h => exact absurd ⟨rest, hbytes⟩ (hrun.no_char c)

theorem Reads.of_invalid (hrun : Invalid run rest) (h : Reads (run ++ rest) ps) :
    ∃ ps', ps = none :: ps' ∧ Reads rest ps' := by
  generalize hbytes : run ++ rest = bytes at h
  cases h with
  | nil => exact absurd (List.append_eq_nil_iff.mp hbytes).1 hrun.ne_nil
  | @char c rest' ps h => exact absurd ⟨rest', hbytes.symm⟩ (hrun.no_char c)
  | @invalid run' rest' ps hrun' h =>
      obtain rfl := hrun.unique hrun' hbytes
      rw [List.append_cancel_left_eq] at hbytes
      exact ⟨ps, rfl, hbytes ▸ h⟩

/-- A byte string has one reading, and the decoder finds it. -/
theorem reads_iff : Reads bytes ps ↔ ps = pieces bytes := by
  constructor
  · intro h
    have hpieces := reads_pieces bytes
    generalize pieces bytes = ps' at hpieces
    induction h generalizing ps' with
    | nil => exact hpieces.of_nil.symm
    | char h ih =>
        obtain ⟨ps', rfl, hrest⟩ := hpieces.of_char
        rw [ih ps' hrest]
    | invalid hrun h ih =>
        obtain ⟨ps', rfl, hrest⟩ := Reads.of_invalid hrun hpieces
        rw [ih ps' hrest]
  · rintro rfl
    exact reads_pieces bytes

/-! ## Texts -/

theorem reads_encode (text : String) : Reads (encode text) (text.toList.map some) := by
  unfold encode
  induction text.toList with
  | nil => exact .nil
  | cons c rest ih => exact .char ih

/-- Bytes without invalid runs are the encoding of what is read. -/
theorem Reads.encode_eq (h : Reads bytes ps) (hvalid : ps.all Option.isSome = true) :
    encode (String.ofList (ps.filterMap id)) = bytes := by
  induction h with
  | nil => rfl
  | @char c rest ps h ih =>
      have hrest := ih hvalid
      simp only [encode, String.toList_ofList] at hrest ⊢
      rw [List.filterMap_cons_some (f := id) rfl, List.flatMap_cons, hrest]
  | invalid hrun h ih => cases hvalid

/-- The decoder takes the encodings of texts, and nothing else. -/
theorem decode?_eq_some_iff {text : String} : decode? bytes = some text ↔ encode text = bytes := by
  constructor
  · intro hdecode
    simp only [decode?] at hdecode
    split at hdecode
    next hvalid =>
      rw [← Option.some.inj hdecode]
      exact (reads_pieces bytes).encode_eq hvalid
    · cases hdecode
  · rintro rfl
    have hpieces := reads_iff.mp (reads_encode text)
    simp [decode?, ← hpieces, List.filterMap_map]

end DebugDashboard.Text.Utf8
