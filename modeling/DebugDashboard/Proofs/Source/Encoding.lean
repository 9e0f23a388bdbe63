import Mathlib.Data.List.Forall2
import DebugDashboard.Proofs.Text.Utf8
import DebugDashboard.Source.Encoding

/-!
# What decoding a source file keeps

The three readings are tried in order. Which one is taken tells what the bytes are, and unless some
of them were replaced the text tells the bytes: it is encoded back to them, or mapped back through
the table of Windows-1252.
-/

namespace DebugDashboard.Source

/-! ## Windows-1252 -/

/-- The bytes that stand for nothing. -/
def windows1252Undefined : List UInt8 := [0x81, 0x8d, 0x8f, 0x90, 0x9d]

/-- The byte of a character: the one in whose place the table has it, or its code point. -/
def windows1252Byte? (c : Char) : Option UInt8 :=
  if c.toNat < 0x80 ∨ 0xa0 ≤ c.toNat ∧ c.toNat ≤ 0xff then some (UInt8.ofNat c.toNat)
  else (windows1252High.findIdx? (· = some c)).map fun i => UInt8.ofNat (0x80 + i)

theorem forall_byte {P : UInt8 → Prop} (h : ∀ n < 256, P (UInt8.ofNat n)) (b : UInt8) : P b := by
  have hb := h b.toNat b.toNat_lt
  rwa [UInt8.ofNat_toNat] at hb

theorem windows1252Char?_eq_none_iff {b : UInt8} :
    windows1252Char? b = none ↔ b ∈ windows1252Undefined := by
  have hall : ∀ b, windows1252Char? b = none ↔ b ∈ windows1252Undefined :=
    forall_byte (by decide +kernel)
  exact hall b

/-- The table has no character twice, and none that is a code point outside of it. -/
theorem windows1252Byte?_of_char {b : UInt8} {c : Char} (h : windows1252Char? b = some c) :
    windows1252Byte? c = some b := by
  have hall : ∀ b, (windows1252Char? b).all (fun c => windows1252Byte? c = some b) = true :=
    forall_byte (by decide +kernel)
  simpa [h] using hall b

theorem windows1252Char?_of_byte {b : UInt8} {c : Char} (h : windows1252Byte? c = some b) :
    windows1252Char? b = some c := by
  unfold windows1252Byte? at h
  split at h
  next hplain =>
    cases h
    have hc : (UInt8.ofNat c.toNat).toNat = c.toNat := by
      rw [UInt8.toNat_ofNat']
      omega
    have hrange : ¬ (0x80 ≤ UInt8.ofNat c.toNat ∧ UInt8.ofNat c.toNat ≤ 0x9f) := by
      simp only [UInt8.le_iff_toNat_le, hc, UInt8.reduceToNat]
      omega
    rw [windows1252Char?, if_neg hrange, hc, Char.ofNat_toNat]
  next =>
    obtain ⟨i, hi, rfl⟩ := Option.map_eq_some_iff.mp h
    obtain ⟨hlt, hfound, -⟩ := List.findIdx?_eq_some_iff_getElem.mp hi
    have hlength : windows1252High.length = 32 := rfl
    have hb : (UInt8.ofNat (0x80 + i)).toNat = 0x80 + i := by
      rw [UInt8.toNat_ofNat']
      omega
    have hrange : 0x80 ≤ UInt8.ofNat (0x80 + i) ∧ UInt8.ofNat (0x80 + i) ≤ 0x9f := by
      simp only [UInt8.le_iff_toNat_le, hb, UInt8.reduceToNat]
      omega
    rw [windows1252Char?, if_pos hrange, hb, Nat.add_sub_cancel_left, List.getElem?_eq_getElem hlt,
      of_decide_eq_true hfound]
    rfl

/-- The table is read in both directions. -/
theorem windows1252Byte?_eq_some_iff {b : UInt8} {c : Char} :
    windows1252Byte? c = some b ↔ windows1252Char? b = some c :=
  ⟨windows1252Char?_of_byte, windows1252Byte?_of_char⟩

section MapM

variable {α β : Type} {f : α → Option β}

theorem mapM_eq_some_iff {xs : List α} {ys : List β} :
    xs.mapM f = some ys ↔ List.Forall₂ (fun x y => f x = some y) xs ys := by
  induction xs generalizing ys with
  | nil =>
      rw [List.mapM_nil, List.forall₂_nil_left_iff]
      exact ⟨fun h => (Option.some.inj h).symm, fun h => h ▸ rfl⟩
  | cons x rest ih =>
      simp only [List.mapM_cons, bind, Option.bind_eq_some_iff, ih, List.forall₂_cons_left_iff]
      constructor
      · rintro ⟨y, hy, more, hmore, h⟩
        exact ⟨y, more, hy, hmore, (Option.some.inj h).symm⟩
      · rintro ⟨y, more, hy, hmore, rfl⟩
        exact ⟨y, hy, more, hmore, rfl⟩

theorem mapM_eq_none_iff {xs : List α} : xs.mapM f = none ↔ ∃ x ∈ xs, f x = none := by
  induction xs with
  | nil => simp
  | cons x rest ih =>
      rw [List.mapM_cons, List.exists_mem_cons_iff, ← ih]
      cases f x with
      | none => simp [bind]
      | some y => cases rest.mapM f <;> simp [bind]

end MapM

/-- A text in Windows-1252 has a character for each byte, and is mapped back to the bytes. -/
theorem decodeWindows1252?_eq_some_iff {bytes : List UInt8} {text : String} :
    decodeWindows1252? bytes = some text ↔
      text.toList.mapM windows1252Byte? = some bytes := by
  have hflip : text.toList.mapM windows1252Byte? = some bytes ↔
      bytes.mapM windows1252Char? = some text.toList := by
    simp only [mapM_eq_some_iff, windows1252Byte?_eq_some_iff]
    exact ⟨fun h => List.Forall₂.flip h, fun h => List.Forall₂.flip h⟩
  rw [hflip, decodeWindows1252?, Option.map_eq_some_iff]
  constructor
  · rintro ⟨cs, hcs, rfl⟩
    rw [String.toList_ofList, hcs]
  · intro hcs
    exact ⟨text.toList, hcs, String.ofList_toList⟩

theorem decodeWindows1252?_eq_none_iff {bytes : List UInt8} :
    decodeWindows1252? bytes = none ↔ ∃ b ∈ bytes, b ∈ windows1252Undefined := by
  simp only [decodeWindows1252?, Option.map_eq_none_iff, mapM_eq_none_iff,
    windows1252Char?_eq_none_iff]

/-! ## The mark -/

/-- The byte order mark. -/
def mark : List UInt8 := [0xef, 0xbb, 0xbf]

theorem dropMark_mark_append (rest : List UInt8) : dropMark (mark ++ rest) = rest := rfl

theorem dropMark_eq_self {bytes : List UInt8} (h : ¬ mark <+: bytes) : dropMark bytes = bytes := by
  unfold dropMark
  split
  next rest => exact absurd (List.prefix_append mark rest) h
  · rfl

/-- Bytes are told by what is left of them, if it is known whether they had a mark. -/
theorem eq_of_dropMark_eq {bytes other : List UInt8} (h : dropMark other = dropMark bytes)
    (hmark : mark <+: other ↔ mark <+: bytes) : other = bytes := by
  by_cases hbytes : mark <+: bytes
  · obtain ⟨rest, rfl⟩ := hbytes
    obtain ⟨rest', rfl⟩ := hmark.mpr (List.prefix_append mark rest)
    rw [dropMark_mark_append, dropMark_mark_append] at h
    rw [h]
  · rwa [dropMark_eq_self hbytes, dropMark_eq_self (mt hmark.mp hbytes)] at h

/-! ## The readings in order -/

/-- The bytes are UTF-8: the encoding of a text. -/
def IsUtf8 (bytes : List UInt8) : Prop := ∃ text, Text.Utf8.encode text = bytes

theorem decode?_eq_none_iff {bytes : List UInt8} :
    Text.Utf8.decode? bytes = none ↔ ¬ IsUtf8 bytes := by
  simp only [IsUtf8, ← Text.Utf8.decode?_eq_some_iff, Option.eq_none_iff_forall_ne_some, ne_eq,
    not_exists]

/-- What a file is read as, and what its text then is. -/
theorem decode_cases (bytes : List UInt8) :
    let kept := dropMark bytes
    (∃ text, decode bytes = (text, .utf8) ∧ IsUtf8 kept ∧ Text.Utf8.encode text = kept) ∨
      (∃ text, decode bytes = (text, .windows1252) ∧ ¬ IsUtf8 kept ∧
        (∀ b ∈ kept, b ∉ windows1252Undefined) ∧
        text.toList.mapM windows1252Byte? = some kept) ∨
      decode bytes = (Text.Utf8.decodeLossy kept, .lossy) ∧ ¬ IsUtf8 kept ∧
        ∃ b ∈ kept, b ∈ windows1252Undefined := by
  intro kept
  cases hutf8 : Text.Utf8.decode? kept with
  | some text =>
      have hencode := Text.Utf8.decode?_eq_some_iff.mp hutf8
      exact .inl ⟨text, by simp only [decode, kept, hutf8], ⟨text, hencode⟩, hencode⟩
  | none =>
      have hnot := decode?_eq_none_iff.mp hutf8
      cases htable : decodeWindows1252? kept with
      | some text =>
          refine .inr (.inl ⟨text, by simp only [decode, kept, hutf8, htable], hnot, ?_,
            decodeWindows1252?_eq_some_iff.mp htable⟩)
          intro b hb hundefined
          rw [decodeWindows1252?_eq_none_iff.mpr ⟨b, hb, hundefined⟩] at htable
          cases htable
      | none =>
          exact .inr (.inr ⟨by simp only [decode, kept, hutf8, htable], hnot,
            decodeWindows1252?_eq_none_iff.mp htable⟩)

section Encodings

variable {bytes : List UInt8}

theorem encoding_eq_utf8_iff : (decode bytes).2 = .utf8 ↔ IsUtf8 (dropMark bytes) := by
  rcases decode_cases bytes with ⟨text, hdecode, hutf8, -⟩ | ⟨text, hdecode, hutf8, -⟩ |
    ⟨hdecode, hutf8, -⟩
  · simp [hdecode, hutf8]
  · simp [hdecode, hutf8]
  · simp [hdecode, hutf8]

theorem encoding_eq_windows1252_iff : (decode bytes).2 = .windows1252 ↔
    ¬ IsUtf8 (dropMark bytes) ∧ ∀ b ∈ dropMark bytes, b ∉ windows1252Undefined := by
  rcases decode_cases bytes with ⟨text, hdecode, hutf8, -⟩ | ⟨text, hdecode, hutf8, hdefined, -⟩ |
    ⟨hdecode, hutf8, b, hb, hundefined⟩
  · simp [hdecode, hutf8]
  · simpa [hdecode, hutf8] using hdefined
  · rw [hdecode]
    exact ⟨fun h => (by cases h), fun h => absurd hundefined (h.2 b hb)⟩

theorem encoding_eq_lossy_iff : (decode bytes).2 = .lossy ↔
    ¬ IsUtf8 (dropMark bytes) ∧ ∃ b ∈ dropMark bytes, b ∈ windows1252Undefined := by
  rcases decode_cases bytes with ⟨text, hdecode, hutf8, -⟩ | ⟨text, hdecode, hutf8, hdefined, -⟩ |
    ⟨hdecode, hutf8, hundefined⟩
  · simp [hdecode, hutf8]
  · rw [hdecode]
    refine ⟨fun h => (by cases h), ?_⟩
    rintro ⟨-, b, hb, hundefined⟩
    exact absurd hundefined (hdefined b hb)
  · rw [hdecode]
    exact ⟨fun _ => ⟨hutf8, hundefined⟩, fun _ => rfl⟩

/-- The bytes that a text stands for, unless some were replaced. -/
def recover? : String × Encoding → Option (List UInt8)
  | (text, .utf8) => some (Text.Utf8.encode text)
  | (text, .windows1252) => text.toList.mapM windows1252Byte?
  | (_, .lossy) => none

theorem recover?_decode (bytes : List UInt8) (h : (decode bytes).2 ≠ .lossy) :
    recover? (decode bytes) = some (dropMark bytes) := by
  rcases decode_cases bytes with ⟨text, hdecode, -, hkept⟩ | ⟨text, hdecode, -, -, hkept⟩ |
    ⟨hdecode, -⟩
  · rw [hdecode, recover?, hkept]
  · rw [hdecode, recover?, hkept]
  · rw [hdecode] at h
    exact absurd rfl h

theorem text_of_utf8 (h : (decode bytes).2 = .utf8) :
    Text.Utf8.encode (decode bytes).1 = dropMark bytes := by
  have hrecover := recover?_decode bytes (by simp [h])
  rw [show decode bytes = ((decode bytes).1, .utf8) from Prod.ext rfl h] at hrecover
  exact Option.some.inj hrecover

theorem text_of_windows1252 (h : (decode bytes).2 = .windows1252) :
    (decode bytes).1.length = (dropMark bytes).length ∧
      (decode bytes).1.toList.mapM windows1252Byte? = some (dropMark bytes) := by
  have hrecover := recover?_decode bytes (by simp [h])
  rw [show decode bytes = ((decode bytes).1, .windows1252) from Prod.ext rfl h] at hrecover
  have hlength := (mapM_eq_some_iff.mp hrecover).length_eq
  rw [String.length_toList] at hlength
  exact ⟨hlength, hrecover⟩

/-- The one reading of the bytes is the text, with U+FFFD for each maximal invalid run. -/
theorem text_of_lossy (h : (decode bytes).2 = .lossy) :
    ∃ ps, (∀ ps', Text.Utf8.Reads (dropMark bytes) ps' ↔ ps' = ps) ∧
      (decode bytes).1 = String.ofList (ps.map (·.getD '\uFFFD')) := by
  rcases decode_cases bytes with ⟨text, hdecode, -⟩ | ⟨text, hdecode, -⟩ | ⟨hdecode, -⟩
  · rw [hdecode] at h
    cases h
  · rw [hdecode] at h
    cases h
  · rw [hdecode]
    exact ⟨Text.Utf8.pieces (dropMark bytes), fun _ => Text.Utf8.reads_iff, rfl⟩

end Encodings

/-- Bytes behind a mark, if there is one, are read as UTF-8 exactly if they are UTF-8, and else as
Windows-1252 exactly if each of them stands for a character there. Either way they are got back from
the text, so two files with the same text, read the same way, are the same file, a mark aside.
What is neither keeps its encoded characters, and each maximal invalid run becomes U+FFFD. -/
theorem decode_keeps (bytes : List UInt8) :
    let kept := dropMark bytes
    let text := (decode bytes).1
    let encoding := (decode bytes).2
    (mark <+: bytes → bytes = mark ++ kept) ∧ (¬ mark <+: bytes → bytes = kept) ∧
      (encoding = .utf8 ↔ IsUtf8 kept) ∧
      (encoding = .utf8 → Text.Utf8.encode text = kept) ∧
      (encoding = .windows1252 ↔ ¬ IsUtf8 kept ∧ ∀ b ∈ kept, b ∉ windows1252Undefined) ∧
      (encoding = .windows1252 → text.length = kept.length ∧
        text.toList.mapM windows1252Byte? = some kept) ∧
      (encoding = .lossy ↔ ¬ IsUtf8 kept ∧ ∃ b ∈ kept, b ∈ windows1252Undefined) ∧
      (encoding = .lossy → ∃ ps, (∀ ps', Text.Utf8.Reads kept ps' ↔ ps' = ps) ∧
        text = String.ofList (ps.map (·.getD '\uFFFD'))) ∧
      ∀ other, decode other = decode bytes → encoding ≠ .lossy →
        (mark <+: other ↔ mark <+: bytes) → other = bytes := by
  intro kept text encoding
  refine ⟨?_, fun hnone => (dropMark_eq_self hnone).symm, encoding_eq_utf8_iff, text_of_utf8,
    encoding_eq_windows1252_iff, text_of_windows1252, encoding_eq_lossy_iff, text_of_lossy, ?_⟩
  · rintro ⟨rest, rfl⟩
    rfl
  · intro other hsame hencoding hmarks
    have hrecover := recover?_decode _ hencoding
    rw [← hsame, recover?_decode _ (hsame ▸ hencoding)] at hrecover
    exact eq_of_dropMark_eq (Option.some.inj hrecover) hmarks

/-- What was replaced is not got back. -/
example : decode [0x81] = decode [0x8d] := by decide

end DebugDashboard.Source
