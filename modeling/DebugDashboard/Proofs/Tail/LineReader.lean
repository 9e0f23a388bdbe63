import DebugDashboard.Proofs.Log.Lines

/-!
# Readers at an offset

A reader that has read on from an offset of a file holds some bytes that it has read ahead, and
will read what stands behind them in the file. It hands out the lines of both together. Where these
are the file from the offset on, the reader stands at the offset, and bytes added to the file do not
move it.
-/

namespace DebugDashboard.LineReader

variable {r : LineReader} {inode offset : Nat} {content : List UInt8}

/-- All that the reader will hand out of a file that holds `content`. -/
def ahead (r : LineReader) (content : List UInt8) : List UInt8 :=
  r.buffer ++ content.drop r.position

/-- The reader has read on from an offset of the file, whatever has become of the file since. -/
structure Holds (r : LineReader) (inode offset : Nat) : Prop where
  handle : r.handle = ⟨inode, false⟩
  position : r.position = offset + r.buffer.length

theorem openAt_holds (inode offset : Nat) : (openAt ⟨inode, false⟩ offset).Holds inode offset :=
  ⟨rfl, rfl⟩

theorem ahead_openAt (handle : Handle) (offset : Nat) (content : List UInt8) :
    (openAt handle offset).ahead content = content.drop offset :=
  List.nil_append _

theorem Holds.seek (h : r.Holds inode offset) (other : Nat) : (r.seek other).Holds inode other := by
  rw [LineReader.seek, h.handle]
  exact openAt_holds inode other

theorem Holds.read_eq (h : r.Holds inode offset) {files : FileSystem}
    (hcontent : files.content inode = content) : r.read files = .ok (r.nextLine content) := by
  simp [LineReader.read, h.handle, hcontent]

/-- Blocks that cover a line cover its bytes and leave what comes behind them. -/
theorem drop_take_append {ahead : List UInt8} {length count : Nat} (hcount : length ≤ count) :
    (ahead.take count).drop length ++ ahead.drop (ahead.take count).length = ahead.drop length := by
  have hrest : ahead.drop (ahead.take count).length = ahead.drop count := by
    rw [List.length_take]
    rcases Nat.le_total count ahead.length with hle | hle
    · rw [Nat.min_eq_left hle]
    · rw [Nat.min_eq_right hle, List.drop_length, List.drop_of_length_le hle]
  have hsplit := congrArg (List.drop length) (List.take_append_drop count ahead)
  rw [List.drop_append] at hsplit
  rw [hrest, ← hsplit, List.length_take]
  rcases Nat.le_total count ahead.length with hle | hle
  · rw [Nat.min_eq_left hle, Nat.sub_eq_zero_of_le hcount, List.drop_zero]
  · rw [List.drop_of_length_le hle, List.drop_nil]

theorem length_le_blocks (length : Nat) : length ≤ ((length - 1) / blockSize + 1) * blockSize := by
  have := Nat.lt_div_mul_add (a := length - 1) (b := blockSize) (by decide)
  rw [Nat.add_mul, Nat.one_mul]
  omega

/-- The next line is the first complete line of what is ahead, wherever the blocks end. -/
theorem Holds.nextLine_of_line (h : r.Holds inode offset) {line : List UInt8}
    {more : List (List UInt8)} (hlines : Log.lines (r.ahead content) = line :: more) :
    (r.nextLine content).1 = line ∧
      (r.nextLine content).2.ahead content = (r.ahead content).drop line.length ∧
      (r.nextLine content).2.Holds inode (offset + line.length) := by
  cases hbuffer : splitLine? r.buffer with
  | some split =>
      -- the line feed is in what was read ahead
      obtain ⟨front, buffer⟩ := split
      obtain ⟨hsplit, hfront⟩ := Log.of_splitLine?_eq_some hbuffer
      rw [ahead, Log.lines_append, hfront, List.cons_append] at hlines
      obtain ⟨rfl, -⟩ := List.cons.inj hlines
      have hposition := h.position
      rw [hsplit, List.length_append, ← Nat.add_assoc] at hposition
      simp only [nextLine, hbuffer, true_and]
      refine ⟨?_, h.handle, hposition⟩
      rw [ahead, ahead, hsplit, List.append_assoc, List.drop_left]
  | none =>
      -- what was read ahead is the front of the line, and blocks up to the line feed are read
      have hnone := Log.splitLine?_eq_none_iff.mp hbuffer
      rw [ahead, Log.lines_append_of_notMem hnone] at hlines
      cases hrest : splitLine? (content.drop r.position) with
      | none =>
          rw [Log.lines_eq_nil_iff.mpr (Log.splitLine?_eq_none_iff.mp hrest)] at hlines
          cases hlines
      | some split =>
          obtain ⟨front, rest⟩ := split
          obtain ⟨hsplit, hfront⟩ := Log.of_splitLine?_eq_some hrest
          rw [hfront] at hlines
          obtain ⟨rfl, -⟩ := List.cons.inj hlines
          simp only [nextLine, hbuffer, hrest, true_and]
          refine ⟨?_, h.handle, ?_⟩
          · rw [ahead, ahead, ← List.drop_drop, drop_take_append (length_le_blocks _),
              List.length_append, ← List.drop_drop, List.drop_left]
          · have hposition := h.position
            have hfits := length_le_blocks front.length
            have hlength := congrArg List.length hsplit
            simp only [List.length_append, List.length_take, List.length_drop] at hlength ⊢
            omega

/-- Without a complete line ahead, the reader hands out all that is left. -/
theorem Holds.nextLine_of_no_line (h : r.Holds inode offset)
    (hlines : Log.lines (r.ahead content) = []) :
    (r.nextLine content).1 = r.ahead content ∧ (r.nextLine content).2.buffer = [] ∧
      (r.nextLine content).2.Holds inode (offset + (r.ahead content).length) := by
  have hnone := Log.lines_eq_nil_iff.mp hlines
  rw [ahead, List.mem_append, not_or] at hnone
  simp only [nextLine, Log.splitLine?_eq_none_iff.mpr hnone.1,
    Log.splitLine?_eq_none_iff.mpr hnone.2]
  refine ⟨rfl, trivial, h.handle, ?_⟩
  rw [ahead, List.length_append, h.position, Nat.add_assoc]
  rfl

/-! ## How far a reader has read -/

theorem position_le_nextLine (r : LineReader) (content : List UInt8) :
    r.position ≤ (r.nextLine content).2.position := by
  unfold nextLine
  split
  · exact Nat.le_refl _
  · dsimp only
    split <;> exact Nat.le_add_right _ _

/-- A reader that has read no line ahead reads a block, or to the end of the file. -/
theorem block_le_nextLine (hbuffer : lineFeed ∉ r.buffer) (content : List UInt8) :
    min content.length (r.position + blockSize) ≤ (r.nextLine content).2.position := by
  unfold nextLine
  rw [Log.splitLine?_eq_none_iff.mpr hbuffer]
  dsimp only
  split
  next line rest hline =>
    have hblock : blockSize ≤ ((line.length - 1) / blockSize + 1) * blockSize := by
      rw [Nat.add_mul, Nat.one_mul]
      exact Nat.le_add_left _ _
    simp only [List.length_take, List.length_drop]
    omega
  next =>
    simp only [List.length_drop]
    omega

/-! ## The file from the offset on -/

/-- The reader stands at an offset of the file that holds `content`. -/
structure At (r : LineReader) (inode : Nat) (content : List UInt8) (offset : Nat) : Prop where
  handle : r.handle = ⟨inode, false⟩
  ahead : r.buffer ++ content.drop r.position = content.drop offset
  position_le : r.position ≤ content.length
  offset_le : offset ≤ content.length

theorem At.holds (hat : r.At inode content offset) : r.Holds inode offset where
  handle := hat.handle
  position := by
    have hlength := congrArg List.length hat.ahead
    rw [List.length_append, List.length_drop, List.length_drop] at hlength
    have := hat.position_le
    have := hat.offset_le
    omega

theorem Holds.at (h : r.Holds inode offset) (hahead : r.ahead content = content.drop offset)
    (hoffset : offset ≤ content.length) : r.At inode content offset where
  handle := h.handle
  ahead := hahead
  position_le := by
    have hlength := congrArg List.length hahead
    rw [LineReader.ahead, List.length_append, List.length_drop, List.length_drop] at hlength
    have := h.position
    omega
  offset_le := hoffset

/-- What was read ahead and still stands in the file makes no difference. -/
theorem Holds.ahead_eq (h : r.Holds inode offset) (hbuffer : r.buffer <+: content.drop offset) :
    r.ahead content = content.drop offset := by
  obtain ⟨rest, hrest⟩ := hbuffer
  rw [ahead, h.position, ← List.drop_drop, ← hrest, List.drop_left]

theorem openAt_at (hoffset : offset ≤ content.length) :
    (openAt ⟨inode, false⟩ offset).At inode content offset :=
  (openAt_holds inode offset).at (ahead_openAt _ _ _) hoffset

/-- Bytes that are added to the file do not move the reader. -/
theorem At.append (hat : r.At inode content offset) (more : List UInt8) :
    r.At inode (content ++ more) offset where
  handle := hat.handle
  ahead := by
    rw [List.drop_append_of_le_length hat.position_le, ← List.append_assoc, hat.ahead,
      List.drop_append_of_le_length hat.offset_le]
  position_le := by
    rw [List.length_append]
    exact Nat.le_add_right_of_le hat.position_le
  offset_le := by
    rw [List.length_append]
    exact Nat.le_add_right_of_le hat.offset_le

end DebugDashboard.LineReader
