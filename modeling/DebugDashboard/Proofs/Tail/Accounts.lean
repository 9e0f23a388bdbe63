import DebugDashboard.Proofs.Tail.Outcome
import DebugDashboard.Proofs.Tail.Poll
import DebugDashboard.Tail.Follower

/-!
# Accounts of lines

The lines that a poll hands on are complete. Each of them is counted as what it is, and for each
that is dispatched its handler is called once, in the order of the lines. Nothing else that a poll
or a start does is counted as a line, and no handler is called for it.
-/

namespace DebugDashboard

variable {σ : Type}

/-! ## Accounts -/

namespace Handlers

/-- A call of a handler: the record, and the files at that moment. -/
structure Call where
  files : FileSystem
  record : Record

/-- What a call leaves. -/
def call (hs : Handlers σ) (observer : σ) (c : Call) : σ :=
  match hs c.record.kind with
  | some h => (h c.files c.record observer).observer
  | .none => observer

/-- Between two moments, each of the lines was counted as what it is, and for the dispatched ones
the handlers were called, once for each record and in their order. -/
structure Accounts (hs : Handlers σ) (lines : List (List UInt8)) (before after : Surroundings σ) :
    Prop where
  dispatched : after.stats.dispatched =
    before.stats.dispatched + lines.countP (hs.outcome · = .dispatched)
  malformed : after.stats.malformed =
    before.stats.malformed + lines.countP (hs.outcome · = .malformed)
  unhandled : after.stats.unhandled =
    before.stats.unhandled + lines.countP (hs.outcome · = .unhandled)
  called : ∃ calls : List Call,
    (lines.filter (hs.outcome · = .dispatched)).map LineClass.of =
      calls.map (fun c => .record c.record) ∧
    after.observer = calls.foldl hs.call before.observer

namespace Accounts

variable {hs : Handlers σ} {lines more : List (List UInt8)} {s t u : Surroundings σ}

theorem refl : hs.Accounts [] s s := ⟨rfl, rfl, rfl, [], rfl, rfl⟩

theorem trans (h : hs.Accounts lines s t) (h' : hs.Accounts more t u) :
    hs.Accounts (lines ++ more) s u where
  dispatched := by rw [h'.dispatched, h.dispatched, List.countP_append, Nat.add_assoc]
  malformed := by rw [h'.malformed, h.malformed, List.countP_append, Nat.add_assoc]
  unhandled := by rw [h'.unhandled, h.unhandled, List.countP_append, Nat.add_assoc]
  called := by
    obtain ⟨calls, hcalls, hobserver⟩ := h.called
    obtain ⟨calls', hcalls', hobserver'⟩ := h'.called
    refine ⟨calls ++ calls', ?_, ?_⟩
    · rw [List.filter_append, List.map_append, hcalls, hcalls', List.map_append]
    · rw [hobserver', hobserver, List.foldl_append]

theorem nil_trans (h : hs.Accounts [] s t) (h' : hs.Accounts lines t u) : hs.Accounts lines s u :=
  h.trans h'

theorem trans_nil (h : hs.Accounts lines s t) (h' : hs.Accounts [] t u) :
    hs.Accounts lines s u := by
  simpa using h.trans h'

/-- Together, the counters grow by the number of lines that are not blank. -/
theorem total (h : hs.Accounts lines s t) :
    t.stats.dispatched + t.stats.malformed + t.stats.unhandled =
      s.stats.dispatched + s.stats.malformed + s.stats.unhandled +
        lines.countP (hs.outcome · ≠ .blank) := by
  have hlines : lines.countP (hs.outcome · ≠ .blank) =
      lines.countP (hs.outcome · = .dispatched) + lines.countP (hs.outcome · = .malformed) +
        lines.countP (hs.outcome · = .unhandled) := by
    clear h
    induction lines with
    | nil => rfl
    | cons line rest ih =>
        simp only [List.countP_cons, ih]
        cases hs.outcome line with
        | blank => simp
        | dispatched => simp; omega
        | malformed => simp; omega
        | unhandled => simp; omega
  rw [h.dispatched, h.malformed, h.unhandled, hlines]
  omega

end Accounts

end Handlers

/-! ## Lines, polls and starts -/

/-- A line is counted as what it is, and its handler is called once. -/
theorem Surroundings.dispatch_accounts (hs : Handlers σ) (s : Surroundings σ) (line : List UInt8) :
    hs.Accounts [line] s (s.dispatch hs line) where
  dispatched := by
    rw [dispatch_stats, List.countP_singleton]
    cases hs.outcome line <;> rfl
  malformed := by
    rw [dispatch_stats, List.countP_singleton]
    cases hs.outcome line <;> rfl
  unhandled := by
    rw [dispatch_stats, List.countP_singleton]
    cases hs.outcome line <;> rfl
  called := by
    rw [List.filter_singleton]
    unfold dispatch Handlers.outcome
    cases hclass : LineClass.of line with
    | record r =>
        cases hh : hs r.kind with
        | none => exact ⟨[], by simp [hh], by simp [hh, count]⟩
        | some h => exact ⟨[⟨s.files, r⟩], by simp [hh, hclass], by simp [hh, count, Handlers.call]⟩
    | _ => exact ⟨[], rfl, rfl⟩

namespace Progress

variable (hs : Handlers σ) (cursor : Path) (p : Progress σ)

theorem performLine_accounts (line : List UInt8) :
    hs.Accounts [line] p.surroundings (p.performLine hs cursor line).surroundings :=
  -- the offset and its save touch none of these counters
  (p.surroundings.dispatch_accounts hs line).trans_nil ⟨rfl, rfl, rfl, [], rfl, rfl⟩

theorem foldl_performLine_accounts (lines : List (List UInt8)) :
    hs.Accounts lines p.surroundings (lines.foldl (performLine hs cursor) p).surroundings := by
  induction lines generalizing p with
  | nil => exact .refl
  | cons line rest ih => exact (p.performLine_accounts hs cursor line).trans (ih _)

end Progress

namespace Poller

variable (hs : Handlers σ) (running : Bool) (p : Poller) (s : Surroundings σ)

theorem notice_accounts (info : Metadata) : hs.Accounts [] s (p.notice info s).2 := by
  rw [notice_eq]
  split
  · exact ⟨rfl, rfl, rfl, [], rfl, rfl⟩
  · exact .refl

theorem noticeMissing_accounts : hs.Accounts [] s (p.noticeMissing s).2 := by
  unfold noticeMissing
  split
  · exact ⟨rfl, rfl, rfl, [], rfl, rfl⟩
  · exact .refl

theorem poll_accounts : hs.Accounts (p.handed hs running s) s (p.poll hs running s).2.2 := by
  cases hinfo : s.files.metadata p.path with
  | error e =>
      rw [handed, hinfo, poll, hinfo]
      cases e with
      | notFound => exact p.noticeMissing_accounts hs s
      | _ => exact .refl
  | ok info =>
      rw [(poll_eq_foldl hs running p s hinfo).2]
      exact (p.notice_accounts hs s info).nil_trans (Progress.foldl_performLine_accounts hs
        p.cursorPath ⟨(p.notice info s).1.offset, (p.notice info s).2⟩ (p.handed hs running s))

end Poller

namespace Follower

variable (f : Follower σ) (s : Surroundings σ)

theorem start_accounts (hs : Handlers σ) : hs.Accounts [] s (f.start s).2.2 := by
  unfold start
  split
  · exact ⟨rfl, rfl, rfl, [], rfl, rfl⟩
  · dsimp only
    split <;> exact ⟨rfl, rfl, rfl, [], rfl, rfl⟩

theorem start_handlers : (f.start s).2.1.handlers = f.handlers := by
  unfold start
  split
  · rfl
  · dsimp only
    split <;> rfl

end Follower

/-! ## Complete lines -/

/-- A line that ends with its only line feed. -/
def Log.Complete (line : List UInt8) : Prop :=
  ∃ front, line = front ++ [LineReader.lineFeed] ∧ LineReader.lineFeed ∉ front

/-- What a reader hands out is complete, unless its end has not been written yet. -/
theorem LineReader.nextLine_complete (r : LineReader) (content : List UInt8)
    (hlast : (r.nextLine content).1.getLast? = some lineFeed) :
    Log.Complete (r.nextLine content).1 := by
  -- a line taken from the front of some bytes is the first of their lines
  have hfirst : ∀ {bytes line rest : List UInt8}, splitLine? bytes = some (line, rest) →
      Log.Complete line := by
    intro bytes line rest hsplit
    obtain ⟨-, hlines⟩ := Log.of_splitLine?_eq_some hsplit
    exact Log.exists_of_mem_lines (hlines ▸ List.mem_cons_self)
  cases hbuffer : splitLine? r.buffer with
  | some split =>
      simp only [nextLine, hbuffer]
      exact hfirst hbuffer
  | none =>
      have hnone := Log.splitLine?_eq_none_iff.mp hbuffer
      cases hahead : splitLine? (content.drop r.position) with
      | some split =>
          obtain ⟨front, hline, hfront⟩ := hfirst hahead
          simp only [nextLine, hbuffer, hahead, hline]
          refine ⟨r.buffer ++ front, (List.append_assoc ..).symm, ?_⟩
          rw [List.mem_append, not_or]
          exact ⟨hnone, hfront⟩
      | none =>
          -- there is no line feed at all
          simp only [nextLine, hbuffer, hahead] at hlast
          rcases List.mem_append.mp (List.mem_of_getLast? hlast) with hmem | hmem
          · exact absurd hmem hnone
          · exact absurd hmem (Log.splitLine?_eq_none_iff.mp hahead)

namespace Poller

theorem complete_of_mem_drained {hs : Handlers σ} {cursor : Path} {running : Bool} {count : Nat}
    {r : LineReader} {p : Progress σ} {line : List UInt8}
    (hline : line ∈ drained hs cursor running count r p) : Log.Complete line := by
  induction count generalizing r p with
  | zero => cases hline
  | succ count ih =>
      unfold drained at hline
      split at hline
      · cases hline
      cases hread : r.read p.surroundings.files with
      | error e =>
          rw [hread] at hline
          cases hline
      | ok next =>
          obtain ⟨first, r'⟩ := next
          simp only [hread] at hline
          split at hline
          · cases hline
          split at hline
          · cases hline
          next hlast =>
            rcases List.mem_cons.mp hline with rfl | hline
            · unfold LineReader.read at hread
              split at hread
              · cases hread
              · obtain ⟨rfl, -⟩ := Prod.mk.inj (Except.ok.inj hread)
                exact r.nextLine_complete _ (Decidable.not_not.mp hlast)
            · exact ih hline

variable {hs : Handlers σ} {running : Bool} {p : Poller} {s : Surroundings σ} {line : List UInt8}

theorem complete_of_mem_handed (hline : line ∈ p.handed hs running s) : Log.Complete line := by
  unfold handed at hline
  split at hline
  · cases hline
  · dsimp only at hline
    split at hline
    · cases hline
    · exact complete_of_mem_drained hline

end Poller

end DebugDashboard
