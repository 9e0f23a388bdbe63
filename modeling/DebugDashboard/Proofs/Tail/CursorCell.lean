import DebugDashboard.Proofs.Tail.Draft
import DebugDashboard.Proofs.Tail.WholeLines
import DebugDashboard.Proofs.Text.Numeral

/-!
# The cursor file as a cell

In any sound file system a cursor file holds one number at a time. What is saved is loaded, a save
or removal that fails changes nothing that is loaded, and what a removal leaves is missing. Only a
link that lies on its own way is not replaced as a whole, since nothing but a directory or a link
can lie on a way.
-/

namespace DebugDashboard.CursorFile

open FileSystem

variable {fs fs' : FileSystem} {p : Path} {front : List Step} {dir : Location} {last : String}
  {n j : Nat} {bytes : List UInt8}

/-! ## What is loaded -/

theorem load_of_read_error {e : IoError} (hread : fs.read p = .error e) :
    load fs p = if e = .notFound then .error (.missing p) else .error .io := by
  have htext : fs.readText p = .error e := by
    simp [FileSystem.readText, hread, bind, Except.bind]
  rw [load, htext]
  cases e <;> rfl

theorem load_of_find_error {e : IoError} (hfind : fs.find p = .error e) :
    load fs p = if e = .notFound then .error (.missing p) else .error .io :=
  load_of_read_error (by simp [FileSystem.read, FileSystem.openFile, hfind, bind, Except.bind])

/-- What can be loaded is there. -/
theorem find_of_load (hload : load fs p = .ok n) : ∃ node, fs.find p = .ok node := by
  cases hfind : fs.find p with
  | ok node => exact ⟨node, rfl⟩
  | error e =>
      rw [load_of_find_error hfind] at hload
      split at hload <;> cases hload

/-- A number is loaded from a text that stands for it, and nothing else is. -/
theorem load_of_read (hread : fs.read p = .ok bytes) :
    load fs p = .ok n ↔
      ∃ text, Text.Utf8.decode? bytes = some text ∧ Text.Numeral text n ∧ n < Word.limit := by
  simp only [load, FileSystem.readText, hread, bind, Except.bind]
  cases hdecode : Text.Utf8.decode? bytes with
  | none => simp
  | some text =>
      simp only [Option.some.injEq, exists_eq_left', ← Text.word?_trim_eq_some_iff]
      cases Text.Decimal.word? (Text.trim text) <;> simp

/-- A file is never missing. -/
theorem load_ne_missing (hread : fs.read p = .ok bytes) (file : Path) :
    load fs p ≠ .error (.missing file) := by
  simp only [load, FileSystem.readText, hread, bind, Except.bind]
  cases Text.Utf8.decode? bytes with
  | none => simp
  | some text =>
      dsimp only
      cases Text.Decimal.word? (Text.trim text) <;> simp

/-! ## Saves -/

/-- The cursor file is no link that its own path passes: without it the path still leads to its
name. -/
def NotOnOwnWay (fs : FileSystem) (p : Path) : Prop :=
  ∀ at_ there, fs.resolve false p = .ok (.found at_ (.link there)) →
    (fs.erase at_).resolve false p = .ok (.vacant at_)

theorem Layout.notOnOwnWay_iff (h : Layout fs p front dir last) (hsound : fs.Sound)
    (hp : p.steps = front ++ [.name last]) (hplain : fs.isDirectoryAt (dir ++ [last]) = false) :
    NotOnOwnWay fs p ↔
      (fs.erase (dir ++ [last])).Way (start fs.workingDirectory p) front dir := by
  have hcursor : fs.resolve false p = .ok (fs.targetAt (dir ++ [last])) :=
    h.resolve_cursor hp fun hfalse => by cases hfalse
  have hne : dir ++ [last] ≠ [] := by simp
  have hgone : (fs.erase (dir ++ [last])).node? (dir ++ [last]) = none := by
    rw [node?_erase hne, if_pos rfl]
  constructor
  · intro hway
    by_cases hlink : ∃ there, fs.node? (dir ++ [last]) = some (.link there)
    · obtain ⟨there, hlink⟩ := hlink
      rw [targetAt, hlink] at hcursor
      have hfree : (fs.erase (dir ++ [last])).resolve true p =
          .ok ((fs.erase (dir ++ [last])).targetAt (dir ++ [last])) :=
        resolve_vacant (Extends.mk (fun hnode => hnode) rfl) (by simp [hgone]) (hway _ _ hcursor)
      obtain ⟨other, hother⟩ := exists_way (by simp) hp hfree
      have hback := (extends_erase hne).way hother
      obtain rfl := h.way.unique hback
      exact hother
    · have hclosed : fs.Closed (dir ++ [last]) :=
        closed_of_plain hplain (fun there hnode => hlink ⟨there, hnode⟩)
      have hroots : ∀ root ∈ [dir ++ [last]], fs.Closed root := by simpa using hclosed
      refine h.way.of_agree hroots
        (fun loc hloc => node?_erase_of_liesIn hne List.mem_cons_self hloc) ?_
      exact hsound.liesIn_eq_false (by simpa using hplain) (hsound.isDirectoryAt_start p)
  · intro hway at_ there hlink
    rw [hcursor, targetAt] at hlink
    split at hlink
    · cases hlink
      have hfree : (fs.erase (dir ++ [last])).resolve false p = _ :=
        hway.resolve_name hp h.short_cursor (Layout.text_ne hp) h.clean_cursor h.name_fits h.live
          fun hfalse => by cases hfalse
      rw [hfree, targetAt, hgone]
    · cases hlink

/-- What a save puts in the place of the cursor file is loaded, unless the cursor file was a link
on its own way. -/
theorem Replaced.load_iff (hlayout : Layout fs p front dir last) (hsound : fs.Sound)
    (hp : p.steps = front ++ [.name last]) (hplain : fs.isDirectoryAt (dir ++ [last]) = false)
    (h : Replaced fs fs' (dir ++ [last]) (dir ++ [last ++ ".tmp"]) j
      (Text.Utf8.encode (Text.Decimal.print n)))
    (hn : n < Word.limit) : load fs' p = .ok n ↔ NotOnOwnWay fs p := by
  have hway : ∀ other, fs'.Way (start fs.workingDirectory p) front other ↔
      (fs.erase (dir ++ [last])).Way (start fs.workingDirectory p) front other :=
    fun _ => h.way_iff hsound hplain hlayout.closed
  rw [hlayout.notOnOwnWay_iff hsound hp hplain, ← hway]
  constructor
  · intro hload
    obtain ⟨node, hfind⟩ := find_of_load hload
    obtain ⟨loc, hresolve⟩ := find_eq_ok_iff.mp hfind
    obtain ⟨other, hother⟩ := exists_way (by simp) hp hresolve
    rw [h.workingDirectory] at hother
    -- what leads to a directory without the cursor file leads there with it
    have hback := (extends_erase (by simp)).way ((hway other).mp hother)
    obtain rfl := hlayout.way.unique hback
    exact hother
  · intro hthere
    rw [← h.workingDirectory] at hthere
    have hresolve : fs'.resolve true p = .ok (fs'.targetAt (dir ++ [last])) :=
      hthere.resolve_name hp hlayout.short_cursor (Layout.text_ne hp) hlayout.clean_cursor
        hlayout.name_fits hlayout.live fun _ there => by simp [h.cursor]
    rw [targetAt, h.cursor] at hresolve
    exact load_of_shows ⟨find_eq_ok_iff.mpr ⟨_, hresolve⟩, h.written⟩ hn

/-- A save that succeeds can be loaded, unless the cursor file was a link on its own way. -/
theorem load_save_iff (h : fs.Sound) (hdraft : PlainDraft fs p) (hn : n < Word.limit)
    (hsave : (save fs p n).1 = .ok ()) :
    load (save fs p n).2 p = .ok n ↔ NotOnOwnWay fs p := by
  rcases save_cases h hdraft n with hcase | ⟨fs', hcase, -⟩ | hcase
  · rw [hcase] at hsave
    cases hsave
  · rw [hcase] at hsave
    cases hsave
  · obtain ⟨front, dir, last, j, fs', hcase, hlayout, hp, hplain, hreplaced⟩ := hcase
    rw [hcase]
    exact hreplaced.load_iff hlayout h hp hplain hn

theorem resolve_of_text_empty (htext : p.text = "") (follow : Bool) :
    fs.resolve follow p = .error .notFound := by
  have hshort : ¬ maxPathBytes ≤ p.text.utf8ByteSize := by
    rw [htext]
    decide
  rw [resolve, if_neg hshort, locate, if_pos htext]

theorem load_of_text_empty (htext : p.text = "") : load fs p = .error (.missing p) := by
  have hfind : fs.find p = .error .notFound := by
    rw [find, resolve_of_text_empty htext]
    rfl
  rw [load_of_find_error hfind, if_pos rfl]

/-- A save that fails changes nothing that is loaded. -/
theorem load_save_of_error (h : fs.Sound) (hdraft : PlainDraft fs p) {e : CursorChangeError}
    (hsave : (save fs p n).1 = .error e) : load (save fs p n).2 p = load fs p := by
  rcases save_cases h hdraft n with
    hcase | ⟨fs', hcase, -, htext | ⟨hbefore, hafter⟩⟩ | hcase
  · rw [hcase]
  · rw [hcase, load_of_text_empty htext, load_of_text_empty htext]
  · rw [hcase, hbefore.load, hafter.load]
  · obtain ⟨front, dir, last, j, fs', hcase, -⟩ := hcase
    rw [hcase] at hsave
    cases hsave

/-! ## Removals -/

/-- The files after a removal. One that fails leaves them as they are. -/
def cleared (fs : FileSystem) (p : Path) : FileSystem :=
  match clear fs p with
  | .ok fs => fs
  | .error _ => fs

/-- There is nothing at the end of a path, not even a link. -/
def Gone (fs : FileSystem) (p : Path) : Prop :=
  (∃ loc, fs.resolve false p = .ok (.vacant loc)) ∨ fs.resolve false p = .error .notFound

theorem Gone.plain (h : Gone fs p) (loc : Location) (there : Path) :
    fs.resolve false p ≠ .ok (.found loc (.link there)) := by
  rcases h with ⟨loc', hvacant⟩ | hmissing
  · simp [hvacant]
  · simp [hmissing]

theorem Gone.load (h : Gone fs p) : load fs p = .error (.missing p) := by
  have hfollow : fs.resolve true p = fs.resolve false p := resolve_follow_eq h.plain
  have hfind : fs.find p = .error .notFound := by
    rw [find, hfollow]
    rcases h with ⟨loc, hvacant⟩ | hmissing
    · rw [hvacant]
      rfl
    · rw [hmissing]
      rfl
  rw [load_of_find_error hfind, if_pos rfl]

theorem Gone.clear (h : Gone fs p) : clear fs p = .ok fs := by
  rcases h with ⟨loc, hvacant⟩ | hmissing
  · simp [CursorFile.clear, removeFile, hvacant, bind, Except.bind]
  · simp [CursorFile.clear, removeFile, hmissing, bind, Except.bind]

/-- A removal takes away what is no directory, leaves nothing as it is, and fails only where nothing
can be loaded. -/
theorem clear_cases (fs : FileSystem) (p : Path) :
    (Gone fs p ∧ clear fs p = .ok fs) ∨
      (∃ loc node, fs.resolve false p = .ok (.found loc node) ∧ fs.isDirectoryAt loc = false ∧
        clear fs p = .ok (fs.erase loc)) ∨
      load fs p = .error .io ∧ clear fs p = .error (.removing p) := by
  have hfollow : (∀ loc there, fs.resolve false p ≠ .ok (.found loc (.link there))) →
      fs.resolve true p = fs.resolve false p := resolve_follow_eq
  cases hresolve : fs.resolve false p with
  | error e =>
      by_cases hmissing : e = .notFound
      · subst hmissing
        have hgone : Gone fs p := .inr hresolve
        exact .inl ⟨hgone, hgone.clear⟩
      · have hfind : fs.find p = .error e := by
          rw [find, hfollow (by simp [hresolve]), hresolve]
          rfl
        refine .inr (.inr ⟨?_, ?_⟩)
        · rw [load_of_find_error hfind, if_neg hmissing]
        · simp only [clear, removeFile, hresolve, bind, Except.bind]
  | ok target =>
      cases target with
      | vacant loc =>
          have hgone : Gone fs p := .inl ⟨loc, hresolve⟩
          exact .inl ⟨hgone, hgone.clear⟩
      | found loc node =>
          have hnode := (leads_of_walk (walk_of_resolve hresolve).2.2.2).node_found
          cases node with
          | directory i =>
              have hfind := find_eq_ok_iff.mpr ⟨loc, (hfollow (by simp [hresolve])).trans hresolve⟩
              refine .inr (.inr ⟨load_of_isDirectory ?_, ?_⟩)
              · rw [isDirectory, hfind]
              · simp [clear, removeFile, hresolve, bind, Except.bind]
          | file inode =>
              refine .inr (.inl ⟨loc, _, rfl, by rw [isDirectoryAt, hnode], ?_⟩)
              simp [clear, removeFile, hresolve, bind, Except.bind]
          | link there =>
              refine .inr (.inl ⟨loc, _, rfl, by rw [isDirectoryAt, hnode], ?_⟩)
              simp [clear, removeFile, hresolve, bind, Except.bind]

/-- A removal that succeeds leaves nothing. -/
theorem gone_of_clear (hclear : clear fs p = .ok fs') : Gone fs' p := by
  rcases clear_cases fs p with ⟨hgone, hcase⟩ | ⟨loc, node, hresolve, hplain, hcase⟩ | ⟨-, hcase⟩
  · rw [hcase] at hclear
    cases hclear
    exact hgone
  · rw [hcase] at hclear
    cases hclear
    rcases resolve_erase hresolve hplain with hvacant | hmissing
    · exact .inl ⟨loc, hvacant⟩
    · exact .inr hmissing
  · rw [hcase] at hclear
    cases hclear

/-- A removal fails only where nothing can be loaded, and changes nothing there. -/
theorem load_of_clear_error {e : CursorChangeError} (hclear : clear fs p = .error e) :
    load fs p = .error .io ∧ cleared fs p = fs := by
  refine ⟨?_, by rw [cleared, hclear]⟩
  rcases clear_cases fs p with ⟨-, hcase⟩ | ⟨_, _, -, -, hcase⟩ | ⟨hio, -⟩
  · rw [hcase] at hclear
    cases hclear
  · rw [hcase] at hclear
    cases hclear
  · exact hio

/-! ## Where to go on -/

/-- The offset at which to go on is never beyond the log. A number that fits into a word counts, if
the log reaches that far; where there is no cursor file the log is read from its start, and where it
holds anything else, or cannot be read, from its end. -/
theorem resumeOffset_cases (fs : FileSystem) (p : Path) (length : Nat) :
    resumeOffset fs p length ≤ length ∧
      (∀ bytes text n, fs.read p = .ok bytes → Text.Utf8.decode? bytes = some text →
        Text.Numeral text n → n < Word.limit →
        resumeOffset fs p length = if n ≤ length then n else 0) ∧
      (fs.read p = .error .notFound → resumeOffset fs p length = 0) ∧
      (∀ e, fs.read p = .error e → e ≠ .notFound → resumeOffset fs p length = length) ∧
      ∀ bytes, fs.read p = .ok bytes →
        (∀ text n, Text.Utf8.decode? bytes = some text → n < Word.limit → ¬ Text.Numeral text n) →
        resumeOffset fs p length = length := by
  refine ⟨resumeOffset_le fs p length, ?_, ?_, ?_, ?_⟩
  · intro bytes text n hread hdecode hnumeral hn
    have hload : load fs p = .ok n := (load_of_read hread).mpr ⟨text, hdecode, hnumeral, hn⟩
    rw [resumeOffset, hload]
  · intro hread
    have hload : load fs p = .error (.missing p) := by
      rw [load_of_read_error hread, if_pos rfl]
    rw [resumeOffset, hload]
  · intro e hread hother
    have hload : load fs p = .error .io := by
      rw [load_of_read_error hread, if_neg hother]
    rw [resumeOffset, hload]
  · intro bytes hread hnone
    have hload : ∀ n, load fs p ≠ .ok n := by
      intro n hload
      obtain ⟨text, hdecode, hnumeral, hn⟩ := (load_of_read hread).mp hload
      exact hnone text n hdecode hn hnumeral
    rcases resumeOffset_of_unsaved hload length with ⟨hmissing, -⟩ | ⟨-, hresume⟩
    · exact absurd hmissing (load_ne_missing hread p)
    · exact hresume

/-! ## Runs -/

/-- What lets a cursor file hold whatever is saved. -/
structure Cell (fs : FileSystem) (p : Path) : Prop where
  sound : fs.Sound
  plainDraft : PlainDraft fs p
  notOnOwnWay : NotOnOwnWay fs p

/-- What can be done to a cursor file. -/
inductive CellOp where
  | save (n : Nat)
  | clear

/-- The files after an operation. -/
def CellOp.run (p : Path) (fs : FileSystem) : CellOp → FileSystem
  | .save n => (CursorFile.save fs p n).2
  | .clear => cleared fs p

/-- What the cell holds after an operation: what it held before, if the operation fails. -/
def CellOp.value (p : Path) (fs : FileSystem) (was : Except CursorError Nat) :
    CellOp → Except CursorError Nat
  | .save n =>
    match (CursorFile.save fs p n).1 with
    | .ok () => .ok n
    | .error _ => was
  | .clear =>
    match CursorFile.clear fs p with
    | .ok _ => .error (.missing p)
    | .error _ => was

theorem notOnOwnWay_of_plain
    (hplain : ∀ at_ there, fs.resolve false p ≠ .ok (.found at_ (.link there))) :
    NotOnOwnWay fs p :=
  fun at_ there hlink => absurd hlink (hplain at_ there)

theorem Replaced.cell (hlayout : Layout fs p front dir last) (hsound : fs.Sound)
    (hsound' : fs'.Sound) (hp : p.steps = front ++ [.name last])
    (hplain : fs.isDirectoryAt (dir ++ [last]) = false)
    (h : Replaced fs fs' (dir ++ [last]) (dir ++ [last ++ ".tmp"]) j bytes)
    (hway : NotOnOwnWay fs p) : Cell fs' p := by
  have hthere : fs'.Way (start fs'.workingDirectory p) front dir := by
    rw [h.workingDirectory, h.way_iff hsound hplain hlayout.closed,
      ← hlayout.notOnOwnWay_iff hsound hp hplain]
    exact hway
  have hlayout' : Layout fs' p front dir last :=
    { hlayout with way := hthere, closed := h.closed _ (by simp) }
  refine ⟨hsound', ?_, notOnOwnWay_of_plain ?_⟩
  · intro at_ there hlink
    simp [hlayout'.resolve_draft false, targetAt, h.draft] at hlink
  · intro at_ there hlink
    have hcursor : fs'.resolve false p = .ok (fs'.targetAt (dir ++ [last])) :=
      hlayout'.resolve_cursor hp fun hfalse => by cases hfalse
    simp [hcursor, targetAt, h.cursor] at hlink

theorem Cell.save (h : Cell fs p) (n : Nat) : Cell (CursorFile.save fs p n).2 p := by
  have hsound := sound_save h.sound p n
  rcases save_cases h.sound h.plainDraft n with hcase | ⟨fs', hcase, hdraft, hwhy⟩ | hcase
  · rw [hcase]
    exact h
  · rw [hcase] at hsound ⊢
    refine ⟨hsound, hdraft, notOnOwnWay_of_plain ?_⟩
    rcases hwhy with htext | ⟨-, loc, inode, hresolve⟩
    · simp [resolve_of_text_empty htext]
    · simp [hresolve]
  · obtain ⟨front, dir, last, j, fs', hcase, hlayout, hp, hplain, hreplaced⟩ := hcase
    rw [hcase] at hsound ⊢
    exact hreplaced.cell hlayout h.sound hsound hp hplain h.notOnOwnWay

theorem Cell.cleared (h : Cell fs p) : Cell (CursorFile.cleared fs p) p := by
  unfold CursorFile.cleared
  cases hclear : clear fs p with
  | error e => exact h
  | ok fs' =>
      dsimp only
      have hgone := gone_of_clear hclear
      rcases clear_cases fs p with ⟨-, hcase⟩ | ⟨loc, node, hresolve, hplain, hcase⟩ | ⟨-, hcase⟩
      · rw [hcase] at hclear
        cases hclear
        exact h
      · rw [hcase] at hclear
        cases hclear
        have hroot : loc ≠ [] := by
          rintro rfl
          cases hplain
        refine ⟨h.sound.erase hplain, ?_, notOnOwnWay_of_plain hgone.plain⟩
        intro at_ there hlink
        exact h.plainDraft at_ there (resolve_found (extends_erase hroot) hlink)
      · rw [hcase] at hclear
        cases hclear

/-- After an operation that is made in a cell, what it holds is loaded. -/
theorem Cell.load_run (h : Cell fs p) (op : CellOp) (hop : ∀ n, op = .save n → n < Word.limit) :
    load (op.run p fs) p = op.value p fs (load fs p) := by
  cases op with
  | save n =>
      rw [CellOp.run, CellOp.value]
      cases hsave : (CursorFile.save fs p n).1 with
      | ok => exact (load_save_iff h.sound h.plainDraft (hop n rfl) hsave).mpr h.notOnOwnWay
      | error e => exact load_save_of_error h.sound h.plainDraft hsave
  | clear =>
      rw [CellOp.run, CellOp.value]
      cases hclear : clear fs p with
      | ok fs' =>
          rw [CursorFile.cleared, hclear]
          exact (gone_of_clear hclear).load
      | error e => rw [(load_of_clear_error hclear).2]

theorem Cell.run (h : Cell fs p) (op : CellOp) : Cell (op.run p fs) p := by
  cases op with
  | save n => exact h.save n
  | clear => exact h.cleared

/-- Some operations, one after the other, and what the cell holds after each. -/
def runAll (p : Path) (fs : FileSystem) (ops : List CellOp) :
    FileSystem × Except CursorError Nat :=
  ops.foldl (fun cell op => (op.run p cell.1, op.value p cell.1 cell.2)) (fs, load fs p)

/-- A cursor file that is no link on its own way holds one number or none: what the last save or
removal that succeeded left there, however many of them fail. -/
theorem Cell.load_runAll (h : Cell fs p) (ops : List CellOp)
    (hops : ∀ n, .save n ∈ ops → n < Word.limit) :
    Cell (runAll p fs ops).1 p ∧ load (runAll p fs ops).1 p = (runAll p fs ops).2 := by
  induction ops using List.reverseRecOn with
  | nil => exact ⟨h, rfl⟩
  | append_singleton front op ih =>
      obtain ⟨hcell, hload⟩ := ih fun n hn => hops n (List.mem_append_left _ hn)
      rw [runAll, List.foldl_append]
      refine ⟨hcell.run op, ?_⟩
      refine (hcell.load_run op fun n hn => hops n ?_).trans ?_
      · rw [hn]
        exact List.mem_append_right _ List.mem_cons_self
      · rw [hload]
        rfl

/-! ## The cell -/

/-- The cursor file is a cell for numbers that fit into a word. What a save puts into it is loaded,
unless it was a link on its own way; a save or a removal that fails leaves what is loaded; after a
removal nothing is there, which is no reason for the next one to fail; and whatever the file holds,
there is an offset in the log at which to go on. -/
theorem save_load_clear (h : fs.Sound) (hdraft : PlainDraft fs p) :
    (∀ n < Word.limit, (save fs p n).1 = .ok () →
      (load (save fs p n).2 p = .ok n ↔ NotOnOwnWay fs p)) ∧
    (∀ n e, (save fs p n).1 = .error e → load (save fs p n).2 p = load fs p) ∧
    (∀ e, clear fs p = .error e → load (cleared fs p) p = load fs p) ∧
    (∀ fs', clear fs p = .ok fs' → load fs' p = .error (.missing p) ∧
      (∀ length, resumeOffset fs' p length = 0) ∧ clear fs' p = .ok fs') ∧
    ∀ length, resumeOffset fs p length ≤ length ∧
      (∀ bytes text n, fs.read p = .ok bytes → Text.Utf8.decode? bytes = some text →
        Text.Numeral text n → n < Word.limit →
        resumeOffset fs p length = if n ≤ length then n else 0) ∧
      (fs.read p = .error .notFound → resumeOffset fs p length = 0) ∧
      (∀ e, fs.read p = .error e → e ≠ .notFound → resumeOffset fs p length = length) ∧
      ∀ bytes, fs.read p = .ok bytes →
        (∀ text n, Text.Utf8.decode? bytes = some text → n < Word.limit → ¬ Text.Numeral text n) →
        resumeOffset fs p length = length := by
  refine ⟨?_, ?_, ?_, ?_, resumeOffset_cases fs p⟩
  · intro n hn hsave
    exact load_save_iff h hdraft hn hsave
  · intro n e hsave
    exact load_save_of_error h hdraft hsave
  · intro e hclear
    rw [(load_of_clear_error hclear).2]
  · intro fs' hclear
    have hgone := gone_of_clear hclear
    refine ⟨hgone.load, fun length => ?_, hgone.clear⟩
    rw [resumeOffset, hgone.load]

/-- A link `/data` to a directory `/store` with a cursor file in it. -/
def stored : FileSystem where
  entries := [(["store"], .directory 1), (["data"], .link ⟨"store"⟩),
    (["store", "position"], .file 2)]
  inodes := #[⟨[], .change 0⟩, ⟨[], .change 1⟩, ⟨[49, 10], .change 2⟩]
  clock := 3
  workingDirectory := []

/-- What is saved beyond a link is loaded there. -/
theorem save_load_clear_stored : stored.Sound ∧ PlainDraft stored ⟨"data/position"⟩ ∧
    load (save stored ⟨"data/position"⟩ 5).2 ⟨"data/position"⟩ = .ok 5 := by
  have hsound : stored.Sound := sound_of_fits (by decide +kernel) rfl
  have hfree : stored.resolve false (draft ⟨"data/position"⟩) =
      .ok (.vacant ["store", "position.tmp"]) := ok_of_toOption (by decide +kernel)
  have hfile : stored.resolve false ⟨"data/position"⟩ =
      .ok (.found ["store", "position"] (.file 2)) := ok_of_toOption (by decide +kernel)
  have hdraft : PlainDraft stored ⟨"data/position"⟩ := by
    intro at_ there hlink
    rw [hfree] at hlink
    cases hlink
  have hway : NotOnOwnWay stored ⟨"data/position"⟩ := by
    intro at_ there hlink
    rw [hfile] at hlink
    cases hlink
  have hsave : (save stored ⟨"data/position"⟩ 5).1 = .ok () := ok_of_toOption (by decide +kernel)
  exact ⟨hsound, hdraft, ((save_load_clear hsound hdraft).1 5 (by decide) hsave).mpr hway⟩

/-- A link `/l` to the directory that it is in. -/
def looped : FileSystem where
  entries := [(["l"], .link ⟨"."⟩)]
  inodes := #[⟨[], .change 0⟩]
  clock := 1
  workingDirectory := []

/-- The cursor file `l/l` is the link `l`, which its path passes, and a file in the place of the
link cannot be passed. -/
theorem load_save_looped : looped.Sound ∧ PlainDraft looped ⟨"l/l"⟩ ∧
    (save looped ⟨"l/l"⟩ 5).1 = .ok () ∧ load (save looped ⟨"l/l"⟩ 5).2 ⟨"l/l"⟩ ≠ .ok 5 := by
  have hsound : looped.Sound := sound_of_fits (by decide +kernel) rfl
  have hfree : looped.resolve false (draft ⟨"l/l"⟩) = .ok (.vacant ["l.tmp"]) :=
    ok_of_toOption (by decide +kernel)
  have hdraft : PlainDraft looped ⟨"l/l"⟩ := by
    intro at_ there hlink
    rw [hfree] at hlink
    cases hlink
  have hsave : (save looped ⟨"l/l"⟩ 5).1 = .ok () := ok_of_toOption (by decide +kernel)
  have hnone : (load (save looped ⟨"l/l"⟩ 5).2 ⟨"l/l"⟩).toOption = none := by decide +kernel
  refine ⟨hsound, hdraft, hsave, ?_⟩
  intro hload
  rw [hload] at hnone
  cases hnone

end DebugDashboard.CursorFile
