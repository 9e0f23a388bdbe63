import DebugDashboard.Proofs.FileSystem.Nodes
import DebugDashboard.Proofs.Text.Ascii
import DebugDashboard.Tail.CursorFile

/-!
# Saving beside a log

A save writes the draft and moves it to the cursor file. While log, cursor file and draft are
three files, none of them on the way to another, a save changes nothing but the latter two, and
what it saved is loaded again.
-/

namespace DebugDashboard

/-! ## Paths that end with a name -/

namespace FileSystem

variable {fs : FileSystem} {p : Path} {loc : Location}

theorem endsWithSlash_eq_false {s : String} (hlast : p.steps.getLast? = some (.name s)) :
    endsWithSlash p = false := by
  rw [endsWithSlash, decide_eq_false_iff_not]
  intro hslash
  rw [Path.steps, if_pos hslash, List.getLast?_concat] at hlast
  cases hlast

theorem dropEndSlashes_eq_self (hslash : endsWithSlash p = false) : dropEndSlashes p = p := by
  rw [endsWithSlash, decide_eq_false_iff_not, ← List.head?_reverse] at hslash
  have hbody : (p.text.toList.reverse.dropWhile (· = '/')).reverse = p.text.toList := by
    cases hreverse : p.text.toList.reverse with
    | nil => simpa using hreverse.symm
    | cons c rest =>
        have hc : c ≠ '/' := by simpa [hreverse] using hslash
        rw [List.dropWhile_cons_of_neg (by simpa using hc), ← hreverse, List.reverse_reverse]
  rw [dropEndSlashes, hbody, String.ofList_toList]
  split <;> rfl

theorem endsWithName_eq_true {s : String} (hlast : p.steps.getLast? = some (.name s)) :
    endsWithName p = true := by
  rw [endsWithName, dropEndSlashes_eq_self (endsWithSlash_eq_false hlast), hlast]

theorem vacant_name (hresolve : fs.resolve false p = .ok (.vacant loc)) :
    (∃ s, p.steps.getLast? = some (.name s)) ∧
      ∃ above s, loc = above ++ [s] ∧ fs.isDirectoryAt above = true ∧ fs.node? loc = none :=
  walk_vacant_name (walk_of_resolve hresolve).2.2.2

/-- A file takes over a name from anything but a directory. -/
theorem rename_file {q : Path} {s t : String} {source dest : Location} {j : Nat}
    (hp : p.steps.getLast? = some (.name s)) (hq : q.steps.getLast? = some (.name t))
    (hsource : fs.node? source = some (.file j)) (hne : dest ≠ source)
    (hfrom : fs.resolve false p = .ok (fs.targetAt source))
    (hto : fs.resolve false q = .ok (fs.targetAt dest)) :
    fs.rename p q =
      match fs.node? dest with
      | some (.directory _) => .error .isDirectory
      | _ => .ok (fs.move source dest) := by
  have hplain : fs.isDirectoryAt source = false := by rw [isDirectoryAt, hsource]
  rw [rename, dropEndSlashes_eq_self (endsWithSlash_eq_false hp),
    dropEndSlashes_eq_self (endsWithSlash_eq_false hq), hfrom, hto, targetAt, hsource]
  cases hdest : fs.node? dest with
  | none =>
      simp [bind, Except.bind, targetAt, hdest, hplain, endsWithName_eq_true hp,
        endsWithName_eq_true hq, endsWithSlash_eq_false hp, endsWithSlash_eq_false hq]
  | some node =>
      cases node <;>
        simp [bind, Except.bind, targetAt, hdest, hplain, endsWithName_eq_true hp,
          endsWithName_eq_true hq, endsWithSlash_eq_false hp, endsWithSlash_eq_false hq, hne]

/-- Only a name can be taken over by a file. -/
theorem name_of_rename_file {fs' : FileSystem} {q : Path} {s : String} {source : Location} {j : Nat}
    (hp : p.steps.getLast? = some (.name s)) (hsource : fs.node? source = some (.file j))
    (hfrom : fs.resolve false p = .ok (fs.targetAt source)) (hrename : fs.rename p q = .ok fs') :
    ∃ t, q.steps.getLast? = some (.name t) := by
  have hplain : fs.isDirectoryAt source = false := by rw [isDirectoryAt, hsource]
  rw [rename, dropEndSlashes_eq_self (endsWithSlash_eq_false hp), hfrom, targetAt, hsource]
    at hrename
  cases hto : fs.resolve false (dropEndSlashes q) with
  | error e => simp [hto, bind, Except.bind] at hrename
  | ok target =>
      simp only [hto, hplain, bind, Except.bind, endsWithName_eq_true hp] at hrename
      split at hrename
      · cases hrename
      next hname =>
        split at hrename
        · cases hrename
        next hslash =>
          have hslash : endsWithSlash q = false := by
            simp only [Bool.not_false, Bool.true_and, Bool.or_eq_true, not_or] at hslash
            exact (Bool.not_eq_true _).mp hslash.2
          have hname : endsWithName q = true := by simpa using hname
          rw [endsWithName, dropEndSlashes_eq_self hslash] at hname
          split at hname
          next t hlast => exact ⟨t, hlast⟩
          next => cases hname

end FileSystem

namespace CursorFile

open FileSystem

variable {fs fs' : FileSystem} {cursor log : Path} {c d : Location} {inode n : Nat}
  {content : List UInt8}

/-- Without what stands at `c` and `d`, the cursor file and its draft are free names there, and the
log is found all the same: none of the three is on the way to another. -/
structure NamedAt (fs : FileSystem) (cursor log : Path) (c d : Location) (inode : Nat) : Prop where
  cursor_free : (fs.without [c, d]).resolve false cursor = .ok (.vacant c)
  draft_free : (fs.without [c, d]).resolve false (draft cursor) = .ok (.vacant d)
  distinct : c ≠ d
  log_found : (fs.without [c, d]).find log = .ok (.file inode)
  cursor_outside : ¬ c <+: fs.workingDirectory
  draft_outside : ¬ d <+: fs.workingDirectory

/-- Besides, the draft is no link, and neither it nor the cursor file is the log by another name. -/
structure ApartAt (fs : FileSystem) (cursor log : Path) (c d : Location) (inode : Nat) : Prop
    extends NamedAt fs cursor log c d inode where
  cursor_other : fs.find cursor ≠ .ok (.file inode)
  draft_other : fs.node? d = none ∨
    ∃ j bytes, j ≠ inode ∧ fs.node? d = some (.file j) ∧ fs.bytes? j = some bytes

/-- Log, cursor file and draft are three files, and none is on the way to another. -/
def Apart (fs : FileSystem) (cursor log : Path) (inode : Nat) : Prop :=
  ∃ c d, ApartAt fs cursor log c d inode

namespace NamedAt

theorem find_log (h : NamedAt fs cursor log c d inode) : fs.find log = .ok (.file inode) :=
  find_found (extends_without ..) h.log_found

theorem resolve_cursor (h : NamedAt fs cursor log c d inode) {follow : Bool}
    (hplain : follow = true → ∀ target, fs.node? c ≠ some (.link target)) :
    fs.resolve follow cursor = .ok (fs.targetAt c) :=
  resolve_vacant (extends_without ..) hplain h.cursor_free

theorem resolve_draft (h : NamedAt fs cursor log c d inode) {follow : Bool}
    (hplain : follow = true → ∀ target, fs.node? d ≠ some (.link target)) :
    fs.resolve follow (draft cursor) = .ok (fs.targetAt d) :=
  resolve_vacant (extends_without ..) hplain h.draft_free

theorem not_liesIn {roots : List Location} {above : Location}
    (hdir : (fs.without roots).isDirectoryAt above = true) (hne : above ≠ []) :
    liesIn roots above = false := by
  obtain ⟨i, hi⟩ := isDirectoryAt_iff.mp hdir
  rw [node?_without] at hi
  cases hin : liesIn roots above with
  | false => rfl
  | true => rw [if_pos ⟨hne, hin⟩] at hi; cases hi

/-- A free name lies below another root only if it is that root. -/
theorem not_prefix {roots : List Location} {root loc : Location} {p : Path} (hroot : root ∈ roots)
    (hresolve : (fs.without roots).resolve false p = .ok (.vacant loc)) (hne : root ≠ [])
    (hother : loc ≠ root) : ¬ root <+: loc := by
  obtain ⟨-, above, s, rfl, hdir, -⟩ := vacant_name hresolve
  intro hpre
  rcases List.prefix_concat_iff.mp hpre with heq | hpre
  · exact hother heq.symm
  · by_cases hempty : above = []
    · subst hempty
      exact hne (List.prefix_nil.mp hpre)
    · have hfalse := not_liesIn hdir hempty
      rw [liesIn, List.any_eq_false] at hfalse
      exact hfalse root hroot (List.isPrefixOf_iff_prefix.mpr hpre)

theorem cursor_ne_nil (h : NamedAt fs cursor log c d inode) : c ≠ [] := by
  obtain ⟨-, above, s, rfl, -, -⟩ := vacant_name h.cursor_free
  simp

theorem draft_ne_nil (h : NamedAt fs cursor log c d inode) : d ≠ [] := by
  obtain ⟨-, above, s, rfl, -, -⟩ := vacant_name h.draft_free
  simp

theorem cursor_not_prefix (h : NamedAt fs cursor log c d inode) : ¬ c <+: d :=
  not_prefix (by simp) h.draft_free h.cursor_ne_nil h.distinct.symm

/-- Nothing depends on what stands at the names of cursor file and draft. -/
theorem of_agree (h : NamedAt fs cursor log c d inode)
    (hnode : ∀ at_, ¬ c <+: at_ → ¬ d <+: at_ → fs'.node? at_ = fs.node? at_)
    (hhere : fs'.workingDirectory = fs.workingDirectory) :
    NamedAt fs' cursor log c d inode := by
  have halike : (fs'.without [c, d]).Alike (fs.without [c, d]) := by
    refine alike_without (fun at_ hin => ?_) hhere
    rw [← Bool.not_eq_true, liesIn_pair, not_or] at hin
    exact hnode at_ hin.1 hin.2
  exact {
    cursor_free := (resolve_congr halike ..).trans h.cursor_free
    draft_free := (resolve_congr halike ..).trans h.draft_free
    distinct := h.distinct
    log_found := (find_congr halike ..).trans h.log_found
    cursor_outside := hhere ▸ h.cursor_outside
    draft_outside := hhere ▸ h.draft_outside }

end NamedAt

/-- What a written draft leaves: another content at `d`, and all else as it was. -/
structure Drafted (fs fs' : FileSystem) (d : Location) (j : Nat) (bytes : List UInt8) : Prop where
  draft : fs'.node? d = some (.file j)
  node : ∀ at_, at_ ≠ d → fs'.node? at_ = fs.node? at_
  workingDirectory : fs'.workingDirectory = fs.workingDirectory
  written : fs'.bytes? j = some bytes
  kept : ∀ {k content}, k ≠ j → fs.bytes? k = some content → fs'.bytes? k = some content

/-- Where no draft was, a new file is made. -/
theorem drafted_new {p : Path} (hresolve : fs.resolve true p = .ok (fs.targetAt d)) (hne : d ≠ [])
    (hnone : fs.node? d = none) (bytes : List UInt8) :
    ∃ fs', fs.write p bytes = .ok fs' ∧ Drafted fs fs' d fs.inodes.size bytes := by
  let made := (fs.allocate []).1.put d (.file fs.inodes.size)
  have hmade : made.bytes? fs.inodes.size = some [] := bytes?_allocate_new fs []
  have hnode : ∀ at_, (made.setContent fs.inodes.size bytes).node? at_ =
      if at_ = d then some (.file fs.inodes.size) else fs.node? at_ :=
    fun at_ => node?_put hne at_
  refine ⟨made.setContent fs.inodes.size bytes, ?_, ?_⟩
  · simp [FileSystem.write, openForWriting, hresolve, targetAt, hnone, bind, Except.bind,
      allocate, made]
  · exact {
      draft := by rw [hnode, if_pos rfl]
      node := fun at_ hat => by rw [hnode, if_neg hat]
      workingDirectory := rfl
      written := bytes?_setContent_self hmade
      kept := fun hk hcontent => by
        rw [bytes?_setContent_of_ne (Ne.symm hk)]
        exact bytes?_allocate hcontent }

/-- A draft that is there gets another content. -/
theorem drafted_old {p : Path} {j : Nat} {old : List UInt8}
    (hresolve : fs.resolve true p = .ok (fs.targetAt d)) (hfile : fs.node? d = some (.file j))
    (hold : fs.bytes? j = some old) (bytes : List UInt8) :
    ∃ fs', fs.write p bytes = .ok fs' ∧ Drafted fs fs' d j bytes := by
  refine ⟨fs.setContent j bytes, ?_, ?_⟩
  · simp [FileSystem.write, openForWriting, hresolve, targetAt, hfile, bind, Except.bind]
  · exact {
      draft := hfile
      node := fun _ _ => rfl
      workingDirectory := rfl
      written := bytes?_setContent_self hold
      kept := fun hk hcontent => by rw [bytes?_setContent_of_ne (Ne.symm hk), hcontent] }

theorem Drafted.named {j : Nat} {bytes : List UInt8} (hdraft : Drafted fs fs' d j bytes)
    (h : NamedAt fs cursor log c d inode) : NamedAt fs' cursor log c d inode :=
  h.of_agree (fun at_ _ hd => hdraft.node at_ (fun heq => hd (heq ▸ List.prefix_rfl)))
    hdraft.workingDirectory

theorem Drafted.node_cursor {j : Nat} {bytes : List UInt8} (hdraft : Drafted fs fs' d j bytes)
    (h : NamedAt fs cursor log c d inode) : fs'.node? c = fs.node? c :=
  hdraft.node c h.distinct

namespace ApartAt

theorem draft_plain (h : ApartAt fs cursor log c d inode) (target : Path) :
    fs.node? d ≠ some (.link target) := by
  rcases h.draft_other with hnone | ⟨j, bytes, -, hfile, -⟩
  · simp [hnone]
  · simp [hfile]

theorem write_draft (h : ApartAt fs cursor log c d inode) (hlog : fs.bytes? inode = some content)
    (bytes : List UInt8) :
    ∃ fs' j, fs.write (draft cursor) bytes = .ok fs' ∧ j ≠ inode ∧ Drafted fs fs' d j bytes := by
  have hresolve : fs.resolve true (draft cursor) = .ok (fs.targetAt d) :=
    h.resolve_draft fun _ => h.draft_plain
  rcases h.draft_other with hnone | ⟨j, old, hne, hfile, hold⟩
  · obtain ⟨fs', hwrite, hdraft⟩ := drafted_new hresolve h.draft_ne_nil hnone bytes
    -- a draft that is made gets a number that no file has yet
    exact ⟨fs', fs.inodes.size, hwrite, Nat.ne_of_gt (lt_size hlog), hdraft⟩
  · obtain ⟨fs', hwrite, hdraft⟩ := drafted_old hresolve hfile hold bytes
    exact ⟨fs', j, hwrite, hne, hdraft⟩

end ApartAt

/-- A draft takes the place of anything but a directory. -/
theorem NamedAt.rename_draft (h : NamedAt fs cursor log c d inode) {j : Nat}
    (hdraft : fs.node? d = some (.file j)) :
    fs.rename (draft cursor) cursor =
      match fs.node? c with
      | some (.directory _) => .error .isDirectory
      | _ => .ok (fs.move d c) := by
  obtain ⟨⟨s, hs⟩, -⟩ := vacant_name h.cursor_free
  obtain ⟨⟨t, ht⟩, -⟩ := vacant_name h.draft_free
  exact rename_file ht hs hdraft h.distinct (h.resolve_draft fun hfalse => by cases hfalse)
    (h.resolve_cursor fun hfalse => by cases hfalse)

/-- A save writes the draft, and moves it unless a directory is in the way. -/
theorem ApartAt.save_cases (h : ApartAt fs cursor log c d inode)
    (hlog : fs.bytes? inode = some content) (n : Nat) :
    ∃ drafted j, j ≠ inode ∧
      Drafted fs drafted d j (Text.Utf8.encode (Text.Decimal.print n)) ∧
      save fs cursor n =
        match fs.node? c with
        | some (.directory _) => (.error (.moving cursor), drafted)
        | _ => (.ok (), drafted.move d c) := by
  obtain ⟨drafted, j, hwrite, hne, hdraft⟩ :=
    h.write_draft hlog (Text.Utf8.encode (Text.Decimal.print n))
  refine ⟨drafted, j, hne, hdraft, ?_⟩
  have hrename := (hdraft.named h.toNamedAt).rename_draft hdraft.draft
  rw [hdraft.node_cursor h.toNamedAt] at hrename
  rw [save, hwrite]
  simp only [hrename]
  cases fs.node? c with
  | none => rfl
  | some node => cases node <;> rfl

section Saved

variable (h : ApartAt fs cursor log c d inode) (hlog : fs.bytes? inode = some content)

include h in
theorem Drafted.cursor_other {j : Nat} {bytes : List UInt8} (hdraft : Drafted fs fs' d j bytes)
    {k : Nat} (hdir : fs.node? c = some (.directory k)) : fs'.find cursor ≠ .ok (.file inode) := by
  have hnamed := hdraft.named h.toNamedAt
  have hcursor : fs'.node? c = some (.directory k) := by
    rw [hdraft.node_cursor h.toNamedAt, hdir]
  have hfind : fs'.find cursor = .ok (.directory k) := by
    refine find_eq_ok_iff.mpr ⟨c, ?_⟩
    rw [hnamed.resolve_cursor (fun _ target => by simp [hcursor]), targetAt, hcursor]
  simp [hfind]

/-- The moved draft is the cursor file, its name is free again, and all else is as it was. -/
theorem NamedAt.move_draft (h : NamedAt fs cursor log c d inode) {j : Nat}
    (hdraft : fs.node? d = some (.file j)) :
    NamedAt (fs.move d c) cursor log c d inode ∧
      (fs.move d c).find cursor = .ok (.file j) ∧
      (fs.move d c).node? c = some (.file j) ∧ (fs.move d c).node? d = none := by
  have hnamed : NamedAt (fs.move d c) cursor log c d inode :=
    h.of_agree (fun _ hc hd => node?_move h.cursor_outside hd hc)
      (workingDirectory_move h.draft_outside h.cursor_outside)
  have hcursor : (fs.move d c).node? c = some (.file j) := by
    rw [node?_move_dest h.cursor_outside h.draft_ne_nil h.cursor_not_prefix, hdraft]
  refine ⟨hnamed, find_eq_ok_iff.mpr ⟨c, ?_⟩, hcursor,
    node?_move_source h.draft_ne_nil List.prefix_rfl h.cursor_not_prefix⟩
  rw [hnamed.resolve_cursor (fun _ target => by simp [hcursor]), targetAt, hcursor]

include h hlog

/-- A save, whether it succeeds or not, keeps the three files apart and the log as it is. -/
theorem ApartAt.save_apart (n : Nat) :
    ApartAt (save fs cursor n).2 cursor log c d inode ∧
      (save fs cursor n).2.bytes? inode = some content := by
  obtain ⟨drafted, j, hne, hdraft, hsave⟩ := h.save_cases hlog n
  have hnamed := hdraft.named h.toNamedAt
  have hkept := hdraft.kept (Ne.symm hne) hlog
  obtain ⟨hmoved, hfind, -, hfree⟩ := hnamed.move_draft hdraft.draft
  have hothers : ApartAt (drafted.move d c) cursor log c d inode :=
    { hmoved with
      cursor_other := by simpa [hfind] using hne
      draft_other := .inl hfree }
  rw [hsave]
  cases hcursor : fs.node? c with
  | none => exact ⟨hothers, hkept⟩
  | some node =>
      cases node with
      | file k => exact ⟨hothers, hkept⟩
      | link target => exact ⟨hothers, hkept⟩
      | directory k =>
          exact ⟨{ hnamed with
            cursor_other := hdraft.cursor_other h hcursor
            draft_other := .inr ⟨j, _, hne, hdraft.draft, hdraft.written⟩ }, hkept⟩

/-- Off the cursor file and its draft a save changes nothing. -/
theorem ApartAt.save_alike (n : Nat) :
    ((save fs cursor n).2.without [c, d]).Alike (fs.without [c, d]) := by
  obtain ⟨drafted, j, -, hdraft, hsave⟩ := h.save_cases hlog n
  have hnamed := hdraft.named h.toNamedAt
  have hdrafted : ∀ at_, ¬ c <+: at_ → ¬ d <+: at_ → drafted.node? at_ = fs.node? at_ :=
    fun at_ _ hd => hdraft.node at_ fun heq => hd (heq ▸ List.prefix_rfl)
  have hnode : ∀ at_, ¬ c <+: at_ → ¬ d <+: at_ →
      (save fs cursor n).2.node? at_ = fs.node? at_ := by
    intro at_ hc hd
    rw [hsave]
    split
    · exact hdrafted at_ hc hd
    · exact (node?_move hnamed.cursor_outside hd hc).trans (hdrafted at_ hc hd)
  have hhere : (save fs cursor n).2.workingDirectory = fs.workingDirectory := by
    rw [hsave]
    split
    · exact hdraft.workingDirectory
    · exact (workingDirectory_move hnamed.draft_outside hnamed.cursor_outside).trans
        hdraft.workingDirectory
  refine alike_without (fun at_ hin => ?_) hhere
  rw [← Bool.not_eq_true, liesIn_pair, not_or] at hin
  exact hnode at_ hin.1 hin.2

/-- A save succeeds unless a directory is in the way, and what it saved is read again. -/
theorem ApartAt.read_save (hplain : fs.isDirectory cursor = false) (n : Nat) :
    (save fs cursor n).1 = .ok () ∧
      ∃ j, (save fs cursor n).2.Shows cursor j (Text.Utf8.encode (Text.Decimal.print n)) := by
  obtain ⟨drafted, j, -, hdraft, hsave⟩ := h.save_cases hlog n
  obtain ⟨-, hfind, -, -⟩ := (hdraft.named h.toNamedAt).move_draft hdraft.draft
  have hshows : (drafted.move d c).Shows cursor j (Text.Utf8.encode (Text.Decimal.print n)) :=
    ⟨hfind, hdraft.written⟩
  rw [hsave]
  cases hcursor : fs.node? c with
  | none => exact ⟨rfl, j, hshows⟩
  | some node =>
      cases node with
      | file k => exact ⟨rfl, j, hshows⟩
      | link target => exact ⟨rfl, j, hshows⟩
      | directory k =>
          have hthere : fs.find cursor = .ok (.directory k) := by
            refine find_eq_ok_iff.mpr ⟨c, ?_⟩
            rw [h.resolve_cursor (fun _ target => by simp [hcursor]), targetAt, hcursor]
          simp [FileSystem.isDirectory, hthere] at hplain

end Saved

/-- A number that was written is loaded. -/
theorem load_of_shows {j : Nat}
    (hshows : fs.Shows cursor j (Text.Utf8.encode (Text.Decimal.print n))) (hn : n < Word.limit) :
    load fs cursor = .ok n := by
  simp [load, FileSystem.readText, hshows.read, bind, Except.bind, Text.decode?_encode_print,
    Text.trim_print, Text.Decimal.word?_print hn]

/-- The log is there with a number and a content, the cursor can be saved beside it, and nothing
that is saved is lost. -/
structure Savable (fs : FileSystem) (cursor log : Path) (inode : Nat) (content : List UInt8) :
    Prop where
  apart : Apart fs cursor log inode
  bytes : fs.bytes? inode = some content
  plain : fs.isDirectory cursor = false

namespace Savable

variable (h : Savable fs cursor log inode content)

include h

theorem shows : fs.Shows log inode content :=
  ⟨h.apart.choose_spec.choose_spec.find_log, h.bytes⟩

theorem save_ok (n : Nat) : (CursorFile.save fs cursor n).1 = .ok () := by
  obtain ⟨c, d, hapart⟩ := h.apart
  exact (hapart.read_save h.bytes h.plain n).1

theorem save (n : Nat) : Savable (CursorFile.save fs cursor n).2 cursor log inode content := by
  obtain ⟨c, d, hapart⟩ := h.apart
  obtain ⟨hsaved, hbytes⟩ := hapart.save_apart h.bytes n
  obtain ⟨-, j, hshows⟩ := hapart.read_save h.bytes h.plain n
  exact ⟨⟨c, d, hsaved⟩, hbytes, by rw [FileSystem.isDirectory, hshows.find]⟩

/-- What was saved is loaded again. -/
theorem load_save (hn : n < Word.limit) : load (CursorFile.save fs cursor n).2 cursor = .ok n := by
  obtain ⟨c, d, hapart⟩ := h.apart
  obtain ⟨-, j, hshows⟩ := hapart.read_save h.bytes h.plain n
  exact load_of_shows hshows hn

/-- Adding to the log keeps it apart from the cursor file, which stays as it is. -/
theorem append (more : List UInt8) :
    ∃ fs', fs.append log more = .ok fs' ∧ Savable fs' cursor log inode (content ++ more) ∧
      load fs' cursor = load fs cursor := by
  obtain ⟨fs', happend, hshows, halike, hothers⟩ := h.shows.append more
  obtain ⟨c, d, hapart⟩ := h.apart
  have hfind : fs'.find cursor = fs.find cursor := find_congr halike cursor
  refine ⟨fs', happend, ⟨⟨c, d, ?_⟩, hshows.bytes, ?_⟩, ?_⟩
  · exact {
      hapart.of_agree (fun at_ _ _ => halike.node at_) halike.workingDirectory with
      cursor_other := by rw [hfind]; exact hapart.cursor_other
      draft_other := by
        rw [halike.node]
        rcases hapart.draft_other with hnone | ⟨j, bytes, hne, hfile, hold⟩
        · exact .inl hnone
        · exact .inr ⟨j, bytes, hne, hfile, by rw [hothers j (Ne.symm hne), hold]⟩ }
  · have hplain := h.plain
    unfold FileSystem.isDirectory at hplain ⊢
    rwa [hfind]
  · have hread : fs'.read cursor = fs.read cursor := by
      cases hthere : fs.find cursor with
      | error e => simp [FileSystem.read, FileSystem.openFile, hfind, hthere, bind, Except.bind]
      | ok node =>
          cases node with
          | directory k =>
              simp [FileSystem.read, FileSystem.openFile, hfind, hthere, bind, Except.bind]
          | link target =>
              simp [FileSystem.read, FileSystem.openFile, hfind, hthere, bind, Except.bind]
          | file j =>
              have hne : inode ≠ j := by
                rintro rfl
                exact hapart.cursor_other hthere
              simp [FileSystem.read, FileSystem.openFile, hfind, hthere, bind, Except.bind,
                content_congr (hothers j hne)]
    rw [load, load, FileSystem.readText, FileSystem.readText, hread]

end Savable

theorem load_of_isDirectory (hdir : fs.isDirectory cursor = true) :
    load fs cursor = .error .io := by
  unfold FileSystem.isDirectory at hdir
  split at hdir
  next hfind =>
    simp [load, FileSystem.readText, FileSystem.read, FileSystem.openFile, hfind, bind, Except.bind]
  next => cases hdir

/-- What does not merely fail to load is no directory. -/
theorem plain_of_load (hload : load fs cursor ≠ .error .io) : fs.isDirectory cursor = false := by
  by_contra hdir
  exact hload (load_of_isDirectory (Bool.of_not_eq_false hdir))

theorem plain_of_missing {file : Path} (hmissing : load fs cursor = .error (.missing file)) :
    fs.isDirectory cursor = false :=
  plain_of_load (by simp [hmissing])

theorem ok_of_toOption {ε α : Type} {result : Except ε α} {a : α}
    (h : result.toOption = some a) : result = .ok a := by
  cases result with
  | error e => cases h
  | ok b => cases h; rfl

/-- A log `/log` with a number and a content, and a cursor file `/cursor`. -/
def logBeside (inode : Nat) (content saved : List UInt8) : FileSystem where
  entries := [(["log"], .file inode), (["cursor"], .file 2)]
  inodes := #[⟨[], .change 0⟩, ⟨content, .change 1⟩, ⟨saved, .change 2⟩, ⟨content, .change 3⟩]
  clock := 4
  workingDirectory := []

theorem logBeside_savable {inode : Nat} (content saved : List UInt8)
    (hinode : inode = 1 ∨ inode = 3) :
    Savable (logBeside inode content saved) ⟨"/cursor"⟩ ⟨"/log"⟩ inode content := by
  have hfind : (logBeside inode content saved).find ⟨"/cursor"⟩ = .ok (.file 2) := rfl
  refine ⟨⟨["cursor"], ["cursor.tmp"], ?_⟩, ?_, ?_⟩
  · exact {
      cursor_free := rfl
      draft_free := rfl
      distinct := by decide
      log_found := rfl
      cursor_outside := by simp [logBeside]
      draft_outside := by simp [logBeside]
      cursor_other := by
        rw [hfind]
        rcases hinode with rfl | rfl <;> simp
      draft_other := .inl rfl }
  · rcases hinode with rfl | rfl <;> rfl
  · rw [FileSystem.isDirectory, hfind]

end CursorFile

end DebugDashboard
