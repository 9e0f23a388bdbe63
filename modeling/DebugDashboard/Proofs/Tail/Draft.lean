import DebugDashboard.Proofs.FileSystem.Built
import DebugDashboard.Proofs.Path.Parent
import DebugDashboard.Proofs.Tail.CursorFile

/-!
# The draft of a cursor file

A cursor file and its draft are two names in one directory, whatever the way to it. A save that can
write the draft is refused only where the cursor file is a directory, or where its path does not end
with a name; else it replaces the cursor file and changes nothing but the two names.
-/

namespace DebugDashboard.CursorFile

open FileSystem

variable {fs fs' : FileSystem} {p : Path} {front : List Step} {dir : Location} {last : String}
  {n j : Nat} {bytes : List UInt8}

/-! ## Two names in one directory -/

/-- A path and its draft differ in their last step, which is a name of the draft. -/
theorem steps_draft (p : Path) : ∃ front last,
    (draft p).steps = front ++ [.name (last ++ ".tmp")] ∧
      (p.steps = front ++ [.name last] ∨ p.steps = front ++ [.stay] ∨ p.steps = front ++ [.up] ∨
        p.text = "") := by
  have hne : p.segments ≠ [] := by simp [Path.segments]
  obtain ⟨before, last, hp⟩ : ∃ before last, p.segments = before ++ [last] :=
    ⟨_, _, (List.dropLast_concat_getLast hne).symm⟩
  have hslash : ∀ s ∈ before ++ [last], '/' ∉ s.toList := fun s hs =>
    Path.notMem_of_mem_segments (hp ▸ hs)
  have htext : Path.joinSegments (before ++ [last]) = p.text := by
    rw [← hp, Path.joinSegments_segments]
  have hdraft : (draft p).segments = before ++ [last ++ ".tmp"] := by
    have hspelt : draft p = ⟨Path.joinSegments (before ++ [last ++ ".tmp"])⟩ := by
      rw [Path.joinSegments_concat, htext]
      rfl
    rw [hspelt]
    refine Path.segments_joinSegments (fun s hs => ?_) (by simp)
    rcases List.mem_append.mp hs with hs | hs
    · exact hslash s (List.mem_append_left _ hs)
    · have hlast := hslash last (by simp)
      rw [List.mem_singleton.mp hs]
      simpa using hlast
  have hend : (draft p).text.toList.getLast? = some 'p' := by simp [draft]
  have hsuffix : ∀ s : String, s.toList.getLast? ≠ some 'p' → last ++ ".tmp" ≠ s := by
    rintro s hs rfl
    exact hs (by simp)
  refine ⟨before.filterMap fun s => if s = "" then none else if s = "." then some .stay
    else if s = ".." then some .up else some (.name s), last, ?_, ?_⟩
  · simp [Path.steps, hdraft, hend, hsuffix "" (by decide), hsuffix "." (by decide),
      hsuffix ".." (by decide)]
  by_cases hempty : last = ""
  · subst hempty
    by_cases hbefore : before = []
    · right; right; right
      rw [← htext, hbefore]
      rfl
    · have hslash : p.text.toList.getLast? = some '/' := by
        rw [← htext, Path.joinSegments, String.intercalate_append_of_ne_nil hbefore (by simp)]
        simp
      right; left
      simp [Path.steps, hp, hslash]
  · have hlast : p.text.toList.getLast? = last.toList.getLast? := by
      have hchars : last.toList ≠ [] := by simpa using hempty
      rw [← htext, Path.joinSegments]
      by_cases hbefore : before = []
      · simp [hbefore]
      · rw [String.intercalate_append_of_ne_nil hbefore (by simp)]
        simp [List.getLast?_cons, List.getLast?_eq_some_getLast hchars]
    have hslash : p.text.toList.getLast? ≠ some '/' := by
      rw [hlast]
      exact fun hend => hslash last (by simp) (List.mem_of_getLast? hend)
    by_cases hdot : last = "."
    · right; left
      simp [Path.steps, hp, hslash, hdot]
    by_cases hdots : last = ".."
    · right; right; left
      simp [Path.steps, hp, hslash, hdots]
    · left
      simp [Path.steps, hp, hslash, hempty, hdot, hdots]

theorem start_draft (base : Location) (p : Path) : start base (draft p) = start base p := by
  have habs : (draft p).isAbsolute = p.isAbsolute := by
    simp only [Path.isAbsolute, draft, String.toList_append]
    cases p.text.toList <;> rfl
  simp only [start, habs]

/-- The draft of a cursor file is, or can be made, a file in a directory that the steps before its
name lead to. -/
structure Layout (fs : FileSystem) (p : Path) (front : List Step) (dir : Location)
    (last : String) : Prop where
  steps : (draft p).steps = front ++ [.name (last ++ ".tmp")]
  short : (draft p).text.utf8ByteSize < maxPathBytes
  clean : (draft p).text.toList.contains '\x00' = false
  fits : ¬ maxNameBytes < (last ++ ".tmp").utf8ByteSize
  live : isRemoved dir = false
  way : fs.Way (start fs.workingDirectory p) front dir
  closed : fs.Closed (dir ++ [last ++ ".tmp"])

/-- The draft is no symbolic link. -/
def PlainDraft (fs : FileSystem) (p : Path) : Prop :=
  ∀ at_ there, fs.resolve false (draft p) ≠ .ok (.found at_ (.link there))

theorem layout_of_resolve (h : fs.Sound) (hdraft : PlainDraft fs p)
    (hsteps : (draft p).steps = front ++ [.name (last ++ ".tmp")]) {target : Target}
    (hresolve : fs.resolve true (draft p) = .ok target)
    (htarget : ∀ loc node, target = .found loc node → ∃ inode, node = .file inode) :
    ∃ dir, Layout fs p front dir last := by
  obtain ⟨hshort, htext, hclean, hwalk⟩ := walk_of_resolve hresolve
  obtain ⟨dir, hway⟩ := exists_way (by simp) hsteps hresolve
  obtain ⟨i, hleads⟩ := hway
  obtain ⟨left, hlast⟩ := hleads.walk_append
  rw [hsteps, hlast _ (by simp)] at hwalk
  rw [start_draft] at hleads
  refine ⟨dir, ?_⟩
  cases leads_of_walk hwalk with
  | free hdir hname hnode hremoved =>
      refine ⟨hsteps, hshort, hclean, hname, hremoved, ⟨i, hleads⟩, fun node hthere => ?_⟩
      rw [hnode] at hthere
      cases hthere
  | enter hdir hname hnode hplain hstop =>
      cases hstop with
      | stop hthere =>
          obtain ⟨inode, rfl⟩ := htarget _ _ rfl
          refine ⟨hsteps, hshort, hclean, hname, ?_, ⟨i, hleads⟩, fun node hfile => ?_⟩
          · rw [← Bool.not_eq_true]
            intro hremoved
            rw [h.emptied hremoved (by simp [noName])] at hthere
            cases hthere
          · rw [hthere] at hfile
            cases hfile
            exact ⟨inode, rfl⟩
  | atLink _ _ _ hfollow => cases hfollow
  | @pastLink links _ _ _ there _ hdir hname hnode hgo hfurther =>
      -- the walk that does not follow it ends at this link
      refine absurd ?_ (hdraft (dir ++ [last ++ ".tmp"]) there)
      refine resolve_of_walk hshort htext hclean ?_
      rw [hsteps, hlast _ (by simp)]
      exact walk_of_leads (.atLink hdir hname hnode rfl)

/-- A path leads to a directory, and not just by a link at its end. -/
def AtDirectory (fs : FileSystem) (p : Path) : Prop :=
  ∃ loc inode, ∀ follow, fs.resolve follow p = .ok (.found loc (.directory inode))

theorem AtDirectory.load (h : AtDirectory fs p) : load fs p = .error .io := by
  obtain ⟨loc, inode, hresolve⟩ := h
  refine load_of_isDirectory ?_
  rw [isDirectory, find_eq_ok_iff.mpr ⟨loc, hresolve true⟩]

namespace Layout

theorem text_ne {step : Step} (hsteps : p.steps = front ++ [step]) : p.text ≠ "" := by
  intro htext
  have hnil : p.steps = [] := by
    simp [Path.steps, Path.segments, htext]
  simp [hnil] at hsteps

variable (h : Layout fs p front dir last)

include h

theorem resolve_draft (follow : Bool) :
    fs.resolve follow (draft p) = .ok (fs.targetAt (dir ++ [last ++ ".tmp"])) := by
  have hway := h.way
  rw [← start_draft] at hway
  exact hway.resolve_name h.steps h.short (text_ne h.steps) h.clean h.fits h.live
    fun _ _ => h.closed.not_link

theorem short_cursor : p.text.utf8ByteSize < maxPathBytes := by
  have hshort := h.short
  rw [draft, String.utf8ByteSize_append] at hshort
  omega

theorem clean_cursor : p.text.toList.contains '\x00' = false := by
  have hclean := h.clean
  simp only [draft, String.toList_append, List.contains_append, Bool.or_eq_false_iff] at hclean
  exact hclean.1

theorem name_fits : ¬ maxNameBytes < last.utf8ByteSize := by
  have hfits := h.fits
  rw [String.utf8ByteSize_append] at hfits
  omega

theorem resolve_cursor (hp : p.steps = front ++ [.name last]) {follow : Bool}
    (hplain : follow = true → ∀ there, fs.node? (dir ++ [last]) ≠ some (.link there)) :
    fs.resolve follow p = .ok (fs.targetAt (dir ++ [last])) := by
  exact h.way.resolve_name hp h.short_cursor (text_ne hp) h.clean_cursor h.name_fits h.live hplain

/-- A path that does not end with a name leads to a directory. -/
theorem atDirectory_of_no_name (hsound : fs.Sound)
    (hp : p.steps = front ++ [.stay] ∨ p.steps = front ++ [.up]) : AtDirectory fs p := by
  have hdir := h.way.isDirectoryAt
  obtain ⟨i, hleads⟩ := h.way
  obtain ⟨left, hlast⟩ := hleads.walk_append
  rcases hp with hp | hp
  · obtain ⟨inode, hnode⟩ := isDirectoryAt_iff.mp hdir
    refine ⟨dir, inode, fun follow => ?_⟩
    refine resolve_of_walk h.short_cursor (text_ne hp) h.clean_cursor ?_
    rw [hp, hlast _ (by simp)]
    exact walk_of_leads (.stay hdir (.stop hnode))
  · obtain ⟨inode, hnode⟩ := isDirectoryAt_iff.mp (hsound.isDirectoryAt_dropLast hdir)
    refine ⟨dir.dropLast, inode, fun follow => ?_⟩
    refine resolve_of_walk h.short_cursor (text_ne hp) h.clean_cursor ?_
    rw [hp, hlast _ (by simp)]
    exact walk_of_leads (.up hdir (.stop hnode))

/-- So does a path that ends with the name of one. -/
theorem atDirectory_of_name (hp : p.steps = front ++ [.name last])
    (hdir : fs.isDirectoryAt (dir ++ [last]) = true) : AtDirectory fs p := by
  obtain ⟨i, hi⟩ := isDirectoryAt_iff.mp hdir
  refine ⟨dir ++ [last], i, fun follow => ?_⟩
  rw [h.resolve_cursor hp fun _ there => by simp [hi], targetAt, hi]

theorem of_agree {roots : List Location} (hsound : fs.Sound)
    (hclosed : ∀ root ∈ roots, fs.Closed root)
    (hnode : ∀ loc, liesIn roots loc = false → fs'.node? loc = fs.node? loc)
    (hhere : fs'.workingDirectory = fs.workingDirectory)
    (hdraft : fs'.Closed (dir ++ [last ++ ".tmp"])) : Layout fs' p front dir last where
  steps := h.steps
  short := h.short
  clean := h.clean
  fits := h.fits
  live := h.live
  way := by
    rw [hhere]
    exact h.way.of_agree hclosed hnode (hsound.liesIn_eq_false
      (fun root hroot => (hclosed root hroot).isDirectoryAt) (hsound.isDirectoryAt_start p))
  closed := hdraft

end Layout

/-! ## Saves -/

/-- What a save that succeeds leaves: a file with the new content at `c`, nothing at `d`, and all
else as it was. -/
structure Replaced (fs fs' : FileSystem) (c d : Location) (j : Nat) (bytes : List UInt8) :
    Prop where
  cursor : fs'.node? c = some (.file j)
  draft : fs'.node? d = none
  node : ∀ loc, liesIn [c, d] loc = false → fs'.node? loc = fs.node? loc
  workingDirectory : fs'.workingDirectory = fs.workingDirectory
  written : fs'.bytes? j = some bytes

theorem drafted_of_write (h : fs.Sound) (hdraft : PlainDraft fs p)
    (hwrite : fs.write (draft p) bytes = .ok fs') : ∃ front dir last j,
      Layout fs p front dir last ∧ Drafted fs fs' (dir ++ [last ++ ".tmp"]) j bytes ∧
        (p.steps = front ++ [.name last] ∨ p.steps = front ++ [.stay] ∨
          p.steps = front ++ [.up] ∨ p.text = "") := by
  obtain ⟨front, last, hsteps, hp⟩ := steps_draft p
  -- a write that succeeds finds a file or a free name
  have hresolve : ∃ target, fs.resolve true (draft p) = .ok target ∧
      ∀ loc node, target = .found loc node → ∃ inode, node = .file inode := by
    unfold FileSystem.write openForWriting at hwrite
    cases hresolve : fs.resolve true (draft p) with
    | error e => simp [hresolve, bind, Except.bind] at hwrite
    | ok target =>
        refine ⟨target, rfl, ?_⟩
        rintro loc node rfl
        cases node with
        | file inode => exact ⟨inode, rfl⟩
        | directory inode => simp [hresolve, bind, Except.bind] at hwrite
        | link there => simp [hresolve, bind, Except.bind] at hwrite
  obtain ⟨target, hresolve, htarget⟩ := hresolve
  obtain ⟨dir, hlayout⟩ := layout_of_resolve h hdraft hsteps hresolve htarget
  refine ⟨front, dir, last, ?_⟩
  cases hnode : fs.node? (dir ++ [last ++ ".tmp"]) with
  | none =>
      obtain ⟨fs'', hwrite', hdrafted⟩ :=
        drafted_new (hlayout.resolve_draft true) (by simp) hnode bytes
      rw [hwrite] at hwrite'
      cases hwrite'
      exact ⟨_, hlayout, hdrafted, hp⟩
  | some node =>
      obtain ⟨j, rfl⟩ := hlayout.closed node hnode
      obtain ⟨old, hold⟩ := h.numbered hnode
      obtain ⟨fs'', hwrite', hdrafted⟩ :=
        drafted_old (hlayout.resolve_draft true) hnode hold bytes
      rw [hwrite] at hwrite'
      cases hwrite'
      exact ⟨_, hlayout, hdrafted, hp⟩

theorem Drafted.closed {d : Location} (h : Drafted fs fs' d j bytes) : fs'.Closed d := by
  intro node hnode
  rw [h.draft] at hnode
  cases hnode
  exact ⟨j, rfl⟩

theorem Drafted.node_of_liesIn {d : Location} (h : Drafted fs fs' d j bytes) (loc : Location)
    (hloc : liesIn [d] loc = false) : fs'.node? loc = fs.node? loc := by
  refine h.node loc ?_
  rintro rfl
  exact liesIn_eq_false_iff.mp hloc loc (by simp) List.prefix_rfl

/-- A written draft leaves the layout as it is. -/
theorem Layout.drafted (h : Layout fs p front dir last) (hsound : fs.Sound)
    (hdrafted : Drafted fs fs' (dir ++ [last ++ ".tmp"]) j bytes) :
    Layout fs' p front dir last :=
  h.of_agree hsound (by simpa using h.closed) hdrafted.node_of_liesIn hdrafted.workingDirectory
    hdrafted.closed

/-- The draft does not lie below the cursor file. -/
theorem not_prefix_draft : ¬ dir ++ [last] <+: dir ++ [last ++ ".tmp"] := by
  rw [List.prefix_append_right_inj, List.singleton_prefix_cons_iff]
  intro heq
  simpa using congrArg String.length heq

theorem ne_draft : dir ++ [last] ≠ dir ++ [last ++ ".tmp"] := by
  intro heq
  have hpre : dir ++ [last] <+: dir ++ [last ++ ".tmp"] := by rw [heq]
  exact not_prefix_draft hpre

/-- A written draft takes over the name of the cursor file from anything but a directory. -/
theorem Layout.rename_draft (h : Layout fs p front dir last) (hp : p.steps = front ++ [.name last])
    (hdraft : fs.node? (dir ++ [last ++ ".tmp"]) = some (.file j)) :
    fs.rename (draft p) p =
      if fs.isDirectoryAt (dir ++ [last]) then .error .isDirectory
      else .ok (fs.move (dir ++ [last ++ ".tmp"]) (dir ++ [last])) := by
  have hfrom := congrArg List.getLast? h.steps
  have hto := congrArg List.getLast? hp
  rw [List.getLast?_concat] at hfrom hto
  rw [rename_file hfrom hto hdraft ne_draft (h.resolve_draft false)
    (h.resolve_cursor hp fun hfalse => by cases hfalse), isDirectoryAt]
  cases fs.node? (dir ++ [last]) with
  | none => rfl
  | some node => cases node <;> rfl

/-- A written draft that is moved replaces the cursor file. -/
theorem Drafted.replaced (hsound : fs.Sound)
    (h : Drafted fs fs' (dir ++ [last ++ ".tmp"]) j bytes)
    (hdraft : fs.isDirectoryAt (dir ++ [last ++ ".tmp"]) = false)
    (hcursor : fs.isDirectoryAt (dir ++ [last]) = false) :
    Replaced fs (fs'.move (dir ++ [last ++ ".tmp"]) (dir ++ [last])) (dir ++ [last])
      (dir ++ [last ++ ".tmp"]) j bytes := by
  have hsource : ¬ dir ++ [last ++ ".tmp"] <+: fs'.workingDirectory := by
    rw [h.workingDirectory]
    exact hsound.not_prefix_here hdraft
  have hdest : ¬ dir ++ [last] <+: fs'.workingDirectory := by
    rw [h.workingDirectory]
    exact hsound.not_prefix_here hcursor
  constructor
  case cursor => rw [node?_move_dest hdest (by simp) not_prefix_draft, h.draft]
  case draft => exact node?_move_source (by simp) List.prefix_rfl not_prefix_draft
  case node =>
    intro loc hloc
    obtain ⟨hc, hd⟩ := liesIn_pair_eq_false.mp hloc
    rw [node?_move hdest hd hc, h.node loc fun heq => hd (heq ▸ List.prefix_rfl)]
  case workingDirectory => rw [workingDirectory_move hsource hdest, h.workingDirectory]
  case written => exact h.written

namespace Replaced

variable {c d : Location} (h : Replaced fs fs' c d j bytes)

include h

theorem node_erase (hc : c ≠ []) (loc : Location) (hloc : liesIn [c, d] loc = false) :
    fs'.node? loc = (fs.erase c).node? loc := by
  rw [h.node loc hloc, node?_erase_of_liesIn hc (by simp) hloc]

theorem closed (root : Location) (hroot : root ∈ [c, d]) : fs'.Closed root := by
  simp only [List.mem_cons, List.not_mem_nil, or_false] at hroot
  intro node hnode
  rcases hroot with rfl | rfl
  · rw [h.cursor] at hnode
    exact ⟨j, (Option.some.inj hnode).symm⟩
  · rw [h.draft] at hnode
    cases hnode

/-- A way to a directory is there after a save if it is there without the cursor file. -/
theorem way_iff (hsound : fs.Sound) (hc : fs.isDirectoryAt c = false) (hd : fs.Closed d) :
    fs'.Way (start fs.workingDirectory p) front dir ↔
      (fs.erase c).Way (start fs.workingDirectory p) front dir := by
  have hroot : c ≠ [] := by
    rintro rfl
    cases hc
  have hfrom : liesIn [c, d] (start fs.workingDirectory p) = false := by
    refine hsound.liesIn_eq_false ?_ (hsound.isDirectoryAt_start p)
    simpa using ⟨hc, hd.isDirectoryAt⟩
  have hclosed : ∀ root ∈ [c, d], (fs.erase c).Closed root := by
    intro root hroot' node hnode
    rw [node?_erase hroot] at hnode
    split at hnode
    · cases hnode
    next hother =>
      simp only [List.mem_cons, List.not_mem_nil, or_false, hother, false_or] at hroot'
      exact hd node (hroot' ▸ hnode)
  constructor
  · intro hway
    exact hway.of_agree h.closed (fun loc hloc => (h.node_erase hroot loc hloc).symm) hfrom
  · intro hway
    exact hway.of_agree hclosed (h.node_erase hroot) hfrom

end Replaced

/-- A save leaves a sound file system, whatever becomes of it. -/
theorem sound_save (h : fs.Sound) (p : Path) (n : Nat) : (save fs p n).2.Sound := by
  unfold save
  split
  · exact h
  next drafted hwrite =>
    split
    · exact h.write hwrite
    next moved hrename => exact (h.write hwrite).rename hrename

/-- A save fails and leaves the files as they are, fails where the cursor file is a directory or has
no name, or replaces the cursor file. -/
theorem save_cases (h : fs.Sound) (hdraft : PlainDraft fs p) (n : Nat) :
    save fs p n = (.error (.writing (draft p)), fs) ∨
      (∃ fs', save fs p n = (.error (.moving p), fs') ∧
        PlainDraft fs' p ∧ (p.text = "" ∨ AtDirectory fs p ∧ AtDirectory fs' p)) ∨
      ∃ front dir last j fs', save fs p n = (.ok (), fs') ∧ Layout fs p front dir last ∧
        p.steps = front ++ [.name last] ∧ fs.isDirectoryAt (dir ++ [last]) = false ∧
        Replaced fs fs' (dir ++ [last]) (dir ++ [last ++ ".tmp"]) j
          (Text.Utf8.encode (Text.Decimal.print n)) := by
  unfold save
  cases hwrite : fs.write (draft p) (Text.Utf8.encode (Text.Decimal.print n)) with
  | error e => exact .inl rfl
  | ok fs₁ =>
      right
      dsimp only
      obtain ⟨front, dir, last, j, hlayout, hdrafted, hp⟩ := drafted_of_write h hdraft hwrite
      have hlayout₁ := hlayout.drafted h hdrafted
      have hsound₁ := h.write hwrite
      have hdraft₁ : PlainDraft fs₁ p := by
        intro at_ there hlink
        simp [hlayout₁.resolve_draft false, targetAt, hdrafted.draft] at hlink
      rcases hp with hp | hp
      · rw [hlayout₁.rename_draft hp hdrafted.draft]
        have hkept : fs₁.isDirectoryAt (dir ++ [last]) = fs.isDirectoryAt (dir ++ [last]) := by
          rw [isDirectoryAt, isDirectoryAt, hdrafted.node _ ne_draft]
        cases hdir : fs.isDirectoryAt (dir ++ [last]) with
        | true =>
            left
            rw [if_pos (hkept.trans hdir)]
            exact ⟨fs₁, rfl, hdraft₁, .inr ⟨hlayout.atDirectory_of_name hp hdir,
              hlayout₁.atDirectory_of_name hp (hkept.trans hdir)⟩⟩
        | false =>
            right
            rw [if_neg (by simp [hkept, hdir])]
            exact ⟨front, dir, last, j, _, rfl, hlayout, hp, hdir,
              hdrafted.replaced h hlayout.closed.isDirectoryAt hdir⟩
      · left
        cases hrename : fs₁.rename (draft p) p with
        | ok fs' =>
            -- a draft cannot be moved to a path that does not end with a name
            have hfrom := congrArg List.getLast? hlayout.steps
            rw [List.getLast?_concat] at hfrom
            obtain ⟨t, ht⟩ := name_of_rename_file hfrom hdrafted.draft
              (hlayout₁.resolve_draft false) hrename
            rcases hp with hp | hp | htext
            · simp [hp] at ht
            · simp [hp] at ht
            · simp [Path.steps, Path.segments, htext] at ht
        | error e =>
            refine ⟨fs₁, rfl, hdraft₁, ?_⟩
            rcases hp with hp | hp | htext
            · exact .inr ⟨hlayout.atDirectory_of_no_name h (.inl hp),
                hlayout₁.atDirectory_of_no_name hsound₁ (.inl hp)⟩
            · exact .inr ⟨hlayout.atDirectory_of_no_name h (.inr hp),
                hlayout₁.atDirectory_of_no_name hsound₁ (.inr hp)⟩
            · exact .inl htext

end DebugDashboard.CursorFile
