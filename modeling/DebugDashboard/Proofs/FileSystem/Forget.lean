import DebugDashboard.Proofs.FileSystem.Sound

/-!
# Lost names

When a directory is taken away or moved over, what lies on the way to the working directory only
loses its name. What then stands without a name are directories that the process came through, so
the file system stays sound. What is moved stands below its new name as it stood below the old one.
-/

namespace DebugDashboard.FileSystem

variable {fs fs' : FileSystem} {at_ loc above base : Location} {node : Node} {s : String}
  {gone : Location → Bool}

/-! ## Places without a name -/

/-- The place of what loses its name, some steps below a directory that keeps its own. -/
def nameless (base : Location) (count : Nat) : Location := base ++ List.replicate count noName

/-- What is left of an entry when the locations that are `gone` lose their names. -/
def forgotten? (fs : FileSystem) (gone : Location → Bool) (base : Location) (e : Location × Node) :
    Option (Location × Node) :=
  if !gone e.1 then some e
  else if e.1.isPrefixOf fs.workingDirectory then
    some (nameless base (e.1.length - base.length), e.2)
  else none

theorem entries_forget (fs : FileSystem) (gone : Location → Bool) (base : Location) :
    (fs.forget gone base).entries = fs.entries.filterMap (fs.forgotten? gone base) := rfl

theorem workingDirectory_forget (fs : FileSystem) (gone : Location → Bool) (base : Location) :
    (fs.forget gone base).workingDirectory =
      if gone fs.workingDirectory then
        nameless base (fs.workingDirectory.length - base.length)
      else fs.workingDirectory := rfl

theorem forgotten?_kept {e : Location × Node} (h : gone e.1 = false) :
    fs.forgotten? gone base e = some e := by
  simp [forgotten?, h]

theorem forgotten?_gone {e : Location × Node} (h : gone e.1 = true) :
    fs.forgotten? gone base e =
      if e.1.isPrefixOf fs.workingDirectory then
        some (nameless base (e.1.length - base.length), e.2)
      else none := by
  simp [forgotten?, h]

/-- What stands somewhere afterwards stood there before, or has lost its name. -/
theorem lookup_forgotten_cases {entries : List (Location × Node)}
    (h : (entries.filterMap (fs.forgotten? gone base)).lookup loc = some node) :
    gone loc = false ∧ entries.lookup loc = some node ∨
      ∃ above, gone above = true ∧ above <+: fs.workingDirectory ∧
        loc = nameless base (above.length - base.length) ∧ entries.lookup above = some node := by
  induction entries with
  | nil => cases h
  | cons e rest ih =>
      obtain ⟨l, n⟩ := e
      -- behind an entry that is not meant, the rest is looked at
      have hrest : (rest.filterMap (fs.forgotten? gone base)).lookup loc = some node →
          (gone l = true ∨ loc ≠ l) →
          (gone l = false ∨ ¬ l <+: fs.workingDirectory ∨
            loc ≠ nameless base (l.length - base.length)) →
          gone loc = false ∧ ((l, n) :: rest).lookup loc = some node ∨
            ∃ above, gone above = true ∧ above <+: fs.workingDirectory ∧
              loc = nameless base (above.length - base.length) ∧
              ((l, n) :: rest).lookup above = some node := by
        intro hlater hkept hgone
        rcases ih hlater with ⟨hloc, hthere⟩ | ⟨above, habove, hpre, heq, hthere⟩
        · have hne : loc ≠ l := by
            rintro rfl
            rcases hkept with hkept | hkept
            · rw [hloc] at hkept
              cases hkept
            · exact hkept rfl
          exact .inl ⟨hloc, by rw [List.lookup_cons, beq_false_of_ne hne, hthere]⟩
        · have hne : above ≠ l := by
            rintro rfl
            rcases hgone with hgone | hgone | hgone
            · rw [habove] at hgone
              cases hgone
            · exact hgone hpre
            · exact hgone heq
          refine .inr ⟨above, habove, hpre, heq, ?_⟩
          rw [List.lookup_cons, beq_false_of_ne hne, hthere]
      rw [List.filterMap_cons] at h
      cases hl : gone l with
      | false =>
          rw [forgotten?_kept hl] at h
          by_cases hsame : loc = l
          · subst hsame
            rw [List.lookup_cons_self] at h
            exact .inl ⟨hl, by rw [List.lookup_cons_self, h]⟩
          · rw [List.lookup_cons, beq_false_of_ne hsame] at h
            exact hrest h (.inr hsame) (.inl hl)
      | true =>
          rw [forgotten?_gone hl] at h
          by_cases hpre : l <+: fs.workingDirectory
          · rw [if_pos (List.isPrefixOf_iff_prefix.mpr hpre)] at h
            by_cases hsame : loc = nameless base (l.length - base.length)
            · simp only [hsame, List.lookup_cons_self] at h
              exact .inr ⟨l, hl, hpre, hsame, by rw [List.lookup_cons_self, h]⟩
            · simp only [List.lookup_cons, beq_false_of_ne hsame] at h
              exact hrest h (.inl hl) (.inr (.inr hsame))
          · rw [if_neg (fun hpos => hpre (List.isPrefixOf_iff_prefix.mp hpos))] at h
            exact hrest h (.inl hl) (.inr (.inl hpre))

theorem exists_lookup_of_mem {entries : List (Location × Node)} (h : (loc, node) ∈ entries) :
    ∃ node, entries.lookup loc = some node := by
  cases hnone : entries.lookup loc with
  | some node => exact ⟨node, rfl⟩
  | none =>
      have hne := List.lookup_eq_none_iff.mp hnone _ h
      simp at hne

/-- What goes takes along what lies below it, and the highest that go are in one directory, which
stays. -/
structure Lost (gone : Location → Bool) (base : Location) : Prop where
  below {l : Location} : gone l = true → base <+: l ∧ base ≠ l
  down {l : Location} {s : String} : gone l = true → gone (l ++ [s]) = true
  up {l : Location} {s : String} : gone (l ++ [s]) = true → gone l = true ∨ l = base

theorem Lost.base_stays (h : Lost gone base) : gone base = false := by
  rw [← Bool.not_eq_true]
  intro hgone
  exact (h.below hgone).2 rfl

theorem Lost.nil (h : Lost gone base) : gone [] = false := by
  rw [← Bool.not_eq_true]
  intro hgone
  obtain ⟨hpre, hne⟩ := h.below hgone
  exact hne (List.prefix_nil.mp hpre)

theorem Lost.node?_cases (hlost : Lost gone base)
    (h : (fs.forget gone base).node? loc = some node) :
    gone loc = false ∧ fs.node? loc = some node ∨
      ∃ above, gone above = true ∧ above <+: fs.workingDirectory ∧
        loc = nameless base (above.length - base.length) ∧ fs.node? above = some node := by
  by_cases hloc : loc = []
  · subst hloc
    exact .inl ⟨hlost.nil, h⟩
  · rw [node?_of_ne_nil hloc, entries_forget] at h
    rcases lookup_forgotten_cases h with ⟨hkept, hthere⟩ | ⟨above, habove, hpre, heq, hthere⟩
    · exact .inl ⟨hkept, by rw [node?_of_ne_nil hloc, hthere]⟩
    · have hne : above ≠ [] := by
        rintro rfl
        rw [hlost.nil] at habove
        cases habove
      exact .inr ⟨above, habove, hpre, heq, by rw [node?_of_ne_nil hne, hthere]⟩

/-- What stays has a node afterwards. -/
theorem exists_node?_kept (hkept : gone loc = false) (hthere : fs.node? loc = some node) :
    ∃ node, (fs.forget gone base).node? loc = some node := by
  by_cases hloc : loc = []
  · subst hloc
    exact ⟨_, rfl⟩
  · rw [node?_of_ne_nil hloc] at hthere ⊢
    rw [entries_forget]
    have hleft : fs.forgotten? gone base (loc, node) = some (loc, node) := forgotten?_kept hkept
    exact exists_lookup_of_mem (List.mem_filterMap.mpr ⟨_, mem_of_lookup hthere, hleft⟩)

/-- So has the place of what has only lost its name. -/
theorem Lost.exists_node?_nameless (hlost : Lost gone base) (habove : gone above = true)
    (hpre : above <+: fs.workingDirectory) (hthere : fs.node? above = some node) :
    ∃ node, (fs.forget gone base).node? (nameless base (above.length - base.length)) =
      some node := by
  obtain ⟨⟨below, rfl⟩, hne⟩ := hlost.below habove
  have hcount : (base ++ below).length - base.length = below.length := by simp
  have hbelow : below ≠ [] := by
    rintro rfl
    simp at hne
  have hnameless : nameless base below.length ≠ [] := by
    simp [nameless, hbelow]
  have hroot : base ++ below ≠ [] := by simp [hbelow]
  rw [node?_of_ne_nil hroot] at hthere
  rw [hcount, node?_of_ne_nil hnameless, entries_forget]
  have hleft : fs.forgotten? gone base (base ++ below, node) =
      some (nameless base below.length, node) := by
    rw [forgotten?_gone habove, if_pos (List.isPrefixOf_iff_prefix.mpr hpre), hcount]
  exact exists_lookup_of_mem (List.mem_filterMap.mpr ⟨_, mem_of_lookup hthere, hleft⟩)

theorem nameless_succ (base : Location) (count : Nat) :
    nameless base (count + 1) = nameless base count ++ [noName] := by
  rw [nameless, nameless, List.replicate_succ', List.append_assoc]

/-- The place of what has lost its name is below that of what lay above it. -/
theorem Lost.eq_nameless (hlost : Lost gone base) {up : Location} (hup : gone up = true)
    (heq : above ++ [s] = nameless base (up.length - base.length)) :
    ∃ below x, up = base ++ below ++ [x] ∧ above = nameless base below.length ∧ s = noName := by
  obtain ⟨⟨below, rfl⟩, hne⟩ := hlost.below hup
  rcases List.eq_nil_or_concat below with rfl | ⟨below, x, rfl⟩
  · simp at hne
  · have hcount : (base ++ below.concat x).length - base.length = below.length + 1 := by simp
    rw [hcount, nameless_succ] at heq
    obtain ⟨habove, hlast⟩ := List.append_inj' heq rfl
    cases hlast
    exact ⟨below, x, by simp, habove, rfl⟩

/-- What stands above the working directory are directories. -/
theorem Sound.directory_of_prefix_here (h : fs.Sound) (hpre : above <+: fs.workingDirectory)
    (hthere : fs.node? above = some node) : ∃ i, node = .directory i := by
  obtain ⟨i, hi⟩ := isDirectoryAt_iff.mp (h.isDirectoryAt_above h.here hpre)
  rw [hi] at hthere
  cases hthere
  exact ⟨i, rfl⟩

/-- A directory that is not gone is still there. -/
theorem Sound.isDirectoryAt_forget (h : fs.Sound) (hlost : Lost gone base)
    (hkept : gone loc = false) (hdir : fs.isDirectoryAt loc = true) :
    (fs.forget gone base).isDirectoryAt loc = true := by
  obtain ⟨i, hi⟩ := isDirectoryAt_iff.mp hdir
  obtain ⟨node, hnode⟩ : ∃ node, (fs.forget gone base).node? loc = some node :=
    exists_node?_kept hkept hi
  rcases hlost.node?_cases hnode with ⟨-, hthere⟩ | ⟨above, -, hpre, -, hthere⟩
  · rw [hi] at hthere
    cases hthere
    exact isDirectoryAt_iff.mpr ⟨i, hnode⟩
  · obtain ⟨j, rfl⟩ := h.directory_of_prefix_here hpre hthere
    exact isDirectoryAt_iff.mpr ⟨j, hnode⟩

/-- The place of a directory that has lost its name is that of a directory. -/
theorem Sound.isDirectoryAt_nameless (h : fs.Sound) (hlost : Lost gone base)
    (habove : gone above = true) (hpre : above <+: fs.workingDirectory) :
    (fs.forget gone base).isDirectoryAt (nameless base (above.length - base.length)) = true := by
  obtain ⟨j, hj⟩ := isDirectoryAt_iff.mp (h.isDirectoryAt_above h.here hpre)
  obtain ⟨node, hnode⟩ := hlost.exists_node?_nameless habove hpre hj
  rcases hlost.node?_cases hnode with ⟨-, hthere⟩ | ⟨other, -, hother, -, hthere⟩
  · -- something without a name stood there before
    have hcount : above.length - base.length ≠ 0 := by
      intro hzero
      obtain ⟨hbelow, hne⟩ := hlost.below habove
      have hlength := hbelow.length_le
      exact hne (hbelow.eq_of_length (by omega))
    obtain ⟨count, hsucc⟩ := Nat.exists_eq_succ_of_ne_zero hcount
    rw [hsucc, nameless_succ] at hthere hnode ⊢
    obtain ⟨i, rfl⟩ := h.unnamed hthere
    exact isDirectoryAt_iff.mpr ⟨i, hnode⟩
  · obtain ⟨i, rfl⟩ := h.directory_of_prefix_here hother hthere
    exact isDirectoryAt_iff.mpr ⟨i, hnode⟩

/-- Names can be taken from what lies below a directory. -/
theorem Sound.forget (h : fs.Sound) (hlost : Lost gone base) : (fs.forget gone base).Sound := by
  constructor
  case placed =>
    intro above s node hnode
    rcases hlost.node?_cases hnode with ⟨hloc, hthere⟩ | ⟨up, hgoneUp, hpre, heq, hthere⟩
    · refine h.isDirectoryAt_forget hlost ?_ (h.placed hthere)
      rw [← Bool.not_eq_true]
      intro habove
      rw [hlost.down habove] at hloc
      cases hloc
    · obtain ⟨below, x, rfl, rfl, -⟩ := hlost.eq_nameless hgoneUp heq
      by_cases hbelow : below = []
      · subst hbelow
        refine h.isDirectoryAt_forget hlost ?_ ?_
        · simpa [nameless] using hlost.base_stays
        · refine h.isDirectoryAt_above h.here (List.IsPrefix.trans ?_ hpre)
          simp [nameless]
      · have hgone' : gone (base ++ below) = true := by
          rcases hlost.up hgoneUp with hgone' | heq'
          · exact hgone'
          · simp [hbelow] at heq'
        have hdir := h.isDirectoryAt_nameless hlost hgone' ((List.prefix_append _ [x]).trans hpre)
        simpa using hdir
  case here =>
    rw [workingDirectory_forget]
    split
    next hwd => exact h.isDirectoryAt_nameless hlost hwd List.prefix_rfl
    next hwd => exact h.isDirectoryAt_forget hlost (Bool.not_eq_true _ ▸ hwd) h.here
  case emptied =>
    intro above s hremoved hs
    cases hnode : (fs.forget gone base).node? (above ++ [s]) with
    | none => rfl
    | some node =>
        rcases hlost.node?_cases hnode with ⟨hloc, hthere⟩ | ⟨up, hgoneUp, hpre, heq, hthere⟩
        · rw [h.emptied hremoved hs] at hthere
          cases hthere
        · obtain ⟨below, x, rfl, -, rfl⟩ := hlost.eq_nameless hgoneUp heq
          exact absurd rfl hs
  case unnamed =>
    intro above node hnode
    rcases hlost.node?_cases hnode with ⟨hloc, hthere⟩ | ⟨up, hgoneUp, hpre, heq, hthere⟩
    · exact h.unnamed hthere
    · exact h.directory_of_prefix_here hpre hthere
  case numbered =>
    intro at_ inode hnode
    rcases hlost.node?_cases hnode with ⟨hloc, hthere⟩ | ⟨up, hgoneUp, hpre, heq, hthere⟩
    · exact h.numbered hthere
    · obtain ⟨j, hj⟩ := h.directory_of_prefix_here hpre hthere
      cases hj

/-! ## Directories that are taken away -/

theorem lost_isPrefixOf {root : Location} (hroot : root ≠ []) :
    Lost root.isPrefixOf root.dropLast where
  below {l} hl := by
    have hpre := List.isPrefixOf_iff_prefix.mp hl
    refine ⟨(List.dropLast_prefix root).trans hpre, ?_⟩
    rintro rfl
    have hlength := hpre.length_le
    have hpos := List.length_pos_iff.mpr hroot
    rw [List.length_dropLast] at hlength
    omega
  down {l s} hl := by
    rw [List.isPrefixOf_iff_prefix] at hl ⊢
    exact hl.trans (List.prefix_append l [s])
  up {l s} hl := by
    rw [List.isPrefixOf_iff_prefix] at hl ⊢
    rcases List.prefix_concat_iff.mp hl with rfl | hpre
    · exact .inr (by simp)
    · exact .inl hpre

theorem lost_below (root : Location) : Lost (fun l => root.isPrefixOf l && l ≠ root) root where
  below {l} hl := by
    simp only [Bool.and_eq_true, List.isPrefixOf_iff_prefix, decide_eq_true_eq] at hl
    exact ⟨hl.1, hl.2.symm⟩
  down {l s} hl := by
    simp only [Bool.and_eq_true, List.isPrefixOf_iff_prefix, decide_eq_true_eq] at hl ⊢
    refine ⟨hl.1.trans (List.prefix_append l [s]), ?_⟩
    rintro rfl
    have hlength := hl.1.length_le
    rw [List.length_append, List.length_singleton] at hlength
    omega
  up {l s} hl := by
    simp only [Bool.and_eq_true, List.isPrefixOf_iff_prefix, decide_eq_true_eq] at hl ⊢
    by_cases hsame : l = root
    · exact .inr hsame
    · rcases List.prefix_concat_iff.mp hl.1 with heq | hpre
      · exact absurd heq.symm hl.2
      · exact .inl ⟨hpre, hsame⟩

theorem Sound.eraseTree (h : fs.Sound) (hroot : at_ ≠ []) : (fs.eraseTree at_).Sound :=
  h.forget (lost_isPrefixOf hroot)

theorem Sound.eraseBelow (h : fs.Sound) (at_ : Location) : (fs.eraseBelow at_).Sound :=
  h.forget (lost_below at_)

/-! ## Moves -/

section Move

variable {source : Location}

/-- Where something is moved to, nothing is left of what stood there. -/
theorem not_prefix_eraseTree (hs : s ≠ noName) :
    ∀ e ∈ (fs.eraseTree (above ++ [s])).entries, ¬ above ++ [s] <+: e.1 := by
  intro e he
  rw [FileSystem.eraseTree, entries_forget] at he
  obtain ⟨⟨l, n⟩, -, hkept⟩ := List.mem_filterMap.mp he
  cases hl : (above ++ [s]).isPrefixOf l with
  | false =>
      rw [forgotten?_kept hl] at hkept
      cases hkept
      exact isPrefixOf_eq_false_iff.mp hl
  | true =>
      rw [forgotten?_gone hl] at hkept
      split at hkept
      · cases hkept
        obtain ⟨below, rfl⟩ := List.isPrefixOf_iff_prefix.mp hl
        intro hpre
        simp [nameless, List.replicate_succ, hs] at hpre
      · cases hkept

theorem node?_move_cases (hs : s ≠ noName) (hroot : source ≠ [])
    (h : (fs.move source (above ++ [s])).node? loc = some node) :
    (∃ below, loc = above ++ [s] ++ below ∧
        (fs.eraseTree (above ++ [s])).node? (source ++ below) = some node) ∨
      ¬ above ++ [s] <+: loc ∧ ¬ source <+: loc ∧
        (fs.eraseTree (above ++ [s])).node? loc = some node := by
  by_cases hdest : above ++ [s] <+: loc
  · obtain ⟨below, rfl⟩ := hdest
    rw [node?_move_below (not_prefix_eraseTree hs) (by simp) hroot] at h
    exact .inl ⟨below, rfl, h⟩
  · by_cases hsource : source <+: loc
    · rw [node?_move_source hroot hsource hdest] at h
      cases h
    · rw [node?_move_off hsource hdest] at h
      exact .inr ⟨hdest, hsource, h⟩

/-- What stands somewhere after a move is what was moved, lies below it, or stood there before. -/
theorem node?_move_name_cases {up : Location} {t : String} (hs : s ≠ noName) (hroot : source ≠ [])
    (h : (fs.move source (above ++ [s])).node? (up ++ [t]) = some node) :
    up = above ∧ t = s ∨
      (∃ below, up = above ++ [s] ++ below ∧
        (fs.eraseTree (above ++ [s])).node? (source ++ below ++ [t]) = some node) ∨
      ¬ above ++ [s] <+: up ∧ ¬ source <+: up ∧
        (fs.eraseTree (above ++ [s])).node? (up ++ [t]) = some node := by
  rcases node?_move_cases hs hroot h with ⟨below, heq, hthere⟩ | ⟨hdest, hfrom, hthere⟩
  · rcases List.eq_nil_or_concat below with rfl | ⟨below, x, rfl⟩
    · rw [List.append_nil] at heq
      obtain ⟨rfl, hlast⟩ := List.append_inj' heq rfl
      exact .inl ⟨rfl, List.singleton_inj.mp hlast⟩
    · rw [List.concat_eq_append, ← List.append_assoc] at heq hthere
      obtain ⟨rfl, hlast⟩ := List.append_inj' heq rfl
      cases hlast
      exact .inr (.inl ⟨below, rfl, hthere⟩)
  · refine .inr (.inr ⟨?_, ?_, hthere⟩)
    · exact fun hpre => hdest (hpre.trans (List.prefix_append up [t]))
    · exact fun hpre => hfrom (hpre.trans (List.prefix_append up [t]))

/-- Nothing stands where something is moved to once that place is cleared. -/
theorem isDirectoryAt_eraseTree (hs : s ≠ noName) :
    (fs.eraseTree (above ++ [s])).isDirectoryAt (above ++ [s]) = false := by
  have hnone : (fs.eraseTree (above ++ [s])).entries.lookup (above ++ [s]) = none := by
    rw [List.lookup_eq_none_iff]
    intro e he
    rw [bne_iff_ne]
    intro heq
    have hpre : above ++ [s] <+: e.1 := by rw [← heq]
    exact not_prefix_eraseTree hs e he hpre
  rw [isDirectoryAt, node?_of_ne_nil (by simp), hnone]

theorem isRemoved_append {front back : Location} :
    isRemoved (front ++ back) = (isRemoved front || isRemoved back) := by
  simp [isRemoved]

/-- What was a directory below the one that is moved is one below its new name. -/
theorem isDirectoryAt_move_below {below : Location} (hs : s ≠ noName) (hroot : source ≠ [])
    (hthere : (fs.eraseTree (above ++ [s])).isDirectoryAt (source ++ below) = true) :
    (fs.move source (above ++ [s])).isDirectoryAt (above ++ [s] ++ below) = true := by
  rwa [isDirectoryAt, node?_move_below (not_prefix_eraseTree hs) (by simp) hroot]

/-- Elsewhere directories stay. -/
theorem isDirectoryAt_move_off (hdest : ¬ above ++ [s] <+: loc) (hfrom : ¬ source <+: loc)
    (hthere : (fs.eraseTree (above ++ [s])).isDirectoryAt loc = true) :
    (fs.move source (above ++ [s])).isDirectoryAt loc = true := by
  rwa [isDirectoryAt, node?_move_off hfrom hdest]

/-- The directory that something is moved to is neither taken away nor moved itself. -/
theorem Sound.isDirectoryAt_move (h : fs.Sound) (habove : fs.isDirectoryAt above = true)
    (hsource : ¬ source <+: above ++ [s]) :
    (fs.move source (above ++ [s])).isDirectoryAt above = true := by
  have hself : ¬ above ++ [s] <+: above := by
    intro hpre
    have hlength := hpre.length_le
    rw [List.length_append, List.length_singleton] at hlength
    omega
  have hfrom : ¬ source <+: above := fun hpre => hsource (hpre.trans (List.prefix_append above [s]))
  exact isDirectoryAt_move_off hself hfrom
    (h.isDirectoryAt_forget (lost_isPrefixOf (by simp)) (isPrefixOf_eq_false_iff.mpr hself) habove)

/-- What is moved to a name in a directory is in it. -/
theorem Sound.move (h : fs.Sound) (hs : s ≠ noName) (habove : fs.isDirectoryAt above = true)
    (hlive : isRemoved above = false) (hroot : source ≠ []) (hsource : ¬ source <+: above ++ [s]) :
    (fs.move source (above ++ [s])).Sound := by
  have hleft : (fs.eraseTree (above ++ [s])).Sound := h.eraseTree (by simp)
  constructor
  case placed =>
    intro up t node hnode
    rcases node?_move_name_cases hs hroot hnode with
      ⟨rfl, -⟩ | ⟨below, rfl, hthere⟩ | ⟨hdest, hfrom, hthere⟩
    · exact h.isDirectoryAt_move habove hsource
    · exact isDirectoryAt_move_below hs hroot (hleft.placed hthere)
    · exact isDirectoryAt_move_off hdest hfrom (hleft.placed hthere)
  case here =>
    have hhere : (fs.move source (above ++ [s])).workingDirectory =
        rebase source (above ++ [s]) (fs.eraseTree (above ++ [s])).workingDirectory := rfl
    rw [hhere]
    by_cases hpre : source <+: (fs.eraseTree (above ++ [s])).workingDirectory
    · rw [rebase_of_below hpre]
      refine isDirectoryAt_move_below hs hroot ?_
      rw [List.prefix_iff_eq_append.mp hpre]
      exact hleft.here
    · rw [rebase_of_not_below hpre]
      exact isDirectoryAt_move_off (hleft.not_prefix_here (isDirectoryAt_eraseTree hs)) hpre
        hleft.here
  case emptied =>
    intro up t hremoved ht
    cases hnode : (fs.move source (above ++ [s])).node? (up ++ [t]) with
    | none => rfl
    | some node =>
        rcases node?_move_name_cases hs hroot hnode with
          ⟨rfl, -⟩ | ⟨below, rfl, hthere⟩ | ⟨-, -, hthere⟩
        · rw [hlive] at hremoved
          cases hremoved
        · have hbelow' : isRemoved (source ++ below) = true := by
            have hname : isRemoved [s] = false := by
              simpa [isRemoved] using hs.symm
            rw [isRemoved_append, isRemoved_append, hlive, hname] at hremoved
            rw [isRemoved_append]
            simpa using .inr hremoved
          rw [hleft.emptied hbelow' ht] at hthere
          cases hthere
        · rw [hleft.emptied hremoved ht] at hthere
          cases hthere
  case unnamed =>
    intro up node hnode
    rcases node?_move_name_cases hs hroot hnode with
      ⟨-, hlast⟩ | ⟨below, -, hthere⟩ | ⟨-, -, hthere⟩
    · exact absurd hlast.symm hs
    · exact hleft.unnamed hthere
    · exact hleft.unnamed hthere
  case numbered =>
    intro at_ inode hnode
    rcases node?_move_cases hs hroot hnode with ⟨below, -, hthere⟩ | ⟨-, -, hthere⟩
    · exact hleft.numbered hthere
    · exact hleft.numbered hthere

end Move

end DebugDashboard.FileSystem
