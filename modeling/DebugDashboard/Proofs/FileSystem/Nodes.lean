import DebugDashboard.Proofs.FileSystem.Walk
import Mathlib.Data.List.Infix

/-!
# What stands where

The nodes and contents that the changes of a file system leave. Taking away what stands at or
below some locations gives the part of a file system that does not depend on them.
-/

namespace DebugDashboard.FileSystem

variable {fs : FileSystem} {at_ loc source dest : Location} {node : Node} {inode : Nat}
  {bytes content : List UInt8}

/-! ## Nodes -/

/-- Whether a location is one of `roots` or lies below one. -/
def liesIn (roots : List Location) (loc : Location) : Bool :=
  roots.any fun root => root.isPrefixOf loc

/-- The file system without what stands at or below some locations. -/
def without (fs : FileSystem) (roots : List Location) : FileSystem :=
  { fs with entries := fs.entries.filter fun e => !liesIn roots e.1 }

theorem liesIn_pair {loc a b : Location} : liesIn [a, b] loc = true ↔ a <+: loc ∨ b <+: loc := by
  simp [liesIn]

theorem lookup_filter (keep : Location → Bool) (entries : List (Location × Node)) (loc : Location) :
    (entries.filter fun e => keep e.1).lookup loc =
      if keep loc then entries.lookup loc else none := by
  induction entries with
  | nil => simp
  | cons e rest ih =>
      obtain ⟨l, n⟩ := e
      by_cases hl : loc = l
      · subst hl
        cases hkeep : keep loc with
        | false => simpa [List.filter_cons, hkeep] using ih
        | true => simp [hkeep]
      · cases hkeep : keep l with
        | false => simpa [List.filter_cons, hkeep, List.lookup_cons, beq_false_of_ne hl] using ih
        | true => simpa [List.filter_cons, hkeep, List.lookup_cons, beq_false_of_ne hl] using ih

theorem mem_of_lookup {entries : List (Location × Node)} (h : entries.lookup loc = some node) :
    (loc, node) ∈ entries := by
  obtain ⟨before, after, hsplit, -⟩ := List.lookup_eq_some_iff.mp h
  simp [hsplit]

theorem node?_of_ne_nil (hloc : loc ≠ []) : fs.node? loc = fs.entries.lookup loc := by
  simp [node?, hloc]

theorem node?_without (fs : FileSystem) (roots : List Location) (loc : Location) :
    (fs.without roots).node? loc =
      if loc ≠ [] ∧ liesIn roots loc = true then none else fs.node? loc := by
  by_cases hloc : loc = []
  · simp [node?, hloc]
  · rw [node?_of_ne_nil hloc, without, lookup_filter fun l => !liesIn roots l]
    cases liesIn roots loc <;> simp [hloc, node?_of_ne_nil]

theorem extends_without (fs : FileSystem) (roots : List Location) :
    fs.Extends (fs.without roots) where
  node {at_ node} h := by
    rw [node?_without] at h
    split at h
    · cases h
    · exact h
  workingDirectory := rfl

/-- File systems that agree off some locations are alike without these. -/
theorem alike_without {fs' : FileSystem} {roots : List Location}
    (hnode : ∀ at_, liesIn roots at_ = false → fs'.node? at_ = fs.node? at_)
    (hhere : fs'.workingDirectory = fs.workingDirectory) :
    (fs'.without roots).Alike (fs.without roots) where
  node at_ := by
    rw [node?_without, node?_without]
    by_cases hroot : at_ = []
    · simp [node?, hroot]
    · cases hin : liesIn roots at_ with
      | false => simp [hnode at_ hin]
      | true => simp [hroot]
  workingDirectory := hhere

theorem lookup_putEntry (entries : List (Location × Node)) (at_ : Location) (node : Node)
    (loc : Location) :
    (putEntry entries at_ node).lookup loc =
      if loc = at_ then some node else entries.lookup loc := by
  induction entries with
  | nil =>
      by_cases hloc : loc = at_
      · simp [putEntry, hloc]
      · simp [putEntry, List.lookup_cons, hloc, beq_false_of_ne hloc]
  | cons e rest ih =>
      obtain ⟨l, n⟩ := e
      by_cases hl : l = at_
      · subst hl
        by_cases hloc : loc = l
        · simp [putEntry, hloc]
        · simp [putEntry, List.lookup_cons, hloc, beq_false_of_ne hloc]
      · by_cases hloc : loc = l
        · subst hloc
          simp [putEntry, hl]
        · simpa [putEntry, hl, List.lookup_cons, beq_false_of_ne hloc] using ih

theorem node?_put (hat : at_ ≠ []) (loc : Location) :
    (fs.put at_ node).node? loc = if loc = at_ then some node else fs.node? loc := by
  by_cases hloc : loc = []
  · simp [node?, hloc, Ne.symm hat]
  · rw [node?_of_ne_nil hloc, node?_of_ne_nil hloc, put, lookup_putEntry]

theorem alike_setContent (fs : FileSystem) (inode : Nat) (bytes : List UInt8) :
    (fs.setContent inode bytes).Alike fs := ⟨fun _ => rfl, rfl⟩

/-! ## Moves -/

theorem isPrefixOf_eq_false_iff {above loc : Location} :
    above.isPrefixOf loc = false ↔ ¬ above <+: loc := by
  rw [← List.isPrefixOf_iff_prefix, Bool.not_eq_true]

theorem entries_eraseTree (hhere : ¬ dest <+: fs.workingDirectory) :
    (fs.eraseTree dest).entries = fs.entries.filter fun e => !dest.isPrefixOf e.1 := by
  simp only [eraseTree, forget]
  rw [← List.filterMap_eq_filter]
  refine List.filterMap_congr fun e _ => ?_
  -- nothing that goes leads to the working directory, so no entry only loses its name
  cases hgone : dest.isPrefixOf e.1 with
  | false => simp [hgone, Option.guard]
  | true =>
      have hnot : e.1.isPrefixOf fs.workingDirectory = false := by
        rw [isPrefixOf_eq_false_iff]
        exact fun hpre => hhere ((List.isPrefixOf_iff_prefix.mp hgone).trans hpre)
      simp [hgone, hnot, Option.guard]

theorem rebase_of_below (hpre : source <+: at_) :
    rebase source dest at_ = dest ++ at_.drop source.length := by
  rw [rebase, if_pos (List.isPrefixOf_iff_prefix.mpr hpre)]

theorem rebase_of_not_below (hpre : ¬ source <+: at_) : rebase source dest at_ = at_ := by
  rw [rebase, if_neg (fun h => hpre (List.isPrefixOf_iff_prefix.mp h))]

theorem lookup_map_rebase (entries : List (Location × Node)) (hsource : ¬ source <+: loc)
    (hdest : ¬ dest <+: loc) :
    (entries.map fun e => (rebase source dest e.1, e.2)).lookup loc = entries.lookup loc := by
  induction entries with
  | nil => rfl
  | cons e rest ih =>
      obtain ⟨l, n⟩ := e
      simp only [List.map_cons, List.lookup_cons, ih]
      by_cases hpre : source <+: l
      · have hmoved : loc ≠ rebase source dest l := by
          rintro rfl
          rw [rebase_of_below hpre] at hdest
          exact hdest (List.prefix_append _ _)
        have hloc : loc ≠ l := by
          rintro rfl
          exact hsource hpre
        rw [beq_false_of_ne hmoved, beq_false_of_ne hloc]
      · rw [rebase_of_not_below hpre]

theorem lookup_map_rebase_dest (entries : List (Location × Node))
    (hfree : ∀ e ∈ entries, ¬ dest <+: e.1) (below : Location) :
    (entries.map fun e => (rebase source dest e.1, e.2)).lookup (dest ++ below) =
      entries.lookup (source ++ below) := by
  induction entries with
  | nil => rfl
  | cons e rest ih =>
      obtain ⟨l, n⟩ := e
      have hrest := ih fun e he => hfree e (List.mem_cons_of_mem _ he)
      have hl : ¬ dest <+: l := hfree _ List.mem_cons_self
      simp only [List.map_cons, List.lookup_cons, hrest]
      by_cases hpre : source <+: l
      · rw [rebase_of_below hpre]
        obtain ⟨others, rfl⟩ := hpre
        rw [List.drop_left]
        -- what lay below `source` lies as far below `dest`
        by_cases hsame : below = others
        · simp [hsame]
        · have hdest : dest ++ below ≠ dest ++ others := by simpa using hsame
          have hsource : source ++ below ≠ source ++ others := by simpa using hsame
          rw [beq_false_of_ne hdest, beq_false_of_ne hsource]
      · rw [rebase_of_not_below hpre]
        have hdest : dest ++ below ≠ l := by
          rintro rfl
          exact hl (List.prefix_append _ _)
        have hsource : source ++ below ≠ l := by
          rintro rfl
          exact hpre (List.prefix_append _ _)
        rw [beq_false_of_ne hdest, beq_false_of_ne hsource]

theorem lookup_map_rebase_source (entries : List (Location × Node)) (hsource : source <+: loc)
    (hdest : ¬ dest <+: loc) :
    (entries.map fun e => (rebase source dest e.1, e.2)).lookup loc = none := by
  rw [List.lookup_eq_none_iff]
  intro e he
  obtain ⟨⟨l, n⟩, -, rfl⟩ := List.mem_map.mp he
  rw [bne_iff_ne]
  by_cases hpre : source <+: l
  · rw [rebase_of_below hpre]
    intro heq
    exact hdest (heq ▸ List.prefix_append _ _)
  · rw [rebase_of_not_below hpre]
    rintro rfl
    exact hpre hsource

/-- Off its two places a move only takes away what stood at the destination. -/
theorem node?_move_off (hsource : ¬ source <+: loc) (hdest : ¬ dest <+: loc) :
    (fs.move source dest).node? loc = (fs.eraseTree dest).node? loc := by
  by_cases hloc : loc = []
  · simp [node?, hloc]
  · rw [node?_of_ne_nil hloc, node?_of_ne_nil hloc, move, lookup_map_rebase _ hsource hdest]

/-- What stands at or below the destination is what stood at or below the source. -/
theorem node?_move_below (hfree : ∀ e ∈ (fs.eraseTree dest).entries, ¬ dest <+: e.1)
    (hdest : dest ≠ []) (hsource : source ≠ []) (below : Location) :
    (fs.move source dest).node? (dest ++ below) = (fs.eraseTree dest).node? (source ++ below) := by
  rw [node?_of_ne_nil (by simp [hdest]), node?_of_ne_nil (by simp [hsource]), move,
    lookup_map_rebase_dest _ hfree]

theorem node?_move_source (hroot : source ≠ []) (hsource : source <+: loc)
    (hdest : ¬ dest <+: loc) : (fs.move source dest).node? loc = none := by
  have hne : loc ≠ [] := by
    rintro rfl
    exact hroot (List.prefix_nil.mp hsource)
  rw [node?_of_ne_nil hne, move, lookup_map_rebase_source _ hsource hdest]

theorem node?_eraseTree (hhere : ¬ dest <+: fs.workingDirectory) (hdest : ¬ dest <+: loc) :
    (fs.eraseTree dest).node? loc = fs.node? loc := by
  by_cases hloc : loc = []
  · simp [node?, hloc]
  · rw [node?_of_ne_nil hloc, node?_of_ne_nil hloc, entries_eraseTree hhere,
      lookup_filter fun l => !dest.isPrefixOf l, isPrefixOf_eq_false_iff.mpr hdest]
    rfl

/-- A move changes nothing off its two places. -/
theorem node?_move (hhere : ¬ dest <+: fs.workingDirectory) (hsource : ¬ source <+: loc)
    (hdest : ¬ dest <+: loc) : (fs.move source dest).node? loc = fs.node? loc := by
  rw [node?_move_off hsource hdest, node?_eraseTree hhere hdest]

theorem node?_move_dest (hhere : ¬ dest <+: fs.workingDirectory) (hroot : source ≠ [])
    (hdest : ¬ dest <+: source) : (fs.move source dest).node? dest = fs.node? source := by
  have hne : dest ≠ [] := by
    rintro rfl
    exact hdest List.nil_prefix
  have hfree : ∀ e ∈ (fs.eraseTree dest).entries, ¬ dest <+: e.1 := by
    intro e he
    rw [entries_eraseTree hhere] at he
    have hkept := (List.mem_filter.mp he).2
    rwa [Bool.not_eq_true', isPrefixOf_eq_false_iff] at hkept
  have hmoved := node?_move_below hfree hne hroot []
  rwa [List.append_nil, List.append_nil, node?_eraseTree hhere hdest] at hmoved

theorem workingDirectory_move (hsource : ¬ source <+: fs.workingDirectory)
    (hdest : ¬ dest <+: fs.workingDirectory) :
    (fs.move source dest).workingDirectory = fs.workingDirectory := by
  have hkept : (fs.eraseTree dest).workingDirectory = fs.workingDirectory := by
    simp only [eraseTree, forget]
    rw [if_neg (fun h => hdest (List.isPrefixOf_iff_prefix.mp h))]
  rw [move, hkept, rebase_of_not_below hsource]

/-! ## Contents -/

/-- The content of an inode, if there is one with this number. -/
def bytes? (fs : FileSystem) (inode : Nat) : Option (List UInt8) :=
  fs.inodes[inode]?.map (·.bytes)

theorem content_eq (h : fs.bytes? inode = some content) : fs.content inode = content := by
  obtain ⟨i, hi, rfl⟩ := Option.map_eq_some_iff.mp h
  simp [FileSystem.content, hi]

theorem content_congr {fs' : FileSystem} (h : fs'.bytes? inode = fs.bytes? inode) :
    fs'.content inode = fs.content inode := by
  cases hbytes : fs.bytes? inode with
  | some content => rw [content_eq hbytes, content_eq (h.trans hbytes)]
  | none =>
      have hnone : ∀ {fs : FileSystem}, fs.bytes? inode = none → fs.inodes[inode]? = none :=
        Option.map_eq_none_iff.mp
      simp [FileSystem.content, hnone hbytes, hnone (h.trans hbytes)]

theorem lt_size (h : fs.bytes? inode = some content) : inode < fs.inodes.size := by
  obtain ⟨i, hi, -⟩ := Option.map_eq_some_iff.mp h
  exact (Array.getElem?_eq_some_iff.mp hi).1

theorem bytes?_setContent_self (h : fs.bytes? inode = some content) :
    (fs.setContent inode bytes).bytes? inode = some bytes := by
  have := lt_size h
  simp [bytes?, setContent, this]

theorem bytes?_setContent_of_ne {other : Nat} (hne : inode ≠ other) :
    (fs.setContent inode bytes).bytes? other = fs.bytes? other := by
  simp [bytes?, setContent, hne]

theorem bytes?_allocate (h : fs.bytes? inode = some content) :
    (fs.allocate bytes).1.bytes? inode = some content := by
  have hlt := lt_size h
  rw [← h]
  simp only [bytes?, allocate, Array.getElem?_push, if_neg (Nat.ne_of_lt hlt)]

theorem bytes?_allocate_new (fs : FileSystem) (bytes : List UInt8) :
    (fs.allocate bytes).1.bytes? (fs.allocate bytes).2 = some bytes := by
  simp [bytes?, allocate]

/-- At a path there is a file with an inode number and a content. -/
structure Shows (fs : FileSystem) (p : Path) (inode : Nat) (content : List UInt8) : Prop where
  find : fs.find p = .ok (.file inode)
  bytes : fs.bytes? inode = some content

theorem Shows.unique {p : Path} {other : Nat} {bytes : List UInt8} (h : fs.Shows p inode content)
    (hother : fs.Shows p other bytes) : inode = other ∧ content = bytes := by
  have hinode := h.find.symm.trans hother.find
  cases hinode
  exact ⟨rfl, Option.some.inj (h.bytes.symm.trans hother.bytes)⟩

theorem Shows.metadata {p : Path} (h : fs.Shows p inode content) :
    ∃ modified, fs.metadata p = .ok ⟨inode, content.length, modified⟩ :=
  ⟨(fs.inodes[inode]?.map (·.modified)).getD (.change 0), by
    simp only [FileSystem.metadata, h.find, bind, Except.bind, content_eq h.bytes]⟩

theorem Shows.openFile {p : Path} (h : fs.Shows p inode content) :
    fs.openFile p = .ok ⟨inode, false⟩ := by
  simp [FileSystem.openFile, h.find, bind, Except.bind]

theorem Shows.read {p : Path} (h : fs.Shows p inode content) : fs.read p = .ok content := by
  simp [FileSystem.read, h.openFile, bind, Except.bind, content_eq h.bytes]

/-- Adding to a file changes its content and nothing else. -/
theorem Shows.append {p : Path} (h : fs.Shows p inode content) (more : List UInt8) :
    ∃ fs', fs.append p more = .ok fs' ∧ fs'.Shows p inode (content ++ more) ∧ fs'.Alike fs ∧
      ∀ other, inode ≠ other → fs'.bytes? other = fs.bytes? other := by
  obtain ⟨loc, hloc⟩ := find_eq_ok_iff.mp h.find
  cases hmore : more.isEmpty with
  | true =>
      refine ⟨fs, ?_, ?_, Alike.refl fs, fun _ _ => rfl⟩
      · simp [FileSystem.append, openForWriting, hloc, bind, Except.bind, hmore]
      · rw [List.isEmpty_iff.mp hmore, List.append_nil]
        exact h
  | false =>
      refine ⟨fs.setContent inode (content ++ more), ?_, ⟨?_, ?_⟩, alike_setContent .., ?_⟩
      · simp [FileSystem.append, openForWriting, hloc, bind, Except.bind, hmore,
          content_eq h.bytes]
      · rw [find_congr (alike_setContent ..), h.find]
      · exact bytes?_setContent_self h.bytes
      · exact fun _ hne => bytes?_setContent_of_ne hne

end DebugDashboard.FileSystem
