import DebugDashboard.Proofs.FileSystem.Ways

/-!
# Sound file systems

Everything stands in a directory, the process works in one, what has lost its name is a directory
and holds nothing that has one, and every file has a content. So a change of files moves nothing
that the working directory depends on.
-/

namespace DebugDashboard.FileSystem

variable {fs fs' : FileSystem} {at_ loc above dir : Location} {node : Node} {s : String}
  {roots : List Location} {inode : Nat} {bytes : List UInt8}

/-- What every file system that operations build is like (`Built.sound`). -/
structure Sound (fs : FileSystem) : Prop where
  placed {above : Location} {s : String} {node : Node} :
    fs.node? (above ++ [s]) = some node → fs.isDirectoryAt above = true
  here : fs.isDirectoryAt fs.workingDirectory = true
  emptied {above : Location} {s : String} :
    isRemoved above = true → s ≠ noName → fs.node? (above ++ [s]) = none
  unnamed {above : Location} {node : Node} :
    fs.node? (above ++ [noName]) = some node → ∃ inode, node = .directory inode
  numbered {at_ : Location} {inode : Nat} :
    fs.node? at_ = some (.file inode) → ∃ bytes, fs.bytes? inode = some bytes

/-- What a change may put somewhere: something with a name, in a directory that still has its own,
and with a content if it is a file. -/
def NewAt (fs fs' : FileSystem) (loc : Location) (node : Node) : Prop :=
  ∃ above s, loc = above ++ [s] ∧ s ≠ noName ∧ fs.isDirectoryAt above = true ∧
    isRemoved above = false ∧ ∀ inode, node = .file inode → ∃ bytes, fs'.bytes? inode = some bytes

namespace Sound

/-- What stands above a directory are directories. -/
theorem isDirectoryAt_above (h : fs.Sound) (hdir : fs.isDirectoryAt at_ = true)
    (hpre : loc <+: at_) : fs.isDirectoryAt loc = true := by
  induction at_ using List.reverseRecOn with
  | nil =>
      rw [List.prefix_nil.mp hpre]
      exact hdir
  | append_singleton above s ih =>
      rcases List.prefix_concat_iff.mp hpre with rfl | hpre
      · exact hdir
      · obtain ⟨i, hi⟩ := isDirectoryAt_iff.mp hdir
        exact ih (h.placed hi) hpre

/-- Nothing but directories leads to a directory. -/
theorem liesIn_eq_false (h : fs.Sound) (hroots : ∀ root ∈ roots, fs.isDirectoryAt root = false)
    (hdir : fs.isDirectoryAt at_ = true) : liesIn roots at_ = false := by
  rw [liesIn_eq_false_iff]
  intro root hroot hpre
  have habove := h.isDirectoryAt_above hdir hpre
  exact Bool.false_ne_true ((hroots root hroot).symm.trans habove)

theorem not_prefix_here (h : fs.Sound) (hplain : fs.isDirectoryAt at_ = false) :
    ¬ at_ <+: fs.workingDirectory := by
  intro hpre
  exact Bool.false_ne_true (hplain.symm.trans (h.isDirectoryAt_above h.here hpre))

theorem isDirectoryAt_start (h : fs.Sound) (p : Path) :
    fs.isDirectoryAt (start fs.workingDirectory p) = true := by
  unfold start
  split
  · rfl
  · exact h.here

theorem isDirectoryAt_dropLast (h : fs.Sound) (hdir : fs.isDirectoryAt at_ = true) :
    fs.isDirectoryAt at_.dropLast = true :=
  h.isDirectoryAt_above hdir (List.dropLast_prefix at_)

/-- Nothing stands below what is no directory. -/
theorem node?_below (h : fs.Sound) (hplain : fs.isDirectoryAt at_ = false) (hpre : at_ <+: loc)
    (hne : at_ ≠ loc) : fs.node? loc = none := by
  cases hnode : fs.node? loc with
  | none => rfl
  | some node =>
      obtain ⟨below, rfl⟩ := hpre
      rcases List.eq_nil_or_concat below with rfl | ⟨between, s, rfl⟩
      · simp at hne
      · rw [List.concat_eq_append, ← List.append_assoc] at hnode
        have habove := h.isDirectoryAt_above (h.placed hnode) (List.prefix_append at_ between)
        exact absurd (hplain.symm.trans habove) Bool.false_ne_true

/-- A change that puts something only where no directory stands, and only into directories that are
still there, leaves a sound file system. -/
theorem of_agree (h : fs.Sound) (hroots : ∀ root ∈ roots, fs.isDirectoryAt root = false)
    (hnode : ∀ loc, liesIn roots loc = false → fs'.node? loc = fs.node? loc)
    (hhere : fs'.workingDirectory = fs.workingDirectory)
    (hkept : ∀ inode bytes, fs.bytes? inode = some bytes → ∃ bytes, fs'.bytes? inode = some bytes)
    (hnew : ∀ loc node, liesIn roots loc = true → fs'.node? loc = some node →
      NewAt fs fs' loc node) : fs'.Sound := by
  have hdirectory : ∀ {at_}, fs.isDirectoryAt at_ = true → fs'.isDirectoryAt at_ = true := by
    intro at_ hdir
    rwa [FileSystem.isDirectoryAt, hnode at_ (h.liesIn_eq_false hroots hdir)]
  -- what stands somewhere stood there before, or is new
  have hcases : ∀ {above s node}, fs'.node? (above ++ [s]) = some node →
      fs.node? (above ++ [s]) = some node ∨
        s ≠ noName ∧ fs.isDirectoryAt above = true ∧ isRemoved above = false := by
    intro above s node hthere
    cases hin : liesIn roots (above ++ [s]) with
    | false => exact .inl ((hnode _ hin).symm.trans hthere)
    | true =>
        obtain ⟨above', s', heq, hs, hdir, hlive, -⟩ := hnew _ _ hin hthere
        obtain ⟨rfl, hlast⟩ := List.append_inj' heq rfl
        cases hlast
        exact .inr ⟨hs, hdir, hlive⟩
  constructor
  case placed =>
    intro above s node hthere
    rcases hcases hthere with hold | ⟨-, hdir, -⟩
    · exact hdirectory (h.placed hold)
    · exact hdirectory hdir
  case here =>
    rw [hhere]
    exact hdirectory h.here
  case emptied =>
    intro above s hremoved hs
    cases hthere : fs'.node? (above ++ [s]) with
    | none => rfl
    | some node =>
        rcases hcases hthere with hold | ⟨-, -, hlive⟩
        · rw [h.emptied hremoved hs] at hold
          cases hold
        · rw [hremoved] at hlive
          cases hlive
  case unnamed =>
    intro above node hthere
    rcases hcases hthere with hold | ⟨hs, -, -⟩
    · exact h.unnamed hold
    · exact absurd rfl hs
  case numbered =>
    intro at_ inode hthere
    cases hin : liesIn roots at_ with
    | false =>
        obtain ⟨bytes, hbytes⟩ := h.numbered ((hnode _ hin).symm.trans hthere)
        exact hkept _ _ hbytes
    | true =>
        obtain ⟨-, -, -, -, -, -, hcontent⟩ := hnew _ _ hin hthere
        exact hcontent inode rfl

/-- What is no directory can be taken away. -/
theorem erase (h : fs.Sound) (hplain : fs.isDirectoryAt at_ = false) : (fs.erase at_).Sound := by
  have hroot : at_ ≠ [] := by
    rintro rfl
    cases hplain
  have hnode : ∀ loc, liesIn [at_] loc = false → (fs.erase at_).node? loc = fs.node? loc :=
    fun loc hloc => node?_erase_of_liesIn hroot List.mem_cons_self hloc
  refine h.of_agree (by simpa using hplain) hnode rfl (fun _ bytes hbytes => ⟨bytes, hbytes⟩) ?_
  intro loc node hin hthere
  rw [node?_erase hroot] at hthere
  split at hthere
  · cases hthere
  next hne =>
    have hpre : at_ <+: loc := by simpa [liesIn] using hin
    rw [h.node?_below hplain hpre (Ne.symm hne)] at hthere
    cases hthere

end Sound

/-- Whether an entry is in a directory, has the name that it must have there, and has its
content. -/
def fits (fs : FileSystem) (e : Location × Node) : Bool :=
  fs.isDirectoryAt e.1.dropLast && (!isRemoved e.1.dropLast || e.1.getLast? = some noName) &&
    match e.2 with
    | .directory _ => true
    | .file inode => e.1.getLast? ≠ some noName && inode < fs.inodes.size
    | .link _ => e.1.getLast? ≠ some noName

/-- Whether a file system is sound can be read off its entries. -/
theorem sound_of_fits (hentries : fs.entries.all fs.fits = true)
    (hhere : fs.isDirectoryAt fs.workingDirectory = true) : fs.Sound := by
  have hfits : ∀ {at_ node}, at_ ≠ [] → fs.node? at_ = some node → fs.fits (at_, node) = true := by
    intro at_ node hne hnode
    rw [node?_of_ne_nil hne] at hnode
    exact List.all_eq_true.mp hentries _ (mem_of_lookup hnode)
  constructor
  case placed =>
    intro above s node hnode
    have hfit := hfits (by simp) hnode
    simp only [fits, List.dropLast_concat, Bool.and_eq_true] at hfit
    exact hfit.1.1
  case here => exact hhere
  case emptied =>
    intro above s hremoved hs
    cases hnode : fs.node? (above ++ [s]) with
    | none => rfl
    | some node =>
        have hfit := hfits (by simp) hnode
        simp [fits, hremoved, hs] at hfit
  case unnamed =>
    intro above node hnode
    have hfit := hfits (by simp) hnode
    cases node with
    | directory inode => exact ⟨inode, rfl⟩
    | file inode => simp [fits] at hfit
    | link there => simp [fits] at hfit
  case numbered =>
    intro at_ inode hnode
    have hne : at_ ≠ [] := by
      rintro rfl
      cases hnode
    have hfit := hfits hne hnode
    simp only [fits, Bool.and_eq_true, decide_eq_true_eq] at hfit
    exact ⟨_, by rw [bytes?, Array.getElem?_eq_getElem hfit.2.2, Option.map_some]⟩

theorem sound_empty : empty.Sound := sound_of_fits rfl rfl

/-- The names in a path are none that stands for a lost one. -/
theorem ne_noName_of_mem_steps {p : Path} (hs : .name s ∈ p.steps) : s ≠ noName := by
  rintro rfl
  simp only [Path.steps, List.mem_append, List.mem_filterMap] at hs
  rcases hs with ⟨segment, -, hstep⟩ | hslash
  · split at hstep
    · cases hstep
    next hempty =>
      split at hstep
      · cases hstep
      split at hstep
      · cases hstep
      · cases hstep
        exact hempty rfl
  · split at hslash <;> simp at hslash

end DebugDashboard.FileSystem
