import DebugDashboard.Proofs.FileSystem.Canonical

/-!
# Normalised paths

A normalised path goes down from the root by names, unless it was cleaned by its spelling and a `..`
was left at the root. Which spellings of something that is missing give the same path is decided by
where they lead and by that `..`. To normalise a path again changes nothing, except where a spelling
that names nothing is cleaned into one that leads through a link.
-/

namespace DebugDashboard.Path

variable {host : Host} {p q : Path} {loc : Location}

/-! ## Absolute spellings -/

theorem absolute_eq_self (host : Host) (habs : p.isAbsolute = true) : p.absolute host = p := by
  have htilde : p.afterTilde? = none := by
    rw [afterTilde?, segments_of_isAbsolute habs]
    rfl
  have hhome : p.expandHome host.home? = p := by
    simp only [expandHome, htilde]
  rw [absolute, hhome]
  cases host.files.workingPath? with
  | none => rfl
  | some directory => exact if_pos habs

theorem isAbsolute_join {directory : Path} (habs : directory.isAbsolute = true) (p : Path) :
    (directory.join p).isAbsolute = true := by
  obtain ⟨rest, hrest⟩ := List.head?_eq_some_iff.mp (of_decide_eq_true habs)
  unfold join
  split
  next hp => exact hp
  next => split <;> simp [isAbsolute, hrest]

/-- While the working directory has a path, every path has an absolute spelling. -/
theorem isAbsolute_absolute (hhere : host.files.workingPath?.isSome = true) (p : Path) :
    (p.absolute host).isAbsolute = true := by
  obtain ⟨directory, hdirectory⟩ := Option.isSome_iff_exists.mp hhere
  have habs : directory.isAbsolute = true := by
    unfold FileSystem.workingPath? at hdirectory
    split at hdirectory
    · cases hdirectory
    · cases hdirectory
      exact isAbsolute_ofLocation _
  rw [absolute, hdirectory]
  exact isAbsolute_join habs _

/-! ## Canonical and cleaned paths -/

/-- The path has no canonical path. -/
def Unresolved (fs : FileSystem) (p : Path) : Prop := ∃ e, fs.canonicalise p = .error e

theorem normalise_of_unresolved (hp : (p.absolute host).Unresolved host.files) :
    p.normalise host = (p.absolute host).lexical := by
  obtain ⟨e, he⟩ := hp
  simp only [normalise, he]

theorem normalise_of_resolved (hhere : host.files.workingPath?.isSome = true)
    (hp : ¬ (p.absolute host).Unresolved host.files) :
    ∃ loc, host.files.canonicalise (p.absolute host) = .ok (.ofLocation loc) ∧
      p.normalise host = .ofLocation loc ∧ host.files.Settled loc := by
  cases hc : host.files.canonicalise (p.absolute host) with
  | error e => exact absurd ⟨e, hc⟩ hp
  | ok c =>
      obtain ⟨loc, node, rfl, -, hsettled⟩ :=
        FileSystem.canonicalise_eq_ok (isAbsolute_absolute hhere p) hc
      exact ⟨loc, rfl, by simp only [normalise, hc], hsettled⟩

/-- An absolute path without `.` and `..`. -/
structure IsClean (p : Path) : Prop where
  isAbsolute : p.isAbsolute = true
  noCurrent : .current ∉ p.components
  noParent : .parent ∉ p.components

theorem isClean_of_components {names : List String} (h : p.components = .root :: names.map .name) :
    p.IsClean := by
  refine ⟨(isAbsolute_iff p).mpr ?_, ?_, ?_⟩ <;> simp [h]

/-- Cleaning the spelling of a path that names nothing leaves a `..` at the root. -/
def StaysAbove (host : Host) (p : Path) : Prop :=
  (p.absolute host).Unresolved host.files ∧ (p.absolute host).climbs % 2 = 1

/-- A path is normalised to a clean one unless a `..` stays at the root; then names follow it. -/
theorem isClean_normalise_iff (hhere : host.files.workingPath?.isSome = true) (p : Path) :
    ((p.normalise host).IsClean ↔ ¬ p.StaysAbove host) ∧
      (p.StaysAbove host → ∃ names : List String,
        (p.normalise host).components = .root :: .parent :: names.map .name) := by
  have habs := isAbsolute_absolute hhere p
  by_cases hp : (p.absolute host).Unresolved host.files
  · have hcomponents := (components_lexical habs).2
    rw [← normalise_of_unresolved hp] at hcomponents
    by_cases hodd : (p.absolute host).climbs % 2 = 1
    · rw [cleanParts, if_pos hodd, List.singleton_append] at hcomponents
      refine ⟨⟨fun hclean => ?_, fun hnot => absurd ⟨hp, hodd⟩ hnot⟩, fun _ => ⟨_, hcomponents⟩⟩
      refine absurd ?_ hclean.noParent
      rw [hcomponents]
      exact List.mem_cons_of_mem _ List.mem_cons_self
    · rw [cleanParts, if_neg hodd, List.nil_append] at hcomponents
      have hnot : ¬ p.StaysAbove host := fun h => hodd h.2
      exact ⟨⟨fun _ => hnot, fun _ => isClean_of_components hcomponents⟩, fun h => absurd h hnot⟩
  · obtain ⟨loc, -, hloc, hsettled⟩ := normalise_of_resolved hhere hp
    have hnot : ¬ p.StaysAbove host := fun h => hp h.1
    rw [hloc]
    refine ⟨⟨fun _ => hnot, fun _ => ?_⟩, fun h => absurd h hnot⟩
    exact isClean_of_components (components_ofLocation hsettled.names)

/-- Two spellings that name nothing and lead to one place give the same path if and only if a `..`
stays at the root for both or for neither. -/
theorem normalise_same_iff (hhere : host.files.workingPath?.isSome = true)
    (hp : (p.absolute host).Unresolved host.files) (hq : (q.absolute host).Unresolved host.files)
    (hlanding : (p.absolute host).landing = (q.absolute host).landing) :
    (p.normalise host).same (q.normalise host) = true ↔
      (p.absolute host).climbs % 2 = (q.absolute host).climbs % 2 := by
  rw [normalise_of_unresolved hp, normalise_of_unresolved hq, same_iff,
    (components_lexical (isAbsolute_absolute hhere p)).2,
    (components_lexical (isAbsolute_absolute hhere q)).2, cleanParts, cleanParts, hlanding]
  constructor
  · intro hsame
    have hfront := List.append_cancel_right (List.cons.inj hsame).2
    split at hfront <;> split at hfront <;> first | omega | cases hfront
  · intro hclimbs
    rw [hclimbs]

/-! ## Normalising again -/

/-- A path that goes down by names and passes no link is normalised. -/
theorem normalise_ofLocation (hloc : host.files.Settled loc) :
    (ofLocation loc).normalise host = ofLocation loc := by
  rw [normalise, absolute_eq_self host (isAbsolute_ofLocation loc)]
  cases hc : host.files.canonicalise (ofLocation loc) with
  | error e => exact lexical_ofLocation hloc.names
  | ok c => exact FileSystem.canonicalise_ofLocation hloc hc

/-- The spelling of a path names nothing, but cleaned it names something through a link. -/
structure CleansToLink (host : Host) (p : Path) : Prop where
  missing : (p.absolute host).Unresolved host.files
  found : ¬ (p.absolute host).lexical.Unresolved host.files
  link : host.files.PassesLink (p.absolute host).landing

/-- Where no `..` is left, a cleaned path goes down by names. -/
theorem lexical_eq_ofLocation (habs : p.isAbsolute = true)
    (hparent : .parent ∉ p.lexical.components) : p.lexical = ofLocation p.landing := by
  have heven : ¬ p.climbs % 2 = 1 := by
    intro hodd
    refine hparent ?_
    rw [(components_lexical habs).2, cleanParts, if_pos hodd]
    simp
  rw [lexical_eq, base, if_pos habs, cleanParts, if_neg heven, ofLocation_eq]
  rfl

/-- Normalising a path without `..` again changes nothing, unless its first spelling named nothing
and was cleaned into one that leads through a link to something. Then the second path is another
one. -/
theorem normalise_again (hhere : host.files.workingPath?.isSome = true) (p : Path)
    (hparent : .parent ∉ (p.normalise host).components) :
    (¬ p.CleansToLink host → (p.normalise host).normalise host = p.normalise host) ∧
      (p.CleansToLink host →
        ((p.normalise host).normalise host).same (p.normalise host) = false) := by
  have habs := isAbsolute_absolute hhere p
  by_cases hp : (p.absolute host).Unresolved host.files
  · rw [normalise_of_unresolved hp] at hparent ⊢
    have hnames : ∀ s ∈ (p.absolute host).landing, IsName s := fun s hs => isName_of_mem_landing hs
    have hclean := lexical_eq_ofLocation habs hparent
    constructor
    · intro hnot
      by_cases hfound : (p.absolute host).lexical.Unresolved host.files
      · have hself := absolute_eq_self host (components_lexical habs).1
        rw [← hself] at hfound
        rw [normalise_of_unresolved hfound, hself, lexical_lexical]
      · have hplain : ¬ host.files.PassesLink (p.absolute host).landing :=
          fun hlink => hnot ⟨hp, hfound, hlink⟩
        rw [hclean]
        exact normalise_ofLocation ⟨hnames, hplain⟩
    · intro hlink
      have hself := absolute_eq_self host (components_lexical habs).1
      have hfound := hlink.found
      rw [← hself] at hfound
      obtain ⟨loc, -, hloc, hsettled⟩ := normalise_of_resolved hhere hfound
      rw [hloc, Bool.eq_false_iff]
      intro hsame
      rw [hclean] at hsame
      exact hsettled.plain (ofLocation_inj hsettled.names hnames hsame ▸ hlink.link)
  · obtain ⟨loc, -, hloc, hsettled⟩ := normalise_of_resolved hhere hp
    refine ⟨fun _ => ?_, fun hlink => absurd hlink.missing hp⟩
    rw [hloc]
    exact normalise_ofLocation hsettled

/-- A file and a link to it, seen from the root. -/
def linked : Host where
  files :=
    { entries := [(["real.py"], .file 1), (["link.py"], .link ⟨"real.py"⟩)]
      inodes := #[⟨[], .change 0⟩, ⟨[], .change 1⟩]
      clock := 2
      workingDirectory := [] }
  home? := none

/-- A link is normalised to its file, which stays. -/
theorem normalise_again_resolved :
    linked.files.workingPath?.isSome = true ∧
      .parent ∉ (normalise linked ⟨"/link.py"⟩).components ∧
      normalise linked (normalise linked ⟨"/link.py"⟩) = normalise linked ⟨"/link.py"⟩ := by
  have hhere : linked.files.workingPath?.isSome = true := by decide +kernel
  have hparent : .parent ∉ (normalise linked ⟨"/link.py"⟩).components := by decide +kernel
  refine ⟨hhere, hparent, (normalise_again hhere ⟨"/link.py"⟩ hparent).1 ?_⟩
  intro hlink
  obtain ⟨e, he⟩ := hlink.missing
  have hfound : (linked.files.canonicalise (absolute linked ⟨"/link.py"⟩)).toOption =
      some ⟨"/real.py"⟩ := by decide +kernel
  rw [he] at hfound
  cases hfound

/-- Behind a directory that is missing a link is only found when the path is normalised again. -/
theorem not_normalise_idempotent :
    ¬ ∀ (host : Host) (p : Path), host.files.workingPath?.isSome = true →
      (p.normalise host).normalise host = p.normalise host := by
  intro hagain
  have hlink := hagain linked ⟨"/missing/../link.py"⟩ (by decide +kernel)
  have hfirst : normalise linked ⟨"/missing/../link.py"⟩ = ⟨"/link.py"⟩ := by decide +kernel
  have hsecond : normalise linked ⟨"/link.py"⟩ = ⟨"/real.py"⟩ := by decide +kernel
  rw [hfirst, hsecond] at hlink
  exact absurd hlink (by decide)

/-! ## Detours -/

/-- Detours on the way of an absolute path do not matter, if neither spelling has a canonical path.
What is cleaned by its spelling stays as it is when it is cleaned again. -/
theorem normalise_detours (host : Host) (habs : p.isAbsolute = true)
    (hdetours : Relation.ReflTransGen Detour p q) (hp : p.Unresolved host.files)
    (hq : q.Unresolved host.files) :
    q.normalise host = p.normalise host ∧ ∀ r : Path, r.lexical.lexical = r.lexical := by
  obtain ⟨habsolute, hlexical⟩ := lexical_detours hdetours habs
  rw [← absolute_eq_self host habs] at hp
  rw [← absolute_eq_self host habsolute] at hq
  refine ⟨?_, lexical_lexical⟩
  rw [normalise_of_unresolved hp, normalise_of_unresolved hq, absolute_eq_self host habs,
    absolute_eq_self host habsolute, hlexical]

/-- A detour within a detour, and a `..` that leads above the root. -/
theorem normalise_detours_nested :
    Path.isAbsolute ⟨"/../c.py"⟩ = true ∧
      Relation.ReflTransGen Detour ⟨"/../c.py"⟩ ⟨"/../a/b/../../c.py"⟩ ∧
      Unresolved linked.files ⟨"/../c.py"⟩ ∧ Unresolved linked.files ⟨"/../a/b/../../c.py"⟩ ∧
      normalise linked ⟨"/../a/b/../../c.py"⟩ = normalise linked ⟨"/../c.py"⟩ := by
  have ha : IsName "a" := ⟨by decide, by decide, by decide, by decide⟩
  have hb : IsName "b" := ⟨by decide, by decide, by decide, by decide⟩
  have houter : Detour ⟨"/../c.py"⟩ ⟨"/../a/../c.py"⟩ := by
    simpa using @Detour.insert "/.." "/" _ "" "/c.py" (.inr (.inr (by decide))) (.back ha)
      (.inr rfl) (.inl rfl) (by decide) (.inr (by decide))
  have hinner : Detour ⟨"/../a/../c.py"⟩ ⟨"/../a/b/../../c.py"⟩ := by
    simpa using @Detour.insert "/../a/" "" _ "/" "../c.py" (.inl (by decide)) (.back hb)
      (.inl rfl) (.inr rfl) (by decide) (.inr (by decide))
  have hdetours := (Relation.ReflTransGen.single houter).tail hinner
  have hp : Unresolved linked.files ⟨"/../c.py"⟩ := ⟨.notFound, by rfl⟩
  have hq : Unresolved linked.files ⟨"/../a/b/../../c.py"⟩ := ⟨.notFound, by rfl⟩
  have habs : Path.isAbsolute ⟨"/../c.py"⟩ = true := by decide
  exact ⟨habs, hdetours, hp, hq, (normalise_detours linked habs hdetours hp hq).1⟩

end DebugDashboard.Path
