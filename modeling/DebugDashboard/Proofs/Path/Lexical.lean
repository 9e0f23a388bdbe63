import DebugDashboard.Path.Normalise
import DebugDashboard.Proofs.Path.Parent
import Mathlib.Logic.Relation

/-!
# Paths cleaned by their spelling

What cleaning leaves of a path is decided by where its components lead when each `..` takes back the
name before it, and by how many `..` find no name to take back. Of these, every second one takes
back the one before it, so one is left in front of the names exactly if their number is odd.
Cleaning what is clean changes nothing, and detours on the way of a path are not seen.
-/

namespace DebugDashboard.Path

variable {p q : Path} {s : String}

/-! ## Names and parts -/

/-- A text that is a name wherever it stands between two slashes. -/
structure IsName (s : String) : Prop where
  ne_empty : s ≠ ""
  ne_dot : s ≠ "."
  ne_dots : s ≠ ".."
  noSlash : '/' ∉ s.toList

theorem IsName.ofSegment? (h : IsName s) : Component.ofSegment? s = some (.name s) := by
  simp [Component.ofSegment?, h.ne_empty, h.ne_dot, h.ne_dots]

/-- The components of a path, wherever it starts. -/
def parts (p : Path) : List Component := p.segments.filterMap Component.ofSegment?

/-- What stands in front of the parts of a clean path. -/
def base (p : Path) : List Component := if p.isAbsolute then [.root] else []

/-- A component that can stand anywhere in a clean path: `..` or a name. -/
def Component.IsPart : Component → Prop
  | .parent => True
  | .name s => IsName s
  | .root | .current => False

theorem isPart_of_mem_parts {c : Component} (hc : c ∈ p.parts) : c.IsPart := by
  obtain ⟨s, hs, hsome⟩ := List.mem_filterMap.mp hc
  unfold Component.ofSegment? at hsome
  split at hsome
  · cases hsome
  next hidle =>
    split at hsome
    · cases hsome
      trivial
    next hdots =>
      cases hsome
      simp only [Bool.or_eq_true, decide_eq_true_eq, not_or] at hidle
      exact ⟨hidle.1, hidle.2, hdots, notMem_of_mem_segments hs⟩

theorem Component.IsPart.ne_root {c : Component} (hc : c.IsPart) : c ≠ .root := by
  rintro rfl
  exact hc

theorem components_of_isAbsolute (habs : p.isAbsolute = true) :
    p.components = .root :: p.parts := by
  rw [components, if_pos habs, parts]

theorem components_of_relative (hrel : p.isAbsolute = false) :
    p.components = p.parts ∨ p.components = .current :: p.parts := by
  rw [components, if_neg (by simp [hrel]), parts]
  split
  next rest hsegments =>
    right
    rw [hsegments]
    rfl
  · exact .inl rfl

/-! ## Spelling parts out -/

theorem ofSegment?_text {c : Component} (hc : c.IsPart) : Component.ofSegment? c.text = some c := by
  cases c with
  | parent => rfl
  | name s => exact IsName.ofSegment? hc
  | root => cases hc
  | current => cases hc

theorem noSlash_texts {cs : List Component} (hcs : ∀ c ∈ cs, c.IsPart) :
    ∀ s ∈ cs.map Component.text, '/' ∉ s.toList := by
  intro s hs
  obtain ⟨c, hc, rfl⟩ := List.mem_map.mp hs
  have hpart := hcs c hc
  cases c with
  | parent => decide
  | name s => exact IsName.noSlash hpart
  | root => cases hpart
  | current => cases hpart

theorem filterMap_texts {cs : List Component} (hcs : ∀ c ∈ cs, c.IsPart) :
    (cs.map Component.text).filterMap Component.ofSegment? = cs := by
  induction cs with
  | nil => rfl
  | cons c rest ih =>
      obtain ⟨hc, hrest⟩ := List.forall_mem_cons.mp hcs
      rw [List.map_cons, List.filterMap_cons_some (ofSegment?_text hc), ih hrest]

/-- A path that is spelt out from the root has the parts from which it is spelt. -/
theorem spelt_root {cs : List Component} (hcs : ∀ c ∈ cs, c.IsPart) :
    (ofComponents (.root :: cs)).isAbsolute = true ∧ (ofComponents (.root :: cs)).parts = cs := by
  refine ⟨by simp [ofComponents, isAbsolute], ?_⟩
  cases cs with
  | nil => rfl
  | cons c rest =>
      have hjoin : "/" ++ joinSegments ((c :: rest).map Component.text) =
          joinSegments ("" :: (c :: rest).map Component.text) := by
        simp [joinSegments, String.intercalate_cons_of_ne_nil]
      have hslash : ∀ s ∈ "" :: (c :: rest).map Component.text, '/' ∉ s.toList :=
        List.forall_mem_cons.mpr ⟨by decide, noSlash_texts hcs⟩
      rw [ofComponents, hjoin, parts, segments_joinSegments hslash (List.cons_ne_nil _ _)]
      exact filterMap_texts hcs

/-- So has one that is spelt out as a relative path. -/
theorem spelt_relative {cs : List Component} (hcs : ∀ c ∈ cs, c.IsPart) :
    (ofComponents cs).isAbsolute = false ∧ (ofComponents cs).parts = cs := by
  cases cs with
  | nil => exact ⟨rfl, rfl⟩
  | cons c rest =>
      have hc := hcs c List.mem_cons_self
      have hsegments := segments_joinSegments (noSlash_texts hcs) (List.cons_ne_nil _ _)
      have htext : ofComponents (c :: rest) = ⟨joinSegments ((c :: rest).map Component.text)⟩ := by
        cases c with
        | root => cases hc
        | _ => rfl
      rw [htext]
      constructor
      · -- an absolute path has an empty segment in front
        rw [Bool.eq_false_iff]
        intro habs
        have hhead := segments_of_isAbsolute habs
        rw [hsegments, List.map_cons] at hhead
        have hsome := ofSegment?_text hc
        rw [(List.cons.inj hhead).1] at hsome
        cases hsome
      · rw [parts, hsegments]
        exact filterMap_texts hcs

theorem spelt_base {base cs : List Component} (hbase : base = [] ∨ base = [.root])
    (hcs : ∀ c ∈ cs, c.IsPart) :
    (ofComponents (base ++ cs)).base = base ∧ (ofComponents (base ++ cs)).parts = cs := by
  rcases hbase with rfl | rfl
  · obtain ⟨habs, hparts⟩ := spelt_relative hcs
    rw [List.nil_append, Path.base, habs]
    exact ⟨rfl, hparts⟩
  · obtain ⟨habs, hparts⟩ := spelt_root hcs
    rw [List.singleton_append, Path.base, habs]
    exact ⟨rfl, hparts⟩

/-! ## Where the parts of a path lead -/

/-- A way down from where a path starts. -/
structure Descent where
  /-- The names that have not been taken back, last first. -/
  names : List String
  /-- How many `..` found no name to take back. -/
  above : Nat
  deriving Repr, DecidableEq

namespace Descent

def step (d : Descent) : Component → Descent
  | .name s => { d with names := s :: d.names }
  | .parent => match d.names with
    | [] => { d with above := d.above + 1 }
    | _ :: rest => { d with names := rest }
  | .root | .current => d

def run (d : Descent) (cs : List Component) : Descent := cs.foldl step d

/-- The parts that cleaning makes of a descent, last first. Of the `..` that found no name, every
second one takes back the one before it. -/
def kept (d : Descent) : List Component :=
  d.names.map .name ++ if d.above % 2 = 1 then [.parent] else []

theorem pushLexical_kept (d : Descent) {base : List Component} (hbase : base = [] ∨ base = [.root])
    {c : Component} (hc : c ≠ .root) :
    pushLexical (d.kept ++ base) c = (d.step c).kept ++ base := by
  obtain ⟨names, above⟩ := d
  cases c with
  | root => exact absurd rfl hc
  | current => rfl
  | name s => rfl
  | parent =>
      cases names with
      | cons name rest => rfl
      | nil =>
          rcases Nat.mod_two_eq_zero_or_one above with heven | hodd
          · have hnext : (above + 1) % 2 = 1 := by omega
            rcases hbase with rfl | rfl <;> simp [kept, step, heven, hnext, pushLexical]
          · have hnext : (above + 1) % 2 = 0 := by omega
            rcases hbase with rfl | rfl <;> simp [kept, step, hodd, hnext, pushLexical]

theorem foldl_pushLexical (d : Descent) {base : List Component}
    (hbase : base = [] ∨ base = [.root]) {cs : List Component} (hcs : ∀ c ∈ cs, c ≠ .root) :
    cs.foldl pushLexical (d.kept ++ base) = (d.run cs).kept ++ base := by
  induction cs generalizing d with
  | nil => rfl
  | cons c rest ih =>
      obtain ⟨hc, hrest⟩ := List.forall_mem_cons.mp hcs
      rw [List.foldl_cons, pushLexical_kept d hbase hc, ih _ hrest]
      rfl

theorem run_append (d : Descent) (cs cs' : List Component) :
    d.run (cs ++ cs') = (d.run cs).run cs' := List.foldl_append

theorem run_names (d : Descent) (names : List String) :
    d.run (names.map .name) = { d with names := names.reverse ++ d.names } := by
  induction names generalizing d with
  | nil => rfl
  | cons s rest ih =>
      rw [List.map_cons, run, List.foldl_cons, ← run, ih]
      simp [step]

theorem mem_names_run {d : Descent} {cs : List Component} {s : String}
    (hs : s ∈ (d.run cs).names) : s ∈ d.names ∨ .name s ∈ cs := by
  induction cs generalizing d with
  | nil => exact .inl hs
  | cons c rest ih =>
      rcases ih hs with hstep | hrest
      · cases c with
        | root => exact .inl hstep
        | current => exact .inl hstep
        | name t =>
            rcases List.mem_cons.mp hstep with rfl | hd
            · exact .inr List.mem_cons_self
            · exact .inl hd
        | parent =>
            simp only [step] at hstep
            split at hstep
            · exact .inl hstep
            next hnames =>
              rw [hnames]
              exact .inl (List.mem_cons_of_mem _ hstep)
      · exact .inr (List.mem_cons_of_mem _ hrest)

end Descent

/-- The way on which the parts of a path lead. -/
def descent (p : Path) : Descent := Descent.run ⟨[], 0⟩ p.parts

/-- The names that lead to where a path leads, if nothing on its way is a link. -/
def landing (p : Path) : List String := p.descent.names.reverse

/-- How many `..` of a path find no name before them to take back. -/
def climbs (p : Path) : Nat := p.descent.above

theorem isName_of_mem_landing (hs : s ∈ p.landing) : IsName s := by
  rcases Descent.mem_names_run (List.mem_reverse.mp hs) with hnone | hpart
  · cases hnone
  · exact isPart_of_mem_parts hpart

/-! ## What cleaning leaves -/

/-- The parts that cleaning leaves. -/
def cleanParts (p : Path) : List Component :=
  (if p.climbs % 2 = 1 then [.parent] else []) ++ p.landing.map .name

theorem reverse_kept (p : Path) : p.descent.kept.reverse = p.cleanParts := by
  rw [Descent.kept, List.reverse_append, ← List.map_reverse, cleanParts, climbs, landing]
  split <;> rfl

theorem isPart_of_mem_cleanParts {c : Component} (hc : c ∈ p.cleanParts) : c.IsPart := by
  rcases List.mem_append.mp hc with hparent | hname
  · split at hparent
    · rw [List.mem_singleton.mp hparent]
      trivial
    · cases hparent
  · obtain ⟨s, hs, rfl⟩ := List.mem_map.mp hname
    exact isName_of_mem_landing hs

theorem base_cases (p : Path) : p.base = [] ∨ p.base = [.root] := by
  unfold base
  split
  · exact .inr rfl
  · exact .inl rfl

theorem lexical_eq (p : Path) : p.lexical = ofComponents (p.base ++ p.cleanParts) := by
  have hroot : ∀ c ∈ p.parts, c ≠ .root := fun c hc => (isPart_of_mem_parts hc).ne_root
  have hfold : p.components.foldl pushLexical [] = p.descent.kept ++ p.base := by
    rw [descent, ← Descent.foldl_pushLexical ⟨[], 0⟩ p.base_cases hroot, base]
    cases habs : p.isAbsolute with
    | true => rw [components_of_isAbsolute habs]; rfl
    | false =>
        rcases components_of_relative habs with hparts | hparts
        · rw [hparts]; rfl
        · rw [hparts]; rfl
  rw [lexical, hfold, List.reverse_append, reverse_kept]
  rcases p.base_cases with hbase | hbase <;> rw [hbase] <;> rfl

theorem base_lexical (p : Path) : p.lexical.base = p.base := by
  rw [lexical_eq]
  exact (spelt_base p.base_cases fun c hc => isPart_of_mem_cleanParts hc).1

theorem parts_lexical (p : Path) : p.lexical.parts = p.cleanParts := by
  rw [lexical_eq]
  exact (spelt_base p.base_cases fun c hc => isPart_of_mem_cleanParts hc).2

/-- A clean path leads where the path led, and climbs at most once. -/
theorem descent_lexical (p : Path) :
    p.lexical.descent = ⟨p.descent.names, p.climbs % 2⟩ := by
  rw [descent, parts_lexical, cleanParts, Descent.run_append]
  rcases Nat.mod_two_eq_zero_or_one p.climbs with heven | hodd
  · rw [if_neg (by omega), Descent.run_names, heven]
    simp [Descent.run, landing]
  · rw [if_pos hodd, Descent.run_names, hodd]
    simp [Descent.run, Descent.step, landing]

theorem landing_lexical (p : Path) : p.lexical.landing = p.landing := by
  rw [landing, descent_lexical, landing]

/-- What is clean stays as it is. -/
theorem lexical_lexical (p : Path) : p.lexical.lexical = p.lexical := by
  have hclimbs : p.lexical.climbs = p.climbs % 2 := by rw [climbs, descent_lexical]
  have hparts : p.lexical.cleanParts = p.cleanParts := by
    rw [cleanParts, hclimbs, landing_lexical, Nat.mod_mod, cleanParts]
  rw [lexical_eq p.lexical, base_lexical, hparts, ← lexical_eq]

/-- Cleaning sees of a path only whether it is absolute, and where it leads. -/
theorem lexical_congr (habs : p.isAbsolute = q.isAbsolute) (hdescent : p.descent = q.descent) :
    p.lexical = q.lexical := by
  have hbase : p.base = q.base := by rw [base, base, habs]
  have hparts : p.cleanParts = q.cleanParts := by
    rw [cleanParts, cleanParts, climbs, climbs, landing, landing, hdescent]
  rw [lexical_eq, lexical_eq, hbase, hparts]

/-- A clean absolute path goes down from the root by names, with a `..` in front of them exactly if
an odd number of `..` found no name. -/
theorem components_lexical (habs : p.isAbsolute = true) :
    p.lexical.isAbsolute = true ∧ p.lexical.components = .root :: p.cleanParts := by
  have hbase : p.base = [.root] := by rw [base, habs]; rfl
  have habsolute : p.lexical.isAbsolute = true := by
    rw [lexical_eq, hbase]
    exact (spelt_root fun c hc => isPart_of_mem_cleanParts hc).1
  exact ⟨habsolute, by rw [components_of_isAbsolute habsolute, parts_lexical]⟩

/-! ## Detours -/

/-- What a detour puts between two slashes: nothing, a dot, or a name that is taken back. -/
inductive Aside : String → Prop
  | nothing : Aside ""
  | dot : Aside "."
  | back {name : String} (hname : IsName name) : Aside (name ++ "/..")

/-- Behind a slash, in front of one, or at the end of a path. -/
def Joint (front behind : String) : Prop :=
  front.toList.getLast? = some '/' ∨ behind = "" ∨ behind.toList.head? = some '/'

/-- The second path is the first with a detour: somewhere between two components something is put
in, with the slashes it needs to stand by itself. -/
inductive Detour : Path → Path → Prop
  | insert {front lead aside trail behind : String} (hjoint : Joint front behind)
      (haside : Aside aside) (hlead : lead = "" ∨ lead = "/") (htrail : trail = "" ∨ trail = "/")
      (hbefore : (front ++ lead).toList.getLast? = some '/')
      (hafter : trail ++ behind = "" ∨ (trail ++ behind).toList.head? = some '/') :
      Detour ⟨front ++ behind⟩ ⟨front ++ lead ++ aside ++ (trail ++ behind)⟩

theorem parts_slash (front behind : String) :
    (Path.mk (front ++ "/" ++ behind)).parts = (Path.mk front).parts ++ (Path.mk behind).parts := by
  have hslash : (front ++ "/" ++ behind).toList = front.toList ++ '/' :: behind.toList := by simp
  simp only [parts, segments, hslash, List.splitOn_append_cons_self, List.map_append,
    List.filterMap_append]

/-- At a joint, the parts of a path are those of its two sides. -/
theorem parts_append {front behind : String} (hjoint : Joint front behind) :
    (Path.mk (front ++ behind)).parts = (Path.mk front).parts ++ (Path.mk behind).parts := by
  have hnone : (Path.mk "").parts = [] := rfl
  rcases hjoint with hfront | rfl | hbehind
  · obtain ⟨init, hinit⟩ := List.getLast?_eq_some_iff.mp hfront
    have htext : front = String.ofList init ++ "/" ++ "" := by
      refine String.toList_inj.mp ?_
      simpa using hinit
    have hsplit := parts_slash (String.ofList init)
    rw [htext, String.append_empty, hsplit behind]
    rw [← String.append_empty (s := String.ofList init ++ "/"), hsplit, hnone, List.append_nil]
  · rw [String.append_empty, hnone, List.append_nil]
  · obtain ⟨rest, hrest⟩ := List.head?_eq_some_iff.mp hbehind
    have htext : behind = "/" ++ String.ofList rest := by
      refine String.toList_inj.mp ?_
      simpa using hrest
    have hfirst := parts_slash "" (String.ofList rest)
    rw [String.empty_append, hnone, List.nil_append] at hfirst
    rw [htext, ← String.append_assoc, parts_slash, hfirst]

/-- A detour leads back to where it began. -/
theorem Aside.run {aside : String} (h : Aside aside) (d : Descent) :
    d.run (Path.mk aside).parts = d := by
  cases h with
  | nothing => rfl
  | dot => rfl
  | @back name hname =>
      have hsegments : (Path.mk name).segments = [name] := by
        rw [segments, List.splitOn_eq_singleton hname.noSlash]
        simp
      have hname : (Path.mk name).parts = [.name name] := by
        rw [parts, hsegments, List.filterMap_cons_some hname.ofSegment?]
        rfl
      have hparts : (Path.mk (name ++ "/..")).parts = [.name name, .parent] := by
        have hslash := parts_slash name ".."
        rw [String.append_assoc] at hslash
        exact hslash.trans (by rw [hname]; rfl)
      rw [hparts]
      rfl

theorem Detour.isAbsolute (h : Detour p q) (habs : p.isAbsolute = true) : q.isAbsolute = true := by
  cases h with
  | @insert front lead aside trail behind hjoint haside hlead htrail hbefore hafter =>
      simp only [Path.isAbsolute, decide_eq_true_eq] at habs ⊢
      cases hfront : front.toList with
      | cons c rest => simpa [hfront] using habs
      | nil =>
          -- with nothing in front, the slash of the detour is the first
          rcases hlead with rfl | rfl
          · simp [hfront] at hbefore
          · simp [hfront]

/-- A detour changes nothing about where a path leads. -/
theorem Detour.descent_eq (h : Detour p q) : q.descent = p.descent := by
  cases h with
  | @insert front lead aside trail behind hjoint haside hlead htrail hbefore hafter =>
      have hslash : (Path.mk "/").parts = [] := rfl
      have hlead : (Path.mk (front ++ lead)).parts = (Path.mk front).parts := by
        rcases hlead with rfl | rfl
        · rw [String.append_empty]
        · rw [parts_append (.inr (.inr rfl)), hslash, List.append_nil]
      have htrail : (Path.mk (trail ++ behind)).parts = (Path.mk behind).parts := by
        rcases htrail with rfl | rfl
        · rw [String.empty_append]
        · rw [parts_append (.inl rfl), hslash, List.nil_append]
      have hall : (Path.mk (front ++ lead ++ aside ++ (trail ++ behind))).parts =
          (Path.mk front).parts ++ (Path.mk aside).parts ++ (Path.mk behind).parts := by
        rw [parts_append (.inr hafter), parts_append (.inl hbefore), hlead, htrail]
      rw [descent, descent, hall, parts_append hjoint]
      rw [Descent.run_append, Descent.run_append, Descent.run_append, haside.run]

/-- Any number of detours is not seen. -/
theorem lexical_detours (hdetours : Relation.ReflTransGen Detour p q)
    (habs : p.isAbsolute = true) : q.isAbsolute = true ∧ q.lexical = p.lexical := by
  induction hdetours with
  | refl => exact ⟨habs, rfl⟩
  | tail hdetours hdetour ih =>
      obtain ⟨habsolute, hlexical⟩ := ih
      have hnext := hdetour.isAbsolute habsolute
      refine ⟨hnext, ?_⟩
      rw [← hlexical]
      exact lexical_congr (hnext.trans habsolute.symm) hdetour.descent_eq

end DebugDashboard.Path
