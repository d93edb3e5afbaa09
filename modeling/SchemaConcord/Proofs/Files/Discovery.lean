import SchemaConcord.Files.Discovery
import SchemaConcord.Outcome
import SchemaConcord.Proofs.Files.Erase
import SchemaConcord.Proofs.Text.Edit

/-!
# What is discovered, and what is read of it

Without one of its files a project discovers the other files, in the order they had (`discover_erase`). When reading a
file means to pass it over, a scan without the file gives the same items, and the same warnings but for those about
the file (`scan_erase`). A scan ends early with the first file that breaks it, and for no other reason
(`fault?_scanFiles`).

What is discovered by several patterns and directories is what each of them discovers alone, put together in the order
of paths (`discover_eq_ok_iff`), so that neither their order nor a repetition makes a difference (`discover_congr`).
-/

namespace SchemaConcord

open Text

/-! ## The order of paths -/

namespace Path

theorem namesLe_trans (a b c : List String) (h₁ : namesLe a b = true) (h₂ : namesLe b c = true) :
    namesLe a c = true := by
  induction a generalizing b c with
  | nil => rfl
  | cons x a ih =>
    cases b with
    | nil => cases h₁
    | cons y b =>
      cases c with
      | nil => cases h₂
      | cons z c =>
        unfold namesLe at h₁ h₂ ⊢
        by_cases hxy : x = y
        · rw [if_pos hxy] at h₁
          rw [hxy]
          by_cases hyz : y = z
          · rw [if_pos hyz] at h₂ ⊢
            exact ih b c h₁ h₂
          · rw [if_neg hyz] at h₂ ⊢
            exact h₂
        · rw [if_neg hxy] at h₁
          by_cases hyz : y = z
          · rw [← hyz, if_neg hxy]
            exact h₁
          · rw [if_neg hyz] at h₂
            have hxz := textLe_trans x y z h₁ h₂
            have hne : x ≠ z := by
              rintro rfl
              exact hxy (textLe_antisymm h₁ h₂)
            rw [if_neg hne]
            exact hxz

theorem namesLe_total (a b : List String) : (namesLe a b || namesLe b a) = true := by
  induction a generalizing b with
  | nil => rfl
  | cons x a ih =>
    cases b with
    | nil => rfl
    | cons y b =>
      unfold namesLe
      by_cases h : x = y
      · rw [if_pos h, if_pos h.symm]
        exact ih b
      · rw [if_neg h, if_neg (Ne.symm h)]
        exact textLe_total x y

theorem le_trans (p q r : Path) (h₁ : le p q = true) (h₂ : le q r = true) : le p r = true := namesLe_trans _ _ _ h₁ h₂

theorem le_total (p q : Path) : (le p q || le q p) = true := namesLe_total _ _

theorem namesLe_antisymm {a b : List String} (h₁ : namesLe a b = true) (h₂ : namesLe b a = true) : a = b := by
  induction a generalizing b with
  | nil =>
    cases b with
    | nil => rfl
    | cons y b => cases h₂
  | cons x a ih =>
    cases b with
    | nil => cases h₁
    | cons y b =>
      unfold namesLe at h₁ h₂
      by_cases h : x = y
      · rw [if_pos h] at h₁
        rw [if_pos h.symm] at h₂
        rw [h, ih h₁ h₂]
      · rw [if_neg h] at h₁
        rw [if_neg (Ne.symm h)] at h₂
        exact absurd (textLe_antisymm h₁ h₂) h

/-! ## Paths as they are read -/

def below (p : Path) (names : List String) : Path := { p with parts := p.parts ++ names }

theorem below_below (p : Path) (names more : List String) : (p.below names).below more = p.below (names ++ more) := by
  rw [below, below, below, List.append_assoc]

/-- A path as it is read: its root is none or made of slashes, and no name has one. -/
structure Spelled (p : Path) : Prop where
  root : p.root = "" ∨ p.root.toList.head? = some '/'
  names : ∀ n ∈ p.parts, '/' ∉ n.toList

theorem not_slash_of_mem_splitChar {s n : String} (h : n ∈ splitChar '/' s) : '/' ∉ n.toList := by
  obtain ⟨piece, hpiece, rfl⟩ := List.mem_map.mp h
  rw [String.toList_ofList]
  intro hslash
  cases not_mem_of_mem_splitAt hpiece _ hslash

theorem spelled_parse (s : String) : (parse s).Spelled where
  root := by
    unfold parse
    dsimp only
    split
    · exact .inl rfl
    · split <;> exact .inr rfl
  names n hn := not_slash_of_mem_splitChar (List.mem_filter.mp hn).1

section
variable {p q : Path}

theorem Spelled.below (h : p.Spelled) {names : List String} (hnames : ∀ n ∈ names, '/' ∉ n.toList) :
    (p.below names).Spelled := ⟨h.root, List.forall_mem_append.mpr ⟨h.names, hnames⟩⟩

theorem Spelled.child (h : p.Spelled) {name : String} (hname : '/' ∉ name.toList) : (p.child name).Spelled :=
  h.below (List.forall_mem_singleton.mpr hname)

theorem Spelled.join (hp : p.Spelled) (hq : q.Spelled) : (p.join q).Spelled := by
  unfold Path.join
  split
  · exact hq
  · exact hp.below hq.names

theorem components_ne (hp : p.Spelled) (hq : q.Spelled) (ha : p.isAbsolute = true) (hb : q.isAbsolute = false) :
    p.components ≠ q.components := by
  intro h
  rw [components, if_pos ha, components, hb, if_neg Bool.false_ne_true] at h
  have hroot : '/' ∈ p.root.toList :=
    List.mem_of_mem_head? (hp.root.resolve_left (bne_iff_ne.mp ha))
  exact hq.names p.root (h ▸ List.mem_cons_self) hroot

/-- The names of an absolute path and its root are not the names of a relative path. -/
theorem eq_of_components (hp : p.Spelled) (hq : q.Spelled) (h : p.components = q.components) : p = q := by
  have hext (hroot : p.root = q.root) (hparts : p.parts = q.parts) : p = q := by
    cases p
    cases q
    exact congrArg₂ Path.mk hroot hparts
  cases ha : p.isAbsolute <;> cases hb : q.isAbsolute
  · rw [components, ha, components, hb] at h
    rw [isAbsolute, bne_eq_false_iff_eq] at ha hb
    exact hext (ha.trans hb.symm) h
  · exact absurd h.symm (components_ne hq hp hb ha)
  · exact absurd h (components_ne hp hq ha hb)
  · rw [components, ha, components, hb] at h
    obtain ⟨hroot, hparts⟩ := List.cons.inj h
    exact hext hroot hparts

theorem le_antisymm (hp : p.Spelled) (hq : q.Spelled) (h₁ : le p q = true) (h₂ : le q p = true) : p = q :=
  eq_of_components hp hq (namesLe_antisymm h₁ h₂)

end

end Path

namespace FileTree

open Glob

variable {t : FileTree} {l : Location} {c : Content} {n : Nat}

/-! ## Discovery -/

def chosen (t : FileTree) (base : Path) (parts : List PatternPart) : List Path :=
  if t.isDirectory base then select t parts base else []

theorem glob_eq (t : FileTree) (base : Path) (pattern : String) :
    glob t base pattern = (parse pattern).map (t.chosen base) := by
  unfold glob chosen
  cases parse pattern <;> rfl

theorem allBelow_eq (t : FileTree) (base : Path) :
    t.allBelow base = t.chosen base [.directories, .names [.any]] := rfl

/-- The source files among those that parsed patterns select or that lie in directories. -/
def sources (t : FileTree) (root : Path) (directories suffixes : List String) (patterns : List (List PatternPart)) :
    List Path :=
  (patterns.map (t.chosen root) ++ directories.map fun d => t.allBelow (root.join (.parse d))).flatten.filter
    (t.isSource root (suffixes.map lowercase))

theorem discover_eq (t : FileTree) (root : Path) (patterns directories suffixes : List String) :
    t.discover root patterns directories suffixes = (patterns.mapM parse).map fun parsed =>
      (t.sources root directories suffixes parsed).eraseDups.mergeSort Path.le := by
  have hglob : Glob.glob t root = fun pattern => (parse pattern).map (t.chosen root) := funext (glob_eq t root)
  unfold discover
  rw [hglob, mapM_map]
  cases patterns.mapM parse <;> rfl

theorem discover_of_sources {root : Path} {patterns directories suffixes : List String}
    {parsed : List (List PatternPart)} {files : List Path} (hparsed : patterns.mapM parse = .ok parsed)
    (h : t.sources root directories suffixes parsed = files) (hnodup : files.Nodup)
    (hsorted : files.Pairwise (Path.le · ·)) : t.discover root patterns directories suffixes = .ok files := by
  rw [discover_eq, hparsed]
  show Except.ok ((t.sources root directories suffixes parsed).eraseDups.mergeSort Path.le) = .ok files
  rw [h, eraseDups_of_nodup hnodup, List.mergeSort_of_pairwise hsorted]

theorem isSource_of_mem {root : Path} {patterns directories suffixes : List String} {files : List Path}
    (h : t.discover root patterns directories suffixes = .ok files) {p : Path} (hp : p ∈ files) :
    t.isFile p = true := by
  rw [discover_eq] at h
  cases hparsed : patterns.mapM parse with
  | error f => rw [hparsed] at h; cases h
  | ok parsed =>
    rw [hparsed] at h
    obtain rfl := Except.ok.inj h
    rw [List.mem_mergeSort, List.mem_eraseDups] at hp
    have hsource := (List.mem_filter.mp hp).2
    unfold isSource at hsource
    rw [Bool.and_eq_true, Bool.and_eq_true] at hsource
    exact hsource.1.1

section
variable (ht : t.Consistent) (hfile : t.entry? l = some (.file c n)) (hdots : ".." ∉ l)

include ht hfile hdots

theorem chosen_erase (base : Path) (parts : List PatternPart) :
    ((t.erase l).chosen base parts).filter (t.erase l).isFile = (t.chosen base parts).filter (t.erase l).isFile := by
  unfold chosen
  rw [isDirectory_erase hfile]
  split
  · exact select_erase hfile ht hdots parts base
  · rfl

theorem sources_erase (root : Path) (directories suffixes : List String) (patterns : List (List PatternPart)) :
    (t.erase l).sources root directories suffixes patterns =
      (t.sources root directories suffixes patterns).filter (t.place · != l) := by
  let other : Path → Bool := fun p => (suffixes.map lowercase).contains (lowercase p.suffix) && !isIgnored root p
  have hsource : ∀ (u : FileTree) (l : List Path),
      l.filter (u.isSource root (suffixes.map lowercase)) = (l.filter u.isFile).filter other := by
    intro u l
    rw [List.filter_filter]
    refine List.filter_congr fun p _ => ?_
    unfold isSource
    rw [Bool.and_assoc, Bool.and_comm]
  have hfiles : ∀ l' : List Path, (l'.filter (t.erase l).isFile) = (l'.filter t.isFile).filter (t.place · != l) := by
    intro l'
    rw [List.filter_filter]
    refine List.filter_congr fun p _ => ?_
    rw [isFile_erase hfile, Bool.and_comm]
  unfold sources
  rw [hsource, hsource, List.filter_comm (p := (t.place · != l)), ← hfiles]
  refine congrArg (List.filter other) ?_
  rw [List.filter_flatten, List.filter_flatten, List.map_append, List.map_append, List.map_map, List.map_map,
    List.map_map, List.map_map]
  refine congrArg List.flatten (congrArg₂ (· ++ ·) ?_ ?_)
  · exact List.map_congr_left fun parts _ => chosen_erase ht hfile hdots root parts
  · refine List.map_congr_left fun d _ => ?_
    dsimp only [Function.comp]
    rw [allBelow_eq, allBelow_eq]
    exact chosen_erase ht hfile hdots _ _

theorem discover_erase (root : Path) (patterns directories suffixes : List String) :
    (t.erase l).discover root patterns directories suffixes =
      (t.discover root patterns directories suffixes).map (·.filter (t.place · != l)) := by
  rw [discover_eq, discover_eq]
  cases patterns.mapM parse with
  | error f => rfl
  | ok parsed =>
    dsimp only [Except.map]
    rw [sources_erase ht hfile hdots, eraseDups_filter, mergeSort_filter Path.le_trans Path.le_total]

end

end FileTree

/-! ## Lists put together -/

/-- What several lists have, each path once and in order. -/
structure SortedUnion (lists : List (List Path)) (files : List Path) : Prop where
  nodup : files.Nodup
  sorted : files.Pairwise (Path.le · ·)
  mem_iff : ∀ p, p ∈ files ↔ ∃ l ∈ lists, p ∈ l

theorem SortedUnion.eq {lists others : List (List Path)} {files files' : List Path} (h : SortedUnion lists files)
    (h' : SortedUnion others files') (hsame : ∀ p, (∃ l ∈ lists, p ∈ l) ↔ ∃ l ∈ others, p ∈ l)
    (hspelled : ∀ p ∈ files, p.Spelled) : files = files' := by
  have hmem (p : Path) : p ∈ files ↔ p ∈ files' := by rw [h.mem_iff, h'.mem_iff, hsame]
  have hperm : files.Perm files' := (List.perm_ext_iff_of_nodup h.nodup h'.nodup).mpr hmem
  refine hperm.eq_of_pairwise (fun p q hp hq => ?_) h.sorted h'.sorted
  exact Path.le_antisymm (hspelled p hp) (hspelled q ((hmem q).mpr hq))

namespace FileTree

open Glob

variable {t : FileTree}

/-! ## Listings -/

theorem mem_children_iff {p : Path} {l : Location} (hl : t.locate p = .ok l) {n : String} {e : Entry} :
    (n, e) ∈ t.children p ↔ (l ++ [n], e) ∈ t.entries := by
  unfold children
  rw [hl]
  dsimp only
  rw [List.mem_filterMap]
  constructor
  · rintro ⟨⟨m, e'⟩, hm, hx⟩
    dsimp only at hx
    split at hx
    · next name hlast =>
      obtain ⟨hname, hpair⟩ := (Option.ite_none_right_eq_some ..).mp hx
      obtain ⟨rfl, rfl⟩ := Prod.mk.inj (Option.some.inj hpair)
      exact hname ▸ hm
    · cases hx
  · intro h
    exact ⟨(l ++ [n], e), h, by simp⟩

theorem mem_directoriesFrom_iff {p q : Path} {l : Location} (hl : t.locate p = .ok l) :
    q ∈ t.directoriesFrom p ↔ q = p ∨
      ∃ names e, names ≠ [] ∧ (l ++ names, e) ∈ t.entries ∧ e.isDirectory = true ∧ q = p.below names := by
  unfold directoriesFrom
  rw [hl]
  dsimp only
  rw [List.mem_cons, List.mem_filterMap]
  refine or_congr_right ⟨?_, ?_⟩
  · rintro ⟨⟨m, e⟩, hm, hx⟩
    dsimp only at hx
    obtain ⟨hinside, hq⟩ := (Option.ite_none_right_eq_some ..).mp hx
    simp only [Bool.and_eq_true, List.isPrefixOf_iff_prefix, decide_eq_true_eq] at hinside
    obtain ⟨⟨hdirectory, names, rfl⟩, hlonger⟩ := hinside
    rw [List.drop_left] at hq
    refine ⟨names, e, ?_, hm, hdirectory, (Option.some.inj hq).symm⟩
    rintro rfl
    simp at hlonger
  · rintro ⟨names, e, hne, hm, hdirectory, rfl⟩
    refine ⟨(l ++ names, e), hm, ?_⟩
    have hinside : (e.isDirectory && l.isPrefixOf (l ++ names) && decide (l.length < (l ++ names).length)) = true := by
      simpa [hdirectory] using List.length_pos_iff.mpr hne
    dsimp only
    rw [if_pos hinside, List.drop_left]
    rfl

/-! ## Spelling -/

theorem parse_eq (pattern : String) : parse pattern =
    if pattern.isEmpty then .error .empty
    else if (Path.parse pattern).isAbsolute then .error .absolute
    else (Path.parse pattern).parts.mapM partOf >>= fun parts =>
      if parts.isEmpty then .error (if hasTail pattern "/" then .onlySlash else .noPart)
      else .ok (if hasTail pattern "/" then parts ++ [.here] else parts) := by
  unfold parse
  rfl

theorem eq_of_partOf {s n : String} (h : partOf s = .ok (.name n)) : n = s := by
  unfold partOf at h
  split at h
  · cases h
  · split at h
    · cases h
    · split at h <;> cases h
      rfl

theorem parse_names {pattern : String} {parts : List PatternPart} (h : parse pattern = .ok parts) :
    ∀ n, .name n ∈ parts → '/' ∉ n.toList := by
  rw [parse_eq] at h
  split at h
  · cases h
  · split at h
    · cases h
    · obtain ⟨found, hfound, h⟩ := bind_eq_ok h
      have hnames : ∀ n, .name n ∈ found → '/' ∉ n.toList := by
        intro n hn
        obtain ⟨s, hs, hpart⟩ := mem_mapM hfound _ hn
        rw [eq_of_partOf hpart]
        exact (Path.spelled_parse pattern).names s hs
      split at h
      · cases h
      · obtain rfl := Except.ok.inj h
        split
        · intro n hn
          exact hnames n ((List.mem_append.mp hn).resolve_right (by simp))
        · exact hnames

/-- No name of an entry has a slash. -/
def Slashless (t : FileTree) : Prop := ∀ f ∈ t.entries, ∀ n ∈ f.1, '/' ∉ n.toList

theorem select_spelled (ht : t.Slashless) {parts : List PatternPart} (hparts : ∀ n, .name n ∈ parts → '/' ∉ n.toList)
    {p : Path} (hp : p.Spelled) : ∀ q ∈ select t parts p, q.Spelled := by
  induction parts generalizing p with
  | nil => exact List.forall_mem_singleton.mpr hp
  | cons part rest ih =>
    have ih {p : Path} (hp : p.Spelled) := ih (fun n hn => hparts n (List.mem_cons_of_mem part hn)) hp
    intro q hq
    unfold select at hq
    cases part with
    | here => exact List.mem_singleton.mp hq ▸ hp
    | name n => exact ih (hp.child (hparts n List.mem_cons_self)) q (List.mem_ite_nil_right.mp hq).2
    | names signs =>
      obtain ⟨⟨n, e⟩, hx, hq⟩ := List.mem_flatMap.mp hq
      have hx := List.mem_of_mem_filter hx
      cases hl : t.locate p with
      | error o => rw [children, hl] at hx; cases hx
      | ok l =>
        have hm := (mem_children_iff hl).mp hx
        exact ih (hp.child (ht _ hm n (List.mem_append_right l List.mem_cons_self))) q hq
    | directories =>
      obtain ⟨b, hb, hq⟩ := List.mem_flatMap.mp hq
      refine ih ?_ q hq
      cases hl : t.locate p with
      | error o => rw [directoriesFrom, hl] at hb; cases hb
      | ok l =>
        rcases (mem_directoriesFrom_iff hl).mp hb with rfl | ⟨names, e, -, hm, -, rfl⟩
        · exact hp
        · exact hp.below fun n hn => ht _ hm n (List.mem_append_right l hn)

theorem sources_spelled (ht : t.Slashless) {root : Path} (hroot : root.Spelled) {patterns : List String}
    {parsed : List (List PatternPart)} (hparsed : patterns.mapM parse = .ok parsed)
    (directories suffixes : List String) : ∀ p ∈ t.sources root directories suffixes parsed, p.Spelled := by
  have hchosen {base : Path} (hbase : base.Spelled) {parts : List PatternPart}
      (hparts : ∀ n, .name n ∈ parts → '/' ∉ n.toList) : ∀ p ∈ t.chosen base parts, p.Spelled := by
    intro p hp
    exact select_spelled ht hparts hbase p (List.mem_ite_nil_right.mp hp).2
  intro p hp
  obtain ⟨l, hl, hp⟩ := List.mem_flatten.mp (List.mem_of_mem_filter hp)
  rcases List.mem_append.mp hl with hl | hl
  · obtain ⟨parts, hparts, rfl⟩ := List.mem_map.mp hl
    obtain ⟨pattern, -, hpattern⟩ := mem_mapM hparsed _ hparts
    exact hchosen hroot (parse_names hpattern) p hp
  · obtain ⟨d, -, rfl⟩ := List.mem_map.mp hl
    exact hchosen (hroot.join (Path.spelled_parse d)) (by simp) p hp

/-! ## One search and several -/

inductive Search where
  | pattern (text : String)
  | directory (text : String)

/-- What one pattern or one directory discovers by itself. -/
def alone (t : FileTree) (root : Path) (suffixes : List String) : Search → Except PatternFault (List Path)
  | .pattern pattern => t.discover root [pattern] [] suffixes
  | .directory directory => t.discover root [] [directory] suffixes

def searches (patterns directories : List String) : List Search :=
  patterns.map .pattern ++ directories.map .directory

section
variable {root : Path} {patterns directories suffixes : List String} {parsed : List (List PatternPart)}
  {lists : List (List Path)} {files : List Path}

theorem discover_ok_iff : t.discover root patterns directories suffixes = .ok files ↔ ∃ parsed,
    patterns.mapM parse = .ok parsed ∧
      (t.sources root directories suffixes parsed).eraseDups.mergeSort Path.le = files := by
  rw [discover_eq]
  cases patterns.mapM parse with
  | error f => simp [Except.map]
  | ok parsed => simp [Except.map]

theorem exists_discover_iff (hparsed : patterns.mapM parse = .ok parsed) {p : Path} :
    (∃ files, t.discover root patterns directories suffixes = .ok files ∧ p ∈ files) ↔
      p ∈ t.sources root directories suffixes parsed := by
  constructor
  · rintro ⟨files, hfiles, hp⟩
    obtain ⟨parsed', hparsed', rfl⟩ := discover_ok_iff.mp hfiles
    cases hparsed.symm.trans hparsed'
    rwa [List.mem_mergeSort, List.mem_eraseDups] at hp
  · intro hp
    refine ⟨_, discover_ok_iff.mpr ⟨parsed, hparsed, rfl⟩, ?_⟩
    rwa [List.mem_mergeSort, List.mem_eraseDups]

/-- A search that does not fail finds a path. -/
def Finds (t : FileTree) (root : Path) (suffixes : List String) (p : Path) (search : Search) : Prop :=
  ∃ l, t.alone root suffixes search = .ok l ∧ p ∈ l

theorem exists_mem_iff_finds {searches : List Search} (h : searches.mapM (t.alone root suffixes) = .ok lists)
    (p : Path) : (∃ l ∈ lists, p ∈ l) ↔ ∃ s ∈ searches, t.Finds root suffixes p s := by
  constructor
  · rintro ⟨l, hl, hp⟩
    obtain ⟨s, hs, halone⟩ := mem_mapM h l hl
    exact ⟨s, hs, l, halone, hp⟩
  · rintro ⟨s, hs, l, halone, hp⟩
    obtain ⟨l', hl', halone'⟩ := mem_of_mapM h s hs
    cases halone.symm.trans halone'
    exact ⟨l, hl', hp⟩

theorem mem_sources_iff {p : Path} : p ∈ t.sources root directories suffixes parsed ↔
    (∃ parts ∈ parsed, p ∈ t.sources root [] suffixes [parts]) ∨
      ∃ d ∈ directories, p ∈ t.sources root [d] suffixes [] := by
  simp only [sources, List.mem_filter, List.mem_flatten, List.mem_append, List.mem_map, List.map_cons, List.map_nil,
    List.append_nil, List.nil_append, List.mem_singleton, exists_eq_left, or_and_right, exists_or,
    exists_exists_and_eq_and, ← and_assoc, exists_and_right]

theorem mem_sources_iff_finds (hparsed : patterns.mapM parse = .ok parsed) {p : Path} :
    p ∈ t.sources root directories suffixes parsed ↔
      ∃ s ∈ searches patterns directories, t.Finds root suffixes p s := by
  have hpattern {pattern : String} {parts : List PatternPart} (h : parse pattern = .ok parts) :
      t.Finds root suffixes p (.pattern pattern) ↔ p ∈ t.sources root [] suffixes [parts] :=
    exists_discover_iff (by rw [List.mapM_cons, h]; rfl)
  have hdirectory (d : String) : t.Finds root suffixes p (.directory d) ↔ p ∈ t.sources root [d] suffixes [] :=
    exists_discover_iff rfl
  have hpatterns : (∃ parts ∈ parsed, p ∈ t.sources root [] suffixes [parts]) ↔
      ∃ pattern ∈ patterns, t.Finds root suffixes p (.pattern pattern) := by
    constructor
    · rintro ⟨parts, hparts, hp⟩
      obtain ⟨pattern, hmem, h⟩ := mem_mapM hparsed parts hparts
      exact ⟨pattern, hmem, (hpattern h).mpr hp⟩
    · rintro ⟨pattern, hmem, hp⟩
      obtain ⟨parts, hparts, h⟩ := mem_of_mapM hparsed pattern hmem
      exact ⟨parts, hparts, (hpattern h).mp hp⟩
  rw [mem_sources_iff, hpatterns]
  simp [searches, hdirectory, or_and_right, exists_or]

theorem sorted_of_discover (h : t.discover root patterns directories suffixes = .ok files) :
    files.Nodup ∧ files.Pairwise (Path.le · ·) := by
  obtain ⟨parsed, -, rfl⟩ := discover_ok_iff.mp h
  exact ⟨(List.mergeSort_perm _ _).nodup_iff.mpr (nodup_eraseDups _),
    List.pairwise_mergeSort Path.le_trans Path.le_total _⟩

theorem sortedUnion_of_discover (h : t.discover root patterns directories suffixes = .ok files)
    (hlists : (searches patterns directories).mapM (t.alone root suffixes) = .ok lists) : SortedUnion lists files := by
  obtain ⟨hnodup, hsorted⟩ := sorted_of_discover h
  obtain ⟨parsed, hparsed, rfl⟩ := discover_ok_iff.mp h
  refine ⟨hnodup, hsorted, fun p => ?_⟩
  rw [List.mem_mergeSort, List.mem_eraseDups, exists_mem_iff_finds hlists, mem_sources_iff_finds hparsed]

/-- A search fails only for a pattern. -/
theorem exists_discover_iff_parse : (∃ files, t.discover root patterns directories suffixes = .ok files) ↔
    ∀ pattern ∈ patterns, ∃ parts, parse pattern = .ok parts := by
  constructor
  · rintro ⟨files, h⟩ pattern hpattern
    obtain ⟨parsed, hparsed, -⟩ := discover_ok_iff.mp h
    exact (mem_of_mapM hparsed pattern hpattern).imp fun parts h => h.2
  · intro h
    obtain ⟨parsed, hparsed⟩ := exists_mapM h
    exact ⟨_, discover_ok_iff.mpr ⟨parsed, hparsed, rfl⟩⟩

theorem exists_discover_iff_alone : (∃ files, t.discover root patterns directories suffixes = .ok files) ↔
    ∀ s ∈ searches patterns directories, ∃ l, t.alone root suffixes s = .ok l := by
  have hdirectory (d : String) : ∃ l, t.alone root suffixes (.directory d) = .ok l :=
    exists_discover_iff_parse.mpr nofun
  have hpattern (pattern : String) : (∃ l, t.alone root suffixes (.pattern pattern) = .ok l) ↔
      ∃ parts, parse pattern = .ok parts := exists_discover_iff_parse.trans List.forall_mem_singleton
  rw [exists_discover_iff_parse]
  simp [searches, or_imp, forall_and, hdirectory, hpattern]

theorem spelled_of_discover (ht : t.Slashless) (hroot : root.Spelled)
    (h : t.discover root patterns directories suffixes = .ok files) : ∀ p ∈ files, p.Spelled := by
  obtain ⟨parsed, hparsed, rfl⟩ := discover_ok_iff.mp h
  intro p hp
  rw [List.mem_mergeSort, List.mem_eraseDups] at hp
  exact sources_spelled ht hroot hparsed directories suffixes p hp

/-- What is discovered is put together from what each pattern and each directory discovers alone. -/
theorem discover_eq_ok_iff (ht : t.Slashless) (hroot : root.Spelled) :
    t.discover root patterns directories suffixes = .ok files ↔
      ∃ lists, (searches patterns directories).mapM (t.alone root suffixes) = .ok lists ∧ SortedUnion lists files := by
  constructor
  · intro h
    obtain ⟨lists, hlists⟩ := exists_mapM (exists_discover_iff_alone.mp ⟨files, h⟩)
    exact ⟨lists, hlists, sortedUnion_of_discover h hlists⟩
  · rintro ⟨lists, hlists, hunion⟩
    obtain ⟨files', h⟩ := exists_discover_iff_alone.mpr fun s hs => (mem_of_mapM hlists s hs).imp fun l hl => hl.2
    rw [h, (sortedUnion_of_discover h hlists).eq hunion (fun _ => Iff.rfl) (spelled_of_discover ht hroot h)]

/-- What is discovered does not depend on the order of the patterns and directories, or on how often one is given. -/
theorem discover_congr (ht : t.Slashless) (hroot : root.Spelled) {patterns' directories' : List String}
    (hsame : ∀ s, s ∈ searches patterns directories ↔ s ∈ searches patterns' directories') :
    (t.discover root patterns directories suffixes).toOption =
      (t.discover root patterns' directories' suffixes).toOption := by
  have hok : (∃ files, t.discover root patterns directories suffixes = .ok files) ↔
      ∃ files, t.discover root patterns' directories' suffixes = .ok files := by
    rw [exists_discover_iff_alone, exists_discover_iff_alone]
    exact forall_congr' fun s => imp_congr_left (hsame s)
  cases h : t.discover root patterns directories suffixes with
  | error f =>
    cases h' : t.discover root patterns' directories' suffixes with
    | error f' => rfl
    | ok files' => cases h.symm.trans (hok.mpr ⟨files', h'⟩).choose_spec
  | ok files =>
    obtain ⟨files', h'⟩ := hok.mp ⟨files, h⟩
    obtain ⟨lists, hlists, hunion⟩ := (discover_eq_ok_iff ht hroot).mp h
    obtain ⟨lists', hlists', hunion'⟩ := (discover_eq_ok_iff ht hroot).mp h'
    have hmem (p : Path) : (∃ l ∈ lists, p ∈ l) ↔ ∃ l ∈ lists', p ∈ l := by
      rw [exists_mem_iff_finds hlists, exists_mem_iff_finds hlists']
      exact exists_congr fun s => and_congr_left' (hsame s)
    rw [h', hunion.eq hunion' hmem (spelled_of_discover ht hroot h)]

end

end FileTree

/-! ## Warnings put in -/

/-- `after` has the texts of `before` in their order, and those of `extra` among them. -/
structure PutIn (extra before after : List String) : Prop where
  sublist : before.Sublist after
  perm : after.Perm (extra ++ before)

theorem PutIn.append_right {extra before after : List String} (h : PutIn extra before after) (l : List String) :
    PutIn extra (before ++ l) (after ++ l) := by
  refine ⟨h.sublist.append_right l, ?_⟩
  rw [← List.append_assoc]
  exact h.perm.append_right l

/-- Two results that fail alike, or that find the same and differ in their warnings by `extra` only. -/
inductive SameBut {ε α : Type} (extra : List String) : Except ε (α × List String) → Except ε (α × List String) → Prop
  | error (f : ε) : SameBut extra (.error f) (.error f)
  | ok (a : α) {before after : List String} : PutIn extra before after → SameBut extra (.ok (a, before)) (.ok (a, after))

/-- Two outcomes that fail alike, or with values that agree and warnings that differ by `extra` only. -/
inductive Outcome.SameBut {α : Type} (agree : α → α → Prop) (extra : List String) : Outcome α → Outcome α → Prop
  | fail (f : Failure) : SameBut agree extra (.fail f) (.fail f)
  | ok {a b : α} {before after : List String} : agree a b → PutIn extra before after →
      SameBut agree extra (.ok a before) (.ok b after)

/-! ## Scans -/

def skipWarning (c : SkipCause) (p : Path) : String := "Skipped " ++ p.text ++ ": " ++ c.word

theorem scanFiles_filter {ε α : Type} {read read' : Path → FileReading ε α} {keep : Path → Bool} {cause : SkipCause}
    {files : List Path} (hkeep : ∀ p ∈ files, keep p = true → read' p = read p)
    (hskip : ∀ p ∈ files, keep p = false → read p = .skipped cause) :
    SameBut ((files.filter (!keep ·)).map (skipWarning cause)) (scanFiles read' (files.filter keep))
      (scanFiles read files) := by
  induction files with
  | nil => exact .ok [] ⟨.refl _, .refl _⟩
  | cons p files ih =>
    have ih := ih (fun q hq => hkeep q (List.mem_cons_of_mem p hq)) fun q hq => hskip q (List.mem_cons_of_mem p hq)
    -- Either both scans of the rest fail alike, or the items of this file go before those of both.
    generalize hbefore : scanFiles read' (files.filter keep) = before at ih
    generalize hafter : scanFiles read files = after at ih
    cases hp : keep p with
    | false =>
      have hleft : (p :: files).filter keep = files.filter keep := List.filter_cons_of_neg (by simp [hp])
      have hout : (p :: files).filter (!keep ·) = p :: files.filter (!keep ·) :=
        List.filter_cons_of_pos (by simp [hp])
      rw [hleft, hout, List.map_cons, hbefore, scanFiles, hskip p (List.mem_cons_self ..) hp]
      dsimp only
      rw [hafter]
      cases ih with
      | error f => exact .error f
      | ok items h => exact .ok items ⟨h.sublist.cons _, h.perm.cons _⟩
    | true =>
      have hout : (p :: files).filter (!keep ·) = files.filter (!keep ·) := List.filter_cons_of_neg (by simp [hp])
      rw [List.filter_cons_of_pos hp, hout, scanFiles, scanFiles, hkeep p (List.mem_cons_self ..) hp]
      cases read p with
      | broken f => exact .error f
      | items l =>
        dsimp only
        rw [hbefore, hafter]
        cases ih with
        | error f => exact .error f
        | ok items h => exact .ok (l ++ items) h
      | skipped c =>
        dsimp only
        rw [hbefore, hafter]
        cases ih with
        | error f => exact .error f
        | ok items h => exact .ok items ⟨h.sublist.cons_cons _, (h.perm.cons _).trans List.perm_middle.symm⟩

def FileReading.fault? {ε α : Type} : FileReading ε α → Option ε
  | .broken f => some f
  | .items _ | .skipped _ => none

/-- A scan ends with the fault of the first file that breaks it, and is whole when there is none. -/
theorem fault?_scanFiles {ε α : Type} (read : Path → FileReading ε α) (files : List Path) :
    fault? (scanFiles read files) = files.findSome? fun p => (read p).fault? := by
  induction files with
  | nil => rfl
  | cons p files ih =>
    rw [List.findSome?_cons, scanFiles, ← ih]
    cases read p with
    | broken f => rfl
    | items l => exact fault?_map _ _
    | skipped c => exact fault?_map _ _

namespace FileTree

variable {ε α : Type} {t : FileTree} {cause : SkipCause}

theorem readText_of_place {p q : Path} (hp : t.isFile p = true) (hq : t.isFile q = true) (h : t.place p = t.place q) :
    t.readText p = t.readText q := by
  obtain ⟨c, n, hl, he⟩ := entry_of_isFile hp
  obtain ⟨d, m, hl', he'⟩ := entry_of_isFile hq
  rw [h] at he
  cases he.symm.trans he'
  unfold readText readExactly
  rw [read_text hl (h ▸ he), read_text hl' he]

/-- Whether the items of a text pass it over does not depend on the path it is read from. -/
def PassesOver (items : Path → String → FileReading ε α) : Prop :=
  ∀ (p q : Path) (s : String) (cause : SkipCause), items p s = .skipped cause → items q s = .skipped cause

theorem readWith_skipped {items : Path → String → FileReading ε α} (hitems : PassesOver items) {p q : Path}
    (hp : t.isFile p = true) (hq : t.isFile q = true) (h : t.place p = t.place q)
    (hskip : t.readWith (items p) p = .skipped cause) : t.readWith (items q) q = .skipped cause := by
  unfold readWith at hskip ⊢
  rw [← readText_of_place hp hq h]
  cases htext : t.readText p with
  | error f =>
    rw [htext] at hskip
    cases f <;> exact hskip
  | ok s =>
    rw [htext] at hskip
    exact hitems p q s cause hskip

/-- The warnings about a file that is passed over, one for each path under which it was found. -/
def skipWarnings (t : FileTree) (files : List Path) (p : Path) (cause : SkipCause) : List String :=
  (files.filter (t.place · == t.place p)).map (skipWarning cause)

/-- Without a file that is passed over a scan finds the same, and warns of all but the file. -/
theorem scan_erase (ht : t.Consistent) {root : Path} {patterns directories suffixes : List String} {files : List Path}
    (hfiles : t.discover root patterns directories suffixes = .ok files) {items : Path → String → FileReading ε α}
    (hitems : PassesOver items) {p : Path} (hp : p ∈ files) (hskip : t.readWith (items p) p = .skipped cause) :
    ∃ others, (t.erase (t.place p)).discover root patterns directories suffixes = .ok others ∧
      SameBut (t.skipWarnings files p cause)
        (scanFiles (fun q => (t.erase (t.place p)).readWith (items q) q) others)
        (scanFiles (fun q => t.readWith (items q) q) files) := by
  obtain ⟨c, n, -, hfile⟩ := entry_of_isFile (isSource_of_mem hfiles hp)
  refine ⟨files.filter (t.place · != t.place p), ?_, ?_⟩
  · rw [discover_erase ht hfile (dots_not_mem_place ht.home p), hfiles]
    rfl
  · have hout : t.skipWarnings files p cause =
        (files.filter fun q => !(t.place q != t.place p)).map (skipWarning cause) := by
      unfold skipWarnings bne
      simp only [Bool.not_not]
    rw [hout]
    refine scanFiles_filter (fun q hq hne => ?_) fun q hq heq => ?_
    · unfold readWith
      rw [readText_erase hfile (isSource_of_mem hfiles hq) (bne_iff_ne.mp hne)]
    · rw [bne_eq_false_iff_eq] at heq
      exact readWith_skipped hitems (isSource_of_mem hfiles hp) (isSource_of_mem hfiles hq) heq.symm hskip

end FileTree

end SchemaConcord
