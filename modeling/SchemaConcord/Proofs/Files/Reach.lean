import SchemaConcord.Proofs.Files.Discovery
import SchemaConcord.Proofs.Naming.Spelling

/-!
# What a pattern reaches

The pattern for one kind of file below directories of one name reaches exactly the files that its words say, each once,
however often the name stands in a path (`discover_exact`).
-/

namespace SchemaConcord

open Text

namespace FileTree

open Glob

variable {t : FileTree} {p q : Path} {l : Location} {names : List String}

/-! ## Trees -/

/-- A tree as it is on a disk: every place is listed once and lies in a directory, and no name leads back or has a
slash. -/
structure Formed (t : FileTree) : Prop where
  entries : (t.entries.map (·.1)).Nodup
  around : ∀ f ∈ t.entries, (t.entry? f.1.dropLast).any Entry.isDirectory = true
  undotted : ∀ f ∈ t.entries, ".." ∉ f.1
  slashless : t.Slashless

theorem Formed.entry?_iff (ht : t.Formed) {e : Entry} (hl : l ≠ []) : t.entry? l = some e ↔ (l, e) ∈ t.entries := by
  rw [entry?_eq_lookup hl]
  exact ⟨mem_of_lookup, lookup_of_mem ht.entries⟩

theorem Formed.dropLast (ht : t.Formed) {e : Entry} (he : t.entry? l = some e) :
    (t.entry? l.dropLast).any Entry.isDirectory = true := by
  by_cases hl : l = []
  · rw [hl]
    rfl
  · exact ht.around (l, e) ((ht.entry?_iff hl).mp he)

theorem Formed.not_dots (ht : t.Formed) {e : Entry} (he : t.entry? l = some e) : ".." ∉ l := by
  by_cases hl : l = []
  · rw [hl]
    exact List.not_mem_nil
  · exact ht.undotted (l, e) ((ht.entry?_iff hl).mp he)

theorem directory_of_any {e : Option Entry} (h : e.any Entry.isDirectory = true) : ∃ k, e = some (.directory k) := by
  match e, h with
  | some (.directory k), _ => exact ⟨k, rfl⟩

/-- What lies around an entry are directories. -/
theorem Formed.around_append (ht : t.Formed) {e : Entry} (hne : names ≠ []) (he : t.entry? (l ++ names) = some e) :
    (t.entry? l).any Entry.isDirectory = true := by
  induction names using List.reverseRecOn generalizing e with
  | nil => exact absurd rfl hne
  | append_singleton names n ih =>
    have hd := ht.dropLast he
    rw [← List.append_assoc, List.dropLast_concat] at hd
    by_cases hnil : names = []
    · rwa [hnil, List.append_nil] at hd
    · obtain ⟨k, hk⟩ := directory_of_any hd
      exact ih hnil hk

theorem follow_below (ht : t.Formed) (hdots : ".." ∉ names) :
    (t.follow l names).toOption.bind t.entry? = t.entry? (l ++ names) := by
  induction names generalizing l with
  | nil => rw [List.append_nil]; rfl
  | cons n names ih =>
    have hnone (h : (t.entry? l).any Entry.isDirectory = false) : t.entry? (l ++ n :: names) = none := by
      rw [Option.eq_none_iff_forall_ne_some]
      intro e he
      cases h.symm.trans (ht.around_append (List.cons_ne_nil n names) he)
    rw [follow]
    cases he : t.entry? l with
    | none => exact (hnone (by rw [he]; rfl)).symm
    | some e =>
      cases e with
      | file c k => exact (hnone (by rw [he]; rfl)).symm
      | directory k =>
        have hn : n ≠ ".." := fun h => hdots (h ▸ List.mem_cons_self)
        dsimp only
        rw [if_neg hn, ih fun h => hdots (List.mem_cons_of_mem n h), List.append_assoc, List.singleton_append]

theorem follow_entry (ht : t.Formed) {e : Entry} (he : t.entry? (l ++ names) = some e) :
    t.follow l names = .ok (l ++ names) := by
  induction names generalizing l with
  | nil => rw [List.append_nil]; rfl
  | cons n names ih =>
    obtain ⟨k, hk⟩ := directory_of_any (ht.around_append (List.cons_ne_nil n names) he)
    have hn : n ≠ ".." := fun h => ht.not_dots he (h ▸ List.mem_append_right l List.mem_cons_self)
    rw [List.append_cons] at he ⊢
    rw [follow, hk]
    dsimp only
    rw [if_neg hn, ih he]

theorem exists_locate {m : Location} (h : t.locate (p.below names) = .ok m) : ∃ l, t.locate p = .ok l := by
  have hbind : (t.locate p).bind (fun l => t.follow l names) = .ok m := (follow_append_bind p.parts names).symm.trans h
  cases hl : t.locate p with
  | error o => rw [hl] at hbind; cases hbind
  | ok l => exact ⟨l, rfl⟩

theorem locate_append (hl : t.locate p = .ok l) : t.locate (p.below names) = t.follow l names := by
  show t.follow _ (p.parts ++ names) = _
  rw [follow_append_bind]
  show (t.locate p).bind _ = _
  rw [hl]
  rfl

/-- Below a place the entry for a path is the one that its names say. -/
theorem at?_below (ht : t.Formed) (hl : t.locate p = .ok l) (hdots : ".." ∉ names) :
    t.at? (p.below names) = t.entry? (l ++ names) := by
  rw [at?, locate_append hl, follow_below ht hdots]

theorem locate_below (ht : t.Formed) (hl : t.locate p = .ok l) {e : Entry} (he : t.entry? (l ++ names) = some e) :
    t.locate (p.below names) = .ok (l ++ names) := (locate_append hl).trans (follow_entry ht he)

/-! ## Selections -/

section
variable (ht : t.Formed) (hl : t.locate p = .ok l)

include ht hl

theorem mem_directoriesFrom_formed (hd : (t.entry? l).any Entry.isDirectory = true) :
    q ∈ t.directoriesFrom p ↔ ∃ names, (t.entry? (l ++ names)).any Entry.isDirectory = true ∧ q = p.below names := by
  rw [mem_directoriesFrom_iff hl]
  constructor
  · rintro (rfl | ⟨names, e, hne, hm, he, rfl⟩)
    · exact ⟨[], by rwa [List.append_nil], by simp [Path.below]⟩
    · rw [← ht.entry?_iff (List.append_ne_nil_of_right_ne_nil l hne)] at hm
      exact ⟨names, by rw [hm]; exact he, rfl⟩
  · rintro ⟨names, hdirectory, rfl⟩
    by_cases hne : names = []
    · exact .inl (by simp [Path.below, hne])
    · obtain ⟨k, hk⟩ := directory_of_any hdirectory
      exact .inr ⟨names, .directory k, hne, (ht.entry?_iff (List.append_ne_nil_of_right_ne_nil l hne)).mp hk, rfl, rfl⟩

theorem mem_select_directories (hd : (t.entry? l).any Entry.isDirectory = true) {rest : List PatternPart} :
    q ∈ select t (.directories :: rest) p ↔
      ∃ names, (t.entry? (l ++ names)).any Entry.isDirectory = true ∧ q ∈ select t rest (p.below names) := by
  rw [select, List.mem_flatMap]
  simp only [mem_directoriesFrom_formed ht hl hd]
  constructor
  · rintro ⟨b, ⟨names, hnames, rfl⟩, hq⟩
    exact ⟨names, hnames, hq⟩
  · rintro ⟨names, hnames, hq⟩
    exact ⟨_, ⟨names, hnames, rfl⟩, hq⟩

theorem mem_select_name {d : String} (hdots : d ≠ "..") {part : PatternPart} {rest : List PatternPart} :
    q ∈ select t (.name d :: part :: rest) p ↔
      (t.entry? (l ++ [d])).any Entry.isDirectory = true ∧ q ∈ select t (part :: rest) (p.below [d]) := by
  have hat : t.at? (p.child d) = t.entry? (l ++ [d]) :=
    at?_below ht hl fun h => hdots (List.mem_singleton.mp h).symm
  rw [select, List.isEmpty_cons, if_neg Bool.false_ne_true, List.mem_ite_nil_right, isDirectory, hat]
  rfl

theorem mem_select_names {signs : List NameSign} : q ∈ select t [.names signs] p ↔
    ∃ n e, t.entry? (l ++ [n]) = some e ∧ «matches» signs n.toList = true ∧ q = p.below [n] := by
  have hentry (n : String) (e : Entry) : (n, e) ∈ t.children p ↔ t.entry? (l ++ [n]) = some e := by
    rw [mem_children_iff hl, ht.entry?_iff (List.append_ne_nil_of_right_ne_nil l (List.cons_ne_nil n []))]
  simp [select, hentry, Path.child, Path.below, and_assoc]

/-- What a pattern selects that asks for names below directories of one name. -/
theorem mem_select_below (hd : (t.entry? l).any Entry.isDirectory = true) {d : String} (hdots : d ≠ "..")
    {signs : List NameSign} : q ∈ select t [.directories, .name d, .directories, .names signs] p ↔
      ∃ around n e, t.entry? (l ++ (around ++ [n])) = some e ∧ d ∈ around ∧ «matches» signs n.toList = true ∧
        q = p.below (around ++ [n]) := by
  have hplace {names : List String} (h : (t.entry? (l ++ names)).any Entry.isDirectory = true) :
      t.locate (p.below names) = .ok (l ++ names) := by
    obtain ⟨k, hk⟩ := directory_of_any h
    exact locate_below ht hl hk
  rw [mem_select_directories ht hl hd]
  constructor
  · rintro ⟨a, ha, hq⟩
    obtain ⟨had, hq⟩ := (mem_select_name ht (hplace ha) hdots).mp hq
    rw [List.append_assoc] at had
    rw [Path.below_below] at hq
    obtain ⟨b, hb, hq⟩ := (mem_select_directories ht (hplace had) had).mp hq
    rw [List.append_assoc] at hb
    rw [Path.below_below] at hq
    obtain ⟨n, e, he, hn, rfl⟩ := (mem_select_names ht (hplace hb)).mp hq
    exact ⟨a ++ [d] ++ b, n, e, by rwa [List.append_assoc] at he, by simp, hn, Path.below_below ..⟩
  · rintro ⟨around, n, e, he, hmem, hn, rfl⟩
    obtain ⟨a, b, rfl⟩ := List.append_of_mem hmem
    -- All that stands before the last name is a directory.
    have haround (names others : List String) (h : a ++ d :: b ++ [n] = names ++ others) (hne : others ≠ []) :
        (t.entry? (l ++ names)).any Entry.isDirectory = true := by
      rw [h, ← List.append_assoc] at he
      exact ht.around_append hne he
    have ha := haround a (d :: b ++ [n]) (by simp) (by simp)
    have had := haround (a ++ [d]) (b ++ [n]) (by simp) (by simp)
    have hb := haround (a ++ [d] ++ b) [n] (by simp) (by simp)
    refine ⟨a, ha, (mem_select_name ht (hplace ha) hdots).mpr ⟨by rwa [List.append_assoc], ?_⟩⟩
    rw [Path.below_below]
    refine (mem_select_directories ht (hplace had) had).mpr ⟨b, by rwa [List.append_assoc], ?_⟩
    rw [Path.below_below]
    refine (mem_select_names ht (hplace hb)).mpr ⟨n, e, ?_, hn, ?_⟩
    · rw [List.append_assoc]
      simpa using he
    · rw [Path.below_below]
      simp

end

end FileTree

/-! ## Names -/

namespace Glob

/-- Characters that have a meaning in a pattern. -/
def marks : List Char := ['*', '?', '[']

theorem nameSigns_plain {cs : List Char} (h : ∀ c ∈ cs, c ∉ marks) {fuel : Nat} (hfuel : cs.length ≤ fuel) :
    nameSigns fuel cs = cs.map .char := by
  induction cs generalizing fuel with
  | nil => cases fuel <;> rfl
  | cons c cs ih =>
    cases fuel with
    | zero => cases hfuel
    | succ fuel =>
      obtain ⟨hc, hcs⟩ := List.forall_mem_cons.mp h
      simp only [marks, List.mem_cons, List.not_mem_nil, or_false, not_or] at hc
      rw [nameSigns, ih hcs (Nat.le_of_succ_le_succ hfuel)]
      simp [hc]

theorem matches_plain {cs ds : List Char} : «matches» (ds.map .char) cs = true ↔ cs = ds := by
  induction ds generalizing cs with
  | nil => simp [«matches»]
  | cons d ds ih =>
    cases cs with
    | nil => simp [«matches»]
    | cons c cs =>
      simp [«matches», NameSign.accepts, ih]

theorem mem_ends {α : Type} {as bs : List α} : as ∈ ends bs ↔ as <:+ bs := by
  induction bs with
  | nil => simp [ends]
  | cons b bs ih => simp [ends, ih, List.suffix_cons_iff]

theorem matches_tail {cs ds : List Char} : «matches» (.any :: ds.map .char) cs = true ↔ ds <:+ cs := by
  rw [«matches», List.any_eq_true]
  simp [mem_ends, matches_plain]

end Glob

namespace Path

/-- A suffix is empty, or the last dot of a name with what follows it. -/
theorem splitName_cases (name : String) : (splitName name).2 = "" ∨
    ∃ tail, (splitName name).2 = String.ofList ('.' :: tail) ∧ '.' ∉ tail ∧ '.' :: tail <:+ name.toList := by
  unfold splitName
  dsimp only
  split
  · exact .inl rfl
  · next h =>
    simp only [Bool.or_eq_true, decide_eq_true_eq, not_or, Nat.not_le] at h
    refine .inr ⟨_, rfl, ?_, ?_⟩
    · intro hdot
      simpa using List.mem_takeWhile_imp (List.mem_reverse.mp hdot)
    · rw [← List.reverse_prefix, List.reverse_cons, List.reverse_reverse]
      have hsplit := List.takeWhile_append_dropWhile (p := (· != '.')) (l := name.toList.reverse)
      cases hrest : name.toList.reverse.dropWhile (· != '.') with
      | nil =>
        rw [hrest, List.append_nil] at hsplit
        have hlength := congrArg List.length hsplit
        simp only [List.length_reverse] at hlength h
        omega
      | cons c rest =>
        have hmark := List.head?_dropWhile_not (· != '.') name.toList.reverse
        rw [hrest] at hmark hsplit
        obtain rfl : c = '.' := by simpa using hmark
        exact ⟨rest, (List.append_assoc ..).trans hsplit⟩

theorem lowercase_of_small {s : String} (h : ∀ c ∈ s.toList, Small c) : lowercase s = s := by
  rw [lowercase, lower_of_small h, String.ofList_toList]

theorem small_ending {e : String} (he : lowercase e = e) : ∀ c ∈ '.' :: e.toList, Small c := by
  rw [lowercase, ← String.toList_inj, String.toList_ofList] at he
  exact List.forall_mem_cons.mpr ⟨by decide, small_of_lower he⟩

theorem toList_dot (e : String) : ("." ++ e).toList = '.' :: e.toList := String.toList_append

theorem lowercase_ending {e : String} (he : lowercase e = e) : lowercase ("." ++ e) = "." ++ e :=
  lowercase_of_small (toList_dot e ▸ small_ending he)

/-- When a name ends in a dot and small letters, they are its suffix if they are it in small letters. -/
theorem suffix_eq_iff {name e : String} (he : lowercase e = e) :
    ('.' :: e.toList <:+ name.toList ∧ lowercase (splitName name).2 = "." ++ e) ↔ (splitName name).2 = "." ++ e := by
  constructor
  · rintro ⟨hends, hlower⟩
    rw [← hlower]
    refine (lowercase_of_small ?_).symm
    rcases splitName_cases name with hempty | ⟨tail, heq, hdot, htail⟩
    · rw [hempty]
      nofun
    · rw [heq, String.toList_ofList]
      intro c hc
      -- The suffix begins at the last dot, so it is not longer than what the name ends in.
      rcases List.suffix_or_suffix_of_suffix htail hends with h | h
      · exact small_ending he c (h.subset hc)
      · rcases List.suffix_cons_iff.mp h with h | h
        · exact small_ending he c (h ▸ hc)
        · exact absurd (h.subset List.mem_cons_self) hdot
  · intro h
    refine ⟨?_, by rw [h, lowercase_ending he]⟩
    rcases splitName_cases name with hempty | ⟨tail, heq, -, htail⟩
    · rw [hempty] at h
      have hnil := congrArg String.toList h
      rw [toList_dot] at hnil
      cases hnil
    · rw [heq, ← String.toList_inj, String.toList_ofList, toList_dot] at h
      rwa [← h]

end Path

namespace Glob

/-! ## The pattern -/

/-- A name that a pattern takes as it is. -/
structure Literal (name : String) : Prop where
  plain : ∀ c ∈ name.toList, c ∉ marks
  slashless : '/' ∉ name.toList

/-- The name of a directory that a pattern may ask for. -/
structure DirectoryName (d : String) : Prop extends Literal d where
  ne : d ≠ ""
  undotted : d ≠ "." ∧ d ≠ ".."

/-- What stands behind the dot of a suffix, in small letters. -/
structure Extension (e : String) : Prop extends Literal e where
  small : lowercase e = e

def below (d e : String) : String := "**/" ++ d ++ "/**/*." ++ e

def belowParts (d e : String) : List PatternPart :=
  [.directories, .name d, .directories, .names (.any :: ('.' :: e.toList).map .char)]

theorem partOf_literal {name : String} (h : Literal name) : partOf name = .ok (.name name) := by
  have hfree (word : String) (c : Char) (hc : c ∈ word.toList) (hmark : c ∈ marks) : contains name word = false :=
    occursIn_of_not_mem hc fun hmem => h.plain c hmem hmark
  have hstars : name ≠ "**" := by
    rintro rfl
    exact h.plain '*' (by decide) (by decide)
  rw [partOf, if_neg hstars, hfree "**" '*' (by decide) (by decide)]
  simp [hfree "*" '*' (by decide) (by decide), hfree "?" '?' (by decide) (by decide),
    hfree "[" '[' (by decide) (by decide)]

theorem toList_ending (e : String) : ("*." ++ e).toList = '*' :: '.' :: e.toList := String.toList_append

theorem partOf_ending {e : String} (h : Literal e) :
    partOf ("*." ++ e) = .ok (.names (.any :: ('.' :: e.toList).map .char)) := by
  have hnone : occursIn ['*', '*'] e.toList = false :=
    occursIn_of_not_mem List.mem_cons_self fun hmem => h.plain '*' hmem (by decide)
  have hstars : contains ("*." ++ e) "**" = false := by
    rw [contains, toList_ending]
    simp [occursIn, hnone, List.isPrefixOf]
  have hstar : contains ("*." ++ e) "*" = true := by
    rw [contains, toList_ending]
    simp [occursIn]
  have hne : "*." ++ e ≠ "**" := by
    intro heq
    rw [heq] at hstars
    exact absurd hstars (by decide)
  have hsigns : nameSigns ("*." ++ e).length ("*." ++ e).toList = .any :: ('.' :: e.toList).map .char := by
    rw [← String.length_toList, toList_ending, List.length_cons, nameSigns,
      nameSigns_plain (List.forall_mem_cons.mpr ⟨by decide, h.plain⟩) (le_refl _)]
    rfl
  rw [partOf, if_neg hne, hstars, hsigns]
  simp [hstar]

theorem hasTail_below {d e : String} (he : Literal e) : hasTail (below d e) "/" = false := by
  have hchars : (below d e).toList = ("**/" ++ d ++ "/**/").toList ++ '*' :: '.' :: e.toList := by
    simp [below]
  rw [Bool.eq_false_iff]
  intro h
  have hlast := getLast?_of_hasTail h (c := '/') rfl
  rw [hchars, List.getLast?_append_of_ne_nil _ (List.cons_ne_nil _ _)] at hlast
  simpa [he.slashless] using List.mem_of_getLast? hlast

theorem parse_below {d e : String} (hd : DirectoryName d) (he : Literal e) :
    parse (below d e) = .ok (belowParts d e) := by
  have hchars : (below d e).toList =
      ['/'].intercalate ["**".toList, d.toList, "**".toList, ("*." ++ e).toList] := by
    simp [below, List.intercalate_cons_cons]
  have hpieces : splitChar '/' (below d e) = ["**", d, "**", "*." ++ e] := by
    rw [splitChar, hchars, splitAt_intercalate (List.cons_ne_nil _ _)]
    · simp only [List.map_cons, List.map_nil, String.ofList_toList]
    · simpa using ⟨hd.slashless, he.slashless⟩
  have hslashes : (below d e).toList.takeWhile (· == '/') = [] := by
    rw [hchars]
    rfl
  have hpath : Path.parse (below d e) = ⟨"", ["**", d, "**", "*." ++ e]⟩ := by
    have hending : "*." ++ e ≠ "." := fun h => by simpa using congrArg (·.toList.head?) h
    rw [Path.parse, hpieces, hslashes]
    simp [hd.ne, hd.undotted.1, hending]
  have hparts : ["**", d, "**", "*." ++ e].mapM partOf = .ok (belowParts d e) := by
    have hstars : partOf "**" = .ok .directories := by decide
    simp only [List.mapM_cons, List.mapM_nil, hstars, partOf_literal hd.toLiteral, partOf_ending he]
    rfl
  have hempty : (below d e).isEmpty = false := by
    rw [← Bool.not_eq_true, String.isEmpty_iff, ← String.toList_inj, hchars]
    nofun
  rw [FileTree.parse_eq, hempty, hpath, hasTail_below he]
  dsimp only
  rw [hparts]
  rfl

end Glob

/-! ## What is discovered -/

theorem isIgnored_below (root : Path) (names : List String) :
    isIgnored root (root.below names) = names.dropLast.any ignoredDirectories.contains := by
  have hrelative : (root.below names).relativeTo? root = some names := by
    simp [Path.relativeTo?, Path.below]
  rw [isIgnored, hrelative]
  rfl

theorem Path.suffix_below (p : Path) (names : List String) (n : String) :
    (p.below (names ++ [n])).suffix = (splitName n).2 := by
  simp [suffix, name, below]

namespace FileTree

open Glob

variable {t : FileTree} {root p : Path} {d e : String}

theorem isDirectory_iff : t.isDirectory p = true ↔
    ∃ l, t.locate p = .ok l ∧ (t.entry? l).any Entry.isDirectory = true := by
  unfold isDirectory at?
  cases t.locate p with
  | error o => simp [Except.toOption]
  | ok l => simp [Except.toOption]

theorem isSource_below_iff (he : lowercase e = e) {names : List String} {n : String} :
    '.' :: e.toList <:+ n.toList ∧ t.isSource root [lowercase ("." ++ e)] (root.below (names ++ [n])) = true ↔
      t.isFile (root.below (names ++ [n])) = true ∧ (root.below (names ++ [n])).suffix = "." ++ e ∧
        ∀ x ∈ names, x ∉ ignoredDirectories := by
  rw [isSource, isIgnored_below, Path.suffix_below, ← Path.suffix_eq_iff he, List.dropLast_concat,
    Path.lowercase_ending he]
  simp only [Bool.and_eq_true, List.contains_iff_mem, List.mem_singleton, Bool.not_eq_true', List.any_eq_false]
  tauto

/-- The files that the pattern for one kind of file below directories of one name reaches. -/
theorem mem_sources_below_iff (ht : t.Formed) (hd : DirectoryName d) (he : Extension e) :
    p ∈ t.sources root [] ["." ++ e] [belowParts d e] ↔ ∃ names, p = root.below names ∧ ".." ∉ names ∧
      t.isFile p = true ∧ p.suffix = "." ++ e ∧ d ∈ names.dropLast ∧ ∀ n ∈ names.dropLast, n ∉ ignoredDirectories := by
  have hsources : p ∈ t.sources root [] ["." ++ e] [belowParts d e] ↔ t.isDirectory root = true ∧
      p ∈ select t (belowParts d e) root ∧ t.isSource root [lowercase ("." ++ e)] p = true := by
    simp [sources, chosen, and_assoc]
  rw [hsources, isDirectory_iff]
  constructor
  · rintro ⟨⟨l, hl, hdirectory⟩, hselected, hsource⟩
    obtain ⟨around, n, entry, hentry, hmem, hmatch, rfl⟩ :=
      (mem_select_below ht hl hdirectory hd.undotted.2).mp hselected
    obtain ⟨hfile, hsuffix, hkept⟩ := (isSource_below_iff he.small).mp ⟨matches_tail.mp hmatch, hsource⟩
    refine ⟨around ++ [n], rfl, fun hdots => ?_, hfile, hsuffix, ?_⟩
    · exact ht.not_dots hentry (List.mem_append_right l hdots)
    · rw [List.dropLast_concat]
      exact ⟨hmem, hkept⟩
  · rintro ⟨names, rfl, hdots, hfile, hsuffix, hmem, hkept⟩
    have hne : names ≠ [] := by
      rintro rfl
      cases hmem
    obtain ⟨around, n, rfl⟩ : ∃ around n, names = around ++ [n] :=
      ⟨names.dropLast, names.getLast hne, (List.dropLast_append_getLast hne).symm⟩
    rw [List.dropLast_concat] at hmem hkept
    obtain ⟨-, -, hlocate, -⟩ := entry_of_isFile hfile
    obtain ⟨l, hl⟩ := exists_locate hlocate
    obtain ⟨entry, hentry⟩ : ∃ entry, t.entry? (l ++ (around ++ [n])) = some entry := by
      rw [isFile, at?_below ht hl hdots] at hfile
      exact ((Option.any_eq_true ..).mp hfile).imp fun entry h => h.1
    have hdirectory := ht.around_append (by simp) hentry
    obtain ⟨hends, hsource⟩ := (isSource_below_iff he.small).mpr ⟨hfile, hsuffix, hkept⟩
    refine ⟨⟨l, hl, hdirectory⟩, (mem_select_below ht hl hdirectory hd.undotted.2).mpr ?_, hsource⟩
    exact ⟨around, n, entry, hentry, hmem, matches_tail.mpr hends, rfl⟩

/-- The pattern for one kind of file below directories of one name discovers exactly the files of this kind that have
the name among the directories around them, and no ignored directory; and any patterns and directories discover together
what they discover alone. -/
theorem discover_exact (ht : t.Formed) (s : String) (hd : DirectoryName d) (he : Extension e) :
    (∃ files, t.discover (.parse s) ["**/" ++ d ++ "/**/*." ++ e] [] ["." ++ e] = .ok files ∧
      files.Nodup ∧ files.Pairwise (Path.le · ·) ∧
      ∀ p, p ∈ files ↔ ∃ names, p = (Path.parse s).below names ∧ ".." ∉ names ∧ t.isFile p = true ∧
        p.suffix = "." ++ e ∧ d ∈ names.dropLast ∧ ∀ n ∈ names.dropLast, n ∉ ignoredDirectories) ∧
    ∀ patterns directories suffixes : List String,
      (∀ files, t.discover (.parse s) patterns directories suffixes = .ok files ↔
        ∃ lists, (searches patterns directories).mapM (t.alone (.parse s) suffixes) = .ok lists ∧
          SortedUnion lists files) ∧
      ∀ patterns' directories' : List String,
        (∀ x, x ∈ searches patterns directories ↔ x ∈ searches patterns' directories') →
        (t.discover (.parse s) patterns directories suffixes).toOption =
          (t.discover (.parse s) patterns' directories' suffixes).toOption := by
  have hroot := Path.spelled_parse s
  refine ⟨?_, fun patterns directories suffixes => ⟨fun files => ?_, fun patterns' directories' hsame => ?_⟩⟩
  · have hparsed : ["**/" ++ d ++ "/**/*." ++ e].mapM parse = .ok [belowParts d e] := by
      rw [List.mapM_cons]
      show (parse (Glob.below d e) >>= _) = _
      rw [parse_below hd he.toLiteral]
      rfl
    have hfiles : t.discover (.parse s) ["**/" ++ d ++ "/**/*." ++ e] [] ["." ++ e] =
        .ok ((t.sources (.parse s) [] ["." ++ e] [belowParts d e]).eraseDups.mergeSort Path.le) :=
      discover_ok_iff.mpr ⟨_, hparsed, rfl⟩
    obtain ⟨hnodup, hsorted⟩ := sorted_of_discover hfiles
    refine ⟨_, hfiles, hnodup, hsorted, fun p => ?_⟩
    rw [List.mem_mergeSort, List.mem_eraseDups]
    exact mem_sources_below_iff ht hd he
  · exact discover_eq_ok_iff ht.slashless hroot
  · exact discover_congr ht.slashless hroot hsame

/-- A project where the name stands twice in a path, and once around an ignored directory. -/
def nestedRoutes : FileTree where
  entries := [(["app"], .directory 0), (["app", "routes"], .directory 1), (["app", "routes", "v1"], .directory 2),
    (["app", "routes", "v1", "routes"], .directory 3),
    (["app", "routes", "v1", "routes", "users.py"], .file (.text "") 4), (["app", "routes", "build"], .directory 5),
    (["app", "routes", "build", "users.py"], .file (.text "") 6), (["app", "routes", "users.PY"], .file (.text "") 7)]
  home := ["app"]
  clock := 8

theorem formed_nestedRoutes : nestedRoutes.Formed := ⟨by decide, by decide, by decide, by unfold Slashless; decide⟩

theorem discover_exact_nestedRoutes : ∃ files,
    nestedRoutes.discover (.parse "/app") ["**/routes/**/*.py"] [] [".py"] = .ok files ∧ files.Nodup ∧
      .parse "/app/routes/v1/routes/users.py" ∈ files ∧ .parse "/app/routes/build/users.py" ∉ files ∧
      .parse "/app/routes/users.PY" ∉ files := by
  have hd : DirectoryName "routes" := ⟨⟨by simp [marks], by decide⟩, by decide, by decide⟩
  have he : Extension "py" := ⟨⟨by simp [marks], by decide⟩, by decide⟩
  obtain ⟨files, hfiles, hnodup, -, hmem⟩ := (discover_exact formed_nestedRoutes "/app" hd he).1
  have hnames (names others : List String) (h : (Path.parse "/app").below names = (Path.parse "/app").below others) :
      names = others := List.append_cancel_left (congrArg Path.parts h)
  have hroutes := (hmem (.parse "/app/routes/v1/routes/users.py")).mpr
    ⟨["routes", "v1", "routes", "users.py"], by decide⟩
  refine ⟨files, hfiles, hnodup, hroutes, fun h => ?_, fun h => ?_⟩
  · obtain ⟨names, hp, -, -, -, -, hkept⟩ := (hmem _).mp h
    obtain rfl := hnames names ["routes", "build", "users.py"] hp.symm
    exact hkept "build" (by decide) (by decide)
  · obtain ⟨names, hp, -, -, hsuffix, -⟩ := (hmem _).mp h
    exact absurd hsuffix (by decide)

end FileTree

end SchemaConcord
