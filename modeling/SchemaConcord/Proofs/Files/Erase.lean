import Mathlib.Data.List.Infix
import SchemaConcord.Files.Glob
import SchemaConcord.Proofs.Files.Change
import SchemaConcord.Proofs.Lists

/-!
# A tree without one of its files

Taking a file away changes nothing for any path that leads elsewhere: the same paths are directories, the same are
files but those that lead to the file, and those are read as before. What a pattern selects stays the same but for
paths to the file (`select_erase`). Operations on paths that do not cross the file do the same without it.
-/

namespace SchemaConcord.FileTree

open Glob

variable {t : FileTree} {l m : Location} {c : Content} {n : Nat}

/-- Every place is listed once, and the home is named without steps back. -/
structure Consistent (t : FileTree) : Prop where
  entries : (t.entries.map (·.1)).Nodup
  home : ".." ∉ t.home

theorem entry?_of_mem (h : (t.entries.map (·.1)).Nodup) {e : Entry} (he : (m, e) ∈ t.entries) (hm : m ≠ []) :
    t.entry? m = some e := (entry?_eq_lookup hm).trans (lookup_of_mem h he)

theorem children_of_error {p : Path} {o : Obstacle} (h : t.locate p = .error o) : t.children p = [] := by
  unfold children
  rw [h]

theorem dots_not_mem_place (h : ".." ∉ t.home) (p : Path) : ".." ∉ t.place p := by
  have hwalk : ∀ (names : List String) (l : Location), ".." ∉ l → ".." ∉ walk l names := by
    intro names
    induction names with
    | nil => exact fun l hl => hl
    | cons name rest ih =>
      intro l hl
      refine ih _ ?_
      split
      · exact fun hmem => hl ((List.dropLast_sublist l).subset hmem)
      · next hname =>
        intro hmem
        rcases List.mem_append.mp hmem with hmem | hmem
        · exact hl hmem
        · exact hname (List.mem_singleton.mp hmem).symm
  unfold place
  split
  · exact hwalk _ _ List.not_mem_nil
  · exact hwalk _ _ h

/-! ## Paths -/

section
variable (hfile : t.entry? l = some (.file c n))

include hfile

theorem follow_erase (m : Location) (names : List String) :
    ((t.erase l).follow m names).toOption = (t.follow m names).toOption := by
  induction names generalizing m with
  | nil => rfl
  | cons name rest ih =>
    unfold follow
    by_cases hm : m = l
    · rw [hm, entry?_erase_self hfile, hfile]
      rfl
    · rw [entry?_erase hm]
      cases t.entry? m with
      | none => rfl
      | some e =>
        cases e with
        | file => rfl
        | directory => exact ih _

theorem locate_erase (p : Path) : ((t.erase l).locate p).toOption = (t.locate p).toOption := follow_erase hfile _ _

theorem locate_erase_ok {p : Path} (h : t.locate p = .ok m) : (t.erase l).locate p = .ok m := by
  have hsame := locate_erase hfile p
  rw [h] at hsame
  cases hl : (t.erase l).locate p with
  | error o => rw [hl] at hsame; cases hsame
  | ok k => rw [hl] at hsame; cases hsame; rfl

theorem at?_erase (p : Path) : (t.erase l).at? p = if t.place p = l then none else t.at? p := by
  unfold at?
  rw [locate_erase hfile]
  cases hp : t.locate p with
  | error o => exact (ite_self none).symm
  | ok k =>
    cases locate_eq hp
    show entry? (t.erase l) (t.place p) = if t.place p = l then none else t.entry? (t.place p)
    split
    · next h => rw [h, entry?_erase_self hfile]
    · next h => exact entry?_erase h

theorem isDirectory_erase (p : Path) : (t.erase l).isDirectory p = t.isDirectory p := by
  unfold isDirectory
  rw [at?_erase hfile]
  split
  · next h =>
    unfold at?
    cases hp : t.locate p with
    | error o => rfl
    | ok k =>
      cases locate_eq hp
      show false = (t.entry? (t.place p)).any Entry.isDirectory
      rw [h, hfile]
      rfl
  · rfl

theorem isFile_erase (p : Path) : (t.erase l).isFile p = (t.isFile p && t.place p != l) := by
  unfold isFile
  rw [at?_erase hfile]
  split
  · next h => rw [h, bne_self_eq_false, Bool.and_false]; rfl
  · next h => rw [bne_iff_ne.mpr h, Bool.and_true]

theorem isPresent_erase (p : Path) : (t.erase l).isPresent p = (t.isPresent p && t.place p != l) := by
  unfold isPresent
  rw [at?_erase hfile]
  split
  · next h => rw [h, bne_self_eq_false, Bool.and_false]; rfl
  · next h => rw [bne_iff_ne.mpr h, Bool.and_true]

theorem readText_erase {p : Path} (hp : t.isFile p = true) (hne : t.place p ≠ l) :
    (t.erase l).readText p = t.readText p := by
  obtain ⟨c, n, hl, he⟩ := entry_of_isFile hp
  unfold readText readExactly
  rw [read_text hl he, read_text (locate_erase_ok hfile hl) ((entry?_erase hne).trans he)]

/-! ## Listings -/

theorem children_erase_error {p : Path} {o : Obstacle} (hp : t.locate p = .error o) : (t.erase l).children p = [] := by
  have hsame := locate_erase hfile p
  rw [hp] at hsame
  cases hl : (t.erase l).locate p with
  | error o => exact children_of_error hl
  | ok k => rw [hl] at hsame; cases hsame

theorem children_erase {p : Path} (hp : t.locate p = .ok m) :
    (t.erase l).children p = (t.children p).filter fun x => m ++ [x.1] != l := by
  unfold children
  rw [hp, locate_erase_ok hfile hp]
  show (t.entries.filter (·.1 != l)).filterMap _ = _
  rw [List.filterMap_filter, List.filter_filterMap]
  refine List.filterMap_congr fun f _ => ?_
  obtain ⟨k, e⟩ := f
  dsimp only
  cases k.getLast? with
  | none => exact ite_self none
  | some name =>
    dsimp only
    by_cases hk : k = m ++ [name]
    · rw [if_pos hk, Option.filter_some, hk]
    · rw [if_neg hk, ite_self, Option.filter_none]

theorem directoriesFrom_erase (ht : t.Consistent) (p : Path) : (t.erase l).directoriesFrom p = t.directoriesFrom p := by
  unfold directoriesFrom
  have hsame := locate_erase hfile p
  cases hp : t.locate p with
  | error o =>
    rw [hp] at hsame
    cases hp' : (t.erase l).locate p with
    | error o => rfl
    | ok k => rw [hp'] at hsame; cases hsame
  | ok k =>
    rw [locate_erase_ok hfile hp]
    show p :: (t.entries.filter (·.1 != l)).filterMap _ = _
    rw [List.filterMap_filter]
    congr 1
    refine List.filterMap_congr fun f hf => ?_
    obtain ⟨i, e⟩ := f
    dsimp only
    by_cases hi : i = l
    · rw [hi] at hf
      cases (entry?_of_mem ht.entries hf (ne_root_of_file hfile)).symm.trans hfile
      rw [hi, bne_self_eq_false]
      rfl
    · rw [if_pos (bne_iff_ne.mpr hi)]

/-- A child that is the file itself: a pattern that ends there selects a path to the file, and one that goes on does
not go through it. -/
theorem select_child_erased (ht : t.Consistent) (hdots : ".." ∉ l) {p : Path} (hp : t.locate p = .ok m) {name : String}
    {e : Entry} (hx : (name, e) ∈ t.children p) (hl : m ++ [name] = l) {rest : List PatternPart}
    (hrest : rest.isEmpty = true ∨ e.isDirectory = true) :
    (select t rest (p.child name)).filter (t.erase l).isFile = [] := by
  have he : t.entry? l = some e := by
    unfold children at hx
    rw [hp] at hx
    obtain ⟨⟨k, e'⟩, hf, hx⟩ := List.mem_filterMap.mp hx
    dsimp only at hx
    cases hlast : k.getLast? with
    | none => rw [hlast] at hx; cases hx
    | some name' =>
      rw [hlast] at hx
      dsimp only at hx
      split at hx
      · next hk =>
        cases hx
        rw [hk, hl] at hf
        exact entry?_of_mem ht.entries hf (ne_root_of_file hfile)
      · cases hx
  -- The entry is a file, so that nothing of the pattern may be left.
  cases he.symm.trans hfile
  have hrest := hrest.resolve_right Bool.false_ne_true
  cases rest with
  | cons part rest => cases hrest
  | nil =>
    have hname : name ≠ ".." := by
      rintro rfl
      exact hdots (hl ▸ List.mem_append_right m (List.mem_singleton_self _))
    have hplace : t.place (p.child name) = l := by
      rw [place_child hname, ← locate_eq hp, hl]
    unfold select
    rw [List.filter_singleton, isFile_erase hfile, hplace, bne_self_eq_false, Bool.and_false]
    rfl

/-- A pattern that ends in a name selects one path at most, and drops it when it leads to the file. -/
theorem select_name_erase (text : String) (p : Path) :
    (select (t.erase l) [.name text] p).filter (t.erase l).isFile =
      (select t [.name text] p).filter (t.erase l).isFile := by
  have hlast : ∀ u : FileTree, select u [] (p.child text) = [p.child text] := fun _ => rfl
  unfold select
  dsimp only
  rw [isDirectory_erase hfile, isPresent_erase hfile]
  simp only [List.isEmpty_nil, if_true, Bool.and_eq_true, bne_iff_ne, hlast]
  by_cases hl : t.place (p.child text) = l
  · have hnone : (t.erase l).isFile (p.child text) = false := by
      rw [isFile_erase hfile, hl, bne_self_eq_false, Bool.and_false]
    rw [if_neg (fun h => h.2 hl)]
    split
    · rw [List.filter_singleton, hnone]
      rfl
    · rfl
  · simp only [ne_eq, hl, not_false_eq_true, and_true]

theorem select_erase (ht : t.Consistent) (hdots : ".." ∉ l) (parts : List PatternPart) (p : Path) :
    (select (t.erase l) parts p).filter (t.erase l).isFile = (select t parts p).filter (t.erase l).isFile := by
  -- The selections themselves differ: a pattern that ends in a name selects paths to the file too.
  induction parts generalizing p with
  | nil => rfl
  | cons part rest ih =>
    cases part with
    | here => rfl
    | name text =>
      cases rest with
      | nil => exact select_name_erase hfile text p
      | cons part rest =>
        unfold select
        dsimp only
        rw [isDirectory_erase hfile]
        simp only [List.isEmpty_cons, Bool.false_eq_true, if_false]
        split
        · exact ih _
        · rfl
    | directories =>
      unfold select
      rw [directoriesFrom_erase hfile ht, List.filter_flatMap, List.filter_flatMap]
      exact List.flatMap_congr fun q _ => ih q
    | names signs =>
      unfold select
      rw [List.filter_flatMap, List.filter_flatMap]
      simp only [ih]
      cases hp : t.locate p with
      | error o => rw [children_erase_error hfile hp, children_of_error hp]
      | ok m =>
        rw [children_erase hfile hp, List.filter_comm]
        refine flatMap_filter_eq (fun _ _ _ => rfl) fun x hx hl => ?_
        obtain ⟨name, e⟩ := x
        obtain ⟨hchild, hchosen⟩ := List.mem_filter.mp hx
        rw [bne_eq_false_iff_eq] at hl
        rw [Bool.and_eq_true, Bool.or_eq_true] at hchosen
        exact select_child_erased hfile ht hdots hp hchild hl hchosen.1

end

/-! ## Changing -/

/-- Whether the way of a path leads through a location or ends there. -/
def Crosses (t : FileTree) (p : Path) (l : Location) : Prop := ∃ names, names <+: p.parts ∧ t.place ⟨p.root, names⟩ = l

instance (t : FileTree) (p : Path) (l : Location) : Decidable (t.Crosses p l) :=
  decidable_of_iff (∃ names ∈ p.parts.inits, t.place ⟨p.root, names⟩ = l) (by simp only [Crosses, List.mem_inits])

variable {u : FileTree} {p q : Path}

theorem Crosses.of_prefix (h : t.Crosses p l) (hroot : p.root = q.root) (hparts : p.parts <+: q.parts) :
    t.Crosses q l := by
  obtain ⟨names, hnames, hplace⟩ := h
  exact ⟨names, hnames.trans hparts, hroot ▸ hplace⟩

theorem Crosses.of_home (h : u.Crosses p l) (hhome : u.home = t.home) : t.Crosses p l := by
  obtain ⟨names, hnames, hplace⟩ := h
  exact ⟨names, hnames, (place_of_home hhome _).symm.trans hplace⟩

theorem place_ne (h : ¬ t.Crosses p l) : t.place p ≠ l := fun hplace => h ⟨p.parts, List.prefix_rfl, hplace⟩

theorem locate_erase_eq (h : ¬ t.Crosses p l) : (t.erase l).locate p = t.locate p := by
  have hfollow : ∀ (names : List String) (m : Location), (∀ a, a <+: names → walk m a ≠ l) →
      (t.erase l).follow m names = t.follow m names := by
    intro names
    induction names with
    | nil => exact fun _ _ => rfl
    | cons name rest ih =>
      intro m hm
      unfold follow
      have hne : m ≠ l := hm [] List.nil_prefix
      rw [entry?_erase hne]
      cases t.entry? m with
      | none => rfl
      | some e =>
        cases e with
        | file => rfl
        | directory => exact ih _ fun a ha => hm (name :: a) (List.prefix_cons_inj name |>.mpr ha)
  exact hfollow p.parts _ fun a ha hplace => h ⟨a, ha, hplace⟩

theorem putEntry_filter (hm : m ≠ l) (e : Entry) (entries : List (Location × Entry)) :
    (putEntry m e entries).filter (·.1 != l) = putEntry m e (entries.filter (·.1 != l)) := by
  have hput : ∀ k old entries, putEntry m e ((k, old) :: entries) =
      if k = m then (k, e) :: entries else (k, old) :: putEntry m e entries := fun _ _ _ => rfl
  induction entries with
  | nil => exact List.filter_cons_of_pos (bne_iff_ne.mpr hm)
  | cons f entries ih =>
    obtain ⟨k, old⟩ := f
    rw [List.filter_cons, hput]
    by_cases hk : k = m
    · have hkl : (k != l) = true := bne_iff_ne.mpr (hk ▸ hm)
      rw [if_pos hk, if_pos hkl, hput, if_pos hk, List.filter_cons, if_pos hkl]
    · rw [if_neg hk, List.filter_cons, ih]
      split
      · rw [hput, if_neg hk]
      · rfl

theorem erase_put (hm : m ≠ l) (make : Nat → Entry) : (t.put m make).erase l = (t.erase l).put m make := by
  unfold put erase
  rw [putEntry_filter hm]

theorem ensureDirectory_erase (h : ¬ t.Crosses p l) :
    (t.erase l).ensureDirectory p = (t.ensureDirectory p).map (·.erase l) := by
  unfold ensureDirectory
  rw [locate_erase_eq h]
  cases hl : t.locate p with
  | error o => rfl
  | ok k =>
    cases locate_eq hl
    dsimp only
    rw [entry?_erase (place_ne h)]
    cases t.entry? (t.place p) with
    | none => exact congrArg Except.ok (erase_put (place_ne h) _).symm
    | some e => cases e <;> rfl

theorem makeDirectories_erase (h : ¬ t.Crosses p l) :
    (t.erase l).makeDirectories p = (t.makeDirectories p).map (·.erase l) := by
  have hfrom : ∀ names, ¬ t.Crosses ⟨p.root, names.reverse⟩ l →
      makeDirectoriesFrom p.root names (t.erase l) = (makeDirectoriesFrom p.root names t).map (·.erase l) := by
    intro names hnames
    induction names with
    | nil => exact ensureDirectory_erase hnames
    | cons name outer ih =>
      unfold makeDirectoriesFrom
      dsimp only
      rw [ensureDirectory_erase hnames]
      cases t.ensureDirectory ⟨p.root, (name :: outer).reverse⟩ with
      | ok u => rfl
      | error f =>
        dsimp only [Except.map]
        -- What has to be made first are directories further out, on the same way.
        have houter : ¬ t.Crosses ⟨p.root, outer.reverse⟩ l := fun hc =>
          hnames (hc.of_prefix rfl (List.reverse_cons ▸ List.prefix_append _ _))
        split
        · rw [ih houter]
          cases hmade : makeDirectoriesFrom p.root outer t with
          | error f => rfl
          | ok u => exact ensureDirectory_erase fun hc => hnames (hc.of_home (makeDirectoriesFrom_ok hmade).1.home)
        · rfl
  refine hfrom p.parts.reverse ?_
  rw [List.reverse_reverse]
  exact h

theorem create_erase (h : ¬ t.Crosses p l) (c : Content) :
    (t.erase l).create p c = (t.create p c).map (·.erase l) := by
  unfold create
  rw [locate_erase_eq h]
  cases hl : t.locate p with
  | error o => rfl
  | ok k =>
    cases locate_eq hl
    dsimp only
    rw [entry?_erase (place_ne h)]
    split
    · rfl
    · exact congrArg Except.ok (erase_put (place_ne h) _).symm

end SchemaConcord.FileTree
