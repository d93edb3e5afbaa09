import SchemaConcord.Proofs.Files.Change
import SchemaConcord.Proofs.Files.Discovery

/-!
# Trees that grow

A tree grows when entries come behind those that it has. Making directories and new files is growth (`grows_create`,
`grows_makeDirectories`), and in a grown tree everything that was there is found and read as before: what patterns
select is selected again, and so are the sources of a project (`Grows.discover`).
-/

namespace SchemaConcord.FileTree

open Glob Text

variable {t u t' : FileTree}

structure Grows (t t' : FileTree) : Prop where
  home : t'.home = t.home
  entries : t.entries <+: t'.entries

theorem Grows.refl (t : FileTree) : Grows t t := ⟨rfl, List.prefix_rfl⟩

theorem Grows.trans (h : Grows t u) (h' : Grows u t') : Grows t t' :=
  ⟨h'.home.trans h.home, h.entries.trans h'.entries⟩

/-! ## Operations -/

theorem grows_put {l : Location} {make : Nat → Entry} (h : t.entry? l = none) : Grows t (t.put l make) := by
  have hl : l ≠ [] := by
    rintro rfl
    cases h
  rw [entry?_eq_lookup hl] at h
  refine ⟨rfl, ?_⟩
  show t.entries <+: putEntry l (make t.clock) t.entries
  rw [putEntry_fresh h]
  exact List.prefix_append ..

theorem grows_ensureDirectory {p : Path} (h : t.ensureDirectory p = .ok t') : Grows t t' := by
  unfold ensureDirectory at h
  split at h
  · cases h
  · split at h
    · next hnone =>
      cases h
      exact grows_put hnone
    · cases h
      exact .refl t
    · cases h

theorem grows_makeDirectoriesFrom {root : String} {names : List String}
    (h : makeDirectoriesFrom root names t = .ok t') : Grows t t' := by
  induction names generalizing t t' with
  | nil => exact grows_ensureDirectory h
  | cons name outer ih =>
    unfold makeDirectoriesFrom at h
    dsimp only at h
    split at h
    · next hd =>
      cases h
      exact grows_ensureDirectory hd
    · split at h
      · cases hm : makeDirectoriesFrom root outer t with
        | error f => rw [hm] at h; cases h
        | ok u =>
          rw [hm] at h
          exact (ih hm).trans (grows_ensureDirectory h)
      · cases h

theorem grows_makeDirectories {p : Path} (h : t.makeDirectories p = .ok t') : Grows t t' :=
  grows_makeDirectoriesFrom h

theorem grows_create {p : Path} {c : Content} (h : t.create p c = .ok t') : Grows t t' := by
  unfold create at h
  split at h
  · cases h
  · split at h
    · cases h
    · next hfree =>
      cases h
      rw [Bool.not_eq_true, Option.isSome_eq_false_iff, Option.isNone_iff_eq_none] at hfree
      exact grows_put hfree

/-! ## What was there -/

namespace Grows

theorem entry? (h : Grows t t') {l : Location} {e : Entry} (he : t.entry? l = some e) : t'.entry? l = some e := by
  by_cases hl : l = []
  · rw [hl] at he ⊢
    exact he
  · obtain ⟨more, hmore⟩ := h.entries
    rw [entry?_eq_lookup hl] at he ⊢
    rw [← hmore, List.lookup_append, he]
    rfl

theorem follow (h : Grows t t') {l m : Location} {names : List String} (hf : t.follow l names = .ok m) :
    t'.follow l names = .ok m := by
  induction names generalizing l with
  | nil => exact hf
  | cons name rest ih =>
    unfold FileTree.follow at hf ⊢
    split at hf
    · cases hf
    · cases hf
    · next n hd =>
      rw [h.entry? hd]
      exact ih hf

theorem locate (h : Grows t t') {p : Path} {l : Location} (hl : t.locate p = .ok l) : t'.locate p = .ok l := by
  unfold FileTree.locate at hl ⊢
  rw [h.home]
  exact h.follow hl

theorem at? (h : Grows t t') {p : Path} {e : Entry} (he : t.at? p = some e) : t'.at? p = some e := by
  unfold FileTree.at? at he ⊢
  cases hl : t.locate p with
  | error o => rw [hl] at he; cases he
  | ok l =>
    rw [hl] at he
    rw [h.locate hl]
    exact h.entry? he

theorem any_at? (h : Grows t t') {p : Path} {test : Entry → Bool} (ht : (t.at? p).any test = true) :
    (t'.at? p).any test = true := by
  cases he : t.at? p with
  | none => rw [he] at ht; cases ht
  | some e =>
    rw [he] at ht
    rw [h.at? he]
    exact ht

theorem isPresent (h : Grows t t') {p : Path} (hp : t.isPresent p = true) : t'.isPresent p = true := by
  obtain ⟨e, he⟩ := Option.isSome_iff_exists.mp hp
  exact Option.isSome_iff_exists.mpr ⟨e, h.at? he⟩

theorem isDirectory (h : Grows t t') {p : Path} (hp : t.isDirectory p = true) : t'.isDirectory p = true :=
  h.any_at? hp

theorem isFile (h : Grows t t') {p : Path} (hp : t.isFile p = true) : t'.isFile p = true := h.any_at? hp

theorem readText (h : Grows t t') {p : Path} (hp : t.isFile p = true) : t'.readText p = t.readText p := by
  obtain ⟨c, n, hl, he⟩ := entry_of_isFile hp
  have hplace : t'.place p = t.place p := place_of_home h.home p
  unfold FileTree.readText readExactly
  rw [read_text hl he, read_text (hplace ▸ h.locate hl) (hplace ▸ h.entry? he)]

/-! ## What is found again -/

theorem children (h : Grows t t') (p : Path) : t.children p ⊆ t'.children p := by
  intro x hx
  unfold FileTree.children at hx ⊢
  cases hl : t.locate p with
  | error o => rw [hl] at hx; cases hx
  | ok l =>
    rw [hl] at hx
    rw [h.locate hl]
    exact (h.entries.filterMap _).subset hx

theorem directoriesFrom (h : Grows t t') (p : Path) : t.directoriesFrom p ⊆ t'.directoriesFrom p := by
  intro x hx
  unfold FileTree.directoriesFrom at hx ⊢
  cases hl : t.locate p with
  | error o => rw [hl] at hx; cases hx
  | ok l =>
    rw [hl] at hx
    rw [h.locate hl]
    exact List.cons_subset_cons _ (h.entries.filterMap _).subset hx

theorem select (h : Grows t t') (parts : List PatternPart) (p : Path) : select t parts p ⊆ select t' parts p := by
  induction parts generalizing p with
  | nil => exact List.Subset.refl _
  | cons part rest ih =>
    intro x hx
    cases part with
    | here => exact hx
    | name n =>
      have hfound : (if rest.isEmpty then t.isPresent (p.child n) else t.isDirectory (p.child n)) = true →
          (if rest.isEmpty then t'.isPresent (p.child n) else t'.isDirectory (p.child n)) = true := by
        split
        · exact h.isPresent
        · exact h.isDirectory
      rw [Glob.select, List.mem_ite_nil_right] at hx ⊢
      exact ⟨hfound hx.1, ih _ hx.2⟩
    | names signs =>
      unfold Glob.select at hx ⊢
      obtain ⟨⟨n, e⟩, hchild, hx⟩ := List.mem_flatMap.mp hx
      obtain ⟨hchild, hfits⟩ := List.mem_filter.mp hchild
      exact List.mem_flatMap.mpr ⟨(n, e), List.mem_filter.mpr ⟨h.children p hchild, hfits⟩, ih _ hx⟩
    | directories =>
      unfold Glob.select at hx ⊢
      obtain ⟨d, hd, hx⟩ := List.mem_flatMap.mp hx
      exact List.mem_flatMap.mpr ⟨d, h.directoriesFrom p hd, ih _ hx⟩

theorem chosen (h : Grows t t') (base : Path) (parts : List PatternPart) :
    t.chosen base parts ⊆ t'.chosen base parts := by
  intro x hx
  unfold FileTree.chosen at hx ⊢
  split at hx
  · next hbase =>
    rw [if_pos (h.isDirectory hbase)]
    exact h.select parts base hx
  · cases hx

theorem isSource (h : Grows t t') {root : Path} {suffixes : List String} {p : Path}
    (hp : t.isSource root suffixes p = true) : t'.isSource root suffixes p = true := by
  unfold FileTree.isSource at hp ⊢
  rw [Bool.and_assoc, Bool.and_eq_true] at hp ⊢
  exact ⟨h.isFile hp.1, hp.2⟩

theorem sources (h : Grows t t') (root : Path) (directories suffixes : List String)
    (patterns : List (List PatternPart)) :
    t.sources root directories suffixes patterns ⊆ t'.sources root directories suffixes patterns := by
  intro x hx
  unfold FileTree.sources at hx ⊢
  rw [List.mem_filter, List.mem_flatten] at hx ⊢
  obtain ⟨⟨l, hl, hx⟩, hsource⟩ := hx
  refine ⟨?_, h.isSource hsource⟩
  rcases List.mem_append.mp hl with hl | hl
  · obtain ⟨pattern, hpattern, rfl⟩ := List.mem_map.mp hl
    exact ⟨_, List.mem_append_left _ (List.mem_map_of_mem hpattern), h.chosen root pattern hx⟩
  · obtain ⟨d, hd, rfl⟩ := List.mem_map.mp hl
    exact ⟨_, List.mem_append_right _ (List.mem_map_of_mem hd), h.chosen _ _ hx⟩

theorem discover (h : Grows t t') {root : Path} {patterns directories suffixes : List String} {files : List Path}
    (hfiles : t.discover root patterns directories suffixes = .ok files) :
    ∃ files', t'.discover root patterns directories suffixes = .ok files' ∧ files ⊆ files' := by
  rw [discover_eq] at hfiles ⊢
  cases hparsed : patterns.mapM parse with
  | error f => rw [hparsed] at hfiles; cases hfiles
  | ok parsed =>
    rw [hparsed] at hfiles
    obtain rfl := Except.ok.inj hfiles
    refine ⟨_, rfl, fun p hp => ?_⟩
    rw [List.mem_mergeSort, List.mem_eraseDups] at hp ⊢
    exact h.sources root directories suffixes parsed hp

end Grows

end SchemaConcord.FileTree
