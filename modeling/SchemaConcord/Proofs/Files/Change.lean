import SchemaConcord.Files.Tree

/-!
# What file operations change

An operation on a path changes the entry at the place that the path names, besides directories that it adds. `Alters`
says this for whole runs of operations: where new files may come up, and where files may change. It composes, and it
keeps every directory.
-/

namespace SchemaConcord.FileTree

variable {t t' u : FileTree}

/-! ## Places -/

/-- Where names lead from a location when every step is a directory. -/
def walk (l : Location) : List String → Location
  | [] => l
  | name :: rest => walk (if name = ".." then l.dropLast else l ++ [name]) rest

/-- The location that a path names, whether or not there is a way to it. -/
def place (t : FileTree) (p : Path) : Location := walk (if p.isAbsolute then [] else t.home) p.parts

theorem walk_append (l : Location) (a b : List String) : walk l (a ++ b) = walk (walk l a) b := by
  induction a generalizing l with
  | nil => rfl
  | cons name a ih => exact ih _

theorem follow_eq {l m : Location} {names : List String} (h : t.follow l names = .ok m) : m = walk l names := by
  induction names generalizing l with
  | nil => exact (Except.ok.inj h).symm
  | cons name rest ih =>
    unfold follow at h
    split at h
    · cases h
    · cases h
    · exact ih h

theorem locate_eq {p : Path} {l : Location} (h : t.locate p = .ok l) : l = t.place p := follow_eq h

theorem follow_append_bind {l : Location} (a b : List String) :
    t.follow l (a ++ b) = (t.follow l a).bind fun m => t.follow m b := by
  induction a generalizing l with
  | nil => rfl
  | cons name a ih =>
    rw [List.cons_append, follow, follow]
    split
    · rfl
    · rfl
    · exact ih

theorem follow_snoc {l m : Location} {names : List String} {n : Nat} (hl : t.follow l names = .ok m)
    (hd : t.entry? m = some (.directory n)) (name : String) : t.follow l (names ++ [name]) = .ok (walk m [name]) := by
  rw [follow_append_bind, hl]
  show t.follow m [name] = _
  rw [follow, hd]
  rfl

theorem follow_append {l m : Location} {names : List String} {name : String} {n : Nat}
    (hl : t.follow l names = .ok m) (hd : t.entry? m = some (.directory n)) (hname : name ≠ "..") :
    t.follow l (names ++ [name]) = .ok (m ++ [name]) := by
  rw [follow_snoc hl hd, walk, if_neg hname]
  rfl

theorem locate_child {p : Path} {l : Location} {name : String} {n : Nat} (hl : t.locate p = .ok l)
    (hd : t.entry? l = some (.directory n)) (hname : name ≠ "..") : t.locate (p.child name) = .ok (l ++ [name]) :=
  follow_append hl hd hname

theorem locate_of_parent {p : Path} {l : Location} {n : Nat} (hl : t.locate p.parent = .ok l)
    (hd : t.entry? l = some (.directory n)) (hp : p.parts ≠ []) : t.locate p = .ok (t.place p) := by
  have hparts : p.parts = p.parent.parts ++ [p.parts.getLast hp] := (List.dropLast_concat_getLast hp).symm
  have hfollow := follow_snoc hl hd (p.parts.getLast hp)
  cases locate_eq hl
  unfold locate place
  rw [hparts, walk_append]
  exact hfollow

theorem place_child {p : Path} {name : String} (h : name ≠ "..") : t.place (p.child name) = t.place p ++ [name] := by
  show walk _ (p.parts ++ [name]) = walk _ p.parts ++ [name]
  rw [walk_append, walk, if_neg h]
  rfl

theorem place_of_home (h : t'.home = t.home) (p : Path) : t'.place p = t.place p := by
  unfold place
  rw [h]

/-! ## Entries -/

theorem entry?_eq_lookup {l : Location} (h : l ≠ []) : t.entry? l = t.entries.lookup l := by
  cases l with
  | nil => exact absurd rfl h
  | cons name l => rfl

theorem lookup_location (m k : Location) (e : Entry) (rest : List (Location × Entry)) :
    ((k, e) :: rest).lookup m = if m = k then some e else rest.lookup m := by
  rw [List.lookup_cons]
  by_cases h : m = k
  · rw [if_pos h, beq_iff_eq.mpr h]
  · rw [if_neg h, beq_eq_false_iff_ne.mpr h]

theorem lookup_putEntry (l m : Location) (e : Entry) (entries : List (Location × Entry)) :
    (putEntry l e entries).lookup m = if m = l then some e else entries.lookup m := by
  induction entries with
  | nil => exact lookup_location m l e []
  | cons f entries ih =>
    obtain ⟨k, old⟩ := f
    unfold putEntry
    by_cases hk : k = l
    · rw [if_pos hk, lookup_location, lookup_location, hk]
      by_cases hm : m = l
      · rw [if_pos hm, if_pos hm]
      · rw [if_neg hm, if_neg hm, if_neg hm]
    · rw [if_neg hk, lookup_location, lookup_location, ih]
      by_cases hm : m = k
      · rw [if_pos hm, if_neg (fun h => hk (hm ▸ h)), if_pos hm]
      · rw [if_neg hm, if_neg hm]

theorem putEntry_fresh {l : Location} {e : Entry} {entries : List (Location × Entry)} (h : entries.lookup l = none) :
    putEntry l e entries = entries ++ [(l, e)] := by
  induction entries with
  | nil => rfl
  | cons f entries ih =>
    obtain ⟨m, old⟩ := f
    rw [lookup_location] at h
    by_cases hm : l = m
    · rw [if_pos hm] at h
      cases h
    · rw [if_neg hm] at h
      rw [putEntry, if_neg (Ne.symm hm), ih h]
      rfl

theorem entry?_put {l m : Location} {make : Nat → Entry} (h : (t.entry? l).any Entry.isDirectory = false) :
    entry? (t.put l make) m = if m = l then some (make t.clock) else t.entry? m := by
  cases m with
  | nil =>
    have hl : [] ≠ l := by
      rintro rfl
      cases h
    rw [if_neg hl]
    rfl
  | cons a m => exact lookup_putEntry l (a :: m) (make t.clock) t.entries

theorem entry?_erase {l m : Location} (h : m ≠ l) : entry? (t.erase l) m = t.entry? m := by
  cases m with
  | nil => rfl
  | cons a m =>
    show (t.entries.filter (·.1 != l)).lookup (a :: m) = t.entries.lookup (a :: m)
    induction t.entries with
    | nil => rfl
    | cons f entries ih =>
      obtain ⟨k, e⟩ := f
      by_cases hk : k = l
      · rw [List.filter_cons_of_neg (by simp [hk]), ih, lookup_location, if_neg (hk ▸ h)]
      · rw [List.filter_cons_of_pos (by simp [hk]), lookup_location, lookup_location, ih]

theorem ne_root_of_file {l : Location} {c : Content} {n : Nat} (h : t.entry? l = some (.file c n)) : l ≠ [] := by
  rintro rfl
  cases h

theorem entry?_erase_self {l : Location} {c : Content} {n : Nat} (h : t.entry? l = some (.file c n)) :
    entry? (t.erase l) l = none := by
  rw [entry?_eq_lookup (ne_root_of_file h), List.lookup_eq_none_iff]
  intro f hf
  rw [bne_comm]
  exact (List.mem_filter.mp hf).2

theorem isFile_of_entry {p : Path} {l : Location} {c : Content} {n : Nat} (hl : t.locate p = .ok l)
    (he : t.entry? l = some (.file c n)) : t.isFile p = true := by
  unfold isFile at?
  rw [hl]
  simp only [Except.toOption, Option.bind_some, he]
  rfl

theorem entry_of_isFile {p : Path} (h : t.isFile p = true) :
    ∃ c n, t.locate p = .ok (t.place p) ∧ t.entry? (t.place p) = some (.file c n) := by
  unfold isFile at? at h
  cases hl : t.locate p with
  | error o => rw [hl] at h; cases h
  | ok l =>
    cases locate_eq hl
    rw [hl] at h
    simp only [Except.toOption, Option.bind_some] at h
    cases he : t.entry? (t.place p) with
    | none => rw [he] at h; cases h
    | some e =>
      rw [he] at h
      cases e with
      | directory => cases h
      | file c n => exact ⟨c, n, rfl, rfl⟩

theorem read_text {p : Path} {c : Content} {n : Nat} (hl : t.locate p = .ok (t.place p))
    (he : t.entry? (t.place p) = some (.file c n)) : t.read p = .ok c := by
  unfold read
  simp only [hl, he]

/-- The file at a location, with its content and the time of its last change. -/
def fileAt? (t : FileTree) (l : Location) : Option Entry := (t.entry? l).filter (!·.isDirectory)

theorem fileAt?_eq_some {l : Location} {e : Entry} :
    t.fileAt? l = some e ↔ t.entry? l = some e ∧ e.isDirectory = false := by
  rw [fileAt?, Option.filter_eq_some_iff, Bool.not_eq_true']

/-! ## Alterations -/

/-- Every entry is as it was, or it is a new directory, or a new file in one of the places `made`, or it was no
directory and its place is one of those that are `free` to change. -/
structure Alters (made free : Location → Prop) (t t' : FileTree) : Prop where
  home : t'.home = t.home
  entry : ∀ l, t'.entry? l = t.entry? l ∨ (t.entry? l = none ∧ ∃ n, t'.entry? l = some (.directory n)) ∨
    (made l ∧ t.entry? l = none ∧ ∃ c n, t'.entry? l = some (.file c n)) ∨
    (free l ∧ ∀ n, t.entry? l ≠ some (.directory n))

namespace Alters

variable {made free made' free' : Location → Prop}

theorem refl (made free : Location → Prop) (t : FileTree) : Alters made free t t := ⟨rfl, fun _ => .inl rfl⟩

/-- Where no directory was, anything may come to stand. -/
theorem of_entry (hhome : t'.home = t.home) (hentry : ∀ l, ¬ free l → t'.entry? l = t.entry? l)
    (hfree : ∀ l, free l → (t.entry? l).any Entry.isDirectory = false) : Alters made free t t' := by
  refine ⟨hhome, fun l => ?_⟩
  by_cases hl : free l
  · refine .inr (.inr (.inr ⟨hl, fun n hd => ?_⟩))
    have hnone := hfree l hl
    rw [hd] at hnone
    cases hnone
  · exact .inl (hentry l hl)

theorem mono (h : Alters made free t t') (hm : ∀ l, made l → made' l) (hf : ∀ l, free l → free' l) :
    Alters made' free' t t' := by
  refine ⟨h.home, fun l => ?_⟩
  rcases h.entry l with h | h | ⟨hl, h⟩ | ⟨hl, h⟩
  · exact .inl h
  · exact .inr (.inl h)
  · exact .inr (.inr (.inl ⟨hm l hl, h⟩))
  · exact .inr (.inr (.inr ⟨hf l hl, h⟩))

theorem trans (h : Alters made free t u) (h' : Alters made free u t') : Alters made free t t' := by
  refine ⟨h'.home.trans h.home, fun l => ?_⟩
  rcases h.entry l with e | ⟨e, n, d⟩ | ⟨hl, e, c, n, f⟩ | ⟨hl, hd⟩
  · rw [← e]
    exact h'.entry l
  · -- A new directory stays.
    rcases h'.entry l with e' | ⟨e', _⟩ | ⟨_, e', _⟩ | ⟨_, hd⟩
    · exact .inr (.inl ⟨e, n, e'.trans d⟩)
    · cases e'.symm.trans d
    · cases e'.symm.trans d
    · exact absurd d (hd n)
  · rcases h'.entry l with e' | ⟨e', _⟩ | ⟨_, e', _⟩ | ⟨hl', _⟩
    · exact .inr (.inr (.inl ⟨hl, e, c, n, e'.trans f⟩))
    · cases e'.symm.trans f
    · cases e'.symm.trans f
    · exact .inr (.inr (.inr ⟨hl', fun n h => by cases e.symm.trans h⟩))
  · exact .inr (.inr (.inr ⟨hl, hd⟩))

theorem directory (h : Alters made free t t') {l : Location} {n : Nat} (hd : t.entry? l = some (.directory n)) :
    t'.entry? l = some (.directory n) := by
  rcases h.entry l with e | ⟨e, _⟩ | ⟨_, e, _⟩ | ⟨_, hn⟩
  · exact e.trans hd
  · cases e.symm.trans hd
  · cases e.symm.trans hd
  · exact absurd hd (hn n)

theorem file (h : Alters made free t t') {l : Location} {e : Entry} (he : t.entry? l = some e) (hl : ¬ free l) :
    t'.entry? l = some e := by
  rcases h.entry l with e' | ⟨e', _⟩ | ⟨_, e', _⟩ | ⟨hf, _⟩
  · exact e'.trans he
  · cases e'.symm.trans he
  · cases e'.symm.trans he
  · exact absurd hf hl

theorem fileAt? (h : Alters made free t t') {l : Location} (hm : ¬ made l) (hf : ¬ free l) :
    t'.fileAt? l = t.fileAt? l := by
  unfold FileTree.fileAt?
  rcases h.entry l with e | ⟨e, n, e'⟩ | ⟨hl, _⟩ | ⟨hl, _⟩
  · rw [e]
  · rw [e, e']
    rfl
  · exact absurd hl hm
  · exact absurd hl hf

theorem place (h : Alters made free t t') (p : Path) : t'.place p = t.place p := place_of_home h.home p

theorem follow (h : Alters made free t t') {l m : Location} {names : List String} (hf : t.follow l names = .ok m) :
    t'.follow l names = .ok m := by
  induction names generalizing l with
  | nil => exact hf
  | cons name rest ih =>
    unfold FileTree.follow at hf ⊢
    split at hf
    · cases hf
    · cases hf
    · next n hd =>
      rw [h.directory hd]
      exact ih hf

theorem locate (h : Alters made free t t') {p : Path} {l : Location} (hl : t.locate p = .ok l) :
    t'.locate p = .ok l := by
  unfold FileTree.locate at hl ⊢
  rw [h.home]
  exact h.follow hl

end Alters

/-- The change that is none but new directories. -/
abbrev AddsDirectories (t t' : FileTree) : Prop := Alters (fun _ => False) (fun _ => False) t t'

/-! ## Operations -/

theorem alters_put_directory {l : Location} (h : t.entry? l = none) : AddsDirectories t (t.put l .directory) := by
  have hput : ∀ m, entry? (t.put l .directory) m = if m = l then some (.directory t.clock) else t.entry? m :=
    fun m => entry?_put (by rw [h]; rfl)
  refine ⟨rfl, fun m => ?_⟩
  by_cases hm : m = l
  · rw [hput, if_pos hm, hm]
    exact .inr (.inl ⟨h, _, rfl⟩)
  · rw [hput, if_neg hm]
    exact .inl rfl

theorem ensureDirectory_ok {p : Path} (h : t.ensureDirectory p = .ok t') :
    AddsDirectories t t' ∧ ∃ l n, t'.locate p = .ok l ∧ t'.entry? l = some (.directory n) := by
  unfold ensureDirectory at h
  split at h
  · cases h
  · next l hl =>
    split at h
    · next he =>
      cases h
      have ha := alters_put_directory he
      refine ⟨ha, l, t.clock, ha.locate hl, ?_⟩
      rw [entry?_put (by rw [he]; rfl), if_pos rfl]
    · next n hd =>
      cases h
      exact ⟨.refl _ _ t, l, n, hl, hd⟩
    · cases h

theorem makeDirectoriesFrom_ok {root : String} {names : List String} (h : makeDirectoriesFrom root names t = .ok t') :
    AddsDirectories t t' ∧ ∃ l n, t'.locate ⟨root, names.reverse⟩ = .ok l ∧ t'.entry? l = some (.directory n) := by
  induction names generalizing t t' with
  | nil => exact ensureDirectory_ok h
  | cons name outer ih =>
    unfold makeDirectoriesFrom at h
    simp only at h
    split at h
    · next hd =>
      cases h
      exact ensureDirectory_ok hd
    · split at h
      · cases hm : makeDirectoriesFrom root outer t with
        | error f => rw [hm] at h; cases h
        | ok u =>
          rw [hm] at h
          obtain ⟨ha, _⟩ := ih hm
          obtain ⟨ha', hl⟩ := ensureDirectory_ok h
          exact ⟨ha.trans ha', hl⟩
      · cases h

theorem makeDirectories_ok {p : Path} (h : t.makeDirectories p = .ok t') :
    AddsDirectories t t' ∧ ∃ l n, t'.locate p = .ok l ∧ t'.entry? l = some (.directory n) := by
  have := makeDirectoriesFrom_ok h
  rwa [List.reverse_reverse] at this

theorem makeDirectories_eq {p : Path} {l : Location} {n : Nat} (hl : t.locate p = .ok l)
    (hd : t.entry? l = some (.directory n)) : t.makeDirectories p = .ok t := by
  have he : t.ensureDirectory p = .ok t := by
    unfold ensureDirectory
    rw [hl]
    simp only [hd]
  have hp : ∀ names, p.parts.reverse = names → p = ⟨p.root, names.reverse⟩ := by
    rintro names rfl
    rw [List.reverse_reverse]
  unfold makeDirectories
  cases hn : p.parts.reverse with
  | nil =>
    have hp := hp _ hn
    rw [List.reverse_nil] at hp
    rw [makeDirectoriesFrom, ← hp]
    exact he
  | cons name outer =>
    rw [makeDirectoriesFrom]
    simp only [← hp _ hn, he]

theorem create_ok {p : Path} {c : Content} (h : t.create p c = .ok t') : t.entry? (t.place p) = none ∧
    t'.entry? (t.place p) = some (.file c t.clock) ∧ Alters (· = t.place p) (fun _ => False) t t' := by
  unfold create at h
  split at h
  · cases h
  · next l hl =>
    cases locate_eq hl
    split at h
    · cases h
    · next he =>
      cases h
      rw [Bool.not_eq_true, Option.isSome_eq_false_iff, Option.isNone_iff_eq_none] at he
      have hput : ∀ m, entry? (t.put (t.place p) (.file c)) m =
          if m = t.place p then some (.file c t.clock) else t.entry? m := fun m => entry?_put (by rw [he]; rfl)
      refine ⟨he, by rw [hput, if_pos rfl], rfl, fun m => ?_⟩
      by_cases hm : m = t.place p
      · rw [hput, if_pos hm, hm]
        exact .inr (.inr (.inl ⟨rfl, he, _, _, rfl⟩))
      · rw [hput, if_neg hm]
        exact .inl rfl

theorem write_ok {p : Path} {c : Content} (h : t.write p c = .ok t') : t.locate p = .ok (t.place p) ∧
    t'.home = t.home ∧ (t.entry? (t.place p)).any Entry.isDirectory = false ∧
      ∀ l, t'.entry? l = if l = t.place p then some (.file c t.clock) else t.entry? l := by
  unfold write at h
  split at h
  · cases h
  · next l hl =>
    cases locate_eq hl
    split at h
    · cases h
    · next hfree =>
      cases h
      rw [Bool.not_eq_true] at hfree
      exact ⟨hl, rfl, hfree, fun l => entry?_put hfree⟩

theorem write_eq {p : Path} {l : Location} (hl : t.locate p = .ok l)
    (hfree : (t.entry? l).any Entry.isDirectory = false) (c : Content) : t.write p c = .ok (t.put l (.file c)) := by
  unfold write
  simp only [hl, hfree, Bool.false_eq_true, if_false]

theorem append_ok {p : Path} {s : String} (h : t.append p s = .ok t') : ∃ c, t.write p c = .ok t' ∧
    ∀ old, t.read p = .ok (.text old) → c = .text (old ++ s) := by
  unfold append at h
  split at h
  · cases h
  · next old hr => exact ⟨_, h, fun old' hr' => by cases hr.symm.trans hr'; rfl⟩
  · next f hr => exact ⟨_, h, fun old' hr' => by cases hr.symm.trans hr'⟩

/-! ## Renaming -/

section
variable {l m : Location} {c : Content} {n : Nat} (hl : t.entry? l = some (.file c n))
  (hfree : (t.entry? m).any Entry.isDirectory = false)
  (ht : t' = { t with entries := putEntry m (.file c n) (t.erase l).entries })

include hl hfree ht

theorem entry?_move (x : Location) :
    t'.entry? x = if x = m then some (.file c n) else if x = l then none else t.entry? x := by
  have hput : t'.entry? x = if x = m then some (.file c n) else entry? (t.erase l) x := by
    rw [ht]
    cases x with
    | nil =>
      have hne : [] ≠ m := by
        rintro rfl
        cases hfree
      rw [if_neg hne]
      rfl
    | cons a x => exact lookup_putEntry _ _ _ _
  rw [hput]
  by_cases hx : x = l
  · rw [if_pos hx, hx, entry?_erase_self hl]
  · rw [if_neg hx, entry?_erase hx]

/-- Moving a file from one place to another changes both places only. -/
theorem move_alters : Alters (fun _ => False) (fun x => x = l ∨ x = m) t t' := by
  refine .of_entry (by rw [ht]) (fun x hx => ?_) ?_
  · rw [entry?_move hl hfree ht, if_neg (fun e => hx (.inr e)), if_neg (fun e => hx (.inl e))]
  · rintro x (rfl | rfl)
    · rw [hl]
      rfl
    · exact hfree

end

theorem rename_ok {p q : Path} (h : t.rename p q = .ok t') : ∃ c n, t'.locate q = .ok (t.place q) ∧ t'.home = t.home ∧
    t.entry? (t.place p) = some (.file c n) ∧ (t.entry? (t.place q)).any Entry.isDirectory = false ∧
      ∀ l, t'.entry? l = if l = t.place q then some (.file c n) else if l = t.place p then none else t.entry? l := by
  unfold rename at h
  simp only at h
  split at h
  · next l m hl hm =>
    cases locate_eq hl
    cases locate_eq hm
    -- Renaming onto a file and onto nothing does the same.
    split at h
    · next hp hq =>
      have hfree : (t.entry? (t.place q)).any Entry.isDirectory = false := by rw [hq]; rfl
      have ht := (Except.ok.inj h).symm
      exact ⟨_, _, (move_alters hp hfree ht).locate hm, by rw [ht], hp, hfree, entry?_move hp hfree ht⟩
    · next hp hq =>
      have hfree : (t.entry? (t.place q)).any Entry.isDirectory = false := by rw [hq]; rfl
      have ht := (Except.ok.inj h).symm
      exact ⟨_, _, (move_alters hp hfree ht).locate hm, by rw [ht], hp, hfree, entry?_move hp hfree ht⟩
    all_goals cases h
  · cases h
  · cases h

theorem exists_rename {p q : Path} {l m : Location} {c : Content} {n : Nat} (hl : t.locate p = .ok l)
    (hm : t.locate q = .ok m) (he : t.entry? l = some (.file c n))
    (hfree : (t.entry? m).any Entry.isDirectory = false) : ∃ t', t.rename p q = .ok t' := by
  unfold rename
  simp only [hl, hm, he]
  cases hq : t.entry? m with
  | none => exact ⟨_, rfl⟩
  | some e =>
    rw [hq] at hfree
    cases e with
    | file _ _ => exact ⟨_, rfl⟩
    | directory _ => cases hfree

end SchemaConcord.FileTree
