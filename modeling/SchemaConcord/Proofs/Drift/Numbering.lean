import SchemaConcord.Proofs.Drift.Archive

/-!
# The numbers of reports

Writing a report to a directory that is there always ends: the report takes the least number that makes a name which
nothing in the directory has, and no number beyond the count of what is in the directory is ever needed
(`exists_adds`). Everything else stays as it was. So it goes on for any row of reports, and none of them is lost
(`writeAll_numbered`).
-/

namespace SchemaConcord

open Text

/-! ## What is in a directory -/

namespace FileTree

variable {t : FileTree} {p : Path} {l : Location} {name : String} {e : Entry}

theorem exists_of_isDirectory (h : t.isDirectory p = true) :
    ∃ l n, t.locate p = .ok l ∧ t.entry? l = some (.directory n) := by
  unfold isDirectory at? at h
  cases hl : t.locate p with
  | error o =>
    rw [hl] at h
    cases h
  | ok l =>
    rw [hl] at h
    simp only [Except.toOption, Option.bind_some] at h
    cases he : t.entry? l with
    | none =>
      rw [he] at h
      cases h
    | some e =>
      rw [he] at h
      cases e with
      | file => cases h
      | directory n => exact ⟨l, n, rfl, he⟩

theorem at?_of_locate (hl : t.locate p = .ok l) : t.at? p = t.entry? l := by
  unfold at?
  rw [hl]
  rfl

theorem isDirectory_of_entry {n : Nat} (hl : t.locate p = .ok l) (hd : t.entry? l = some (.directory n)) :
    t.isDirectory p = true := by
  unfold isDirectory
  rw [at?_of_locate hl, hd]
  rfl

theorem entry_of_at? (h : t.at? p = some e) : t.locate p = .ok (t.place p) ∧ t.entry? (t.place p) = some e := by
  cases hl : t.locate p with
  | error o =>
    unfold at? at h
    rw [hl] at h
    cases h
  | ok l =>
    rw [at?_of_locate hl] at h
    cases locate_eq hl
    exact ⟨rfl, h⟩

theorem mem_children (hl : t.locate p = .ok l) : (name, e) ∈ t.children p ↔ (l ++ [name], e) ∈ t.entries := by
  unfold children
  rw [hl]
  simp only [List.mem_filterMap]
  constructor
  · rintro ⟨⟨m, f⟩, hm, hpick⟩
    dsimp only at hpick
    split at hpick
    · next last _ =>
      split at hpick
      · next hlast =>
        cases hpick
        rwa [← hlast]
      · cases hpick
    · cases hpick
  · intro h
    exact ⟨_, h, by simp⟩

theorem mem_children_of_entry (hl : t.locate p = .ok l) (he : t.entry? (l ++ [name]) = some e) :
    (name, e) ∈ t.children p := by
  rw [mem_children hl]
  rw [entry?_eq_lookup (by simp)] at he
  exact mem_of_lookup he

theorem children_put {make : Nat → Entry} (hl : t.locate p = .ok l) (hl' : locate (t.put (l ++ [name]) make) p = .ok l)
    (hfree : t.entry? (l ++ [name]) = none) :
    children (t.put (l ++ [name]) make) p = t.children p ++ [(name, make t.clock)] := by
  rw [entry?_eq_lookup (by simp)] at hfree
  have hentries : (t.put (l ++ [name]) make).entries = t.entries ++ [(l ++ [name], make t.clock)] := putEntry_fresh hfree
  unfold children
  rw [hl, hl', hentries]
  simp

end FileTree

open FileTree

namespace ReportArchive

variable {a : ReportArchive} {t t' u : FileTree} {r : Report}

/-! ## One report -/

/-- What becomes of a tree when a report is filed under the number `n`. -/
structure Adds (a : ReportArchive) (r : Report) (n : Nat) (t t' : FileTree) : Prop where
  free : t.at? (a.file r.timestamp n) = none
  taken : ∀ i < n, t.isPresent (a.file r.timestamp i) = true
  few : n ≤ (t.children a.directory).length
  written : t'.at? (a.file r.timestamp n) = some (.file (.text (Json.indented r.toDatum)) t.clock)
  listed : t'.children a.directory = t.children a.directory ++
    [(fileName r.timestamp n, .file (.text (Json.indented r.toDatum)) t.clock)]
  others : ∀ l, l ≠ t.place (a.file r.timestamp n) → t'.entry? l = t.entry? l
  home : t'.home = t.home

section
variable {l : Location} {n : Nat} (hl : t.locate a.directory = .ok l) (hd : t.entry? l = some (.directory n))

include hl hd

theorem locate_file (m : Moment) (k : Nat) : t.locate (a.file m k) = .ok (l ++ [fileName m k]) :=
  locate_child hl hd (ne_of_isReportName (isReportName_fileName m k))

theorem at?_file (m : Moment) (k : Nat) : t.at? (a.file m k) = t.entry? (l ++ [fileName m k]) :=
  at?_of_locate (locate_file hl hd m k)

/-- The first number that is tried and makes a free name is taken. -/
theorem writeFrom_least {m : Moment} {c : Content} {p : Path} {more k : Nat}
    (h : a.writeFrom m c t more k = .ok (t', p)) : ∃ i ≥ k, p = a.file m i ∧
      (∀ j, k ≤ j → j < i → t.isPresent (a.file m j) = true) ∧ t.create (a.file m i) c = .ok t' := by
  induction more generalizing k with
  | zero =>
    unfold writeFrom at h
    split at h
    · next u hu =>
      cases h
      exact ⟨k, Nat.le_refl k, rfl, fun j hj hk => by omega, hu⟩
    · cases h
  | succ more ih =>
    unfold writeFrom at h
    split at h
    · next u hu =>
      cases h
      exact ⟨k, Nat.le_refl k, rfl, fun j hj hk => by omega, hu⟩
    · next f hf =>
      dsimp only at h
      split at h
      · obtain ⟨i, hi, hp, hbelow, hcreate⟩ := ih h
        refine ⟨i, by omega, hp, fun j hj hji => ?_, hcreate⟩
        rcases Nat.eq_or_lt_of_le hj with rfl | hj
        · -- The name at which creating failed: something has it.
          rw [create_file hl hd] at hf
          unfold isPresent
          rw [at?_file hl hd]
          by_cases hsome : (t.entry? (l ++ [fileName m k])).isSome = true
          · exact hsome
          · rw [if_neg hsome] at hf
            cases hf
        · exact hbelow j hj hji
      · cases h

/-- There are no more names taken in a row than there are entries in the directory. -/
theorem le_children {m : Moment} {k : Nat} (h : ∀ i < k, t.isPresent (a.file m i) = true) :
    k ≤ (t.children a.directory).length := by
  let names := (List.range k).map (fileName m)
  have hnodup : names.Nodup := List.Nodup.map (fun i j hij => fileName_injective m hij) List.nodup_range
  have hsub : names ⊆ (t.children a.directory).map Prod.fst := by
    intro name hname
    obtain ⟨i, hi, rfl⟩ := List.mem_map.mp hname
    have hpresent := h i (List.mem_range.mp hi)
    unfold isPresent at hpresent
    rw [at?_file hl hd] at hpresent
    obtain ⟨e, he⟩ := Option.isSome_iff_exists.mp hpresent
    exact List.mem_map_of_mem (f := Prod.fst) (mem_children_of_entry hl he)
  have hlength := (List.subperm_of_subset hnodup hsub).length_le
  simpa [names] using hlength

end

/-- A report can be written to any directory that is there, and takes the least number that is free. -/
theorem exists_adds (h : t.isDirectory a.directory = true) (r : Report) :
    ∃ k t', a.write r t = (t', .ok (a.file r.timestamp k)) ∧ a.Adds r k t t' := by
  obtain ⟨l, n, hl, hd⟩ := exists_of_isDirectory h
  obtain ⟨⟨u, p⟩, hwrite⟩ := exists_writeFrom hl hd r.timestamp (.text (Json.indented r.toDatum))
  obtain ⟨k, _, rfl, hbelow, hcreate⟩ := writeFrom_least hl hd hwrite
  have hplace : t.place (a.file r.timestamp k) = l ++ [fileName r.timestamp k] :=
    (locate_eq (locate_file hl hd r.timestamp k)).symm
  obtain ⟨hnone, _, halters⟩ := create_ok hcreate
  rw [hplace] at hnone
  -- The name is free, so that creating the file puts it in.
  have hu : u = t.put (l ++ [fileName r.timestamp k]) (.file (.text (Json.indented r.toDatum))) := by
    rw [create_file hl hd, hnone, if_neg (by simp)] at hcreate
    exact (Except.ok.inj hcreate).symm
  have hput : ∀ m, u.entry? m = if m = l ++ [fileName r.timestamp k] then
      some (.file (.text (Json.indented r.toDatum)) t.clock) else t.entry? m := by
    intro m
    rw [hu]
    exact entry?_put (by rw [hnone]; rfl)
  have hbelow := fun i hi => hbelow i (Nat.zero_le i) hi
  have hl' := halters.locate hl
  refine ⟨k, u, ?_, ?_, hbelow, le_children hl hd hbelow, ?_, ?_, fun m hm => ?_, halters.home⟩
  · unfold write
    rw [makeDirectories_eq hl hd]
    simp only [hwrite]
  · rw [at?_file hl hd]
    exact hnone
  · rw [at?_file hl' (halters.directory hd), hput, if_pos rfl]
  · rw [hu] at hl' ⊢
    exact children_put hl hl' hnone
  · rw [hplace] at hm
    rw [hput, if_neg hm]

/-! ## A row of reports -/

namespace Adds

variable {k : Nat}

theorem alters (h : a.Adds r k t t') (hdir : t.isDirectory a.directory = true) :
    Alters (· = t.place (a.file r.timestamp k)) (fun _ => False) t t' := by
  obtain ⟨l, n, hl, hd⟩ := exists_of_isDirectory hdir
  have hloc := locate_file hl hd r.timestamp k
  have hfree := h.free
  rw [at?_of_locate hloc, locate_eq hloc] at hfree
  have hwritten := (entry_of_at? h.written).2
  rw [place_of_home h.home] at hwritten
  refine ⟨h.home, fun m => ?_⟩
  by_cases hm : m = t.place (a.file r.timestamp k)
  · rw [hm]
    exact .inr (.inr (.inl ⟨rfl, hfree, _, _, hwritten⟩))
  · exact .inl (h.others m hm)

theorem isDirectory (h : a.Adds r k t t') (hdir : t.isDirectory a.directory = true) :
    t'.isDirectory a.directory = true := by
  obtain ⟨l, n, hl, hd⟩ := exists_of_isDirectory hdir
  have halters := h.alters hdir
  exact isDirectory_of_entry (halters.locate hl) (halters.directory hd)

end Adds

/-- Writes reports one after another. -/
def writeAll (a : ReportArchive) : List Report → FileTree → FileTree × List (Except FileFault Path)
  | [], t => (t, [])
  | r :: rs, t =>
    let (u, p) := a.write r t
    let (t', ps) := a.writeAll rs u
    (t', p :: ps)

/-- The way of a tree while reports are filed one after another under the numbers `ns`. -/
inductive Numbered (a : ReportArchive) : List Report → List Nat → FileTree → FileTree → Prop
  | nil (t : FileTree) : a.Numbered [] [] t t
  | cons {r : Report} {n : Nat} {rs : List Report} {ns : List Nat} {t u t' : FileTree} (first : a.Adds r n t u)
      (rest : a.Numbered rs ns u t') : a.Numbered (r :: rs) (n :: ns) t t'

/-- The report is in the tree in full, under the number `n`. -/
def Holds (a : ReportArchive) (t : FileTree) (r : Report) (n : Nat) : Prop :=
  ∃ changed, t.at? (a.file r.timestamp n) = some (.file (.text (Json.indented r.toDatum)) changed)

namespace Numbered

variable {rs : List Report} {ns : List Nat}

theorem alters (h : a.Numbered rs ns t t') (hdir : t.isDirectory a.directory = true) :
    Alters (fun _ => True) (fun _ => False) t t' := by
  induction h with
  | nil t => exact .refl _ _ t
  | cons first rest ih =>
    exact ((first.alters hdir).mono (fun _ _ => trivial) (fun _ => id)).trans (ih (first.isDirectory hdir))

/-- No later report is written over an earlier one. -/
theorem holds (h : a.Numbered rs ns t t') (hdir : t.isDirectory a.directory = true) :
    List.Forall₂ (a.Holds t') rs ns := by
  induction h with
  | nil => exact .nil
  | cons first rest ih =>
    have hdir' := first.isDirectory hdir
    have halters := rest.alters hdir'
    obtain ⟨hloc, hentry⟩ := entry_of_at? first.written
    have hat := at?_of_locate (halters.locate hloc)
    rw [halters.file hentry (fun hf => hf)] at hat
    exact .cons ⟨_, hat⟩ (ih hdir')

end Numbered

/-- Writing any reports to a directory that is there, whatever is in it, files each of them under the least number
that is free by then. What was there before stays as it was, and so does every report. -/
theorem writeAll_numbered (h : t.isDirectory a.directory = true) (rs : List Report) : ∃ ns t',
    a.writeAll rs t = (t', List.zipWith (fun r n => .ok (a.file r.timestamp n)) rs ns) ∧ a.Numbered rs ns t t' ∧
      (∀ l e, t.entry? l = some e → t'.entry? l = some e) ∧ List.Forall₂ (a.Holds t') rs ns := by
  have hrun : ∃ ns t', a.writeAll rs t = (t', List.zipWith (fun r n => .ok (a.file r.timestamp n)) rs ns) ∧
      a.Numbered rs ns t t' := by
    induction rs generalizing t with
    | nil => exact ⟨[], t, rfl, .nil t⟩
    | cons r rs ih =>
      obtain ⟨n, u, hwrite, hadds⟩ := exists_adds h r
      obtain ⟨ns, t', hrest, hnumbered⟩ := ih (hadds.isDirectory h)
      refine ⟨n :: ns, t', ?_, .cons hadds hnumbered⟩
      unfold writeAll
      rw [hwrite]
      simp only [hrest, List.zipWith_cons_cons]
  obtain ⟨ns, t', hwrite, hnumbered⟩ := hrun
  have halters := hnumbered.alters h
  exact ⟨ns, t', hwrite, hnumbered, fun l e he => halters.file he (fun hf => hf), hnumbered.holds h⟩

/-- A directory of reports in which the name for the second is a directory's, and the first number is a spoilt file's. -/
def crowded : FileTree where
  entries := [
    (["reports"], .directory 0),
    (["reports", "drift-report-2024-05-01-090703.json"], .directory 0),
    (["reports", "drift-report-2024-05-01-090703-1.json"], .file (.broken ⟨0, [255], .start⟩) 0),
    (["reports", "notes.txt"], .file (.text "kept") 0)]
  home := []
  clock := 1

def calmReport : Report := ⟨⟨2024, 5, 1, 9, 7, 3, 250, some (-210)⟩, "v1", "v2", [], []⟩

theorem writeAll_numbered_crowded : crowded.isDirectory ⟨"", ["reports"]⟩ = true ∧ ∃ ns t',
    writeAll ⟨⟨"", ["reports"]⟩⟩ [calmReport, calmReport] crowded =
      (t', List.zipWith (fun r n => .ok (file ⟨⟨"", ["reports"]⟩⟩ r.timestamp n)) [calmReport, calmReport] ns) ∧
    Numbered ⟨⟨"", ["reports"]⟩⟩ [calmReport, calmReport] ns crowded t' ∧
    t'.entry? ["reports", "notes.txt"] = some (.file (.text "kept") 0) := by
  have hdir : crowded.isDirectory ⟨"", ["reports"]⟩ = true := by decide
  obtain ⟨ns, t', hwrite, hnumbered, hkept, _⟩ :=
    writeAll_numbered (a := ⟨⟨"", ["reports"]⟩⟩) hdir [calmReport, calmReport]
  exact ⟨hdir, ns, t', hwrite, hnumbered, hkept _ _ rfl⟩

end ReportArchive

end SchemaConcord
