import Mathlib.Data.List.Nodup
import Mathlib.Data.List.Perm.Basic
import SchemaConcord.Drift.Archive
import SchemaConcord.Proofs.Lists
import SchemaConcord.Proofs.Route.Stub

/-!
# Where reports go

A report goes to a file of its own that was not there before (`write_ok`), and a failed writing leaves directories at
most. In a directory that is there a report can always be written, whatever the directory holds (`write_eq`): there
are more numbered names than entries.
-/

namespace SchemaConcord

open Text FileTree

namespace ReportArchive

variable {a : ReportArchive} {t t' : FileTree}

/-! ## Names of reports -/

def fileName (m : Moment) (n : Nat) : String :=
  head ++ m.stamp ++ (if n = 0 then "" else "-" ++ toString n) ++ ".json"

theorem file_eq (a : ReportArchive) (m : Moment) (n : Nat) : a.file m n = a.directory.child (fileName m n) := rfl

def IsReportName (name : String) : Prop := hasHead name head = true ∧ hasTail name ".json" = true

theorem isReportName_fileName (m : Moment) (n : Nat) : IsReportName (fileName m n) := by
  unfold IsReportName hasHead hasTail fileName
  rw [List.isPrefixOf_iff_prefix, List.isSuffixOf_iff_suffix]
  simp only [String.toList_append, List.append_assoc]
  refine ⟨List.prefix_append _ _, ?_⟩
  simp only [← List.append_assoc]
  exact List.suffix_append _ _

theorem fileName_injective (m : Moment) {i j : Nat} (h : fileName m i = fileName m j) : i = j := by
  unfold fileName at h
  have h := congrArg String.toList h
  simp only [String.toList_append, List.append_assoc, List.append_cancel_left_eq, List.append_cancel_right_eq] at h
  by_cases hi : i = 0
  · by_cases hj : j = 0
    · rw [hi, hj]
    · rw [if_pos hi, if_neg hj, String.toList_append] at h
      exact absurd h (by simp)
  · by_cases hj : j = 0
    · rw [if_neg hi, if_pos hj, String.toList_append] at h
      exact absurd h (by simp)
    · rw [if_neg hi, if_neg hj, String.toList_append, String.toList_append, List.append_cancel_left_eq] at h
      have hdigits : Nat.toDigits 10 i = Nat.toDigits 10 j := by simpa using h
      rw [← Nat.ofDigitChars_ten_toDigits (n := i), hdigits, Nat.ofDigitChars_ten_toDigits]

def IsReport (a : ReportArchive) (t : FileTree) (l : Location) : Prop :=
  ∃ name, IsReportName name ∧ l = t.place (a.directory.child name)

theorem isReport_of_home {l : Location} (h : t'.home = t.home) (hl : a.IsReport t' l) : a.IsReport t l := by
  obtain ⟨name, hname, rfl⟩ := hl
  exact ⟨name, hname, place_of_home h _⟩

theorem isReport_file (a : ReportArchive) (m : Moment) (n : Nat) (t : FileTree) : a.IsReport t (t.place (a.file m n)) :=
  ⟨fileName m n, isReportName_fileName m n, rfl⟩

theorem lastChar?_of_isReport {l : Location} (h : a.IsReport t l) : l.lastChar? = some 'n' := by
  obtain ⟨name, hname, rfl⟩ := h
  exact lastChar?_place rfl (getLast?_of_hasTail hname.2 rfl) (by decide) t

theorem ne_of_isReportName {name : String} (h : IsReportName name) : name ≠ ".." := by
  rintro rfl
  have := getLast?_of_hasTail (c := 'n') h.2 rfl
  cases this

/-! ## Writing a report -/

theorem writeFrom_ok {m : Moment} {c : Content} {more n : Nat} {p : Path}
    (h : a.writeFrom m c t more n = .ok (t', p)) : ∃ k, p = a.file m k ∧ t.create p c = .ok t' := by
  induction more generalizing n with
  | zero =>
    unfold writeFrom at h
    split at h
    · next u hu => cases h; exact ⟨n, rfl, hu⟩
    · cases h
  | succ more ih =>
    unfold writeFrom at h
    split at h
    · next u hu => cases h; exact ⟨n, rfl, hu⟩
    · dsimp only at h
      split at h
      · exact ih h
      · cases h

theorem write_error {r : Report} {f : FileFault} (h : a.write r t = (t', .error f)) : AddsDirectories t t' := by
  unfold write at h
  split at h
  · cases h
    exact .refl _ _ t
  · next u hu =>
    split at h
    · cases h
    · cases h
      exact (makeDirectories_ok hu).1

/-- A report that was written is in a place where nothing was, and nothing else changed but new directories. The
directory of reports is there from then on. -/
theorem write_ok {r : Report} {p : Path} (h : a.write r t = (t', .ok p)) :
    a.IsReport t (t.place p) ∧ t.entry? (t.place p) = none ∧
      (∃ n, t'.entry? (t.place p) = some (.file (.text (Json.indented r.toDatum)) n)) ∧
      Alters (· = t.place p) (fun _ => False) t t' ∧
      ∃ l n, t'.locate a.directory = .ok l ∧ t'.entry? l = some (.directory n) := by
  unfold write at h
  split at h
  · cases h
  · next u hu =>
    obtain ⟨ha, l, n, hl, hd⟩ := makeDirectories_ok hu
    split at h
    · next w q hw =>
      cases h
      obtain ⟨k, rfl, hc⟩ := writeFrom_ok hw
      obtain ⟨hnone, hfile, hb⟩ := create_ok hc
      rw [ha.place] at hnone hfile hb
      refine ⟨isReport_file a _ k t, ?_, ⟨_, hfile⟩, ?_, l, n, hb.locate hl, hb.directory hd⟩
      · cases hentry : t.entry? (t.place (a.file r.timestamp k)) with
        | none => rfl
        | some e =>
          have := ha.file hentry (fun hf => hf)
          cases hnone.symm.trans this
      · exact (ha.mono (fun _ => False.elim) fun _ => id).trans hb
    · cases h

/-! ## There is always a name left -/

variable {l : Location} {n : Nat} (hl : t.locate a.directory = .ok l) (hd : t.entry? l = some (.directory n))

include hl hd

theorem create_file (m : Moment) (c : Content) (k : Nat) : t.create (a.file m k) c =
    if (t.entry? (l ++ [fileName m k])).isSome then .error { obstacle := .present, path := a.file m k }
    else .ok (t.put (l ++ [fileName m k]) (.file c)) := by
  have hloc := locate_child hl hd (ne_of_isReportName (isReportName_fileName m k))
  unfold create
  rw [file_eq, hloc]

/-- Trying names fails only when something has every one of them. -/
theorem present_of_writeFrom_error {m : Moment} {c : Content} {f : FileFault} {more k : Nat}
    (h : a.writeFrom m c t more k = .error f) :
    ∀ i ≤ more, (t.entry? (l ++ [fileName m (k + i)])).isSome = true := by
  induction more generalizing k with
  | zero =>
    intro i hi
    obtain rfl : i = 0 := by omega
    unfold writeFrom at h
    rw [create_file hl hd] at h
    by_cases hsome : (t.entry? (l ++ [fileName m k])).isSome = true
    · exact hsome
    · rw [if_neg hsome] at h
      cases h
  | succ more ih =>
    unfold writeFrom at h
    rw [create_file hl hd] at h
    by_cases hsome : (t.entry? (l ++ [fileName m k])).isSome = true
    · rw [if_pos hsome] at h
      intro i hi
      cases i with
      | zero => exact hsome
      | succ i =>
        have := ih (k := k + 1) h i (by omega)
        rwa [show k + 1 + i = k + (i + 1) by omega] at this
    · rw [if_neg hsome] at h
      cases h

theorem exists_writeFrom (m : Moment) (c : Content) : ∃ r, a.writeFrom m c t t.entries.length 0 = .ok r := by
  cases h : a.writeFrom m c t t.entries.length 0 with
  | ok r => exact ⟨r, rfl⟩
  | error f =>
    have hpresent := present_of_writeFrom_error hl hd h
    let tried := (List.range (t.entries.length + 1)).map fun i => l ++ [fileName m i]
    have hnodup : tried.Nodup := by
      refine List.Nodup.map (fun i j hij => ?_) List.nodup_range
      rw [List.append_cancel_left_eq, List.singleton_inj] at hij
      exact fileName_injective m hij
    have hsub : tried ⊆ t.entries.map Prod.fst := by
      intro x hx
      obtain ⟨i, hi, rfl⟩ := List.mem_map.mp hx
      have hsome := hpresent i (by rw [List.mem_range] at hi; omega)
      rw [Nat.zero_add] at hsome
      obtain ⟨e, he⟩ := Option.isSome_iff_exists.mp hsome
      rw [entry?_eq_lookup (by simp)] at he
      exact List.mem_map_of_mem (mem_of_lookup he)
    have hlength := (List.subperm_of_subset hnodup hsub).length_le
    simp only [tried, List.length_map, List.length_range] at hlength
    omega

/-- A report written to a directory that is there takes a new name and changes nothing else. -/
theorem write_eq (r : Report) : ∃ k, t.entry? (l ++ [fileName r.timestamp k]) = none ∧ a.write r t =
    (t.put (l ++ [fileName r.timestamp k]) (.file (.text (Json.indented r.toDatum))), .ok (a.file r.timestamp k)) := by
  obtain ⟨⟨u, p⟩, h⟩ := exists_writeFrom hl hd r.timestamp (.text (Json.indented r.toDatum))
  obtain ⟨k, rfl, hcreate⟩ := writeFrom_ok h
  rw [create_file hl hd] at hcreate
  by_cases hsome : (t.entry? (l ++ [fileName r.timestamp k])).isSome = true
  · rw [if_pos hsome] at hcreate
    cases hcreate
  · rw [if_neg hsome] at hcreate
    cases hcreate
    refine ⟨k, by simpa using hsome, ?_⟩
    unfold write
    rw [makeDirectories_eq hl hd]
    simp only [h]

end ReportArchive

end SchemaConcord
