import SchemaConcord.Drift.Baseline
import SchemaConcord.Proofs.Files.Change
import SchemaConcord.Proofs.Schema.RoundTrip

/-!
# Saving and loading a baseline

A baseline that was saved is loaded as the schema it was saved from (`load_save`), and it stays that way while the
file is left alone (`load_of_alters`). A saving goes from a draft to its rename (`Drafted`, `Replaced`): it touches the
baseline and its temporary file only, and one that fails does not touch the baseline (`alters_of_save_error`).
`exists_save_of_ready` says when saving goes well.
-/

namespace SchemaConcord

open FileTree

theorem unifyNewlines_eq : ∀ {cs : List Char}, (∀ c ∈ cs, c ≠ '\r') → unifyNewlines cs = cs
  | [], _ => rfl
  | c :: cs, h => by
    have hc := h c (List.mem_cons_self ..)
    have ih := unifyNewlines_eq fun d hd => h d (List.mem_cons_of_mem c hd)
    rw [unifyNewlines]
    · rw [beq_false_of_ne hc, if_neg Bool.false_ne_true, ih]
    · intro rest hcr
      exact absurd hcr hc

theorem Json.indented_noReturn {n : Nat} {v : Datum} (hv : v.Storable n) : ∀ c ∈ (indented v).toList, c ≠ '\r' := by
  rintro c hc rfl
  rcases isPrintable_indented hv _ hc with h | h
  · revert h
    decide
  · cases h

namespace FileTree

variable {t t' : FileTree}

theorem isFile_of_alters {made free : Location → Prop} (h : Alters made free t t') {p : Path}
    (hfree : ¬ free (t.place p)) (hfile : t.isFile p = true) : t'.isFile p = true ∧ t'.readText p = t.readText p := by
  obtain ⟨c, n, hl, he⟩ := entry_of_isFile hfile
  have hl' := h.locate hl
  have he' := h.file he hfree
  refine ⟨isFile_of_entry hl' he', ?_⟩
  rw [← h.place] at hl' he'
  unfold readText readExactly
  rw [read_text hl' he', read_text hl he]

theorem readDocument_of_entry {α : Type} {p : Path} {s : String} {n : Nat} (hl : t.locate p = .ok (t.place p))
    (he : t.entry? (t.place p) = some (.file (.text s) n)) (hs : ∀ c ∈ s.toList, c ≠ '\r') (model : String)
    (r : Reader α) : t.readDocument model r p = (readJson model r s).mapError .model := by
  have htext : t.readText p = .ok s := by
    unfold readText readExactly
    simp only [read_text hl he]
    show Except.ok (Text.onChars unifyNewlines s) = _
    rw [Text.onChars, unifyNewlines_eq hs, String.ofList_toList]
  unfold readDocument
  simp only [htext]

end FileTree

namespace BaselineFile

variable {b : BaselineFile} {s : Snapshot} {t t' u v : FileTree} {text part : String}

/-- The places that saving a baseline may change. -/
def Touches (b : BaselineFile) (t : FileTree) (l : Location) : Prop := l = t.place b.temporary ∨ l = t.place b.path

theorem parts_eq (b : BaselineFile) : b.path.parts = [] ∨ b.path.parts = b.path.parent.parts ++ [b.path.name] := by
  rcases List.eq_nil_or_concat b.path.parts with h | ⟨l, name, h⟩
  · exact .inl h
  · right
    rw [Path.parent, Path.name, h]
    simp

theorem temporary_ne_dots (b : BaselineFile) : "." ++ b.path.name ++ ".tmp" ≠ ".." := by
  intro h
  have := congrArg String.length h
  simp only [String.length_append] at this
  revert this
  show 1 + _ + 4 = 2 → False
  omega

theorem place_temporary_ne (b : BaselineFile) (t : FileTree) : t.place b.temporary ≠ t.place b.path := by
  have htemporary : t.place b.temporary = t.place b.path.parent ++ ["." ++ b.path.name ++ ".tmp"] :=
    place_child b.temporary_ne_dots
  rw [htemporary]
  intro h
  rcases b.parts_eq with hparts | hparts
  · have hparent : t.place b.path.parent = t.place b.path := by
      unfold place Path.parent
      rw [hparts]
      rfl
    rw [hparent] at h
    have := congrArg List.length h
    simp at this
  · have hpath : t.place b.path =
        if b.path.name = ".." then (t.place b.path.parent).dropLast else t.place b.path.parent ++ [b.path.name] := by
      conv_lhs => rw [place, hparts, walk_append]
      rfl
    rw [hpath] at h
    split at h
    · have := congrArg List.length h
      simp at this
      omega
    · have := congrArg String.length (List.singleton_inj.mp (List.append_cancel_left h))
      simp only [String.length_append] at this
      revert this
      show 1 + _ + 4 = _ → False
      omega

theorem touches_of_home (h : u.home = t.home) {l : Location} : b.Touches u l ↔ b.Touches t l := by
  unfold Touches
  rw [place_of_home h, place_of_home h]

/-! ## The states of a saving -/

/-- The temporary file holds a text, and nothing else was changed. -/
structure Drafted (b : BaselineFile) (t : FileTree) (text : String) (u : FileTree) : Prop where
  home : u.home = t.home
  free : (t.entry? (t.place b.temporary)).any Entry.isDirectory = false
  draft : ∃ n, u.entry? (t.place b.temporary) = some (.file (.text text) n)
  entry : ∀ l, l ≠ t.place b.temporary → u.entry? l = t.entry? l

/-- The baseline holds a text, the temporary file is gone, and nothing else was changed. -/
structure Replaced (b : BaselineFile) (t : FileTree) (text : String) (u : FileTree) : Prop where
  home : u.home = t.home
  free : ∀ l, b.Touches t l → (t.entry? l).any Entry.isDirectory = false
  reached : u.locate b.path = .ok (t.place b.path)
  target : ∃ n, u.entry? (t.place b.path) = some (.file (.text text) n)
  draft : u.entry? (t.place b.temporary) = none
  entry : ∀ l, ¬ b.Touches t l → u.entry? l = t.entry? l

theorem Drafted.alters (h : b.Drafted t text u) : Alters (fun _ => False) (· = t.place b.temporary) t u :=
  .of_entry h.home h.entry fun _ hl => hl ▸ h.free

theorem Replaced.alters (h : b.Replaced t text u) : Alters (fun _ => False) (b.Touches t) t u :=
  .of_entry h.home h.entry h.free

theorem drafted_clear (h : t.write b.temporary (.text "") = .ok u) : b.Drafted t "" u := by
  obtain ⟨_, hhome, hfree, hentry⟩ := write_ok h
  exact ⟨hhome, hfree, ⟨t.clock, by rw [hentry, if_pos rfl]⟩, fun l hl => by rw [hentry, if_neg hl]⟩

theorem Drafted.append (h : b.Drafted t text u) (hv : u.append b.temporary part = .ok v) :
    b.Drafted t (text ++ part) v := by
  obtain ⟨c, hwrite, hc⟩ := append_ok hv
  have hplace : u.place b.temporary = t.place b.temporary := place_of_home h.home _
  obtain ⟨n, hdraft⟩ := h.draft
  obtain ⟨hl, hhome, _, hentry⟩ := write_ok hwrite
  have hread : u.read b.temporary = .ok (.text text) := read_text hl (by rw [hplace]; exact hdraft)
  rw [hc text hread, hplace] at hentry
  refine ⟨hhome.trans h.home, h.free, ⟨u.clock, by rw [hentry, if_pos rfl]⟩, fun l hl => ?_⟩
  rw [hentry, if_neg hl]
  exact h.entry l hl

theorem Drafted.rename (h : b.Drafted t text u) (hv : u.rename b.temporary b.path = .ok v) : b.Replaced t text v := by
  have hplace : ∀ p, u.place p = t.place p := place_of_home h.home
  obtain ⟨c, n, hreached, hhome, hsource, hfree, hentry⟩ := rename_ok hv
  rw [hplace] at hreached hfree
  rw [hplace] at hsource
  simp only [hplace] at hentry
  obtain ⟨m, hdraft⟩ := h.draft
  cases hdraft.symm.trans hsource
  have hne := b.place_temporary_ne t
  rw [h.entry _ hne.symm] at hfree
  refine ⟨hhome.trans h.home, ?_, hreached, ⟨n, by rw [hentry, if_pos rfl]⟩, ?_, fun l hl => ?_⟩
  · rintro l (rfl | rfl)
    · exact h.free
    · exact hfree
  · rw [hentry, if_neg hne, if_pos rfl]
  · rw [hentry, if_neg (fun e => hl (.inr e)), if_neg (fun e => hl (.inl e))]
    exact h.entry l fun e => hl (.inl e)

/-! ## Saving -/

/-- The directory of the baseline is there, and no directory stands where a file is to be written. -/
structure Ready (b : BaselineFile) (t : FileTree) : Prop where
  named : b.path.name ≠ ""
  directory : ∃ l n, t.locate b.path.parent = .ok l ∧ t.entry? l = some (.directory n)
  free : ∀ l, b.Touches t l → (t.entry? l).any Entry.isDirectory = false

theorem save_eq_steps (hname : b.path.name ≠ "") (s : Snapshot) (t : FileTree) :
    b.save s t = let (t, result) := runSteps (b.saveSteps [Json.indented s.toDatum]) t
      (t, result.mapError SaveFault.file) := by
  unfold save
  rw [if_neg]
  rwa [String.isEmpty_iff]

/-- A saving fails with at most a draft left behind, or makes the directories and replaces the baseline. -/
theorem save_cases (b : BaselineFile) (s : Snapshot) (t : FileTree) :
    (∃ t' f, b.save s t = (t', .error f) ∧ Alters (fun _ => False) (· = t.place b.temporary) t t') ∨
    ∃ t' u, b.save s t = (t', .ok ()) ∧ t.makeDirectories b.path.parent = .ok u ∧ b.Ready u ∧
      b.Replaced u (Json.indented s.toDatum) t' := by
  -- Up to the renaming only directories and the draft come up.
  have hadds : ∀ {u}, t.makeDirectories b.path.parent = .ok u →
      Alters (fun _ => False) (· = t.place b.temporary) t u :=
    fun hu => (makeDirectories_ok hu).1.mono (fun _ => id) fun _ => False.elim
  have hdraft : ∀ {u v text}, t.makeDirectories b.path.parent = .ok u → b.Drafted u text v →
      Alters (fun _ => False) (· = t.place b.temporary) t v := by
    intro u v text hu h
    refine (hadds hu).trans (h.alters.mono (fun _ => id) fun l hl => ?_)
    rw [hl, (hadds hu).place]
  by_cases hname : b.path.name = ""
  · left
    unfold save
    rw [if_pos (by rw [hname]; rfl)]
    split
    · exact ⟨t, _, rfl, .refl _ _ t⟩
    · next u hu => exact ⟨u, _, rfl, hadds hu⟩
  · rw [save_eq_steps hname]
    simp only [saveSteps, List.map_cons, List.map_nil, List.cons_append, List.nil_append, runSteps, FileStep.run]
    cases hu : t.makeDirectories b.path.parent with
    | error f => exact .inl ⟨t, _, rfl, .refl _ _ t⟩
    | ok u =>
      dsimp only
      cases hv : u.write b.temporary (.text "") with
      | error f => exact .inl ⟨u, _, rfl, hadds hu⟩
      | ok v =>
        have hclear := drafted_clear hv
        dsimp only
        cases hw : v.append b.temporary (Json.indented s.toDatum) with
        | error f => exact .inl ⟨v, _, rfl, hdraft hu hclear⟩
        | ok w =>
          have hfill := hclear.append hw
          rw [String.empty_append] at hfill
          dsimp only
          cases hx : w.rename b.temporary b.path with
          | error f => exact .inl ⟨w, _, rfl, hdraft hu hfill⟩
          | ok x =>
            have hreplaced := hfill.rename hx
            exact .inr ⟨x, u, rfl, rfl, ⟨hname, (makeDirectories_ok hu).2, hreplaced.free⟩, hreplaced⟩

theorem ready_of_save (h : b.save s t = (t', .ok ())) :
    ∃ u, t.makeDirectories b.path.parent = .ok u ∧ b.Ready u ∧ b.Replaced u (Json.indented s.toDatum) t' := by
  rcases save_cases b s t with ⟨v, f, hs, _⟩ | ⟨v, u, hs, hu, hready, hreplaced⟩
  · cases hs.symm.trans h
  · cases hs.symm.trans h
    exact ⟨u, hu, hready, hreplaced⟩

theorem alters_of_save_error {f : SaveFault} (h : b.save s t = (t', .error f)) :
    Alters (fun _ => False) (· = t.place b.temporary) t t' := by
  rcases save_cases b s t with ⟨u, g, hs, ha⟩ | ⟨v, u, hs, _⟩
  · cases hs.symm.trans h
    exact ha
  · cases hs.symm.trans h

theorem alters_of_save_ok (h : b.save s t = (t', .ok ())) : Alters (fun _ => False) (b.Touches t) t t' := by
  obtain ⟨u, hu, _, hreplaced⟩ := ready_of_save h
  have ha := (makeDirectories_ok hu).1
  exact (ha.mono (fun _ => id) fun _ => False.elim).trans
    (hreplaced.alters.mono (fun _ => id) fun l => (touches_of_home ha.home).mp)

theorem entry_of_save (h : b.save s t = (t', .ok ())) : t'.locate b.path = .ok (t'.place b.path) ∧
    ∃ n, t'.entry? (t'.place b.path) = some (.file (.text (Json.indented s.toDatum)) n) := by
  obtain ⟨u, _, _, hreplaced⟩ := ready_of_save h
  rw [place_of_home hreplaced.home]
  exact ⟨hreplaced.reached, hreplaced.target⟩

/-- A saving goes well where its directory can be made and is ready then. -/
theorem exists_save_of_ready (hu : t.makeDirectories b.path.parent = .ok u) (hready : b.Ready u) (s : Snapshot) :
    ∃ t', b.save s t = (t', .ok ()) ∧ b.Replaced u (Json.indented s.toDatum) t' := by
  obtain ⟨l, n, hl, hd⟩ := hready.directory
  have hparts : b.path.parts ≠ [] := by
    intro hnil
    refine hready.named ?_
    rw [Path.name, hnil]
    rfl
  have hparent : b.temporary.parent = b.path.parent := by simp [temporary, Path.child, Path.parent]
  have htemporary : u.locate b.temporary = .ok (u.place b.temporary) :=
    locate_of_parent (by rw [hparent]; exact hl) hd (by simp [temporary, Path.child])
  have htarget : u.locate b.path = .ok (u.place b.path) := locate_of_parent hl hd hparts
  -- Each step finds its way, since only the entry of the temporary file changes before the rename.
  obtain ⟨v, hv⟩ : ∃ v, u.write b.temporary (.text "") = .ok v :=
    ⟨_, write_eq htemporary (hready.free _ (.inl rfl)) _⟩
  have hdraft := drafted_clear hv
  obtain ⟨w, hw⟩ : ∃ w, v.append b.temporary (Json.indented s.toDatum) = .ok w := by
    obtain ⟨m, hm⟩ := hdraft.draft
    have hlocate := hdraft.alters.locate htemporary
    have hplace : v.place b.temporary = u.place b.temporary := place_of_home hdraft.home _
    unfold append
    rw [read_text (by rw [hplace]; exact hlocate) (by rw [hplace]; exact hm)]
    exact ⟨_, write_eq hlocate (by rw [hm]; rfl) _⟩
  have hdraft' := hdraft.append hw
  rw [String.empty_append] at hdraft'
  obtain ⟨m, hm⟩ := hdraft'.draft
  obtain ⟨x, hx⟩ := exists_rename (hdraft'.alters.locate htemporary) (hdraft'.alters.locate htarget) hm
    (by rw [hdraft'.entry _ (b.place_temporary_ne u).symm]; exact hready.free _ (.inr rfl))
  refine ⟨x, ?_, hdraft'.rename hx⟩
  rw [save_eq_steps hready.named]
  simp only [saveSteps, List.map_cons, List.map_nil, List.cons_append, List.nil_append, runSteps, FileStep.run, hu, hv,
    hw, hx]
  rfl

theorem Ready.exists_save (hready : b.Ready t) (s : Snapshot) : ∃ t', b.save s t = (t', .ok ()) := by
  obtain ⟨l, n, hl, hd⟩ := hready.directory
  obtain ⟨t', hsave, _⟩ := exists_save_of_ready (makeDirectories_eq hl hd) hready s
  exact ⟨t', hsave⟩

/-! ## Loading -/

theorem load_of_entry {n : Nat} (hl : t.locate b.path = .ok (t.place b.path))
    (he : t.entry? (t.place b.path) = some (.file (.text (Json.indented s.toDatum)) n)) (hs : s.capturedAt.WellFormed)
    (now : Moment) : b.load now t = .ok (some s) := by
  unfold load exist
  rw [isFile_of_entry hl he, if_pos rfl, readDocument_of_entry hl he (Json.indented_noReturn s.storable),
    Snapshot.readJson_indented hs now]
  rfl

theorem load_of_save (h : b.save s t = (t', .ok ())) (hs : s.capturedAt.WellFormed) (now : Moment) :
    b.load now t' = .ok (some s) := by
  obtain ⟨hl, n, he⟩ := entry_of_save h
  exact load_of_entry hl he hs now

/-- What is loaded stays the same while the baseline is left alone, but for the time of one that came without. -/
theorem load_of_alters {made free : Location → Prop} {now : Moment} (h : Alters made free t t')
    (hfree : ¬ free (t.place b.path)) (hload : b.load now t = .ok (some s)) (now' : Moment) :
    ∃ m, b.load now' t' = .ok (some { s with capturedAt := m }) := by
  unfold load exist at hload ⊢
  by_cases hfile : t.isFile b.path = true
  · rw [if_pos hfile] at hload
    obtain ⟨hfile', htext⟩ := isFile_of_alters h hfree hfile
    rw [if_pos hfile']
    unfold readDocument at hload ⊢
    rw [htext]
    cases ht : t.readText b.path with
    | error f => rw [ht] at hload; cases hload
    | ok text =>
      rw [ht] at hload
      have hjson : readJson "DatabaseSchema" (Snapshot.read now) text = .ok s := by
        cases hj : readJson "DatabaseSchema" (Snapshot.read now) text with
        | error f => simp only [hj] at hload; cases hload
        | ok x => simp only [hj] at hload; cases hload; rfl
      obtain ⟨m, hm⟩ := Snapshot.readJson_now hjson now'
      refine ⟨m, ?_⟩
      simp only [hm]
      rfl
  · rw [if_neg hfile] at hload
    cases hload

/-- A schema with names from beyond ASCII, taken at a moment with an offset and a fraction; views were not looked
at, and there are no indexes. -/
def abroad : Snapshot where
  version := "2024-05-01T09:07:03.000250-03:30"
  capturedAt := ⟨2024, 5, 1, 9, 7, 3, 250, some (-210)⟩
  tables := [
    { name := "größen", columns := [⟨"注文", "varchar(40)", false, true, false, some "'😀\\\"'", none⟩],
      primaryKey := none, constraints := [⟨"ck_größen", .check, ["注文"], "注文 <> ''", none, some []⟩] }]
  views := none
  indexes := some []

/-- A project with an old baseline that does not load. -/
def spoiltProject : FileTree where
  entries := [
    (["project"], .directory 0),
    (["project", "schema"], .directory 0),
    (["project", "schema", "schema.json"], .file (.text "[") 0)]
  home := ["project"]
  clock := 0

end BaselineFile

end SchemaConcord
