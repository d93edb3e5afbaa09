import SchemaConcord.Form.Project
import SchemaConcord.Proofs.Files.Discovery
import SchemaConcord.Proofs.Files.Merge

/-!
# Scanning for forms

Whether the forms of a file can be told depends on its text alone (`Form.fault?_extract`). A file that is passed over
leaves nothing but its warning (`FormProject.validate_erase`); one that breaks the scan fails it
(`FormProject.isOk_validate`).

A check of a project keeps one form of each name, the last that the files give (`FormProject.validate_found`): no name
is lost, and no form when their names are distinct. Two templates of one file name in different directories, whose forms
have no name of their own, give forms of the same name.
-/

namespace SchemaConcord

/-! ## What a text holds -/

namespace Form

/-- Why the fields of a tree cannot be told: the first fault of its forms, in order. -/
def treeFault? (tree : List Markup.Element) : Option WholeFault :=
  let forms := Markup.Element.outermostIn isForm tree
  if forms.isEmpty then fault? (fieldsOf (Markup.Element.walkAll tree))
  else forms.findSome? fun e => fault? (fieldsOf (Markup.Element.walkAll e.children))

def textFault? (markup : String) : Option FormFault :=
  match Markup.Element.read markup with
  | .error fault => some (.markup fault)
  | .ok tree => (treeFault? tree).map .length

theorem fault?_ofElement (source default : String) (e : Markup.Element) :
    fault? (ofElement source default e) = fault? (fieldsOf (Markup.Element.walkAll e.children)) := by
  unfold ofElement
  cases fieldsOf (Markup.Element.walkAll e.children) <;> rfl

theorem fault?_ofTree (source default : String) (tree : List Markup.Element) :
    fault? (ofTree source default tree) = treeFault? tree := by
  unfold ofTree treeFault?
  dsimp only
  generalize Markup.Element.outermostIn isForm tree = forms
  split
  · cases fieldsOf (Markup.Element.walkAll tree) with
    | error f => rfl
    | ok fields => cases fields <;> rfl
  · rw [fault?_mapM]
    simp only [fault?_ofElement]
    -- The position of a form only makes its name.
    conv_rhs => rw [← List.zipIdx_map_fst 1 forms, List.findSome?_map]
    rfl

theorem fault?_extract (markup source default : String) : fault? (extract markup source default) = textFault? markup := by
  unfold extract textFault?
  cases Markup.Element.read markup with
  | error fault => rfl
  | ok tree =>
    dsimp only
    rw [← fault?_ofTree source default]
    cases ofTree source default tree <;> rfl

end Form

/-! ## Files -/

namespace FormProject

open FileTree

variable {project : FormProject} {t : FileTree}

def formsIn (project : FormProject) (p : Path) (text : String) : FileReading FormProjectFault Form :=
  match Form.extract text (project.root.shownFrom p) p.stem with
  | .ok forms => .items forms
  | .error (.length .undefined) => .skipped .value
  | .error f => .broken (.form f)

theorem readFile_eq (project : FormProject) (t : FileTree) :
    project.readFile t = fun p => t.readWith (project.formsIn p) p := rfl

theorem readFile_skipped {p : Path} {text : String} (htext : t.readText p = .ok text)
    (h : Form.extract text (project.root.shownFrom p) p.stem = .error (.length .undefined)) :
    project.readFile t p = .skipped .value := by
  unfold readFile readWith
  rw [htext]
  dsimp only
  rw [h]

theorem formsIn_passesOver (project : FormProject) : PassesOver project.formsIn := by
  intro p q text cause hskip
  unfold formsIn at hskip ⊢
  have hfault : fault? (Form.extract text (project.root.shownFrom q) q.stem) =
      fault? (Form.extract text (project.root.shownFrom p) p.stem) := by
    rw [Form.fault?_extract, Form.fault?_extract]
  cases hp : Form.extract text (project.root.shownFrom p) p.stem with
  | ok forms => rw [hp] at hskip; cases hskip
  | error f =>
    rw [hp] at hskip hfault
    cases hq : Form.extract text (project.root.shownFrom q) q.stem with
    | ok forms => rw [hq] at hfault; cases hfault
    | error g =>
      rw [hq] at hfault
      cases hfault
      exact hskip

def files (project : FormProject) (t : FileTree) : Except PatternFault (List Path) :=
  t.discover project.root project.settings.patterns project.settings.directories formSuffixes

theorem forms_eq {files : List Path} (h : project.files t = .ok files) :
    project.forms t = (scanFiles (fun p => t.readWith (project.formsIn p) p) files).map fun (found, warnings) =>
      (lastOfEach Form.name found, warnings) := by
  unfold FormProject.files at h
  unfold forms
  rw [h, ← readFile_eq]
  show (scanFiles (project.readFile t) files >>= _) = _
  cases scanFiles (project.readFile t) files <;> rfl

/-- A check of forms without a file that is passed over finds the same, and warns of all but the file. -/
theorem validate_erase (ht : t.Consistent) {files : List Path} (hfiles : project.files t = .ok files) {p : Path}
    (hp : p ∈ files) {cause : SkipCause} (hskip : project.readFile t p = .skipped cause) (s : Snapshot) :
    Outcome.SameBut Eq (t.skipWarnings files p cause) (project.validate s (t.erase (t.place p)))
      (project.validate s t) := by
  obtain ⟨others, hothers, hsame⟩ := scan_erase ht hfiles project.formsIn_passesOver hp hskip
  unfold validate
  rw [forms_eq hfiles, forms_eq hothers]
  generalize scanFiles (fun q => (t.erase (t.place p)).readWith (project.formsIn q) q) others = before at hsame ⊢
  generalize scanFiles (fun q => t.readWith (project.formsIn q) q) files = after at hsame ⊢
  cases hsame with
  | error f => exact .fail _
  | ok found h => exact .ok rfl (h.append_right _)

theorem fault?_formsIn (project : FormProject) (p : Path) (text : String) :
    (project.formsIn p text).fault? = none ↔
      ∀ f, Form.extract text (project.root.shownFrom p) p.stem = .error f → f = .length .undefined := by
  unfold formsIn
  cases Form.extract text (project.root.shownFrom p) p.stem with
  | ok forms => exact ⟨fun _ f hf => (nomatch hf), fun _ => rfl⟩
  | error f =>
    refine ⟨fun h g hg => ?_, fun h => ?_⟩
    · cases hg
      cases f with
      | markup fault => cases h
      | length fault =>
        cases fault with
        | infinite => cases h
        | undefined => rfl
    · rw [h f rfl]
      rfl

theorem fault?_forms {files : List Path} (hfiles : project.files t = .ok files) : fault? (project.forms t) = none ↔
    ∀ p ∈ files, ∀ text, t.readText p = .ok text →
      ∀ f, Form.extract text (project.root.shownFrom p) p.stem = .error f → f = .length .undefined := by
  rw [forms_eq hfiles, fault?_map, fault?_scanFiles, List.findSome?_eq_none_iff]
  refine forall₂_congr fun p _ => ?_
  unfold readWith
  cases t.readText p with
  | error f => cases f <;> exact ⟨fun _ text htext => (nomatch htext), fun _ => rfl⟩
  | ok text =>
    refine (fault?_formsIn project p text).trans ⟨fun h text' htext => ?_, fun h => h text rfl⟩
    cases htext
    exact h

/-- A check of forms fails for one reason only, a file whose markup cannot be read or that has a length without
bound. -/
theorem isOk_validate {files : List Path} (hfiles : project.files t = .ok files) (s : Snapshot) :
    (project.validate s t).isOk = true ↔
      ∀ p ∈ files, ∀ text, t.readText p = .ok text →
        ∀ f, Form.extract text (project.root.shownFrom p) p.stem = .error f → f = .length .undefined := by
  rw [← fault?_forms hfiles]
  unfold validate
  cases project.forms t with
  | error f => exact ⟨fun h => (nomatch h), fun h => (nomatch h)⟩
  | ok found => exact ⟨fun _ => rfl, fun _ => rfl⟩

end FormProject

/-! ## The forms that a check keeps -/

namespace FormProject

variable {project : FormProject} {t : FileTree} {files : List Path}

/-- The forms of one file, none when it cannot be read or understood. -/
def formsOf (project : FormProject) (t : FileTree) (p : Path) : List Form :=
  match t.readText p with
  | .ok text => (Form.extract text (project.root.shownFrom p) p.stem).toOption.getD []
  | .error _ => []

/-- All forms that files give, in order. -/
def found (project : FormProject) (t : FileTree) (files : List Path) : List Form := files.flatMap (project.formsOf t)

theorem itemsOf_readWith (project : FormProject) (t : FileTree) (p : Path) :
    (t.readWith (project.formsIn p) p).itemsOf = project.formsOf t p := by
  unfold FileTree.readWith formsOf formsIn
  cases t.readText p with
  | error f => cases f <;> rfl
  | ok text =>
    dsimp only
    cases Form.extract text (project.root.shownFrom p) p.stem with
    | ok forms => rfl
    | error f =>
      cases f with
      | markup fault => rfl
      | length fault => cases fault <;> rfl

theorem forms_found (hfiles : project.files t = .ok files)
    (hread : ∀ p ∈ files, ∀ text, t.readText p = .ok text →
      ∀ f, Form.extract text (project.root.shownFrom p) p.stem = .error f → f = .length .undefined) :
    ∃ warnings, project.forms t = .ok (lastOfEach Form.name (project.found t files), warnings) := by
  obtain ⟨⟨forms, warnings⟩, hforms⟩ := fault?_eq_none.mp ((fault?_forms hfiles).mpr hread)
  refine ⟨warnings, ?_⟩
  have hscan := (forms_eq hfiles).symm.trans hforms
  cases hitems : scanFiles (fun p => t.readWith (project.formsIn p) p) files with
  | error f => rw [hitems] at hscan; cases hscan
  | ok scanned =>
    rw [hitems] at hscan
    obtain ⟨items, _⟩ := scanned
    cases hscan
    rw [hforms, items_of_scanFiles hitems]
    simp only [itemsOf_readWith, found]

theorem form_check (f : Form) (s : Snapshot) : (f.check s).form = f := by
  unfold Form.check
  cases s.formTable? f.name <;> rfl

/-- Where every file can be read or is passed over, a check of forms has a result for the last form of each name that
the files give, in the order in which the names come up, and for all forms when no two share a name. -/
theorem validate_found (hfiles : project.files t = .ok files)
    (hread : ∀ p ∈ files, ∀ text, t.readText p = .ok text →
      ∀ f, Form.extract text (project.root.shownFrom p) p.stem = .error f → f = .length .undefined) (s : Snapshot) :
    ∃ checks, (project.validate s t).result = .ok checks ∧
      (∀ c, c ∈ checks ↔ ∃ before f after, project.found t files = before ++ f :: after ∧
        (∀ g ∈ after, g.name ≠ f.name) ∧ f.check s = c) ∧
      checks.map (·.form.name) = ((project.found t files).map Form.name).eraseDups ∧
      (((project.found t files).map Form.name).Nodup → checks = (project.found t files).map (·.check s)) := by
  obtain ⟨warnings, hforms⟩ := forms_found hfiles hread
  refine ⟨(lastOfEach Form.name (project.found t files)).map (·.check s), ?_, fun c => ?_, ?_, fun hnames => ?_⟩
  · unfold validate
    rw [hforms]
    rfl
  · rw [List.mem_map]
    constructor
    · rintro ⟨f, hf, rfl⟩
      obtain ⟨before, after, hfound, hlast⟩ := mem_lastOfEach.mp hf
      exact ⟨before, f, after, hfound, hlast, rfl⟩
    · rintro ⟨before, f, after, hfound, hlast, rfl⟩
      exact ⟨f, mem_lastOfEach.mpr ⟨before, after, hfound, hlast⟩, rfl⟩
  · rw [← keys_lastOfEach, List.map_map]
    exact List.map_congr_left fun f _ => congrArg Form.name (form_check f s)
  · rw [lastOfEach_of_nodup hnames]

/-! ## Two templates of one file name -/

def editForms : FormProject := ⟨{ patterns := [], directories := ["forms"] }, ⟨"/", ["shop"]⟩⟩

def newEdit : Path := ⟨"/", ["shop", "forms", "new", "edit.html"]⟩

def oldEdit : Path := ⟨"/", ["shop", "forms", "old", "edit.html"]⟩

def edits : FileTree where
  entries := [(["shop"], .directory 0),
    (["shop", "forms"], .directory 0),
    (["shop", "forms", "new"], .directory 0),
    (["shop", "forms", "new", "edit.html"], .file (.text "<form><input name=\"total\"></form>") 0),
    (["shop", "forms", "old"], .directory 0),
    (["shop", "forms", "old", "edit.html"], .file (.text "<form><input name=\"note\"></form>") 0)]
  home := []
  clock := 0

/-- The one form of a template of one field. -/
def editForm (source field : String) : Form := ⟨"edit", source, [⟨field, .text, false, none⟩], "submit"⟩

theorem editForms_files : editForms.files edits = .ok [newEdit, oldEdit] :=
  FileTree.discover_of_sources rfl rfl (by decide) (by decide)

theorem extract_edits :
    Form.extract "<form><input name=\"total\"></form>" (editForms.root.shownFrom newEdit) newEdit.stem =
        .ok [editForm "forms/new/edit.html" "total"] ∧
      Form.extract "<form><input name=\"note\"></form>" (editForms.root.shownFrom oldEdit) oldEdit.stem =
        .ok [editForm "forms/old/edit.html" "note"] := by
  constructor <;> decide +kernel

theorem found_edits : editForms.found edits [newEdit, oldEdit] =
    [editForm "forms/new/edit.html" "total", editForm "forms/old/edit.html" "note"] := by
  have hnew : edits.readText newEdit = .ok "<form><input name=\"total\"></form>" := rfl
  have hold : edits.readText oldEdit = .ok "<form><input name=\"note\"></form>" := rfl
  simp only [found, formsOf, List.flatMap_cons, List.flatMap_nil, hnew, hold, extract_edits]
  rfl

theorem edits_readable : ∀ p ∈ [newEdit, oldEdit], ∀ text, edits.readText p = .ok text →
    ∀ f, Form.extract text (editForms.root.shownFrom p) p.stem = .error f → f = .length .undefined := by
  intro p hp text htext f hf
  rcases List.mem_pair.mp hp with rfl | rfl
  · cases htext
    cases extract_edits.1.symm.trans hf
  · cases htext
    cases extract_edits.2.symm.trans hf

theorem validate_found_edits : editForms.files edits = .ok [newEdit, oldEdit] ∧
    (∀ p ∈ [newEdit, oldEdit], ∀ text, edits.readText p = .ok text →
      ∀ f, Form.extract text (editForms.root.shownFrom p) p.stem = .error f → f = .length .undefined) ∧
    ∀ s, ∃ checks, (editForms.validate s edits).result = .ok checks ∧
      (editForm "forms/old/edit.html" "note").check s ∈ checks ∧ checks.map (·.form.name) = ["edit"] := by
  refine ⟨editForms_files, edits_readable, fun s => ?_⟩
  obtain ⟨checks, hresult, hchecks, hnames, -⟩ := validate_found editForms_files edits_readable s
  rw [found_edits] at hchecks hnames
  exact ⟨checks, hresult, (hchecks _).mpr ⟨[_], _, [], rfl, fun _ h => (nomatch h), rfl⟩, hnames⟩

/-- Both templates have a form `edit`, and the check has no result for the form of the first. -/
theorem validate_edits : editForms.files edits = .ok [newEdit, oldEdit] ∧
    editForm "forms/new/edit.html" "total" ∈ editForms.found edits [newEdit, oldEdit] ∧
    ∀ s, ∃ checks, (editForms.validate s edits).result = .ok checks ∧
      ∀ c ∈ checks, c.form ≠ editForm "forms/new/edit.html" "total" := by
  refine ⟨editForms_files, found_edits ▸ List.mem_cons_self .., fun s => ?_⟩
  obtain ⟨warnings, hforms⟩ := forms_found editForms_files edits_readable
  rw [found_edits] at hforms
  refine ⟨[(editForm "forms/old/edit.html" "note").check s], ?_, fun c hc => ?_⟩
  · unfold validate
    rw [hforms]
    rfl
  · rw [List.mem_singleton.mp hc, form_check]
    decide

end FormProject

end SchemaConcord
