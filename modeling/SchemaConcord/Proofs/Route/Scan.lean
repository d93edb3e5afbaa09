import SchemaConcord.Proofs.Files.Discovery
import SchemaConcord.Proofs.Route.Stub

/-!
# Scanning for routes

No source breaks a scan for routes: one that cannot be read or understood leaves nothing but its warning. Without such
a source a check finds the same and, unless a stub is due where the source stands, writes the same stubs
(`RouteProject.validate_erase`).
-/

namespace SchemaConcord

open FileTree

variable {t : FileTree} {l : Location}

/-! ## Stubs without a file -/

theorem FileTree.writeStub_erase {directory : Path} {table : Table} (h : ¬ t.Crosses (table.stubPath directory) l) :
    (t.erase l).writeStub directory table =
      ((t.writeStub directory table).1.erase l, (t.writeStub directory table).2) := by
  unfold writeStub
  generalize table.stubPath directory = p at h ⊢
  generalize table.routeStub = text
  have hparent : ¬ t.Crosses p.parent l := fun hc => h (hc.of_prefix rfl (List.dropLast_prefix p.parts))
  dsimp only
  rw [makeDirectories_erase hparent]
  cases hmade : t.makeDirectories p.parent with
  | error f => rfl
  | ok made =>
    dsimp only [Except.map]
    rw [create_erase fun hc => h (hc.of_home (makeDirectories_ok hmade).1.home)]
    cases made.create p (.text text) <;> rfl

theorem FileTree.writeStubs_erase {directory : Path} {tables : List Table}
    (h : ∀ table ∈ tables, ¬ t.Crosses (table.stubPath directory) l) :
    writeStubs directory tables (t.erase l) =
      ((writeStubs directory tables t).1.erase l, (writeStubs directory tables t).2) := by
  induction tables generalizing t with
  | nil => rfl
  | cons table tables ih =>
    have halters := writeStub_alters t directory table
    rw [writeStubs_cons, writeStubs_cons, writeStub_erase (h table (List.mem_cons_self ..))]
    cases hu : t.writeStub directory table with
    | mk u written =>
      rw [hu] at halters
      cases written with
      | error f => rfl
      | ok written =>
        have hrest : ∀ other ∈ tables, ¬ u.Crosses (other.stubPath directory) l := fun other ho hc =>
          h other (List.mem_cons_of_mem table ho) (hc.of_home halters.home)
        dsimp only
        rw [ih hrest]

theorem Snapshot.mem_of_tablesOf {s : Snapshot} {expected : List Route} {table : Table}
    (h : table ∈ s.tablesOf expected) : table ∈ s.tables := by
  obtain ⟨name, _, hname⟩ := List.mem_filterMap.mp h
  exact List.mem_of_find?_eq_some hname

namespace RouteProject

variable {project : RouteProject}

/-! ## Sources -/

def routesIn (project : RouteProject) (p : Path) (text : String) : FileReading RouteFault Route :=
  match RouteSource.extract text (project.root.shownFrom p) with
  | .ok routes => .items routes
  | .error .malformed => .skipped .malformed
  | .error .nullCharacter => .skipped .value

theorem readFile_eq (project : RouteProject) (t : FileTree) :
    project.readFile t = fun p => t.readWith (project.routesIn p) p := rfl

theorem readFile_malformed {p : Path} {text : String} (htext : t.readText p = .ok text)
    (h : RouteSource.extract text (project.root.shownFrom p) = .error .malformed) :
    project.readFile t p = .skipped .malformed := by
  unfold readFile readWith
  rw [htext]
  dsimp only
  rw [h]

theorem routesIn_passesOver (project : RouteProject) : PassesOver project.routesIn := by
  intro p q text cause hskip
  unfold routesIn RouteSource.extract at hskip ⊢
  cases hparse : Source.parse text with
  | ok tree => rw [hparse] at hskip; cases hskip
  | error f =>
    rw [hparse] at hskip
    cases f <;> exact hskip

theorem fault?_routesIn (project : RouteProject) (p : Path) (text : String) :
    (project.routesIn p text).fault? = none := by
  unfold routesIn
  cases RouteSource.extract text (project.root.shownFrom p) with
  | ok routes => rfl
  | error f => cases f <;> rfl

def files (project : RouteProject) (t : FileTree) : Except PatternFault (List Path) :=
  t.discover project.root project.settings.patterns project.settings.directories [".py"]

theorem findings_eq {files : List Path} (h : project.files t = .ok files) (s : Snapshot) :
    project.findings s t = (scanFiles (fun p => t.readWith (project.routesIn p) p) files).map fun (found, warnings) =>
      let findings := s.checkRoutes (lastOfEach Route.key found)
      { findings with warnings := warnings ++ findings.warnings } := by
  unfold RouteProject.files at h
  unfold findings routes
  rw [h, ← readFile_eq]
  show ((scanFiles (project.readFile t) files >>= _) >>= _) = _
  cases scanFiles (project.readFile t) files <;> rfl

theorem exists_findings {files : List Path} (h : project.files t = .ok files) (s : Snapshot) :
    ∃ found, project.findings s t = .ok found := by
  rw [← fault?_eq_none, findings_eq h, fault?_map, fault?_scanFiles, List.findSome?_eq_none_iff]
  intro p _
  unfold readWith
  cases t.readText p with
  | error f => cases f <;> rfl
  | ok text => exact fault?_routesIn project p text

theorem findings_erase (ht : t.Consistent) {files : List Path} (hfiles : project.files t = .ok files) {p : Path}
    (hp : p ∈ files) {cause : SkipCause} (hskip : project.readFile t p = .skipped cause) {s : Snapshot}
    {found : RouteFindings} (hfound : project.findings s t = .ok found) :
    ∃ others, PutIn (t.skipWarnings files p cause) others found.warnings ∧
      project.findings s (t.erase (t.place p)) = .ok { found with warnings := others } := by
  obtain ⟨otherFiles, hothers, hsame⟩ := scan_erase ht hfiles project.routesIn_passesOver hp hskip
  rw [findings_eq hfiles] at hfound
  rw [findings_eq hothers]
  generalize scanFiles (fun q => (t.erase (t.place p)).readWith (project.routesIn q) q) otherFiles = before at hsame ⊢
  generalize scanFiles (fun q => t.readWith (project.routesIn q) q) files = after at hsame hfound
  cases hsame with
  | error f => cases hfound
  | ok routes h =>
    cases hfound
    exact ⟨_, h.append_right _, rfl⟩

/-! ## Checks -/

theorem validate_of_findings {s : Snapshot} {f : RouteFindings} {w : List String}
    (h : project.findings s t = .ok { f with warnings := w }) :
    project.validate s t = ((project.generate s f t).1, match (project.generate s f t).2 with
      | .ok g => .ok { g with warnings := w } w
      | .error fault => .fail ⟨.routeValidationFailed, "Failed to validate routes", fault.message⟩) := by
  unfold validate generate
  rw [h]
  dsimp only
  cases project.settings.strict with
  | false => rfl
  | true =>
    simp only [if_true]
    cases (writeStubs (project.root.join (.parse project.settings.outputDirectory)) (s.tablesOf f.missing) t).2 <;> rfl

/-- A check of routes fails for one reason only, a stub that cannot be written. -/
theorem isOk_validate {s : Snapshot} {found : RouteFindings} (h : project.findings s t = .ok found) :
    (project.validate s t).2.isOk = true ↔ project.settings.strict = false ∨
      ∃ paths, (writeStubs project.stubDirectory (s.tablesOf found.missing) t).2 = .ok paths := by
  rw [validate_of_findings (f := found) (w := found.warnings) h]
  unfold generate stubDirectory
  cases project.settings.strict with
  | false => exact ⟨fun _ => .inl rfl, fun _ => rfl⟩
  | true =>
    rw [if_pos rfl]
    dsimp only
    cases (writeStubs (project.root.join (.parse project.settings.outputDirectory)) (s.tablesOf found.missing) t).2 with
    | ok paths => exact ⟨fun _ => .inr ⟨paths, rfl⟩, fun _ => rfl⟩
    | error f =>
      refine ⟨fun hok => (nomatch hok), fun hok => ?_⟩
      rcases hok with hstrict | ⟨paths, hpaths⟩
      · cases hstrict
      · cases hpaths

theorem generate_erase {s : Snapshot} {found : RouteFindings} (hstubs : project.settings.strict = true →
      ∀ table ∈ s.tablesOf found.missing, ¬ t.Crosses (table.stubPath project.stubDirectory) l) :
    project.generate s found (t.erase l) =
      ((project.generate s found t).1.erase l, (project.generate s found t).2) := by
  unfold generate
  split
  · next hstrict =>
    have hdue := hstubs hstrict
    unfold stubDirectory at hdue
    dsimp only
    rw [writeStubs_erase hdue]
  · rfl

/-- Findings that differ in their warnings only. -/
def Agree (f g : RouteFindings) : Prop := { f with warnings := g.warnings } = g

/-- A check of routes without a source that is passed over finds the same, warns of all but the source and writes the
same stubs, unless there is one due where the source stands. -/
theorem validate_erase (ht : t.Consistent) {files : List Path} (hfiles : project.files t = .ok files) {p : Path}
    (hp : p ∈ files) {cause : SkipCause} (hskip : project.readFile t p = .skipped cause) {s : Snapshot}
    {found : RouteFindings} (hfound : project.findings s t = .ok found)
    (hstubs : project.settings.strict = true →
      ∀ table ∈ s.tablesOf found.missing, ¬ t.Crosses (table.stubPath project.stubDirectory) (t.place p)) :
    (project.validate s (t.erase (t.place p))).1 = (project.validate s t).1.erase (t.place p) ∧
      Outcome.SameBut Agree (t.skipWarnings files p cause) (project.validate s (t.erase (t.place p))).2
        (project.validate s t).2 := by
  obtain ⟨others, hput, hothers⟩ := findings_erase ht hfiles hp hskip hfound
  rw [validate_of_findings hothers, validate_of_findings (f := found) (w := found.warnings) hfound,
    generate_erase hstubs]
  dsimp only
  cases (project.generate s found t).2 with
  | error f => exact ⟨rfl, .fail _⟩
  | ok g => exact ⟨rfl, .ok rfl hput⟩

end RouteProject

end SchemaConcord
