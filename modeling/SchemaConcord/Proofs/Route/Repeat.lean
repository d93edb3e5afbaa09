import SchemaConcord.Proofs.Files.Growth
import SchemaConcord.Proofs.Files.Merge
import SchemaConcord.Proofs.Route.Scan

/-!
# Checking routes again

A strict check that succeeds leaves a tree in which nothing is left to write: every stub that was due stands, or
something else stands in its place. Checking that tree again finds all the routes it found before, so no other route is
missing, and writes nothing (`RouteProject.validate_again`).
-/

namespace SchemaConcord

open FileTree

/-! ## Routes by method and path -/

theorem HttpMethod.space_not_mem_word (m : HttpMethod) : ' ' ∉ m.word.toList := by
  cases m <;> decide

theorem HttpMethod.word_injective {m m' : HttpMethod} (h : m.word = m'.word) : m = m' := by
  cases m <;> cases m' <;> first | rfl | exact absurd h (by decide)

theorem takeWhile_ne {α : Type} [DecidableEq α] {a : α} {l : List α} (h : a ∉ l) (rest : List α) :
    (l ++ a :: rest).takeWhile (· != a) = l := by
  have hall : ∀ b ∈ l, (b != a) = true := fun b hb => bne_iff_ne.mpr fun e => h (e ▸ hb)
  rw [List.takeWhile_append_of_pos hall]
  simp

theorem Route.key_eq {r r' : Route} (h : r.key = r'.key) : r.method = r'.method ∧ r.path = r'.path := by
  have hlist : r.method.word.toList ++ ' ' :: r.path.toList = r'.method.word.toList ++ ' ' :: r'.path.toList := by
    have := congrArg String.toList h
    simpa [Route.key] using this
  have hword : r.method.word.toList = r'.method.word.toList := by
    rw [← takeWhile_ne r.method.space_not_mem_word r.path.toList, hlist, takeWhile_ne r'.method.space_not_mem_word]
  rw [hword, List.append_cancel_left_eq, List.cons.injEq] at hlist
  exact ⟨HttpMethod.word_injective (String.toList_inj.mp hword), String.toList_inj.mp hlist.2⟩

/-- With more routes, no other expected route is missing. -/
theorem Snapshot.missingRoutes_sublist (s : Snapshot) {routes routes' : List Route}
    (h : ∀ r ∈ routes, ∃ r' ∈ routes', r'.key = r.key) : (s.missingRoutes routes').Sublist (s.missingRoutes routes) := by
  refine List.monotone_filter_right _ fun e he => ?_
  rw [Bool.not_eq_true', ← Bool.not_eq_true, List.any_eq_true] at he ⊢
  rintro ⟨r, hr, hcovers⟩
  obtain ⟨r', hr', hkey⟩ := h r hr
  obtain ⟨hmethod, hpath⟩ := Route.key_eq hkey
  refine he ⟨r', hr', ?_⟩
  unfold Route.covers at hcovers ⊢
  rw [hmethod, hpath]
  exact hcovers

/-! ## Stubs that stand -/

namespace FileTree

variable {tree tree' : FileTree} {directory : Path} {t : Table}

/-- The directory for a stub is there, and something stands in the stub's place. -/
structure Settled (tree : FileTree) (p : Path) : Prop where
  parent : ∃ l n, tree.locate p.parent = .ok l ∧ tree.entry? l = some (.directory n)
  taken : ∃ l e, tree.locate p = .ok l ∧ tree.entry? l = some e

theorem Settled.grow {p : Path} (h : tree.Settled p) (hgrows : Grows tree tree') : tree'.Settled p := by
  obtain ⟨l, n, hl, hd⟩ := h.parent
  obtain ⟨m, e, hm, he⟩ := h.taken
  exact ⟨⟨l, n, hgrows.locate hl, hgrows.entry? hd⟩, ⟨m, e, hgrows.locate hm, hgrows.entry? he⟩⟩

theorem create_settled {p : Path} {c : Content} {l : Location} {e : Entry} (hl : tree.locate p = .ok l)
    (he : tree.entry? l = some e) : tree.create p c = .error { obstacle := .present, path := p } := by
  unfold create
  simp only [hl, he, Option.isSome_some, if_true]

theorem writeStub_of_settled (h : tree.Settled (t.stubPath directory)) :
    tree.writeStub directory t = (tree, .ok none) := by
  obtain ⟨l, n, hl, hd⟩ := h.parent
  obtain ⟨m, e, hm, he⟩ := h.taken
  unfold writeStub
  generalize t.stubPath directory = p at hl hm ⊢
  generalize t.routeStub = text
  dsimp only
  rw [makeDirectories_eq hl hd]
  dsimp only
  rw [create_settled hm he]
  rfl

theorem grows_writeStub (tree : FileTree) (directory : Path) (t : Table) :
    Grows tree (tree.writeStub directory t).1 := by
  unfold writeStub
  generalize t.stubPath directory = p
  generalize t.routeStub = text
  dsimp only
  cases hmade : tree.makeDirectories p.parent with
  | error f => exact .refl tree
  | ok made =>
    dsimp only
    cases hwritten : made.create p (.text text) with
    | error f => exact grows_makeDirectories hmade
    | ok written => exact (grows_makeDirectories hmade).trans (grows_create hwritten)

theorem follow_ne_present (l : Location) (names : List String) : tree.follow l names ≠ .error .present := by
  induction names generalizing l with
  | nil => exact fun h => nomatch h
  | cons name rest ih =>
    unfold follow
    split
    · exact fun h => nomatch h
    · exact fun h => nomatch h
    · exact ih _

/-- A new file is refused as present only where something stands. -/
theorem taken_of_present {p : Path} {c : Content} {f : FileFault} (h : tree.create p c = .error f)
    (hf : f.obstacle = .present) : ∃ l e, tree.locate p = .ok l ∧ tree.entry? l = some e := by
  unfold create at h
  cases hl : tree.locate p with
  | error o =>
    rw [hl] at h
    cases h
    cases hf
    exact absurd hl (follow_ne_present _ _)
  | ok l =>
    rw [hl] at h
    dsimp only at h
    split at h
    · next he =>
      obtain ⟨e, he⟩ := Option.isSome_iff_exists.mp he
      exact ⟨l, e, rfl, he⟩
    · cases h

theorem taken_of_create {p : Path} {c : Content} (h : tree.create p c = .ok tree') :
    ∃ l e, tree'.locate p = .ok l ∧ tree'.entry? l = some e := by
  have hgrows := grows_create h
  obtain ⟨-, he, -⟩ := create_ok h
  unfold create at h
  cases hl : tree.locate p with
  | error o => rw [hl] at h; cases h
  | ok l =>
    cases locate_eq hl
    exact ⟨_, _, hgrows.locate hl, he⟩

theorem settled_writeStub {written : Option Path} (h : (tree.writeStub directory t).2 = .ok written) :
    (tree.writeStub directory t).1.Settled (t.stubPath directory) := by
  unfold writeStub at h ⊢
  generalize t.stubPath directory = p at h ⊢
  generalize t.routeStub = text at h ⊢
  dsimp only at h ⊢
  cases hmade : tree.makeDirectories p.parent with
  | error f => rw [hmade] at h; cases h
  | ok made =>
    obtain ⟨-, hparent⟩ := makeDirectories_ok hmade
    rw [hmade] at h
    dsimp only at h ⊢
    cases hcreated : made.create p (.text text) with
    | error f =>
      rw [hcreated] at h
      dsimp only at h
      split at h
      · next hf => exact ⟨hparent, taken_of_present hcreated hf⟩
      · cases h
    | ok u =>
      have hgrows := grows_create hcreated
      obtain ⟨l, n, hl, hd⟩ := hparent
      exact ⟨⟨l, n, hgrows.locate hl, hgrows.entry? hd⟩, taken_of_create hcreated⟩

/-- Only the table's own stub is a new file. -/
theorem new_writeStub {l : Location} {c : Content} {n : Nat} (hnone : tree.entry? l = none)
    (h : entry? (tree.writeStub directory t).1 l = some (.file c n)) :
    l = tree.place (t.stubPath directory) ∧ c = .text t.routeStub := by
  unfold writeStub at h
  generalize t.stubPath directory = p at h ⊢
  generalize t.routeStub = text at h ⊢
  dsimp only at h
  cases hmade : tree.makeDirectories p.parent with
  | error f =>
    rw [hmade] at h
    cases hnone.symm.trans h
  | ok made =>
    rw [hmade] at h
    dsimp only at h
    obtain ⟨hdirectories, -⟩ := makeDirectories_ok hmade
    -- Making the directories adds no file.
    have hmiddle : ∀ c n, made.entry? l ≠ some (.file c n) := by
      intro c n he
      rcases hdirectories.entry l with hsame | ⟨-, m, hd⟩ | ⟨hfalse, -⟩ | ⟨hfalse, -⟩
      · cases (hsame.trans hnone).symm.trans he
      · cases hd.symm.trans he
      · exact hfalse
      · exact hfalse
    cases hcreated : made.create p (.text text) with
    | error f =>
      rw [hcreated] at h
      exact absurd h (hmiddle c n)
    | ok u =>
      rw [hcreated] at h
      obtain ⟨-, he, halters⟩ := create_ok hcreated
      have hplace : made.place p = tree.place p := hdirectories.place p
      rw [hplace] at he halters
      rcases halters.entry l with hsame | ⟨-, m, hd⟩ | ⟨rfl, -⟩ | ⟨hfalse, -⟩
      · exact absurd (hsame.symm.trans h) (hmiddle c n)
      · cases hd.symm.trans h
      · cases he.symm.trans h
        exact ⟨rfl, rfl⟩
      · exact hfalse.elim

/-! ## All stubs -/

variable {tables : List Table}

theorem grows_writeStubs (directory : Path) (tables : List Table) (tree : FileTree) :
    Grows tree (writeStubs directory tables tree).1 := by
  induction tables generalizing tree with
  | nil => exact .refl tree
  | cons t tables ih =>
    have hfirst := grows_writeStub tree directory t
    rw [writeStubs_cons]
    cases hu : tree.writeStub directory t with
    | mk u written =>
      rw [hu] at hfirst
      cases written with
      | error f => exact hfirst
      | ok written => exact hfirst.trans (ih u)

theorem settled_writeStubs {paths : List Path} (h : (writeStubs directory tables tree).2 = .ok paths) :
    ∀ t ∈ tables, (writeStubs directory tables tree).1.Settled (t.stubPath directory) := by
  induction tables generalizing tree paths with
  | nil => exact fun _ ht => nomatch ht
  | cons t tables ih =>
    rw [writeStubs_cons] at h ⊢
    cases hu : tree.writeStub directory t with
    | mk u written =>
      rw [hu] at h
      cases written with
      | error f => cases h
      | ok written =>
        dsimp only at h ⊢
        have hfirst : (tree.writeStub directory t).1.Settled (t.stubPath directory) :=
          settled_writeStub (congrArg Prod.snd hu)
        rw [hu] at hfirst
        obtain ⟨more, hmore⟩ : ∃ more, (writeStubs directory tables u).2 = .ok more := by
          cases hrest : (writeStubs directory tables u).2 with
          | error f => rw [hrest] at h; cases h
          | ok more => exact ⟨more, rfl⟩
        intro other hother
        rcases List.mem_cons.mp hother with rfl | hother
        · exact hfirst.grow (grows_writeStubs ..)
        · exact ih hmore other hother

theorem writeStubs_of_settled (h : ∀ t ∈ tables, tree.Settled (t.stubPath directory)) :
    writeStubs directory tables tree = (tree, .ok []) := by
  induction tables with
  | nil => rfl
  | cons t tables ih =>
    rw [writeStubs_cons, writeStub_of_settled (h t (List.mem_cons_self ..))]
    dsimp only
    rw [ih fun other hother => h other (List.mem_cons_of_mem t hother)]
    rfl

theorem new_writeStubs {l : Location} {c : Content} {n : Nat} (hnone : tree.entry? l = none)
    (h : entry? (writeStubs directory tables tree).1 l = some (.file c n)) :
    ∃ t ∈ tables, l = tree.place (t.stubPath directory) ∧ c = .text t.routeStub := by
  induction tables generalizing tree with
  | nil => cases hnone.symm.trans h
  | cons t tables ih =>
    have hfirst : ∀ m, entry? (tree.writeStub directory t).1 l = some (.file c m) →
        l = tree.place (t.stubPath directory) ∧ c = .text t.routeStub := fun m => new_writeStub hnone
    have hgrows := grows_writeStub tree directory t
    rw [writeStubs_cons] at h
    cases hu : tree.writeStub directory t with
    | mk u written =>
      rw [hu] at hfirst hgrows h
      have hthis : ∀ m, u.entry? l = some (.file c m) →
          ∃ t' ∈ t :: tables, l = tree.place (t'.stubPath directory) ∧ c = .text t'.routeStub := fun m hm =>
        ⟨t, List.mem_cons_self .., hfirst m hm⟩
      cases written with
      | error f => exact hthis n h
      | ok written =>
        cases hentry : u.entry? l with
        | some e =>
          -- What the first stub left there is there in the end.
          have hlast := Grows.entry? (grows_writeStubs directory tables u) hentry
          cases hlast.symm.trans h
          exact hthis n hentry
        | none =>
          obtain ⟨t', ht', hl, hc⟩ := ih hentry h
          rw [place_of_home hgrows.home] at hl
          exact ⟨t', List.mem_cons_of_mem t ht', hl, hc⟩

end FileTree

/-! ## The second check -/

namespace RouteProject

variable {project : RouteProject} {s : Snapshot} {tree tree' : FileTree}

theorem files_of_findings {found : RouteFindings} (h : project.findings s tree = .ok found) :
    ∃ files, project.files tree = .ok files := by
  cases hfiles : project.files tree with
  | ok files => exact ⟨files, rfl⟩
  | error f =>
    unfold RouteProject.files at hfiles
    unfold findings routes at h
    rw [hfiles] at h
    cases h

/-- In a grown tree a check finds no other route to be missing. -/
theorem findings_grow (hgrows : Grows tree tree') {found : RouteFindings} (h : project.findings s tree = .ok found) :
    ∃ found', project.findings s tree' = .ok found' ∧ found'.missing.Sublist found.missing := by
  obtain ⟨files, hfiles⟩ := files_of_findings h
  obtain ⟨files', hfiles', hsub⟩ := hgrows.discover hfiles
  obtain ⟨found', hfound'⟩ := exists_findings hfiles' s
  refine ⟨found', hfound', ?_⟩
  rw [findings_eq hfiles] at h
  rw [findings_eq hfiles'] at hfound'
  cases hscan : scanFiles (fun p => tree.readWith (project.routesIn p) p) files with
  | error f => rw [hscan] at h; cases h
  | ok scanned =>
    cases hscan' : scanFiles (fun p => tree'.readWith (project.routesIn p) p) files' with
    | error f => rw [hscan'] at hfound'; cases hfound'
    | ok scanned' =>
      rw [hscan] at h
      rw [hscan'] at hfound'
      cases h
      cases hfound'
      refine s.missingRoutes_sublist fun r hr => ?_
      obtain ⟨p, hp, l, hread, hr⟩ := (mem_scanFiles hscan).mp (lastOfEach_subset hr)
      have hsame : tree'.readWith (project.routesIn p) p = .items l := by
        unfold readWith at hread ⊢
        rw [hgrows.readText (isSource_of_mem hfiles hp)]
        exact hread
      exact exists_lastOfEach ((mem_scanFiles hscan').mpr ⟨p, hsub hp, l, hsame, hr⟩)

end RouteProject

theorem Snapshot.tablesOf_subset {s : Snapshot} {l l' : List Route} (h : l ⊆ l') : s.tablesOf l ⊆ s.tablesOf l' := by
  intro t ht
  obtain ⟨name, hname, htable⟩ := List.mem_filterMap.mp ht
  refine List.mem_filterMap.mpr ⟨name, ?_, htable⟩
  rw [List.mem_eraseDups] at hname ⊢
  obtain ⟨r, hr, hn⟩ := List.mem_filterMap.mp hname
  exact List.mem_filterMap.mpr ⟨r, h hr, hn⟩

namespace RouteProject

variable {project : RouteProject} {s : Snapshot} {tree : FileTree}

theorem generate_strict (hstrict : project.settings.strict = true) (found : RouteFindings) :
    project.generate s found tree =
      ((writeStubs project.stubDirectory (s.tablesOf found.missing) tree).1,
        ((writeStubs project.stubDirectory (s.tablesOf found.missing) tree).2.mapError RouteFault.file).map
          fun paths => { found with generatedStubs := paths.map Path.text }) := by
  unfold generate stubDirectory
  rw [if_pos hstrict]

/-- What a strict check that succeeds did: it found routes missing, and wrote the stubs that were due. -/
theorem exists_written (hstrict : project.settings.strict = true) {f : RouteFindings}
    (h : (project.validate s tree).2.result = .ok f) :
    ∃ found paths, project.findings s tree = .ok found ∧ found.missing = f.missing ∧
      f.generatedStubs = paths.map Path.text ∧
      writeStubs project.stubDirectory (s.tablesOf f.missing) tree = ((project.validate s tree).1, .ok paths) := by
  cases hfound : project.findings s tree with
  | error fault =>
    unfold validate at h
    rw [hfound] at h
    cases h
  | ok found =>
    have hvalidate := validate_of_findings (f := found) (w := found.warnings) hfound
    rw [hvalidate] at h ⊢
    rw [generate_strict hstrict] at h ⊢
    cases hwritten : writeStubs project.stubDirectory (s.tablesOf found.missing) tree with
    | mk after written =>
      rw [hwritten] at h
      cases written with
      | error fault => cases h
      | ok paths =>
        cases h
        exact ⟨found, paths, rfl, rfl, rfl, hwritten⟩

/-- A strict check that succeeds leaves alone what there was, and each new file is the stub of a table, in the table's
place. Checked again, the tree stays as it is, no stub is due, and no other route is missing. -/
theorem validate_again (hstrict : project.settings.strict = true) {f : RouteFindings}
    (h : (project.validate s tree).2.result = .ok f) :
    (∀ l e, tree.entry? l = some e → entry? (project.validate s tree).1 l = some e) ∧
    (∀ l c n, tree.entry? l = none → entry? (project.validate s tree).1 l = some (.file c n) →
      ∃ t ∈ s.tables, l = tree.place (t.stubPath project.stubDirectory) ∧ c = .text t.routeStub) ∧
    ∃ g again, project.validate s (project.validate s tree).1 = ((project.validate s tree).1, again) ∧
      again.result = .ok g ∧ g.missing.Sublist f.missing ∧ g.generatedStubs = [] := by
  obtain ⟨found, paths, hfound, hmissing, -, hwritten⟩ := exists_written hstrict h
  generalize (project.validate s tree).1 = after at hwritten ⊢
  have hafter : (writeStubs project.stubDirectory (s.tablesOf f.missing) tree).1 = after := congrArg Prod.fst hwritten
  have hgrows : Grows tree after := hafter ▸ grows_writeStubs ..
  obtain ⟨found', hfound', hsub⟩ := findings_grow hgrows hfound
  have hsettled : ∀ t ∈ s.tablesOf found'.missing, after.Settled (t.stubPath project.stubDirectory) := by
    intro t ht
    have hall := settled_writeStubs (congrArg Prod.snd hwritten)
    rw [hafter] at hall
    exact hall t (Snapshot.tablesOf_subset (hmissing ▸ hsub.subset) ht)
  have hagain : project.validate s after =
      (after, .ok { found' with generatedStubs := [], warnings := found'.warnings } found'.warnings) := by
    rw [validate_of_findings (f := found') (w := found'.warnings) hfound', generate_strict hstrict,
      writeStubs_of_settled hsettled]
    rfl
  refine ⟨fun l e he => hgrows.entry? he, fun l c n hnone hfile => ?_, _, _, hagain, rfl, hmissing ▸ hsub, rfl⟩
  rw [← hafter] at hfile
  obtain ⟨t, ht, hplace, hc⟩ := new_writeStubs hnone hfile
  exact ⟨t, Snapshot.mem_of_tablesOf ht, hplace, hc⟩

def desk : RouteProject := ⟨{ patterns := ["routes/*.py"], strict := true }, ⟨"/", ["desk"]⟩⟩

/-- Readers and loans, of which only readers have a source, with a single route. -/
def deskTree : FileTree where
  entries := [(["desk"], .directory 0), (["desk", "routes"], .directory 0),
    (["desk", "routes", "readers.py"], .file (.text "app.get('/api/readers', every_reader)\n") 0)]
  home := []
  clock := 1

def deskSchema : Snapshot where
  version := "1"
  capturedAt := ⟨2024, 5, 1, 12, 0, 0, 0, some 0⟩
  tables := ["readers", "loans"].map fun name =>
    { name, columns := [⟨"id", "integer", false, false, true, none, none⟩], primaryKey := some ["id"], constraints := [] }
  views := none
  indexes := none

theorem validate_again_desk : desk.settings.strict = true ∧
    ∃ f, (desk.validate deskSchema deskTree).2.result = .ok f ∧
      (∀ l e, deskTree.entry? l = some e → entry? (desk.validate deskSchema deskTree).1 l = some e) ∧
      (∀ l c n, deskTree.entry? l = none → entry? (desk.validate deskSchema deskTree).1 l = some (.file c n) →
        ∃ t ∈ deskSchema.tables, l = deskTree.place (t.stubPath desk.stubDirectory) ∧ c = .text t.routeStub) ∧
      ∃ g again, desk.validate deskSchema (desk.validate deskSchema deskTree).1 =
          ((desk.validate deskSchema deskTree).1, again) ∧
        again.result = .ok g ∧ g.missing.Sublist f.missing ∧ g.generatedStubs = [] := by
  have hok : (desk.validate deskSchema deskTree).2.isOk = true := by decide +kernel
  obtain ⟨f, hf⟩ : ∃ f, (desk.validate deskSchema deskTree).2.result = .ok f := by
    unfold Outcome.isOk at hok
    cases hresult : (desk.validate deskSchema deskTree).2.result with
    | ok f => exact ⟨f, rfl⟩
    | error e => rw [hresult] at hok; cases hok
  exact ⟨rfl, f, hf, validate_again rfl hf⟩

end RouteProject

end SchemaConcord
