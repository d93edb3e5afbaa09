import SchemaConcord.Proofs.Files.Change
import SchemaConcord.Proofs.Text.Edit
import SchemaConcord.Route.Project

/-!
# Where stubs go

Checking the routes of a project makes directories and, where there is nothing yet, stubs
(`RouteProject.validate_alters`). The name of a stub ends in `.py` whatever the table is called.
-/

namespace SchemaConcord

open Text FileTree

/-- The last character of the last name of a location. -/
def Location.lastChar? (l : Location) : Option Char := l.getLast?.bind fun name => name.toList.getLast?

namespace FileTree

/-- A path that ends in a name other than two dots leads to a location that ends in it. -/
theorem place_of_parts {p : Path} {parts : List String} {name : String} (hp : p.parts = parts ++ [name])
    (hname : name ≠ "..") (t : FileTree) : ∃ l, t.place p = l ++ [name] := by
  unfold place
  rw [hp, walk_append, walk, if_neg hname]
  exact ⟨_, rfl⟩

theorem lastChar?_place {p : Path} {parts : List String} {name : String} {c : Char} (hp : p.parts = parts ++ [name])
    (hc : name.toList.getLast? = some c) (hdot : c ≠ '.') (t : FileTree) : (t.place p).lastChar? = some c := by
  have hname : name ≠ ".." := by
    rintro rfl
    cases hc
    exact hdot rfl
  obtain ⟨l, hl⟩ := place_of_parts hp hname t
  rw [hl, Location.lastChar?, List.getLast?_append]
  exact hc

end FileTree

/-! ## Stubs -/

theorem Path.parts_parse (s : String) {tail : String} {c : Char} (hslash : ∀ d ∈ tail.toList, (d == '/') = false)
    (hc : tail.toList.getLast? = some c) (hdot : c ≠ '.') :
    ∃ parts name, (Path.parse (s ++ tail)).parts = parts ++ [name] ∧ name.toList.getLast? = some c := by
  obtain ⟨pieces, last, hsplit⟩ := splitAt_append hslash s.toList
  have hlast : (String.ofList (last ++ tail.toList)).toList.getLast? = some c := by
    rw [String.toList_ofList, List.getLast?_append, hc]
    rfl
  have hkeep :
      (!(String.ofList (last ++ tail.toList)).isEmpty && String.ofList (last ++ tail.toList) != ".") = true := by
    rw [Bool.and_eq_true, Bool.not_eq_true', bne_iff_ne, ← Bool.not_eq_true, String.isEmpty_iff]
    constructor
    · intro h
      rw [h] at hlast
      cases hlast
    · intro h
      rw [h] at hlast
      cases hlast
      exact hdot rfl
  refine ⟨(pieces.map String.ofList).filter fun p => !p.isEmpty && p != ".", _, ?_, hlast⟩
  show (splitChar '/' (s ++ tail)).filter _ = _
  rw [splitChar, String.toList_append, hsplit, List.map_append, List.filter_append]
  congr 1
  exact List.filter_cons_of_pos hkeep

theorem Path.parts_join (directory q : Path) {parts : List String} {name : String} (hq : q.parts = parts ++ [name]) :
    ∃ parts, (directory.join q).parts = parts ++ [name] := by
  unfold Path.join
  split
  · exact ⟨parts, hq⟩
  · refine ⟨directory.parts ++ parts, ?_⟩
    rw [List.append_assoc, ← hq]

theorem Path.parts_join_source (directory : Path) (s : String) :
    ∃ parts name, (directory.join (.parse (s ++ ".py"))).parts = parts ++ [name] ∧
      name.toList.getLast? = some 'y' := by
  have hslash : ∀ d ∈ ".py".toList, (d == '/') = false := by simp
  obtain ⟨parts, name, hparts, hname⟩ := Path.parts_parse s hslash rfl (by decide)
  obtain ⟨parts', hparts'⟩ := Path.parts_join directory _ hparts
  exact ⟨parts', name, hparts', hname⟩

theorem Table.parts_stubPath (t : Table) (directory : Path) :
    ∃ parts name, (t.stubPath directory).parts = parts ++ [name] ∧ name.toList.getLast? = some 'y' := by
  delta Table.stubPath
  exact Path.parts_join_source directory t.resourceName

namespace RouteProject

def stubDirectory (project : RouteProject) : Path := project.root.join (.parse project.settings.outputDirectory)

def IsStub (project : RouteProject) (tree : FileTree) (l : Location) : Prop :=
  ∃ t : Table, l = tree.place (t.stubPath project.stubDirectory)

theorem lastChar?_of_isStub {project : RouteProject} {tree : FileTree} {l : Location} (h : project.IsStub tree l) :
    l.lastChar? = some 'y' := by
  obtain ⟨t, ht⟩ := h
  obtain ⟨parts, name, hparts, hname⟩ := t.parts_stubPath project.stubDirectory
  rw [ht]
  exact lastChar?_place hparts hname (by decide) tree

end RouteProject

def FileTree.StubPlace (tree : FileTree) (directory : Path) (l : Location) : Prop :=
  ∃ t : Table, l = tree.place (t.stubPath directory)

theorem FileTree.writeStub_alters (tree : FileTree) (directory : Path) (t : Table) :
    Alters (tree.StubPlace directory) (fun _ => False) tree (tree.writeStub directory t).1 := by
  have hplace : tree.StubPlace directory (tree.place (t.stubPath directory)) := ⟨t, rfl⟩
  unfold writeStub
  generalize t.stubPath directory = p at hplace ⊢
  generalize t.routeStub = text
  dsimp only
  cases hmade : tree.makeDirectories p.parent with
  | error f => exact .refl _ _ _
  | ok made =>
    have ha : Alters (tree.StubPlace directory) (fun _ => False) tree made :=
      (makeDirectories_ok hmade).1.mono (fun _ => False.elim) fun _ => id
    dsimp only
    cases hwritten : made.create p (.text text) with
    | error f => exact ha
    | ok written =>
      have hb := (create_ok hwritten).2.2
      rw [ha.place] at hb
      refine ha.trans (hb.mono ?_ fun _ => id)
      rintro l rfl
      exact hplace

theorem FileTree.writeStubs_cons (directory : Path) (t : Table) (rest : List Table) (tree : FileTree) :
    writeStubs directory (t :: rest) tree = match tree.writeStub directory t with
      | (tree, .error f) => (tree, .error f)
      | (tree, .ok written) =>
        let (tree, more) := writeStubs directory rest tree
        (tree, more.map (written.toList ++ ·)) := by
  -- What a stub holds must stay closed here: unfolding it leads into the tables of letter cases.
  delta writeStubs writeStubs._f
  generalize writeStub = write
  rfl

theorem FileTree.writeStubs_alters (directory : Path) (tables : List Table) (tree : FileTree) :
    Alters (tree.StubPlace directory) (fun _ => False) tree (writeStubs directory tables tree).1 := by
  induction tables generalizing tree with
  | nil => exact .refl _ _ _
  | cons t tables ih =>
    have ha := writeStub_alters tree directory t
    rw [writeStubs_cons]
    cases hu : tree.writeStub directory t with
    | mk u written =>
      rw [hu] at ha
      cases written with
      | error f => exact ha
      | ok written =>
        refine ha.trans ((ih u).mono (fun l hl => ?_) fun _ => id)
        obtain ⟨s, hs⟩ := hl
        exact ⟨s, hs.trans (ha.place _)⟩

theorem RouteProject.validate_alters (project : RouteProject) (live : Snapshot) (tree : FileTree) :
    Alters (project.IsStub tree) (fun _ => False) tree (project.validate live tree).1 := by
  unfold validate
  dsimp only
  split
  · exact .refl _ _ _
  · unfold generate
    split
    · exact writeStubs_alters _ _ tree
    · exact .refl _ _ _

end SchemaConcord
