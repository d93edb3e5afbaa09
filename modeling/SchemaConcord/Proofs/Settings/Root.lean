import SchemaConcord.Proofs.Drift.Run
import SchemaConcord.Proofs.Files.Resume
import SchemaConcord.Settings.Load

/-!
# The root of a project

A configuration that names a root for its project has that root, seen from the directory of the configuration. One
that names none has the names of its directory twice, which is its directory when these names lead from there back to
it: always when they start from the root of all files, and never when they lead further in (`load_root`).
-/

namespace SchemaConcord

/-! ## Paths that lead to the same place -/

namespace FileTree

variable {t : FileTree} {l m : Location} {names : List String} {p q : Path}

theorem locate_join_of_relative {r : Path} (hr : r.isAbsolute = false) :
    t.locate (p.join r) = (t.locate p).bind fun l => t.follow l r.parts := by
  have hjoin : p.join r = { p with parts := p.parts ++ r.parts } := by
    rw [Path.join, hr, if_neg Bool.false_ne_true]
  rw [hjoin]
  exact follow_append_bind p.parts r.parts

theorem locate_join_congr (h : t.locate p = t.locate q) (r : Path) : t.locate (p.join r) = t.locate (q.join r) := by
  by_cases hr : r.isAbsolute = true
  · rw [Path.join, Path.join, if_pos hr, if_pos hr]
  · rw [Bool.not_eq_true] at hr
    rw [locate_join_of_relative hr, locate_join_of_relative hr, h]

/-- Two paths lead to the same place when all that is seen from them is the same. -/
theorem locate_join_iff : (∀ r, t.locate (p.join r) = t.locate (q.join r)) ↔ t.locate p = t.locate q := by
  refine ⟨fun h => ?_, locate_join_congr⟩
  have hnil := h ⟨"", []⟩
  rw [locate_join_of_relative rfl, locate_join_of_relative rfl] at hnil
  have hbind : ∀ x : Except Obstacle Location, (x.bind fun l => t.follow l []) = x := by
    intro x
    cases x <;> rfl
  rwa [hbind, hbind] at hnil

theorem locate_parent (h : t.locate p = .ok l) : ∃ k, t.locate p.parent = .ok k := by
  by_cases hp : p.parts = []
  · refine ⟨l, ?_⟩
    unfold locate Path.parent at *
    rw [hp] at h ⊢
    exact h
  · rw [locate, ← List.dropLast_append_getLast hp] at h
    obtain ⟨k, -, hk, -⟩ := follow_of_append h (List.cons_ne_nil _ _)
    exact ⟨k, hk⟩

theorem walk_of_free (h : ".." ∉ names) : walk l names = l ++ names := by
  induction names generalizing l with
  | nil => exact (List.append_nil l).symm
  | cons name rest ih =>
    rw [List.mem_cons, not_or] at h
    rw [walk, if_neg (Ne.symm h.1), ih h.2, List.append_assoc]
    rfl

/-- A relative path without steps back leads, from where it leads, further in. -/
theorem locate_join_self (h : t.locate p = .ok l) (hfree : ".." ∉ p.parts) :
    t.locate (p.join p) = t.locate p ↔ p.isAbsolute = true ∨ p.parts = [] := by
  by_cases hp : p.isAbsolute = true
  · rw [Path.join, if_pos hp]
    exact iff_of_true rfl (.inl hp)
  · rw [or_iff_right hp]
    constructor
    · intro hsame
      have hrelative := (Bool.not_eq_true _).mp hp
      rw [h, locate_join_of_relative hrelative, h] at hsame
      have htwice := follow_eq hsame
      rwa [walk_of_free hfree, List.self_eq_append_right] at htwice
    · intro hparts
      rw [Path.join, if_neg hp]
      rw [hparts, List.append_nil, ← hparts]

/-- Every entry lies in a directory, and home is a directory. -/
structure Nested (t : FileTree) : Prop where
  around : ∀ f ∈ t.entries, (t.entry? f.1.dropLast).any Entry.isDirectory = true
  home : (t.entry? t.home).any Entry.isDirectory = true

theorem Nested.dropLast (h : t.Nested) {e : Entry} (he : t.entry? l = some e) :
    (t.entry? l.dropLast).any Entry.isDirectory = true := by
  by_cases hl : l = []
  · rw [hl]
    rfl
  · rw [entry?_eq_lookup hl] at he
    exact h.around (l, e) (mem_of_lookup he)

/-- A path to a file ends in a name, so that the directory around the file is the one that its path says. -/
theorem Nested.locate_parent (h : t.Nested) {c : Content} {n : Nat} (hl : t.locate p = .ok l)
    (he : t.entry? l = some (.file c n)) : t.locate p.parent = .ok l.dropLast := by
  by_cases hp : p.parts = []
  · have hstart : l = if p.isAbsolute then [] else t.home := by
      have := locate_eq hl
      rw [place, hp] at this
      exact this
    have hdirectory : (t.entry? l).any Entry.isDirectory = true := by
      rw [hstart]
      split
      · rfl
      · exact h.home
    rw [he] at hdirectory
    cases hdirectory
  · rw [locate, ← List.dropLast_append_getLast hp] at hl
    obtain ⟨k, d, hk, hd⟩ := follow_of_append hl (List.cons_ne_nil _ _)
    rw [follow_snoc hk hd, Except.ok.injEq] at hl
    suffices hlast : l.dropLast = k by rw [hlast]; exact hk
    rw [walk, walk] at hl
    split at hl
    · have hback := h.dropLast hd
      rw [hl, he] at hback
      cases hback
    · rw [← hl, List.dropLast_concat]

theorem file_of_readExactly {s : String} (h : t.readExactly p = .ok s) :
    ∃ l n, t.locate p = .ok l ∧ t.entry? l = some (.file (.text s) n) := by
  unfold readExactly read at h
  cases hl : t.locate p with
  | error o => rw [hl] at h; cases h
  | ok l =>
    rw [hl] at h
    dsimp only at h
    split at h
    · cases h
    · next s' hread =>
      cases h
      split at hread
      · cases hread
      · cases hread
      · next c n he =>
        cases hread
        exact ⟨l, n, rfl, he⟩
    · cases h

theorem readExactly_eq {s : String} {n : Nat} (hl : t.locate p = .ok l) (he : t.entry? l = some (.file (.text s) n)) :
    t.readExactly p = .ok s := by
  unfold readExactly read
  simp only [hl, he]

end FileTree

namespace Configuration

open FileTree

variable {p : Option Path} {file q : Path} {t : FileTree} {c : Configuration} {said : Option Datum} {root : Path}

/-! ## What loading does -/

/-- The path of the configuration to load. -/
def source (p : Option Path) (t : FileTree) : Path := p.getD (Path.child ⟨"/", t.home⟩ defaultConfigurationName)

/-- The root that a configuration names: only a text names one, and not the empty text. -/
def named? : Option Datum → Option Path
  | some (.text s) => if s.isEmpty then none else some (.parse s)
  | _ => none

/-- The root that a project is meant to have: the one named for it, seen from the directory of the configuration, and
else this directory. -/
def meantRoot (file : Path) (said : Option Datum) : Path :=
  match named? said with
  | some r => file.parent.join r
  | none => file.parent

/-- The configuration names a root, or the names of its directory, followed from this directory, lead back to it. -/
def Rooted (t : FileTree) (file : Path) (said : Option Datum) : Prop :=
  (named? said).isSome = true ∨ t.locate (file.parent.join file.parent) = t.locate file.parent

theorem namedRoot_of_named {r : Path} (h : named? said = some r) : namedRoot file said = .ok r := by
  unfold named? at h
  split at h
  · next s =>
    split at h
    · cases h
    · next hs =>
      cases h
      rw [namedRoot, if_neg hs]
  · cases h

theorem namedRoot_of_unnamed (h : named? said = none) :
    namedRoot file said = if said.any Datum.holds then .error (.rootKind (said.getD .null)) else .ok file.parent := by
  cases said with
  | none => rfl
  | some v =>
    cases v with
    | text s =>
      have hs : s.isEmpty = true := by
        by_contra hs
        rw [named?, if_neg hs] at h
        cases h
      rw [namedRoot, if_pos hs, Option.any_some, Datum.holds, hs]
      rfl
    | _ => rfl

/-- Whether a configuration is refused for its root does not depend on where it lies. -/
theorem rootFrom_eq_ok : rootFrom file said = .ok root ↔
    (named? said = none → said.any Datum.holds = false) ∧ file.parent.join ((named? said).getD file.parent) = root := by
  unfold rootFrom
  cases hsaid : named? said with
  | some r =>
    rw [namedRoot_of_named hsaid]
    simp [Except.map]
  | none =>
    rw [namedRoot_of_unnamed hsaid]
    cases said.any Datum.holds <;> simp [Except.map]

theorem ofFields_eq_ok {fields : List (String × Datum)} : ofFields file fields = .ok c ↔
    ∃ root others, rootFrom file (fields.lookup "project_root") = .ok root ∧
      readModel "IntegrityConfig" read (.record (fields.filter (·.1 != "project_root"))) = .ok others ∧
      { others with projectRoot := root } = c := by
  unfold ofFields
  cases rootFrom file (fields.lookup "project_root") with
  | error f => simp [bind, Except.bind]
  | ok root =>
    cases hothers : readModel "IntegrityConfig" read (.record (fields.filter (·.1 != "project_root"))) with
    | error f => simp [hothers, bind, Except.bind, Except.mapError]
    | ok others => simp [hothers, bind, Except.bind, Except.mapError, pure, Except.pure]

/-- A configuration is what the fields of the text in its file make, when there is a file. -/
theorem load_eq (p : Option Path) (t : FileTree) : load p t = if t.isPresent (source p t) then
      (t.readExactly (source p t)).mapError ConfigurationFault.file >>= fun s =>
        (Toml.parse? s).elim (.error (.syntaxError (source p t))) (ofFields (source p t))
    else .error (.missing (source p t)) := by
  unfold load
  cases hpresent : t.isPresent (source p t) with
  | false =>
    rw [source] at hpresent
    simp only [hpresent]
    rfl
  | true =>
    rw [source] at hpresent
    simp only [hpresent]
    refine congrArg ((t.readExactly (source p t)).mapError ConfigurationFault.file >>= ·) (funext fun s => ?_)
    cases Toml.parse? s <;> rfl

/-- A configuration is loaded from its fields, which are those of the text that its file holds. -/
theorem load_eq_ok : load p t = .ok c ↔
    ∃ s fields, t.readExactly (source p t) = .ok s ∧ Toml.parse? s = some fields ∧
      ofFields (source p t) fields = .ok c := by
  rw [load_eq]
  cases hs : t.readExactly (source p t) with
  | error f =>
    simp only [Except.mapError, bind, Except.bind]
    split <;> simp
  | ok s =>
    obtain ⟨l, n, hl, he⟩ := file_of_readExactly hs
    have hpresent : t.isPresent (source p t) = true := by
      unfold isPresent at?
      rw [hl]
      exact Option.isSome_iff_exists.mpr ⟨_, he⟩
    rw [if_pos hpresent]
    simp only [Except.mapError, bind, Except.bind]
    cases hfields : Toml.parse? s with
    | none => simp [hfields]
    | some fields => simp [hfields]

/-! ## The root -/

/-- What the configuration in a file says about the root of its project. -/
def Says (t : FileTree) (file : Path) (said : Option Datum) : Prop :=
  ∃ s fields, t.readExactly file = .ok s ∧ Toml.parse? s = some fields ∧ fields.lookup "project_root" = said

/-- The root of a project that names one is what is meant, and else its directory twice. -/
theorem rooted_iff (hroot : rootFrom file said = .ok root) :
    (∀ r, t.locate (root.join r) = t.locate ((meantRoot file said).join r)) ↔ Rooted t file said := by
  rw [locate_join_iff, ← (rootFrom_eq_ok.mp hroot).2]
  unfold Rooted meantRoot
  cases named? said with
  | some r => exact iff_of_true rfl (.inl rfl)
  | none =>
    rw [or_iff_right (fun h => nomatch h)]
    rfl

/-- What is meant does not depend on the path to the directory. -/
theorem locate_meantRoot (h : t.locate q.parent = t.locate file.parent) (said : Option Datum) :
    t.locate (meantRoot q said) = t.locate (meantRoot file said) := by
  unfold meantRoot
  cases named? said with
  | some r => exact locate_join_congr h r
  | none => exact h

/-- The root of a project is the one that is meant just when the configuration names one or the names of its directory
lead from there back to it. Through another path to the same file the same configuration is loaded, with a root that is
the same place just when both are what is meant. -/
theorem load_root (h : load p t = .ok c) : ∃ said, Says t (source p t) said ∧
    ((∀ r, t.locate (c.resolve r) = t.locate ((meantRoot (source p t) said).join r)) ↔ Rooted t (source p t) said) ∧
    (".." ∉ (source p t).parent.parts → (Rooted t (source p t) said ↔ (named? said).isSome = true ∨
      (source p t).parent.isAbsolute = true ∨ (source p t).parent.parts = [])) ∧
    (t.Nested → ∀ q, t.locate q = t.locate (source p t) → ∃ d, load (some q) t = .ok d ∧
      { d with projectRoot := c.projectRoot } = c ∧ (Rooted t q said →
        ((∀ r, t.locate (d.resolve r) = t.locate (c.resolve r)) ↔ Rooted t (source p t) said))) := by
  obtain ⟨s, fields, hs, hfields, hc⟩ := load_eq_ok.mp h
  obtain ⟨root, others, hroot, hothers, rfl⟩ := ofFields_eq_ok.mp hc
  obtain ⟨l, n, hl, he⟩ := file_of_readExactly hs
  refine ⟨_, ⟨s, fields, hs, hfields, rfl⟩, rooted_iff hroot, ?_, ?_⟩
  · intro hfree
    obtain ⟨k, hk⟩ := FileTree.locate_parent hl
    rw [Rooted, locate_join_self hk hfree]
  · intro ht q hq
    have hlq := hq.trans hl
    have hrootq : rootFrom q (fields.lookup "project_root") = .ok _ :=
      rootFrom_eq_ok.mpr ⟨(rootFrom_eq_ok.mp hroot).1, rfl⟩
    refine ⟨_, load_eq_ok.mpr ⟨s, fields, readExactly_eq hlq he, hfields,
      ofFields_eq_ok.mpr ⟨_, others, hrootq, hothers, rfl⟩⟩, rfl, ?_⟩
    intro hrooted
    have hparent := (ht.locate_parent hlq he).trans (ht.locate_parent hl he).symm
    have hmeant := locate_meantRoot hparent (fields.lookup "project_root")
    have hd := (rooted_iff hrootq).mpr hrooted
    rw [← rooted_iff hroot]
    constructor
    · intro hsame r
      exact (hsame r).symm.trans ((hd r).trans (locate_join_congr hmeant r))
    · intro hc r
      exact (hd r).trans ((locate_join_congr hmeant r).trans (hc r).symm)

/-- A directory with a configuration that names a root, and one that does not. -/
def served : FileTree where
  entries := [(["srv"], .directory 0), (["srv", "ci"], .directory 0),
    (["srv", "ci", "app.toml"], .file (.text "project_root = 'shop'\n") 0),
    (["srv", "ci", "bare.toml"], .file (.text "") 0)]
  home := ["srv"]
  clock := 1

theorem nested_served : served.Nested := ⟨by decide, by decide⟩

theorem load_root_served :
    let c : Configuration := { projectRoot := ⟨"", ["ci", "shop"]⟩ }
    load (some (.parse "ci/app.toml")) served = .ok c ∧
      ∃ d, load (some (.parse "/srv/ci/app.toml")) served = .ok d ∧
        ∀ r, served.locate (d.resolve r) = served.locate (c.resolve r) := by
  intro c
  have hc : load (some (.parse "ci/app.toml")) served = .ok c := by decide +kernel
  obtain ⟨said, ⟨s, fields, hs, hfields, hsaid⟩, -, -, hother⟩ := load_root hc
  have hs' : served.readExactly (source (some (.parse "ci/app.toml")) served) = .ok "project_root = 'shop'\n" := by
    decide +kernel
  have hfields' : Toml.parse? "project_root = 'shop'\n" = some [("project_root", .text "shop")] := by decide +kernel
  cases hs.symm.trans hs'
  cases hfields.symm.trans hfields'
  subst hsaid
  obtain ⟨d, hd, -, hsame⟩ := hother nested_served (.parse "/srv/ci/app.toml") (by decide +kernel)
  exact ⟨hc, d, hd, (hsame (.inl (by decide +kernel))).mpr (.inl (by decide +kernel))⟩

/-- Seen from outside, the directory of a configuration that names no root is taken twice. -/
example : load (some (.parse "ci/bare.toml")) served = .ok { projectRoot := ⟨"", ["ci", "ci"]⟩ } := by decide +kernel

end Configuration

end SchemaConcord
