import Mathlib.Data.List.Forall2
import SchemaConcord.Proofs.Text.Edit
import SchemaConcord.Route.Validate

/-!
# What a matching route serves

A path serves the concrete paths in which a name stands for each of its parameters. An expected route is missing when
the path of no discovered route with its method matches its own, and matching asks the same of both paths: a parameter
of either stands for any segment of the other (`Snapshot.covered_iff`). A route that matches therefore serves all that
is expected only if it has parameters where the expected route has them.
-/

namespace SchemaConcord

open Text

namespace RoutePath

/-! ## Matching -/

/-- Two segments are equal, or one of them is a parameter. -/
def Meets (a b : List Char) : Prop := a = b ∨ isParameterSegment a = true ∨ isParameterSegment b = true

theorem segmentMatches_iff {a b : List Char} : segmentMatches a b = true ↔ Meets a b := by
  unfold segmentMatches Meets
  rw [Bool.or_eq_true, Bool.or_eq_true, beq_iff_eq, or_assoc]

theorem segmentsMatch_iff (as bs : List (List Char)) : segmentsMatch as bs = true ↔ List.Forall₂ Meets as bs := by
  induction as generalizing bs with
  | nil =>
    cases bs with
    | nil => simp [segmentsMatch]
    | cons b bs => simp [segmentsMatch]
  | cons a as ih =>
    cases bs with
    | nil => simp [segmentsMatch]
    | cons b bs => rw [segmentsMatch, Bool.and_eq_true, segmentMatches_iff, ih, List.forall₂_cons]

theorem slash_not_mem_segments {path : String} {s : List Char} (h : s ∈ segments path) : '/' ∉ s := by
  intro hmem
  have := not_mem_of_mem_splitAt h '/' hmem
  simp at this

/-! ## Serving -/

/-- What may stand in a concrete path for a segment: a name for a parameter, else the segment itself. -/
def Fills (s c : List Char) : Prop := if isParameterSegment s = true then c ≠ [] ∧ '/' ∉ c else c = s

/-- The path serves the concrete path of these segments. -/
def Serves (path : String) (concrete : List (List Char)) : Prop := List.Forall₂ Fills (segments path) concrete

/-- What stands for the second segment may stand for the first: they are equal, or the first is a parameter and the
second a parameter or not empty. -/
def Admits (a b : List Char) : Prop := a = b ∨ isParameterSegment a = true ∧ (isParameterSegment b = true ∨ b ≠ [])

instance (a b : List Char) : Decidable (Admits a b) := inferInstanceAs (Decidable (_ ∨ _ ∧ (_ ∨ _)))

theorem fills_parameter {s c : List Char} (hs : isParameterSegment s = true) (hc : c ≠ []) (hslash : '/' ∉ c) :
    Fills s c := by
  unfold Fills
  rw [if_pos hs]
  exact ⟨hc, hslash⟩

theorem eq_of_fills {s c : List Char} (hs : isParameterSegment s ≠ true) (h : Fills s c) : c = s := by
  unfold Fills at h
  rwa [if_neg hs] at h

theorem fills_self {s : List Char} (hs : isParameterSegment s ≠ true) : Fills s s := by
  unfold Fills
  rw [if_neg hs]

theorem exists_fills (s : List Char) : ∃ c, Fills s c := by
  by_cases hs : isParameterSegment s = true
  · exact ⟨['x'], fills_parameter hs (by simp) (by simp)⟩
  · exact ⟨s, fills_self hs⟩

theorem exists_serves (as : List (List Char)) : ∃ cs, List.Forall₂ Fills as cs := by
  induction as with
  | nil => exact ⟨[], .nil⟩
  | cons a as ih =>
    obtain ⟨c, hc⟩ := exists_fills a
    obtain ⟨cs, hcs⟩ := ih
    exact ⟨c :: cs, .cons hc hcs⟩

theorem admits_iff {a b : List Char} (hb : '/' ∉ b) : (∀ c, Fills b c → Fills a c) ↔ Admits a b := by
  by_cases hparam : isParameterSegment b = true
  · constructor
    · intro h
      by_cases ha : isParameterSegment a = true
      · exact .inr ⟨ha, .inl hparam⟩
      · -- Two names stand for the one segment, and only one of them is the other.
        have hx := eq_of_fills ha (h ['x'] (fills_parameter hparam (by simp) (by simp)))
        have hy := eq_of_fills ha (h ['y'] (fills_parameter hparam (by simp) (by simp)))
        exact absurd (hx.trans hy.symm) (by decide)
    · rintro (rfl | ⟨ha, -⟩) c hc
      · exact hc
      · unfold Fills at hc
        rw [if_pos hparam] at hc
        exact fills_parameter ha hc.1 hc.2
  · constructor
    · intro h
      have hself := h b (fills_self hparam)
      by_cases ha : isParameterSegment a = true
      · unfold Fills at hself
        rw [if_pos ha] at hself
        exact .inr ⟨ha, .inr hself.1⟩
      · exact .inl (eq_of_fills ha hself).symm
    · rintro (rfl | ⟨ha, hne⟩) c hc
      · exact hc
      · rw [eq_of_fills hparam hc]
        exact fills_parameter ha (hne.resolve_left hparam) hb

theorem forall₂_admits_iff (as bs : List (List Char)) (hbs : ∀ b ∈ bs, '/' ∉ b) :
    (∀ cs, List.Forall₂ Fills bs cs → List.Forall₂ Fills as cs) ↔ List.Forall₂ Admits as bs := by
  induction bs generalizing as with
  | nil =>
    constructor
    · intro h
      cases h [] .nil
      exact .nil
    · rintro ⟨⟩ cs h
      exact h
  | cons b bs ih =>
    have ih := fun as => ih as fun b' hb' => hbs b' (List.mem_cons_of_mem b hb')
    have hb := hbs b (List.mem_cons_self ..)
    constructor
    · intro h
      obtain ⟨c, hc⟩ := exists_fills b
      obtain ⟨cs, hcs⟩ := exists_serves bs
      cases as with
      | nil => cases h _ (.cons hc hcs)
      | cons a as =>
        refine .cons ((admits_iff hb).mp fun c' hc' => ?_) ((ih as).mp fun cs' hcs' => ?_)
        · exact (List.forall₂_cons.mp (h _ (.cons hc' hcs))).1
        · exact (List.forall₂_cons.mp (h _ (.cons hc hcs'))).2
    · rintro (_ | ⟨ha, has⟩) cs hcs
      cases hcs with
      | cons hc hcs => exact .cons ((admits_iff hb).mpr ha _ hc) ((ih _).mpr has _ hcs)

/-- A path serves all that another one serves exactly if it admits the other's segments one by one. -/
theorem serves_all_iff (path other : String) : (∀ concrete, Serves other concrete → Serves path concrete) ↔
    List.Forall₂ Admits (segments path) (segments other) :=
  forall₂_admits_iff _ _ fun _ => slash_not_mem_segments

end RoutePath

/-! ## Expected routes -/

theorem Route.covers_iff (r expected : Route) : r.covers expected = true ↔ r.method = expected.method ∧
    List.Forall₂ RoutePath.Meets (RoutePath.segments r.path) (RoutePath.segments expected.path) := by
  unfold covers RoutePath.pathsMatch
  rw [Bool.and_eq_true, decide_eq_true_eq, RoutePath.segmentsMatch_iff]

theorem Snapshot.not_mem_missingRoutes {s : Snapshot} {routes : List Route} {t : Table} (ht : t ∈ s.tables)
    {expected : Route} (he : expected ∈ t.crudRoutes) :
    expected ∉ s.missingRoutes routes ↔ ∃ r ∈ routes, r.covers expected = true := by
  have hmem : expected ∈ s.tables.flatMap Table.crudRoutes := List.mem_flatMap.mpr ⟨t, ht, he⟩
  unfold missingRoutes
  rw [List.mem_filter, ← List.any_eq_true]
  simp [hmem]

namespace Snapshot

/-- An expected route is not missing exactly if a discovered route with its method agrees with it segment by segment,
parameters of either standing for anything; what it serves is all that is expected exactly if its parameters face
every parameter that is expected, and no empty segment. -/
theorem covered_iff (s : Snapshot) (routes : List Route) {t : Table} (ht : t ∈ s.tables) {expected : Route}
    (he : expected ∈ t.crudRoutes) :
    (expected ∉ s.missingRoutes routes ↔ ∃ r ∈ routes, r.method = expected.method ∧
      List.Forall₂ RoutePath.Meets (RoutePath.segments r.path) (RoutePath.segments expected.path)) ∧
    ∀ r ∈ routes, (∀ concrete, RoutePath.Serves expected.path concrete → RoutePath.Serves r.path concrete) ↔
      List.Forall₂ RoutePath.Admits (RoutePath.segments r.path) (RoutePath.segments expected.path) := by
  refine ⟨?_, fun r _ => RoutePath.serves_all_iff r.path expected.path⟩
  rw [not_mem_missingRoutes ht he]
  simp only [Route.covers_iff]

def books : Table := ⟨"books", [], some ["id"], []⟩

def library : Snapshot := ⟨"1", ⟨2024, 5, 1, 12, 0, 0, 0, some 0⟩, [books], none, none⟩

def expectedBook : Route :=
  { method := .get, path := books.itemPath, parameters := [{ name := "id" }]
    operations := [{ kind := .select, table := "books" }], responses := [200, 404, 500] }

theorem expectedBook_mem : expectedBook ∈ books.crudRoutes := by
  decide +kernel

/-- A discovered route that reads at a path. -/
def reading (path : String) : Route := { method := .get, path }

theorem covered_iff_book : books ∈ library.tables ∧ expectedBook ∈ books.crudRoutes ∧
    expectedBook ∉ library.missingRoutes [reading "/api/books/{number}/"] ∧
    ∀ concrete, RoutePath.Serves expectedBook.path concrete → RoutePath.Serves "/api/books/{number}/" concrete := by
  have hmem : books ∈ library.tables := List.mem_singleton_self _
  obtain ⟨hmissing, hserves⟩ := covered_iff library [reading "/api/books/{number}/"] hmem expectedBook_mem
  refine ⟨hmem, expectedBook_mem, hmissing.mpr ⟨_, List.mem_singleton_self _, rfl, ?_⟩,
    (hserves _ (List.mem_singleton_self _)).mpr ?_⟩
  · exact (RoutePath.segmentsMatch_iff _ _).mp (by decide +kernel)
  · decide +kernel

/-- A route to one fixed place counts for the route to every book, and serves none of them by its number. -/
theorem not_missing_fixed : books ∈ library.tables ∧ expectedBook ∈ books.crudRoutes ∧
    expectedBook ∉ library.missingRoutes [reading "/api/books/search"] ∧
    ¬ ∃ r ∈ [reading "/api/books/search"], r.method = expectedBook.method ∧
      ∀ concrete, RoutePath.Serves expectedBook.path concrete → RoutePath.Serves r.path concrete := by
  refine ⟨List.mem_singleton_self _, expectedBook_mem, by decide +kernel, ?_⟩
  rintro ⟨r, hr, -, hserves⟩
  rw [List.mem_singleton.mp hr, RoutePath.serves_all_iff] at hserves
  exact absurd hserves (by decide +kernel)

end Snapshot

end SchemaConcord
