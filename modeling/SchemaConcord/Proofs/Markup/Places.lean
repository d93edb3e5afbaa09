import Mathlib.Data.List.Forall2
import SchemaConcord.Markup.Element

/-!
# Places in a tree

The place of an element is the way down to it: its number among the roots of the tree, then its number among the
children of each element on the way. A walk shows the elements in the order of their places (`places_eq_walk`,
`pairwise_places`), and the outermost elements of a kind are those with none of the kind on the way down to them
(`mem_outerPlaces`).
-/

namespace SchemaConcord.Markup.Element

/-! ## The element at a place -/

/-- The element that a way leads to from an element, which is itself where the way is empty. -/
def descend? (e : Element) : List Nat → Option Element
  | [] => some e
  | k :: way => e.children[k]?.bind fun c => c.descend? way

/-- The element at a place of a tree; the empty way leads to none. -/
def at? (tree : List Element) : List Nat → Option Element
  | [] => none
  | k :: way => tree[k]?.bind fun e => e.descend? way

@[simp]
theorem descend?_nil (e : Element) : e.descend? [] = some e := rfl

@[simp]
theorem at?_nil (tree : List Element) : at? tree [] = none := rfl

@[simp]
theorem at?_zero (e : Element) (rest : List Element) (way : List Nat) :
    at? (e :: rest) (0 :: way) = e.descend? way := rfl

@[simp]
theorem at?_succ (e : Element) (rest : List Element) (k : Nat) (way : List Nat) :
    at? (e :: rest) ((k + 1) :: way) = at? rest (k :: way) := rfl

theorem at?_empty (way : List Nat) : at? [] way = none := by
  cases way <;> rfl

theorem descend?_cons (e : Element) (k : Nat) (way : List Nat) :
    e.descend? (k :: way) = at? e.children (k :: way) := rfl

theorem descend?_of_ne {e : Element} {way : List Nat} (h : way ≠ []) : e.descend? way = at? e.children way := by
  cases way with
  | nil => exact absurd rfl h
  | cons k way => rfl

theorem descend?_append (e : Element) (way more : List Nat) :
    e.descend? (way ++ more) = (e.descend? way).bind (·.descend? more) := by
  induction way generalizing e with
  | nil => rfl
  | cons k way ih =>
    rw [List.cons_append, descend?, descend?, Option.bind_assoc]
    exact congrArg _ (funext fun c => ih c)

theorem at?_append {tree : List Element} {way : List Nat} {e : Element} (h : at? tree way = some e) (more : List Nat) :
    at? tree (way ++ more) = e.descend? more := by
  cases way with
  | nil => cases h
  | cons k way =>
    obtain ⟨root, hroot, he⟩ := Option.bind_eq_some_iff.mp h
    rw [List.cons_append, at?, hroot, Option.bind_some, descend?_append, he, Option.bind_some]

/-! ## All places -/

abbrev Placed := List Nat × Element

/-- The place in a tree of an element that has a place below one of its roots. -/
def Placed.below (k : Nat) (x : Placed) : Placed := (k :: x.1, x.2)

mutual

/-- An element and all elements inside it with the ways to them, in the order of a walk. -/
def places : Element → List Placed
  | .mk n a cs => ([], .mk n a cs) :: placesFrom 0 cs

/-- The places of roots that are numbered from `k` on. -/
def placesFrom (k : Nat) : List Element → List Placed
  | [] => []
  | e :: rest => e.places.map (Placed.below k) ++ placesFrom (k + 1) rest

end

theorem below_snd (k : Nat) (l : List Placed) : (l.map (Placed.below k)).map Prod.snd = l.map Prod.snd := by
  rw [List.map_map]
  rfl

mutual

theorem places_eq_walk : ∀ e : Element, e.places.map Prod.snd = e.walk
  | .mk n a cs => by
    rw [places, walk, List.map_cons, placesFrom_eq_walk 0 cs]

theorem placesFrom_eq_walk : ∀ (k : Nat) (es : List Element), (placesFrom k es).map Prod.snd = walkAll es
  | _, [] => rfl
  | k, e :: rest => by
    rw [placesFrom, walkAll, List.map_append, below_snd, places_eq_walk e, placesFrom_eq_walk (k + 1) rest]

end

mutual

theorem mem_places : ∀ {e : Element} {x : Placed}, x ∈ e.places ↔ e.descend? x.1 = some x.2
  | .mk n a cs, (way, x) => by
    rw [places, List.mem_cons, mem_placesFrom]
    cases way with
    | nil => simp [eq_comm]
    | cons k way => simp [descend?_cons, children]

theorem mem_placesFrom : ∀ {k : Nat} {es : List Element} {x : Placed},
    x ∈ placesFrom k es ↔ ∃ j way, x.1 = (k + j) :: way ∧ at? es (j :: way) = some x.2
  | _, [], x => by simp [placesFrom, at?_empty]
  | k, e :: rest, (way, x) => by
    rw [placesFrom, List.mem_append, mem_placesFrom, List.mem_map]
    constructor
    · rintro (⟨⟨way', x'⟩, hx, heq⟩ | ⟨j, way', hway, hx⟩)
      · cases heq
        exact ⟨0, way', rfl, mem_places.mp hx⟩
      · exact ⟨j + 1, way', by rw [hway, Nat.add_assoc, Nat.add_comm 1 j], hx⟩
    · rintro ⟨j, way', hway, hx⟩
      dsimp only at hway hx
      cases j with
      | zero => exact .inl ⟨(way', x), mem_places.mpr hx, by rw [hway]; rfl⟩
      | succ j => exact .inr ⟨j, way', by rw [hway, Nat.add_assoc, Nat.add_comm 1 j], hx⟩

end

theorem mem_placesFrom_zero {tree : List Element} {x : Placed} : x ∈ placesFrom 0 tree ↔ at? tree x.1 = some x.2 := by
  obtain ⟨way, e⟩ := x
  rw [mem_placesFrom]
  cases way with
  | nil => simp
  | cons k way => simp

/-- Places in order: an element before what is inside it, and before its later siblings with all inside them. -/
def InOrder (l : List Placed) : Prop := l.Pairwise fun x y => x.1 < y.1

theorem inOrder_below {l : List Placed} (h : InOrder l) (k : Nat) : InOrder (l.map (Placed.below k)) := by
  rw [InOrder, List.pairwise_map]
  exact h.imp fun hlt => List.cons_lt_cons_iff.mpr (.inr ⟨rfl, hlt⟩)

mutual

theorem pairwise_places : ∀ e : Element, InOrder e.places
  | .mk n a cs => by
    rw [places, InOrder, List.pairwise_cons]
    refine ⟨?_, pairwise_placesFrom 0 cs⟩
    intro x hx
    obtain ⟨j, way, hway, -⟩ := mem_placesFrom.mp hx
    rw [hway]
    exact List.nil_lt_cons _ _

theorem pairwise_placesFrom : ∀ (k : Nat) (es : List Element), InOrder (placesFrom k es)
  | _, [] => List.Pairwise.nil
  | k, e :: rest => by
    rw [placesFrom, InOrder, List.pairwise_append]
    refine ⟨inOrder_below (pairwise_places e) k, pairwise_placesFrom (k + 1) rest, ?_⟩
    intro x hx y hy
    obtain ⟨z, -, rfl⟩ := List.mem_map.mp hx
    obtain ⟨j, way, hway, -⟩ := mem_placesFrom.mp hy
    rw [hway]
    exact List.cons_lt_cons_iff.mpr (.inl (by omega))

end

/-! ## Outermost elements -/

/-- At this place stands an element of the kind, and on the way down to it none. -/
def OuterAt (look : List Nat → Option Element) (p : Element → Bool) (way : List Nat) (x : Element) : Prop :=
  look way = some x ∧ p x = true ∧ ∀ upper y, upper <+: way → upper ≠ way → look upper = some y → p y = false

mutual

/-- The outermost elements of a kind with the ways to them. -/
def outerPlaces (p : Element → Bool) : Element → List Placed
  | .mk n a cs => if p (.mk n a cs) then [([], .mk n a cs)] else outerPlacesFrom p 0 cs

def outerPlacesFrom (p : Element → Bool) (k : Nat) : List Element → List Placed
  | [] => []
  | e :: rest => (e.outerPlaces p).map (Placed.below k) ++ outerPlacesFrom p (k + 1) rest

end

section
variable (p : Element → Bool)

mutual

theorem outerPlaces_eq_outermost : ∀ e : Element, (e.outerPlaces p).map Prod.snd = e.outermost p
  | .mk n a cs => by
    rw [outerPlaces, outermost]
    split
    · rfl
    · exact outerPlacesFrom_eq_outermost 0 cs

theorem outerPlacesFrom_eq_outermost : ∀ (k : Nat) (es : List Element),
    (outerPlacesFrom p k es).map Prod.snd = outermostIn p es
  | _, [] => rfl
  | k, e :: rest => by
    rw [outerPlacesFrom, outermostIn, List.map_append, below_snd, outerPlaces_eq_outermost e,
      outerPlacesFrom_eq_outermost (k + 1) rest]

end

mutual

theorem outerPlaces_sublist : ∀ e : Element, (e.outerPlaces p).Sublist e.places
  | .mk n a cs => by
    rw [outerPlaces, places]
    split
    · exact (List.nil_sublist _).cons_cons _
    · exact (outerPlacesFrom_sublist 0 cs).cons _

theorem outerPlacesFrom_sublist : ∀ (k : Nat) (es : List Element), (outerPlacesFrom p k es).Sublist (placesFrom k es)
  | _, [] => List.Sublist.refl _
  | k, e :: rest => by
    rw [outerPlacesFrom, placesFrom]
    exact ((outerPlaces_sublist e).map _).append (outerPlacesFrom_sublist (k + 1) rest)

end

variable {p}

theorem outerAt_nil {e x : Element} : OuterAt e.descend? p [] x ↔ e = x ∧ p x = true := by
  constructor
  · rintro ⟨hx, hp, -⟩
    exact ⟨Option.some.inj hx, hp⟩
  · rintro ⟨rfl, hp⟩
    refine ⟨rfl, hp, ?_⟩
    intro upper y hupper hne
    exact absurd (List.prefix_nil.mp hupper) hne

/-- Below an element of another kind, the outermost of a kind are those of its content. -/
theorem outerAt_cons {e x : Element} {k : Nat} {way : List Nat} :
    OuterAt e.descend? p (k :: way) x ↔ p e = false ∧ OuterAt (at? e.children) p (k :: way) x := by
  constructor
  · rintro ⟨hx, hp, hupper⟩
    refine ⟨hupper [] e List.nil_prefix (by simp) rfl, hx, hp, ?_⟩
    intro upper y hpre hne hy
    cases upper with
    | nil => cases hy
    | cons j upper => exact hupper _ y hpre hne hy
  · rintro ⟨he, hx, hp, hupper⟩
    refine ⟨hx, hp, ?_⟩
    intro upper y hpre hne hy
    cases upper with
    | nil =>
      cases hy
      exact he
    | cons j upper => exact hupper _ y hpre hne hy

theorem outerAt_root {es : List Element} {e x : Element} {k : Nat} {way : List Nat} (he : es[k]? = some e) :
    OuterAt (at? es) p (k :: way) x ↔ OuterAt e.descend? p way x := by
  have hlook : ∀ way, at? es (k :: way) = e.descend? way := by
    intro way
    rw [at?, he, Option.bind_some]
  constructor
  · rintro ⟨hx, hp, hupper⟩
    refine ⟨(hlook way).symm.trans hx, hp, ?_⟩
    intro upper y hpre hne hy
    exact hupper (k :: upper) y (List.cons_prefix_cons.mpr ⟨rfl, hpre⟩) (by simpa using hne) ((hlook upper).trans hy)
  · rintro ⟨hx, hp, hupper⟩
    refine ⟨(hlook way).trans hx, hp, ?_⟩
    intro upper y hpre hne hy
    cases upper with
    | nil => cases hy
    | cons j upper =>
      obtain ⟨rfl, hmore⟩ := List.cons_prefix_cons.mp hpre
      exact hupper upper y hmore (by simpa using hne) ((hlook upper).symm.trans hy)

theorem outerAt_succ {e x : Element} {rest : List Element} {k : Nat} {way : List Nat} :
    OuterAt (at? (e :: rest)) p ((k + 1) :: way) x ↔ OuterAt (at? rest) p (k :: way) x := by
  cases hroot : rest[k]? with
  | none =>
    have hlook : at? rest (k :: way) = none := by rw [at?, hroot, Option.bind_none]
    refine iff_of_false ?_ ?_
    · rintro ⟨hx, -⟩
      cases hlook.symm.trans hx
    · rintro ⟨hx, -⟩
      cases hlook.symm.trans hx
  | some root =>
    have hnext : (e :: rest)[k + 1]? = some root := hroot
    rw [outerAt_root hroot, outerAt_root hnext]

mutual

theorem mem_outerPlaces : ∀ {e : Element} {x : Placed}, x ∈ e.outerPlaces p ↔ OuterAt e.descend? p x.1 x.2
  | .mk n a cs, (way, x) => by
    rw [outerPlaces]
    by_cases he : p (.mk n a cs) = true
    · rw [if_pos he, List.mem_singleton]
      cases way with
      | nil =>
        rw [outerAt_nil]
        constructor
        · intro heq
          cases heq
          exact ⟨rfl, he⟩
        · rintro ⟨rfl, -⟩
          rfl
      | cons k way => simp [outerAt_cons, he]
    · rw [if_neg he, mem_outerPlacesFrom]
      cases way with
      | nil =>
        refine iff_of_false (by simp) ?_
        rw [outerAt_nil]
        rintro ⟨rfl, hx⟩
        exact he hx
      | cons k way => simp [outerAt_cons, he, children]

theorem mem_outerPlacesFrom : ∀ {k : Nat} {es : List Element} {x : Placed},
    x ∈ outerPlacesFrom p k es ↔ ∃ j way, x.1 = (k + j) :: way ∧ OuterAt (at? es) p (j :: way) x.2
  | _, [], x => by simp [outerPlacesFrom, OuterAt, at?_empty]
  | k, e :: rest, (way, x) => by
    have hroot : (e :: rest)[0]? = some e := rfl
    rw [outerPlacesFrom, List.mem_append, mem_outerPlacesFrom, List.mem_map]
    constructor
    · rintro (⟨⟨way', x'⟩, hx, heq⟩ | ⟨j, way', hway, hx⟩)
      · cases heq
        exact ⟨0, way', rfl, (outerAt_root hroot).mpr (mem_outerPlaces.mp hx)⟩
      · exact ⟨j + 1, way', by rw [hway, Nat.add_assoc, Nat.add_comm 1 j], outerAt_succ.mpr hx⟩
    · rintro ⟨j, way', hway, hx⟩
      dsimp only at hway hx
      cases j with
      | zero => exact .inl ⟨(way', x), mem_outerPlaces.mpr ((outerAt_root hroot).mp hx), by rw [hway]; rfl⟩
      | succ j => exact .inr ⟨j, way', by rw [hway, Nat.add_assoc, Nat.add_comm 1 j], outerAt_succ.mp hx⟩

end

theorem mem_outerPlacesFrom_zero {tree : List Element} {x : Placed} :
    x ∈ outerPlacesFrom p 0 tree ↔ OuterAt (at? tree) p x.1 x.2 := by
  obtain ⟨way, e⟩ := x
  rw [mem_outerPlacesFrom]
  cases way with
  | nil => simp [OuterAt]
  | cons k way => simp

/-- Above an element of a kind, or in its place, stands an outermost one. -/
theorem exists_outerAt {look : List Nat → Option Element} {way : List Nat} {e : Element} (he : look way = some e)
    (hp : p e = true) : ∃ top x, top <+: way ∧ OuterAt look p top x := by
  by_cases houter : OuterAt look p way e
  · exact ⟨way, e, List.prefix_rfl, houter⟩
  · obtain ⟨upper, y, hpre, hne, hy, hkind⟩ : ∃ upper y, upper <+: way ∧ upper ≠ way ∧ look upper = some y ∧
        p y = true := by
      by_contra hnone
      refine houter ⟨he, hp, ?_⟩
      intro upper y hpre hne hy
      rw [Bool.eq_false_iff]
      intro hkind
      exact hnone ⟨upper, y, hpre, hne, hy, hkind⟩
    have hshorter : upper.length < way.length :=
      Nat.lt_of_le_of_ne hpre.length_le fun hlength => hne (hpre.eq_of_length hlength)
    obtain ⟨top, x, htop, hx⟩ := exists_outerAt hy hkind
    exact ⟨top, x, htop.trans hpre, hx⟩
termination_by way.length

/-- Two outermost elements are never one above the other. -/
theorem OuterAt.eq_of_prefix {look : List Nat → Option Element} {way way' : List Nat} {x x' : Element}
    (h : OuterAt look p way x) (h' : OuterAt look p way' x') (hpre : way <+: way') : way = way' := by
  by_contra hne
  have hkind := h'.2.2 way x hpre hne h.1
  rw [h.2.1] at hkind
  cases hkind

end

end SchemaConcord.Markup.Element
