import SchemaConcord.Form.Extract
import SchemaConcord.Proofs.Lists
import SchemaConcord.Proofs.Markup.Places

/-!
# The forms of a tree

Markup with a form element gives one form for each outermost form element, in the order of their places, and every
element that stands below a form element stands below exactly one of these. A form has one field for each name that the
controls below its element have, read from the first of them (`Form.extract_outermost`).
-/

namespace SchemaConcord

open Markup

/-! ## Controls -/

namespace Markup.Element

/-- The element stands for a field of this name: a button has no kind, and what has no name is no field. -/
def StandsFor (e : Element) (name : String) : Prop := e.fieldName? = some name ∧ ∃ kind, e.fieldKind? = some kind

theorem StandsFor.eq {e : Element} {name name' : String} (h : e.StandsFor name) (h' : e.StandsFor name') :
    name = name' := Option.some.inj (h.1.symm.trans h'.1)

/-- The element stands at a place below another place. -/
def Below (tree : List Element) (upper place : List Nat) (x : Element) : Prop :=
  ∃ way, way ≠ [] ∧ place = upper ++ way ∧ at? tree place = some x

theorem below_iff {tree : List Element} {upper : List Nat} {e : Element} (he : at? tree upper = some e)
    {place : List Nat} {x : Element} :
    Below tree upper place x ↔ ∃ way, place = upper ++ way ∧ (way, x) ∈ placesFrom 0 e.children := by
  have hinside : ∀ way, way ≠ [] → (at? tree (upper ++ way) = some x ↔ (way, x) ∈ placesFrom 0 e.children) := by
    intro way hway
    rw [at?_append he, descend?_of_ne hway, mem_placesFrom_zero]
  constructor
  · rintro ⟨way, hway, rfl, hx⟩
    exact ⟨way, rfl, (hinside way hway).mp hx⟩
  · rintro ⟨way, rfl, hx⟩
    have hway : way ≠ [] := by
      rintro rfl
      cases mem_placesFrom_zero.mp hx
    exact ⟨way, hway, rfl, (hinside way hway).mpr hx⟩

theorem append_lt_append_iff (upper way way' : List Nat) : upper ++ way < upper ++ way' ↔ way < way' := by
  induction upper with
  | nil => exact Iff.rfl
  | cons k upper ih => simp [ih]

end Markup.Element

namespace Form

open Markup.Element

/-! ## First controls -/

/-- Of a row of elements, those that stand for a field whose name is not taken and which no earlier one stands for. -/
structure Firsts (taken : List String) (row firsts : List Placed) : Prop where
  sublist : firsts.Sublist row
  first : ∀ x ∈ firsts, ∀ name, x.2.StandsFor name → name ∉ taken ∧ ∀ y ∈ row, y.2.StandsFor name → ¬ y.1 < x.1
  complete : ∀ x ∈ row, ∀ name, x.2.StandsFor name → name ∉ taken → ∃ y ∈ firsts, y.2.StandsFor name

section
variable {x : Placed} {row firsts : List Placed} {taken : List String} {name : String}

theorem Firsts.skip (h : Firsts taken row firsts) (hx : ∀ name, x.2.StandsFor name → name ∈ taken) :
    Firsts taken (x :: row) firsts where
  sublist := h.sublist.cons x
  first := by
    intro y hy name hname
    refine ⟨(h.first y hy name hname).1, ?_⟩
    intro z hz hz'
    rcases List.mem_cons.mp hz with rfl | hz
    · exact absurd (hx name hz') (h.first y hy name hname).1
    · exact (h.first y hy name hname).2 z hz hz'
  complete := by
    intro y hy name hname hfree
    rcases List.mem_cons.mp hy with rfl | hy
    · exact absurd (hx name hname) hfree
    · exact h.complete y hy name hname hfree

theorem Firsts.take (h : Firsts (name :: taken) row firsts) (hrow : ∀ y ∈ row, x.1 < y.1) (hx : x.2.StandsFor name)
    (hfree : name ∉ taken) : Firsts taken (x :: row) (x :: firsts) where
  sublist := h.sublist.cons_cons x
  first := by
    intro y hy other hother
    rcases List.mem_cons.mp hy with rfl | hy
    · obtain rfl := hx.eq hother
      refine ⟨hfree, ?_⟩
      intro z hz _
      rcases List.mem_cons.mp hz with rfl | hz
      · exact List.lt_irrefl _
      · exact fun hlt => List.lt_irrefl _ (List.lt_trans hlt (hrow z hz))
    · obtain ⟨hnot, hfirst⟩ := h.first y hy other hother
      rw [List.mem_cons, not_or] at hnot
      refine ⟨hnot.2, ?_⟩
      intro z hz hz'
      rcases List.mem_cons.mp hz with rfl | hz
      · exact absurd (hz'.eq hx) hnot.1
      · exact hfirst z hz hz'
  complete := by
    intro y hy other hother hnot
    by_cases hsame : other = name
    · exact ⟨x, List.mem_cons_self .., hsame ▸ hx⟩
    · rcases List.mem_cons.mp hy with rfl | hy
      · exact absurd (hother.eq hx) hsame
      · obtain ⟨z, hz, hz'⟩ := h.complete y hy other hother (by simp [hsame, hnot])
        exact ⟨z, List.mem_cons_of_mem x hz, hz'⟩

end

theorem fieldControls_skip {e : Element} {taken : List String} (h : ∀ name, e.StandsFor name → name ∈ taken)
    (rest : List Element) : fieldControls taken (e :: rest) = fieldControls taken rest := by
  rw [fieldControls]
  split
  · next name kind hname hkind => rw [if_pos (by simpa using h name ⟨hname, kind, hkind⟩)]
  · rfl

theorem fieldControls_take {e : Element} {taken : List String} {name : String} {kind : FieldKind}
    (hname : e.fieldName? = some name) (hkind : e.fieldKind? = some kind) (hfree : name ∉ taken)
    (rest : List Element) : fieldControls taken (e :: rest) = (e, name, kind) :: fieldControls (name :: taken) rest := by
  rw [fieldControls, hname, hkind]
  exact if_neg (by simpa using hfree)

theorem exists_firsts {row : List Placed} (hrow : InOrder row) (taken : List String) :
    ∃ firsts, Firsts taken row firsts ∧
      (fieldControls taken (row.map Prod.snd)).map Prod.fst = firsts.map Prod.snd := by
  induction row generalizing taken with
  | nil => exact ⟨[], ⟨List.Sublist.refl _, by simp, by simp⟩, rfl⟩
  | cons x row ih =>
    obtain ⟨hhead, htail⟩ := List.pairwise_cons.mp hrow
    rw [List.map_cons]
    by_cases hx : ∀ name, x.2.StandsFor name → name ∈ taken
    · obtain ⟨firsts, hfirsts, hcontrols⟩ := ih htail taken
      exact ⟨firsts, hfirsts.skip hx, by rw [fieldControls_skip hx, hcontrols]⟩
    · rw [not_forall] at hx
      obtain ⟨name, hx⟩ := hx
      rw [Classical.not_imp] at hx
      obtain ⟨⟨hname, kind, hkind⟩, hfree⟩ := hx
      obtain ⟨firsts, hfirsts, hcontrols⟩ := ih htail (name :: taken)
      refine ⟨x :: firsts, hfirsts.take hhead ⟨hname, kind, hkind⟩ hfree, ?_⟩
      rw [fieldControls_take hname hkind hfree, List.map_cons, hcontrols, List.map_cons]

theorem mem_fieldControls {taken : List String} {row : List Element} :
    ∀ c ∈ fieldControls taken row, c.1.fieldName? = some c.2.1 ∧ c.1.fieldKind? = some c.2.2 := by
  fun_induction fieldControls taken row with
  | case1 => simp
  | case2 taken e rest name kind hkind hname htaken ih => exact ih
  | case3 taken e rest name kind hkind hname hfree ih =>
    intro c hc
    rcases List.mem_cons.mp hc with rfl | hc
    · exact ⟨hname, hkind⟩
    · exact ih c hc
  | case4 taken e rest hnone ih => exact ih

/-! ## Fields -/

/-- The field says what the control says. -/
structure Describes (e : Element) (f : FormField) : Prop where
  name : e.fieldName? = some f.name
  kind : e.fieldKind? = some f.kind
  required : f.required = e.isRequired
  rules : e.fieldRules = .ok f.rules

theorem Describes.standsFor {e : Element} {f : FormField} (h : Describes e f) : e.StandsFor f.name :=
  ⟨h.name, f.kind, h.kind⟩

theorem fieldsOf_describes {elements : List Element} {fields : List FormField} (h : fieldsOf elements = .ok fields) :
    List.Forall₂ Describes ((fieldControls [] (elements.filter isControl)).map Prod.fst) fields := by
  rw [List.forall₂_map_left_iff]
  refine (forall₂_of_mapM h).imp ?_
  rintro ⟨e, name, kind⟩ f ⟨hmem, hf⟩
  obtain ⟨hname, hkind⟩ := mem_fieldControls _ hmem
  obtain ⟨rules, hrules, hf⟩ := bind_eq_ok hf
  cases hf
  exact ⟨hname, hkind, rfl, hrules⟩

/-- The control at a place below a form element that is the first one there to stand for a field of its name. -/
structure FirstBelow (tree : List Element) (root place : List Nat) (x : Element) (name : String) : Prop where
  below : Below tree root place x
  control : x.isControl = true
  standsFor : x.StandsFor name
  first : ∀ place' y, Below tree root place' y → y.isControl = true → y.StandsFor name → ¬ place' < place

/-- A form is that of the element at a place. Its fields are one for each name that a control below the element has, in
the order of the first controls of these names, and say what these say. -/
structure Outlines (tree : List Element) (root : List Nat) (form : Form) : Prop where
  element : ∃ e, at? tree root = some e ∧ (∀ name, writtenName? e = some name → form.name = name) ∧
    form.submitAction = actionOf e
  fields : ∃ places : List (List Nat), places.Pairwise (· < ·) ∧
    List.Forall₂ (fun place f => ∃ x, FirstBelow tree root place x f.name ∧ Describes x f) places form.fields
  distinct : (form.fields.map FormField.name).Nodup
  complete : ∀ place x name, Below tree root place x → x.isControl = true → x.StandsFor name →
    ∃ f ∈ form.fields, f.name = name

theorem firstBelow_of_firsts {tree : List Element} {root : List Nat} {e : Element} (he : at? tree root = some e)
    {firsts : List Placed} (hfirsts : Firsts [] ((placesFrom 0 e.children).filter (·.2.isControl)) firsts)
    {x : Placed} (hx : x ∈ firsts) {name : String} (hname : x.2.StandsFor name) :
    FirstBelow tree root (root ++ x.1) x.2 name := by
  obtain ⟨hinside, hcontrol⟩ := List.mem_filter.mp (hfirsts.sublist.subset hx)
  refine ⟨(below_iff he).mpr ⟨x.1, rfl, hinside⟩, hcontrol, hname, ?_⟩
  intro place y hy hycontrol hyname
  obtain ⟨way, rfl, hway⟩ := (below_iff he).mp hy
  rw [append_lt_append_iff]
  exact (hfirsts.first x hx name hname).2 (way, y) (List.mem_filter.mpr ⟨hway, hycontrol⟩) hyname

theorem FirstBelow.unique {tree : List Element} {root place place' : List Nat} {x y : Element} {name : String}
    (h : FirstBelow tree root place x name) (h' : FirstBelow tree root place' y name) : ¬ place < place' :=
  h'.first place x h.below h.control h.standsFor

theorem outlines_of_ofElement {tree : List Element} {root : List Nat} {e : Element} (he : at? tree root = some e)
    {source default : String} {form : Form} (hform : ofElement source default e = .ok form) :
    Outlines tree root form := by
  obtain ⟨fields, h, hform⟩ := bind_eq_ok hform
  cases hform
  have hrow : InOrder ((placesFrom 0 e.children).filter (·.2.isControl)) :=
    (pairwise_placesFrom 0 e.children).filter _
  obtain ⟨firsts, hfirsts, hcontrols⟩ := exists_firsts hrow []
  have hdescribes := fieldsOf_describes h
  rw [← placesFrom_eq_walk 0 e.children, List.filter_map] at hdescribes
  -- The fields are read off the first controls of their names, in the order of these.
  have hfields : List.Forall₂ (fun x f => Describes x.2 f) firsts fields := by
    rw [← List.forall₂_map_left_iff, ← hcontrols]
    exact hdescribes
  have hread : List.Forall₂ (fun place f => ∃ x, FirstBelow tree root place x f.name ∧ Describes x f)
      (firsts.map (root ++ ·.1)) fields := by
    rw [List.forall₂_map_left_iff]
    have hmem : ∀ x f, x ∈ firsts ∧ Describes x.2 f →
        ∃ y, FirstBelow tree root (root ++ x.1) y f.name ∧ Describes y f := by
      rintro x f ⟨hx, hf⟩
      exact ⟨x.2, firstBelow_of_firsts he hfirsts hx hf.standsFor, hf⟩
    exact ((List.forall₂_and_left firsts _).mpr ⟨fun x hx => hx, hfields⟩).imp hmem
  have hplaces : (firsts.map (root ++ ·.1)).Pairwise (· < ·) := by
    rw [List.pairwise_map]
    exact (hrow.sublist hfirsts.sublist).imp fun hlt => (append_lt_append_iff root _ _).mpr hlt
  refine ⟨⟨e, he, ?_, rfl⟩, ⟨_, hplaces, hread⟩, ?_, ?_⟩
  · intro name hname
    rw [hname, Option.getD_some]
  · exact List.pairwise_map.mpr (pairwise_of_forall₂ hread hplaces (by
      rintro place place' f f' ⟨x, hx, -⟩ ⟨y, hy, -⟩ hlt hsame
      exact hx.unique (hsame ▸ hy) hlt))
  · intro place x name hx hcontrol hname
    obtain ⟨way, rfl, hway⟩ := (below_iff he).mp hx
    obtain ⟨y, hy, hyname⟩ :=
      hfirsts.complete (way, x) (List.mem_filter.mpr ⟨hway, hcontrol⟩) name hname (List.not_mem_nil)
    obtain ⟨f, hf, hdescribed⟩ := exists_of_forall₂ hfields y hy
    exact ⟨f, hf, hdescribed.standsFor.eq hyname⟩

/-! ## Forms -/

theorem ofTree_outlines {source default : String} {tree : List Element} {forms : List Form}
    (hform : ∃ place e, at? tree place = some e ∧ isForm e = true) (h : ofTree source default tree = .ok forms) :
    List.Forall₂ (Outlines tree) ((outerPlacesFrom isForm 0 tree).map Prod.fst) forms := by
  have hroots : ∀ x ∈ outerPlacesFrom isForm 0 tree, at? tree x.1 = some x.2 := by
    intro x hx
    exact (mem_outerPlacesFrom_zero.mp hx).1
  have hsome : (outermostIn isForm tree).isEmpty = false := by
    obtain ⟨place, e, he, hkind⟩ := hform
    obtain ⟨top, x, -, htop⟩ := exists_outerAt he hkind
    have hmem : (top, x) ∈ outerPlacesFrom isForm 0 tree := mem_outerPlacesFrom_zero.mpr htop
    rw [← outerPlacesFrom_eq_outermost isForm 0 tree, Bool.eq_false_iff, Ne, List.isEmpty_iff, List.map_eq_nil_iff]
    exact List.ne_nil_of_mem hmem
  unfold ofTree at h
  dsimp only at h
  rw [hsome, if_neg Bool.false_ne_true] at h
  have hread : List.Forall₂ (fun e form => ∃ default', ofElement source default' e = .ok form)
      (outermostIn isForm tree) forms := by
    rw [← List.zipIdx_map_fst 1 (outermostIn isForm tree), List.forall₂_map_left_iff]
    refine (forall₂_of_mapM h).imp ?_
    rintro ⟨e, position⟩ form ⟨-, hform⟩
    exact ⟨_, hform⟩
  rw [← outerPlacesFrom_eq_outermost isForm 0 tree, List.forall₂_map_left_iff] at hread
  rw [List.forall₂_map_left_iff]
  refine ((List.forall₂_and_left _ _).mpr ⟨hroots, hread⟩).imp ?_
  rintro x form ⟨hx, default', hform⟩
  exact outlines_of_ofElement hx hform

/-- What stands below a form element stands below exactly one outermost form element. -/
theorem existsUnique_outermost {tree : List Element} {upper place : List Nat} {f x : Element}
    (hf : at? tree upper = some f) (hkind : isForm f = true) (hx : Below tree upper place x) :
    ∃! root, (∃ e, OuterAt (at? tree) isForm root e) ∧ Below tree root place x := by
  obtain ⟨way, hway, rfl, hplace⟩ := hx
  obtain ⟨root, e, ⟨more, rfl⟩, he⟩ := exists_outerAt hf hkind
  refine ⟨root, ⟨⟨e, he⟩, more ++ way, by simp [hway], List.append_assoc .., hplace⟩, ?_⟩
  rintro other ⟨⟨e', he'⟩, way', -, hsame, -⟩
  have hroot : root <+: root ++ more ++ way := ⟨more ++ way, (List.append_assoc ..).symm⟩
  have hother : other <+: root ++ more ++ way := ⟨way', hsame.symm⟩
  rcases List.prefix_or_prefix_of_prefix hother hroot with hpre | hpre
  · exact he'.eq_of_prefix he hpre
  · exact (he.eq_of_prefix he' hpre).symm

/-- The forms of markup with a form element: one for each outermost form element, in the order of their places, with
the fields of the controls below it. Nothing that stands below a form element is left out, and nothing counts twice. -/
theorem extract_outermost {markup source default : String} {tree : List Element} {forms : List Form}
    (hread : Element.read markup = .ok tree) (hform : ∃ place e, at? tree place = some e ∧ isForm e = true)
    (h : extract markup source default = .ok forms) :
    ∃ roots : List (List Nat), roots.Pairwise (· < ·) ∧
      (∀ root, root ∈ roots ↔ ∃ e, OuterAt (at? tree) isForm root e) ∧
      List.Forall₂ (Outlines tree) roots forms ∧
      ∀ upper place f x, at? tree upper = some f → isForm f = true → Below tree upper place x →
        ∃! root, root ∈ roots ∧ Below tree root place x := by
  have htree : ofTree source default tree = .ok forms := by
    rw [extract, hread] at h
    dsimp only at h
    cases hofTree : ofTree source default tree with
    | error fault => rw [hofTree] at h; cases h
    | ok forms' => rw [hofTree] at h; cases h; rfl
  have hroots : ∀ root, root ∈ (outerPlacesFrom isForm 0 tree).map Prod.fst ↔ ∃ e, OuterAt (at? tree) isForm root e := by
    intro root
    rw [List.mem_map]
    constructor
    · rintro ⟨x, hx, rfl⟩
      exact ⟨x.2, mem_outerPlacesFrom_zero.mp hx⟩
    · rintro ⟨e, he⟩
      exact ⟨(root, e), mem_outerPlacesFrom_zero.mpr he, rfl⟩
  refine ⟨_, ?_, hroots, ofTree_outlines hform htree, ?_⟩
  · rw [List.pairwise_map]
    exact (pairwise_placesFrom 0 tree).sublist (outerPlacesFrom_sublist isForm 0 tree)
  · intro upper place f x hf hkind hx
    simp only [hroots]
    exact existsUnique_outermost hf hkind hx

/-! ## An example -/

/-- A form element inside another, with a radio group beside it, and an empty form element. -/
def twoForms : String :=
  "<a-form id=cart><form><input name=q required></form><input type=radio name=by><input type=radio name=by></a-form><form>"

def twoFormsTree : List Element := (Element.read twoForms).toOption.getD []

theorem read_twoForms : Element.read twoForms = .ok twoFormsTree ∧ (at? twoFormsTree [0]).any isForm = true := by
  have hread : (Element.read twoForms).toOption.any (fun tree => (at? tree [0]).any isForm) = true := by decide +kernel
  revert hread
  unfold twoFormsTree
  generalize Element.read twoForms = reading
  cases reading with
  | error fault => exact fun h => nomatch h
  | ok tree => exact fun h => ⟨rfl, h⟩

/-- The inner form element of `twoForms` gives no form of its own, and the radio group gives one field. -/
theorem extract_outermost_twoForms :
    Element.read twoForms = .ok twoFormsTree ∧ (∃ place e, at? twoFormsTree place = some e ∧ isForm e = true) ∧
      extract twoForms "cart.html" "edit" =
        .ok [⟨"cart", "cart.html", [⟨"q", .text, true, none⟩, ⟨"by", .radio, false, none⟩], "submit"⟩,
          ⟨"edit-2", "cart.html", [], "submit"⟩] ∧
      ∃ roots, List.Forall₂ (Outlines twoFormsTree) roots
        [⟨"cart", "cart.html", [⟨"q", .text, true, none⟩, ⟨"by", .radio, false, none⟩], "submit"⟩,
          ⟨"edit-2", "cart.html", [], "submit"⟩] := by
  obtain ⟨hread, hroot⟩ := read_twoForms
  have hform : ∃ place e, at? twoFormsTree place = some e ∧ isForm e = true := by
    obtain ⟨e, he, hkind⟩ := (Option.any_eq_true ..).mp hroot
    exact ⟨[0], e, he, hkind⟩
  have hextract : extract twoForms "cart.html" "edit" =
      .ok [⟨"cart", "cart.html", [⟨"q", .text, true, none⟩, ⟨"by", .radio, false, none⟩], "submit"⟩,
        ⟨"edit-2", "cart.html", [], "submit"⟩] := by
    decide +kernel
  obtain ⟨roots, -, -, houtlines, -⟩ := extract_outermost hread hform hextract
  exact ⟨hread, hform, hextract, roots, houtlines⟩

end Form

end SchemaConcord
