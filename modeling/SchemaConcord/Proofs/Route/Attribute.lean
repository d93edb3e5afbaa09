import SchemaConcord.Proofs.Route.StubCoverage
import SchemaConcord.Proofs.Route.StubImports

/-!
# Attributes for columns

What a stub calls the columns that input may set. No attribute is a keyword or begins with an underscore; but an
attribute may be no identifier, the name of a type, or the attribute of another column as well
(`Table.safeAttributes_iff`).
-/

namespace SchemaConcord

open Text Source

/-! ## Steps of respelling -/

namespace Attribute

/-- A name with an underscore for every character that is in no word. -/
def underscored (name : String) : List Char := name.toList.map fun c => if isWord c then c else '_'

/-- An identifier that is not private. -/
def Plain (cs : List Char) : Prop := isIdentifier cs = true ∧ cs.head? ≠ some '_'

instance (cs : List Char) : Decidable (Plain cs) := inferInstanceAs (Decidable (_ ∧ _))

/-- With a letter in front when it is not plain. -/
def lettered (cs : List Char) : List Char := if Plain cs then cs else 'f' :: '_' :: cs

def Reserved (cs : List Char) : Prop := String.ofList cs ∈ keywords

instance (cs : List Char) : Decidable (Reserved cs) := inferInstanceAs (Decidable (_ ∈ _))

/-- With an underscore behind when it is a keyword. -/
def released (cs : List Char) : List Char := if Reserved cs then cs ++ ['_'] else cs

theorem toList_fieldAttribute (name : String) :
    (fieldAttribute name).toList = released (lettered (underscored name)) := by
  have hsafe (cs : List Char) :
      (if isIdentifier cs && cs.head? != some '_' then cs else 'f' :: '_' :: cs) = lettered cs :=
    if_congr (by rw [Plain, Bool.and_eq_true, bne_iff_ne]) rfl rfl
  have hend (cs : List Char) :
      (if keywords.contains (String.ofList cs) then String.ofList cs ++ "_" else String.ofList cs).toList =
        released cs := by
    rw [apply_ite String.toList, String.toList_append, String.toList_ofList]
    exact if_congr List.contains_iff_mem rfl rfl
  rw [← hend, ← hsafe]
  rfl

/-! ## What a respelling is -/

/-- A keyword is plain with and without an underscore behind it, is none with it, and has no `f_` in front. -/
theorem keywords_plain : ∀ k ∈ keywords, (Plain k.toList ∧ Plain (k.toList ++ ['_']) ∧
    String.ofList (k.toList ++ ['_']) ∉ keywords) ∧ (k.toList ++ ['_']).take 2 ≠ ['f', '_'] := by
  decide +kernel

section
variable {cs : List Char}

theorem Reserved.plain (h : Reserved cs) : Plain cs := by
  simpa using (keywords_plain _ h).1.1

theorem Reserved.plain_released (h : Reserved cs) : Plain (cs ++ ['_']) := by
  simpa using (keywords_plain _ h).1.2.1

theorem Reserved.not_reserved (h : Reserved cs) : ¬ Reserved (cs ++ ['_']) := by
  have hnone := (keywords_plain _ h).1.2.2
  rwa [String.toList_ofList] at hnone

theorem Reserved.released_ne (h : Reserved cs) (ds : List Char) : cs ++ ['_'] ≠ 'f' :: '_' :: ds := by
  have hhead := (keywords_plain _ h).2
  rw [String.toList_ofList] at hhead
  intro heq
  rw [heq] at hhead
  exact hhead rfl

theorem Reserved.ne_lettered (ds : List Char) : ¬ Reserved ('f' :: '_' :: ds) :=
  fun h => h.released_ne (ds ++ ['_']) rfl

theorem lettered_of_plain (h : Plain cs) : lettered cs = cs := if_pos h

theorem lettered_of_not_plain (h : ¬ Plain cs) : lettered cs = 'f' :: '_' :: cs := if_neg h

theorem released_of_reserved (h : Reserved cs) : released cs = cs ++ ['_'] := if_pos h

theorem released_of_not_reserved (h : ¬ Reserved cs) : released cs = cs := if_neg h

theorem head?_lettered : (lettered cs).head? ≠ some '_' := by
  by_cases h : Plain cs
  · rw [lettered_of_plain h]
    exact h.2
  · rw [lettered_of_not_plain h]
    simp

theorem head?_released (h : cs.head? ≠ some '_') : (released cs).head? ≠ some '_' := by
  by_cases hr : Reserved cs
  · rw [released_of_reserved hr]
    exact hr.plain_released.2
  · rwa [released_of_not_reserved hr]

/-- A name is respelled to an identifier when its characters of words may stand in one. -/
theorem isIdentifier_lettered_iff : isIdentifier (lettered cs) = true ↔ ∀ c ∈ cs, isNamePart c = true := by
  by_cases h : Plain cs
  · rw [lettered_of_plain h]
    have hparts := isNamePart_of_identifier (w := String.ofList cs) (by rw [String.toList_ofList]; exact h.1)
    rw [String.toList_ofList] at hparts
    exact iff_of_true h.1 hparts
  · have hf : isNameStart 'f' = true := by decide
    have hline : isNamePart '_' = true := by decide
    rw [lettered_of_not_plain h]
    simp [isIdentifier, hf, hline]

theorem isIdentifier_released_iff : isIdentifier (released cs) = true ↔ isIdentifier cs = true := by
  by_cases h : Reserved cs
  · rw [released_of_reserved h]
    exact iff_of_true h.plain_released.1 h.plain.1
  · rw [released_of_not_reserved h]

end

theorem isNamePart_underscored_iff {name : String} :
    (∀ c ∈ underscored name, isNamePart c = true) ↔ ∀ c ∈ name.toList, isWord c = true → isNamePart c = true := by
  have hline : isNamePart '_' = true := by decide
  refine List.forall_mem_map.trans (forall₂_congr fun c _ => ?_)
  cases isWord c <;> simp [hline]

/-! ## Two respellings -/

/-- How the respellings of two names with their underscores come to be the same. -/
def Clash (as bs : List Char) : Prop :=
  as = bs ∨ (Plain as ∧ ¬ Plain bs ∧ as = 'f' :: '_' :: bs) ∨ (Reserved as ∧ bs = as ++ ['_'])

instance (as bs : List Char) : Decidable (Clash as bs) := inferInstanceAs (Decidable (_ ∨ _ ∨ _))

section
variable {as bs : List Char}

theorem lettered_eq_iff : lettered as = lettered bs ↔
    as = bs ∨ (Plain as ∧ ¬ Plain bs ∧ as = 'f' :: '_' :: bs) ∨ (Plain bs ∧ ¬ Plain as ∧ bs = 'f' :: '_' :: as) := by
  by_cases ha : Plain as <;> by_cases hb : Plain bs
  · rw [lettered_of_plain ha, lettered_of_plain hb]
    simp [ha, hb]
  · have hne : as ≠ bs := fun h => hb (h ▸ ha)
    rw [lettered_of_plain ha, lettered_of_not_plain hb]
    simp [ha, hb, hne]
  · have hne : as ≠ bs := fun h => ha (h ▸ hb)
    rw [lettered_of_not_plain ha, lettered_of_plain hb]
    simp [ha, hb, hne, eq_comm]
  · rw [lettered_of_not_plain ha, lettered_of_not_plain hb]
    simp [ha, hb]

theorem released_eq_iff : released as = released bs ↔
    as = bs ∨ (Reserved as ∧ bs = as ++ ['_']) ∨ (Reserved bs ∧ as = bs ++ ['_']) := by
  have hnone {cs ds : List Char} (hc : Reserved cs) (hd : Reserved ds) : ds ≠ cs ++ ['_'] :=
    fun h => hc.not_reserved (h ▸ hd)
  by_cases ha : Reserved as <;> by_cases hb : Reserved bs
  · rw [released_of_reserved ha, released_of_reserved hb]
    simp [hnone ha hb, hnone hb ha]
  · have hne : as ≠ bs := fun h => hb (h ▸ ha)
    rw [released_of_reserved ha, released_of_not_reserved hb]
    simp [ha, hb, hne, eq_comm]
  · have hne : as ≠ bs := fun h => ha (h ▸ hb)
    rw [released_of_not_reserved ha, released_of_reserved hb]
    simp [ha, hb, hne]
  · rw [released_of_not_reserved ha, released_of_not_reserved hb]
    simp [ha, hb]

theorem reserved_lettered_iff : Reserved (lettered as) ↔ Reserved as := by
  by_cases ha : Plain as
  · rw [lettered_of_plain ha]
  · rw [lettered_of_not_plain ha]
    exact iff_of_false (Reserved.ne_lettered as) fun h => ha h.plain

theorem Reserved.lettered_eq_iff (ha : Reserved as) : lettered bs = lettered as ++ ['_'] ↔ bs = as ++ ['_'] := by
  rw [lettered_of_plain ha.plain]
  constructor
  · intro h
    by_cases hb : Plain bs
    · rwa [lettered_of_plain hb] at h
    · rw [lettered_of_not_plain hb] at h
      exact absurd h.symm (ha.released_ne bs)
  · rintro rfl
    exact lettered_of_plain ha.plain_released

theorem released_lettered_eq_iff : released (lettered as) = released (lettered bs) ↔ Clash as bs ∨ Clash bs as := by
  have hreserved {cs ds : List Char} : (Reserved (lettered cs) ∧ lettered ds = lettered cs ++ ['_']) ↔
      (Reserved cs ∧ ds = cs ++ ['_']) := by
    rw [reserved_lettered_iff]
    exact and_congr_right fun h => h.lettered_eq_iff
  rw [released_eq_iff, lettered_eq_iff, hreserved, hreserved, Clash, Clash, eq_comm (a := bs) (b := as)]
  tauto

end

end Attribute

open Attribute

/-- Two columns get one attribute when their names differ in characters of no word only, or when the letter in front of
one or the underscore behind it makes it the other. -/
theorem fieldAttribute_eq_iff {n m : String} : fieldAttribute n = fieldAttribute m ↔
    Clash (underscored n) (underscored m) ∨ Clash (underscored m) (underscored n) := by
  rw [← released_lettered_eq_iff, ← toList_fieldAttribute, ← toList_fieldAttribute, String.toList_inj]

theorem isIdentifier_fieldAttribute_iff {name : String} : isIdentifier (fieldAttribute name).toList = true ↔
    ∀ c ∈ name.toList, isWord c = true → isNamePart c = true := by
  rw [toList_fieldAttribute, isIdentifier_released_iff, isIdentifier_lettered_iff, isNamePart_underscored_iff]

theorem head?_fieldAttribute (name : String) : (fieldAttribute name).toList.head? ≠ some '_' := by
  rw [toList_fieldAttribute]
  exact head?_released head?_lettered

/-! ## Names of types -/

/-- The names that the annotations of a stub consist of. -/
def annotationNames : List String :=
  [ValueType.uuid, .bool, .json, .datetime, .date, .time, .str, .int, .float].flatMap fun v =>
    (Stub.typeWords v).filterMap Word.name?

theorem fieldAttribute_of_mem_annotationNames : ∀ x ∈ annotationNames, fieldAttribute x = x ∧ '_' ∉ x.toList := by
  decide +kernel

/-- A name is kept when its respelling has no underscore. -/
theorem eq_fieldAttribute {name : String} (h : '_' ∉ (fieldAttribute name).toList) : name = fieldAttribute name := by
  rw [toList_fieldAttribute] at h
  have hr : ¬ Reserved (lettered (underscored name)) := by
    intro hr
    rw [released_of_reserved hr] at h
    exact h (by simp)
  rw [released_of_not_reserved hr] at h
  have hp : Plain (underscored name) := by
    by_contra hp
    rw [lettered_of_not_plain hp] at h
    exact h (by simp)
  rw [lettered_of_plain hp] at h
  have hword : ∀ c ∈ name.toList, isWord c = true := by
    intro c hc
    by_contra hword
    exact h (List.mem_map.mpr ⟨c, hc, if_neg hword⟩)
  rw [← String.toList_inj, toList_fieldAttribute, released_of_not_reserved hr, lettered_of_plain hp]
  have hkept : underscored name = name.toList.map id := List.map_congr_left fun c hc => if_pos (hword c hc)
  rw [hkept, List.map_id]

theorem fieldAttribute_mem_annotationNames_iff {name : String} :
    fieldAttribute name ∈ annotationNames ↔ name ∈ annotationNames := by
  constructor
  · intro h
    rwa [← eq_fieldAttribute (fieldAttribute_of_mem_annotationNames _ h).2] at h
  · intro h
    rwa [(fieldAttribute_of_mem_annotationNames name h).1]

/-! ## The attributes of a model -/

namespace Table

variable (t : Table) (partialInput : Bool)

/-- The attributes of the input columns may stand in the class body of a model, each for one column. -/
structure SafeAttributes : Prop where
  distinct : ((t.inputColumns partialInput).map fun c => fieldAttribute c.name).Nodup
  identifier : ∀ c ∈ t.inputColumns partialInput, isIdentifier (fieldAttribute c.name).toList = true
  unreserved : ∀ c ∈ t.inputColumns partialInput, fieldAttribute c.name ∉ keywords
  exposed : ∀ c ∈ t.inputColumns partialInput, (fieldAttribute c.name).toList.head? ≠ some '_'
  typeless : ∀ c ∈ t.inputColumns partialInput, fieldAttribute c.name ∉ annotationNames

/-- What the names of the input columns have to be for their attributes to be safe. -/
structure Respellable : Prop where
  apart : (t.inputColumns partialInput).Pairwise fun c d =>
    ¬ Clash (underscored c.name) (underscored d.name) ∧ ¬ Clash (underscored d.name) (underscored c.name)
  parts : ∀ c ∈ t.inputColumns partialInput, ∀ d ∈ c.name.toList, isWord d = true → isNamePart d = true
  typeless : ∀ c ∈ t.inputColumns partialInput, c.name ∉ annotationNames

theorem nodup_attributes_iff : ((t.inputColumns partialInput).map fun c => fieldAttribute c.name).Nodup ↔
    (t.inputColumns partialInput).Pairwise fun c d =>
      ¬ Clash (underscored c.name) (underscored d.name) ∧ ¬ Clash (underscored d.name) (underscored c.name) := by
  rw [List.Nodup, List.pairwise_map]
  exact List.Pairwise.iff fun c d => by rw [ne_eq, fieldAttribute_eq_iff, not_or]

/-- No attribute is a keyword or begins with an underscore, and all attributes are safe exactly when the names can be
respelled apart from each other, from what is no identifier and from the names of types. -/
theorem safeAttributes_iff :
    (∀ c ∈ t.inputColumns partialInput,
      fieldAttribute c.name ∉ keywords ∧ (fieldAttribute c.name).toList.head? ≠ some '_') ∧
    (t.SafeAttributes partialInput ↔ t.Respellable partialInput) := by
  refine ⟨fun c _ => ⟨fieldAttribute_not_mem_keywords _, head?_fieldAttribute _⟩, fun h => ?_, fun h => ?_⟩
  · exact {
      apart := (nodup_attributes_iff t partialInput).mp h.distinct
      parts := fun c hc => isIdentifier_fieldAttribute_iff.mp (h.identifier c hc)
      typeless := fun c hc hname => h.typeless c hc (fieldAttribute_mem_annotationNames_iff.mpr hname) }
  · exact {
      distinct := (nodup_attributes_iff t partialInput).mpr h.apart
      identifier := fun c hc => isIdentifier_fieldAttribute_iff.mpr (h.parts c hc)
      unreserved := fun c _ => fieldAttribute_not_mem_keywords _
      exposed := fun c _ => head?_fieldAttribute _
      typeless := fun c hc hname => h.typeless c hc (fieldAttribute_mem_annotationNames_iff.mp hname) }

end Table

example : fieldAttribute "unit-price" = fieldAttribute "unit_price" ∧ fieldAttribute "date" = ValueType.date.word := by
  decide +kernel

end SchemaConcord
