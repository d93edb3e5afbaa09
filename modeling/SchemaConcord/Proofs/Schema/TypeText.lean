import SchemaConcord.Proofs.Text.Edit
import SchemaConcord.Schema.TypeText

/-!
# Short forms of type names

A type text gets the short form of the longest long name that it begins with, and stays as it is when it begins with
none (`normalize_kept_iff`). Where the long name ends in the text does not count: a type that merely begins with the
letters of one, and goes on with others, is renamed too.
-/

namespace SchemaConcord.TypeText

open Text

/-- The name begins the text and is a phrase of its own there: the text ends behind it, or no letter, digit or
underscore follows. -/
def StandsWhole (name cs : List Char) : Prop := ∃ rest, cs = name ++ rest ∧ ∀ c ∈ rest.head?, isWord c = false

/-- The name begins the text, and its last word goes on behind it. -/
def RunsOn (name cs : List Char) : Prop := ∃ c rest, cs = name ++ c :: rest ∧ isWord c = true

instance (name cs : List Char) : Decidable (StandsWhole name cs) :=
  decidable_of_iff ((after? name cs).any fun rest => rest.head?.all fun c => !isWord c) <| by
    simp only [Option.any_eq_true, Option.all_eq_true, Bool.not_eq_true', after?_eq_some, StandsWhole, Option.mem_def]

instance (name cs : List Char) : Decidable (RunsOn name cs) :=
  decidable_of_iff ((after? name cs).any fun rest => rest.head?.any isWord) <| by
    simp only [Option.any_eq_true, after?_eq_some, RunsOn, List.head?_eq_some_iff]
    constructor
    · rintro ⟨_, rfl, c, ⟨rest, rfl⟩, hc⟩
      exact ⟨c, rest, rfl, hc⟩
    · rintro ⟨c, rest, rfl, hc⟩
      exact ⟨c :: rest, rfl, c, ⟨rest, rfl⟩, hc⟩

theorem begins_iff {name cs : List Char} : name <+: cs ↔ StandsWhole name cs ∨ RunsOn name cs := by
  constructor
  · rintro ⟨rest, rfl⟩
    cases rest with
    | nil => exact .inl ⟨[], rfl, fun c hc => nomatch hc⟩
    | cons c rest =>
      cases hc : isWord c with
      | false => exact .inl ⟨c :: rest, rfl, forall_head? hc⟩
      | true => exact .inr ⟨c, rest, rfl, hc⟩
  · rintro (⟨rest, rfl, -⟩ | ⟨c, rest, rfl, -⟩) <;> exact List.prefix_append ..

/-! ## The list of names -/

theorem short_lt_long : ∀ a ∈ aliases, a.2.toList.length < a.1.toList.length := by decide

/-- No name comes after one that it begins with. -/
theorem aliases_ordered : aliases.Pairwise fun a b => ¬a.1.toList <+: b.1.toList := by decide

/-! ## Shortening -/

variable {cs : List Char}

theorem shorten_of_none (h : ∀ a ∈ aliases, ¬a.1.toList <+: cs) : shorten cs = cs := by
  have hnone : (aliases.findSome? fun a => (after? a.1.toList cs).map (a.2.toList ++ ·)) = none := by
    rw [List.findSome?_eq_none_iff]
    intro a ha
    rw [after?_eq_none.mpr (h a ha), Option.map_none]
  rw [shorten, hnone, Option.getD_none]

/-- Of the names that begin the text, the longest is shortened. -/
theorem shorten_of_longest {a : String × String} {rest : List Char} (ha : a ∈ aliases)
    (hlongest : ∀ b ∈ aliases, b.1.toList <+: a.1.toList ++ rest → b.1.toList.length ≤ a.1.toList.length) :
    shorten (a.1.toList ++ rest) = a.2.toList ++ rest := by
  have hfound : (aliases.findSome? fun b => (after? b.1.toList (a.1.toList ++ rest)).map (b.2.toList ++ ·)) =
      some (a.2.toList ++ rest) := by
    obtain ⟨before, after, hsplit⟩ := List.append_of_mem ha
    rw [List.findSome?_eq_some_iff]
    refine ⟨before, a, after, hsplit, ?_, ?_⟩
    · rw [after?_eq_some.mpr rfl, Option.map_some]
    · -- a name before `a` that begins the text would be no longer than `a`, and so begin `a`
      intro b hb
      have hmem : b ∈ aliases := hsplit ▸ List.mem_append_left _ hb
      have hordered := aliases_ordered
      rw [hsplit, List.pairwise_append] at hordered
      have hnot : ¬b.1.toList <+: a.1.toList := hordered.2.2 b hb a (List.mem_cons_self ..)
      have hnone : after? b.1.toList (a.1.toList ++ rest) = none := after?_eq_none.mpr fun hpre =>
        hnot (List.prefix_of_prefix_length_le hpre (List.prefix_append ..) (hlongest b hmem hpre))
      rw [hnone, Option.map_none]
  rw [shorten, hfound, Option.getD_some]

theorem exists_shorten {a : String × String} (ha : a ∈ aliases) (hpre : a.1.toList <+: cs) :
    ∃ b ∈ aliases, ∃ rest, cs = b.1.toList ++ rest ∧ shorten cs = b.2.toList ++ rest := by
  cases hfound : aliases.findSome? fun b => (after? b.1.toList cs).map (b.2.toList ++ ·) with
  | none =>
    have hnone := List.findSome?_eq_none_iff.mp hfound a ha
    exact absurd hpre (after?_eq_none.mp (Option.map_eq_none_iff.mp hnone))
  | some image =>
    obtain ⟨b, hb, hmap⟩ := List.exists_of_findSome?_eq_some hfound
    obtain ⟨rest, hrest, rfl⟩ := Option.map_eq_some_iff.mp hmap
    refine ⟨b, hb, rest, after?_eq_some.mp hrest, ?_⟩
    rw [shorten, hfound, Option.getD_some]

theorem shorten_eq_self_iff : shorten cs = cs ↔ ∀ a ∈ aliases, ¬a.1.toList <+: cs := by
  refine ⟨fun h a ha hpre => ?_, shorten_of_none⟩
  obtain ⟨b, hb, rest, rfl, hshort⟩ := exists_shorten ha hpre
  have hsame := List.append_cancel_right (hshort.symm.trans h)
  exact absurd (congrArg List.length hsame) (Nat.ne_of_lt (short_lt_long b hb))

/-- A text in which no long name stands as a phrase of its own at the start is kept exactly if none of them runs on
there into a longer word. In every text the longest name at its start, whatever follows, gives way to its short form. -/
theorem normalize_kept_iff (raw : String) :
    ((∀ a ∈ aliases, ¬StandsWhole a.1.toList (plain raw.toList)) →
      ((normalize raw).toList = plain raw.toList ↔ ∀ a ∈ aliases, ¬RunsOn a.1.toList (plain raw.toList))) ∧
    ∀ a ∈ aliases, ∀ rest, plain raw.toList = a.1.toList ++ rest →
      (∀ b ∈ aliases, b.1.toList <+: plain raw.toList → b.1.toList.length ≤ a.1.toList.length) →
        (normalize raw).toList = a.2.toList ++ rest := by
  have htext : (normalize raw).toList = shorten (plain raw.toList) := String.toList_ofList
  rw [htext]
  constructor
  · intro hwhole
    rw [shorten_eq_self_iff]
    refine forall₂_congr fun a ha => ?_
    rw [begins_iff, or_iff_right (hwhole a ha)]
  · intro a ha rest hrest hlongest
    rw [hrest] at hlongest ⊢
    exact shorten_of_longest ha hlongest

/-- The type of a status is kept, and of the long spelling of a text type only the name is shortened. A type of the name
`characteristic` begins like one and loses its middle. -/
theorem normalize_kept_iff_status :
    (normalize "Order  Status").toList = plain "Order  Status".toList ∧
      (normalize "CHARACTER VARYING (20)").toList = "varchar".toList ++ "(20)".toList ∧
      (∀ a ∈ aliases, ¬StandsWhole a.1.toList (plain "Characteristic".toList)) ∧
      (normalize "Characteristic").toList ≠ plain "Characteristic".toList := by
  have hstatus := ((normalize_kept_iff "Order  Status").1 (by decide +kernel)).mpr (by decide +kernel)
  have hvarying := (normalize_kept_iff "CHARACTER VARYING (20)").2 ("character varying", "varchar") (by decide)
    "(20)".toList (by decide +kernel) (by decide +kernel)
  have hwhole : ∀ a ∈ aliases, ¬StandsWhole a.1.toList (plain "Characteristic".toList) := by decide +kernel
  refine ⟨hstatus, hvarying, hwhole, fun hkept => ?_⟩
  have hruns := ((normalize_kept_iff "Characteristic").1 hwhole).mp hkept ("character", "char") (by decide)
  exact hruns (by decide +kernel)

end SchemaConcord.TypeText
