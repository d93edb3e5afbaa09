import SchemaConcord.Proofs.Route.Coverage

/-!
# The parameters of a path

A path is read in two ways. Its parameters are looked for all along its text, while matching cuts it at its slashes and
looks at the two ends of a segment. Where every segment is plain, or a parameter from end to end, both find the same
parameters (`readings_agree`).
-/

namespace SchemaConcord.RoutePath

open Text

/-! ## Segments -/

/-- A name of a parameter or of a converter. -/
structure Name where
  chars : List Char
  ne_nil : chars ≠ []
  isWord : ∀ c ∈ chars, isWord c = true

def Name.text (n : Name) : String := String.ofList n.chars

def isPlain (c : Char) : Bool := isWord c || c == '-' || c == '.'

/-- A segment that is plain or a parameter from end to end. The path of a lone slash has one plain segment, without
characters. -/
inductive Segment where
  | plain (chars : List Char) (h : ∀ c ∈ chars, isPlain c = true)
  | marked (name : Name)
  | braced (name : Name) (converter : Option Name)
  | angled (converter : Option Name) (name : Name)

namespace Segment

def chars : Segment → List Char
  | plain cs _ => cs
  | marked n => ':' :: n.chars
  | braced n none => '{' :: (n.chars ++ ['}'])
  | braced n (some c) => '{' :: (n.chars ++ ':' :: (c.chars ++ ['}']))
  | angled none n => '<' :: (n.chars ++ ['>'])
  | angled (some c) n => '<' :: (c.chars ++ ':' :: (n.chars ++ ['>']))

/-- The type of the values that a converter lets through. -/
def convertedType (converter : Option String) : String :=
  if converter = some "int" then "integer" else if converter = some "float" then "number" else "string"

def parameter? : Segment → Option RouteParameter
  | plain _ _ => none
  | marked n => some { name := n.text, type := "string" }
  | braced n _ => some { name := n.text, type := "string" }
  | angled c n => some { name := n.text, type := convertedType (c.map Name.text) }

/-- Of two plain segments, that they are the same. -/
def Agrees : Segment → Segment → Prop
  | plain as _, plain bs _ => as = bs
  | _, _ => True

end Segment

/-! ## Looking along the text -/

/-- The marks that parameters begin with are not plain. -/
theorem ne_mark_of_isPlain {c : Char} (h : isPlain c = true) : c ≠ ':' ∧ c ≠ '{' ∧ c ≠ '<' := by
  refine ⟨?_, ?_, ?_⟩ <;>
    rintro rfl <;>
    exact absurd h (by decide)

theorem ne_of_isWord {c d : Char} (h : isWord c = true) (hd : isWord d = false) : c ≠ d := by
  rintro rfl
  cases h.symm.trans hd

theorem Name.not_mem {d : Char} (hd : Text.isWord d = false) (n : Name) : d ∉ n.chars :=
  fun h => ne_of_isWord (n.isWord d h) hd rfl

theorem Name.word?_append (n : Name) {rest : List Char} (h : ∀ c ∈ rest.head?, Text.isWord c = false) :
    word? (n.chars ++ rest) = some (n.chars, rest) := by
  obtain ⟨htake, hdrop⟩ := takeWhile_run n.isWord h
  have hempty : n.chars.isEmpty = false := List.isEmpty_eq_false_iff.mpr n.ne_nil
  simp only [word?, htake, hdrop, hempty, Bool.false_eq_true, if_false]

theorem Name.word?_before (n : Name) {d : Char} (hd : Text.isWord d = false) (rest : List Char) :
    word? (n.chars ++ d :: rest) = some (n.chars, d :: rest) :=
  n.word?_append (forall_head? hd)

theorem foundFrom_skip (cs rest : List Char) : foundFrom cs.length (cs ++ rest) = foundFrom 0 rest := by
  induction cs with
  | nil => rfl
  | cons c cs ih => exact ih

theorem foundFrom_found {cs rest : List Char} {p : Found} (hne : cs ≠ []) (h : found? (cs ++ rest) = some (p, rest)) :
    foundFrom 0 (cs ++ rest) = p :: foundFrom 0 rest := by
  obtain ⟨c, cs, rfl⟩ := List.exists_cons_of_ne_nil hne
  rw [List.cons_append] at h ⊢
  rw [foundFrom, h]
  dsimp only
  rw [List.length_append, Nat.add_sub_cancel, foundFrom_skip]

/-- No parameter begins where none of the three marks stands. -/
theorem foundFrom_free {cs : List Char} (h : ∀ c ∈ cs, c ≠ ':' ∧ c ≠ '{' ∧ c ≠ '<') (rest : List Char) :
    foundFrom 0 (cs ++ rest) = foundFrom 0 rest := by
  induction cs with
  | nil => rfl
  | cons c cs ih =>
    obtain ⟨hcolon, hbrace, hangle⟩ := h c (List.mem_cons_self ..)
    have hnone : found? (c :: (cs ++ rest)) = none := by
      simp [found?, hcolon, hbrace, hangle]
    rw [List.cons_append, foundFrom, hnone]
    exact ih fun d hd => h d (List.mem_cons_of_mem c hd)

namespace Segment

/-- What looking along the text finds of a segment. -/
def found? : Segment → Option Found
  | plain _ _ => none
  | marked n => some { name := n.chars }
  | braced n _ => some { name := n.chars }
  | angled none n => some { name := n.chars }
  | angled (some c) n => some { name := n.chars, converter := c.chars }

theorem converterType_chars (n : Name) : converterType n.chars = convertedType (some n.text) := by
  have htext (s : String) : n.chars = s.toList ↔ n.text = s := by
    rw [Name.text, ← String.toList_inj, String.toList_ofList]
  simp only [converterType, convertedType, beq_iff_eq, htext, Option.some.injEq]

theorem parameter?_eq (s : Segment) : s.parameter? =
    s.found?.map fun p => { name := String.ofList p.name, type := converterType p.converter } := by
  cases s with
  | plain cs h => rfl
  | marked n => rfl
  | braced n c => rfl
  | angled c n =>
    cases c with
    | none => rfl
    | some c => simp [parameter?, found?, converterType_chars, Name.text]

theorem chars_ne_nil {s : Segment} {p : Found} (hp : s.found? = some p) : s.chars ≠ [] := by
  cases s with
  | plain cs h => cases hp
  | marked n => simp [chars]
  | braced n c => cases c <;> simp [chars]
  | angled c n => cases c <;> simp [chars]

theorem found?_chars {s : Segment} {p : Found} (hp : s.found? = some p) {rest : List Char}
    (h : ∀ c ∈ rest.head?, isWord c = false) : RoutePath.found? (s.chars ++ rest) = some (p, rest) := by
  -- One case for each way to mark a parameter, with and without a converter.
  cases s with
  | plain cs hcs => cases hp
  | marked n =>
    cases hp
    rw [chars, List.cons_append, RoutePath.found?, n.word?_append h]
    rfl
  | braced n c =>
    cases hp
    cases c with
    | none =>
      rw [chars, List.cons_append, List.append_assoc, List.singleton_append, RoutePath.found?, RoutePath.braced?,
        n.word?_before (by decide)]
      rfl
    | some c =>
      have hskip : (c.chars ++ '}' :: rest).dropWhile (· != '}') = '}' :: rest := by
        rw [List.dropWhile_append_of_pos fun d hd => bne_iff_ne.mpr (ne_of_isWord (c.isWord d hd) (by decide)),
          List.dropWhile_cons_of_neg (by simp)]
      rw [chars, List.cons_append, List.append_assoc, List.cons_append, RoutePath.found?, RoutePath.braced?,
        n.word?_before (by decide)]
      simp [hskip]
  | angled c n =>
    cases c with
    | none =>
      cases hp
      rw [chars, List.cons_append, List.append_assoc, List.singleton_append, RoutePath.found?, RoutePath.angled?,
        n.word?_before (by decide)]
      rfl
    | some c =>
      cases hp
      have hname := n.word?_before (d := '>') (by decide) rest
      rw [chars, List.cons_append, List.append_assoc, List.cons_append, RoutePath.found?, RoutePath.angled?,
        c.word?_before (by decide)]
      simp [hname]

theorem foundFrom_chars (s : Segment) {rest : List Char} (h : ∀ c ∈ rest.head?, isWord c = false) :
    foundFrom 0 (s.chars ++ rest) = s.found?.toList ++ foundFrom 0 rest := by
  cases hs : s.found? with
  | some p => exact foundFrom_found (chars_ne_nil hs) (found?_chars hs h)
  | none =>
    cases s with
    | plain cs hcs => exact foundFrom_free (fun c hc => ne_mark_of_isPlain (hcs c hc)) rest
    | marked n => cases hs
    | braced n c => cases hs
    | angled c n => cases c <;> cases hs

end Segment

theorem foundFrom_segments (segs : List Segment) {rest : List Char} (h : ∀ c ∈ rest.head?, c = '/') :
    foundFrom 0 (['/'].intercalate (segs.map Segment.chars) ++ rest) =
      segs.filterMap Segment.found? ++ foundFrom 0 rest := by
  have hword : ∀ {cs : List Char}, (∀ c ∈ cs.head?, c = '/') → ∀ c ∈ cs.head?, isWord c = false := by
    intro cs hcs c hc
    rw [hcs c hc]
    decide
  induction segs with
  | nil => rfl
  | cons s segs ih =>
    have hcons : (s :: segs).filterMap Segment.found? = s.found?.toList ++ segs.filterMap Segment.found? := by
      cases hs : s.found? <;> simp [hs]
    rw [hcons, List.append_assoc]
    cases segs with
    | nil =>
      rw [List.map_singleton, List.intercalate_singleton, List.filterMap_nil, List.nil_append]
      exact s.foundFrom_chars (hword h)
    | cons next segs =>
      rw [List.map_cons, List.map_cons, List.intercalate_cons_cons, ← List.map_cons, List.append_assoc,
        List.append_assoc, s.foundFrom_chars (hword (by rintro c ⟨⟩; rfl)), foundFrom_free (by simp), ih]

/-! ## Paths of segments -/

/-- The path of some segments, with slashes between them and around them. -/
def written (before after : Nat) (segs : List Segment) : String :=
  String.ofList (List.replicate before '/' ++ (['/'].intercalate (segs.map Segment.chars) ++ List.replicate after '/'))

/-- The path is written with these segments. Only a sole segment may be empty at an end, where the path is a slash. -/
structure Shows (path : String) (segs : List Segment) : Prop where
  eq_written : ∃ before after, path = written before after segs
  ne_nil : segs ≠ []
  ends : segs.length = 1 ∨ (segs.head ne_nil).chars ≠ [] ∧ (segs.getLast ne_nil).chars ≠ []

theorem Segment.slash_not_mem (s : Segment) : '/' ∉ s.chars := by
  have hname : ∀ n : Name, '/' ∉ n.chars := Name.not_mem (by decide)
  cases s with
  | plain cs h => exact fun hmem => absurd (h '/' hmem) (by decide)
  | marked n => simp [chars, hname]
  | braced n c => cases c <;> simp [chars, hname]
  | angled c n => cases c <;> simp [chars, hname]

section
variable {path : String} {segs : List Segment} (h : Shows path segs)
include h

/-- No slash stands at the ends of the segments joined. -/
theorem Shows.ends_ne_slash : (∀ c ∈ (['/'].intercalate (segs.map Segment.chars)).head?, (c == '/') = false) ∧
    ∀ c ∈ (['/'].intercalate (segs.map Segment.chars)).getLast?, (c == '/') = false := by
  have hfree : ∀ {s : Segment} {c : Char}, c ∈ s.chars → (c == '/') = false :=
    fun {s} _ hc => beq_false_of_ne fun heq => s.slash_not_mem (heq ▸ hc)
  have hne : segs.map Segment.chars ≠ [] := by simpa using h.ne_nil
  rcases h.ends with hsole | ⟨hfirst, hlast⟩
  · obtain ⟨s, rfl⟩ := List.length_eq_one_iff.mp hsole
    rw [List.map_singleton, List.intercalate_singleton]
    exact ⟨fun c hc => hfree (List.mem_of_mem_head? hc), fun c hc => hfree (List.mem_of_mem_getLast? hc)⟩
  · obtain ⟨⟨more, hmore⟩, front, hfront⟩ := intercalate_ends ['/'] hne
    constructor
    · rw [hmore, List.head_map, List.head?_append_of_ne_nil _ hfirst]
      exact fun c hc => hfree (List.mem_of_mem_head? hc)
    · rw [hfront, List.getLast_map, List.getLast?_append_of_ne_nil _ hlast]
      exact fun c hc => hfree (List.mem_of_mem_getLast? hc)

theorem Shows.segments_eq : segments path = segs.map Segment.chars := by
  obtain ⟨before, after, rfl⟩ := h.eq_written
  have hslashes : ∀ n, ∀ c ∈ List.replicate n '/', (c == '/') = true := by
    intro n c hc
    rw [List.eq_of_mem_replicate hc]
    rfl
  have hne : segs.map Segment.chars ≠ [] := by simpa using h.ne_nil
  have hpieces : ∀ piece ∈ segs.map Segment.chars, '/' ∉ piece := by
    intro piece hpiece
    obtain ⟨s, -, rfl⟩ := List.mem_map.mp hpiece
    exact s.slash_not_mem
  obtain ⟨hhead, hlast⟩ := h.ends_ne_slash
  rw [segments, written, String.toList_ofList, trim_enclosed (hslashes before) (hslashes after) hhead hlast,
    splitAt_intercalate hne hpieces]

theorem Shows.parameters_eq : parameters path = segs.filterMap Segment.parameter? := by
  obtain ⟨before, after, rfl⟩ := h.eq_written
  have hslash : ∀ {n : Nat}, ∀ c ∈ List.replicate n '/', c = '/' := fun c hc => List.eq_of_mem_replicate hc
  have hfree : ∀ n rest, foundFrom 0 (List.replicate n '/' ++ rest) = foundFrom 0 rest := by
    intro n rest
    refine foundFrom_free (fun c hc => ?_) rest
    rw [hslash c hc]
    decide
  have hend := hfree after []
  rw [List.append_nil] at hend
  rw [parameters, written, String.toList_ofList, hfree,
    foundFrom_segments segs fun c hc => hslash c (List.mem_of_mem_head? hc), hend, foundFrom, List.append_nil,
    List.map_filterMap]
  exact congrArg (segs.filterMap ·) (funext fun s => s.parameter?_eq.symm)

end

/-! ## The two readings -/

theorem Segment.isParameterSegment_chars (s : Segment) : isParameterSegment s.chars = s.parameter?.isSome := by
  cases s with
  | plain cs hcs =>
    cases cs with
    | nil => rfl
    | cons c cs =>
      simp [chars, isParameterSegment, parameter?, ne_mark_of_isPlain (hcs c (List.mem_cons_self ..))]
  | marked n => rfl
  | braced n c => cases c <;> simp [chars, isParameterSegment, parameter?, List.getLast?_cons]
  | angled c n => cases c <;> simp [chars, isParameterSegment, parameter?, List.getLast?_cons]

theorem Segment.meets_iff (a b : Segment) : Meets a.chars b.chars ↔ a.Agrees b := by
  rw [Meets, isParameterSegment_chars, isParameterSegment_chars]
  cases a <;> cases b <;> simp [Agrees, parameter?, chars]

/-- The parameters found along the path are those that its segments are, in their order; and two paths match just when
they have as many segments, and in each place two equal plain ones or a parameter on either side. -/
theorem readings_agree {left right : String} {as bs : List Segment} (hleft : Shows left as) (hright : Shows right bs) :
    parameters left = as.filterMap Segment.parameter? ∧
    (pathsMatch left right = true ↔ as.length = bs.length ∧
      ∀ (i : Nat) (ha : i < as.length) (hb : i < bs.length), as[i].Agrees bs[i]) := by
  refine ⟨hleft.parameters_eq, ?_⟩
  rw [pathsMatch, segmentsMatch_iff, hleft.segments_eq, hright.segments_eq, List.forall₂_map_left_iff,
    List.forall₂_map_right_iff, List.forall₂_iff_get]
  simp only [Segment.meets_iff, List.get_eq_getElem]

def itemName : Name := ⟨"id".toList, by decide, forall_of_all (by decide)⟩

def partName : Name := ⟨"part".toList, by decide, forall_of_all (by decide)⟩

def wholeNumber : Name := ⟨"int".toList, by decide, forall_of_all (by decide)⟩

def itemsSegment : Segment := .plain "items".toList (forall_of_all (by decide))

/-- The segments of `/items/<int:id>/{part:slug}`. -/
def partOfItem : List Segment :=
  [itemsSegment, .angled (some wholeNumber) itemName,
    .braced partName (some ⟨"slug".toList, by decide, forall_of_all (by decide)⟩)]

/-- The segments of `items/new/:step/`. -/
def stepOfNew : List Segment :=
  [itemsSegment, .plain "new".toList (forall_of_all (by decide)),
    .marked ⟨"step".toList, by decide, forall_of_all (by decide)⟩]

theorem readings_agree_items :
    Shows "/items/<int:id>/{part:slug}" partOfItem ∧ Shows "items/new/:step/" stepOfNew ∧
    parameters "/items/<int:id>/{part:slug}" = [{ name := "id", type := "integer" }, { name := "part" }] ∧
    pathsMatch "/items/<int:id>/{part:slug}" "items/new/:step/" = true := by
  have hleft : Shows "/items/<int:id>/{part:slug}" partOfItem :=
    ⟨⟨1, 0, by decide +kernel⟩, by decide, .inr (by decide)⟩
  have hright : Shows "items/new/:step/" stepOfNew := ⟨⟨0, 1, by decide +kernel⟩, by decide, .inr (by decide)⟩
  obtain ⟨hparameters, hmatch⟩ := readings_agree hleft hright
  refine ⟨hleft, hright, hparameters, hmatch.mpr ⟨rfl, fun i ha hb => ?_⟩⟩
  match i, ha with
  | 0, _ => rfl
  | 1, _ => trivial
  | 2, _ => trivial

end SchemaConcord.RoutePath
