import SchemaConcord.Proofs.Source.Blocks
import SchemaConcord.Proofs.Source.Lines

/-!
# Written statements

Lines that are a statement at the outermost level stand in a source one after another: such a source is parsed as the
nodes of its statements (`StatedLines.parse_eq`).
-/

namespace SchemaConcord.Source

/-! ## Lines one after another -/

/-- The first line that is not blank is at the outermost level. -/
def outermost : List Line → Bool
  | [] => true
  | .blank :: rest => outermost rest
  | .code d _ _ :: _ => d == 0

theorem lineTokens_outermost {lines : List Line} (h : outermost lines = true) (d : Nat) :
    lineTokens d lines = List.replicate d .dedent ++ lineTokens 0 lines := by
  induction lines with
  | nil => exact (List.append_nil _).symm
  | cons l lines ih =>
    cases l with
    | blank => exact ih h
    | code e first items =>
      obtain rfl : e = 0 := by simpa [outermost] using h
      simp [lineTokens, depthMarks]

theorem lineTokens_append {more : List Line} (h : outermost more = true) (lines : List Line) (d : Nat) :
    lineTokens d (lines ++ more) = lineTokens d lines ++ lineTokens 0 more := by
  induction lines generalizing d with
  | nil => exact lineTokens_outermost h d
  | cons l lines ih =>
    cases l with
    | blank => exact ih d
    | code e first items =>
      rw [List.cons_append, lineTokens, lineTokens, ih]
      simp

theorem stepwise_outermost {lines : List Line} (h : outermost lines = true) (d : Nat) (hstep : stepwise 0 lines = true) :
    stepwise d lines = true := by
  induction lines with
  | nil => rfl
  | cons l lines ih =>
    cases l with
    | blank => exact ih h hstep
    | code e first items =>
      obtain rfl : e = 0 := by simpa [outermost] using h
      simpa [stepwise] using hstep

theorem stepwise_append {lines more : List Line} {d : Nat} (hlines : stepwise d lines = true)
    (h : outermost more = true) (hmore : stepwise 0 more = true) : stepwise d (lines ++ more) = true := by
  induction lines generalizing d with
  | nil => exact stepwise_outermost h d hmore
  | cons l lines ih =>
    cases l with
    | blank => exact ih hlines
    | code e first items =>
      simp only [List.cons_append, stepwise, Bool.and_eq_true] at hlines ⊢
      exact ⟨hlines.1, ih hlines.2⟩

/-! ## Statements -/

/-- Lines that are read as one statement at the outermost level, nested no deeper than any source may be. -/
structure Stated (lines : List Line) (ns : List Node) : Prop where
  sound : ∀ l ∈ lines, l.Sound
  fits : ∀ l ∈ lines, l.fits = true
  steps : stepwise 0 lines = true
  outermost : outermost lines = true
  begins : ∃ t us, lineTokens 0 lines = t :: us ∧ t ≠ .dedent ∧ Fresh (some t)
  reads : ReadsStatement 10 2 (lineTokens 0 lines) ns

/-- Statements and blank lines, one after another. -/
inductive StatedLines : List Line → List Node → Prop where
  | finished : StatedLines [] []
  | blank {lines ns} (h : StatedLines lines ns) : StatedLines (.blank :: lines) ns
  | statement {lines more ns ms} (h : Stated lines ns) (hmore : StatedLines more ms) :
      StatedLines (lines ++ more) (ns ++ ms)

namespace StatedLines

variable {lines more : List Line} {ns ms : List Node}

theorem append (h : StatedLines lines ns) (hmore : StatedLines more ms) : StatedLines (lines ++ more) (ns ++ ms) := by
  induction h with
  | finished => exact hmore
  | blank _ ih => exact .blank ih
  | statement h _ ih =>
    rw [List.append_assoc, List.append_assoc]
    exact .statement h ih

theorem one (h : Stated lines ns) : StatedLines lines ns := by
  have := StatedLines.statement h .finished
  rwa [List.append_nil, List.append_nil] at this

theorem sound (h : StatedLines lines ns) : ∀ l ∈ lines, l.Sound := by
  induction h with
  | finished => nofun
  | blank _ ih => exact List.forall_mem_cons.mpr ⟨nofun, ih⟩
  | statement h _ ih => exact List.forall_mem_append.mpr ⟨h.sound, ih⟩

theorem fits (h : StatedLines lines ns) : ∀ l ∈ lines, l.fits = true := by
  induction h with
  | finished => nofun
  | blank _ ih => exact List.forall_mem_cons.mpr ⟨rfl, ih⟩
  | statement h _ ih => exact List.forall_mem_append.mpr ⟨h.fits, ih⟩

theorem outermost_eq (h : StatedLines lines ns) : outermost lines = true := by
  induction h with
  | finished => rfl
  | blank _ ih => exact ih
  | @statement lines more _ _ h _ ih =>
    have houter := h.outermost
    clear h
    induction lines with
    | nil => exact ih
    | cons l lines ihl =>
      cases l with
      | blank => exact ihl houter
      | code e first items => exact houter

theorem steps (h : StatedLines lines ns) : stepwise 0 lines = true := by
  induction h with
  | finished => rfl
  | blank _ ih => exact ih
  | statement h hmore ih => exact stepwise_append h.steps hmore.outermost_eq ih

theorem exists_pieces (h : StatedLines lines ns) : ∃ pieces, ReadsStatements 10 2 pieces ∧
    lineTokens 0 lines = (pieces.map (·.1)).flatten ∧ ns = (pieces.map (·.2)).flatten := by
  induction h with
  | finished => exact ⟨[], nofun, rfl, rfl⟩
  | blank _ ih => exact ih
  | @statement lines more ns ms h hmore ih =>
    obtain ⟨pieces, hreads, htokens, hnodes⟩ := ih
    refine ⟨(lineTokens 0 lines, ns) :: pieces, List.forall_mem_cons.mpr ⟨⟨h.begins, h.reads⟩, hreads⟩, ?_, ?_⟩
    · rw [lineTokens_append hmore.outermost_eq, htokens]
      rfl
    · rw [hnodes]
      rfl

/-- A source that is written as one statement after another is parsed as their nodes. -/
theorem parse_eq (h : StatedLines lines ns) (hne : ns ≠ []) {source : String} (hsource : source.toList = lineChars lines) :
    parse source = .ok (.other ns) := by
  obtain ⟨pieces, hreads, hlines, hnodes⟩ := h.exists_pieces
  have hnull : source.toList.contains (Char.ofNat 0) = false := by
    rw [← Bool.not_eq_true, List.contains_iff_mem, hsource]
    exact fun hc => (ordinary_lineChars h.sound _ hc).2 rfl
  have htokens := tokens?_lines h.sound h.fits h.steps
  have hlength : 2 ≤ (pieces.map (·.1)).flatten.length + 1 := by
    cases pieces with
    | nil => exact absurd hnodes hne
    | cons x more =>
      obtain ⟨⟨t, us, hts, -⟩, -⟩ := hreads x (List.mem_cons_self ..)
      simp [hts]
  have hmodule := module_eq hreads (d := 2 * source.toList.length + 10) (by omega) hlength
  have hgrammar : (⟨Rule.parse (2 * source.toList.length + 10), fieldExpression?
      (Inner.starExpressions ⟨Rule.parse (2 * source.toList.length + 10), fun _ => none⟩)⟩ : Inner) =
        Inner.within (2 * source.toList.length + 10) := rfl
  unfold parse
  dsimp only
  rw [hnull, if_neg Bool.false_ne_true, hsource, htokens, ← hsource, hlines, hnodes]
  simp only [Option.bind_eq_bind, Option.bind_some]
  rw [hgrammar, hmodule]
  rfl

end StatedLines

end SchemaConcord.Source
