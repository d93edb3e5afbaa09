import SchemaConcord.Drift.Detector
import SchemaConcord.Proofs.Text.Digits
import SchemaConcord.Proofs.Text.Edit

/-!
# The name of the migration table

The name of the table of migrations is all that a configuration adds to a statement. It is let through when it is an
identifier or two identifiers joined by a point, and also when a line end follows such a name
(`countSql_named_iff`). Nothing but statements about tables with such names is asked in a detection
(`Detector.detect_history`).
-/

namespace SchemaConcord

namespace MigrationLog

open Text

/-! ## Names -/

/-- Letters, digits and underscores, all of them ASCII, of which the first is no digit. -/
structure Identifier where
  first : Char
  rest : List Char
  starts : first.isAlpha = true ∨ first = '_'
  goesOn : ∀ c ∈ rest, c.isAlphanum = true ∨ c = '_'

def Identifier.chars (n : Identifier) : List Char := n.first :: n.rest

inductive TableName where
  | plain (name : Identifier)
  | qualified (schema name : Identifier)

def TableName.chars : TableName → List Char
  | plain n => n.chars
  | qualified s n => s.chars ++ '.' :: n.chars

def TableName.text (n : TableName) : String := String.ofList n.chars

/-! ## Reading names -/

theorem isAsciiLetter_eq (c : Char) : isAsciiLetter c = c.isAlpha := by
  have hupper : isAsciiUpper c = c.isUpper := by
    have hcode : c.isUpper = decide (c.val ≥ 65 ∧ c.val ≤ 90) := rfl
    rw [Bool.eq_iff_iff, isAsciiUpper_iff, hcode, decide_eq_true_eq]
    exact Iff.rfl
  rw [isAsciiLetter, hupper]
  rfl

theorem isAsciiDigit_eq (c : Char) : isAsciiDigit c = c.isDigit := rfl

theorem isNameHead_iff {c : Char} : isNameHead c = true ↔ c.isAlpha = true ∨ c = '_' := by
  rw [isNameHead, isAsciiLetter_eq, Bool.or_eq_true, beq_iff_eq]

theorem isNameTail_iff {c : Char} : isNameTail c = true ↔ c.isAlphanum = true ∨ c = '_' := by
  rw [isNameTail, isAsciiLetter_eq, isAsciiDigit_eq, Char.isAlphanum]
  simp only [Bool.or_eq_true, beq_iff_eq]
  exact or_right_comm

variable {cs rest : List Char}

/-- What follows a name is what is left when the longest identifier is taken away. -/
theorem afterName?_eq_some : afterName? cs = some rest ↔
    ∃ n : Identifier, cs = n.chars ++ rest ∧ ∀ c ∈ rest.head?, isNameTail c = false := by
  constructor
  · intro h
    cases cs with
    | nil => cases h
    | cons c cs =>
      rw [afterName?] at h
      by_cases hc : isNameHead c = true
      · rw [if_pos hc, Option.some.injEq] at h
        have hrun : ∀ d ∈ cs.takeWhile isNameTail, d.isAlphanum = true ∨ d = '_' :=
          fun d hd => isNameTail_iff.mp (List.mem_takeWhile_imp hd)
        refine ⟨⟨c, cs.takeWhile isNameTail, isNameHead_iff.mp hc, hrun⟩, ?_, ?_⟩
        · rw [← h, Identifier.chars, List.cons_append, List.takeWhile_append_dropWhile]
        · intro d hd
          rw [← h] at hd
          have hnot := List.head?_dropWhile_not isNameTail cs
          rw [hd] at hnot
          exact hnot
      · rw [if_neg hc] at h
        cases h
  · rintro ⟨n, rfl, hrest⟩
    have hrun : ∀ c ∈ n.rest, isNameTail c = true := fun c hc => isNameTail_iff.mpr (n.goesOn c hc)
    rw [Identifier.chars, List.cons_append, afterName?, if_pos (isNameHead_iff.mpr n.starts),
      (takeWhile_run hrun hrest).2]

theorem atEnd_iff : atEnd cs = true ↔ cs = [] ∨ cs = ['\n'] := by
  rw [atEnd, Bool.or_eq_true, beq_iff_eq, beq_iff_eq]

/-- No name goes on at the end of a text. -/
theorem head?_of_atEnd (h : atEnd cs = true) : ∀ c ∈ cs.head?, isNameTail c = false := by
  rcases atEnd_iff.mp h with rfl | rfl
  · simp
  · exact forall_head? (by decide)

theorem isTableName_iff : isTableName cs = true ↔ ∃ (n : TableName) (ending : List Char),
    cs = n.chars ++ ending ∧ atEnd ending = true := by
  constructor
  · intro h
    unfold isTableName at h
    split at h
    · cases h
    · next tail hname =>
      obtain ⟨s, rfl, -⟩ := afterName?_eq_some.mp hname
      split at h
      · next ending hname' =>
        obtain ⟨n, rfl, -⟩ := afterName?_eq_some.mp hname'
        refine ⟨.qualified s n, ending, ?_, h⟩
        rw [TableName.chars, List.append_assoc, List.cons_append]
      · cases h
    · next ending _ hname =>
      obtain ⟨n, rfl, -⟩ := afterName?_eq_some.mp hname
      exact ⟨.plain n, ending, rfl, h⟩
  · rintro ⟨n, ending, rfl, hend⟩
    cases n with
    | plain n =>
      have hname : afterName? (n.chars ++ ending) = some ending := afterName?_eq_some.mpr ⟨n, rfl, head?_of_atEnd hend⟩
      rw [TableName.chars, isTableName, hname]
      rcases atEnd_iff.mp hend with rfl | rfl <;> rfl
    | qualified s n =>
      have hschema : afterName? (s.chars ++ '.' :: (n.chars ++ ending)) = some ('.' :: (n.chars ++ ending)) :=
        afterName?_eq_some.mpr ⟨s, rfl, forall_head? (by decide)⟩
      have hname : afterName? (n.chars ++ ending) = some ending := afterName?_eq_some.mpr ⟨n, rfl, head?_of_atEnd hend⟩
      rw [TableName.chars, List.append_assoc, List.cons_append, isTableName, hschema]
      simp only [hname]
      exact hend

/-! ## Statements -/

/-- The statement about a table, with the name of the table as it stands. -/
def countStatement (table : String) : String :=
  "SELECT COUNT(*) AS count FROM " ++ table ++
    " WHERE version > :from_version AND version <= :to_version AND status = 'completed'"

/-- A text that is let through for the name of a table: such a name, or such a name and a line end. -/
def Admitted (t : String) : Prop := ∃ n : TableName, t = n.text ∨ t = n.text ++ "\n"

theorem isTableName_toList {t : String} : isTableName t.toList = true ↔ Admitted t := by
  rw [isTableName_iff]
  constructor
  · rintro ⟨n, ending, ht, hend⟩
    refine ⟨n, ?_⟩
    rcases atEnd_iff.mp hend with rfl | rfl
    · left
      rw [TableName.text, ← String.ofList_toList (s := t), ht, List.append_nil]
    · right
      rw [TableName.text, ← String.ofList_toList (s := t), ht, String.ofList_append]
  · rintro ⟨n, rfl | rfl⟩
    · exact ⟨n, [], by rw [TableName.text, String.toList_ofList, List.append_nil], rfl⟩
    · exact ⟨n, ['\n'], by rw [TableName.text, String.toList_append, String.toList_ofList]; rfl, rfl⟩

theorem countSql_of_admitted {t : String} (h : Admitted t) : countSql t = .ok (countStatement t) := by
  rw [countSql, if_pos (isTableName_toList.mpr h)]
  rfl

theorem countSql_of_not_admitted {t : String} (h : ¬ Admitted t) : countSql t = .error (.badTableName t) := by
  rw [countSql, if_neg (mt isTableName_toList.mp h)]

theorem Identifier.ne_lineEnd (n : Identifier) : ∀ c ∈ n.chars, c ≠ '\n' := by
  have hfirst : n.first ≠ '\n' := by
    intro h
    have := n.starts
    simp [h] at this
  rintro c hc rfl
  rcases List.mem_cons.mp hc with hc | hc
  · exact hfirst hc.symm
  · have := n.goesOn '\n' hc
    simp at this

theorem TableName.ne_lineEnd (n : TableName) : ∀ c ∈ n.chars, c ≠ '\n' := by
  intro c hc
  cases n with
  | plain n => exact n.ne_lineEnd c hc
  | qualified s n =>
    rcases List.mem_append.mp hc with hc | hc
    · exact s.ne_lineEnd c hc
    · rcases List.mem_cons.mp hc with rfl | hc
      · decide
      · exact n.ne_lineEnd c hc

theorem TableName.text_ne (m n : TableName) : m.text ≠ n.text ++ "\n" := by
  intro h
  have hchars := congrArg String.toList h
  rw [text, text, String.toList_append, String.toList_ofList, String.toList_ofList] at hchars
  exact m.ne_lineEnd '\n' (hchars ▸ List.mem_append_right _ (by decide)) rfl

end MigrationLog

/-! ## What is asked -/

open MigrationLog

namespace Detector

variable {σ : Type} (d : Detector) (v : Services σ)
  {history history' : String → Datum → σ → σ × Except ConnectionFault (List Row)}

theorem hasMigration_history
    (h : Admitted d.settings.migrationTable → history (countStatement d.settings.migrationTable) =
      history' (countStatement d.settings.migrationTable)) (before after : String) :
    d.hasMigration { v with history := some history } before after =
      d.hasMigration { v with history := some history' } before after := by
  unfold hasMigration
  by_cases hname : Admitted d.settings.migrationTable
  · simp only [countSql_of_admitted hname, h hname]
  · simp only [countSql_of_not_admitted hname]

/-- Two databases that answer alike about the table of migrations, if its name is let through, are not told apart. -/
theorem detect_history
    (h : Admitted d.settings.migrationTable → history (countStatement d.settings.migrationTable) =
      history' (countStatement d.settings.migrationTable)) (now : Moment) :
    d.detect { v with history := some history } now = d.detect { v with history := some history' } now := by
  have hbuild : d.buildReport { v with history := some history } now =
      d.buildReport { v with history := some history' } now := by
    unfold buildReport schemaDrifts unrecordedChange
    simp only [d.hasMigration_history v h]
    rfl
  unfold detect
  rw [hbuild]
  rfl

end Detector

/-- A statement is made for an identifier or two joined by a point, and for one of these with a line end behind it;
every other text is refused. So names are let through as they should be, unless such a line end is there. Whatever
stands for the name of the table, nothing else is asked of a database in a detection. -/
theorem MigrationLog.countSql_named_iff {σ : Type} (t : String) :
    (∀ q, countSql t = .ok q ↔ Admitted t ∧ q = countStatement t) ∧
      (∀ f, countSql t = .error f ↔ ¬ Admitted t ∧ f = .badTableName t) ∧
      (((∃ q, countSql t = .ok q) ↔ ∃ n : TableName, t = n.text) ↔ ∀ n : TableName, t ≠ n.text ++ "\n") ∧
      ∀ (d : Detector) (v : Services σ)
        (history history' : String → Datum → σ → σ × Except ConnectionFault (List Row)) (now : Moment),
        d.settings.migrationTable = t → (Admitted t → history (countStatement t) = history' (countStatement t)) →
          d.detect { v with history := some history } now = d.detect { v with history := some history' } now := by
  have haccepts : (∃ q, countSql t = .ok q) ↔ Admitted t := by
    by_cases h : Admitted t
    · exact iff_of_true ⟨_, countSql_of_admitted h⟩ h
    · refine iff_of_false ?_ h
      rintro ⟨q, hq⟩
      cases (countSql_of_not_admitted h).symm.trans hq
  refine ⟨fun q => ?_, fun f => ?_, ?_, ?_⟩
  · by_cases h : Admitted t
    · simp [countSql_of_admitted h, h, eq_comm]
    · simp [countSql_of_not_admitted h, h]
  · by_cases h : Admitted t
    · simp [countSql_of_admitted h, h]
    · simp [countSql_of_not_admitted h, h, eq_comm]
  · rw [haccepts]
    constructor
    · rintro h n rfl
      obtain ⟨m, hm⟩ := h.mp ⟨n, .inr rfl⟩
      exact m.text_ne n hm.symm
    · intro hfree
      constructor
      · rintro ⟨n, hn | hn⟩
        · exact ⟨n, hn⟩
        · exact absurd hn (hfree n)
      · rintro ⟨n, hn⟩
        exact ⟨n, .inl hn⟩
  · rintro d v history history' now rfl h
    exact d.detect_history v h now

example : MigrationLog.countSql "app.migrations\n; DROP TABLE orders" =
    .error (.badTableName "app.migrations\n; DROP TABLE orders") := by decide

/-- A line end behind a name goes into the statement. -/
example : MigrationLog.countSql "migrations\n" = .ok (MigrationLog.countStatement "migrations\n") := by decide

end SchemaConcord
