import SchemaConcord.Files.Discovery
import SchemaConcord.Form.Extract
import SchemaConcord.Form.Validate
import SchemaConcord.Outcome
import SchemaConcord.Settings.Basic

/-!
# Forms of a project

The forms in the templates and components of a project tree, checked against a schema. Forms are told apart by
their names, whatever file they come from.
-/

namespace SchemaConcord

inductive FormProjectFault where
  | pattern (fault : PatternFault)
  | form (fault : FormFault)
  deriving DecidableEq, Repr

def FormProjectFault.message : FormProjectFault → String
  | .pattern f => f.message
  | .form f => f.message

def formSuffixes : List String := [".html", ".htm", ".jinja", ".jinja2", ".j2", ".vue", ".svelte"]

/-- What is checked where: settings, and the root of the project. -/
structure FormProject where
  settings : FormSettings
  root : Path
  deriving Repr

namespace FormProject

/-- Reads the forms of a file. A length that is no number spoils the file, one without bound or markup that cannot
be read the whole scan. -/
def readFile (project : FormProject) (tree : FileTree) (p : Path) : FileReading FormProjectFault Form :=
  tree.readWith (fun s => match Form.extract s (project.root.shownFrom p) p.stem with
    | .ok forms => .items forms
    | .error (.length .undefined) => .skipped .value
    | .error f => .broken (.form f)) p

/-- The forms of a project, one for each name, and the warnings about files passed over. -/
def forms (project : FormProject) (tree : FileTree) : Except FormProjectFault (List Form × List String) := do
  let files ← (tree.discover project.root project.settings.patterns project.settings.directories
    formSuffixes).mapError FormProjectFault.pattern
  let (found, warnings) ← scanFiles (project.readFile tree) files
  return (lastOfEach Form.name found, warnings)

def validate (project : FormProject) (s : Snapshot) (tree : FileTree) : Outcome (List FormCheck) :=
  match project.forms tree with
  | .error f => .fail ⟨.formScanFailed, "Failed to scan forms", f.message⟩
  | .ok (forms, warnings) =>
    let checks := forms.map (·.check s)
    let unmatched := (checks.filter fun c => c.table.isNone).map fun c =>
      "Form '" ++ c.form.name ++ "' does not match any table"
    .ok checks (warnings ++ unmatched)

end FormProject

end SchemaConcord
