import SchemaConcord.Datum.Reader
import SchemaConcord.Files.Tree
import SchemaConcord.Json.Parser

/-!
# Documents

A document is a file that holds a model as JSON text. Reading one finds the file unreadable, or its text no model,
with every issue that the model's reader found; text that is no JSON is one issue of its own.
-/

namespace SchemaConcord

open Text

structure InvalidModel where
  model : String
  issues : List Issue
  deriving DecidableEq, Repr

def Step.text : Step → String
  | .field name => name
  | .item n => toString n

/-- An issue on two lines: its place, and the word for what is wrong there. -/
def Issue.lines (i : Issue) : List String := [joinWith "." (i.place.map Step.text), "  " ++ i.fault.word]

def InvalidModel.message (f : InvalidModel) : String :=
  let n := f.issues.length
  let head := toString n ++ (if n = 1 then " validation error for " else " validation errors for ") ++ f.model
  joinWith "\n" (head :: f.issues.flatMap Issue.lines)

def readModel (model : String) (r : Reader α) (v : Datum) : Except InvalidModel α :=
  (r v).toExcept.mapError (⟨model, ·⟩)

def documentDepth : Nat := 200

def readJson (model : String) (r : Reader α) (s : String) : Except InvalidModel α :=
  match Json.parse? documentDepth s.toList with
  | some v => readModel model r v
  | none => .error ⟨model, [⟨[], .jsonInvalid⟩]⟩

inductive DocumentFault where
  | file (fault : ReadFault)
  | model (fault : InvalidModel)
  deriving DecidableEq, Repr

def DocumentFault.message : DocumentFault → String
  | .file f => f.message
  | .model f => f.message

namespace FileTree

def readDocument (t : FileTree) (model : String) (r : Reader α) (p : Path) : Except DocumentFault α :=
  match t.readText p with
  | .error f => .error (.file f)
  | .ok s => (readJson model r s).mapError .model

end FileTree

end SchemaConcord
