import SchemaConcord.Files.Document
import SchemaConcord.Json.Printer
import SchemaConcord.Schema.Document

/-!
# The baseline

The baseline is the schema that a database is expected to have, kept as a document. It is replaced in steps that
end with the rename of a finished temporary file beside it: until that step the old baseline is in place, and from
it on the new one.
-/

namespace SchemaConcord

inductive FileStep where
  | directories (p : Path)
  | clear (p : Path)
  | append (p : Path) (s : String)
  | rename (source target : Path)
  deriving DecidableEq, Repr

def FileStep.run (t : FileTree) : FileStep → Except FileFault FileTree
  | .directories p => t.makeDirectories p
  | .clear p => t.write p (.text "")
  | .append p s => t.append p s
  | .rename p q => t.rename p q

/-- Runs steps until one fails: the tree as far as they came, and the fault of that step. -/
def runSteps : List FileStep → FileTree → FileTree × Except FileFault Unit
  | [], t => (t, .ok ())
  | s :: rest, t =>
    match s.run t with
    | .error f => (t, .error f)
    | .ok t => runSteps rest t

inductive SaveFault where
  | namelessPath (p : Path)
  | file (fault : FileFault)
  deriving DecidableEq, Repr

def SaveFault.message : SaveFault → String
  | .namelessPath p => "PosixPath(" ++ Text.quoted p.text ++ ") has an empty name"
  | .file f => f.message

structure BaselineFile where
  path : Path
  deriving DecidableEq, Repr

namespace BaselineFile

def exist (b : BaselineFile) (t : FileTree) : Bool := t.isFile b.path

/-- The baseline, if one was saved; a snapshot without a time is taken to be of now. -/
def load (b : BaselineFile) (now : Moment) (t : FileTree) : Except DocumentFault (Option Snapshot) :=
  if b.exist t then some <$> t.readDocument "DatabaseSchema" (Snapshot.read now) b.path else .ok none

def temporary (b : BaselineFile) : Path := b.path.parent.child ("." ++ b.path.name ++ ".tmp")

def saveSteps (b : BaselineFile) (chunks : List String) : List FileStep :=
  .directories b.path.parent :: .clear b.temporary :: chunks.map (.append b.temporary) ++ [.rename b.temporary b.path]

def save (b : BaselineFile) (s : Snapshot) (t : FileTree) : FileTree × Except SaveFault Unit :=
  if b.path.name.isEmpty then
    match t.makeDirectories b.path.parent with
    | .error f => (t, .error (.file f))
    | .ok t => (t, .error (.namelessPath b.path))
  else
    let (t, result) := runSteps (b.saveSteps [Json.indented s.toDatum]) t
    (t, result.mapError SaveFault.file)

end BaselineFile

end SchemaConcord
