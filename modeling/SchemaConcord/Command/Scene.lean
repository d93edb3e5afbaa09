import SchemaConcord.Command.Run
import SchemaConcord.Database.Replay

/-!
# Scenes

A scene is all that the program needs to run: the files of a directory, a recorded database, the time, and the status
that a webhook answers with. Scenes are read from values, and the files and the console can be written out again.
-/

namespace SchemaConcord

open Datum Text

structure Scene where
  home : Path
  tree : FileTree
  database : RecordedDatabase
  now : Moment
  status : Int

namespace FileTree

def rootedAt (home : Path) : FileTree :=
  let bare : FileTree := ⟨[], home.parts, 0⟩
  (bare.makeDirectories home).toOption.getD bare

def planted (t : FileTree) (p : Path) (s : String) : FileTree :=
  let grown := (t.makeDirectories p.parent).bind fun t => t.write p (.text s)
  grown.toOption.getD t

def textsBelow (t : FileTree) (p : Path) : List (String × Datum) :=
  (t.filesBelow p.parts).filterMap fun name =>
    ((t.readExactly (p.join (.parse name))).toOption).map fun s => (name, .text s)

end FileTree

namespace Scene

def faultWord : String := "DatabaseError"

def ofDatum (v : Datum) : Option Scene := do
  let home := Path.parse ((v.textPart? "home").getD "/project")
  let files := ((v.part? "files").map fieldsOf).getD []
  let tree := files.foldl (fun t (name, content) => t.planted (home.join (.parse name)) (content.textOf?.getD ""))
    (FileTree.rootedAt home)
  return { home, tree
           database := .ofDatum faultWord ((v.part? "database").getD (.record []))
           now := ← (v.textPart? "now").bind Moment.read?
           status := match v.part? "status" with
             | some (.int n) => n
             | _ => 200 }

def surroundings (s : Scene) : Surroundings ReplayedEngine :=
  ⟨s.database.backend, fun _ _ => .answered s.status, s.now⟩

def run (s : Scene) (arguments : List String) : Except CommandFault Nat × CommandRun ReplayedEngine :=
  runProgram s.surroundings arguments { tree := s.tree }

end Scene

/-- What is printed, on lines: a table gives its title, its headers and its rows. -/
def Printed.lines : Printed → List String
  | .line s => [s]
  | .table t => t.title :: (t.columns :: t.rows).map (joinWith "\t")

def CommandFault.message : CommandFault → String
  | .configuration f => f.message
  | .detector (.save f) => f.message
  | .detector (.webhook f) => f.message

end SchemaConcord
