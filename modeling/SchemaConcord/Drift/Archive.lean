import SchemaConcord.Drift.Document
import SchemaConcord.Files.Document
import SchemaConcord.Json.Printer

/-!
# The report archive

Every report is kept in a file of its own, named for the second of its time. Of reports from one second the later
ones get a number: the least that makes a name that nothing has. No file is ever written over.
-/

namespace SchemaConcord

open Text

structure ReportArchive where
  directory : Path
  deriving DecidableEq, Repr

namespace ReportArchive

def head : String := "drift-report-"

def file (a : ReportArchive) (m : Moment) (n : Nat) : Path :=
  a.directory.child (head ++ m.stamp ++ (if n = 0 then "" else "-" ++ toString n) ++ ".json")

/-- Writes to the first of the files from the `n`th on whose name nothing has, trying `more` after it. -/
def writeFrom (a : ReportArchive) (m : Moment) (c : Content) (t : FileTree) :
    (more n : Nat) → Except FileFault (FileTree × Path)
  | more, n =>
    match t.create (a.file m n) c with
    | .ok t => .ok (t, a.file m n)
    | .error f =>
      match more with
      | 0 => .error f
      | more + 1 => if f.obstacle = .present then a.writeFrom m c t more (n + 1) else .error f

/-- Writes a report; there is a free name among one more than there are entries. -/
def write (a : ReportArchive) (r : Report) (t : FileTree) : FileTree × Except FileFault Path :=
  match t.makeDirectories a.directory with
  | .error f => (t, .error f)
  | .ok t => match a.writeFrom r.timestamp (.text (Json.indented r.toDatum)) t t.entries.length 0 with
    | .ok (t, p) => (t, .ok p)
    | .error f => (t, .error f)

def reports (a : ReportArchive) (t : FileTree) : List Path :=
  let isReport (name : String) : Bool := hasHead name head && hasTail name ".json"
  let found := if t.isDirectory a.directory then (t.children a.directory).filter fun (name, _) => isReport name else []
  (found.mergeSort fun x y => x.2.changed ≤ y.2.changed).map fun (name, _) => a.directory.child name

def latest (a : ReportArchive) (t : FileTree) : Except DocumentFault (Option Report) :=
  match (a.reports t).getLast? with
  | none => .ok none
  | some p => some <$> t.readDocument "DriftReport" Report.read p

end ReportArchive

end SchemaConcord
