import SchemaConcord.Datum.Basic
import SchemaConcord.Files.Glob
import SchemaConcord.Text.Case

/-!
# Discovery

The files of a project that patterns select or that lie in extra directories, by their suffix, without those in
directories that hold no sources of the project. `scanFiles` reads files one after the other; a file that cannot be read
or understood is passed over with a warning.
-/

namespace SchemaConcord

open Text

def ignoredDirectories : List String :=
  ["node_modules", ".git", ".venv", "venv", "__pycache__", "dist", "build", "site-packages", ".tox", ".mypy_cache",
    ".pytest_cache"]

/-- Whether a path leads through an ignored directory, counted from the root where it lies below it. -/
def isIgnored (root p : Path) : Bool :=
  ((p.relativeTo? root).getD p.parts).dropLast.any ignoredDirectories.contains

namespace FileTree

def isSource (t : FileTree) (root : Path) (suffixes : List String) (p : Path) : Bool :=
  t.isFile p && suffixes.contains (lowercase p.suffix) && !isIgnored root p

def allBelow (t : FileTree) (base : Path) : List Path :=
  if t.isDirectory base then Glob.select t [.directories, .names [.any]] base else []

/-- The source files of a project, each once and in the order of paths. A directory that is not there is passed
over. -/
def discover (t : FileTree) (root : Path) (patterns directories suffixes : List String) :
    Except PatternFault (List Path) := do
  let selected ← patterns.mapM (Glob.glob t root)
  let below := directories.map fun d => t.allBelow (root.join (.parse d))
  let found := (selected ++ below).flatten.filter (t.isSource root (suffixes.map lowercase))
  return found.eraseDups.mergeSort Path.le

end FileTree

inductive SkipCause where
  | unreadable (obstacle : Obstacle)
  | encoding
  | malformed
  | value
  deriving DecidableEq, Repr

def SkipCause.word : SkipCause → String
  | .unreadable .missing => "FileNotFoundError"
  | .unreadable .present => "FileExistsError"
  | .unreadable .notDirectory => "NotADirectoryError"
  | .unreadable .isDirectory => "IsADirectoryError"
  | .encoding => "UnicodeDecodeError"
  | .malformed => "SyntaxError"
  | .value => "ValueError"

/-- What reading one file gave: items, or a problem for which the file is passed over, or one that ends the scan. -/
inductive FileReading (ε α : Type) where
  | items (l : List α)
  | skipped (cause : SkipCause)
  | broken (fault : ε)

/-- Reads files in order: their items and the warnings about those passed over. -/
def scanFiles (read : Path → FileReading ε α) : List Path → Except ε (List α × List String)
  | [] => .ok ([], [])
  | p :: rest =>
    match read p with
    | .broken fault => .error fault
    | .items l => (scanFiles read rest).map fun (items, warnings) => (l ++ items, warnings)
    | .skipped cause => (scanFiles read rest).map fun (items, warnings) =>
        (items, ("Skipped " ++ p.text ++ ": " ++ cause.word) :: warnings)

def FileTree.readWith (t : FileTree) (f : String → FileReading ε α) (p : Path) : FileReading ε α :=
  match t.readText p with
  | .ok s => f s
  | .error (.encoding _) => .skipped .encoding
  | .error (.file fault) => .skipped (.unreadable fault.obstacle)

def lastOfEach (key : α → String) (l : List α) : List α :=
  (l.foldl (fun kept a => Datum.putField (key a) a kept) []).map (·.2)

end SchemaConcord
