import SchemaConcord.Files.Path
import SchemaConcord.Text.Quoted
import SchemaConcord.Text.Utf8

/-!
# File trees

A file tree maps locations, lists of names from the root down, to files and directories, and has a home from which
relative paths start. Operations either give the tree after them or say what stood in their way; they change the
entry of their path only, besides the directories that `makeDirectories` adds.
-/

namespace SchemaConcord

open Text

abbrev Location := List String

inductive Content where
  | text (s : String)
  | broken (fault : Utf8Fault)
  deriving DecidableEq, Repr

/-- A file or directory with the time of its last change, in steps of the tree's clock. -/
inductive Entry where
  | file (content : Content) (changed : Nat)
  | directory (changed : Nat)
  deriving DecidableEq, Repr

structure FileTree where
  entries : List (Location × Entry)
  home : Location
  clock : Nat
  deriving DecidableEq, Repr

inductive Obstacle where
  | missing | present | notDirectory | isDirectory
  deriving DecidableEq, Repr

/-- An operation that failed on a path, or on the way from one path to another. -/
structure FileFault where
  obstacle : Obstacle
  path : Path
  target : Option Path := none
  deriving DecidableEq, Repr

def Obstacle.message : Obstacle → String
  | .missing => "[Errno 2] No such file or directory"
  | .present => "[Errno 17] File exists"
  | .notDirectory => "[Errno 20] Not a directory"
  | .isDirectory => "[Errno 21] Is a directory"

def FileFault.message (f : FileFault) : String :=
  f.obstacle.message ++ ": " ++ quoted f.path.text ++ match f.target with
    | some t => " -> " ++ quoted t.text
    | none => ""

inductive ReadFault where
  | file (fault : FileFault)
  | encoding (fault : Utf8Fault)
  deriving DecidableEq, Repr

def ReadFault.message : ReadFault → String
  | .file f => f.message
  | .encoding f => f.message

namespace Entry

def changed : Entry → Nat
  | .file _ n => n
  | .directory n => n

def isDirectory : Entry → Bool
  | .file .. => false
  | .directory _ => true

end Entry

def unifyNewlines : List Char → List Char
  | [] => []
  | '\r' :: '\n' :: rest => '\n' :: unifyNewlines rest
  | c :: rest => (if c == '\r' then '\n' else c) :: unifyNewlines rest

namespace FileTree

/-! ## Looking -/

def entry? (t : FileTree) (l : Location) : Option Entry := if l.isEmpty then some (.directory 0) else t.entries.lookup l

/-- Follows names from a location; every name but the last has to lead through directories. -/
def follow (t : FileTree) (l : Location) : List String → Except Obstacle Location
  | [] => .ok l
  | name :: rest =>
    match t.entry? l with
    | none => .error .missing
    | some (.file ..) => .error .notDirectory
    | some (.directory _) => t.follow (if name = ".." then l.dropLast else l ++ [name]) rest

def locate (t : FileTree) (p : Path) : Except Obstacle Location :=
  t.follow (if p.isAbsolute then [] else t.home) p.parts

def at? (t : FileTree) (p : Path) : Option Entry := (t.locate p).toOption.bind t.entry?

def isPresent (t : FileTree) (p : Path) : Bool := (t.at? p).isSome

def isDirectory (t : FileTree) (p : Path) : Bool := (t.at? p).any Entry.isDirectory

def isFile (t : FileTree) (p : Path) : Bool := (t.at? p).any (!·.isDirectory)

def children (t : FileTree) (p : Path) : List (String × Entry) :=
  match t.locate p with
  | .error _ => []
  | .ok l => t.entries.filterMap fun (m, e) =>
      match m.getLast? with
      | some name => if m = l ++ [name] then some (name, e) else none
      | none => none

def directoriesFrom (t : FileTree) (p : Path) : List Path :=
  match t.locate p with
  | .error _ => []
  | .ok l => p :: t.entries.filterMap fun (m, e) =>
      if e.isDirectory && l.isPrefixOf m && l.length < m.length then
        some { p with parts := p.parts ++ m.drop l.length }
      else none

def read (t : FileTree) (p : Path) : Except FileFault Content :=
  match t.locate p with
  | .error o => .error { obstacle := o, path := p }
  | .ok l => match t.entry? l with
    | none => .error { obstacle := .missing, path := p }
    | some (.directory _) => .error { obstacle := .isDirectory, path := p }
    | some (.file c _) => .ok c

def readExactly (t : FileTree) (p : Path) : Except ReadFault String :=
  match t.read p with
  | .error f => .error (.file f)
  | .ok (.text s) => .ok s
  | .ok (.broken f) => .error (.encoding f)

def readText (t : FileTree) (p : Path) : Except ReadFault String := (onChars unifyNewlines) <$> t.readExactly p

/-! ## Changing -/

def putEntry (l : Location) (e : Entry) : List (Location × Entry) → List (Location × Entry)
  | [] => [(l, e)]
  | (m, old) :: rest => if m = l then (m, e) :: rest else (m, old) :: putEntry l e rest

def put (t : FileTree) (l : Location) (make : Nat → Entry) : FileTree :=
  { t with entries := putEntry l (make t.clock) t.entries, clock := t.clock + 1 }

def erase (t : FileTree) (l : Location) : FileTree := { t with entries := t.entries.filter (·.1 != l) }

def ensureDirectory (t : FileTree) (p : Path) : Except FileFault FileTree :=
  match t.locate p with
  | .error o => .error { obstacle := o, path := p }
  | .ok l => match t.entry? l with
    | none => .ok (t.put l .directory)
    | some (.directory _) => .ok t
    | some (.file ..) => .error { obstacle := .present, path := p }

/-- Adds a directory and those around it, given its names from the innermost out. -/
def makeDirectoriesFrom (root : String) : List String → FileTree → Except FileFault FileTree
  | [], t => t.ensureDirectory ⟨root, []⟩
  | name :: outer, t =>
    let p : Path := ⟨root, (name :: outer).reverse⟩
    match t.ensureDirectory p with
    | .ok t => .ok t
    | .error f =>
      if f.obstacle = .missing then (makeDirectoriesFrom root outer t).bind (·.ensureDirectory p) else .error f

def makeDirectories (t : FileTree) (p : Path) : Except FileFault FileTree :=
  makeDirectoriesFrom p.root p.parts.reverse t

def write (t : FileTree) (p : Path) (c : Content) : Except FileFault FileTree :=
  match t.locate p with
  | .error o => .error { obstacle := o, path := p }
  | .ok l => if (t.entry? l).any Entry.isDirectory then .error { obstacle := .isDirectory, path := p }
    else .ok (t.put l (.file c))

def append (t : FileTree) (p : Path) (s : String) : Except FileFault FileTree :=
  match t.read p with
  | .error f => .error f
  | .ok (.text old) => t.write p (.text (old ++ s))
  | .ok (.broken f) => t.write p (.broken f)

def create (t : FileTree) (p : Path) (c : Content) : Except FileFault FileTree :=
  match t.locate p with
  | .error o => .error { obstacle := o, path := p }
  | .ok l => if (t.entry? l).isSome then .error { obstacle := .present, path := p } else .ok (t.put l (.file c))

def rename (t : FileTree) (source target : Path) : Except FileFault FileTree :=
  let fault (o : Obstacle) : Except FileFault FileTree := .error ⟨o, source, some target⟩
  match t.locate source, t.locate target with
  | .ok l, .ok m => match t.entry? l, t.entry? m with
    | some (.file c changed), some (.file ..) | some (.file c changed), none =>
      .ok { t with entries := putEntry m (.file c changed) ((t.erase l).entries) }
    | some (.file ..), some (.directory _) => fault .isDirectory
    | some (.directory _), _ => fault .isDirectory
    | none, _ => fault .missing
  | .error o, _ => fault o
  | _, .error o => fault o

def setChanged (t : FileTree) (p : Path) (time : Nat) : FileTree :=
  match t.locate p with
  | .error _ => t
  | .ok l => { t with entries := t.entries.map fun (m, e) => (m, if m = l then
      (match e with
        | .file c _ => .file c time
        | .directory _ => .directory time) else e) }

def filesBelow (t : FileTree) (l : Location) : List String :=
  sortTexts (t.entries.filterMap fun (m, e) =>
    if !e.isDirectory && l.isPrefixOf m && l.length < m.length then some (joinWith "/" (m.drop l.length)) else none)

end FileTree

end SchemaConcord
