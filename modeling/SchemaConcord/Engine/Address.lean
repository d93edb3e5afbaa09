import SchemaConcord.Decimal.Read
import SchemaConcord.Digest.Sha256
import SchemaConcord.Engine.Profile
import SchemaConcord.Text.Percent

/-!
# Database addresses

An address is a database URL taken apart. `parse` reads a URL, `render` writes one with or without the password, and
`DatabaseSettings.address` gives the address that settings stand for. The fingerprint of an address is taken from its
form without the password.
-/

namespace SchemaConcord

open Text

structure Address where
  driver : String
  user : Option String
  password : Option String
  host : Option String
  port : Option Int
  database : Option String
  /-- The parameters, each with its values in order. -/
  parameters : List (String × List String)
  deriving DecidableEq, Repr

namespace Address

/-! ## Writing -/

def writtenPart (hidden : Bool) (a : Address) : String :=
  match a.user with
  | none => ""
  | some user =>
    percentEncode [' ', '+'] user ++ (match a.password with
      | none => ""
      | some p => ":" ++ if hidden then "***" else percentEncode [' ', '+'] p) ++ "@"

def hostPart (a : Address) : String :=
  (match a.host with
    | none => ""
    | some h => if contains h ":" then "[" ++ h ++ "]" else h) ++
  match a.port with
  | none => ""
  | some p => ":" ++ toString p

def parameterPart (a : Address) : String :=
  if a.parameters.isEmpty then ""
  else "?" ++ joinWith "&" ((a.parameters.mergeSort fun x y => textLe x.1 y.1).flatMap fun (name, values) =>
    values.map fun v => formEncode name ++ "=" ++ formEncode v)

/-- The URL of an address; `hidden` puts three stars in the place of the password. -/
def render (hidden : Bool) (a : Address) : String :=
  a.driver ++ "://" ++ writtenPart hidden a ++ a.hostPart ++
    (match a.database with
      | none => ""
      | some d => "/" ++ percentEncode [' ', '+', '/'] d) ++ a.parameterPart

/-! ## Reading -/

/-- The user and the password before an `@`, and the rest. A password starts at the first colon before any slash and
ends at the next `@`; without a colon the user ends at the last `@` before a slash. -/
def splitUser (cs : List Char) : Option (List Char) × Option (List Char) × List Char :=
  let head := cs.takeWhile fun c => c != ':' && c != '/'
  let rest := cs.drop head.length
  let plain := match (splitAt (· == '@') head).reverse with
    | last :: _ :: _ => (some (head.take (head.length - last.length - 1)), none, last ++ rest)
    | _ => (none, none, cs)
  match rest with
  | ':' :: more =>
    match more.dropWhile (· != '@') with
    | _ :: after => (some head, some (more.takeWhile (· != '@')), after)
    | [] => plain
  | _ => plain

/-- A host in brackets: the text up to the last closing bracket before a slash or question mark. -/
def bracketedHost? (cs : List Char) : Option (List Char × List Char) :=
  match cs with
  | '[' :: more =>
    let run := more.takeWhile fun c => c != '/' && c != '?'
    match (splitAt (· == ']') run).reverse with
    | last :: _ :: _ =>
      let host := run.take (run.length - last.length - 1)
      if host.isEmpty then none else some (host, more.drop (host.length + 1))
    | _ => none
  | _ => none

def splitHost (cs : List Char) : Option (List Char) × List Char :=
  match bracketedHost? cs with
  | some (host, rest) => (some host, rest)
  | none =>
    let host := cs.takeWhile fun c => c != '/' && c != ':' && c != '?'
    (if host.isEmpty then none else some host, cs.drop host.length)

def partAfter (mark : Char) (ends : Char → Bool) (cs : List Char) : Option (List Char) × List Char :=
  match cs with
  | c :: rest => if c == mark then (some (rest.takeWhile (!ends ·)), rest.dropWhile (!ends ·)) else (none, cs)
  | [] => (none, [])

def readPort : Option (List Char) → Except UrlFault (Option Int)
  | none => .ok none
  | some [] => .error .portMissing
  | some text =>
    let s := String.ofList text
    match readInteger? s with
    | some n => .ok (some n)
    | none => .error (.portNotWhole s)

def addValue (name value : String) : List (String × List String) → List (String × List String)
  | [] => [(name, [value])]
  | (n, vs) :: rest => if n = name then (n, vs ++ [value]) :: rest else (n, vs) :: addValue name value rest

/-- The name and the value of a parameter; one without a value does not count. -/
def readParameter? (cs : List Char) : Option (String × String) :=
  let plain (l : List Char) := percentDecode (String.ofList (l.map fun c => if c == '+' then ' ' else c))
  match cs.dropWhile (· != '=') with
  | _ :: value => if value.isEmpty then none else some (plain (cs.takeWhile (· != '=')), plain value)
  | [] => none

def readParameters (cs : List Char) : List (String × List String) :=
  ((splitAt (· == '&') cs).filterMap readParameter?).foldl (fun found (n, v) => addValue n v found) []

def parse (driver : String) (cs : List Char) : Except UrlFault Address := do
  let (user, password, rest) := splitUser cs
  let (host, rest) := splitHost rest
  let (port, rest) := partAfter ':' (fun c => c == '/' || c == '?') rest
  let (database, rest) := partAfter '/' (· == '?') rest
  let (query, _) := partAfter '?' (· == '\n') rest
  let decoded (l : Option (List Char)) := l.map fun cs => percentDecode (String.ofList cs)
  return { driver, user := decoded user, password := decoded password, host := host.map String.ofList
           port := ← readPort port, database := decoded database
           parameters := (query.map readParameters).getD [] }

def withDefaults (defaults : List (String × String)) (a : Address) : Address :=
  { a with parameters := a.parameters ++
      (defaults.filter fun d => !(a.parameters.any (·.1 = d.1))).map fun (n, v) => (n, [v]) }

def fingerprint (a : Address) : String := Sha256.hexDigest (encode (a.render true).toList)

end Address

def passwordPlaceholder : String := "[YOUR-PASSWORD]"

namespace DatabaseSettings

def profile (s : DatabaseSettings) : EngineProfile := s.engine.profile

def filled (s : Option String) : Option String := s.filter (!·.isEmpty)

def filledUrl (s : DatabaseSettings) (raw : String) : String :=
  match filled s.dbPassword with
  | some p => replaceText passwordPlaceholder (percentEncode [] p) raw
  | none => raw

def urlAddress (s : DatabaseSettings) (raw : String) : Except UrlFault Address := do
  let url ← s.profile.normalizeUrl (s.filledUrl raw)
  Address.parse s.profile.driver (url.toList.drop (s.profile.driver.length + 3))

/-- The address made of the single settings; a SQLite database without a name is in memory. -/
def partsAddress (s : DatabaseSettings) : Address :=
  if s.engine = .sqlite then
    ⟨s.profile.driver, none, none, none, none, some (if s.database.isEmpty then ":memory:" else s.database), []⟩
  else
    { driver := s.profile.driver
      user := s.username
      password := filled s.password <|> s.dbPassword
      host := some s.host
      port := (s.port.filter (· != 0)) <|> s.profile.port
      database := filled (some s.database)
      parameters := [] }

def defaultParameters (s : DatabaseSettings) : List (String × String) :=
  s.profile.parameters ++ match s.profile.encryption with
    | .parameter name value => if s.ssl then [(name, value)] else []
    | _ => []

/-- The address that settings stand for: of the URL when there is one, else of the single settings. -/
def address (s : DatabaseSettings) : Except UrlFault Address := do
  let a ← match filled s.url with
    | some raw => s.urlAddress raw
    | none => .ok s.partsAddress
  return a.withDefaults s.defaultParameters

end DatabaseSettings

end SchemaConcord
