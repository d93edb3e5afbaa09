import SchemaConcord.Decimal.Read
import SchemaConcord.Text.Percent
import SchemaConcord.Text.Quoted

/-!
# Web addresses

The address that a webhook is called at. `WebAddress.parse` takes a text apart into scheme, host, path and query and
refuses what cannot be an address: a host that is written in numbers or in brackets has to be the address of a
machine, and a port a whole number. An address without scheme or host is relative.
-/

namespace SchemaConcord

open Text

inductive WebAddressFault where
  | tooLong
  | unprintable (c : Char) (position : Nat)
  | port (text : String)
  | numberedHost (host : String)
  | bracketedHost (host : String)
  | leadingSlashes
  | leadingColon
  deriving DecidableEq, Repr

def WebAddressFault.message : WebAddressFault → String
  | .tooLong => "URL too long"
  | .unprintable c n => "Invalid non-printable ASCII character in URL, " ++ quoted (String.singleton c) ++
      " at position " ++ toString n ++ "."
  | .port s => "Invalid port: " ++ quoted s
  | .numberedHost h => "Invalid IPv4 address: " ++ quoted h
  | .bracketedHost h => "Invalid IPv6 address: " ++ quoted h
  | .leadingSlashes => "Relative URLs cannot have a path starting with '//'"
  | .leadingColon => "Relative URLs cannot have a path starting with ':'"

structure WebAddress where
  scheme : String
  host : String
  path : String
  query : Option String
  deriving DecidableEq, Repr

/-! ## Addresses of machines -/

namespace MachineAddress

def isOctet (cs : List Char) : Bool :=
  !cs.isEmpty && cs.all isAsciiDigit && cs.length ≤ 3 && (cs == ['0'] || cs.head? != some '0') &&
    natOfDigits cs ≤ 255

def isQuad (cs : List Char) : Bool :=
  let parts := splitAt (· == '.') cs
  parts.length == 4 && parts.all isOctet

def isGroup (cs : List Char) : Bool := !cs.isEmpty && cs.length ≤ 4 && cs.all fun c => (hexValue? c).isSome

/-- The groups of an address; a quad at its end stands for two of them. -/
def groups (cs : List Char) : List (List Char) :=
  let parts := splitAt (· == ':') cs
  match parts.getLast? with
  | some last => if isQuad last then parts.dropLast ++ [['0'], ['0']] else parts
  | none => parts

def side (parts : List (List Char)) : List (List Char) := if parts = [[]] then [] else parts

def isGrouped (parts : List (List Char)) : Bool :=
  match ((parts.drop 1).dropLast).findIdx? List.isEmpty with
  | none => parts.length == 8 && parts.all isGroup
  | some i =>
    let before := side (parts.take (i + 1))
    let after := side (parts.drop (i + 2))
    before.all isGroup && after.all isGroup && before.length + after.length ≤ 7

/-- An address in groups, with the name of a zone behind a percent sign if there is one. -/
def isZoned (cs : List Char) : Bool :=
  match splitAt (· == '%') cs with
  | [address] => isGrouped (groups address)
  | [address, zone] => !zone.isEmpty && isGrouped (groups address)
  | _ => false

/-- Where a text may stand in four runs of digits with any one character between two of them: the number of the run
and whether it has a digit. -/
abbrev RunState := Nat × Bool

def runStep (states : List RunState) (c : Char) : List RunState :=
  (states.flatMap fun (n, begun) =>
    (if isAsciiDigit c then [(n, true)] else []) ++ if begun && n < 3 then [(n + 1, false)] else []).eraseDups

/-- Whether a text is written in numbers, the way the address of a machine is. -/
def isNumbered (cs : List Char) : Bool := (cs.foldl runStep [(0, false)]).contains (3, true)

end MachineAddress

namespace WebAddress

/-! ## Parts of an address -/

def isSchemePart (c : Char) : Bool := isAsciiLetter c || isAsciiDigit c || ['+', '.', '-'].contains c

def splitScheme (cs : List Char) : List Char × List Char :=
  let run := if (cs.head?.map isAsciiLetter).getD false then cs.takeWhile isSchemePart else []
  match cs.drop run.length with
  | ':' :: rest => (run, rest)
  | _ => ([], cs)

def splitAuthority : List Char → List Char × List Char
  | '/' :: '/' :: rest =>
    let ends (c : Char) : Bool := c == '/' || c == '?' || c == '#'
    (rest.takeWhile (!ends ·), rest.dropWhile (!ends ·))
  | cs => ([], cs)

def splitUser (cs : List Char) : List Char × List Char :=
  match (splitAt (· == '@') cs).reverse with
  | last :: _ :: _ => (cs.take (cs.length - last.length - 1), last)
  | _ => ([], cs)

/-- A host, in brackets up to the last closing one, and the text of the port. -/
def splitHost (cs : List Char) : List Char × List Char :=
  let plain := cs.takeWhile (· != ':')
  let host := match cs, (splitAt (· == ']') cs).reverse with
    | '[' :: _, last :: _ :: _ => cs.take (cs.length - last.length)
    | _, _ => plain
  (host, match cs.drop host.length with
    | ':' :: port => port
    | port => port)

def checkHost (host : List Char) : Except WebAddressFault Unit :=
  if MachineAddress.isNumbered host then
    if MachineAddress.isQuad host then .ok () else .error (.numberedHost (String.ofList host))
  else if host.head? = some '[' ∧ host.getLast? = some ']' then
    if MachineAddress.isZoned (host.drop 1).dropLast then .ok () else .error (.bracketedHost (String.ofList host))
  else .ok ()

def checkPort (port : List Char) : Except WebAddressFault Unit :=
  let s := String.ofList port
  if s.isEmpty || (readInteger? s).isSome then .ok () else .error (.port s)

/-- A path without the parts that mean "here" and, with the part before them, "up". -/
def withoutDots (path : List Char) : List Char :=
  let walked := (splitAt (· == '/') path).foldl (fun found part =>
    if part == ['.'] then found
    else if part == ['.', '.'] then (if found.isEmpty || found == [[]] then found else found.dropLast)
    else found ++ [part]) []
  List.intercalate ['/'] walked

def querySafe : List Char := "!$%&'()*+,/:;=?@[]\\^`\x7b|\x7d".toList

def pathSafe : List Char := "!$%&'()*+,/:;=@[]\\^|".toList

def maxLength : Nat := 65536

def parseParts (cs : List Char) : Except WebAddressFault WebAddress := do
  let (scheme, rest) := splitScheme cs
  let (authority, rest) := splitAuthority rest
  let path := rest.takeWhile fun c => c != '?' && c != '#'
  let query := match rest.drop path.length with
    | '?' :: more => some (more.takeWhile (· != '#'))
    | _ => none
  let (user, place) := splitUser authority
  let (host, port) := splitHost place
  checkHost host
  checkPort port
  let anchored := !(scheme.isEmpty && user.isEmpty && host.isEmpty && port.isEmpty)
  if !anchored && ['/', '/'].isPrefixOf path then throw .leadingSlashes
  if !anchored && path.head? = some ':' then throw .leadingColon
  let path := if anchored then withoutDots path else path
  return { scheme := String.ofList scheme, host := String.ofList host
           path := percentEncode pathSafe (String.ofList path)
           query := query.map fun q => percentEncode querySafe (String.ofList q) }

def parse (s : String) : Except WebAddressFault WebAddress :=
  let cs := s.toList
  if maxLength < cs.length then .error .tooLong
  else match cs.findIdx? fun c => isAscii c && !isPrintable c with
    | some i => .error (.unprintable (cs.getD i ' ') i)
    | none => parseParts cs

def isAbsolute (a : WebAddress) : Bool := !a.scheme.isEmpty && !a.host.isEmpty

def target (a : WebAddress) : String :=
  let whole := a.path ++ match a.query with
    | some q => "?" ++ q
    | none => ""
  "/" ++ onChars (·.dropWhile (· == '/')) whole

end WebAddress

end SchemaConcord
