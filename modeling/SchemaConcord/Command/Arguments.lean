import SchemaConcord.Text.Class
import SchemaConcord.Text.Edit

/-!
# Arguments

The arguments of the program: switches, a command, and switches of the command. A switch may be shortened as long as
it is the only one that starts so, one-letter switches may be written together, and a value follows its switch or an
equals sign. Nothing is a switch behind two dashes. An argument that nobody knows is refused at the end, so that a
request for help before the end is heard.
-/

namespace SchemaConcord

open Text

inductive Command where
  | detect | baseline | routes | forms | health
  deriving DecidableEq, Repr

inductive Switch where
  | help | config | verbose | strict | suggest
  deriving DecidableEq, Repr

structure Invocation where
  command : Command
  config : Option String := none
  verbose : Bool := false
  strict : Bool := false
  suggest : Bool := false
  deriving DecidableEq, Repr

/-- What becomes of arguments: an invocation, a request for help, or a refusal. -/
inductive Request where
  | invoke (i : Invocation)
  | help
  | refused
  deriving DecidableEq, Repr

namespace Command

def word : Command → String
  | .detect => "detect"
  | .baseline => "baseline"
  | .routes => "routes"
  | .forms => "forms"
  | .health => "health"

def all : List Command := [.detect, .baseline, .routes, .forms, .health]

def ofWord? (s : String) : Option Command := all.find? (·.word = s)

end Command

abbrev SwitchTable := List (String × Switch)

def mainSwitches : SwitchTable :=
  [("-h", .help), ("--help", .help), ("--config", .config), ("--verbose", .verbose), ("-v", .verbose)]

def Command.switches : Command → SwitchTable
  | .routes => [("-h", .help), ("--help", .help), ("--strict", .strict)]
  | .forms => [("-h", .help), ("--help", .help), ("--suggest", .suggest)]
  | _ => [("-h", .help), ("--help", .help)]

/-! ## Reading one argument -/

/-- What is written behind a switch in the same argument: nothing, a text, or a text behind an equals sign. -/
inductive Attached where
  | nothing
  | direct (cs : List Char)
  | equated (cs : List Char)
  deriving DecidableEq, Repr

inductive Reading where
  | plain
  | unknown
  | ambiguous
  | switch (s : Switch) (long : Bool) (attached : Attached)
  deriving DecidableEq, Repr

/-- Digits behind a dash, or digits behind a dash with one point before the last of them. -/
def isNegativeNumber (cs : List Char) : Bool :=
  let cs := if cs.getLast? = some '\n' then cs.dropLast else cs
  match cs with
  | '-' :: rest =>
    let tail := rest.dropWhile isDecimal
    (tail.isEmpty && !rest.isEmpty) || match tail with
      | '.' :: more => !more.isEmpty && more.all isDecimal
      | _ => false
  | _ => false

def readBeginning (table : SwitchTable) (arg head : String) (attached : Attached) : Reading :=
  match table.filter fun (spelling, _) => hasHead spelling head with
  | [] => if isNegativeNumber arg.toList || arg.toList.contains ' ' then .plain else .unknown
  | [(_, s)] => .switch s true attached
  | _ => .ambiguous

def readArgument (table : SwitchTable) (arg : String) : Reading :=
  let cs := arg.toList
  let head := String.ofList (cs.takeWhile (· != '='))
  let attached : Attached := match cs.dropWhile (· != '=') with
    | _ :: value => .equated value
    | [] => .nothing
  match cs with
  | '-' :: second :: more =>
    let long := second == '-'
    match table.lookup arg, table.lookup head with
    | some s, _ => .switch s long .nothing
    | none, some s => .switch s long attached
    | none, none =>
      if long then readBeginning table arg head attached
      else match table.lookup (String.ofList ['-', second]) with
        | some s => .switch s false (.direct more)
        | none => readBeginning table arg arg .nothing
  | _ => .plain

/-- Switches that are written together: all of them, and whether something unknown comes behind them. Nothing can be
attached to the last one with an equals sign, nor a dash to any. -/
def spread? (table : SwitchTable) (s : Switch) : List Char → Option (List Switch × Bool)
  | [] => some ([s], false)
  | '-' :: _ => none
  | c :: rest =>
    match table.lookup (String.ofList ['-', c]) with
    | none => some ([s], true)
    | some t =>
      if rest.head? = some '=' then none
      else (spread? table t rest).map fun (l, unknown) => (s :: l, unknown)

/-! ## Reading all arguments -/

structure Draft where
  config : Option String := none
  verbose : Bool := false
  strict : Bool := false
  suggest : Bool := false
  unknown : Bool := false
  deriving DecidableEq, Repr

namespace Draft

def mark (d : Draft) : Switch → Draft
  | .verbose => { d with verbose := true }
  | .strict => { d with strict := true }
  | .suggest => { d with suggest := true }
  | .help | .config => d

def takeAll? (d : Draft) (l : List Switch) (unknown : Bool) : Option Draft :=
  if l.contains .help then none else some { l.foldl mark d with unknown := d.unknown || unknown }

def finish (d : Draft) (c : Command) : Request :=
  if d.unknown then .refused else .invoke ⟨c, d.config, d.verbose, d.strict, d.suggest⟩

end Draft

/-- What a switch without a value does: goes on with a draft, asks for help or is refused. -/
def takeSwitch (table : SwitchTable) (d : Draft) (s : Switch) (long : Bool) (attached : Attached)
    (go : Draft → Request) : Request :=
  let found := match attached with
    | .nothing => some ([s], false)
    | .direct cs => if long then none else spread? table s cs
    | .equated _ => none
  match found with
  | none => .refused
  | some (l, unknown) => match d.takeAll? l unknown with
    | none => .help
    | some d => go d

def Command.readArguments (c : Command) (d : Draft) : List String → Request
  | [] => d.finish c
  | arg :: rest =>
    if arg = "--" then .refused
    else match readArgument c.switches arg with
      | .ambiguous => .refused
      | .plain | .unknown => c.readArguments { d with unknown := true } rest
      | .switch s long attached => takeSwitch c.switches d s long attached fun d => c.readArguments d rest

/-- Reads arguments up to the command; the command and the value of a switch cannot stand behind two dashes. -/
def readMain (d : Draft) : List String → Request
  | [] => .refused
  | arg :: rest =>
    if arg = "--" then .refused
    else match readArgument mainSwitches arg with
      | .ambiguous => .refused
      | .plain => match Command.ofWord? arg with
        | some c => c.readArguments d rest
        | none => .refused
      | .unknown => readMain { d with unknown := true } rest
      | .switch .config _ .nothing => match rest with
        | [] => .refused
        | value :: more =>
          if value = "--" ∨ readArgument mainSwitches value ≠ .plain then .refused
          else readMain { d with config := some value } more
      | .switch .config _ (.equated cs) | .switch .config _ (.direct cs) =>
        readMain { d with config := some (String.ofList cs) } rest
      | .switch s long attached => takeSwitch mainSwitches d s long attached fun d => readMain d rest

/-- Reads the arguments of the program. One that may mean several switches is refused at once, wherever it stands. -/
def readArguments (args : List String) : Request :=
  if (args.takeWhile (· != "--")).any fun a => readArgument mainSwitches a = .ambiguous then .refused
  else readMain {} args

end SchemaConcord
