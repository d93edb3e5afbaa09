import SchemaConcord.Source.Interpolation
import SchemaConcord.Source.Lexer
import SchemaConcord.Source.Parser

/-!
# Expressions

The grammar of expressions, one definition a construct. Each takes the parser of the expressions inside it, by the
`Rule` they follow; `Rule.parse` ties the knot, its fuel bounding how deep expressions nest.
-/

namespace SchemaConcord.Source

open Parser

inductive Rule where
  | expression | disjunction | inversion | bitwiseOr | factor
  deriving DecidableEq, Repr

/-- What a construct is parsed with: expressions by rule, and the expression in a text of its own. -/
structure Inner where
  rule : Rule → Parser Node
  text? : List Char → Option Node

namespace Inner

variable (p : Inner)

def expression : Parser Node := p.rule .expression

/-! ## Sequences of expressions -/

def named : Parser Node := do
  match ← peekTwo with
  | (some (.name x), some (.op ":=")) =>
    skip
    skip
    return .other [.name x, ← p.expression]
  | _ => p.expression

def starNamed : Parser Node := do
  if ← acceptOp "*" then return .starred (← p.rule .bitwiseOr) else p.named

def starred : Parser Node := do
  if ← acceptOp "*" then return .starred (← p.rule .bitwiseOr) else p.expression

def sequenceStops : Parser Bool := do
  match ← peek with
  | none => return true
  | some .newline => return true
  | some (.op s) => return [")", "]", "\x7d", "=", ":", ";"].contains s || s.endsWith "="
  | some (.keyword s) => return s == "in"
  | _ => return false

/-- Expressions with commas between them; with a comma they make a tuple. -/
def starExpressions : Parser Node := do
  let (items, comma) ← separated p.starred "," sequenceStops
  match items, comma with
  | [n], false => return n
  | _, _ => return .sequence .tuple items

def yielded : Parser Node := do
  expectWord "yield"
  if ← acceptWord "from" then return .other [← p.expression]
  if ← sequenceStops then return .other []
  return .other [← p.starExpressions]

/-! ## Primaries -/

def target (primary : Parser Node) : Parser Node := do
  let star ← acceptOp "*"
  let n ← primary
  if n.isTarget then return if star then .starred n else n else fail

def targets (primary : Parser Node) : Parser Node := do
  let (items, comma) ← separated (target primary) "," sequenceStops
  match items, comma with
  | [n], false => return n
  | _, _ => return .sequence .tuple items

def clauses (primary : Parser Node) : Parser (List Node) := do
  let found ← repeated do
    let async ← acceptWord "async"
    if ← acceptWord "for" then
      let t ← targets primary
      expectWord "in"
      let source ← p.rule .disjunction
      let conditions ← repeated do
        if ← acceptWord "if" then return some (← p.rule .disjunction) else return none
      return some (Node.other (t :: source :: conditions))
    if async then fail else return none
  if found.isEmpty then fail else return found

def clauseFollows : Parser Bool := do return (← nextIsWord "for") || (← nextIsWord "async")

def isStarred : Node → Bool
  | .starred _ => true
  | _ => false

/-- The rest of a bracketed sequence after its first item: the other items, and whether there is a comma. -/
def moreItems (item : Parser α) (closing : String) : Parser (List α × Bool) := do
  let rest ← repeated do
    if ← acceptOp "," then
      if ← nextIsOp closing then return some none
      return some (some (← item))
    return none
  expectOp closing
  return (rest.filterMap id, !rest.isEmpty)

/-- What an opening parenthesis begins: the empty tuple, a group, a tuple or a generator. -/
def parenthesized (primary : Parser Node) : Parser Node := do
  if ← acceptOp ")" then return .sequence .tuple []
  if ← nextIsWord "yield" then
    let n ← p.yielded
    expectOp ")"
    return n
  let first ← p.starNamed
  if ← clauseFollows then
    if isStarred first then fail
    let cs ← p.clauses primary
    expectOp ")"
    return .other (first :: cs)
  let (rest, comma) ← moreItems p.starNamed ")"
  if comma then return .sequence .tuple (first :: rest)
  if isStarred first then fail else return first

/-- What an opening square bracket begins: a list or a list comprehension. -/
def bracketed (primary : Parser Node) : Parser Node := do
  if ← acceptOp "]" then return .sequence .list []
  let first ← p.starNamed
  if ← clauseFollows then
    if isStarred first then fail
    let cs ← p.clauses primary
    expectOp "]"
    return .other (first :: cs)
  let (rest, _) ← moreItems p.starNamed "]"
  return .sequence .list (first :: rest)

/-- An entry of a dictionary: key and value, or a mapping that is spread. -/
def entry : Parser (Option Node × Node) := do
  if ← acceptOp "**" then return (none, ← p.rule .bitwiseOr)
  let k ← p.expression
  expectOp ":"
  return (some k, ← p.expression)

def entries (first : Option Node × Node) : Parser Node := do
  let rest ← repeated do
    if ← acceptOp "," then
      if ← nextIsOp "\x7d" then return some none
      return some (some (← p.entry))
    return none
  expectOp "\x7d"
  let all := first :: rest.filterMap id
  return .dict (all.filterMap (·.1)) (all.map (·.2))

/-- What an opening brace begins: a dictionary, a set or one of their comprehensions. -/
def braced (primary : Parser Node) : Parser Node := do
  if ← acceptOp "\x7d" then return .dict [] []
  let setFrom (first : Node) : Parser Node := do
    if ← clauseFollows then
      if isStarred first then fail
      let cs ← p.clauses primary
      expectOp "\x7d"
      return .other (first :: cs)
    let (rest, _) ← moreItems p.starNamed "\x7d"
    return .sequence .set (first :: rest)
  if ← nextIsOp "**" then p.entries (← p.entry)
  else if ← nextIsOp "*" then setFrom (← p.starNamed)
  else match ← peekTwo with
    | (some (.name _), some (.op ":=")) => setFrom (← p.named)
    | _ =>
      let first ← p.expression
      if ← acceptOp ":" then
        let value ← p.expression
        if ← clauseFollows then
          let cs ← p.clauses primary
          expectOp "\x7d"
          return .other (first :: value :: cs)
        p.entries (some first, value)
      else setFrom first

/-- Neighbouring string literals as one string; byte literals stand only beside byte literals. -/
def literals : Parser Node := do
  let found ← repeated do
    match ← peek with
    | some (.literal b r f body) =>
      skip
      return some (b, r, f, body)
    | _ => return none
  if found.all (·.1) then
    if found.all fun (_, r, _, body) => isByteBody r 0 body then return .other [] else fail
  else if found.any (·.1) then fail
  else
    let pieces ← found.mapM fun (_, r, f, body) =>
      if f then StateT.lift (interpolate? p.text? r body)
      else StateT.lift ((unescape? r body).map fun cs => [Piece.text cs])
    let parts := partsFrom [] pieces.flatten
    if found.any (·.2.2.1) then return .interpolated parts
    match parts with
    | [n] => return n
    | _ => return .string ""

def atom (primary : Parser Node) : Parser Node := do
  match ← peek with
  | some (.name x) =>
    skip
    return .name x
  | some (.number v) =>
    skip
    return v.elim (.other []) .integer
  | some (.keyword "True") =>
    skip
    return .integer 1
  | some (.keyword "False") =>
    skip
    return .integer 0
  | some (.keyword "None") =>
    skip
    return .other []
  | some (.op "...") =>
    skip
    return .other []
  | some (.op "(") =>
    skip
    p.parenthesized primary
  | some (.op "[") =>
    skip
    p.bracketed primary
  | some (.op "\x7b") =>
    skip
    p.braced primary
  | some (.literal _ _ _ _) => p.literals
  | _ => fail

/-! ## Calls and subscripts -/

inductive Argument where
  | positional (n : Node)
  | spread (n : Node)
  | named (n : Node)
  | mapping (n : Node)

def argument : Parser Argument := do
  if ← acceptOp "*" then return .spread (.starred (← p.expression))
  if ← acceptOp "**" then return .mapping (.keyword none (← p.expression))
  match ← peekTwo with
  | (some (.name x), some (.op "=")) =>
    skip
    skip
    return .named (.keyword (some x) (← p.expression))
  | _ => return .positional (← p.named)

/-- Positional arguments come before named ones, and no sequence is spread after a mapping. -/
def ordered : List Argument → Bool
  | [] => true
  | .positional _ :: rest | .spread _ :: rest => ordered rest
  | .named _ :: rest => noPositional rest
  | .mapping _ :: rest => noSpread rest
where
  noPositional : List Argument → Bool
    | [] => true
    | .positional _ :: _ => false
    | .spread _ :: rest | .named _ :: rest => noPositional rest
    | .mapping _ :: rest => noSpread rest
  noSpread : List Argument → Bool
    | [] => true
    | .positional _ :: _ | .spread _ :: _ => false
    | .named _ :: rest | .mapping _ :: rest => noSpread rest

def splitArguments (found : List Argument) : Parser (List Node × List Node) :=
  if ordered found then
    return (found.filterMap fun
      | .positional n | .spread n => some n
      | _ => none,
    found.filterMap fun
      | .named n | .mapping n => some n
      | _ => none)
  else fail

def arguments : Parser (List Node × List Node) := do
  if ← acceptOp ")" then return ([], [])
  let (found, _) ← separated p.argument "," (nextIsOp ")")
  expectOp ")"
  splitArguments found

/-- Arguments of a call; a lone generator needs no parentheses of its own. -/
def callArguments (primary : Parser Node) : Parser (List Node × List Node) := do
  if ← acceptOp ")" then return ([], [])
  let first ← p.argument
  match first, ← clauseFollows with
  | .positional n, true =>
    let cs ← p.clauses primary
    expectOp ")"
    return ([.other (n :: cs)], [])
  | _, _ =>
    let (rest, _) ← moreItems p.argument ")"
    splitArguments (first :: rest)

/-- A part of a subscript: an expression, a spread one, or a range. -/
def slice : Parser Node := do
  if ← acceptOp "*" then return .starred (← p.expression)
  match ← peekTwo with
  | (some (.name _), some (.op ":=")) => p.named
  | _ =>
    let low ← if ← nextIsOp ":" then pure none else some <$> p.expression
    if ← acceptOp ":" then
      let bound : Parser (Option Node) := do
        if (← nextIsOp ":") || (← nextIsOp ",") || (← nextIsOp "]") then return none
        return some (← p.expression)
      let high ← bound
      let step ← if ← acceptOp ":" then bound else pure none
      return .other ([low, high, step].filterMap id)
    match low with
    | some n => return n
    | none => fail

def slices : Parser Node := do
  let (items, comma) ← separated p.slice "," (nextIsOp "]")
  expectOp "]"
  match items, comma with
  | [n], false => return if isStarred n then .sequence .tuple [n] else n
  | _, _ => return .sequence .tuple items

/-- An atom with attributes, calls and subscripts after it; `fuel` bounds how deep targets nest. -/
def primaryFrom : Nat → Parser Node
  | 0 => fail
  | fuel + 1 => do
    let inner := primaryFrom fuel
    let first ← p.atom inner
    extended first fun n => do
      if ← acceptOp "." then return some (.attribute n (← identifier))
      if ← acceptOp "(" then
        let (args, keywords) ← p.callArguments inner
        return some (.call n args keywords)
      if ← acceptOp "[" then return some (.subscript n (← p.slices))
      return none

def primary : Parser Node := fun ts => p.primaryFrom (ts.length + 1) ts

/-! ## Operators -/

def awaited : Parser Node := do
  if ← acceptWord "await" then return .other [← p.primary] else p.primary

def power : Parser Node := do
  let base ← p.awaited
  if ← acceptOp "**" then return .other [base, ← p.rule .factor] else return base

def factor : Parser Node := do
  if (← acceptOp "+") || (← acceptOp "-") || (← acceptOp "~") then return .other [← p.rule .factor]
  p.power

/-- Operands with operators of one level between them, grouped from the left. -/
def chain (operand : Parser Node) (ops : List String) : Parser Node := do
  let first ← operand
  extended first fun n => do
    match ← peek with
    | some (.op s) =>
      if ops.contains s then
        skip
        let right ← operand
        return some (if s == "+" then .sum n right else .other [n, right])
      return none
    | _ => return none

def term : Parser Node := chain p.factor ["*", "/", "//", "%", "@"]

def arithmetic : Parser Node := chain p.term ["+", "-"]

def shift : Parser Node := chain p.arithmetic ["<<", ">>"]

def bitwiseAnd : Parser Node := chain p.shift ["&"]

def bitwiseXor : Parser Node := chain p.bitwiseAnd ["^"]

def bitwiseOr : Parser Node := chain p.bitwiseXor ["|"]

def comparisonOp : Parser Bool := do
  match ← peekTwo with
  | (some (.op s), _) =>
    if ["==", "!=", "<", "<=", ">", ">="].contains s then
      skip
      return true
    return false
  | (some (.keyword "in"), _) =>
    skip
    return true
  | (some (.keyword "not"), some (.keyword "in")) =>
    skip
    skip
    return true
  | (some (.keyword "is"), next) =>
    skip
    if isWord "not" next then skip
    return true
  | _ => return false

def comparison : Parser Node := do
  let first ← p.bitwiseOr
  let rest ← repeated do
    if ← comparisonOp then return some (← p.bitwiseOr) else return none
  return if rest.isEmpty then first else .other (first :: rest)

def inversion : Parser Node := do
  if ← acceptWord "not" then return .other [← p.rule .inversion] else p.comparison

def joined (operand : Parser Node) (word : String) : Parser Node := do
  let first ← operand
  let rest ← repeated do
    if ← acceptWord word then return some (← operand) else return none
  return if rest.isEmpty then first else .other (first :: rest)

def conjunction : Parser Node := joined p.inversion "and"

def disjunction : Parser Node := joined p.conjunction "or"

/-! ## Parameters -/

inductive Parameter where
  | plain (n : Node) (default : Option Node)
  | slash
  | star (n : Option Node)
  | mapping (n : Node)

def annotation (annotated starAllowed : Bool) : Parser (List Node) := do
  if annotated then
    if ← acceptOp ":" then
      if starAllowed then return [← p.starred] else return [← p.expression]
  return []

def parameter (annotated : Bool) : Parser Parameter := do
  if ← acceptOp "/" then return .slash
  if ← acceptOp "**" then
    let _ ← identifier
    return .mapping (.other (← p.annotation annotated false))
  if ← acceptOp "*" then
    match ← peek with
    | some (.name _) =>
      skip
      return .star (some (.other (← p.annotation annotated true)))
    | _ => return .star none
  let _ ← identifier
  let n := Node.other (← p.annotation annotated false)
  if ← acceptOp "=" then return .plain n (some (← p.expression)) else return .plain n none

structure Parameters where
  plain : List Node := []
  defaults : List Node := []
  slash : Bool := false
  star : Bool := false
  spread : Option Node := none
  keywordOnly : List Node := []
  keywordDefaults : List Node := []
  mapping : Option Node := none

def Parameters.node (s : Parameters) : Node :=
  .other (s.plain ++ s.spread.toList ++ s.keywordOnly ++ s.keywordDefaults ++ s.mapping.toList ++ s.defaults)

/-- Adds the parameters one after the other, or fails on one that may not stand where it stands. A bare star has to
have a parameter right after it. -/
def collect (s : Parameters) : List Parameter → Option Parameters
  | [] => some s
  | .plain n default :: rest =>
    if s.mapping.isSome then none
    else if s.star then
      collect { s with keywordOnly := s.keywordOnly ++ [n], keywordDefaults := s.keywordDefaults ++ default.toList } rest
    else match default with
      | some d => collect { s with plain := s.plain ++ [n], defaults := s.defaults ++ [d] } rest
      | none => if s.defaults.isEmpty then collect { s with plain := s.plain ++ [n] } rest else none
  | .slash :: rest =>
    if s.slash || s.star || s.plain.isEmpty || s.mapping.isSome then none else collect { s with slash := true } rest
  | .star (some n) :: rest =>
    if s.star || s.mapping.isSome then none else collect { s with star := true, spread := some n } rest
  | .star none :: rest =>
    if s.star || s.mapping.isSome then none
    else match rest with
      | .plain _ _ :: _ => collect { s with star := true } rest
      | _ => none
  | .mapping n :: rest => if s.mapping.isSome then none else collect { s with mapping := some n } rest

def parameters (annotated : Bool) (closing : String) : Parser Node := do
  if ← acceptOp closing then return .other []
  let (found, _) ← separated (p.parameter annotated) "," (nextIsOp closing)
  expectOp closing
  match collect {} found with
  | some s => return s.node
  | none => fail

def lambda : Parser Node := do
  expectWord "lambda"
  let ps ← p.parameters false ":"
  return .lambda ps (← p.expression)

/-- A condition between two values, a function without a name, or a plain disjunction. -/
def conditional : Parser Node := do
  if ← nextIsWord "lambda" then p.lambda
  else
    let value ← p.disjunction
    if ← acceptWord "if" then
      let test ← p.disjunction
      expectWord "else"
      return .other [test, value, ← p.expression]
    return value

def step : Rule → Parser Node
  | .expression => p.conditional
  | .disjunction => p.disjunction
  | .inversion => p.inversion
  | .bitwiseOr => p.bitwiseOr
  | .factor => p.factor

end Inner

/-- The expression whose text stands on its own, in parentheses that are not written. -/
def fieldExpression? (starExpressions : Parser Node) (cs : List Char) : Option Node :=
  if cs.all fun c => c == ' ' || c == '\t' || c == '\n' || c.toNat == 12 then none
  else do
    let ts ← tokens? ('(' :: cs ++ [')'])
    let (n, _) ← starExpressions ts
    return n

/-- The parser of a rule; expressions nest at most `fuel` deep. -/
def Rule.parse : Nat → Rule → Parser Node
  | 0, _ => Parser.fail
  | fuel + 1, r =>
    let plain : Inner := ⟨Rule.parse fuel, fun _ => none⟩
    Inner.step ⟨Rule.parse fuel, fieldExpression? plain.starExpressions⟩ r

end SchemaConcord.Source
