import SchemaConcord.Source.Expression

/-!
# Statements

The grammar of statements and of whole sources. A statement parser takes the parser of the blocks inside it;
`blockWithin` ties the knot, its fuel bounding how deep blocks nest. `parse?` reads a whole source as one tree.
-/

namespace SchemaConcord.Source

open Parser

namespace Inner

variable (p : Inner)

/-! ## Simple statements -/

def rightSide : Parser Node := do
  if ← nextIsWord "yield" then p.yielded else p.starExpressions

def augmented : List String :=
  ["+=", "-=", "*=", "@=", "/=", "%=", "&=", "|=", "^=", "<<=", ">>=", "**=", "//="]

/-- The targets and the value of a chain of equals signs, from its first part on. -/
def assignment (first : Node) : Parser Node := do
  let rest ← repeated do
    if ← acceptOp "=" then return some (← p.rightSide) else return none
  let parts := first :: rest
  if (parts.dropLast).all Node.isTarget then return .other parts else fail

def expressionStatement : Parser Node := do
  let first ← p.starExpressions
  match ← peek with
  | some (.op "=") => p.assignment first
  | some (.op ":") =>
    if !first.isSingleTarget then fail
    skip
    let kind ← p.expression
    if ← acceptOp "=" then return .other [first, kind, ← p.rightSide] else return .other [first, kind]
  | some (.op s) =>
    if augmented.contains s then
      if !first.isSingleTarget then fail
      skip
      return .other [first, ← p.rightSide]
    return .other [first]
  | _ => return .other [first]

def statementEnds : Parser Bool := do return (← nextIsOp ";") || (← peek) == some .newline

def dottedName : Parser Unit := do
  let _ ← separated identifier "." (return false)

def otherName : Parser Node := do
  if ← acceptWord "as" then
    let _ ← identifier
  return .other []

def importNames : Parser Node := do
  let (found, _) ← separated (do
    dottedName
    otherName) "," (return false)
  return .other found

def importedName : Parser Node := do
  let _ ← identifier
  otherName

def importFrom : Parser Node := do
  let dots ← repeated do
    if (← acceptOp ".") || (← acceptOp "...") then return some () else return none
  if dots.isEmpty || !(← nextIsWord "import") then dottedName
  expectWord "import"
  if ← acceptOp "*" then return .other [.other []]
  if ← acceptOp "(" then
    let (found, _) ← separated importedName "," (nextIsOp ")")
    expectOp ")"
    return .other found
  let (found, _) ← separated importedName "," (return false)
  return .other found

def deletion : Parser Node := do
  let (found, _) ← separated (do
    let n ← p.primary
    if n.isDeletable then return n else fail) "," statementEnds
  return .other found

def simple : Parser Node := do
  match ← peek with
  | some (.keyword w) =>
    match w with
    | "pass" | "break" | "continue" =>
      skip
      return .other []
    | "return" =>
      skip
      if ← statementEnds then return .other [] else return .other [← p.starExpressions]
    | "raise" =>
      skip
      if ← statementEnds then return .other []
      let n ← p.expression
      if ← acceptWord "from" then return .other [n, ← p.expression] else return .other [n]
    | "global" | "nonlocal" =>
      skip
      let _ ← separated identifier "," (return false)
      return .other []
    | "del" =>
      skip
      p.deletion
    | "yield" => return .other [← p.yielded]
    | "assert" =>
      skip
      let n ← p.expression
      if ← acceptOp "," then return .other [n, ← p.expression] else return .other [n]
    | "import" =>
      skip
      importNames
    | "from" =>
      skip
      importFrom
    | _ => p.expressionStatement
  | _ => p.expressionStatement

def simpleLine : Parser (List Node) := do
  let (found, _) ← separated p.simple ";" (do return (← peek) == some .newline)
  expect .newline
  return found

/-! ## Compound statements -/

section
variable (block : Parser (List Node))

def body : Parser (List Node) := do
  expectOp ":"
  block

def elseBody : Parser (List Node) := do
  if ← acceptWord "else" then body block else return []

/-- The branches of a condition after the first, each nested in the one before. -/
def branches (first : Node × List Node) (others : List (Node × List Node)) (final : List Node) : Node :=
  let nested := others.foldr (fun (test, body) rest => [Node.other (test :: (body ++ rest))]) final
  .other (first.1 :: (first.2 ++ nested))

def condition : Parser Node := do
  expectWord "if"
  let test ← p.named
  let first ← body block
  let others ← repeated do
    if ← acceptWord "elif" then
      let test ← p.named
      return some (test, ← body block)
    return none
  return branches (test, first) others (← elseBody block)

def whileLoop : Parser Node := do
  expectWord "while"
  let test ← p.named
  let inner ← body block
  return .other (test :: (inner ++ (← elseBody block)))

def forLoop : Parser Node := do
  expectWord "for"
  let t ← targets p.primary
  expectWord "in"
  let source ← p.starExpressions
  let inner ← body block
  return .other (t :: source :: (inner ++ (← elseBody block)))

def contextItem : Parser Node := do
  let n ← p.expression
  if ← acceptWord "as" then return .other [n, ← target p.primary] else return .other [n]

/-- The contexts of a with statement, in parentheses of their own or without. -/
def contextItems : Parser (List Node) :=
  (do
    expectOp "("
    let (found, _) ← separated p.contextItem "," (nextIsOp ")")
    expectOp ")"
    if ← nextIsOp ":" then return found else fail) <|>
  (do
    let (found, _) ← separated p.contextItem "," (return false)
    return found)

def withContexts : Parser Node := do
  expectWord "with"
  let found ← p.contextItems
  return .other (found ++ (← body block))

def handler : Parser (Bool × Node) := do
  expectWord "except"
  if ← nextIsOp ":" then return (false, .other (← body block))
  let group ← acceptOp "*"
  let kind ← p.expression
  if ← acceptWord "as" then
    let _ ← identifier
  return (group, .other (kind :: (← body block)))

def attempt : Parser Node := do
  expectWord "try"
  let inner ← body block
  let handlers ← repeated do
    if ← nextIsWord "except" then return some (← p.handler block) else return none
  let mixed := handlers.any (·.1) && handlers.any fun h => !h.1
  if mixed then fail
  let other ← if handlers.isEmpty then pure [] else elseBody block
  let ended ← acceptWord "finally"
  if !ended && handlers.isEmpty then fail
  let final ← if ended then body block else pure []
  return .other (inner ++ handlers.map (·.2) ++ other ++ final)

def function (decorators : List Node) : Parser Node := do
  expectWord "def"
  let name ← identifier
  expectOp "("
  let ps ← p.parameters true ")"
  let returns ← if ← acceptOp "->" then some <$> p.expression else pure none
  return .function name ps (← body block) decorators returns.toList

def classDefinition (decorators : List Node) : Parser Node := do
  expectWord "class"
  let _ ← identifier
  let (bases, keywords) ← if ← acceptOp "(" then p.arguments else pure ([], [])
  return .other (bases ++ keywords ++ (← body block) ++ decorators)

def asynchronous (decorators : List Node) : Parser Node := do
  expectWord "async"
  if ← nextIsWord "def" then p.function block decorators
  else if !decorators.isEmpty then fail
  else if ← nextIsWord "with" then p.withContexts block
  else p.forLoop block

def decorated : Parser Node := do
  let decorators ← repeated do
    if ← acceptOp "@" then
      let n ← p.named
      expect .newline
      return some n
    return none
  if ← nextIsWord "class" then p.classDefinition block decorators
  else if ← nextIsWord "async" then p.asynchronous block decorators
  else p.function block decorators

end

/-! ## Patterns -/

def signedNumber : Parser Node := do
  let negative ← acceptOp "-"
  match ← peek with
  | some (.number v) =>
    skip
    let n := v.elim (Node.other []) Node.integer
    return if negative then .other [n] else n
  | _ => fail

def numberPattern : Parser Node := do
  let n ← signedNumber
  let plus ← nextIsOp "+"
  if plus || (← nextIsOp "-") then
    skip
    match ← peek with
    | some (.number none) =>
      skip
      return .other [if plus then .sum n (.other []) else .other [n, .other []]]
    | _ => fail
  return .other [n]

/-- A name with attributes, at least one when `dotted` asks for it. -/
def dottedPattern (first : String) : Parser (Node × Bool) := do
  let rest ← repeated do
    if ← acceptOp "." then return some (← identifier) else return none
  return (rest.foldl .attribute (.name first), !rest.isEmpty)

/-- Arguments of a class pattern: those by position come first. -/
def classArguments (pattern : Parser Node) : Parser (List Node) := do
  if ← acceptOp ")" then return []
  let (found, _) ← separated (do
    match ← peekTwo with
    | (some (.name _), some (.op "=")) =>
      skip
      skip
      return (true, ← pattern)
    | _ => return (false, ← pattern)) "," (nextIsOp ")")
  expectOp ")"
  if (found.dropWhile fun a => !a.1).all (·.1) then return found.map (·.2) else fail

def mappingKey : Parser Node := do
  match ← peek with
  | some (.literal _ _ _ _) => p.literals
  | some (.keyword w) =>
    if ["None", "True", "False"].contains w then
      skip
      return .other []
    fail
  | some (.name x) =>
    skip
    let (n, dotted) ← dottedPattern x
    if dotted then return n else fail
  | _ =>
    match ← numberPattern with
    | .other [n] => return n
    | n => return n

def mappingPattern (pattern : Parser Node) : Parser Node := do
  if ← acceptOp "\x7d" then return .other []
  let (found, _) ← separated (do
    if ← acceptOp "**" then
      let _ ← identifier
      return none
    let k ← p.mappingKey
    expectOp ":"
    return some (k, ← pattern)) "," (nextIsOp "\x7d")
  expectOp "\x7d"
  if found.dropLast.any Option.isNone then fail
  let pairs := found.filterMap id
  return .other (pairs.map (·.1) ++ pairs.map (·.2))

def maybeStar (pattern : Parser Node) : Parser Node := do
  if ← acceptOp "*" then
    let _ ← identifier
    return .other []
  pattern

def sequencePattern (pattern : Parser Node) (closing : String) : Parser Node := do
  if ← acceptOp closing then return .other []
  let star ← nextIsOp "*"
  let first ← maybeStar pattern
  let (rest, comma) ← moreItems (maybeStar pattern) closing
  if closing == ")" && !comma then
    if star then fail else return first
  return .other (first :: rest)

def closedPattern (pattern : Parser Node) : Parser Node := do
  match ← peek with
  | some (.name x) =>
    skip
    let (n, dotted) ← dottedPattern x
    if ← acceptOp "(" then return .other (n :: (← classArguments pattern))
    return if dotted then .other [n] else .other []
  | some (.literal _ _ _ _) => return .other [← p.literals]
  | some (.keyword w) =>
    if ["None", "True", "False"].contains w then
      skip
      return .other []
    fail
  | some (.op "(") =>
    skip
    sequencePattern pattern ")"
  | some (.op "[") =>
    skip
    sequencePattern pattern "]"
  | some (.op "\x7b") =>
    skip
    p.mappingPattern pattern
  | _ => numberPattern

def patternFrom : Nat → Parser Node
  | 0 => fail
  | fuel + 1 => do
    let (found, several) ← separated (p.closedPattern (patternFrom fuel)) "|" (return false)
    let n := match found, several with
      | [n], false => n
      | _, _ => .other found
    if ← acceptWord "as" then
      match ← identifier with
      | "_" => fail
      | _ => if ← nextIsOp "." then fail else return .other [n]
    return n

def pattern : Parser Node := fun ts => p.patternFrom (ts.length + 1) ts

def openPattern : Parser Node := do
  let star ← nextIsOp "*"
  let (found, comma) ← separated (maybeStar p.pattern) "," (do return (← nextIsOp ":") || (← nextIsWord "if"))
  match found, comma with
  | [n], false => if star then fail else return n
  | _, _ => return .other found

def caseBlock (block : Parser (List Node)) : Parser (Option Node) := do
  match ← peek with
  | some (.name "case") =>
    skip
    let n ← p.openPattern
    let guard ← if ← acceptWord "if" then some <$> p.named else pure none
    return some (.other (n :: (guard.toList ++ (← body block))))
  | _ => return none

/-- A choice among patterns. Its words are names elsewhere, so it is tried before an expression. -/
def choice (block : Parser (List Node)) : Parser Node := do
  match ← identifier with
  | "match" =>
    let (found, comma) ← separated p.starNamed "," (nextIsOp ":")
    let subject ← match found, comma with
      | [n], false => if isStarred n then fail else pure n
      | _, _ => pure (.sequence .tuple found)
    expectOp ":"
    expect .newline
    expect .indent
    let cases ← repeated (p.caseBlock block)
    expect .dedent
    if cases.isEmpty then fail else return .other (subject :: cases)
  | _ => fail

/-! ## Blocks -/

def statement (block : Parser (List Node)) : Parser (List Node) := do
  match ← peek with
  | some (.op "@") => return [← p.decorated block]
  | some (.name "match") => (do return [← p.choice block]) <|> p.simpleLine
  | some (.keyword w) =>
    match w with
    | "def" => return [← p.function block []]
    | "class" => return [← p.classDefinition block []]
    | "async" => return [← p.asynchronous block []]
    | "if" => return [← p.condition block]
    | "while" => return [← p.whileLoop block]
    | "for" => return [← p.forLoop block]
    | "with" => return [← p.withContexts block]
    | "try" => return [← p.attempt block]
    | _ => p.simpleLine
  | _ => p.simpleLine

/-- A block: simple statements on the same line, or indented statements. Blocks nest at most `fuel` deep. -/
def blockWithin : Nat → Parser (List Node)
  | 0 => fail
  | fuel + 1 => do
    if ← accept .newline then
      expect .indent
      let first ← p.statement (blockWithin fuel)
      let rest ← repeated do
        if (← peek) == some .dedent then return none
        return some (← p.statement (blockWithin fuel))
      expect .dedent
      return first ++ rest.flatten
    p.simpleLine

def module : Parser (List Node) := fun ts => (do
  let found ← repeated do
    match ← peek with
    | none => return none
    | some _ => return some (← p.statement (p.blockWithin (ts.length + 1)))
  return found.flatten) ts

end Inner

inductive SyntaxFault where
  | nullCharacter
  /-- The text is not a source of the language. -/
  | malformed
  deriving DecidableEq, Repr

/-- The wording for a null character; other faults have none of their own. -/
def SyntaxFault.message : SyntaxFault → String
  | .nullCharacter => "source code string cannot contain null bytes"
  | .malformed => "invalid syntax"

def parse (source : String) : Except SyntaxFault Node :=
  let cs := source.toList
  if cs.contains (Char.ofNat 0) then .error .nullCharacter
  else
    let tree := do
      let ts ← tokens? cs
      let fuel := 2 * cs.length + 10
      let p : Inner := ⟨Rule.parse fuel, fieldExpression? (Inner.starExpressions ⟨Rule.parse fuel, fun _ => none⟩)⟩
      let (body, _) ← p.module ts
      return Node.other body
    match tree with
    | some n => .ok n
    | none => .error .malformed

end SchemaConcord.Source
