/-!
# Syntax trees of handler sources

A tree keeps apart the constructs that routes and database operations are recognised by; every other construct is an
`other` with its parts. `children` lists the parts of a node in their fixed order, and `walk` lists a tree level by
level, from the root down and from left to right.
-/

namespace SchemaConcord.Source

inductive SequenceKind where
  | list | tuple | set
  deriving DecidableEq, Repr

inductive Node where
  | name (id : String)
  | string (value : String)
  | integer (value : Int)
  | attribute (value : Node) (attr : String)
  | subscript (value index : Node)
  | starred (value : Node)
  | call (function : Node) (args keywords : List Node)
  /-- A keyword argument; one without a name spreads a mapping. -/
  | keyword (arg : Option String) (value : Node)
  | interpolated (parts : List Node)
  | sum (left right : Node)
  | dict (keys values : List Node)
  | sequence (kind : SequenceKind) (items : List Node)
  | lambda (parameters body : Node)
  | function (name : String) (parameters : Node) (body decorators returns : List Node)
  | other (parts : List Node)
  deriving Repr, Inhabited

namespace Node

def children : Node → List Node
  | .name _ | .string _ | .integer _ => []
  | .attribute v _ => [v]
  | .subscript v i => [v, i]
  | .starred v => [v]
  | .call f args keywords => f :: (args ++ keywords)
  | .keyword _ v => [v]
  | .interpolated parts => parts
  | .sum l r => [l, r]
  | .dict keys values => keys ++ values
  | .sequence _ items => items
  | .lambda p b => [p, b]
  | .function _ p body decorators returns => p :: (body ++ decorators ++ returns)
  | .other parts => parts

mutual

def depth : Node → Nat
  | .name _ | .string _ | .integer _ => 1
  | .attribute v _ => depth v + 1
  | .subscript v i => max (depth v) (depth i) + 1
  | .starred v => depth v + 1
  | .call f args keywords => max (depth f) (max (depthAll args) (depthAll keywords)) + 1
  | .keyword _ v => depth v + 1
  | .interpolated parts => depthAll parts + 1
  | .sum l r => max (depth l) (depth r) + 1
  | .dict keys values => max (depthAll keys) (depthAll values) + 1
  | .sequence _ items => depthAll items + 1
  | .lambda p b => max (depth p) (depth b) + 1
  | .function _ p body decorators returns =>
    max (depth p) (max (depthAll body) (max (depthAll decorators) (depthAll returns))) + 1
  | .other parts => depthAll parts + 1

def depthAll : List Node → Nat
  | [] => 0
  | n :: rest => max (depth n) (depthAll rest)

end

/-- The nodes of a row of trees, level by level, down to `levels` levels. -/
def levelsOf : Nat → List Node → List Node
  | 0, _ => []
  | levels + 1, row => row ++ levelsOf levels (row.flatMap children)

def walk (n : Node) : List Node := levelsOf n.depth [n]

mutual

def isTarget : Node → Bool
  | .name _ | .attribute _ _ | .subscript _ _ => true
  | .starred v => isTarget v
  | .sequence .list items => areTargets items
  | .sequence .tuple items => areTargets items
  | _ => false

def areTargets : List Node → Bool
  | [] => true
  | n :: rest => isTarget n && areTargets rest

end

/-- Whether the expression is a single target: a name, an attribute or a subscript. -/
def isSingleTarget : Node → Bool
  | .name _ | .attribute _ _ | .subscript _ _ => true
  | _ => false

mutual

def isDeletable : Node → Bool
  | .name _ | .attribute _ _ | .subscript _ _ => true
  | .sequence .list items => areDeletable items
  | .sequence .tuple items => areDeletable items
  | _ => false

def areDeletable : List Node → Bool
  | [] => true
  | n :: rest => isDeletable n && areDeletable rest

end

end Node

end SchemaConcord.Source
