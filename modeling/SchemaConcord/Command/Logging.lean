import SchemaConcord.Text.Case

/-!
# Log levels

Levels are numbers with names, in any letter case; what has no such name counts as the level for information. The
client of the transport logs warnings only, unless everything is logged.
-/

namespace SchemaConcord

open Text

/-- The level at which everything is logged, and the one that a name nobody knows stands for. -/
def debugLevel : Nat := 10

def infoLevel : Nat := 20

def warningLevel : Nat := 30

def levelNames : List (String × Nat) :=
  [("CRITICAL", 50), ("ERROR", 40), ("WARNING", warningLevel), ("INFO", infoLevel), ("DEBUG", debugLevel), ("NOTSET", 0)]

def levelAliases : List (String × Nat) := [("FATAL", 50), ("WARN", warningLevel)]

def levelNumber (name : String) : Nat := ((levelNames ++ levelAliases).lookup (uppercase name)).getD infoLevel

def levelName (n : Nat) : String := ((levelNames.find? (·.2 = n)).map (·.1)).getD ("Level " ++ toString n)

/-- The levels of the program itself and of the client of its transport; a client without a level takes that of the
program. -/
structure LogLevels where
  program : Nat := warningLevel
  client : Nat := 0
  deriving DecidableEq, Repr

def LogLevels.named (name : String) : LogLevels :=
  let n := levelNumber name
  ⟨n, if n ≤ debugLevel then debugLevel else warningLevel⟩

end SchemaConcord
