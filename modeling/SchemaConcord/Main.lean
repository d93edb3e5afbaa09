import SchemaConcord.Command.Scene
import SchemaConcord.Json.Parser
import SchemaConcord.Json.Printer

/-!
# The program

Reads a scene from one line of standard input, runs in it with the arguments, prints what the run prints and then the
files it leaves, and ends with its exit code.
-/

open SchemaConcord

def sceneDepth : Nat := 1000

def main (arguments : List String) : IO UInt32 := do
  let line ← (← IO.getStdin).getLine
  match (Json.parse? sceneDepth line.toList).bind Scene.ofDatum with
  | none =>
    IO.eprintln "no scene on standard input"
    return 2
  | some scene =>
    let (exit, run) := scene.run arguments
    for printed in run.printed do
      for text in printed.lines do
        IO.println text
    IO.println (Json.compact (.record (run.tree.textsBelow scene.home)))
    match exit with
    | .ok code => return UInt32.ofNat code
    | .error fault =>
      IO.eprintln fault.message
      return 1
