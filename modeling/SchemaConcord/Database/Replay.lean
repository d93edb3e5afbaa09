import SchemaConcord.Database.Recording
import SchemaConcord.Pool.Backend

/-!
# Replaying a database

A recorded database answers as it did when it was recorded: statements by their texts up to their conditions, in the
time they took, and inquiries about its structure. Its engine keeps idle connections and opens one when there is none.
-/

namespace SchemaConcord

open Text Datum

inductive HangPoint where
  | connecting | reflecting
  deriving DecidableEq, Repr

/-- How a statement ended, after some milliseconds: with rows or with a fault. -/
structure StatementOutcome where
  milliseconds : Binary64
  result : Except ConnectionFault (List Row)

structure RecordedDatabase where
  reflection : Reflection
  refusal : Option String
  hang : Option HangPoint
  statements : List (String × StatementOutcome)

inductive EngineEntry where
  | execute (sql : String) (parameters : Option Datum)
  | commit | rollback | dispose
  deriving DecidableEq, Repr

structure ReplayedEngine where
  idle : Nat := 0
  log : List EngineEntry := []
  deriving DecidableEq, Repr

namespace StatementOutcome

def plain : StatementOutcome := ⟨.zero false, .ok []⟩

def millisecondsOf : Datum → Binary64
  | .int n => .ofInt n
  | .real x => x
  | _ => .zero false

/-- Reads an outcome; `faultWord` is the word for faults of statements. -/
def ofDatum (faultWord : String) (v : Datum) : StatementOutcome :=
  { milliseconds := millisecondsOf ((v.field? "ms").getD .null)
    result := match v.textPart? "raise" with
      | some reason => .error (.statement faultWord reason (((v.field? "invalidated").map holds).getD false))
      | none => .ok ((v.itemsPart "rows").map fieldsOf) }

end StatementOutcome

def statementHead (sql : String) : String :=
  match cutAt? " WHERE ".toList sql.toList with
  | some (head, _) => String.ofList head
  | none => sql

namespace RecordedDatabase

def ofDatum (faultWord : String) (v : Datum) : RecordedDatabase :=
  { reflection := .ofDatum v
    refusal := v.textPart? "connect_error"
    hang := match v.textPart? "hang" with
      | some "connect" => some .connecting
      | some "reflect" => some .reflecting
      | _ => none
    statements := (((v.part? "queries").map fieldsOf).getD []).map fun (sql, o) => (sql, .ofDatum faultWord o) }

def outcome (d : RecordedDatabase) (sql : String) : StatementOutcome :=
  (d.statements.lookup (statementHead sql)).getD .plain

def answering (d : RecordedDatabase) (sql : String) (o : StatementOutcome) : RecordedDatabase :=
  { d with statements := (statementHead sql, o) :: d.statements }

def backend (d : RecordedDatabase) : Backend ReplayedEngine :=
  let noted (e : ReplayedEngine) (entry : EngineEntry) : ReplayedEngine := { e with log := e.log ++ [entry] }
  { fresh := .ok {}
    connect := fun e =>
      match d.hang, d.refusal with
      | some .connecting, _ => { state := e, result := .error .timeout }
      | _, some reason => { state := e, result := .error (.refused reason) }
      | _, none =>
        if e.idle = 0 then { state := e, notices := [.opened, .taken], result := .ok () }
        else { state := { e with idle := e.idle - 1 }, notices := [.taken], result := .ok () }
    start := fun e => { state := e, result := .ok () }
    execute := fun sql parameters e =>
      let o := d.outcome sql
      (o.milliseconds.div (.ofInt 1000), { state := noted e (.execute sql parameters), result := o.result })
    reflect := fun e =>
      { state := e, result := if d.hang = some .reflecting then .error .timeout else .ok d.reflection }
    commit := fun e => { state := noted e .commit, result := .ok () }
    rollback := fun e => { state := noted e .rollback, result := .ok () }
    release := fun e => { state := { e with idle := e.idle + 1 }, notices := [.returned], result := .ok () }
    dispose := fun e => ({ noted e .dispose with idle := 0 }, List.replicate e.idle .closed) }

end RecordedDatabase

end SchemaConcord
