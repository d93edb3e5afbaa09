import SchemaConcord.Database.Reflection
import SchemaConcord.Engine.Address
import SchemaConcord.Pool.Count

/-!
# Database engines

A backend says what a database engine does with its own state, step by step. Every step may fail, and tells what
happened to the connections of its pool.
-/

namespace SchemaConcord

inductive ConnectionFault where
  | closed
  | refused (reason : String)
  | statement (kind reason : String) (invalidated : Bool)
  /-- The work on a connection gave up by itself. -/
  | abandoned (reason : String)
  | timeout
  | address (fault : UrlFault)
  | options (fault : WholeFault)
  deriving DecidableEq, Repr

namespace ConnectionFault

def message : ConnectionFault → String
  | .closed => "Connection is closed"
  | .refused reason => reason
  | .statement _ reason _ => reason
  | .abandoned reason => reason
  | .timeout => ""
  | .address f => f.message
  | .options f => f.message

def kindWord : ConnectionFault → String
  | .closed | .abandoned _ => "RuntimeError"
  | .refused _ => "OSError"
  | .statement kind _ _ => kind
  | .timeout => "TimeoutError"
  | .address _ | .options _ => "ValueError"

def details (f : ConnectionFault) : String := if f.message.isEmpty then f.kindWord else f.message

end ConnectionFault

abbrev Row := List (String × Datum)

/-- What a step of an engine ends with: its new state, what happened in its pool, and the result. -/
structure Reply (σ α : Type) where
  state : σ
  notices : List PoolNotice := []
  result : Except ConnectionFault α

structure Backend (σ : Type) where
  /-- Makes an engine, which may fail, and gives the state it begins with. -/
  fresh : Except ConnectionFault σ
  connect : σ → Reply σ Unit
  start : σ → Reply σ Unit
  /-- Runs a statement with its parameters, and says how many seconds it took. -/
  execute : (sql : String) → (parameters : Option Datum) → σ → Binary64 × Reply σ (List Row)
  reflect : σ → Reply σ Reflection
  commit : σ → Reply σ Unit
  rollback : σ → Reply σ Unit
  release : σ → Reply σ Unit
  dispose : σ → σ × List PoolNotice

/-- A step that a call asks of its engine around the work it was made for. -/
inductive EngineStep where
  | connect | start | commit | rollback | release
  deriving DecidableEq, Repr

def Backend.act (b : Backend σ) : EngineStep → σ → Reply σ Unit
  | .connect => b.connect
  | .start => b.start
  | .commit => b.commit
  | .rollback => b.rollback
  | .release => b.release

end SchemaConcord
