import SchemaConcord.Pool.Concurrent

/-!
# What happens on a connection

A statement takes time. While it runs other statements begin and end, calls ask for connections, and the pool tells
what became of those it has. A timeline lists all this in the order in which it happens. A statement is counted when it
ends, with the time since it began.
-/

namespace SchemaConcord

inductive StatementEnd where
  | answered (rows : List Row)
  | failed (fault : ConnectionFault)
  /-- The call that the statement belongs to was given up. -/
  | cancelled

namespace StatementEnd

def ofResult : Except ConnectionFault (List Row) → StatementEnd
  | .ok rows => .answered rows
  | .error f => .failed f

def isFailed : StatementEnd → Bool
  | .failed _ => true
  | _ => false

/-- What is told when a statement ends: that its connection was found dead, if it was. -/
def events (kind : EngineKind) : StatementEnd → List ConnectionEvent
  | .failed (.statement _ reason true) => [.poolError kind reason]
  | _ => []

end StatementEnd

inductive Happening where
  /-- The clock shows another time. -/
  | time (now : Binary64)
  | asked
  | answered
  /-- The pool tells of one of its connections. -/
  | told (connection : Nat) (notice : PoolNotice)
  | began
  /-- Of the statements that run, the one at a place ends. -/
  | ended (i : Nat) (e : StatementEnd)
  /-- The engine is gone. -/
  | disposed

/-- A statement that ended, with the times at which it began and ended. -/
structure EndedStatement where
  began : Binary64
  ended : Binary64
  failed : Bool
  deriving DecidableEq, Repr

/-- In milliseconds. -/
def EndedStatement.latency (e : EndedStatement) : Binary64 := (e.ended.sub e.began).mul (.ofInt 1000)

/-- A connection as it is watched: its counts and events, the time, and the statements that run or have ended. -/
structure Watch where
  count : PoolCount := {}
  clock : Binary64
  events : List ConnectionEvent := []
  /-- The times at which the statements that run began. -/
  running : List Binary64 := []
  /-- The statements that ended, the first to end first. -/
  finished : List EndedStatement := []

namespace Watch

/-- Ends a statement that began at a time. -/
def finish (kind : EngineKind) (w : Watch) (began : Binary64) (e : StatementEnd) : Watch :=
  let ended : EndedStatement := ⟨began, w.clock, e.isFailed⟩
  { w with
    count := w.count.executed ended.latency ended.failed
    events := w.events ++ e.events kind
    finished := w.finished ++ [ended] }

def step (kind : EngineKind) (w : Watch) : Happening → Watch
  | .time now => { w with clock := now }
  | .asked => { w with count := w.count.asked }
  | .answered => { w with count := w.count.answered }
  | .told _ notice => { w with count := w.count.notice notice }
  | .began => { w with running := w.running ++ [w.clock] }
  | .ended i e => match w.running[i]? with
    | none => w
    | some began => { w with running := w.running.eraseIdx i }.finish kind began e
  | .disposed => { w with events := w.events ++ [.disconnected kind] }

def run (kind : EngineKind) (w : Watch) (timeline : List Happening) : Watch := timeline.foldl (step kind) w

end Watch

end SchemaConcord
