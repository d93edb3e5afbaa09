import SchemaConcord.Pool.Backend

/-!
# Calls on a connection

A call takes a connection out of the pool for its own duration and holds one transaction on it. It passes through
phases, of which each may fail: a connection that was taken is always released, and a transaction that was started
is committed when the work on it ended well and rolled back otherwise.
-/

namespace SchemaConcord

inductive ConnectionEvent where
  | connected (engine : EngineKind) (fingerprint : String)
  | disconnected (engine : EngineKind)
  | poolError (engine : EngineKind) (error : String)
  | connectionError (engine : EngineKind) (error : String)
  deriving DecidableEq, Repr

namespace ConnectionEvent

def name : ConnectionEvent → String
  | .connected .. => "connected"
  | .disconnected _ => "disconnected"
  | .poolError .. => "pool_error"
  | .connectionError .. => "connection_error"

def payload : ConnectionEvent → Datum
  | .connected e f => .record [("engine", .text e.word), ("fingerprint", .text f)]
  | .disconnected e => .record [("engine", .text e.word)]
  | .poolError e m | .connectionError e m => .record [("engine", .text e.word), ("error", .text m)]

def names : List String := ["connected", "disconnected", "pool_error", "connection_error"]

end ConnectionEvent

/-- What a call works on: the engine, the counts of its pool, the time, and the events so far. -/
structure Session (σ : Type) where
  engine : σ
  count : PoolCount
  clock : Binary64
  events : List ConnectionEvent

namespace Session

def hear (s : Session σ) (r : Reply σ α) : Session σ :=
  { s with engine := r.state, count := r.notices.foldl PoolCount.notice s.count }

def perform (s : Session σ) (step : σ → Reply σ α) : Session σ × Except ConnectionFault α :=
  let r := step s.engine
  (s.hear r, r.result)

/-- Takes a step of the engine. The answer to a call that asked for a connection ends its wait. -/
def act (s : Session σ) (b : Backend σ) (e : EngineStep) : Session σ × Except ConnectionFault Unit :=
  let (s, r) := s.perform (b.act e)
  ({ s with count := if e = .connect then s.count.answered else s.count }, r)

def executeQuietly (s : Session σ) (b : Backend σ) (sql : String) (parameters : Option Datum) :
    Session σ × Except ConnectionFault (List Row) :=
  let (seconds, r) := b.execute sql parameters s.engine
  ({ s.hear r with clock := s.clock.add seconds }, r.result)

/-- Runs a statement and counts it, with the time it took. A connection found dead is told about. -/
def execute (s : Session σ) (b : Backend σ) (kind : EngineKind) (sql : String) (parameters : Datum) :
    Session σ × Except ConnectionFault (List Row) :=
  let (after, result) := s.executeQuietly b sql (some parameters)
  let latency := (after.clock.sub s.clock).mul (.ofInt 1000)
  let failed := match result with
    | .ok _ => false
    | .error _ => true
  let events := match result with
    | .error (.statement _ reason true) => [ConnectionEvent.poolError kind reason]
    | _ => []
  ({ after with count := after.count.executed latency failed, events := after.events ++ events }, result)

/-- Disposes of the engine and tells that it is gone. -/
def dispose (s : Session σ) (b : Backend σ) (kind : EngineKind) : Session σ :=
  let (state, notices) := b.dispose s.engine
  { s with
    engine := state
    count := notices.foldl PoolCount.notice s.count
    events := s.events ++ [.disconnected kind] }

end Session

/-! ## Phases -/

inductive Phase (α : Type) where
  | asking
  | waiting
  | starting
  | working
  | committing (a : α)
  | undoing (fault : ConnectionFault)
  | releasing (result : Except ConnectionFault α)
  | finished (result : Except ConnectionFault α)

abbrev Work (σ α : Type) := Session σ → Session σ × Except ConnectionFault α

namespace Phase

/-- The step of the engine that a phase stands before. -/
def engineStep? : Phase α → Option EngineStep
  | .waiting => some .connect
  | .starting => some .start
  | .committing _ => some .commit
  | .undoing _ => some .rollback
  | .releasing _ => some .release
  | .asking | .working | .finished _ => none

/-- The phase after the step of the engine that a phase stands before. -/
def next : Phase α → Except ConnectionFault Unit → Phase α
  | .waiting, .ok _ => .starting
  | .waiting, .error f => .finished (.error f)
  | .starting, .ok _ => .working
  | .starting, .error f => .releasing (.error f)
  | .committing a, .ok _ => .releasing (.ok a)
  | .committing _, .error f => .undoing f
  | .undoing f, .ok _ => .releasing (.error f)
  | .undoing _, .error f => .releasing (.error f)
  | .releasing r, .ok _ => .finished r
  | .releasing _, .error f => .finished (.error f)
  | p, _ => p

def afterWork : Except ConnectionFault α → Phase α
  | .ok a => .committing a
  | .error f => .undoing f

def rank : Phase α → Nat
  | .asking => 7
  | .waiting => 6
  | .starting => 5
  | .working => 4
  | .committing _ => 3
  | .undoing _ => 2
  | .releasing _ => 1
  | .finished _ => 0

theorem rank_next {p : Phase α} (h : p.engineStep? = some e) (r : Except ConnectionFault Unit) :
    (p.next r).rank < p.rank := by
  cases p <;> cases r <;> simp_all [engineStep?, next, rank]

theorem rank_afterWork (r : Except ConnectionFault α) : (afterWork r).rank < 4 := by
  cases r <;> simp [afterWork, rank]

/-- One step of a call. A call waits from the moment it asks for a connection until it is answered. -/
def step (b : Backend σ) (work : Work σ α) (s : Session σ) (p : Phase α) : Session σ × Phase α :=
  match p.engineStep? with
  | some e =>
    let (s, r) := s.act b e
    (s, p.next r)
  | none => match p with
    | .asking => ({ s with count := s.count.asked }, .waiting)
    | .working =>
      let (s, r) := work s
      (s, afterWork r)
    | p => (s, p)

theorem rank_step (b : Backend σ) (work : Work σ α) (s : Session σ) (p : Phase α) (h : p.rank ≠ 0) :
    (p.step b work s).2.rank < p.rank := by
  cases p with
  | asking => simp [step, engineStep?, rank]
  | working => exact rank_afterWork _
  | finished r => exact absurd rfl h
  | waiting => exact rank_next rfl _
  | starting => exact rank_next rfl _
  | committing a => exact rank_next rfl _
  | undoing f => exact rank_next rfl _
  | releasing r => exact rank_next rfl _

def complete (b : Backend σ) (work : Work σ α) (s : Session σ) (p : Phase α) :
    Session σ × Except ConnectionFault α :=
  if h : p.rank = 0 then
    match p, h with
    | .finished r, _ => (s, r)
  else
    let q := p.step b work s
    complete b work q.1 q.2
  termination_by p.rank
  decreasing_by exact rank_step b work s p h

end Phase

def Session.call (s : Session σ) (b : Backend σ) (work : Work σ α) : Session σ × Except ConnectionFault α :=
  Phase.complete b work s .asking

def healthStatement : String := "SELECT 1"

def Session.ping (s : Session σ) (b : Backend σ) : Session σ × Except ConnectionFault (List Row) :=
  s.call b fun s => s.executeQuietly b healthStatement none

end SchemaConcord
