import SchemaConcord.Pool.Manager

/-!
# Calls side by side

Many calls may be under way on one connection. Each goes on by steps of its own, and the steps of all of them
interleave in any order. A call keeps a record of what happened in it.
-/

namespace SchemaConcord

/-! ## The work of a call -/

/-- The work of a call, step by step. What it does next may depend on all that it has seen. -/
inductive Body (σ α : Type) where
  | ended (result : Except ConnectionFault α)
  | observe (next : Session σ → Body σ α)
  | statement (sql : String) (parameters : Datum) (next : Except ConnectionFault (List Row) → Body σ α)
  /-- A statement that is not counted. -/
  | check (sql : String) (parameters : Option Datum) (next : Except ConnectionFault (List Row) → Body σ α)
  | inspect (next : Except ConnectionFault Reflection → Body σ α)

namespace Body

def query (sql : String) (parameters : Datum) : Body σ (List Row) := .statement sql parameters .ended

def ping : Body σ (List Row) := .check healthStatement none .ended

def reflection : Body σ Reflection := .inspect .ended

def step (b : Backend σ) (kind : EngineKind) (s : Session σ) : Body σ α → Session σ × Body σ α
  | .ended r => (s, .ended r)
  | .observe next => (s, next s)
  | .statement sql parameters next =>
    let (s, r) := s.execute b kind sql parameters
    (s, next r)
  | .check sql parameters next =>
    let (s, r) := s.executeQuietly b sql parameters
    (s, next r)
  | .inspect next =>
    let (s, r) := s.perform b.reflect
    (s, next r)

def run (b : Backend σ) (kind : EngineKind) : Body σ α → Work σ α
  | .ended r, s => (s, r)
  | .observe next, s => (next s).run b kind s
  | .statement sql parameters next, s =>
    let (s, r) := s.execute b kind sql parameters
    (next r).run b kind s
  | .check sql parameters next, s =>
    let (s, r) := s.executeQuietly b sql parameters
    (next r).run b kind s
  | .inspect next, s =>
    let (s, r) := s.perform b.reflect
    (next r).run b kind s

theorem run_step (b : Backend σ) (kind : EngineKind) (s : Session σ) (body : Body σ α) :
    (body.step b kind s).2.run b kind (body.step b kind s).1 = body.run b kind s := by
  cases body <;> rfl

end Body

theorem Manager.query_eq (m : Manager σ) (b : Backend σ) (i : Nat) (sql : String) (parameters : Datum) :
    m.query b i sql parameters = m.transaction b i ((Body.query sql parameters).run b m.kind) :=
  rfl

theorem Manager.reflect_eq (m : Manager σ) (b : Backend σ) (i : Nat) :
    m.reflect b i = m.transaction b i (Body.reflection.run b m.kind) :=
  rfl

theorem Session.ping_eq (s : Session σ) (b : Backend σ) (kind : EngineKind) :
    s.ping b = s.call b (Body.ping.run b kind) :=
  rfl

/-! ## Calls and their traffic -/

/-- What happened in a call. -/
inductive CallDeed (α : Type) where
  /-- The connection was closed when the call came to it. -/
  | turnedAway
  | asked
  | engine (step : EngineStep) (result : Except ConnectionFault Unit)
  | ended (result : Except ConnectionFault α)

structure OngoingCall (σ α : Type) where
  body : Body σ α
  phase : Phase α := .asking
  /-- What happened so far, the oldest first. -/
  deeds : List (CallDeed α) := []

namespace OngoingCall

def enter (c : OngoingCall σ α) (p : Phase α) (d : CallDeed α) : OngoingCall σ α :=
  { c with phase := p, deeds := c.deeds ++ [d] }

/-- The next step of a call on a connection that may be closed. -/
def step (c : OngoingCall σ α) (b : Backend σ) (kind : EngineKind) (closed : Bool) (s : Session σ) :
    Session σ × OngoingCall σ α :=
  match c.phase.engineStep? with
  | some e =>
    let (s, r) := s.act b e
    (s, c.enter (c.phase.next r) (.engine e r))
  | none => match c.phase, c.body with
    | .asking, _ =>
      if closed then (s, c.enter (.finished (.error .closed)) .turnedAway)
      else ({ s with count := s.count.asked }, c.enter .waiting .asked)
    | .working, .ended r => (s, c.enter (.afterWork r) (.ended r))
    | .working, body =>
      let (s, body) := body.step b kind s
      (s, { c with body })
    | _, _ => (s, c)

end OngoingCall

/-- A connection with the calls that were made on it. -/
structure Traffic (σ α : Type) where
  session : Session σ
  closed : Bool
  calls : List (OngoingCall σ α)

/-- What happens next on a connection, and how its engine behaves in that step. -/
inductive TrafficMove (σ : Type) where
  | call (i : Nat) (b : Backend σ)
  | close (b : Backend σ)

namespace Traffic

def start (s : Session σ) (closed : Bool) (bodies : List (Body σ α)) : Traffic σ α :=
  ⟨s, closed, bodies.map fun body => { body }⟩

def step (kind : EngineKind) (t : Traffic σ α) : TrafficMove σ → Traffic σ α
  | .call i b => match t.calls[i]? with
    | none => t
    | some c =>
      let (s, c) := c.step b kind t.closed t.session
      { t with session := s, calls := t.calls.set i c }
  | .close b => if t.closed then t else { t with session := t.session.dispose b kind, closed := true }

def run (kind : EngineKind) (t : Traffic σ α) (moves : List (TrafficMove σ)) : Traffic σ α :=
  moves.foldl (step kind) t

end Traffic

end SchemaConcord
