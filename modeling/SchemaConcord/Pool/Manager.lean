import SchemaConcord.Outcome
import SchemaConcord.Pool.Call

/-!
# The connection manager

A manager opens connections from settings, one at a time, and proves each with a round trip before it hands it out.
An engine is made for every attempt that has an address to connect to, and disposed of when the attempt fails or
its connection is closed. Connections stay known after they are closed, so that a call on one can be refused.
-/

namespace SchemaConcord

structure Engine (σ : Type) where
  state : σ
  disposals : Nat := 0

structure PoolConnection where
  engine : Nat
  closed : Bool := false
  count : PoolCount
  deriving DecidableEq, Repr

structure Manager (σ : Type) where
  settings : DatabaseSettings
  /-- All engines ever made, the oldest first. -/
  engines : List (Engine σ) := []
  /-- All connections ever handed out, the oldest first. -/
  connections : List PoolConnection := []
  current : Option Nat := none
  clock : Binary64 := .zero false
  events : List ConnectionEvent := []

namespace Manager

def kind (m : Manager σ) : EngineKind := m.settings.engine

def plan (m : Manager σ) : Except ConnectionFault (Address × EngineOptions) := do
  let a ← m.settings.address.mapError .address
  let o ← (m.settings.profile.options m.settings).mapError .options
  return (a, o)

def emit (m : Manager σ) (e : ConnectionEvent) : Manager σ := { m with events := m.events ++ [e] }

def refuse (m : Manager σ) (f : ConnectionFault) : Manager σ × Outcome Nat :=
  (m.emit (.connectionError m.kind f.message),
    .fail ⟨.connectionFailed, "Failed to connect to " ++ m.kind.word ++ " database", f.details⟩)

/-- Tries out an engine that was just made, and disposes of it when the round trip fails. -/
def verify (m : Manager σ) (b : Backend σ) (a : Address) (state : σ) : Manager σ × Outcome Nat :=
  let (s, r) := Session.ping ⟨state, {}, m.clock, []⟩ b
  let m := { m with clock := s.clock, events := m.events ++ s.events }
  match r with
  | .error f =>
    let disposed : Engine σ := ⟨(b.dispose s.engine).1, 1⟩
    Manager.refuse { m with engines := m.engines ++ [disposed] } f
  | .ok _ =>
    let made : Engine σ := ⟨s.engine, 0⟩
    let c : PoolConnection := ⟨m.engines.length, false, s.count⟩
    let event := ConnectionEvent.connected m.kind (String.ofList (a.fingerprint.toList.take 12))
    (Manager.emit { m with
      engines := m.engines ++ [made]
      connections := m.connections ++ [c]
      current := some m.connections.length } event, .ok m.connections.length)

def establish (m : Manager σ) (b : Backend σ) (a : Address) : Manager σ × Outcome Nat :=
  match b.fresh with
  | .error f => m.refuse f
  | .ok state => m.verify b a state

def connect (m : Manager σ) (b : Backend σ) : Manager σ × Outcome Nat :=
  match m.current with
  | some i => (m, .ok i)
  | none => match m.plan with
    | .error f => m.refuse f
    | .ok (a, _) => m.establish b a

def parts? (m : Manager σ) (i : Nat) : Option (PoolConnection × Engine σ) := do
  let c ← m.connections[i]?
  return (c, ← m.engines[c.engine]?)

/-- What a call on a connection works on. -/
def session (m : Manager σ) (c : PoolConnection) (e : Engine σ) : Session σ := ⟨e.state, c.count, m.clock, []⟩

/-- Takes over what became of a session on connection `i`, which is now `c` on engine `e`. -/
def resume (m : Manager σ) (i : Nat) (c : PoolConnection) (e : Engine σ) (s : Session σ) : Manager σ :=
  { m with
    engines := m.engines.set c.engine { e with state := s.engine }
    connections := m.connections.set i { c with count := s.count }
    clock := s.clock
    events := m.events ++ s.events }

/-- Closes a connection and disposes of its engine, unless that was done before. -/
def close (m : Manager σ) (b : Backend σ) (i : Nat) : Manager σ :=
  match m.parts? i with
  | none => m
  | some (c, e) =>
    if c.closed then m
    else m.resume i { c with closed := true } { e with disposals := e.disposals + 1 }
      ((m.session c e).dispose b m.kind)

def disconnect (m : Manager σ) (b : Backend σ) : Manager σ :=
  match m.current with
  | none => m
  | some i => { m.close b i with current := none }

def onConnection (m : Manager σ) (i : Nat) (work : Work σ α) : Manager σ × Except ConnectionFault α :=
  match m.parts? i with
  | none => (m, .error .closed)
  | some (c, e) =>
    if c.closed then (m, .error .closed)
    else
      let (s, r) := work (m.session c e)
      (m.resume i c e s, r)

def transaction (m : Manager σ) (b : Backend σ) (i : Nat) (work : Work σ α) :
    Manager σ × Except ConnectionFault α :=
  m.onConnection i fun s => s.call b work

def query (m : Manager σ) (b : Backend σ) (i : Nat) (sql : String) (parameters : Datum) :
    Manager σ × Except ConnectionFault (List Row) :=
  m.transaction b i fun s => s.execute b m.kind sql parameters

def reflect (m : Manager σ) (b : Backend σ) (i : Nat) : Manager σ × Except ConnectionFault Reflection :=
  m.transaction b i fun s => s.perform b.reflect

def isHealthy (m : Manager σ) (b : Backend σ) (i : Nat) : Manager σ × Bool :=
  let (m, r) := m.onConnection i fun s => s.ping b
  (m, match r with
    | .ok _ => true
    | .error _ => false)

def count? (m : Manager σ) (i : Nat) : Option PoolCount := (m.connections[i]?).map (·.count)

end Manager

end SchemaConcord
