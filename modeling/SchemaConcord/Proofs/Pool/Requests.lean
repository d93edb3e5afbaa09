import SchemaConcord.Proofs.Pool.Completion

/-!
# Requests to a manager

A manager is asked for connections, for calls on them and for their end, in any order. Calls tell of pool errors
and of nothing else, so what else a manager tells comes from opening and closing.
-/

namespace SchemaConcord

/-! ## What calls tell -/

namespace ConnectionEvent

def isPoolError : ConnectionEvent → Bool
  | .poolError .. => true
  | _ => false

def isConnectionError : ConnectionEvent → Bool
  | .connectionError .. => true
  | _ => false

/-- Whether an event tells that a connection came up or that it went down. -/
def turn? : ConnectionEvent → Option Bool
  | .connected .. => some true
  | .disconnected _ => some false
  | _ => none

/-- Events that tell of pool errors only. -/
def Calls (es : List ConnectionEvent) : Prop := ∀ e ∈ es, e.isPoolError = true

theorem Calls.turns {es : List ConnectionEvent} (h : Calls es) : es.filterMap turn? = [] := by
  refine List.filterMap_eq_nil_iff.mpr fun e he => ?_
  have := h e he
  cases e <;> simp_all [isPoolError, turn?]

theorem Calls.connectionErrors {es : List ConnectionEvent} (h : Calls es) : es.countP isConnectionError = 0 := by
  refine List.countP_eq_zero.mpr fun e he => ?_
  have := h e he
  cases e <;> simp_all [isPoolError, isConnectionError]

end ConnectionEvent

open ConnectionEvent

namespace Session

variable (b : Backend σ) (kind : EngineKind)

theorem calls_execute {s : Session σ} (h : Calls s.events) (sql : String) (parameters : Datum) :
    Calls (s.execute b kind sql parameters).1.events := by
  intro e he
  rcases List.mem_append.mp he with he | he
  · exact h e he
  · split at he
    · obtain rfl := List.mem_singleton.mp he
      rfl
    · cases he

end Session

theorem Body.calls_run (b : Backend σ) (kind : EngineKind) (body : Body σ α) {s : Session σ} (h : Calls s.events) :
    Calls (body.run b kind s).1.events := by
  induction body generalizing s with
  | ended r => exact h
  | observe next ih => exact ih s h
  | statement sql parameters next ih => exact ih _ (s.calls_execute b kind h sql parameters)
  | check sql parameters next ih => exact ih _ h
  | inspect next ih => exact ih _ h

theorem Session.calls_work (b : Backend σ) {work : Work σ α} (hwork : ∀ s, Calls s.events → Calls (work s).1.events)
    {s : Session σ} (h : Calls s.events) : Calls (s.call b work).1.events :=
  (Phase.complete_keeps b (P := fun s => Calls s.events) (Q := fun _ => True) (fun _ h => h)
    (fun _ _ h => ⟨h, fun _ _ => trivial⟩) (fun s h => ⟨hwork s h, fun _ _ => trivial⟩) h fun _ _ => trivial).1

theorem Session.calls_call (b : Backend σ) (kind : EngineKind) (body : Body σ α) {s : Session σ} (h : Calls s.events) :
    Calls (s.call b (body.run b kind)).1.events :=
  s.calls_work b (fun _ => body.calls_run b kind) h

/-! ## Serving requests -/

namespace Manager

inductive Request (σ : Type) where
  | connect
  | disconnect
  | close (i : Nat)
  | call (i : Nat) (body : Body σ (List Row))
  /-- Edits the settings of the manager, but for the kind of its engines. -/
  | edit (f : DatabaseSettings → DatabaseSettings)

def serve (m : Manager σ) (b : Backend σ) : Request σ → Manager σ
  | .connect => (m.connect b).1
  | .disconnect => m.disconnect b
  | .close i => m.close b i
  | .call i body => (m.transaction b i (body.run b m.kind)).1
  | .edit f => { m with settings := { f m.settings with engine := m.settings.engine } }

/-- Serves requests, each with the behaviour that the engines show meanwhile. -/
def run (m : Manager σ) (rs : List (Backend σ × Request σ)) : Manager σ := rs.foldl (fun m r => m.serve r.1 r.2) m

@[simp] theorem run_append (m : Manager σ) (rs ss : List (Backend σ × Request σ)) :
    m.run (rs ++ ss) = (m.run rs).run ss :=
  List.foldl_append

/-- A request is a failed attempt to connect. -/
def fails (m : Manager σ) (b : Backend σ) : Request σ → Bool
  | .connect => !(m.connect b).2.isOk
  | _ => false

/-- The connections that came up and went down, in order. -/
def turns (m : Manager σ) : List Bool := m.events.filterMap turn?

end Manager

end SchemaConcord
