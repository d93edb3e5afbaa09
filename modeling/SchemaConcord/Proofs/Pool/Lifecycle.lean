import Mathlib.Data.List.Induction
import SchemaConcord.Proofs.Pool.Requests

/-!
# The life of a manager

A manager has no open connection or exactly one. Opening and closing lead from the one state to the other, and each
is told; in between nothing is made or disposed of.

A manager that reports success hands out the connection it takes for its own. That connection is open as long as it
is closed through the manager only; one that was closed directly is handed out again all the same.
-/

namespace SchemaConcord

open ConnectionEvent

/-- Comings and goings in turn, beginning with a coming. -/
def alternation (n : Nat) : List Bool := (List.range n).map fun k => decide (k % 2 = 0)

theorem alternation_come (n : Nat) : alternation (2 * n) ++ [true] = alternation (2 * n + 1) := by
  simp [alternation, List.range_succ]

theorem alternation_go (n : Nat) : alternation (2 * n + 1) ++ [false] = alternation (2 * (n + 1)) := by
  simp [alternation, List.range_succ, Nat.mul_add]

namespace Manager

variable {m : Manager σ}

/-- All connections are closed and all engines disposed of. -/
structure Idle (m : Manager σ) : Prop where
  closed : ∀ c ∈ m.connections, c.closed = true
  disposed : ∀ e ∈ m.engines, e.disposals = 1
  turns : ∃ n, m.turns = alternation (2 * n)

/-- Connection `i` is open on engine `e`, all others are closed and all other engines disposed of. -/
structure Serving (m : Manager σ) (i : Nat) (c : PoolConnection) (e : Engine σ) : Prop where
  current : m.current = some i
  connection : m.connections[i]? = some c
  engine : m.engines[c.engine]? = some e
  opened : c.closed = false
  kept : e.disposals = 0
  closed : ∀ j d, m.connections[j]? = some d → j ≠ i → d.closed = true
  disposed : ∀ k d, m.engines[k]? = some d → k ≠ c.engine → d.disposals = 1
  turns : ∃ n, m.turns = alternation (2 * n + 1)

theorem idle_start (settings : DatabaseSettings) : Idle ({ settings } : Manager σ) :=
  ⟨nofun, nofun, 0, rfl⟩

/-! ## Closed connections -/

/-- Nothing can be done on connection `i`. -/
def Dead (m : Manager σ) (i : Nat) : Prop := ∀ c e, m.parts? i = some (c, e) → c.closed = true

theorem Dead.close (h : m.Dead i) (b : Backend σ) : m.close b i = m := by
  cases hp : m.parts? i with
  | none => simp [Manager.close, hp]
  | some p => simp [Manager.close, hp, h p.1 p.2 hp]

theorem Dead.onConnection (h : m.Dead i) (work : Work σ α) : m.onConnection i work = (m, .error .closed) := by
  cases hp : m.parts? i with
  | none => simp [Manager.onConnection, hp]
  | some p => simp [Manager.onConnection, hp, h p.1 p.2 hp]

theorem parts?_eq_some_iff : m.parts? i = some (c, e) ↔ m.connections[i]? = some c ∧ m.engines[c.engine]? = some e := by
  simp [Manager.parts?, Option.bind_eq_some_iff]

theorem Idle.dead (h : m.Idle) (i : Nat) : m.Dead i := by
  intro c e hp
  exact h.closed c (List.mem_of_getElem? (parts?_eq_some_iff.mp hp).1)

theorem Serving.dead (h : m.Serving i c e) (hj : j ≠ i) : m.Dead j := by
  intro d e' hp
  exact h.closed j d (parts?_eq_some_iff.mp hp).1 hj

theorem Serving.parts? (h : m.Serving i c e) : m.parts? i = some (c, e) :=
  parts?_eq_some_iff.mpr ⟨h.connection, h.engine⟩

/-! ## Opening -/

@[simp] theorem turns_emit (m : Manager σ) (e : ConnectionEvent) : (m.emit e).turns = m.turns ++ e.turn?.toList := by
  cases h : e.turn? <;> simp [emit, Manager.turns, h]

theorem connect_of_current (h : m.current = some i) (b : Backend σ) : m.connect b = (m, .ok i) := by
  rw [Manager.connect, h]

theorem Idle.refuse (h : m.Idle) (f : ConnectionFault) : (m.refuse f).1.Idle :=
  ⟨h.closed, h.disposed, by simpa [Manager.refuse, turn?] using h.turns⟩

theorem getElem?_of_concat {l : List α} {a b : α} (h : (l ++ [a])[k]? = some b) (hk : k ≠ l.length) :
    l[k]? = some b := by
  grind

/-- Events of calls change nothing. -/
theorem turns_calls {es : List ConnectionEvent} (h : Calls es) (m : Manager σ) :
    Manager.turns { m with events := m.events ++ es } = m.turns := by
  rw [Manager.turns, List.filterMap_append, h.turns, List.append_nil, Manager.turns]

/-- An engine that did not stand the test is disposed of. -/
theorem Idle.discard (h : m.Idle) {es : List ConnectionEvent} (hes : Calls es) (x : Binary64) {e : Engine σ}
    (he : e.disposals = 1) :
    Idle { m with clock := x, events := m.events ++ es, engines := m.engines ++ [e] } := by
  obtain ⟨n, hn⟩ := h.turns
  refine ⟨h.closed, fun d hd => ?_, n, (turns_calls hes m).trans hn⟩
  rcases List.mem_append.mp hd with hd | hd
  · exact h.disposed d hd
  · exact List.mem_singleton.mp hd ▸ he

/-- An engine that stood the test is put to use. -/
theorem Idle.open (h : m.Idle) {es : List ConnectionEvent} (hes : Calls es) (x : Binary64) {c : PoolConnection}
    {e : Engine σ} (hc : c.engine = m.engines.length) (hopen : c.closed = false) (he : e.disposals = 0)
    (kind : EngineKind) (fingerprint : String) :
    Serving (emit { m with
      clock := x
      events := m.events ++ es
      engines := m.engines ++ [e]
      connections := m.connections ++ [c]
      current := some m.connections.length } (.connected kind fingerprint)) m.connections.length c e := by
  obtain ⟨n, hn⟩ := h.turns
  constructor
  · rfl
  · exact List.getElem?_concat_length
  · rw [hc]
    exact List.getElem?_concat_length
  · exact hopen
  · exact he
  · intro j d hd hj
    exact h.closed d (List.mem_of_getElem? (getElem?_of_concat hd hj))
  · intro k d hd hk
    exact h.disposed d (List.mem_of_getElem? (getElem?_of_concat hd (hc ▸ hk)))
  · refine ⟨n, ?_⟩
    rw [turns_emit, ← alternation_come, ← hn, ← turns_calls hes m]
    rfl

/-- All that an attempt to connect can come to. -/
inductive Connects (m : Manager σ) : Manager σ × Outcome Nat → Prop
  | known (h : m.current = some i) : Connects m (m, .ok i)
  | refused (f : ConnectionFault) : Connects m (m.refuse f)
  /-- An engine was made, but did not stand the test. -/
  | discarded (hes : Calls es) (x : Binary64) {e : Engine σ} (he : e.disposals = 1) (f : ConnectionFault) :
    Connects m (Manager.refuse { m with clock := x, events := m.events ++ es, engines := m.engines ++ [e] } f)
  | opened (hes : Calls es) (x : Binary64) {c : PoolConnection} {e : Engine σ} (hc : c.engine = m.engines.length)
    (hopen : c.closed = false) (he : e.disposals = 0) (kind : EngineKind) (fingerprint : String) :
    Connects m (emit { m with
      clock := x
      events := m.events ++ es
      engines := m.engines ++ [e]
      connections := m.connections ++ [c]
      current := some m.connections.length } (.connected kind fingerprint), .ok m.connections.length)

theorem connects_verify (m : Manager σ) (b : Backend σ) (a : Address) (state : σ) :
    m.Connects (m.verify b a state) := by
  have hcalls := Session.calls_call b m.kind Body.ping (s := ⟨state, {}, m.clock, []⟩) nofun
  rw [← Session.ping_eq] at hcalls
  unfold Manager.verify
  generalize Session.ping ⟨state, {}, m.clock, []⟩ b = p at hcalls ⊢
  obtain ⟨s, r⟩ := p
  cases r with
  | error f => exact .discarded hcalls s.clock rfl f
  | ok rows => exact .opened hcalls s.clock rfl rfl rfl _ _

theorem connects_connect (m : Manager σ) (b : Backend σ) : m.Connects (m.connect b) := by
  unfold Manager.connect
  cases hc : m.current with
  | some i => exact .known hc
  | none =>
    cases m.plan with
    | error f => exact .refused f
    | ok p =>
      unfold establish
      cases b.fresh with
      | error f => exact .refused f
      | ok state => exact m.connects_verify b p.1 state

theorem Connects.opening (hr : m.Connects r) (h : m.Idle) (hc : m.current = none) :
    (r.1.Idle ∧ r.1.current = none ∧ r.2.isOk = false) ∨ ∃ i c e, r.1.Serving i c e ∧ r.2.result = .ok i := by
  cases hr with
  | known hk => cases hc.symm.trans hk
  | refused f => exact .inl ⟨h.refuse f, hc, rfl⟩
  | discarded hes x he f => exact .inl ⟨(h.discard hes x he).refuse f, hc, rfl⟩
  | opened hes x hengine hopen he => exact .inr ⟨_, _, _, h.open hes x hengine hopen he _ _, rfl⟩

theorem Idle.connect (h : m.Idle) (hc : m.current = none) (b : Backend σ) :
    ((m.connect b).1.Idle ∧ (m.connect b).1.current = none ∧ (m.connect b).2.isOk = false) ∨
      ∃ i c e, (m.connect b).1.Serving i c e ∧ (m.connect b).2.result = .ok i :=
  (m.connects_connect b).opening h hc

/-! ## Calls and closing -/

theorem of_mem_set {l : List α} {a b : α} (h : b ∈ l.set i a) : b = a ∨ ∃ j, j ≠ i ∧ l[j]? = some b := by
  obtain ⟨j, hj⟩ := List.mem_iff_getElem?.mp h
  by_cases hij : i = j
  · grind
  · exact .inr ⟨j, Ne.symm hij, by rwa [List.getElem?_set_ne hij] at hj⟩

theorem Serving.resume (h : m.Serving i c e) {s : Session σ} (hs : Calls s.events) :
    (m.resume i c e s).Serving i { c with count := s.count } { e with state := s.engine } := by
  obtain ⟨hi, -⟩ := List.getElem?_eq_some_iff.mp h.connection
  obtain ⟨hk, -⟩ := List.getElem?_eq_some_iff.mp h.engine
  obtain ⟨n, hn⟩ := h.turns
  constructor
  · exact h.current
  · exact List.getElem?_set_self hi
  · exact List.getElem?_set_self hk
  · exact h.opened
  · exact h.kept
  · intro j d hd hj
    rw [Manager.resume, List.getElem?_set_ne (Ne.symm hj)] at hd
    exact h.closed j d hd hj
  · intro k d hd hk
    rw [Manager.resume, List.getElem?_set_ne (Ne.symm hk)] at hd
    exact h.disposed k d hd hk
  · exact ⟨n, (turns_calls hs m).trans hn⟩

theorem Serving.onConnection (h : m.Serving i c e) (work : Work σ α) :
    m.onConnection i work = (m.resume i c e (work (m.session c e)).1, (work (m.session c e)).2) := by
  simp [Manager.onConnection, h.parts?, h.opened]

theorem Serving.call (h : m.Serving i c e) (b : Backend σ) (body : Body σ α) :
    ∃ c' e', (m.transaction b i (body.run b m.kind)).1.Serving i c' e' := by
  rw [Manager.transaction, h.onConnection]
  exact ⟨_, _, h.resume (Session.calls_call b m.kind body nofun)⟩

theorem Serving.close_eq (h : m.Serving i c e) (b : Backend σ) :
    m.close b i = m.resume i { c with closed := true } { e with disposals := e.disposals + 1 }
      ((m.session c e).dispose b m.kind) := by
  simp [Manager.close, h.parts?, h.opened]

theorem Serving.current_close (h : m.Serving i c e) (b : Backend σ) : (m.close b i).current = some i := by
  rw [h.close_eq]
  exact h.current

theorem Serving.close (h : m.Serving i c e) (b : Backend σ) : (m.close b i).Idle := by
  obtain ⟨n, hn⟩ := h.turns
  rw [h.close_eq]
  refine ⟨fun d hd => ?_, fun d hd => ?_, n + 1, ?_⟩
  · rcases of_mem_set hd with rfl | ⟨j, hj, hjd⟩
    · rfl
    · exact h.closed j d hjd hj
  · rcases of_mem_set hd with rfl | ⟨k, hk, hkd⟩
    · simp [h.kept]
    · exact h.disposed k d hkd hk
  · rw [← alternation_go, ← hn]
    simp [Manager.turns, Manager.resume, Session.dispose, session, turn?]

theorem Idle.close (h : m.Idle) (b : Backend σ) (i : Nat) : (m.close b i).Idle := by
  rw [(h.dead i).close]
  exact h

theorem Idle.forget (h : m.Idle) : Idle { m with current := none } := ⟨h.closed, h.disposed, h.turns⟩

theorem Serving.disconnect (h : m.Serving i c e) (b : Backend σ) :
    (m.disconnect b).Idle ∧ (m.disconnect b).current = none := by
  rw [Manager.disconnect, h.current]
  exact ⟨(h.close b).forget, rfl⟩

theorem Idle.disconnect (h : m.Idle) (b : Backend σ) : (m.disconnect b).Idle ∧ (m.disconnect b).current = none := by
  cases hc : m.current with
  | none =>
    rw [Manager.disconnect, hc]
    exact ⟨h, hc⟩
  | some i =>
    rw [Manager.disconnect, hc]
    exact ⟨(h.close b i).forget, rfl⟩

/-- A connection that was closed directly is handed out again, and refuses every query. -/
theorem Serving.close_connect (h : m.Serving i c e) (b b' : Backend σ) :
    (m.close b i).connect b' = (m.close b i, .ok i) ∧
      ∀ b'' sql parameters, ((m.close b i).query b'' i sql parameters).2 = .error .closed := by
  have hcurrent : (m.close b i).current = some i := h.current_close b
  refine ⟨connect_of_current hcurrent b', fun b'' sql parameters => ?_⟩
  rw [Manager.query, Manager.transaction, ((h.close b).dead i).onConnection]

/-! ## Runs -/

/-- A manager is idle, and what it takes for its connection meets `P`, or it serves one connection. -/
inductive Standing (P : Nat → Prop) (m : Manager σ) : Prop
  | idle (h : m.Idle) (stale : ∀ i, m.current = some i → P i)
  | serving (h : m.Serving i c e)

theorem Idle.serve (h : m.Idle) (stale : ∀ i, m.current = some i → P i) (b : Backend σ) (r : Request σ) :
    (m.serve b r).Standing P := by
  cases r with
  | connect =>
    cases hc : m.current with
    | some i =>
      rw [Manager.serve, connect_of_current hc]
      exact .idle h stale
    | none =>
      rcases h.connect hc b with ⟨hi, hcur, -⟩ | ⟨i, c, e, hs, -⟩
      · exact .idle hi fun i hi => by simp [Manager.serve, hcur] at hi
      · exact .serving hs
  | disconnect =>
    obtain ⟨hi, hcur⟩ := h.disconnect b
    exact .idle hi fun i hi => by simp [Manager.serve, hcur] at hi
  | close i =>
    rw [Manager.serve, (h.dead i).close]
    exact .idle h stale
  | call i body =>
    rw [Manager.serve, Manager.transaction, (h.dead i).onConnection]
    exact .idle h stale
  | edit f => exact .idle ⟨h.closed, h.disposed, h.turns⟩ stale

theorem Serving.serve (h : m.Serving i c e) (b : Backend σ) (r : Request σ) (stale : r = .close i → P i) :
    (m.serve b r).Standing P := by
  cases r with
  | connect =>
    rw [Manager.serve, connect_of_current h.current]
    exact .serving h
  | disconnect =>
    obtain ⟨hi, hcur⟩ := h.disconnect b
    exact .idle hi fun i hi => by simp [Manager.serve, hcur] at hi
  | close j =>
    by_cases hj : j = i
    · subst hj
      refine .idle (h.close b) fun k hk => ?_
      obtain rfl : j = k := Option.some.inj ((h.current_close b).symm.trans hk)
      exact stale rfl
    · rw [Manager.serve, (h.dead hj).close]
      exact .serving h
  | call j body =>
    by_cases hj : j = i
    · subst hj
      obtain ⟨c', e', hs⟩ := h.call b body
      exact .serving hs
    · rw [Manager.serve, Manager.transaction, (h.dead hj).onConnection]
      exact .serving h
  | edit f => exact .serving ⟨h.current, h.connection, h.engine, h.opened, h.kept, h.closed, h.disposed, h.turns⟩

/-- Connection `i` was closed by itself, and not through the manager, after it had been handed out. -/
def ClosedDirectly (settings : DatabaseSettings) (rs : List (Backend σ × Request σ)) (i : Nat) : Prop :=
  ∃ past b rest, rs = past ++ (b, .close i) :: rest ∧ i < (run { settings } past).connections.length

theorem ClosedDirectly.append {settings : DatabaseSettings} {rs : List (Backend σ × Request σ)}
    (h : ClosedDirectly settings rs i) (r : Backend σ × Request σ) : ClosedDirectly settings (rs ++ [r]) i := by
  obtain ⟨past, b, rest, rfl, hi⟩ := h
  exact ⟨past, b, rest ++ [r], by simp, hi⟩

theorem standing_run (settings : DatabaseSettings) (rs : List (Backend σ × Request σ)) :
    (run { settings } rs).Standing (ClosedDirectly settings rs) := by
  induction rs using List.reverseRecOn with
  | nil => exact .idle (idle_start settings) nofun
  | append_singleton rs r ih =>
    rw [run_append]
    cases ih with
    | idle h stale => exact h.serve (fun i hi => (stale i hi).append r) r.1 r.2
    | @serving i c e h =>
      refine h.serve r.1 r.2 fun hr => ⟨rs, r.1, [], by rw [← hr], ?_⟩
      exact (List.getElem?_eq_some_iff.mp h.connection).1

/-! ## What is told -/

/-- From `m` to `m'` more events were told, of which `n` are connection errors. -/
def Tells (m m' : Manager σ) (n : Nat) : Prop :=
  ∃ new, m'.events = m.events ++ new ∧ new.countP isConnectionError = n

theorem tells_nothing (m : Manager σ) : m.Tells m 0 := ⟨[], (List.append_nil _).symm, rfl⟩

theorem Connects.tells (h : m.Connects r) : m.Tells r.1 (if r.2.isOk then 0 else 1) := by
  cases h with
  | known => exact m.tells_nothing
  | refused f => exact ⟨_, rfl, rfl⟩
  | @discarded es hes x e he f =>
    refine ⟨es ++ [.connectionError m.kind f.message], ?_, ?_⟩
    · exact List.append_assoc m.events es _
    · rw [List.countP_append, hes.connectionErrors]
      rfl
  | @opened es hes x c e hc hopen he kind fingerprint =>
    refine ⟨es ++ [.connected kind fingerprint], ?_, ?_⟩
    · exact List.append_assoc m.events es _
    · rw [List.countP_append, hes.connectionErrors]
      rfl

theorem tells_close (m : Manager σ) (b : Backend σ) (i : Nat) : m.Tells (m.close b i) 0 := by
  unfold Manager.close
  cases m.parts? i with
  | none => exact m.tells_nothing
  | some p =>
    cases hc : p.1.closed with
    | true => simpa [hc] using m.tells_nothing
    | false => simpa [hc] using ⟨_, rfl, rfl⟩

theorem tells_transaction (m : Manager σ) (b : Backend σ) (i : Nat) (body : Body σ α) :
    m.Tells (m.transaction b i (body.run b m.kind)).1 0 := by
  unfold Manager.transaction Manager.onConnection
  cases m.parts? i with
  | none => exact m.tells_nothing
  | some p =>
    cases hc : p.1.closed with
    | true => simpa [hc] using m.tells_nothing
    | false =>
      have hcalls := Session.calls_call b m.kind body (s := m.session p.1 p.2) nofun
      simpa [hc] using ⟨_, rfl, hcalls.connectionErrors⟩

/-- A failed attempt to connect tells of one connection error, and nothing else does. -/
theorem tells_serve (m : Manager σ) (b : Backend σ) (r : Request σ) :
    m.Tells (m.serve b r) (if m.fails b r then 1 else 0) := by
  cases r with
  | connect =>
    have h := (m.connects_connect b).tells
    cases hr : (m.connect b).2.isOk <;> simpa [hr, fails, Manager.serve] using h
  | disconnect =>
    unfold Manager.serve Manager.disconnect
    cases m.current with
    | none => exact m.tells_nothing
    | some i => exact m.tells_close b i
  | close i => exact m.tells_close b i
  | call i body => exact m.tells_transaction b i body
  | edit f => exact m.tells_nothing

/-- Each engine that was made has been disposed of once, unless it is that of the one open connection. Connections
come up and go down in turn, and failed attempts to connect are told of once each. -/
theorem run_lifecycle (settings : DatabaseSettings) (rs : List (Backend σ × Request σ)) :
    let m := run { settings } rs
    ((∀ e ∈ m.engines, e.disposals = 1) ∨
      ∃ i c e, m.current = some i ∧ m.connections[i]? = some c ∧ c.closed = false ∧
        m.engines[c.engine]? = some e ∧ e.disposals = 0 ∧
        ∀ k d, m.engines[k]? = some d → k ≠ c.engine → d.disposals = 1) ∧
      (∃ n, m.turns = alternation n) ∧
      ∀ b r, m.Tells (m.serve b r) (if m.fails b r then 1 else 0) := by
  intro m
  cases standing_run settings rs with
  | idle h =>
    obtain ⟨n, hn⟩ := h.turns
    exact ⟨.inl h.disposed, ⟨_, hn⟩, m.tells_serve⟩
  | serving h =>
    obtain ⟨n, hn⟩ := h.turns
    exact ⟨.inr ⟨_, _, _, h.current, h.connection, h.opened, h.engine, h.kept, h.disposed⟩, ⟨_, hn⟩, m.tells_serve⟩

end Manager

/-! ## What is handed out -/

/-- No step of an engine fails in the way in which calls on a closed connection fail. -/
structure Backend.Plain (b : Backend σ) : Prop where
  act : ∀ e s, (b.act e s).result ≠ .error .closed
  execute : ∀ sql parameters s, (b.execute sql parameters s).2.result ≠ .error .closed

/-- A query that is let through to its engine does not fail as if the connection were closed. -/
theorem Session.call_query_ne_closed {b : Backend σ} (hb : b.Plain) (kind : EngineKind) (s : Session σ) (sql : String)
    (parameters : Datum) : (s.call b ((Body.query sql parameters).run b kind)).2 ≠ .error .closed := by
  have h : True ∧ ∀ f, (s.call b ((Body.query sql parameters).run b kind)).2 = .error f → f ≠ .closed :=
    Phase.complete_keeps b (P := fun _ => True) (Q := fun f => f ≠ .closed) (fun _ h => h)
      (fun e s _ => ⟨trivial, fun f hf he => hb.act e s.engine (he ▸ hf)⟩)
      (fun s _ => ⟨trivial, fun f hf he => hb.execute sql (some parameters) s.engine (he ▸ hf)⟩) trivial nofun
  intro hc
  exact h.2 .closed hc rfl

namespace Manager

/-- An engine that does all it is asked to. -/
def willing : Backend Unit where
  fresh := .ok ()
  connect _ := { state := (), result := .ok () }
  start _ := { state := (), result := .ok () }
  execute _ _ _ := (.zero false, { state := (), result := .ok [] })
  reflect _ := { state := (), result := .ok ⟨"sqlite", [], [], []⟩ }
  commit _ := { state := (), result := .ok () }
  rollback _ := { state := (), result := .ok () }
  release _ := { state := (), result := .ok () }
  dispose _ := ((), [])

theorem plain_willing : willing.Plain := by
  constructor
  · intro e s
    cases e <;> exact nofun
  · intro sql parameters s
    exact nofun

def sqlite : DatabaseSettings := { engine := .sqlite }

end Manager

end SchemaConcord
