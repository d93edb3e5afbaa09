import Mathlib.Data.List.Count
import SchemaConcord.Proofs.Pool.Completion

/-!
# Accounting for the calls of a connection

Whatever the order in which the calls of a connection go on, and whatever its engine answers them, each connection
that a call got goes back to the pool once, each transaction ends one way, and the pool knows how many calls wait.
-/

namespace SchemaConcord

/-! ## Calls that wait

Only asking for a connection and being answered change the number of waiting calls. Whatever an engine does, and
whatever notices its pool gives meanwhile, leaves the number as it is.
-/

namespace PoolCount

@[simp] theorem waiting_notice (c : PoolCount) (n : PoolNotice) : (c.notice n).waiting = c.waiting := by
  cases n <;> rfl

@[simp] theorem waiting_foldl_notice (ns : List PoolNotice) (c : PoolCount) :
    (ns.foldl notice c).waiting = c.waiting := by
  induction ns generalizing c with
  | nil => rfl
  | cons n ns ih => rw [List.foldl_cons, ih, waiting_notice]

@[simp] theorem waiting_executed (c : PoolCount) (x : Binary64) (failed : Bool) :
    (c.executed x failed).waiting = c.waiting :=
  rfl

@[simp] theorem waiting_asked (c : PoolCount) : c.asked.waiting = c.waiting + 1 := rfl

@[simp] theorem waiting_answered (c : PoolCount) : c.answered.waiting = c.waiting - 1 := rfl

/-- What a count says about statements. -/
def tally (c : PoolCount) : Nat × Nat × List Binary64 := (c.statements, c.failures, c.latencies)

theorem tally_eq_iff {c d : PoolCount} :
    c.tally = d.tally ↔ c.statements = d.statements ∧ c.failures = d.failures ∧ c.latencies = d.latencies := by
  simp [tally]

@[simp] theorem tally_notice (c : PoolCount) (n : PoolNotice) : (c.notice n).tally = c.tally := by
  cases n <;> rfl

@[simp] theorem tally_foldl_notice (ns : List PoolNotice) (c : PoolCount) : (ns.foldl notice c).tally = c.tally := by
  induction ns generalizing c with
  | nil => rfl
  | cons n ns ih => rw [List.foldl_cons, ih, tally_notice]

@[simp] theorem tally_asked (c : PoolCount) : c.asked.tally = c.tally := rfl

@[simp] theorem tally_answered (c : PoolCount) : c.answered.tally = c.tally := rfl

end PoolCount

namespace Session

variable (s : Session σ) (b : Backend σ) (kind : EngineKind)

@[simp] theorem waiting_hear (r : Reply σ α) : (s.hear r).count.waiting = s.count.waiting :=
  PoolCount.waiting_foldl_notice _ _

@[simp] theorem waiting_perform (f : σ → Reply σ α) : (s.perform f).1.count.waiting = s.count.waiting :=
  s.waiting_hear _

@[simp] theorem waiting_executeQuietly (sql : String) (parameters : Option Datum) :
    (s.executeQuietly b sql parameters).1.count.waiting = s.count.waiting :=
  s.waiting_hear _

@[simp] theorem waiting_execute (sql : String) (parameters : Datum) :
    (s.execute b kind sql parameters).1.count.waiting = s.count.waiting :=
  s.waiting_executeQuietly b sql (some parameters)

theorem waiting_act (e : EngineStep) :
    (s.act b e).1.count.waiting = if e = .connect then s.count.waiting - 1 else s.count.waiting := by
  by_cases h : e = .connect <;> simp [act, h]

@[simp] theorem waiting_dispose : (s.dispose b kind).count.waiting = s.count.waiting :=
  PoolCount.waiting_foldl_notice _ _

end Session

@[simp] theorem Body.waiting_step (b : Backend σ) (kind : EngineKind) (s : Session σ) (body : Body σ α) :
    (body.step b kind s).1.count.waiting = s.count.waiting := by
  cases body <;> simp [Body.step]

/-! ## What the calls did -/

open CallDeed

namespace CallDeed

def isAsked : CallDeed α → Bool
  | .asked => true
  | _ => false

/-- An attempt at a step of the engine. -/
def attempts (e : EngineStep) : CallDeed α → Bool
  | .engine e' _ => e = e'
  | _ => false

/-- A step of the engine that went well. -/
def achieves (e : EngineStep) : CallDeed α → Bool
  | .engine e' (.ok _) => e = e'
  | _ => false

def endsWell : CallDeed α → Bool
  | .ended (.ok _) => true
  | _ => false

def endsBadly : CallDeed α → Bool
  | .ended (.error _) => true
  | _ => false

def fault? : CallDeed α → Option ConnectionFault
  | .turnedAway => some .closed
  | .engine _ (.error f) => some f
  | .ended (.error f) => some f
  | _ => none

end CallDeed

def Phase.isWaiting : Phase α → Bool
  | .waiting => true
  | _ => false

/-- A call has asked for a connection, and was neither given nor refused one yet. -/
def OngoingCall.awaits (c : OngoingCall σ α) : Bool :=
  c.deeds.any isAsked && !c.deeds.any (attempts .connect)

/-- A call that is what it should be in the light of its record. -/
structure OngoingCall.Accounted (c : OngoingCall σ α) : Prop where
  /-- At most one connection is taken, and no more are released than were taken. -/
  taken_le : c.deeds.countP (achieves .connect) ≤ 1
  released_le : c.deeds.countP (attempts .release) ≤ c.deeds.countP (achieves .connect)
  released : c.phase = .finished r → c.deeds.countP (attempts .release) = c.deeds.countP (achieves .connect)
  /-- Work is done in a transaction, and ends once at most. -/
  begun : c.deeds.any endsWell ∨ c.deeds.any endsBadly → c.deeds.any (achieves .start)
  ended_le : c.deeds.countP endsWell + c.deeds.countP endsBadly ≤ 1
  /-- Commits follow work that ended well, and that only. -/
  committed_le : c.deeds.countP (attempts .commit) ≤ c.deeds.countP endsWell
  committed : c.phase = .finished r → c.deeds.countP (attempts .commit) = c.deeds.countP endsWell
  rolledBack : c.phase = .finished r → c.deeds.any endsBadly → c.deeds.any (attempts .rollback)
  kept : c.deeds.any (achieves .commit) → ¬c.deeds.any (attempts .rollback)
  /-- The value of the work is returned after a commit, when nothing failed; else the last fault is. -/
  returned : c.phase = .finished (.ok a) →
    .ended (.ok a) ∈ c.deeds ∧ c.deeds.any (achieves .commit) ∧ c.deeds.filterMap CallDeed.fault? = []
  raised : c.phase = .finished (.error f) → (c.deeds.filterMap CallDeed.fault?).getLast? = some f

section

attribute [local simp] taken begun isAsked attempts achieves endsWell endsBadly CallDeed.fault? OngoingCall.awaits
  List.countP_cons List.findSome?_cons

theorem OngoingCall.Recorded.accounted {c : OngoingCall σ α} (h : c.Recorded) : c.Accounted := by
  rcases c with ⟨body, p, l⟩
  cases p with
  | asking | waiting | starting | working | committing a =>
    obtain rfl := h
    constructor <;> simp
  | undoing f =>
    cases h with
    | work | commit => constructor <;> simp
  | releasing r =>
    cases h with
    | start | committed => constructor <;> simp
    | undone hf | stuck hf => cases hf <;> constructor <;> simp
  | finished r =>
    cases h with
    | turnedAway | refused => constructor <;> simp
    | released hs | unreleased hs =>
      cases hs with
      | start | committed => constructor <;> simp
      | undone hf | stuck hf => cases hf <;> constructor <;> simp

theorem Failing.connected {l : List (CallDeed α)} (h : Failing f l) : l.any (attempts .connect) = true := by
  cases h <;> simp

theorem Settled.connected {l : List (CallDeed α)} (h : Settled r l) : l.any (attempts .connect) = true := by
  cases h with
  | start | committed => simp
  | undone hf | stuck hf => simp only [List.any_append, hf.connected, Bool.true_or]

theorem Over.awaits {l : List (CallDeed α)} (h : Over r l) :
    (l.any isAsked && !l.any (attempts .connect)) = false := by
  cases h with
  | turnedAway | refused => simp
  | released hs | unreleased hs =>
    simp only [List.any_append, hs.connected, Bool.true_or, Bool.not_true, Bool.and_false]

theorem OngoingCall.Recorded.awaits_eq {c : OngoingCall σ α} (h : c.Recorded) : c.awaits = c.phase.isWaiting := by
  rcases c with ⟨body, p, l⟩
  cases p with
  | asking | waiting | starting | working | committing a =>
    obtain rfl := h
    simp [Phase.isWaiting]
  | undoing f => simp [Phase.isWaiting, Failing.connected h]
  | releasing r => simp [Phase.isWaiting, Settled.connected h]
  | finished r => exact Over.awaits h

end

/-! ## The count of waiting calls -/

namespace Phase

@[simp] theorem isWaiting_asking : (asking : Phase α).isWaiting = false := rfl

@[simp] theorem isWaiting_waiting : (waiting : Phase α).isWaiting = true := rfl

@[simp] theorem isWaiting_working : (working : Phase α).isWaiting = false := rfl

@[simp] theorem isWaiting_finished (r : Except ConnectionFault α) : (finished r).isWaiting = false := rfl

theorem isWaiting_of_engineStep {p : Phase α} (h : p.engineStep? = some e) :
    p.isWaiting = decide (e = .connect) := by
  cases p <;> cases h <;> rfl

theorem isWaiting_next {p : Phase α} (h : p.engineStep? = some e) (r : Except ConnectionFault Unit) :
    (p.next r).isWaiting = false := by
  cases p <;> cases h <;> cases r <;> rfl

@[simp] theorem isWaiting_afterWork (r : Except ConnectionFault α) : (afterWork r).isWaiting = false := by
  cases r <;> rfl

end Phase

/-- A step of a call changes the count of waiting calls as it changes whether the call waits. -/
theorem OngoingCall.Steps.waiting {c : OngoingCall σ α} (hs : c.Steps b kind closed s r)
    (hw : c.phase.isWaiting = true → 0 < s.count.waiting) :
    r.1.count.waiting + (if c.phase.isWaiting = true then 1 else 0) =
      s.count.waiting + (if r.2.phase.isWaiting = true then 1 else 0) := by
  cases hs with
  | @engine e hp =>
    by_cases he : e = .connect
    · have := hw (by simp [Phase.isWaiting_of_engineStep hp, he])
      simp only [Session.waiting_act, enter_phase, Phase.isWaiting_next hp, Phase.isWaiting_of_engineStep hp, he,
        decide_true, if_true, Bool.false_eq_true, if_false]
      omega
    · simp [Session.waiting_act, Phase.isWaiting_next hp, Phase.isWaiting_of_engineStep hp, he]
  | turnedAway hp => simp [hp]
  | asked hp => simp [hp]
  | ended hp hb => simp [hp]
  | work hp hb => simp [hp]
  | finished hp => rfl

namespace Traffic

/-- The count of waiting calls of a connection exceeds that of its calls by `n`, which others made. -/
def Counted (n : Nat) (t : Traffic σ α) : Prop :=
  t.session.count.waiting = n + t.calls.countP fun c => c.phase.isWaiting

theorem counted_start (s : Session σ) (closed : Bool) (bodies : List (Body σ α)) :
    (start s closed bodies).Counted s.count.waiting := by
  simp [Counted, start]

theorem Counted.step {t : Traffic σ α} (h : t.Counted n) (kind : EngineKind) (move : TrafficMove σ) :
    (t.step kind move).Counted n := by
  cases move with
  | close b => cases hc : t.closed <;> simpa [Traffic.step, hc, Counted] using h
  | call i b =>
    cases hi : t.calls[i]? with
    | none => simpa [Traffic.step, hi] using h
    | some c =>
      obtain ⟨hlt, rfl⟩ := List.getElem?_eq_some_iff.mp hi
      have hpos : t.calls[i].phase.isWaiting = true → 0 < t.calls.countP fun c => c.phase.isWaiting :=
        fun hw => List.countP_pos_iff.mpr ⟨_, List.getElem_mem hlt, hw⟩
      have hcount : t.session.count.waiting = n + t.calls.countP fun c => c.phase.isWaiting := h
      have hstep := (t.calls[i].steps_step b kind t.closed t.session).waiting fun hw => by have := hpos hw; omega
      have hle : (if t.calls[i].phase.isWaiting = true then 1 else 0) ≤ t.calls.countP fun c => c.phase.isWaiting := by
        split
        · exact hpos ‹_›
        · exact Nat.zero_le _
      simp only [Counted, Traffic.step, hi, List.countP_set hlt]
      omega

theorem Counted.run {t : Traffic σ α} (h : t.Counted n) (kind : EngineKind) (moves : List (TrafficMove σ)) :
    (t.run kind moves).Counted n := by
  induction moves generalizing t with
  | nil => exact h
  | cons move moves ih => exact ih (h.step kind move)

theorem length_step (kind : EngineKind) (t : Traffic σ α) (move : TrafficMove σ) :
    (t.step kind move).calls.length = t.calls.length := by
  cases move with
  | close b => cases hc : t.closed <;> simp [step, hc]
  | call i b => cases hi : t.calls[i]? <;> simp [step, hi]

theorem length_run (kind : EngineKind) (t : Traffic σ α) (moves : List (TrafficMove σ)) :
    (t.run kind moves).calls.length = t.calls.length := by
  induction moves generalizing t with
  | nil => rfl
  | cons move moves ih => exact (ih (t.step kind move)).trans (length_step kind t move)

/-- However calls on a connection interleave, and whatever becomes of the steps of each, every call is accounted
for and the calls counted as waiting are those that wait. A call that gets its turn again and again is over one day. -/
theorem run_accounted (kind : EngineKind) (s : Session σ) (closed : Bool) (bodies : List (Body σ α))
    (moves : List (TrafficMove σ)) :
    let t := (start s closed bodies).run kind moves
    t.calls.length = bodies.length ∧
      t.session.count.waiting = s.count.waiting + t.calls.countP OngoingCall.awaits ∧
      (∀ c ∈ t.calls, c.Accounted) ∧
      ∀ later i, i < bodies.length → Attends later i →
        ∃ n c r, (t.run kind ((List.range n).map later)).calls[i]? = some c ∧ c.phase = .finished r ∧ c.Accounted := by
  intro t
  have hr : t.Recorded := (recorded_start s closed bodies).run kind moves
  have hlen : t.calls.length = bodies.length := by simp [t, length_run, start]
  have hwait : t.calls.countP OngoingCall.awaits = t.calls.countP fun c => c.phase.isWaiting :=
    List.countP_congr fun c hc => by rw [(hr c hc).awaits_eq]
  refine ⟨hlen, ?_, fun c hc => (hr c hc).accounted, fun later i hi hfair => ?_⟩
  · rw [hwait]
    exact (counted_start s closed bodies).run kind moves
  · obtain ⟨n, c, r, hc, hphase⟩ := t.exists_finished kind (List.getElem?_eq_getElem (hlen ▸ hi)) hfair
    exact ⟨n, c, r, hc, hphase, (hr.run kind _ c (List.mem_of_getElem? hc)).accounted⟩

end Traffic

end SchemaConcord
