import SchemaConcord.Proofs.Pool.Accounting
import SchemaConcord.Proofs.Pool.Lifecycle

/-!
# What a query adds to the counts

A query is counted when its statement was executed, and as failed when the statement failed. The counts are right about
a query that returns its rows and about one whose statement fails. One that fails for lack of a connection or a
transaction is not counted at all, and one that cannot be committed, or whose connection cannot be released, is counted
as one that went well (`Manager.query_counted_iff`).
-/

namespace SchemaConcord

namespace PoolCount

/-- From `before` to `after` some statements were added, with the results given. -/
structure Adds (before after : PoolCount) (results : List (Except ConnectionFault α)) : Prop where
  statements : after.statements = before.statements + results.length
  failures : after.failures = before.failures + results.countP fun r => !r.isOk

theorem Adds.congr {before after after' : PoolCount} {results : List (Except ConnectionFault α)}
    (h : before.Adds after results) (ht : after'.tally = after.tally) : before.Adds after' results := by
  obtain ⟨hstatements, hfailures, -⟩ := tally_eq_iff.mp ht
  exact ⟨hstatements.trans h.statements, hfailures.trans h.failures⟩

end PoolCount

open PoolCount

namespace Session

variable (s : Session σ) (b : Backend σ) (kind : EngineKind)

theorem tally_act (e : EngineStep) : (s.act b e).1.count.tally = s.count.tally := by
  have hperform : (s.perform (b.act e)).1.count.tally = s.count.tally := tally_foldl_notice _ _
  by_cases he : e = .connect
  · simpa only [act, if_pos he, tally_answered] using hperform
  · simpa only [act, if_neg he] using hperform

theorem adds_execute {before : PoolCount} (h : before.tally = s.count.tally) (sql : String) (parameters : Datum) :
    before.Adds (s.execute b kind sql parameters).1.count [(s.execute b kind sql parameters).2] := by
  have hheard : (s.executeQuietly b sql (some parameters)).1.count.tally = before.tally :=
    (tally_foldl_notice _ _).trans h.symm
  obtain ⟨hstatements, hfailures, -⟩ := tally_eq_iff.mp hheard
  have hresult : (s.execute b kind sql parameters).2 = (s.executeQuietly b sql (some parameters)).2 := rfl
  rw [hresult]
  constructor
  · exact congrArg (· + 1) hstatements
  · simp only [execute, executed, hfailures]
    cases (s.executeQuietly b sql (some parameters)).2 <;> simp [Except.isOk, Except.toBool]

end Session

/-! ## The call of a query -/

def CallDeed.result? : CallDeed α → Option (Except ConnectionFault α)
  | .ended r => some r
  | _ => none

/-- What the work of a call ended with, if it came to that. -/
def OngoingCall.results (c : OngoingCall σ α) : List (Except ConnectionFault α) := c.deeds.filterMap CallDeed.result?

@[simp] theorem OngoingCall.results_enter (c : OngoingCall σ α) (p : Phase α) (d : CallDeed α) :
    (c.enter p d).results = c.results ++ d.result?.toList := by
  rw [results, enter, List.filterMap_append]
  cases h : d.result? <;> simp [h, results]

/-- How far a query is, and what has been counted of it. -/
inductive QueryStage (before : PoolCount) (sql : String) (parameters : Datum) (s : Session σ)
    (c : OngoingCall σ (List Row)) : Prop
  | ahead (body : c.body = .query sql parameters) (count : before.tally = s.count.tally) (results : c.results = [])
  | executed (body : c.body = .ended r) (phase : c.phase = .working) (count : before.Adds s.count [r])
    (results : c.results = [])
  | behind (phase : c.phase.rank < 4) (count : before.Adds s.count [r]) (results : c.results = [r])

namespace QueryStage

variable {before : PoolCount} {sql : String} {parameters : Datum} {b : Backend σ} {kind : EngineKind} {closed : Bool}
  {s : Session σ} {c : OngoingCall σ (List Row)} {x : Session σ × OngoingCall σ (List Row)}

theorem next (h : QueryStage before sql parameters s c) (hs : c.Steps b kind closed s x) :
    QueryStage before sql parameters x.1 x.2 := by
  -- Only the statement itself counts a query; before and behind it the call moves connections.
  cases h with
  | ahead body count results =>
    cases hs with
    | engine =>
      refine .ahead body (count.trans (s.tally_act b _).symm) ?_
      rw [OngoingCall.results_enter, results]
      rfl
    | turnedAway =>
      refine .ahead body count ?_
      rw [OngoingCall.results_enter, results]
      rfl
    | asked =>
      refine .ahead body count ?_
      rw [OngoingCall.results_enter, results]
      rfl
    | ended _ hb =>
      rw [body] at hb
      cases hb
    | work hp =>
      rw [body]
      exact .executed rfl hp (s.adds_execute b kind count sql parameters) results
    | finished => exact .ahead body count results
  | executed body phase count results =>
    cases hs with
    | ended hp hb =>
      cases body.symm.trans hb
      refine .behind (Phase.rank_afterWork _) count ?_
      rw [OngoingCall.results_enter, results]
      rfl
    | work _ hb => exact absurd body (hb _)
    | engine hp | turnedAway hp | asked hp | finished hp =>
      rw [phase] at hp
      cases hp
  | behind phase count results =>
    cases hs with
    | engine hp =>
      refine .behind (Nat.lt_trans (Phase.rank_next hp _) phase) (count.congr (s.tally_act b _)) ?_
      rw [OngoingCall.results_enter, results]
      rfl
    | finished => exact .behind phase count results
    | turnedAway hp | asked hp | ended hp | work hp =>
      rw [hp] at phase
      simp [Phase.rank] at phase

/-- A query that has its connection for itself keeps to its stages. -/
theorem run (h : QueryStage before sql parameters s c) (closed : Bool) (b : Backend σ) (kind : EngineKind) (n : Nat) :
    ∃ s' c', Traffic.run kind ⟨s, closed, [c]⟩ (List.replicate n (.call 0 b)) = ⟨s', closed, [c']⟩ ∧
      QueryStage before sql parameters s' c' := by
  induction n generalizing s c with
  | zero => exact ⟨s, c, rfl, h⟩
  | succ n ih => exact ih (h.next (c.steps_step b kind closed s))

/-- When a query is over, what was counted is what its statement came to. -/
theorem adds (h : QueryStage before sql parameters s c) (hover : c.phase = .finished r) :
    before.Adds s.count c.results := by
  cases h with
  | ahead _ count results =>
    rw [results]
    exact Adds.congr ⟨rfl, rfl⟩ count.symm
  | executed _ phase =>
    rw [phase] at hover
    cases hover
  | behind _ count results =>
    rw [results]
    exact count

theorem length_results (h : QueryStage before sql parameters s c) : c.results.length ≤ 1 := by
  cases h with
  | ahead _ _ results => simp [results]
  | executed _ _ _ results => simp [results]
  | behind _ _ results => simp [results]

end QueryStage

/-- A call that returns a value has that of its work. -/
theorem OngoingCall.Accounted.mem_results {c : OngoingCall σ α} (h : c.Accounted) (hover : c.phase = .finished (.ok a)) :
    .ok a ∈ c.results :=
  List.mem_filterMap.mpr ⟨_, (h.returned hover).1, rfl⟩

/-! ## Counting queries right -/

/-- From `before` to `after` one statement was added, which failed just when the query did. -/
def PoolCount.CountsQuery (before after : PoolCount) (r : Except ConnectionFault α) : Prop :=
  after.statements = before.statements + 1 ∧ after.failures = before.failures + if r.isOk then 0 else 1

theorem QueryStage.countsQuery_iff {before : PoolCount} {s : Session σ} {c : OngoingCall σ (List Row)}
    {r : Except ConnectionFault (List Row)} (h : QueryStage before sql parameters s c) (hc : c.Accounted)
    (hover : c.phase = .finished r) :
    before.CountsQuery s.count r ↔ r.isOk = true ∨ ∃ f, .error f ∈ c.results := by
  obtain ⟨hstatements, hfailures⟩ := h.adds hover
  have hlength := h.length_results
  unfold CountsQuery
  cases hl : c.results with
  | nil =>
    refine iff_of_false (fun hcounts => ?_) ?_
    · rw [hcounts.1, hl] at hstatements
      simp at hstatements
    · rintro (hr | ⟨f, hf⟩)
      · cases r with
        | ok a => simpa [hl] using hc.mem_results hover
        | error f => cases hr
      · cases hf
  | cons x l =>
    obtain rfl : l = [] := by
      rw [hl, List.length_cons, Nat.succ_le_succ_iff, Nat.le_zero] at hlength
      exact List.eq_nil_of_length_eq_zero hlength
    rw [hl] at hstatements hfailures
    cases r with
    | ok a =>
      obtain rfl : .ok a = x := by simpa [hl] using hc.mem_results hover
      refine iff_of_true ⟨hstatements, hfailures⟩ (.inl rfl)
    | error g =>
      rw [hstatements, hfailures]
      cases x <;> simp [Except.isOk, Except.toBool]

namespace Manager

variable {m : Manager σ} {c : PoolConnection} {e : Engine σ}

/-- A query on an open connection leaves a record of its steps, and is counted by what its statement came to. That
counts it once, and as failed just when it fails, if and only if it returns its rows or its statement is what failed. -/
theorem query_counted_iff (hparts : m.parts? i = some (c, e)) (hopen : c.closed = false) (b : Backend σ) (sql : String)
    (parameters : Datum) :
    ∃ (n : Nat) (s : Session σ) (call : OngoingCall σ (List Row)),
      (Traffic.start (m.session c e) false [.query sql parameters]).run m.kind (List.replicate n (.call 0 b)) =
          ⟨s, false, [call]⟩ ∧
        call.phase = .finished (m.query b i sql parameters).2 ∧ (m.query b i sql parameters).1.count? i = some s.count ∧
        c.count.Adds s.count call.results ∧
        (c.count.CountsQuery s.count (m.query b i sql parameters).2 ↔
          (m.query b i sql parameters).2.isOk = true ∨ ∃ f, .error f ∈ call.results) := by
  have hquery : m.query b i sql parameters =
      (m.resume i c e ((m.session c e).call b ((Body.query sql parameters).run b m.kind)).1,
        ((m.session c e).call b ((Body.query sql parameters).run b m.kind)).2) := by
    rw [query_eq, transaction, onConnection, hparts]
    simp [hopen]
  obtain ⟨n, call, hrun, hover⟩ := Traffic.run_alone b m.kind (m.session c e) (.query sql parameters)
  have hstart : QueryStage c.count sql parameters (m.session c e) { body := .query sql parameters } := .ahead rfl rfl rfl
  obtain ⟨s, call', hrun', hstage⟩ := hstart.run false b m.kind n
  cases hrun.symm.trans hrun'
  have hcall : call.Accounted := by
    have hrecorded := (Traffic.recorded_start (m.session c e) false [.query sql parameters]).run m.kind
      (List.replicate n (.call 0 b))
    rw [hrun] at hrecorded
    exact (hrecorded call (List.mem_singleton_self _)).accounted
  obtain ⟨hi, -⟩ := List.getElem?_eq_some_iff.mp (parts?_eq_some_iff.mp hparts).1
  rw [hquery]
  refine ⟨n, _, call, hrun, hover, ?_, hstage.adds hover, hstage.countsQuery_iff hcall hover⟩
  rw [count?, resume, List.getElem?_set_self hi]
  rfl

/-! ## A query that cannot be committed -/

/-- A manager with one open connection. -/
def serving : Manager Unit where
  settings := sqlite
  engines := [⟨(), 0⟩]
  connections := [⟨0, false, {}⟩]
  current := some 0

/-- An engine that does all it is asked to but commit. -/
def uncommitting : Backend Unit :=
  { willing with commit := fun _ => { state := (), result := .error (.refused "disk full") } }

theorem query_counted_iff_uncommitted :
    let c : PoolConnection := ⟨0, false, {}⟩
    let x := serving.query uncommitting 0 "DELETE FROM orders" (.record [])
    serving.parts? 0 = some (c, ⟨(), 0⟩) ∧ c.closed = false ∧ x.2 = .error (.refused "disk full") ∧
      ∃ count, x.1.count? 0 = some count ∧ ¬c.count.CountsQuery count x.2 := by
  intro c x
  have hresult : x.2 = .error (.refused "disk full") := by decide +kernel
  have hcount : x.1.count? 0 = some { statements := 1, latencies := [.zero false] } := by decide +kernel
  obtain ⟨n, s, call, -, -, hs, hadds, hiff⟩ :=
    query_counted_iff (m := serving) (i := 0) (c := c) (e := ⟨(), 0⟩) rfl rfl uncommitting "DELETE FROM orders" (.record [])
  refine ⟨rfl, rfl, hresult, s.count, hs, fun hright => ?_⟩
  have hfailures : s.count.failures = 0 := by
    rw [Option.some.inj (hs.symm.trans hcount)]
  rw [hadds.failures, Nat.add_eq_zero_iff, List.countP_eq_zero] at hfailures
  rcases hiff.mp hright with hok | ⟨f, hf⟩
  · rw [show (serving.query uncommitting 0 "DELETE FROM orders" (.record [])).2 = _ from hresult] at hok
    cases hok
  · exact hfailures.2 _ hf rfl

end Manager

end SchemaConcord
