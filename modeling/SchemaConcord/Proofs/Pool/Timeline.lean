import Mathlib.Data.List.DropRight
import Mathlib.Data.List.Perm.Subperm
import SchemaConcord.Pool.Timeline
import SchemaConcord.Proofs.Lists
import SchemaConcord.Proofs.Pool.Accounting

/-!
# Counts at rest

However statements overlap, when none runs the counts say what happened: how many statements there were, how many of
them failed, and how long the last ones took (`Watch.run_counted`). The connections in use are those taken and not
returned, and the open ones are those opened and not closed, as long as the pool does not tell of the end of something
before its beginning. Calls and their steps are such a timeline, in which statements happen one after the other
(`Traffic.exists_timeline`).
-/

namespace SchemaConcord

/-! ## Notices in order -/

namespace Happening

def isBegan : Happening → Bool
  | .began => true
  | _ => false

/-- The connection that a notice is about. -/
def heard? (n : PoolNotice) : Happening → Option Nat
  | .told connection m => if m = n then some connection else none
  | _ => none

/-- The connections that a notice was given of, in order. -/
def heard (n : PoolNotice) (ts : List Happening) : List Nat := ts.filterMap (heard? n)

/-- If a connection goes down with this, it came up more often than it went down before. -/
def Follows (up down : PoolNotice) (past : List Happening) (t : Happening) : Prop :=
  ∀ c ∈ t.heard? down, (heard down past).count c < (heard up past).count c

instance : Decidable (Follows up down past t) := inferInstanceAs (Decidable (∀ c ∈ t.heard? down, _))

/-- No connection goes down before it came up. -/
def Paired (up down : PoolNotice) (ts : List Happening) : Prop :=
  ∀ k (hk : k < ts.length), Follows up down (ts.take k) ts[k]

instance : Decidable (Paired up down ts) := inferInstanceAs (Decidable (∀ k (_ : k < ts.length), _))

/-- No connection is returned before it was taken, or closed before it was opened. -/
def InOrder (ts : List Happening) : Prop := Paired .taken .returned ts ∧ Paired .opened .closed ts

instance : Decidable (InOrder ts) := inferInstanceAs (Decidable (_ ∧ _))

@[simp] theorem heard_append (n : PoolNotice) (ts us : List Happening) :
    heard n (ts ++ us) = heard n ts ++ heard n us :=
  List.filterMap_append

@[simp] theorem heard_singleton (n : PoolNotice) (t : Happening) : heard n [t] = (t.heard? n).toList := by
  cases h : t.heard? n <;> simp [heard, h]

namespace Paired

variable {up down : PoolNotice} {ts us : List Happening} {t : Happening}

theorem left (h : Paired up down (ts ++ us)) : Paired up down ts := by
  intro k hk
  have hfollows := h k (by rw [List.length_append]; omega)
  rwa [List.take_append_of_le_length (Nat.le_of_lt hk), List.getElem_append_left hk] at hfollows

theorem follows (h : Paired up down (ts ++ t :: us)) : Follows up down ts t := by
  simpa using h ts.length (by simp)

theorem count_le (h : Paired up down ts) (c : Nat) : (heard down ts).count c ≤ (heard up ts).count c := by
  induction ts using List.reverseRecOn with
  | nil => exact Nat.le_refl _
  | append_singleton ts t ih =>
    have hts := ih h.left
    rw [heard_append, heard_append, List.count_append, List.count_append, heard_singleton down]
    by_cases hc : t.heard? down = some c
    · have hlt := h.follows c hc
      have hone : (t.heard? down).toList.count c = 1 := by simp [hc]
      omega
    · have hnone : (t.heard? down).toList.count c = 0 := by simpa [List.count_eq_zero] using hc
      omega

theorem length_le (h : Paired up down ts) : (heard down ts).length ≤ (heard up ts).length :=
  (List.subperm_ext_iff.mpr fun c _ => h.count_le c).length_le

end Paired

end Happening

open Happening

/-! ## Levels -/

/-- A level of a count that goes up with one notice and down with another. -/
structure PoolCount.Gauge (up down : PoolNotice) (level : PoolCount → Nat) : Prop where
  raised : ∀ c, level (c.notice up) = level c + 1
  lowered : ∀ c, level (c.notice down) = level c - 1
  other : ∀ c n, n ≠ up → n ≠ down → level (c.notice n) = level c
  asked : ∀ c, level c.asked = level c
  answered : ∀ c, level c.answered = level c
  executed : ∀ c latency failed, level (c.executed latency failed) = level c

theorem PoolCount.Gauge.ne (g : Gauge up down level) : up ≠ down := by
  rintro rfl
  have := (g.raised {}).symm.trans (g.lowered {})
  omega

theorem PoolCount.gauge_active : Gauge .taken .returned active where
  raised _ := rfl
  lowered _ := rfl
  other c n hup hdown := by cases n <;> first | rfl | contradiction
  asked _ := rfl
  answered _ := rfl
  executed _ _ _ := rfl

theorem PoolCount.gauge_total : Gauge .opened .closed total where
  raised _ := rfl
  lowered _ := rfl
  other c n hup hdown := by cases n <;> first | rfl | contradiction
  asked _ := rfl
  answered _ := rfl
  executed _ _ _ := rfl

namespace Watch

variable {kind : EngineKind} {w : Watch} {ts us : List Happening}

theorem run_append (w : Watch) (ts us : List Happening) : w.run kind (ts ++ us) = (w.run kind ts).run kind us :=
  List.foldl_append

section

variable {up down : PoolNotice} {level : PoolCount → Nat}

theorem level_step (g : PoolCount.Gauge up down level) (kind : EngineKind) (w : Watch) (t : Happening) :
    level (w.step kind t).count = level w.count + (heard up [t]).length - (heard down [t]).length := by
  cases t with
  | told c n =>
    by_cases hup : n = up
    · obtain rfl := hup
      simp [step, heard?, g.raised, g.ne]
    · by_cases hdown : n = down
      · obtain rfl := hdown
        simp [step, heard?, g.lowered, hup]
      · simp [step, heard?, g.other w.count n hup hdown, hup, hdown]
  | ended i e => cases hi : w.running[i]? <;> simp [step, hi, finish, heard?, g.executed]
  | asked => simp [step, heard?, g.asked]
  | answered => simp [step, heard?, g.answered]
  | time | began | disposed => simp [step, heard?]

/-- A level is what it was, with what came up and without what went down. -/
theorem level_run (g : PoolCount.Gauge up down level) (h : Paired up down ts) :
    level (w.run kind ts).count + (heard down ts).length = level w.count + (heard up ts).length := by
  induction ts using List.reverseRecOn with
  | nil => rfl
  | append_singleton ts t ih =>
    have hbefore := ih h.left
    have hpaired := h.length_le
    have hstep := level_step g kind (w.run kind ts) t
    have hrun : w.run kind (ts ++ [t]) = (w.run kind ts).step kind t := w.run_append ts [t]
    rw [heard_append, heard_append, List.length_append, List.length_append] at hpaired
    rw [hrun, hstep, heard_append, heard_append, List.length_append, List.length_append]
    omega

/-- No level is lowered from zero. -/
theorem level_pos (g : PoolCount.Gauge up down level) (h : Paired up down (ts ++ .told c down :: us)) :
    0 < level (w.run kind ts).count := by
  have hpaired : Paired up down (ts ++ [.told c down]) := by
    rw [List.append_cons] at h
    exact h.left
  have hlength : (heard down ts).length + 1 ≤ (heard up ts).length := by
    simpa [heard?, g.ne.symm] using hpaired.length_le
  have hlevel : level (w.run kind ts).count + _ = _ := level_run g hpaired.left
  omega

end

/-! ## Statements -/

/-- The counts say what the statements did that are over. -/
structure Counted (w : Watch) : Prop where
  statements : w.count.statements = w.finished.length
  failures : w.count.failures = w.finished.countP (·.failed)
  latencies : w.count.latencies = (w.finished.map (·.latency)).reverse.take latencyWindow

theorem Counted.failures_le (h : Counted w) : w.count.failures ≤ w.count.statements := by
  rw [h.failures, h.statements]
  exact List.countP_le_length

theorem Counted.length_latencies (h : Counted w) : w.count.latencies.length = min w.count.statements latencyWindow := by
  rw [h.latencies, h.statements, List.length_take, List.length_reverse, List.length_map, Nat.min_comm]

theorem Counted.congr {w' : Watch} (h : Counted w) (hcount : w'.count.tally = w.count.tally)
    (hfinished : w'.finished = w.finished) : Counted w' := by
  obtain ⟨hstatements, hfailures, hlatencies⟩ := PoolCount.tally_eq_iff.mp hcount
  exact ⟨by rw [hstatements, hfinished, h.statements], by rw [hfailures, hfinished, h.failures],
    by rw [hlatencies, hfinished, h.latencies]⟩

theorem Counted.finish (h : Counted w) (kind : EngineKind) (began : Binary64) (e : StatementEnd) :
    Counted (w.finish kind began e) where
  statements := by simp [Watch.finish, PoolCount.executed, h.statements]
  failures := by cases he : e.isFailed <;> simp [Watch.finish, PoolCount.executed, h.failures, he]
  latencies := by
    rw [Watch.finish, PoolCount.executed, h.latencies, List.map_append, List.reverse_append]
    exact take_cons_take latencyWindow _ _

theorem Counted.step (h : Counted w) (kind : EngineKind) (t : Happening) : Counted (w.step kind t) := by
  cases t with
  | ended i e =>
    cases hi : w.running[i]? with
    | none => simpa [Watch.step, hi] using h
    | some began =>
      have hrest : Counted { w with running := w.running.eraseIdx i } := h.congr rfl rfl
      simpa [Watch.step, hi] using hrest.finish kind began e
  | told c n => exact h.congr (PoolCount.tally_notice _ n) rfl
  | time | asked | answered | began | disposed => exact h.congr rfl rfl

theorem Counted.run (h : Counted w) (kind : EngineKind) (ts : List Happening) : Counted (w.run kind ts) := by
  induction ts generalizing w with
  | nil => exact h
  | cons t ts ih => exact ih (h.step kind t)

/-- A statement that began is over or runs. -/
theorem finished_step (kind : EngineKind) (w : Watch) (t : Happening) :
    (w.step kind t).finished.length + (w.step kind t).running.length =
      w.finished.length + w.running.length + if t.isBegan = true then 1 else 0 := by
  cases t with
  | ended i e =>
    cases hi : w.running[i]? with
    | none => simp [step, hi, isBegan]
    | some began =>
      obtain ⟨hlt, -⟩ := List.getElem?_eq_some_iff.mp hi
      simp [step, hi, finish, isBegan, ← List.length_eraseIdx_add_one hlt, Nat.add_assoc, Nat.add_comm 1]
  | began => simp [step, isBegan, Nat.add_assoc]
  | time | asked | answered | told | disposed => simp [step, isBegan]

theorem finished_run (kind : EngineKind) (w : Watch) (ts : List Happening) :
    (w.run kind ts).finished.length + (w.run kind ts).running.length =
      w.finished.length + w.running.length + ts.countP isBegan := by
  induction ts generalizing w with
  | nil => rfl
  | cons t ts ih =>
    have hrun : w.run kind (t :: ts) = (w.step kind t).run kind ts := rfl
    rw [hrun, ih, finished_step, List.countP_cons, Nat.add_assoc, Nat.add_comm (ts.countP isBegan)]

/-! ## Times of statements -/

/-- A statement of a timeline: the clock showed its times when it began and when it ended. -/
def Happened (kind : EngineKind) (w : Watch) (ts : List Happening) (e : EndedStatement) : Prop :=
  ∃ past mid rest i x, ts = past ++ .began :: mid ++ .ended i x :: rest ∧
    e = ⟨(w.run kind past).clock, (w.run kind (past ++ .began :: mid)).clock, x.isFailed⟩

theorem mem_running_step (h : x ∈ (w.step kind t).running) : x ∈ w.running ∨ t = .began ∧ x = w.clock := by
  cases t with
  | began => simpa [step] using h
  | ended i e =>
    cases hi : w.running[i]? with
    | none => exact .inl (by simpa [step, hi] using h)
    | some began => exact .inl (List.mem_of_mem_eraseIdx (by simpa [step, hi, finish] using h))
  | time | asked | answered | told | disposed => exact .inl h

theorem mem_finished_step (h : e ∈ (w.step kind t).finished) :
    e ∈ w.finished ∨ ∃ i x, t = .ended i x ∧ e.began ∈ w.running ∧ e.ended = w.clock ∧ e.failed = x.isFailed := by
  cases t with
  | ended i x =>
    cases hi : w.running[i]? with
    | none => exact .inl (by simpa [step, hi] using h)
    | some began =>
      have hlast : e ∈ w.finished ++ [⟨began, w.clock, x.isFailed⟩] := by simpa [step, hi, finish] using h
      rcases List.mem_append.mp hlast with hold | hnew
      · exact .inl hold
      · obtain rfl := List.mem_singleton.mp hnew
        exact .inr ⟨i, x, rfl, List.mem_of_getElem? hi, rfl, rfl⟩
  | time | asked | answered | told | began | disposed => exact .inl h

theorem mem_running_run (h : x ∈ (w.run kind ts).running) (hw : w.running = []) :
    ∃ past mid, ts = past ++ .began :: mid ∧ x = (w.run kind past).clock := by
  induction ts using List.reverseRecOn with
  | nil => simp [run, hw] at h
  | append_singleton ts t ih =>
    rw [run_append] at h
    rcases mem_running_step h with hold | ⟨rfl, hx⟩
    · obtain ⟨past, mid, rfl, hx⟩ := ih hold
      exact ⟨past, mid ++ [t], by simp, hx⟩
    · exact ⟨ts, [], rfl, hx⟩

theorem happened_run (h : e ∈ (w.run kind ts).finished) (hw : w.running = []) (hw' : w.finished = []) :
    Happened kind w ts e := by
  induction ts using List.reverseRecOn with
  | nil => simp [run, hw'] at h
  | append_singleton ts t ih =>
    rw [run_append] at h
    rcases mem_finished_step h with hold | ⟨i, x, rfl, hbegan, hended, hfailed⟩
    · obtain ⟨past, mid, rest, i, x, rfl, he⟩ := ih hold
      exact ⟨past, mid, rest ++ [t], i, x, by simp, he⟩
    · obtain ⟨past, mid, rfl, hpast⟩ := mem_running_run hbegan hw
      exact ⟨past, mid, [], i, x, rfl, by rw [← hpast, ← hended, ← hfailed]⟩

/-! ## At rest -/

/-- In any timeline in which no connection is returned before it was taken or closed before it was opened, at any point
where no statement runs, every statement that began was counted, the failed ones among them as failed, and the latencies
kept are those of the last ones, in the order in which they ended, each from when the statement began until it ended. The
connections in use are those taken and not returned, and the open ones those opened and not closed: no level was ever
lowered from zero. -/
theorem run_counted (kind : EngineKind) (clock : Binary64) {ts : List Happening} (h : InOrder ts) :
    let w := run kind { clock } ts
    (w.running = [] →
      w.count.statements = ts.countP isBegan ∧ w.finished.length = w.count.statements ∧
        (∀ e ∈ w.finished, Happened kind { clock } ts e) ∧
        w.count.failures = w.finished.countP (·.failed) ∧ w.count.failures ≤ w.count.statements ∧
        w.count.latencies.reverse = (w.finished.map (·.latency)).rtake (min w.count.statements latencyWindow)) ∧
      w.count.active + (heard .returned ts).length = (heard .taken ts).length ∧
      w.count.total + (heard .closed ts).length = (heard .opened ts).length ∧
      ∀ past c rest, (ts = past ++ .told c .returned :: rest → 0 < (run kind { clock } past).count.active) ∧
        (ts = past ++ .told c .closed :: rest → 0 < (run kind { clock } past).count.total) := by
  intro w
  have hcounted : Counted w := Counted.run ⟨rfl, rfl, rfl⟩ kind ts
  have hfinished : w.finished.length + w.running.length = 0 + ts.countP isBegan := finished_run kind { clock } ts
  refine ⟨fun hrest => ?_, ?_, ?_, ?_⟩
  · rw [hrest, List.length_nil, Nat.add_zero, Nat.zero_add] at hfinished
    refine ⟨hcounted.statements.trans hfinished, hcounted.statements.symm, ?_, hcounted.failures, hcounted.failures_le,
      ?_⟩
    · exact fun e he => happened_run he rfl rfl
    · have hlength : (w.finished.map (·.latency)).reverse.length = w.count.statements := by
        rw [List.length_reverse, List.length_map, hcounted.statements]
      rw [hcounted.latencies, List.take_eq_take_min, hlength, Nat.min_comm, List.rtake_eq_reverse_take_reverse]
  · exact (level_run PoolCount.gauge_active h.1).trans (Nat.zero_add _)
  · exact (level_run PoolCount.gauge_total h.2).trans (Nat.zero_add _)
  · intro past c rest
    constructor
    · rintro rfl
      exact level_pos PoolCount.gauge_active h.1
    · rintro rfl
      exact level_pos PoolCount.gauge_total h.2

/-- Two statements that overlap, of which the one that began first fails before the other ends. -/
theorem run_counted_overlapping :
    let ts : List Happening := [.told 0 .opened, .told 0 .taken, .began, .told 1 .opened, .told 1 .taken, .began,
      .time (.ofInt 2), .ended 0 (.failed .timeout), .told 0 .returned, .time (.ofInt 3), .ended 0 (.answered []),
      .told 1 .returned, .told 1 .closed]
    let w := run .sqlite { clock := .ofInt 1 } ts
    InOrder ts ∧ w.running = [] ∧ w.count.statements = 2 ∧ w.count.failures = 1 ∧
      w.count.latencies.reverse = [.ofInt 1000, .ofInt 2000] ∧ w.count.active = 0 ∧ w.count.total = 1 := by
  intro ts w
  have horder : InOrder ts := by decide +kernel
  have hrest : w.running = [] := by decide +kernel
  have hfinished : w.finished = [⟨.ofInt 1, .ofInt 2, true⟩, ⟨.ofInt 1, .ofInt 3, false⟩] := by decide +kernel
  obtain ⟨hstatements, hactive, htotal, -⟩ := run_counted .sqlite (.ofInt 1) horder
  obtain ⟨hbegan, -, -, hfailures, -, hlatencies⟩ := hstatements hrest
  refine ⟨horder, hrest, hbegan, ?_, ?_, ?_, ?_⟩
  · exact hfailures.trans (congrArg _ hfinished)
  · exact hlatencies.trans (by rw [hbegan, hfinished]; decide +kernel)
  · exact Nat.add_right_cancel (m := 2) hactive
  · exact Nat.add_right_cancel (m := 1) htotal

end Watch

/-! ## Calls as timelines -/

/-- A session as it is watched while none of its statements runs. -/
def Session.watch (s : Session σ) (es : List EndedStatement) : Watch := ⟨s.count, s.clock, s.events, [], es⟩

/-- What a pool tells, of one connection or another. -/
def Happening.tellings (ns : List (Nat × PoolNotice)) : List Happening := ns.map fun n => .told n.1 n.2

theorem Happening.exists_connections (ns : List PoolNotice) : ∃ cs : List (Nat × PoolNotice), cs.map Prod.snd = ns :=
  ⟨ns.map fun n => (0, n), by rw [List.map_map]; exact List.map_id ns⟩

theorem Watch.run_tellings (kind : EngineKind) (w : Watch) (ns : List (Nat × PoolNotice)) :
    w.run kind (tellings ns) = { w with count := (ns.map Prod.snd).foldl PoolCount.notice w.count } := by
  induction ns generalizing w with
  | nil => rfl
  | cons n ns ih => exact ih _

namespace Session

variable {kind : EngineKind} {b : Backend σ} {s s' s'' : Session σ}

/-- A statement of a session begins, the pool tells what it has to, time goes on, and the statement ends. -/
theorem execute_watched (sql : String) (parameters : Datum) {ns : List (Nat × PoolNotice)}
    (h : ns.map Prod.snd = (b.execute sql (some parameters) s.engine).2.notices) (es : List EndedStatement) :
    let x := s.execute b kind sql parameters
    (s.watch es).run kind (.began :: tellings ns ++ [.time x.1.clock, .ended 0 (.ofResult x.2)]) =
      x.1.watch (es ++ [⟨s.clock, x.1.clock, !x.2.isOk⟩]) := by
  intro x
  have hbegan : (s.watch es).run kind [.began] = { s.watch es with running := [s.clock] } := rfl
  rw [List.cons_append, ← List.singleton_append, Watch.run_append, Watch.run_append, hbegan, Watch.run_tellings, h]
  simp only [x, execute, executeQuietly]
  generalize (b.execute sql (some parameters) s.engine).2 = reply
  obtain ⟨state, notices, result⟩ := reply
  -- the cases are those of the fault that tells of a dead connection
  cases result with
  | ok rows => rfl
  | error f =>
    cases f with
    | statement word reason invalidated => cases invalidated <;> rfl
    | closed | refused | abandoned | timeout | address | options => rfl

/-- A timeline leads from one session to another. -/
def Leads (kind : EngineKind) (s s' : Session σ) : Prop :=
  ∀ es, ∃ ts es', (s.watch es).run kind ts = s'.watch es'

theorem Leads.refl (kind : EngineKind) (s : Session σ) : Leads kind s s := fun es => ⟨[], es, rfl⟩

theorem Leads.trans (h : Leads kind s s') (h' : Leads kind s' s'') : Leads kind s s'' := by
  intro es
  obtain ⟨ts, es', hts⟩ := h es
  obtain ⟨us, es'', hus⟩ := h' es'
  exact ⟨ts ++ us, es'', by rw [Watch.run_append, hts, hus]⟩

theorem leads_heard (ns : List PoolNotice) :
    Leads kind s { s with count := ns.foldl PoolCount.notice s.count } := by
  obtain ⟨cs, rfl⟩ := exists_connections ns
  exact fun es => ⟨tellings cs, es, Watch.run_tellings kind _ cs⟩

theorem leads_asked : Leads kind s { s with count := s.count.asked } := fun es => ⟨[.asked], es, rfl⟩

theorem leads_perform (f : σ → Reply σ α) : Leads kind s (s.perform f).1 := leads_heard (f s.engine).notices

theorem leads_act (e : EngineStep) : Leads kind s (s.act b e).1 := by
  refine (leads_perform (b.act e)).trans ?_
  by_cases he : e = .connect
  · obtain rfl := he
    exact fun es => ⟨[.answered], es, rfl⟩
  · have hsame : (s.act b e).1 = (s.perform (b.act e)).1 := by simp only [act, if_neg he]
    exact hsame ▸ .refl kind _

theorem leads_executeQuietly (sql : String) (parameters : Option Datum) :
    Leads kind s (s.executeQuietly b sql parameters).1 :=
  (leads_heard (b.execute sql parameters s.engine).2.notices).trans fun es =>
    ⟨[.time (s.executeQuietly b sql parameters).1.clock], es, rfl⟩

theorem leads_execute (sql : String) (parameters : Datum) : Leads kind s (s.execute b kind sql parameters).1 := by
  obtain ⟨cs, hcs⟩ := exists_connections (b.execute sql (some parameters) s.engine).2.notices
  exact fun es => ⟨_, _, execute_watched sql parameters hcs es⟩

theorem leads_dispose : Leads kind s (s.dispose b kind) :=
  (leads_heard (b.dispose s.engine).2).trans fun es => ⟨[.disposed], es, rfl⟩

end Session

open Session

theorem Body.leads_step (b : Backend σ) (kind : EngineKind) (s : Session σ) (body : Body σ α) :
    Leads kind s (body.step b kind s).1 := by
  cases body with
  | ended | observe => exact .refl kind s
  | statement sql parameters => exact leads_execute sql parameters
  | check sql parameters => exact leads_executeQuietly sql parameters
  | inspect => exact leads_perform b.reflect

theorem OngoingCall.Steps.leads {c : OngoingCall σ α} (hs : c.Steps b kind closed s r) : Leads kind s r.1 := by
  cases hs with
  | engine => exact leads_act _
  | asked => exact leads_asked
  | work => exact c.body.leads_step b kind s
  | turnedAway | ended | finished => exact .refl kind s

namespace Traffic

theorem leads_step (kind : EngineKind) (t : Traffic σ α) (move : TrafficMove σ) :
    Leads kind t.session (t.step kind move).session := by
  cases move with
  | close b =>
    cases hc : t.closed with
    | true => simpa [step, hc] using .refl kind t.session
    | false => simpa [step, hc] using leads_dispose
  | call i b =>
    cases hi : t.calls[i]? with
    | none => simpa [step, hi] using .refl kind t.session
    | some c => simpa [step, hi] using (c.steps_step b kind t.closed t.session).leads

/-- Whatever calls do side by side, a timeline has the same counts, events and time. -/
theorem exists_timeline (kind : EngineKind) (t : Traffic σ α) (moves : List (TrafficMove σ)) :
    Leads kind t.session (t.run kind moves).session := by
  induction moves generalizing t with
  | nil => exact .refl kind t.session
  | cons move moves ih => exact (t.leads_step kind move).trans (ih (t.step kind move))

/-- On a new connection no more statements fail than are executed, and a latency is kept for each, up to the window. -/
theorem run_bounded (kind : EngineKind) (e : σ) (clock : Binary64) (events : List ConnectionEvent) (closed : Bool)
    (bodies : List (Body σ α)) (moves : List (TrafficMove σ)) :
    let c := ((start ⟨e, {}, clock, events⟩ closed bodies).run kind moves).session.count
    c.failures ≤ c.statements ∧ c.latencies.length = min c.statements latencyWindow := by
  intro c
  obtain ⟨ts, es, hts⟩ := exists_timeline kind (start ⟨e, {}, clock, events⟩ closed bodies) moves []
  have hcounted : (Watch.mk {} clock events [] []).Counted := ⟨rfl, rfl, rfl⟩
  have hend := hcounted.run kind ts
  rw [show Watch.run kind ⟨{}, clock, events, [], []⟩ ts = _ from hts] at hend
  exact ⟨hend.failures_le, hend.length_latencies⟩

end Traffic

end SchemaConcord
