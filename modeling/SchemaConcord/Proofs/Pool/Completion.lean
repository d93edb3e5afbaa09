import SchemaConcord.Pool.Concurrent

/-!
# Calls come to an end

The record of a call follows from the phase it is in: there is one way into the work, two ways to a transaction
that has to be undone, and from every way on the connection goes back to the pool.

Each step brings a call nearer to its end, so a call that is let go on finishes whatever its engine and the other
calls do. A call that has the connection for itself ends as a call made in one piece does.
-/

namespace SchemaConcord

/-! ## What is behind a call -/

namespace CallDeed

/-- The deeds of a call that has its connection. -/
def taken : List (CallDeed α) := [.asked, .engine .connect (.ok ())]

/-- The deeds of a call that has its transaction. -/
def begun : List (CallDeed α) := taken ++ [.engine .start (.ok ())]

end CallDeed

open CallDeed

/-- The deeds of a call whose transaction has to be undone for a fault. -/
inductive Failing : ConnectionFault → List (CallDeed α) → Prop
  | work (f : ConnectionFault) : Failing f (begun ++ [.ended (.error f)])
  | commit (a : α) (f : ConnectionFault) : Failing f (begun ++ [.ended (.ok a), .engine .commit (.error f)])

/-- The deeds of a call that has its connection but no transaction any more, and the result it has. -/
inductive Settled : Except ConnectionFault α → List (CallDeed α) → Prop
  | start (f : ConnectionFault) : Settled (.error f) (taken ++ [.engine .start (.error f)])
  | committed (a : α) : Settled (.ok a) (begun ++ [.ended (.ok a), .engine .commit (.ok ())])
  | undone (h : Failing f l) : Settled (.error f) (l ++ [.engine .rollback (.ok ())])
  | stuck (h : Failing f l) (g : ConnectionFault) : Settled (.error g) (l ++ [.engine .rollback (.error g)])

/-- The deeds of a call that is over, and its result. -/
inductive Over : Except ConnectionFault α → List (CallDeed α) → Prop
  | turnedAway : Over (.error .closed) [.turnedAway]
  | refused (f : ConnectionFault) : Over (.error f) [.asked, .engine .connect (.error f)]
  | released (h : Settled r l) : Over r (l ++ [.engine .release (.ok ())])
  | unreleased (h : Settled r l) (f : ConnectionFault) : Over (.error f) (l ++ [.engine .release (.error f)])

/-- What the deeds of a call in a phase are. -/
def Behind : Phase α → List (CallDeed α) → Prop
  | .asking, l => l = []
  | .waiting, l => l = [.asked]
  | .starting, l => l = taken
  | .working, l => l = begun
  | .committing a, l => l = begun ++ [.ended (.ok a)]
  | .undoing f, l => Failing f l
  | .releasing r, l => Settled r l
  | .finished r, l => Over r l

/-! ## Steps keep the record -/

theorem Behind.next {p : Phase α} (h : Behind p l) (hp : p.engineStep? = some e)
    (r : Except ConnectionFault Unit) : Behind (p.next r) (l ++ [.engine e r]) := by
  cases p with
  | asking | working | finished r => cases hp
  | waiting =>
    obtain rfl : e = .connect := by cases hp; rfl
    obtain rfl := h
    cases r with
    | ok u => rfl
    | error f => exact .refused f
  | starting =>
    obtain rfl : e = .start := by cases hp; rfl
    obtain rfl := h
    cases r with
    | ok u => rfl
    | error f => exact .start f
  | committing a =>
    obtain rfl : e = .commit := by cases hp; rfl
    obtain rfl := h
    cases r with
    | ok u => exact .committed a
    | error f => exact .commit a f
  | undoing f =>
    obtain rfl : e = .rollback := by cases hp; rfl
    cases r with
    | ok u => exact .undone h
    | error g => exact .stuck h g
  | releasing r' =>
    obtain rfl : e = .release := by cases hp; rfl
    cases r with
    | ok u => exact .released h
    | error f => exact .unreleased h f

theorem Behind.afterWork {l : List (CallDeed α)} (h : Behind .working l) (r : Except ConnectionFault α) :
    Behind (Phase.afterWork r) (l ++ [.ended r]) := by
  obtain rfl := h
  cases r with
  | ok a => rfl
  | error f => exact .work f

namespace OngoingCall

@[simp] theorem enter_phase (c : OngoingCall σ α) (p : Phase α) (d : CallDeed α) : (c.enter p d).phase = p := rfl

/-- All that a step of a call can be. -/
inductive Steps (c : OngoingCall σ α) (b : Backend σ) (kind : EngineKind) (closed : Bool) (s : Session σ) :
    Session σ × OngoingCall σ α → Prop
  | engine (h : c.phase.engineStep? = some e) :
    Steps c b kind closed s ((s.act b e).1, c.enter (c.phase.next (s.act b e).2) (.engine e (s.act b e).2))
  | turnedAway (h : c.phase = .asking) (hc : closed = true) :
    Steps c b kind closed s (s, c.enter (.finished (.error .closed)) .turnedAway)
  | asked (h : c.phase = .asking) (hc : closed = false) :
    Steps c b kind closed s ({ s with count := s.count.asked }, c.enter .waiting .asked)
  | ended (h : c.phase = .working) (hb : c.body = .ended r) :
    Steps c b kind closed s (s, c.enter (.afterWork r) (.ended r))
  | work (h : c.phase = .working) (hb : ∀ r, c.body ≠ .ended r) :
    Steps c b kind closed s ((c.body.step b kind s).1, { c with body := (c.body.step b kind s).2 })
  | finished (h : c.phase = .finished r) : Steps c b kind closed s (s, c)

theorem steps_step (c : OngoingCall σ α) (b : Backend σ) (kind : EngineKind) (closed : Bool) (s : Session σ) :
    c.Steps b kind closed s (c.step b kind closed s) := by
  rcases c with ⟨body, p, l⟩
  cases p with
  | waiting | starting | committing a | undoing f | releasing r => exact .engine rfl
  | asking =>
    cases closed with
    | true => exact .turnedAway rfl rfl
    | false => exact .asked rfl rfl
  | working =>
    cases body with
    | ended r => exact .ended rfl rfl
    | observe | statement | check | inspect => exact .work rfl nofun
  | finished r => exact .finished rfl

/-- The record of a call is what its phase says. -/
def Recorded (c : OngoingCall σ α) : Prop := Behind c.phase c.deeds

theorem Steps.recorded {c : OngoingCall σ α} (hs : c.Steps b kind closed s r) (h : c.Recorded) :
    r.2.Recorded := by
  cases hs with
  | engine hp => exact h.next hp _
  | turnedAway hp =>
    have hl : c.deeds = [] := by simpa [Recorded, Behind, hp] using h
    simpa [Recorded, Behind, enter, hl] using Over.turnedAway
  | asked hp =>
    have hl : c.deeds = [] := by simpa [Recorded, Behind, hp] using h
    simp [Recorded, Behind, enter, hl]
  | ended hp hb =>
    have hl : Behind .working c.deeds := hp ▸ h
    exact hl.afterWork _
  | work hp hb => exact h
  | finished hp => exact h

end OngoingCall

/-- Every call under way has the record that its phase says. -/
def Traffic.Recorded (t : Traffic σ α) : Prop := ∀ c ∈ t.calls, c.Recorded

namespace Traffic

theorem recorded_start (s : Session σ) (closed : Bool) (bodies : List (Body σ α)) :
    (start s closed bodies).Recorded := by
  intro c hc
  obtain ⟨body, -, rfl⟩ := List.mem_map.mp hc
  rfl

theorem Recorded.step {t : Traffic σ α} (h : t.Recorded) (kind : EngineKind) (move : TrafficMove σ) :
    (t.step kind move).Recorded := by
  cases move with
  | close b =>
    cases hc : t.closed <;> simpa [Traffic.step, hc, Recorded] using h
  | call i b =>
    cases hi : t.calls[i]? with
    | none => simpa [Traffic.step, hi] using h
    | some c =>
      intro d hd
      have hc : c.Recorded := h c (List.mem_of_getElem? hi)
      rcases List.mem_or_eq_of_mem_set (by simpa [Traffic.step, hi] using hd) with hd | rfl
      · exact h d hd
      · exact (c.steps_step b kind t.closed t.session).recorded hc

theorem Recorded.run {t : Traffic σ α} (h : t.Recorded) (kind : EngineKind) (moves : List (TrafficMove σ)) :
    (t.run kind moves).Recorded := by
  induction moves generalizing t with
  | nil => exact h
  | cons move moves ih => exact ih (h.step kind move)

end Traffic

/-! ## Nearer to the end -/

theorem Phase.exists_finished_of_rank {p : Phase α} (h : p.rank = 0) : ∃ r, p = .finished r := by
  cases p with
  | finished r => exact ⟨r, rfl⟩
  | asking | waiting | starting | working | committing | undoing | releasing => simp [rank] at h

namespace OngoingCall

/-- `c'` is what a step makes of a call that is not over. -/
def Next (kind : EngineKind) (c' c : OngoingCall σ α) : Prop :=
  c.phase.rank ≠ 0 ∧ ∃ b closed s, c' = (c.step b kind closed s).2

/-- Steps go down in rank, or stay in the work and go down in what is left of it. -/
theorem Steps.rank_lt {c : OngoingCall σ α} (hs : c.Steps b kind closed s r) (h : c.phase.rank ≠ 0) :
    r.2.phase.rank < c.phase.rank ∨
      c.phase = .working ∧ (∀ r, c.body ≠ .ended r) ∧ r.2 = { c with body := (c.body.step b kind s).2 } := by
  cases hs with
  | engine hp => exact .inl (Phase.rank_next hp _)
  | turnedAway hp => exact .inl (by simp [hp, Phase.rank])
  | asked hp => exact .inl (by simp [hp, Phase.rank])
  | ended hp hb => exact .inl (hp ▸ Phase.rank_afterWork _)
  | work hp hb => exact .inr ⟨hp, hb, rfl⟩
  | finished hp => exact absurd (by rw [hp]; rfl) h

/-- A call comes to an end when each lower one does, and each with less work left. -/
theorem acc_next {c : OngoingCall σ α} (hrank : ∀ d : OngoingCall σ α, d.phase.rank < c.phase.rank → Acc (Next kind) d)
    (hbody : ∀ b s, (∀ r, c.body ≠ .ended r) → Acc (Next kind) { c with body := (c.body.step b kind s).2 }) :
    Acc (Next kind) c := by
  constructor
  rintro _ ⟨hc, b, closed, s, rfl⟩
  rcases (c.steps_step b kind closed s).rank_lt hc with h | ⟨-, hb, h⟩
  · exact hrank _ h
  · exact h ▸ hbody b s hb

theorem wellFounded_next (kind : EngineKind) : WellFounded (Next kind : OngoingCall σ α → OngoingCall σ α → Prop) := by
  refine ⟨fun c => ?_⟩
  induction hn : c.phase.rank using Nat.strongRecOn generalizing c with
  | ind n ih =>
    obtain ⟨body, p, l⟩ := c
    have hrank : ∀ d : OngoingCall σ α, d.phase.rank < p.rank → Acc (Next kind) d := by
      intro d hd
      exact ih _ (hn ▸ hd) d rfl
    induction body with
    | ended r => exact acc_next hrank fun b s hb => absurd rfl (hb r)
    | observe next ihb => exact acc_next hrank fun b s _ => ihb s hn
    | statement sql parameters next ihb => exact acc_next hrank fun b s _ => ihb _ hn
    | check sql parameters next ihb => exact acc_next hrank fun b s _ => ihb _ hn
    | inspect next ihb => exact acc_next hrank fun b s _ => ihb _ hn

end OngoingCall

/-! ## Any order of the calls -/

namespace Traffic

variable (kind : EngineKind)

theorem getElem?_step (t : Traffic σ α) (i : Nat) (b : Backend σ) :
    (t.step kind (.call i b)).calls[i]? = t.calls[i]?.map fun c => (c.step b kind t.closed t.session).2 := by
  cases hi : t.calls[i]? with
  | none => simp [step, hi]
  | some c =>
    obtain ⟨hlt, rfl⟩ := List.getElem?_eq_some_iff.mp hi
    simp [step, hlt]

/-- A call stays as it is while others go on. -/
theorem getElem?_step_of_ne (t : Traffic σ α) {move : TrafficMove σ} (h : ∀ b, move ≠ .call i b) :
    (t.step kind move).calls[i]? = t.calls[i]? := by
  cases move with
  | close b => cases hc : t.closed <;> simp [step, hc]
  | call j b =>
    have hj : j ≠ i := fun e => h b (e ▸ rfl)
    cases hi : t.calls[j]? with
    | none => simp [step, hi]
    | some c => simp [step, hi, hj]

theorem run_range_succ (t : Traffic σ α) (moves : Nat → TrafficMove σ) (n : Nat) :
    t.run kind ((List.range (n + 1)).map moves) = (t.run kind ((List.range n).map moves)).step kind (moves n) := by
  simp [run, List.range_succ]

/-- A call that has a turn to come is met by one of its turns as it is now. -/
theorem exists_turn {t : Traffic σ α} {moves : Nat → TrafficMove σ}
    (hn : (t.run kind ((List.range n).map moves)).calls[i]? = some c) (hk : moves (n + m) = .call i b) :
    ∃ k b, moves k = .call i b ∧ (t.run kind ((List.range k).map moves)).calls[i]? = some c := by
  induction m generalizing n with
  | zero => exact ⟨n, b, hk, hn⟩
  | succ m ih =>
    by_cases hturn : ∃ b', moves n = .call i b'
    · obtain ⟨b', hb'⟩ := hturn
      exact ⟨n, b', hb', hn⟩
    · rw [show n + (m + 1) = n + 1 + m by omega] at hk
      refine ih ?_ hk
      rw [run_range_succ, getElem?_step_of_ne kind _ fun b' hb' => hturn ⟨b', hb'⟩, hn]

/-- Call `i` gets its turn again and again. -/
def Attends (moves : Nat → TrafficMove σ) (i : Nat) : Prop := ∀ n, ∃ m b, moves (n + m) = .call i b

/-- A call that gets its turn again and again is over one day. -/
theorem exists_finished (t : Traffic σ α) {moves : Nat → TrafficMove σ} (hi : t.calls[i]? = some c)
    (hfair : Attends moves i) :
    ∃ n d r, (t.run kind ((List.range n).map moves)).calls[i]? = some d ∧ d.phase = .finished r := by
  have hfrom : ∀ c n, (t.run kind ((List.range n).map moves)).calls[i]? = some c →
      ∃ n d r, (t.run kind ((List.range n).map moves)).calls[i]? = some d ∧ d.phase = .finished r := by
    intro c
    induction c using (OngoingCall.wellFounded_next kind).induction with
    | h c ih =>
      intro n hn
      by_cases hr : c.phase.rank = 0
      · obtain ⟨r, hr⟩ := Phase.exists_finished_of_rank hr
        exact ⟨n, c, r, hn, hr⟩
      · obtain ⟨m, b, hm⟩ := hfair n
        obtain ⟨k, b, hk, hkc⟩ := exists_turn kind hn hm
        have hnext := getElem?_step kind (t.run kind ((List.range k).map moves)) i b
        rw [← hk, ← run_range_succ, hkc, Option.map_some] at hnext
        exact ih _ ⟨hr, b, _, _, rfl⟩ (k + 1) hnext
  exact hfrom c 0 hi

end Traffic

/-! ## A call by itself -/

namespace Phase

variable (b : Backend σ)

theorem complete_finished (work : Work σ α) (s : Session σ) (r : Except ConnectionFault α) :
    complete b work s (.finished r) = (s, r) := by
  rw [complete]
  rfl

theorem complete_eq_step (work : Work σ α) (s : Session σ) {p : Phase α} (h : p.rank ≠ 0) :
    complete b work s p = complete b work (p.step b work s).1 (p.step b work s).2 := by
  rw [complete, dif_neg h]

/-- After the work nothing depends on it any more. -/
theorem complete_congr (w w' : Work σ α) (s : Session σ) {p : Phase α} (h : p.rank < 4) :
    complete b w s p = complete b w' s p := by
  induction hn : p.rank using Nat.strongRecOn generalizing p s with
  | ind n ih =>
    by_cases h0 : p.rank = 0
    · obtain ⟨r, rfl⟩ := exists_finished_of_rank h0
      rw [complete_finished, complete_finished]
    · have hstep : p.step b w s = p.step b w' s := by
        cases p with
        | asking | waiting | starting | working => simp [rank] at h
        | committing | undoing | releasing | finished => rfl
      have hlt := rank_step b w' s p h0
      rw [complete_eq_step b w s h0, complete_eq_step b w' s h0, hstep]
      exact ih _ (hn ▸ hlt) _ (by omega) rfl

/-- The work may be gone through step by step. -/
theorem complete_body (kind : EngineKind) (s : Session σ) (body : Body σ α) :
    complete b ((body.step b kind s).2.run b kind) (body.step b kind s).1 .working =
      complete b (body.run b kind) s .working := by
  rw [complete_eq_step b _ _ (by simp [rank]), complete_eq_step b _ s (by simp [rank])]
  simp only [step, engineStep?, Body.run_step]
  exact complete_congr b _ _ _ (rank_afterWork _)

end Phase

/-- A step of a call is a step towards the end of the call made in one piece. -/
theorem OngoingCall.Steps.complete {c : OngoingCall σ α} (hs : c.Steps b kind false s r) :
    Phase.complete b (r.2.body.run b kind) r.1 r.2.phase = Phase.complete b (c.body.run b kind) s c.phase := by
  cases hs with
  | @engine e hp =>
    have hstep : c.phase.step b (c.body.run b kind) s = ((s.act b e).1, c.phase.next (s.act b e).2) := by
      simp only [Phase.step, hp]
    have h0 : c.phase.rank ≠ 0 := Nat.ne_of_gt (Nat.zero_lt_of_lt (Phase.rank_next hp (.ok ())))
    rw [Phase.complete_eq_step b _ s h0, hstep]
    rfl
  | turnedAway hp hc => cases hc
  | asked hp =>
    rw [hp, Phase.complete_eq_step b _ s (by simp [Phase.rank])]
    rfl
  | ended hp hb =>
    rw [hp, hb, Phase.complete_eq_step b _ s (p := .working) (by simp [Phase.rank])]
    exact Phase.complete_congr b _ _ s (Phase.rank_afterWork _)
  | work hp hb => rw [hp]; exact Phase.complete_body b kind s c.body
  | finished hp => rfl

/-- A call that has a connection for itself comes to the end that it comes to in one piece. -/
theorem Traffic.run_alone (b : Backend σ) (kind : EngineKind) (s : Session σ) (body : Body σ α) :
    ∃ n c, (Traffic.start s false [body]).run kind (List.replicate n (.call 0 b)) =
        ⟨(s.call b (body.run b kind)).1, false, [c]⟩ ∧ c.phase = .finished (s.call b (body.run b kind)).2 := by
  have hfrom : ∀ (c : OngoingCall σ α) s, ∃ n d, Traffic.run kind ⟨s, false, [c]⟩ (List.replicate n (.call 0 b)) =
      ⟨(Phase.complete b (c.body.run b kind) s c.phase).1, false, [d]⟩ ∧
      d.phase = .finished (Phase.complete b (c.body.run b kind) s c.phase).2 := by
    intro c
    induction c using (OngoingCall.wellFounded_next kind).induction with
    | h c ih =>
      intro s
      by_cases hr : c.phase.rank = 0
      · obtain ⟨r, hr⟩ := Phase.exists_finished_of_rank hr
        refine ⟨0, c, ?_, ?_⟩ <;> rw [hr, Phase.complete_finished]
        rfl
      · obtain ⟨n, d, hrun, hd⟩ := ih _ ⟨hr, b, false, s, rfl⟩ (c.step b kind false s).1
        rw [(c.steps_step b kind false s).complete] at hrun hd
        exact ⟨n + 1, d, hrun, hd⟩
  exact hfrom { body } s

/-! ## What a call keeps as a whole -/

namespace Phase

variable (b : Backend σ)

/-- The fault that a call in a phase is going to end with, unless another takes its place. -/
def fault? : Phase α → Option ConnectionFault
  | .undoing f | .releasing (.error f) | .finished (.error f) => some f
  | _ => none

theorem fault?_afterWork (r : Except ConnectionFault α) (f : ConnectionFault) :
    (afterWork r).fault? = some f → r = .error f := by
  cases r <;> simp [afterWork, fault?]

theorem fault?_next {p : Phase α} (h : p.engineStep? = some e) (r : Except ConnectionFault Unit)
    (f : ConnectionFault) : (p.next r).fault? = some f → p.fault? = some f ∨ r = .error f := by
  cases p with
  | asking | working | finished r => cases h
  | waiting | starting | committing a | undoing g => cases r <;> simp +contextual [next, fault?]
  | releasing r' => cases r <;> cases r' <;> simp +contextual [next, fault?]

/-- What every step keeps a whole call keeps, and it ends with a fault of one of its steps. -/
theorem complete_keeps {P : Session σ → Prop} {Q : ConnectionFault → Prop} {work : Work σ α}
    (hask : ∀ s, P s → P { s with count := s.count.asked })
    (hact : ∀ e s, P s → P (s.act b e).1 ∧ ∀ f, (s.act b e).2 = .error f → Q f)
    (hwork : ∀ s, P s → P (work s).1 ∧ ∀ f, (work s).2 = .error f → Q f)
    {s : Session σ} {p : Phase α} (hs : P s) (hp : ∀ f, p.fault? = some f → Q f) :
    P (complete b work s p).1 ∧ ∀ f, (complete b work s p).2 = .error f → Q f := by
  -- On the rank of the phase, which each step lowers.
  induction hn : p.rank using Nat.strongRecOn generalizing p s with
  | ind n ih =>
    by_cases h0 : p.rank = 0
    · obtain ⟨r, rfl⟩ := exists_finished_of_rank h0
      rw [complete_finished]
      refine ⟨hs, fun f hf => ?_⟩
      obtain rfl : r = .error f := hf
      exact hp f rfl
    · have hstep : P (p.step b work s).1 ∧ ∀ f, (p.step b work s).2.fault? = some f → Q f := by
        cases he : p.engineStep? with
        | some e =>
          simp only [step, he]
          refine ⟨(hact e s hs).1, fun f hf => ?_⟩
          rcases fault?_next he _ f hf with h | h
          · exact hp f h
          · exact (hact e s hs).2 f h
        | none =>
          cases p with
          | asking =>
            refine ⟨hask s hs, fun f hf => ?_⟩
            cases hf
          | working => exact ⟨(hwork s hs).1, fun f hf => (hwork s hs).2 f (fault?_afterWork _ f hf)⟩
          | finished r => exact absurd rfl h0
          | waiting | starting | committing a | undoing f | releasing r => cases he
      rw [complete_eq_step b work s h0]
      exact ih _ (hn ▸ rank_step b work s p h0) hstep.1 hstep.2 rfl

end Phase

end SchemaConcord
