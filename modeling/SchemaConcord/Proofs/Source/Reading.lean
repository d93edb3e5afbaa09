import SchemaConcord.Source.Statement

/-!
# Reading expressions

What the grammar makes of tokens when the token after them is known. `Reads` says that a parser takes exactly the tokens
given, and the lemmas put the reading of a construct together from the readings of its parts: a name or a text, a call
with its arguments, a list, a dictionary, an awaited call, and from these up to a whole expression (`reads_expression`).
-/

namespace SchemaConcord.Source

open SchemaConcord.Source.Parser

/-- A parser takes some tokens and no more, whenever the token after them is as asked. -/
def Reads (follow : Option Token → Prop) (p : Parser α) (ts : List Token) (a : α) : Prop :=
  ∀ rest, follow rest.head? → p (ts ++ rest) = some (a, rest)

def After (stops : List Token) : Option Token → Prop := fun o => ∃ t ∈ stops, o = some t

/-- Where an expression may end: tokens that none goes on with. -/
def stops : List Token := [.newline, .op ",", .op ")", .op "]", .op "\x7d", .op ":", .op "="]

/-- Where an argument may end. -/
def argumentStops : List Token := [.op ",", .op ")"]

theorem reads_after {allowed : List Token} {p : Parser α} {ts : List Token} {a : α}
    (h : ∀ t ∈ allowed, ∀ rest, p (ts ++ t :: rest) = some (a, t :: rest)) : Reads (After allowed) p ts a := by
  rintro rest ⟨t, ht, hrest⟩
  cases rest with
  | nil => cases hrest
  | cons u rest =>
    cases hrest
    exact h _ ht rest

/-! ## Steps -/

section
variable {p : Parser α} {f : α → Parser β} {ts us rest : List Token} {a b : α} {t u : Token}

theorem bind_eq (h : p ts = some (a, us)) : (p >>= f) ts = f a us := by
  show (p ts).bind _ = _
  rw [h]
  rfl

theorem map_eq {f : α → β} (h : p ts = some (a, us)) : (f <$> p) ts = some (f a, us) := by
  show (p ts).bind _ = _
  rw [h]
  rfl

theorem accept_ne (h : t ≠ u) : accept u (t :: rest) = some (false, t :: rest) := by
  rw [accept, if_neg h]

theorem acceptOp_ne {s : String} (h : t ≠ .op s) : acceptOp s (t :: rest) = some (false, t :: rest) := accept_ne h

theorem acceptWord_ne {s : String} (h : t ≠ .keyword s) : acceptWord s (t :: rest) = some (false, t :: rest) :=
  accept_ne h

theorem acceptOp_self (s : String) (rest : List Token) : acceptOp s (.op s :: rest) = some (true, rest) := if_pos rfl

theorem acceptWord_self (s : String) (rest : List Token) : acceptWord s (.keyword s :: rest) = some (true, rest) :=
  if_pos rfl

theorem expectOp_self (s : String) (rest : List Token) : expectOp s (.op s :: rest) = some ((), rest) :=
  bind_eq (acceptOp_self s rest)

theorem expectWord_self (s : String) (rest : List Token) : expectWord s (.keyword s :: rest) = some ((), rest) :=
  bind_eq (acceptWord_self s rest)

theorem nextIsWord_ne {s : String} (h : t ≠ .keyword s) : nextIsWord s (t :: rest) = some (false, t :: rest) := by
  have hne : isWord s (some t) = false := by
    cases t with
    | keyword w => exact beq_false_of_ne fun hw => h (hw ▸ rfl)
    | _ => rfl
  show some (isWord s (some t), t :: rest) = _
  rw [hne]

theorem extendFrom_step {step : α → Parser (Option α)} (n : Nat) (h : step a ts = some (some b, us)) :
    extendFrom step (n + 1) a ts = extendFrom step n b us := by
  rw [Parser.extendFrom, bind_eq h]

theorem extendFrom_stop {step : α → Parser (Option α)} (n : Nat) (h : step a ts = some (none, us)) :
    extendFrom step (n + 1) a ts = some (a, us) := by
  rw [Parser.extendFrom, bind_eq h]
  rfl

theorem nextIsOp_ne {s : String} (h : t ≠ .op s) : nextIsOp s (t :: rest) = some (false, t :: rest) := by
  have hne : isOp s (some t) = false := by
    cases t with
    | op w => exact beq_false_of_ne fun hw => h (hw ▸ rfl)
    | _ => rfl
  show some (isOp s (some t), t :: rest) = _
  rw [hne]

/-- A step that yields nothing at once. -/
theorem repeated_stop {step : Parser (Option α)} (h : step ts = some (none, us)) : repeated step ts = some ([], us) := by
  show repeatFrom step (ts.length + 1) ts = _
  rw [repeatFrom, bind_eq h]
  rfl

theorem repeated_one {vs : List Token} {step : Parser (Option α)} (h : step ts = some (some a, us)) (hts : ts ≠ [])
    (hstop : step us = some (none, vs)) : repeated step ts = some ([a], vs) := by
  obtain ⟨t, more, rfl⟩ := List.exists_cons_of_ne_nil hts
  show repeatFrom step (more.length + 2) (t :: more) = _
  rw [repeatFrom, bind_eq h]
  refine (bind_eq ?_).trans rfl
  exact (bind_eq hstop).trans rfl

/-- A piece that a step takes, and that may follow another one. -/
structure Takes (step : Parser (Option α)) (follow : Option Token → Prop) (x : List Token × α) : Prop where
  ne_nil : x.1 ≠ []
  follows : follow x.1.head?
  reads : Reads follow step x.1 (some x.2)

section
variable {step : Parser (Option α)} {follow : Option Token → Prop} {pieces : List (List Token × α)}
  (hstep : ∀ x ∈ pieces, Takes step follow x)

include hstep

theorem length_pieces : pieces.length ≤ ((pieces.map (·.1)).flatten).length := by
  induction pieces with
  | nil => exact Nat.le_refl 0
  | cons x pieces ih =>
    have ih := ih fun y hy => hstep y (List.mem_cons_of_mem x hy)
    have := List.length_pos_iff.mpr (hstep x (List.mem_cons_self ..)).ne_nil
    simp only [List.map_cons, List.flatten_cons, List.length_append, List.length_cons]
    omega

theorem follow_pieces (hrest : follow rest.head?) : follow ((pieces.map (·.1)).flatten ++ rest).head? := by
  cases pieces with
  | nil => exact hrest
  | cons y pieces =>
    obtain ⟨hy, hfollow, -⟩ := hstep y (List.mem_cons_self ..)
    cases hts : y.1 with
    | nil => exact absurd hts hy
    | cons t more =>
      rw [hts] at hfollow
      simpa [hts] using hfollow

theorem repeatFrom_pieces (hrest : follow rest.head?) (hstop : step rest = some (none, us)) {fuel : Nat}
    (hfuel : pieces.length < fuel) :
    repeatFrom step fuel ((pieces.map (·.1)).flatten ++ rest) = some (pieces.map (·.2), us) := by
  induction pieces generalizing fuel with
  | nil =>
    obtain ⟨fuel, rfl⟩ : ∃ m, fuel = m + 1 := ⟨fuel - 1, by omega⟩
    rw [List.map_nil, List.flatten_nil, List.nil_append, repeatFrom, bind_eq hstop]
    rfl
  | cons x pieces ih =>
    obtain ⟨fuel, rfl⟩ : ∃ m, fuel = m + 1 := ⟨fuel - 1, by omega⟩
    have hlater : ∀ y ∈ pieces, Takes step follow y := fun y hy => hstep y (List.mem_cons_of_mem x hy)
    have hfirst := (hstep x (List.mem_cons_self ..)).reads _ (follow_pieces hlater hrest)
    rw [List.map_cons, List.flatten_cons, List.append_assoc, repeatFrom, bind_eq hfirst]
    simp only [List.length_cons] at hfuel
    exact (bind_eq (ih hlater (by omega))).trans rfl

end

/-- A step takes piece after piece, as long as each following token is as it asks. -/
theorem repeated_pieces (step : Parser (Option α)) (follow : Option Token → Prop) (pieces : List (List Token × α))
    (hstep : ∀ x ∈ pieces, Takes step follow x) (rest us : List Token) (hrest : follow rest.head?)
    (hstop : step rest = some (none, us)) :
    repeated step ((pieces.map (·.1)).flatten ++ rest) = some (pieces.map (·.2), us) := by
  refine repeatFrom_pieces hstep hrest hstop ?_
  have hlength := length_pieces hstep
  rw [List.length_append]
  omega

end

/-! ## From a call up to an expression -/

section
variable {p : Inner} {ts : List Token} {n : Node} {t : Token}

theorem reads_chain {operand : Parser Node} {ops : List String} (hops : ∀ s ∈ ops, Token.op s ∉ stops)
    (h : Reads (After stops) operand ts n) : Reads (After stops) (Inner.chain operand ops) ts n := by
  refine reads_after fun t ht rest => ?_
  rw [Inner.chain, bind_eq (h (t :: rest) ⟨t, ht, rfl⟩)]
  refine extendFrom_stop _ ?_
  cases t with
  | op s =>
    have hs : ops.contains s = false := by
      rw [← Bool.not_eq_true, List.contains_iff_mem]
      exact fun hs => hops s hs ht
    rw [bind_eq (show peek (.op s :: rest) = some (some (.op s), .op s :: rest) from rfl)]
    simp only [hs]
    rfl
  | _ => rfl

theorem reads_joined {operand : Parser Node} (word : String) (h : Reads (After stops) operand ts n) :
    Reads (After stops) (Inner.joined operand word) ts n := by
  refine reads_after fun t ht rest => ?_
  have hstop : ∀ u ∈ stops, u ≠ .keyword word := by simp [stops]
  rw [Inner.joined, bind_eq (h (t :: rest) ⟨t, ht, rfl⟩),
    bind_eq (repeated_stop (show _ = some (none, t :: rest) from (bind_eq (acceptWord_ne (hstop t ht))).trans rfl))]
  rfl

/-- Tokens that no operator before an operand is. -/
def Leads (t : Token) : Prop := t ∉ [.keyword "lambda", .keyword "not", .op "+", .op "-", .op "~"]

instance (t : Token) : Decidable (Leads t) := inferInstanceAs (Decidable (_ ∉ _))

theorem Leads.ne (h : Leads t) : t ≠ .keyword "lambda" ∧ t ≠ .keyword "not" ∧ t ≠ .op "+" ∧ t ≠ .op "-" ∧ t ≠ .op "~" := by
  simpa [Leads] using h

theorem reads_power (h : Reads (After stops) p.awaited ts n) : Reads (After stops) p.power ts n := by
  refine reads_after fun u hu rest => ?_
  have hstop : ∀ u ∈ stops, u ≠ .op "**" := by decide
  rw [Inner.power, bind_eq (h (u :: rest) ⟨u, hu, rfl⟩), bind_eq (acceptOp_ne (hstop u hu))]
  rfl

theorem reads_factor (hlead : Leads t) (h : Reads (After stops) p.power (t :: ts) n) :
    Reads (After stops) p.factor (t :: ts) n := by
  intro rest hrest
  obtain ⟨-, -, hplus, hminus, htilde⟩ := hlead.ne
  rw [Inner.factor, List.cons_append, bind_eq (acceptOp_ne hplus)]
  exact (bind_eq (acceptOp_ne hminus)).trans ((bind_eq (acceptOp_ne htilde)).trans (h rest hrest))

theorem reads_comparison (h : Reads (After stops) p.bitwiseOr ts n) : Reads (After stops) p.comparison ts n := by
  refine reads_after fun u hu rest => ?_
  have hstop : Inner.comparisonOp (u :: rest) = some (false, u :: rest) := by
    simp only [stops, List.mem_cons, List.not_mem_nil, or_false] at hu
    rcases hu with rfl | rfl | rfl | rfl | rfl | rfl | rfl <;> rfl
  rw [Inner.comparison, bind_eq (h (u :: rest) ⟨u, hu, rfl⟩),
    bind_eq (repeated_stop (show _ = some (none, u :: rest) from (bind_eq hstop).trans rfl))]
  rfl

theorem reads_inversion (hlead : Leads t) (h : Reads (After stops) p.awaited (t :: ts) n) :
    Reads (After stops) p.inversion (t :: ts) n := by
  have hterm : Reads (After stops) p.term (t :: ts) n :=
    reads_chain (by decide) (reads_factor hlead (reads_power h))
  have hshift : Reads (After stops) p.shift (t :: ts) n := reads_chain (by decide) (reads_chain (by decide) hterm)
  have hbitwise : Reads (After stops) p.bitwiseOr (t :: ts) n :=
    reads_chain (by decide) (reads_chain (by decide) (reads_chain (by decide) hshift))
  intro rest hrest
  rw [Inner.inversion, List.cons_append, bind_eq (acceptWord_ne hlead.ne.2.1)]
  exact reads_comparison hbitwise rest hrest

theorem reads_conditional (hlead : t ≠ .keyword "lambda") (h : Reads (After stops) p.inversion (t :: ts) n) :
    Reads (After stops) p.conditional (t :: ts) n := by
  refine reads_after fun u hu rest => ?_
  have hdisjunction := reads_joined "or" (reads_joined "and" h) (u :: rest) ⟨u, hu, rfl⟩
  have hstop : ∀ u ∈ stops, u ≠ .keyword "if" := by decide
  rw [List.cons_append] at hdisjunction ⊢
  rw [Inner.conditional, bind_eq (nextIsWord_ne hlead)]
  exact (bind_eq hdisjunction).trans ((bind_eq (acceptWord_ne (hstop u hu))).trans rfl)

end

/-! ## Expressions of any nesting -/

/-- The grammar as a whole source is parsed with it; expressions nest at most `depth` deep. -/
def Inner.within (depth : Nat) : Inner :=
  ⟨Rule.parse depth, fieldExpression? (Inner.starExpressions ⟨Rule.parse depth, fun _ => none⟩)⟩

theorem expression_succ (depth : Nat) : (Inner.within (depth + 1)).expression = (Inner.within depth).conditional := rfl

/-- Tokens are read as a primary, as an expression, or as an argument, by a grammar of some depth or more. -/
def ReadsPrimary (depth : Nat) (ts : List Token) (n : Node) : Prop :=
  ∀ d, depth ≤ d → Reads (After stops) (Inner.within d).primary ts n

def ReadsExpression (depth : Nat) (ts : List Token) (n : Node) : Prop :=
  ∀ d, depth ≤ d → Reads (After stops) (Inner.within d).expression ts n

def ReadsArgument (depth : Nat) (ts : List Token) (a : Inner.Argument) : Prop :=
  ∀ d, depth ≤ d → Reads (After argumentStops) (Inner.within d).argument ts a

section
variable {depth depth' : Nat} {t : Token} {ts : List Token} {n : Node}

theorem ReadsExpression.mono (h : ReadsExpression depth ts n) (hdepth : depth ≤ depth') : ReadsExpression depth' ts n :=
  fun d hd => h d (Nat.le_trans hdepth hd)

theorem ReadsArgument.mono {a : Inner.Argument} (h : ReadsArgument depth ts a) (hdepth : depth ≤ depth') :
    ReadsArgument depth' ts a :=
  fun d hd => h d (Nat.le_trans hdepth hd)

theorem reads_awaited (ht : t ≠ .keyword "await") (h : ReadsPrimary depth (t :: ts) n) {d : Nat} (hd : depth ≤ d) :
    Reads (After stops) (Inner.within d).awaited (t :: ts) n := by
  intro rest hrest
  rw [Inner.awaited, List.cons_append, bind_eq (acceptWord_ne ht)]
  exact h d hd rest hrest

theorem reads_await (h : ReadsPrimary depth ts n) {d : Nat} (hd : depth ≤ d) :
    Reads (After stops) (Inner.within d).awaited (.keyword "await" :: ts) (.other [n]) := by
  intro rest hrest
  rw [Inner.awaited, List.cons_append, bind_eq (acceptWord_self ..)]
  exact (bind_eq (h d hd rest hrest)).trans rfl

/-- What is read by the grammar one level inside is read as an expression. -/
theorem ReadsExpression.of_inversion (ht : t ≠ .keyword "lambda")
    (h : ∀ d, depth ≤ d → Reads (After stops) (Inner.within d).inversion (t :: ts) n) :
    ReadsExpression (depth + 1) (t :: ts) n := by
  intro d hd
  obtain ⟨d, rfl⟩ : ∃ m, d = m + 1 := ⟨d - 1, by omega⟩
  rw [expression_succ]
  exact reads_conditional ht (h d (by omega))

theorem ReadsPrimary.expression (hlead : Leads t) (ht : t ≠ .keyword "await") (h : ReadsPrimary depth (t :: ts) n) :
    ReadsExpression (depth + 1) (t :: ts) n :=
  .of_inversion hlead.ne.1 fun _ hd => reads_inversion hlead (reads_awaited ht h hd)

theorem ReadsPrimary.await (h : ReadsPrimary depth ts n) :
    ReadsExpression (depth + 1) (.keyword "await" :: ts) (.other [n]) :=
  .of_inversion (by decide) fun _ hd => reads_inversion (by decide) (reads_await h hd)

theorem ReadsExpression.negation {t : Token}
    (h : ∀ d, depth ≤ d → Reads (After stops) (Inner.within d).inversion (t :: ts) n) :
    ReadsExpression (depth + 2) (.keyword "not" :: t :: ts) (.other [n]) := by
  refine .of_inversion (by decide) fun d hd => ?_
  obtain ⟨d, rfl⟩ : ∃ m, d = m + 1 := ⟨d - 1, by omega⟩
  intro rest hrest
  rw [Inner.inversion, List.cons_append, bind_eq (acceptWord_self ..)]
  exact (bind_eq (h d (by omega) rest hrest)).trans rfl

theorem ReadsPrimary.notAwait (h : ReadsPrimary depth ts n) :
    ReadsExpression (depth + 2) (.keyword "not" :: .keyword "await" :: ts) (.other [.other [n]]) :=
  .negation fun _ hd => reads_inversion (by decide) (reads_await h hd)

theorem ReadsPrimary.not (hlead : Leads t) (ht : t ≠ .keyword "await") (h : ReadsPrimary depth (t :: ts) n) :
    ReadsExpression (depth + 2) (.keyword "not" :: t :: ts) (.other [n]) :=
  .negation fun _ hd => reads_inversion hlead (reads_awaited ht h hd)

/-! ## Texts -/

theorem unescape?_plain {body : List Char} (h : '\\' ∉ body) : unescape? false body = some body := by
  show unescapeFrom? 0 body = some body
  induction body with
  | nil => rfl
  | cons c body ih =>
    have hc : (c == '\\') = false := by
      rw [beq_eq_false_iff_ne]
      rintro rfl
      exact h (List.mem_cons_self ..)
    rw [unescapeFrom?, hc, if_neg Bool.false_ne_true, ih fun hmem => h (List.mem_cons_of_mem c hmem)]
    rfl

theorem literals_text {p : Inner} {body : List Char} (h : '\\' ∉ body) :
    Reads (After stops) p.literals [.literal false false false body] (.string (String.ofList body)) := by
  refine reads_after fun t ht rest => ?_
  rw [Inner.literals]
  refine (bind_eq (?_ : _ = some ([(false, false, false, body)], t :: rest))).trans ?_
  · simp only [stops, List.mem_cons, List.not_mem_nil, or_false] at ht
    rcases ht with rfl | rfl | rfl | rfl | rfl | rfl | rfl <;> rfl
  refine (bind_eq (?_ : _ = some ([[.text body]], t :: rest))).trans ?_
  · simp only [List.mapM_cons, List.mapM_nil, unescape?_plain h]
    rfl
  cases body with
  | nil => rfl
  | cons c body => rfl

/-- What may stand after an atom: an attribute, a call or a subscript. -/
def Inner.after (p : Inner) (primary : Parser Node) (n : Node) : Parser (Option Node) := do
  if ← acceptOp "." then return some (.attribute n (← identifier))
  if ← acceptOp "(" then
    let (args, keywords) ← p.callArguments primary
    return some (.call n args keywords)
  if ← acceptOp "[" then return some (.subscript n (← p.slices))
  return none

theorem primary_eq (p : Inner) (ts : List Token) :
    p.primary ts = (p.atom (p.primaryFrom ts.length) >>= fun n => extended n (p.after (p.primaryFrom ts.length))) ts :=
  rfl

theorem after_stop {p : Inner} {primary : Parser Node} (ht : t ∈ stops) (rest : List Token) :
    p.after primary n (t :: rest) = some (none, t :: rest) := by
  simp only [stops, List.mem_cons, List.not_mem_nil, or_false] at ht
  rcases ht with rfl | rfl | rfl | rfl | rfl | rfl | rfl <;> rfl

/-- An atom that nothing stands after is a primary. -/
theorem ReadsPrimary.of_atom
    (h : ∀ d, depth ≤ d → ∀ primary, Reads (After stops) ((Inner.within d).atom primary) ts n) :
    ReadsPrimary depth ts n := by
  intro d hd
  refine reads_after fun t ht rest => ?_
  rw [primary_eq, bind_eq (h d hd _ (t :: rest) ⟨t, ht, rfl⟩)]
  exact extendFrom_stop _ (after_stop ht rest)

theorem ReadsPrimary.name (x : String) : ReadsPrimary 0 [.name x] (.name x) :=
  .of_atom fun _ _ _ _ _ => rfl

theorem ReadsPrimary.number (v : Int) : ReadsPrimary 0 [.number (some v)] (.integer v) :=
  .of_atom fun _ _ _ _ _ => rfl

theorem ReadsPrimary.none : ReadsPrimary 0 [.keyword "None"] (.other []) := .of_atom fun _ _ _ _ _ => rfl

theorem ReadsPrimary.true : ReadsPrimary 0 [.keyword "True"] (.integer 1) := .of_atom fun _ _ _ _ _ => rfl

theorem ReadsPrimary.text {body : List Char} (h : '\\' ∉ body) :
    ReadsPrimary 0 [.literal false false false body] (.string (String.ofList body)) :=
  .of_atom fun _ _ _ => literals_text h

/-! ## Calls -/

theorem moreItems_pieces {item : Parser α} {closing : String} {more : List (List Token × α)}
    (hmore : ∀ x ∈ more, (∃ t us, x.1 = t :: us ∧ t ≠ .op closing) ∧
      Reads (After [.op ",", .op closing]) item x.1 x.2) (hclosing : closing ≠ ",") (rest : List Token) :
    Inner.moreItems item closing ((more.map fun x => .op "," :: x.1).flatten ++ .op closing :: rest) =
      some ((more.map (·.2), !more.isEmpty), rest) := by
  have hend : acceptOp "," (.op closing :: rest) = some (false, .op closing :: rest) :=
    acceptOp_ne (by simpa using hclosing)
  have hrepeated := repeated_pieces (do
      if ← acceptOp "," then
        if ← nextIsOp closing then return some none
        return some (some (← item))
      return none) (After [.op ",", .op closing]) (more.map fun x => (.op "," :: x.1, some x.2)) ?_
    _ _ ⟨.op closing, by simp, rfl⟩ ((bind_eq hend).trans rfl)
  · rw [List.map_map, List.map_map] at hrepeated
    rw [Inner.moreItems]
    refine (bind_eq hrepeated).trans ((bind_eq (expectOp_self closing rest)).trans ?_)
    have hitems : (more.map fun x => some x.2).filterMap id = more.map (·.2) := by
      simp [List.filterMap_map]
    show some (((more.map fun x => some x.2).filterMap id, !(more.map fun x => some x.2).isEmpty), rest) = _
    rw [hitems, List.isEmpty_map]
  · intro y hy
    obtain ⟨x, hx, rfl⟩ := List.mem_map.mp hy
    obtain ⟨⟨t, us, hxs, ht⟩, hreads⟩ := hmore x hx
    refine ⟨by simp, ⟨_, by simp, rfl⟩, fun rest hrest => ?_⟩
    have hitem := hreads rest hrest
    rw [hxs] at hitem
    rw [hxs, List.cons_append, bind_eq (acceptOp_self ..)]
    exact (bind_eq (nextIsOp_ne ht)).trans ((bind_eq hitem).trans rfl)

/-- Arguments with commas between them. -/
def argumentTokens : List (List Token) → List Token
  | [] => []
  | ts :: more => ts ++ (more.map (.op "," :: ·)).flatten

/-- Arguments are read one by one, those by position before the named ones. -/
inductive ReadsArguments (depth : Nat) : List (List Token) → List Node → List Node → Prop where
  | none : ReadsArguments depth [] [] []
  | position {t ts more n positions options} (h : ReadsArgument depth (t :: ts) (.positional n)) (ht : t ≠ .op ")")
      (hmore : ReadsArguments depth more positions options) :
      ReadsArguments depth ((t :: ts) :: more) (n :: positions) options
  | option {t ts more n options} (h : ReadsArgument depth (t :: ts) (.named n)) (ht : t ≠ .op ")")
      (hmore : ReadsArguments depth more [] options) : ReadsArguments depth ((t :: ts) :: more) [] (n :: options)

theorem ordered_noPositional (options : List Node) : Inner.ordered.noPositional (options.map .named) = true := by
  induction options with
  | nil => rfl
  | cons n options ih => exact ih

theorem splitArguments_sorted (positions options : List Node) (rest : List Token) :
    Inner.splitArguments (positions.map .positional ++ options.map .named) rest = some ((positions, options), rest) := by
  have hordered : Inner.ordered (positions.map .positional ++ options.map .named) = true := by
    induction positions with
    | nil =>
      cases options with
      | nil => rfl
      | cons n options => exact ordered_noPositional options
    | cons n positions ih => exact ih
  have hnone (ns : List Node) : ns.filterMap (fun _ => (none : Option Node)) = [] := by
    rw [List.filterMap_eq_nil_iff]
    exact fun _ _ => rfl
  rw [Inner.splitArguments, if_pos hordered]
  simp only [List.filterMap_append, List.filterMap_map, Function.comp_def, List.filterMap_some, hnone, List.append_nil,
    List.nil_append]
  rfl

theorem ReadsArguments.exists_pieces {tss : List (List Token)} {positions options : List Node}
    (h : ReadsArguments depth tss positions options) : ∃ args : List (List Token × Inner.Argument),
      args.map (·.1) = tss ∧ args.map (·.2) = positions.map .positional ++ options.map .named ∧
      ∀ x ∈ args, (∃ t us, x.1 = t :: us ∧ t ≠ .op ")") ∧ ReadsArgument depth x.1 x.2 := by
  induction h with
  | none => exact ⟨[], rfl, rfl, nofun⟩
  | position h ht _ ih =>
    obtain ⟨args, htokens, hvalues, hargs⟩ := ih
    refine ⟨(_, .positional _) :: args, by rw [List.map_cons, htokens], by rw [List.map_cons, hvalues]; rfl, ?_⟩
    exact List.forall_mem_cons.mpr ⟨⟨⟨_, _, rfl, ht⟩, h⟩, hargs⟩
  | option h ht _ ih =>
    obtain ⟨args, htokens, hvalues, hargs⟩ := ih
    refine ⟨(_, .named _) :: args, by rw [List.map_cons, htokens], by rw [List.map_cons, hvalues]; rfl, ?_⟩
    exact List.forall_mem_cons.mpr ⟨⟨⟨_, _, rfl, ht⟩, h⟩, hargs⟩

theorem callArguments_pieces {tss : List (List Token)} {positions options : List Node}
    (h : ReadsArguments depth tss positions options) {d : Nat} (hd : depth ≤ d) (primary : Parser Node)
    (rest : List Token) :
    (Inner.within d).callArguments primary (argumentTokens tss ++ .op ")" :: rest) =
      some ((positions, options), rest) := by
  obtain ⟨args, rfl, hvalues, hargs⟩ := h.exists_pieces
  have hall := splitArguments_sorted positions options rest
  rw [← hvalues] at hall
  cases args with
  | nil => exact hall
  | cons x more =>
    obtain ⟨⟨t, us, hxs, ht⟩, hreads⟩ := hargs x (List.mem_cons_self ..)
    have hlater : ∀ y ∈ more, (∃ t us, y.1 = t :: us ∧ t ≠ .op ")") ∧
        Reads (After [.op ",", .op ")"]) (Inner.within d).argument y.1 y.2 := fun y hy =>
      ⟨(hargs y (List.mem_cons_of_mem x hy)).1, (hargs y (List.mem_cons_of_mem x hy)).2 d hd⟩
    have hmore := moreItems_pieces hlater (by decide) rest
    -- Behind the first argument stands a comma or the closing bracket.
    have hnext : ∃ u vs, (more.map fun y => .op "," :: y.1).flatten ++ .op ")" :: rest = u :: vs ∧
        u ∈ argumentStops := by
      cases more with
      | nil => exact ⟨_, _, rfl, by decide⟩
      | cons y more => exact ⟨_, _, rfl, by decide⟩
    obtain ⟨u, vs, heq, hu⟩ := hnext
    have hfirst := hreads d hd (u :: vs) ⟨u, hu, rfl⟩
    have hclauses : Inner.clauseFollows (u :: vs) = some (false, u :: vs) := by
      simp only [argumentStops, List.mem_cons, List.not_mem_nil, or_false] at hu
      rcases hu with rfl | rfl <;> rfl
    have htokens : argumentTokens ((x :: more).map (·.1)) = x.1 ++ (more.map fun y => .op "," :: y.1).flatten := by
      simp [argumentTokens, Function.comp_def]
    rw [hxs] at hfirst
    rw [htokens, List.append_assoc, heq, hxs, Inner.callArguments, List.cons_append, bind_eq (acceptOp_ne ht)]
    refine (bind_eq hfirst).trans ((bind_eq hclauses).trans ?_)
    rw [heq] at hmore
    rw [List.map_cons] at hall
    cases hx : x.2 <;> rw [hx] at hall <;> exact (bind_eq hmore).trans hall

theorem after_call {p : Inner} {primary : Parser Node} {rest : List Token} {positions options : List Node}
    (h : p.callArguments primary ts = some ((positions, options), rest)) :
    p.after primary n (.op "(" :: ts) = some (some (.call n positions options), rest) := by
  have hdot : acceptOp "." (.op "(" :: ts) = some (false, .op "(" :: ts) := acceptOp_ne (by decide)
  rw [Inner.after, bind_eq hdot]
  exact (bind_eq (acceptOp_self ..)).trans ((bind_eq h).trans rfl)

theorem after_attribute (p : Inner) (primary : Parser Node) (x : String) (rest : List Token) :
    p.after primary n (.op "." :: .name x :: rest) = some (some (.attribute n x), rest) := rfl

section
variable {tss : List (List Token)} {positions options : List Node} (h : ReadsArguments depth tss positions options)
include h

theorem ReadsPrimary.call (f : String) : ReadsPrimary depth
    (.name f :: .op "(" :: (argumentTokens tss ++ [.op ")"])) (.call (.name f) positions options) := by
  intro d hd
  refine reads_after fun t ht rest => ?_
  simp only [List.cons_append, List.append_assoc, List.nil_append]
  rw [primary_eq]
  exact (extendFrom_step _ (after_call (callArguments_pieces h hd _ (t :: rest)))).trans
    (extendFrom_stop _ (after_stop ht rest))

theorem ReadsPrimary.methodCall (x f : String) : ReadsPrimary depth
    (.name x :: .op "." :: .name f :: .op "(" :: (argumentTokens tss ++ [.op ")"]))
    (.call (.attribute (.name x) f) positions options) := by
  intro d hd
  refine reads_after fun t ht rest => ?_
  simp only [List.cons_append, List.append_assoc, List.nil_append]
  rw [primary_eq]
  exact (extendFrom_step _ (after_attribute ..)).trans
    ((extendFrom_step _ (after_call (callArguments_pieces h hd _ (t :: rest)))).trans
      (extendFrom_stop _ (after_stop ht rest)))

end

/-! ## Texts in arguments, lists and dictionaries -/

theorem ReadsExpression.name (x : String) : ReadsExpression 1 [.name x] (.name x) :=
  (ReadsPrimary.name x).expression (by simp [Leads]) (by simp)

theorem ReadsExpression.number (v : Int) : ReadsExpression 1 [.number (some v)] (.integer v) :=
  (ReadsPrimary.number v).expression (by simp [Leads]) (by simp)

theorem ReadsExpression.none : ReadsExpression 1 [.keyword "None"] (.other []) :=
  ReadsPrimary.none.expression (by decide) (by decide)

theorem ReadsExpression.true : ReadsExpression 1 [.keyword "True"] (.integer 1) :=
  ReadsPrimary.true.expression (by decide) (by decide)

theorem ReadsExpression.text {body : List Char} (h : '\\' ∉ body) :
    ReadsExpression 1 [.literal false false false body] (.string (String.ofList body)) :=
  (ReadsPrimary.text h).expression (by simp [Leads]) (by simp)

theorem mem_stops (ht : t ∈ argumentStops) : t ∈ stops := by
  have hall : ∀ u ∈ argumentStops, u ∈ stops := by decide
  exact hall t ht

theorem ReadsArgument.text {body : List Char} (h : '\\' ∉ body) :
    ReadsArgument 1 [.literal false false false body] (.positional (.string (String.ofList body))) := by
  intro d hd
  refine reads_after fun t ht rest => ?_
  have hexpression := ReadsExpression.text h d hd (t :: rest) ⟨t, mem_stops ht, rfl⟩
  have hargument : (Inner.within d).argument (.literal false false false body :: t :: rest) =
      ((Inner.within d).expression >>= fun n => return .positional n) (.literal false false false body :: t :: rest) := rfl
  exact hargument.trans ((bind_eq hexpression).trans rfl)

theorem ReadsArgument.named (x : String) (h : ReadsExpression depth ts n) :
    ReadsArgument depth (.name x :: .op "=" :: ts) (.named (.keyword (some x) n)) := by
  intro d hd
  refine reads_after fun t ht rest => ?_
  have hexpression := h d hd (t :: rest) ⟨t, mem_stops ht, rfl⟩
  have hargument : (Inner.within d).argument (.name x :: .op "=" :: (ts ++ t :: rest)) =
      ((Inner.within d).expression >>= fun n => return .named (.keyword (some x) n)) (ts ++ t :: rest) := rfl
  exact hargument.trans ((bind_eq hexpression).trans rfl)

theorem ReadsArgument.name (x : String) : ReadsArgument 1 [.name x] (.positional (.name x)) := by
  intro d hd
  refine reads_after fun t ht rest => ?_
  have hexpression := ReadsExpression.name x d hd (t :: rest) ⟨t, mem_stops ht, rfl⟩
  have hargument : (Inner.within d).argument (.name x :: t :: rest) =
      ((Inner.within d).expression >>= fun n => return .positional n) (.name x :: t :: rest) := by
    simp only [argumentStops, List.mem_cons, List.not_mem_nil, or_false] at ht
    rcases ht with rfl | rfl <;> rfl
  exact hargument.trans ((bind_eq hexpression).trans rfl)

/-- An argument that begins with a member of something. -/
theorem ReadsArgument.member {x : String} (h : ReadsExpression depth (.name x :: .op "." :: ts) n) :
    ReadsArgument depth (.name x :: .op "." :: ts) (.positional n) := by
  intro d hd
  refine reads_after fun t ht rest => ?_
  have hexpression := h d hd (t :: rest) ⟨t, mem_stops ht, rfl⟩
  have hargument : (Inner.within d).argument (.name x :: .op "." :: (ts ++ t :: rest)) =
      ((Inner.within d).expression >>= fun n => return .positional n) (.name x :: .op "." :: (ts ++ t :: rest)) := rfl
  exact hargument.trans ((bind_eq hexpression).trans rfl)

theorem ReadsPrimary.textList {body : List Char} (h : '\\' ∉ body) :
    ReadsPrimary 1 [.op "[", .literal false false false body, .op "]"] (.sequence .list [.string (String.ofList body)]) := by
  refine .of_atom fun d hd primary rest _ => ?_
  have hfirst : (Inner.within d).starNamed (.literal false false false body :: .op "]" :: rest) =
      some (.string (String.ofList body), .op "]" :: rest) :=
    ReadsExpression.text h d hd (.op "]" :: rest) ⟨_, by decide, rfl⟩
  have hbracketed : (Inner.within d).bracketed primary (.literal false false false body :: .op "]" :: rest) =
      some (.sequence .list [.string (String.ofList body)], rest) := by
    rw [Inner.bracketed, bind_eq (acceptOp_ne (by simp))]
    exact (bind_eq hfirst).trans rfl
  exact hbracketed

theorem ReadsPrimary.textEntry {body : List Char} (h : '\\' ∉ body) (x : String) :
    ReadsPrimary 1 [.op "\x7b", .literal false false false body, .op ":", .name x, .op "\x7d"]
      (.dict [.string (String.ofList body)] [.name x]) := by
  refine .of_atom fun d hd primary rest _ => ?_
  have hkey := ReadsExpression.text h d hd (.op ":" :: .name x :: .op "\x7d" :: rest) ⟨_, by decide, rfl⟩
  have hvalue := ReadsExpression.name x d hd (.op "\x7d" :: rest) ⟨_, by decide, rfl⟩
  have hbraced : (Inner.within d).braced primary
      (.literal false false false body :: .op ":" :: .name x :: .op "\x7d" :: rest) =
        some (.dict [.string (String.ofList body)] [.name x], rest) := by
    rw [Inner.braced, bind_eq (acceptOp_ne (by simp))]
    refine (bind_eq (nextIsOp_ne (by simp))).trans ?_
    refine (bind_eq (nextIsOp_ne (by simp))).trans ?_
    refine (bind_eq (f := fun _ => _) (show peekTwo _ = some (_, _) from rfl)).trans ?_
    refine (bind_eq hkey).trans ?_
    refine (bind_eq (acceptOp_self ..)).trans ?_
    exact (bind_eq hvalue).trans rfl
  exact hbraced

end

end SchemaConcord.Source
