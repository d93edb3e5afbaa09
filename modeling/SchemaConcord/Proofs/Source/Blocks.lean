import SchemaConcord.Proofs.Source.Reading

/-!
# Reading statements

The reading of statements from the readings of their expressions, of blocks from their statements, and of a whole source
from the statements at its outermost level (`module_eq`).
-/

namespace SchemaConcord.Source

open SchemaConcord.Source.Parser

/-- A condition before this token has no further branches. -/
def Fresh (o : Option Token) : Prop := o ≠ some (.keyword "elif") ∧ o ≠ some (.keyword "else")

instance (o : Option Token) : Decidable (Fresh o) := inferInstanceAs (Decidable (_ ∧ _))

theorem fresh_name (x : String) : Fresh (some (.name x)) := by simp [Fresh]

/-- Tokens are read as one statement by a grammar of some depth or more, blocks nesting some number deep or more. -/
def ReadsStatement (depth blocks : Nat) (ts : List Token) (ns : List Node) : Prop :=
  ∀ d, depth ≤ d → ∀ b, blocks ≤ b → Reads Fresh ((Inner.within d).statement ((Inner.within d).blockWithin b)) ts ns

theorem ReadsStatement.mono {depth blocks depth' blocks' : Nat} {ts : List Token} {ns : List Node}
    (h : ReadsStatement depth blocks ts ns) (hdepth : depth ≤ depth') (hblocks : blocks ≤ blocks') :
    ReadsStatement depth' blocks' ts ns :=
  fun d hd b hb => h d (Nat.le_trans hdepth hd) b (Nat.le_trans hblocks hb)

def ReadsBlock (depth blocks : Nat) (ts : List Token) (ns : List Node) : Prop :=
  ∀ d, depth ≤ d → ∀ b, blocks ≤ b → Reads (fun _ => True) ((Inner.within d).blockWithin b) ts ns

section
variable {depth blocks : Nat} {t : Token} {ts : List Token} {n : Node}

/-! ## Simple statements -/

theorem starExpressions_eq (ht : t ≠ .op "*") (h : ReadsExpression depth (t :: ts) n) {d : Nat} (hd : depth ≤ d)
    {u : Token} (hu : u ∈ stops) (hcomma : u ≠ .op ",") (rest : List Token) :
    (Inner.within d).starExpressions (t :: (ts ++ u :: rest)) = some (n, u :: rest) := by
  have hfirst : (Inner.within d).starred (t :: (ts ++ u :: rest)) = some (n, u :: rest) := by
    rw [Inner.starred, bind_eq (acceptOp_ne ht)]
    exact h d hd (u :: rest) ⟨u, hu, rfl⟩
  have hitems : separated (Inner.within d).starred "," Inner.sequenceStops (t :: (ts ++ u :: rest)) =
      some (([n], false), u :: rest) := by
    rw [separated, bind_eq hfirst]
    exact (bind_eq (repeated_stop ((bind_eq (acceptOp_ne hcomma)).trans rfl))).trans rfl
  rw [Inner.starExpressions, bind_eq hitems]
  rfl

theorem simpleLine_eq {p : Inner} {rest : List Token} (h : p.simple ts = some (n, .newline :: rest)) :
    p.simpleLine ts = some ([n], rest) := by
  have hitems : separated p.simple ";" (do return (← peek) == some .newline) ts =
      some (([n], false), .newline :: rest) := by
    rw [separated, bind_eq h]
    exact (bind_eq (repeated_stop rfl)).trans rfl
  rw [Inner.simpleLine, bind_eq hitems]
  rfl

/-- An expression alone on its line, unless its first token begins another statement. -/
theorem ReadsStatement.expression
    (hstatement : ∀ (p : Inner) block rest, p.statement block (t :: rest) = p.simpleLine (t :: rest))
    (hsimple : ∀ (p : Inner) rest, p.simple (t :: rest) = p.expressionStatement (t :: rest)) (ht : t ≠ .op "*")
    (h : ReadsExpression depth (t :: ts) n) : ReadsStatement depth 0 (t :: (ts ++ [.newline])) [.other [n]] := by
  intro d hd b _ rest _
  rw [List.cons_append, List.append_assoc, hstatement]
  refine simpleLine_eq ?_
  rw [hsimple, Inner.expressionStatement]
  exact (bind_eq (starExpressions_eq ht h hd (by decide) (by decide) rest)).trans rfl

theorem ReadsStatement.text {body : List Char} (h : '\\' ∉ body) :
    ReadsStatement 1 0 [.literal false false false body, .newline] [.other [.string (String.ofList body)]] :=
  .expression (fun _ _ _ => rfl) (fun _ _ => rfl) (by simp) (.text h)

theorem statement_name {x : String} (hx : x ≠ "match") (p : Inner) (block : Parser (List Node)) (rest : List Token) :
    p.statement block (.name x :: rest) = p.simpleLine (.name x :: rest) := by
  rw [Inner.statement]
  refine (bind_eq (show peek (.name x :: rest) = some (some (.name x), _) from rfl)).trans ?_
  simp [hx]

theorem simple_name (p : Inner) (x : String) (rest : List Token) :
    p.simple (.name x :: rest) = p.expressionStatement (.name x :: rest) := rfl

/-- The right side of an assignment at the end of a line. -/
theorem rightSide_eq (hstar : t ≠ .op "*") (hyield : t ≠ .keyword "yield") (h : ReadsExpression depth (t :: ts) n)
    {d : Nat} (hd : depth ≤ d) (rest : List Token) :
    (Inner.within d).rightSide (t :: (ts ++ .newline :: rest)) = some (n, .newline :: rest) := by
  rw [Inner.rightSide, bind_eq (nextIsWord_ne hyield)]
  exact starExpressions_eq hstar h hd (by decide) (by decide) rest

theorem ReadsStatement.assignment {x : String} (hx : x ≠ "match") (hstar : t ≠ .op "*") (hyield : t ≠ .keyword "yield")
    (h : ReadsExpression depth (t :: ts) n) (hdepth : 1 ≤ depth) :
    ReadsStatement depth 0 (.name x :: .op "=" :: t :: (ts ++ [.newline])) [.other [.name x, n]] := by
  intro d hd b _ rest _
  simp only [List.cons_append, List.append_assoc, List.nil_append]
  have htarget := starExpressions_eq (t := .name x) (by simp) (ReadsExpression.name x) (Nat.le_trans hdepth hd)
    (u := .op "=") (by decide) (by decide) (t :: (ts ++ .newline :: rest))
  rw [statement_name hx]
  refine simpleLine_eq ?_
  rw [simple_name, Inner.expressionStatement]
  refine (bind_eq htarget).trans ?_
  show (Inner.within d).assignment (.name x) _ = _
  rw [Inner.assignment]
  have hvalue := rightSide_eq hstar hyield h hd rest
  exact (bind_eq (repeated_one ((bind_eq (acceptOp_self ..)).trans ((bind_eq hvalue).trans rfl)) (by simp) rfl)).trans rfl

/-- What stands after the type of a field: nothing, or a value. -/
def ReadsValue (depth : Nat) (ts : List Token) : Prop :=
  ts = [] ∨ ∃ t more n, ts = .op "=" :: t :: more ∧ t ≠ .op "*" ∧ t ≠ .keyword "yield" ∧
    ReadsExpression depth (t :: more) n

theorem annotated_eq (x : String) {d : Nat} (hd : 1 ≤ d) (ts : List Token) :
    (Inner.within d).simple (.name x :: .op ":" :: ts) = ((Inner.within d).expression >>= fun kind => do
      if ← acceptOp "=" then return .other [.name x, kind, ← (Inner.within d).rightSide]
      else return .other [.name x, kind]) ts := by
  have hname := starExpressions_eq (t := .name x) (by simp) (ReadsExpression.name x) hd (u := .op ":") (by decide)
    (by decide) ts
  rw [simple_name, Inner.expressionStatement]
  exact (bind_eq hname).trans rfl

/-- No match statement begins with a colon, so its word is a name there. -/
theorem statement_annotated (x : String) (d : Nat) (block : Parser (List Node)) (ts : List Token) :
    (Inner.within d).statement block (.name x :: .op ":" :: ts) = (Inner.within d).simpleLine (.name x :: .op ":" :: ts) := by
  by_cases hx : x = "match"
  · subst hx
    have hchoice : (Inner.within d).choice block (.name "match" :: .op ":" :: ts) = none := by
      cases d <;> rfl
    have hstatement : (Inner.within d).statement block (.name "match" :: .op ":" :: ts) =
        (((Inner.within d).choice block (.name "match" :: .op ":" :: ts)).bind fun p => some ([p.1], p.2)).orElse
          fun _ => (Inner.within d).simpleLine (.name "match" :: .op ":" :: ts) := rfl
    rw [hstatement, hchoice]
    rfl
  · exact statement_name hx _ block _

/-- A field of a class with its type and perhaps a value. -/
theorem exists_readsStatement_field (x : String) {kind value : List Token} (hkind : ReadsExpression depth kind n)
    (hvalue : ReadsValue depth value) (hdepth : 1 ≤ depth) :
    ∃ ns, ReadsStatement depth 0 (.name x :: .op ":" :: (kind ++ (value ++ [.newline]))) ns := by
  rcases hvalue with rfl | ⟨t, more, m, rfl, hstar, hyield, hvalue⟩
  · refine ⟨[.other [.name x, n]], fun d hd b _ rest _ => ?_⟩
    simp only [List.cons_append, List.append_assoc, List.nil_append]
    rw [statement_annotated]
    refine simpleLine_eq ?_
    rw [annotated_eq x (Nat.le_trans hdepth hd)]
    exact (bind_eq (hkind d hd (.newline :: rest) ⟨_, by decide, rfl⟩)).trans rfl
  · refine ⟨[.other [.name x, n, m]], fun d hd b _ rest _ => ?_⟩
    simp only [List.cons_append, List.append_assoc, List.nil_append]
    rw [statement_annotated]
    refine simpleLine_eq ?_
    rw [annotated_eq x (Nat.le_trans hdepth hd)]
    refine (bind_eq (hkind d hd (.op "=" :: t :: (more ++ .newline :: rest)) ⟨_, by decide, rfl⟩)).trans ?_
    refine (bind_eq (acceptOp_self ..)).trans ?_
    exact (bind_eq (rightSide_eq hstar hyield hvalue hd rest)).trans rfl

theorem ReadsStatement.raise (x : String) (h : ReadsExpression depth (.name x :: ts) n) :
    ReadsStatement depth 0 (.keyword "raise" :: .name x :: (ts ++ [.newline])) [.other [n]] := by
  intro d hd b _ rest _
  simp only [List.cons_append, List.append_assoc, List.nil_append]
  have hraise : (Inner.within d).simple (.keyword "raise" :: .name x :: (ts ++ .newline :: rest)) =
      ((Inner.within d).expression >>= fun n => do
        if ← acceptWord "from" then return .other [n, ← (Inner.within d).expression] else return .other [n])
        (.name x :: (ts ++ .newline :: rest)) := rfl
  have hsimple : (Inner.within d).simple (.keyword "raise" :: .name x :: (ts ++ .newline :: rest)) =
      some (.other [n], .newline :: rest) :=
    hraise.trans ((bind_eq (h d hd (.newline :: rest) ⟨_, by decide, rfl⟩)).trans rfl)
  have hline := simpleLine_eq hsimple
  exact hline

/-! ## Blocks -/

theorem acceptWord_fresh {s : String} {rest : List Token} (h : rest.head? ≠ some (.keyword s)) :
    acceptWord s rest = some (false, rest) := by
  cases rest with
  | nil => rfl
  | cons t rest => exact acceptWord_ne fun ht => h (by rw [ht]; rfl)

/-- Statements one after another, none of which begins like the end of a block or a further branch. -/
def ReadsStatements (depth blocks : Nat) (pieces : List (List Token × List Node)) : Prop :=
  ∀ x ∈ pieces, (∃ t us, x.1 = t :: us ∧ t ≠ .dedent ∧ Fresh (some t)) ∧ ReadsStatement depth blocks x.1 x.2

theorem fresh_flatten {pieces : List (List Token × List Node)} (h : ReadsStatements depth blocks pieces)
    {rest : List Token} (hrest : Fresh rest.head?) : Fresh ((pieces.map (·.1)).flatten ++ rest).head? := by
  cases pieces with
  | nil => exact hrest
  | cons x pieces =>
    obtain ⟨⟨t, us, hx, -, hfresh⟩, -⟩ := h x (List.mem_cons_self ..)
    rw [List.map_cons, hx]
    exact hfresh

theorem ReadsBlock.of_statements {pieces : List (List Token × List Node)} (hne : pieces ≠ [])
    (h : ReadsStatements depth blocks pieces) :
    ReadsBlock depth (blocks + 1) (.newline :: .indent :: ((pieces.map (·.1)).flatten ++ [.dedent]))
      (pieces.map (·.2)).flatten := by
  intro d hd b hb rest _
  obtain ⟨b, rfl⟩ : ∃ m, b = m + 1 := ⟨b - 1, by omega⟩
  have hb : blocks ≤ b := by omega
  obtain ⟨x, more, rfl⟩ := List.exists_cons_of_ne_nil hne
  have hmore : ReadsStatements depth blocks more := fun y hy => h y (List.mem_cons_of_mem x hy)
  have hdedent : Fresh (some .dedent) := by simp [Fresh]
  have hfirst := (h x (List.mem_cons_self ..)).2 d hd b hb ((more.map (·.1)).flatten ++ .dedent :: rest)
    (fresh_flatten hmore hdedent)
  -- The loop stops at the dedent, with which no statement begins.
  have hothers := repeated_pieces (do
      if (← peek) == some .dedent then return none
      return some (← (Inner.within d).statement ((Inner.within d).blockWithin b))) Fresh more ?_
    (.dedent :: rest) (.dedent :: rest) hdedent rfl
  · simp only [List.cons_append, List.append_assoc, List.nil_append, List.map_cons, List.flatten_cons]
    rw [Inner.blockWithin]
    refine (bind_eq (show accept .newline _ = some (true, _) from rfl)).trans ?_
    refine (bind_eq (show expect .indent _ = some ((), _) from rfl)).trans ?_
    refine (bind_eq hfirst).trans ?_
    refine (bind_eq hothers).trans ?_
    exact (bind_eq (show expect .dedent _ = some ((), rest) from rfl)).trans rfl
  · intro y hy
    obtain ⟨⟨t, us, hts, hne, hfresh⟩, hreads⟩ := hmore y hy
    refine ⟨by simp [hts], hts ▸ hfresh, fun rest hrest => ?_⟩
    have hstatement := hreads d hd b hb rest hrest
    have hpeek : (some t == some Token.dedent) = false := beq_false_of_ne fun heq => hne (Option.some.inj heq)
    rw [hts] at hstatement ⊢
    refine (bind_eq (show peek _ = some (some t, t :: us ++ rest) from rfl)).trans ?_
    rw [hpeek]
    exact (bind_eq hstatement).trans rfl

/-- Tokens are read as a statement inside a block. -/
def Nested (depth blocks : Nat) (ts : List Token) : Prop :=
  (∃ t us, ts = t :: us ∧ t ≠ .dedent ∧ Fresh (some t)) ∧ ∃ ns, ReadsStatement depth blocks ts ns

theorem Nested.mono {depth' blocks' : Nat} (h : Nested depth blocks ts) (hdepth : depth ≤ depth')
    (hblocks : blocks ≤ blocks') : Nested depth' blocks' ts :=
  ⟨h.1, h.2.imp fun _ hns => hns.mono hdepth hblocks⟩

theorem exists_readsBlock {tss : List (List Token)} (hne : tss ≠ []) (h : ∀ ts ∈ tss, Nested depth blocks ts) :
    ∃ ns, ReadsBlock depth (blocks + 1) (.newline :: .indent :: (tss.flatten ++ [.dedent])) ns := by
  obtain ⟨pieces, hpieces, rfl⟩ : ∃ pieces, ReadsStatements depth blocks pieces ∧ pieces.map (·.1) = tss := by
    clear hne
    induction tss with
    | nil => exact ⟨[], nofun, rfl⟩
    | cons ts tss ih =>
      obtain ⟨hbegins, ns, hns⟩ := h ts (List.mem_cons_self ..)
      obtain ⟨pieces, hpieces, rfl⟩ := ih fun us hus => h us (List.mem_cons_of_mem ts hus)
      exact ⟨(ts, ns) :: pieces, List.forall_mem_cons.mpr ⟨⟨hbegins, hns⟩, hpieces⟩, rfl⟩
  exact ⟨_, ReadsBlock.of_statements (by rintro rfl; exact hne rfl) hpieces⟩

theorem body_eq {block : Parser (List Node)} {ns : List Node} {rest : List Token} (h : block ts = some (ns, rest)) :
    Inner.body block (.op ":" :: ts) = some (ns, rest) := by
  rw [Inner.body, bind_eq (expectOp_self ..)]
  exact h

/-! ## Statements with blocks -/

variable {ns : List Node} {body : List Token}

theorem ReadsStatement.condition (h : ReadsExpression depth (.keyword "not" :: ts) n) (hbody : ReadsBlock depth blocks body ns) :
    ReadsStatement depth blocks (.keyword "if" :: .keyword "not" :: (ts ++ .op ":" :: body)) [.other (n :: ns)] := by
  intro d hd b hb rest hrest
  simp only [List.cons_append, List.append_assoc]
  have htest : (Inner.within d).named (.keyword "not" :: (ts ++ .op ":" :: (body ++ rest))) =
      some (n, .op ":" :: (body ++ rest)) := h d hd (.op ":" :: (body ++ rest)) ⟨_, by decide, rfl⟩
  have hblock := body_eq (hbody d hd b hb rest trivial)
  have hcondition : (Inner.within d).condition ((Inner.within d).blockWithin b)
      (.keyword "if" :: .keyword "not" :: (ts ++ .op ":" :: (body ++ rest))) = some (.other (n :: ns), rest) := by
    rw [Inner.condition, bind_eq (expectWord_self ..)]
    refine (bind_eq htest).trans ?_
    refine (bind_eq hblock).trans ?_
    refine (bind_eq (repeated_stop ((bind_eq (acceptWord_fresh hrest.1)).trans rfl))).trans ?_
    have helse : Inner.elseBody ((Inner.within d).blockWithin b) rest = some ([], rest) := by
      rw [Inner.elseBody, bind_eq (acceptWord_fresh hrest.2)]
      rfl
    refine (bind_eq helse).trans ?_
    show some (Node.other (n :: (ns ++ [])), rest) = _
    rw [List.append_nil]
  have hstatement : ∀ us, (Inner.within d).statement ((Inner.within d).blockWithin b) (.keyword "if" :: us) =
      ((Inner.within d).condition ((Inner.within d).blockWithin b) >>= fun n => return [n]) (.keyword "if" :: us) :=
    fun _ => rfl
  exact (hstatement _).trans ((bind_eq hcondition).trans rfl)

/-- A class with one base. -/
theorem ReadsStatement.classDefinition (x base : String) (hbody : ReadsBlock depth blocks body ns) (hdepth : 1 ≤ depth) :
    ReadsStatement depth blocks
      (.keyword "class" :: .name x :: .op "(" :: .name base :: .op ")" :: .op ":" :: body)
      [.other (.name base :: (ns ++ []))] := by
  intro d hd b hb rest _
  obtain ⟨e, rfl⟩ : ∃ e, d = e + 1 := ⟨d - 1, by omega⟩
  have hblock := body_eq (hbody (e + 1) hd b hb rest trivial)
  have hbases : (Inner.within (e + 1)).arguments (.name base :: .op ")" :: .op ":" :: (body ++ rest)) =
      some (([.name base], []), .op ":" :: (body ++ rest)) := rfl
  have hclass : (Inner.within (e + 1)).classDefinition ((Inner.within (e + 1)).blockWithin b) []
      (.keyword "class" :: .name x :: .op "(" :: .name base :: .op ")" :: .op ":" :: (body ++ rest)) =
        some (.other (.name base :: (ns ++ [])), rest) := by
    rw [Inner.classDefinition, bind_eq (expectWord_self ..)]
    refine (bind_eq (show identifier _ = some (x, _) from rfl)).trans ?_
    refine (bind_eq (acceptOp_self ..)).trans ?_
    refine (bind_eq hbases).trans ?_
    exact (bind_eq hblock).trans rfl
  have hstatement : ∀ us, (Inner.within (e + 1)).statement ((Inner.within (e + 1)).blockWithin b) (.keyword "class" :: us) =
      ((Inner.within (e + 1)).classDefinition ((Inner.within (e + 1)).blockWithin b) [] >>= fun n => return [n])
        (.keyword "class" :: us) := fun _ => rfl
  exact (hstatement _).trans ((bind_eq hclass).trans rfl)

section
variable (name : String) {parameters returns : List Token} {pn rn : Node}
  (hparameters : ∀ d, depth ≤ d → Reads (fun _ => True) ((Inner.within d).parameters true ")") parameters pn)
  (hreturns : ReadsExpression depth returns rn) (hbody : ReadsBlock depth blocks body ns)
include hparameters hreturns hbody

theorem function_eq (decorators : List Node) {d : Nat} (hd : depth ≤ d) {b : Nat} (hb : blocks ≤ b) (rest : List Token) :
    (Inner.within d).function ((Inner.within d).blockWithin b) decorators (.keyword "def" :: .name name ::
      .op "(" :: (parameters ++ .op "->" :: (returns ++ .op ":" :: (body ++ rest)))) =
        some (.function name pn ns decorators [rn], rest) := by
  have hblock := body_eq (hbody d hd b hb rest trivial)
  have hkind := hreturns d hd (.op ":" :: (body ++ rest)) ⟨_, by decide, rfl⟩
  have hinputs := hparameters d hd (.op "->" :: (returns ++ .op ":" :: (body ++ rest))) trivial
  rw [Inner.function, bind_eq (expectWord_self ..)]
  refine (bind_eq (show identifier _ = some (name, _) from rfl)).trans ?_
  refine (bind_eq (expectOp_self ..)).trans ?_
  refine (bind_eq hinputs).trans ?_
  refine (bind_eq (acceptOp_self ..)).trans ?_
  refine (bind_eq (map_eq hkind)).trans ?_
  exact (bind_eq hblock).trans rfl

theorem ReadsStatement.asynchronous : ReadsStatement depth blocks
    (.keyword "async" :: .keyword "def" :: .name name :: .op "(" ::
      (parameters ++ .op "->" :: (returns ++ .op ":" :: body))) [.function name pn ns [] [rn]] := by
  intro d hd b hb rest _
  simp only [List.cons_append, List.append_assoc]
  have hfunction := function_eq name hparameters hreturns hbody [] hd hb rest
  generalize Token.name name :: _ = us at hfunction ⊢
  have hdef : nextIsWord "def" (.keyword "def" :: us) = some (true, .keyword "def" :: us) := rfl
  have hasync : (Inner.within d).asynchronous ((Inner.within d).blockWithin b) []
      (.keyword "async" :: .keyword "def" :: us) = some (.function name pn ns [] [rn], rest) := by
    rw [Inner.asynchronous, bind_eq (expectWord_self ..)]
    exact (bind_eq hdef).trans hfunction
  have hstatement : ∀ us, (Inner.within d).statement ((Inner.within d).blockWithin b) (.keyword "async" :: us) =
      ((Inner.within d).asynchronous ((Inner.within d).blockWithin b) [] >>= fun n => return [n])
        (.keyword "async" :: us) := fun _ => rfl
  exact (hstatement _).trans ((bind_eq hasync).trans rfl)

/-- An asynchronous function below a decorator that begins with an attribute. -/
theorem ReadsStatement.decorated (x y : String) {dn : Node}
    (hdecorator : ReadsExpression depth (.name x :: .op "." :: .name y :: ts) dn) :
    ReadsStatement depth blocks
      (.op "@" :: .name x :: .op "." :: .name y :: (ts ++ .newline :: .keyword "async" :: .keyword "def" :: .name name ::
        .op "(" :: (parameters ++ .op "->" :: (returns ++ .op ":" :: body))))
      [.function name pn ns [dn] [rn]] := by
  intro d hd b hb rest _
  simp only [List.cons_append, List.append_assoc]
  have hfunction := function_eq name hparameters hreturns hbody [dn] hd hb rest
  have hnamed : ∀ us, (Inner.within d).named (.name x :: .op "." :: .name y :: (ts ++ .newline :: us)) =
      some (dn, .newline :: us) := fun us => hdecorator d hd (.newline :: us) ⟨_, by decide, rfl⟩
  -- What stands below the decorator matters only as a function definition.
  generalize Token.name name :: _ = us at hfunction ⊢
  have hasync : acceptOp "@" (.keyword "async" :: .keyword "def" :: us) =
      some (false, .keyword "async" :: .keyword "def" :: us) := rfl
  have hdef : nextIsWord "def" (.keyword "def" :: us) = some (true, .keyword "def" :: us) := rfl
  have hdecorated : (Inner.within d).decorated ((Inner.within d).blockWithin b)
      (.op "@" :: .name x :: .op "." :: .name y :: (ts ++ .newline :: .keyword "async" :: .keyword "def" :: us)) =
        some (.function name pn ns [dn] [rn], rest) := by
    rw [Inner.decorated]
    refine (bind_eq (repeated_one (a := dn) ?_ (by simp) ((bind_eq hasync).trans rfl))).trans ?_
    · exact (bind_eq (acceptOp_self ..)).trans ((bind_eq (hnamed _)).trans rfl)
    · refine (bind_eq (nextIsWord_ne (by simp))).trans ?_
      refine (bind_eq (show nextIsWord "async" _ = some (true, _) from rfl)).trans ?_
      refine (bind_eq (expectWord_self ..)).trans ?_
      exact (bind_eq hdef).trans hfunction
  have hstatement : ∀ us, (Inner.within d).statement ((Inner.within d).blockWithin b) (.op "@" :: us) =
      ((Inner.within d).decorated ((Inner.within d).blockWithin b) >>= fun n => return [n]) (.op "@" :: us) :=
    fun _ => rfl
  exact (hstatement _).trans ((bind_eq hdecorated).trans rfl)

end

/-! ## Whole sources -/

theorem module_eq {pieces : List (List Token × List Node)} (h : ReadsStatements depth blocks pieces) {d : Nat}
    (hd : depth ≤ d) (hblocks : blocks ≤ (pieces.map (·.1)).flatten.length + 1) :
    (Inner.within d).module (pieces.map (·.1)).flatten = some ((pieces.map (·.2)).flatten, []) := by
  have hall (step : Parser (Option (List Node)))
      (hstep : ∀ y ∈ pieces, Takes step Fresh y) (hstop : step [] = some (none, [])) :
      repeated step (pieces.map (·.1)).flatten = some (pieces.map (·.2), []) := by
    have hpieces := repeated_pieces step Fresh pieces hstep [] [] (by simp [Fresh]) hstop
    rwa [List.append_nil] at hpieces
  rw [Inner.module]
  refine (bind_eq (hall _ (fun y hy => ?_) rfl)).trans rfl
  obtain ⟨⟨t, us, hts, hne, hfresh⟩, hreads⟩ := h y hy
  refine ⟨by simp [hts], hts ▸ hfresh, fun rest hrest => ?_⟩
  have hstatement := hreads d hd _ hblocks rest hrest
  rw [hts] at hstatement ⊢
  refine (bind_eq (show peek _ = some (some t, t :: us ++ rest) from rfl)).trans ?_
  exact (bind_eq hstatement).trans rfl

end

end SchemaConcord.Source
