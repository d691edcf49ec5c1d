import LayerScript.Proofs.Programs.Moving

/-!
# The grammar moves

Every function of the grammar moves with its tokens, whatever fuel beyond the necessary it has. A
reader needs thirty-two calls for each token that is left, and as many more as there can be calls in
a row that read nothing.
-/

namespace LayerScript

/-- The number of calls in a row below an operand of a tier that read nothing. -/
def Tier.calls : Tier → Nat
  | .disjunction => 12
  | .conjunction => 10
  | .equality => 8
  | .comparison => 6
  | .sum => 4
  | .product => 2

theorem Tier.calls_tighter {tier tighter : Tier} (h : tier.tighter = some tighter) :
    tighter.calls + 2 = tier.calls := by
  cases tier <;> cases h <;> rfl

theorem Tier.calls_bounds (tier : Tier) : 2 ≤ tier.calls ∧ tier.calls ≤ 12 := by
  cases tier <;> decide

namespace Parse

/-- Everything that is read on some fuel, and on more of it from moved tokens, moves. -/
structure Uniform (g : Placement) (extra fuel : Nat) : Prop where
  expression : ∀ n, 32 * n + 15 ≤ fuel →
    Moves g (Expr.place g) n 1 (expression fuel) (expression (extra + fuel))
  infixChain : ∀ n tier, 32 * n + tier.calls + 2 ≤ fuel →
    Moves g (Expr.place g) n 1 (infixChain fuel tier) (infixChain (extra + fuel) tier)
  operand : ∀ n tier, 32 * n + tier.calls + 1 ≤ fuel →
    Moves g (Expr.place g) n 1 (operand fuel tier) (operand (extra + fuel) tier)
  infixRest : ∀ n tier left, 32 * n + 1 ≤ fuel →
    Moves g (Expr.place g) n 0 (infixRest fuel tier left)
      (infixRest (extra + fuel) tier (left.place g))
  unary : ∀ n, 32 * n + 2 ≤ fuel →
    Moves g (Expr.place g) n 1 (unary fuel) (unary (extra + fuel))
  postfixRest : ∀ n target, 32 * n + 1 ≤ fuel →
    Moves g (Expr.place g) n 0 (postfixRest fuel target)
      (postfixRest (extra + fuel) (target.place g))
  list : ∀ n closing, 32 * n + 16 ≤ fuel →
    Moves g (Expr.placeAll g) n 0 (list fuel closing) (list (extra + fuel) closing)
  entries : ∀ n, 32 * n + 16 ≤ fuel →
    Moves g (Expr.placeEntries g) n 0 (entries fuel) (entries (extra + fuel))
  primary : ∀ n, 32 * n + 1 ≤ fuel →
    Moves g (Expr.place g) n 1 (primary fuel) (primary (extra + fuel))
  group : ∀ n opening, 32 * n + 16 ≤ fuel →
    Moves g (Expr.place g) n 0 (group fuel opening) (group (extra + fuel) (opening.place g))
  array : ∀ n opening, 32 * n + 17 ≤ fuel →
    Moves g (Expr.place g) n 0 (array fuel opening) (array (extra + fuel) (opening.place g))
  mapLiteral : ∀ n opening, 32 * n + 17 ≤ fuel →
    Moves g (Expr.place g) n 0 (mapLiteral fuel opening)
      (mapLiteral (extra + fuel) (opening.place g))
  lambda : ∀ n opening, 32 * n + 2 ≤ fuel →
    Moves g (Expr.place g) n 0 (lambda fuel opening) (lambda (extra + fuel) (opening.place g))
  lambdaBody : ∀ n opening params, 32 * n + 16 ≤ fuel →
    Moves g (Expr.place g) n 0 (lambdaBody fuel opening params)
      (lambdaBody (extra + fuel) (opening.place g) (params.map (·.place g)))
  block : ∀ n, 32 * n + 1 ≤ fuel →
    Moves g (Prod.map (Stmt.placeAll g) g.span) n 1 (block fuel) (block (extra + fuel))
  statements : ∀ n, 32 * n + 18 ≤ fuel →
    Moves g (Stmt.placeAll g) n 0 (statements fuel) (statements (extra + fuel))
  statement : ∀ n, 32 * n + 17 ≤ fuel →
    Moves g (Stmt.place g) n 1 (statement fuel) (statement (extra + fuel))
  blockStatement : ∀ n, 32 * n + 2 ≤ fuel →
    Moves g (Stmt.place g) n 1 (blockStatement fuel) (blockStatement (extra + fuel))
  expressionStatement : ∀ n, 32 * n + 16 ≤ fuel →
    Moves g (Stmt.place g) n 1 (expressionStatement fuel) (expressionStatement (extra + fuel))
  varStatement : ∀ n start, 32 * n + 16 ≤ fuel →
    Moves g (Stmt.place g) n 0 (varStatement fuel start)
      (varStatement (extra + fuel) (start.place g))
  constStatement : ∀ n start, 32 * n + 16 ≤ fuel →
    Moves g (Stmt.place g) n 0 (constStatement fuel start)
      (constStatement (extra + fuel) (start.place g))
  fnStatement : ∀ n start, 32 * n + 16 ≤ fuel →
    Moves g (Stmt.place g) n 0 (fnStatement fuel start)
      (fnStatement (extra + fuel) (start.place g))
  ifStatement : ∀ n start, 32 * n + 16 ≤ fuel →
    Moves g (Stmt.place g) n 0 (ifStatement fuel start)
      (ifStatement (extra + fuel) (start.place g))
  whileStatement : ∀ n start, 32 * n + 16 ≤ fuel →
    Moves g (Stmt.place g) n 0 (whileStatement fuel start)
      (whileStatement (extra + fuel) (start.place g))
  loopStatement : ∀ n start, 32 * n + 16 ≤ fuel →
    Moves g (Stmt.place g) n 0 (loopStatement fuel start)
      (loopStatement (extra + fuel) (start.place g))
  forStatement : ∀ n start, 32 * n + 16 ≤ fuel →
    Moves g (Stmt.place g) n 0 (forStatement fuel start)
      (forStatement (extra + fuel) (start.place g))
  whenStatement : ∀ n start, 32 * n + 16 ≤ fuel →
    Moves g (Stmt.place g) n 0 (whenStatement fuel start)
      (whenStatement (extra + fuel) (start.place g))
  arms : ∀ n, 32 * n + 2 ≤ fuel →
    Moves g (Arm.placeAll g) n 0 (arms fuel) (arms (extra + fuel))
  returnStatement : ∀ n start, 32 * n + 17 ≤ fuel →
    Moves g (Stmt.place g) n 0 (returnStatement fuel start)
      (returnStatement (extra + fuel) (start.place g))
  breakStatement : ∀ n start, 32 * n + 17 ≤ fuel →
    Moves g (Stmt.place g) n 0 (breakStatement fuel start)
      (breakStatement (extra + fuel) (start.place g))
  trailingValue : ∀ n, 32 * n + 16 ≤ fuel →
    Moves g (Option.map (Expr.place g)) n 0 (trailingValue fuel) (trailingValue (extra + fuel))

namespace Uniform

variable {g : Placement} {extra fuel : Nat} (ih : Uniform g extra fuel) (n : Nat)

include ih

theorem expression_step (room : 32 * n + 15 ≤ fuel + 1) : Moves g (Expr.place g) n 1
    (Parse.expression (fuel + 1)) (Parse.expression (extra + fuel + 1)) := by
  unfold Parse.expression
  refine (ih.infixChain n .disjunction ?_).bind fun target some => ?_
  · simp only [Tier.calls]
    omega
  refine .takes (.accept _) (fun equals left => ?_) (.pure rfl)
  refine (ih.expression _ (by omega)).bind fun value some => ?_
  rw [Expr.isAssignable_place]
  split
  · exact .pure (by simp [Expr.place])
  · exact .fault (f := .invalidTarget equals.span) (by simp)

theorem infixChain_step (tier : Tier) (room : 32 * n + tier.calls + 2 ≤ fuel + 1) :
    Moves g (Expr.place g) n 1 (Parse.infixChain (fuel + 1) tier)
      (Parse.infixChain (extra + fuel + 1) tier) := by
  unfold Parse.infixChain
  refine (ih.operand n tier (by omega)).bind fun first some => ?_
  have := tier.calls_bounds
  exact ih.infixRest _ tier first (by omega)

theorem operand_step (tier : Tier) (room : 32 * n + tier.calls + 1 ≤ fuel + 1) :
    Moves g (Expr.place g) n 1 (Parse.operand (fuel + 1) tier)
      (Parse.operand (extra + fuel + 1) tier) := by
  unfold Parse.operand
  have := tier.calls_bounds
  cases ht : tier.tighter with
  | none => exact ih.unary n (by omega)
  | some tighter =>
    have := Tier.calls_tighter ht
    exact ih.infixChain n tighter (by omega)

theorem infixRest_step (tier : Tier) (left : Expr) (room : 32 * n + 1 ≤ fuel + 1) :
    Moves g (Expr.place g) n 0 (Parse.infixRest (fuel + 1) tier left)
      (Parse.infixRest (extra + fuel + 1) tier (left.place g)) := by
  unfold Parse.infixRest
  have := tier.calls_bounds
  refine .takes (.operator tier) (fun op some => ?_) (.pure rfl)
  refine ((ih.operand _ tier (by omega)).le (Nat.zero_le _)).bind fun right _ => ?_
  dsimp only [id]
  rw [← Operator.node_place]
  exact ih.infixRest _ tier _ (by omega)

theorem unary_step (room : 32 * n + 2 ≤ fuel + 1) : Moves g (Expr.place g) n 1
    (Parse.unary (fuel + 1)) (Parse.unary (extra + fuel + 1)) := by
  unfold Parse.unary
  have signed (op : UnaryOp) (sign : Token) (some : 1 ≤ n) : Moves g (Expr.place g) (n - 1) 0
      (do
        let operand ← Parse.unary fuel
        return .unary (sign.span.through operand.span) op operand)
      (do
        let operand ← Parse.unary (extra + fuel)
        return .unary ((sign.place g).span.through operand.span) op operand) := by
    exact (ih.unary _ (by omega)).bind fun operand _ => .pure (by simp [Expr.place])
  refine .takes (.accept _) (signed .negate) (.takes (.accept _) (signed .not) ?_)
  refine (ih.primary n (by omega)).bind fun target some => ?_
  exact ih.postfixRest _ target (by omega)

theorem postfixRest_step (target : Expr) (room : 32 * n + 1 ≤ fuel + 1) :
    Moves g (Expr.place g) n 0 (Parse.postfixRest (fuel + 1) target)
      (Parse.postfixRest (extra + fuel + 1) (target.place g)) := by
  unfold Parse.postfixRest
  have next {m : Nat} {node moved : Expr} (h : node.place g = moved) (room : 32 * m + 1 ≤ fuel) :
      Moves g (Expr.place g) m 0 (Parse.postfixRest fuel node)
        (Parse.postfixRest (extra + fuel) moved) := by
    subst h
    exact ih.postfixRest m node room
  refine .takes (.accept _) (fun opening some => ?_)
    (.takes (.accept _) (fun opening some => ?_)
      (.takes (.accept _) (fun dot some => ?_) (.pure rfl)))
  · refine (ih.list _ _ (by omega)).bind fun args _ => ?_
    refine (Moves.expect _ _).bind fun closing _ => ?_
    exact next (by simp [Expr.place]) (by omega)
  · refine (ih.expression _ (by omega)).bind fun position _ => ?_
    refine (Moves.expect _ _).bind fun closing _ => ?_
    exact next (by simp [Expr.place]) (by omega)
  · refine (Moves.expect _ _).bind fun name _ => ?_
    exact next (by simp [Expr.place]) (by omega)

theorem list_step (closing : TokenKind) (room : 32 * n + 16 ≤ fuel + 1) :
    Moves g (Expr.placeAll g) n 0 (Parse.list (fuel + 1) closing)
      (Parse.list (extra + fuel + 1) closing) := by
  unfold Parse.list
  refine .sees closing fun closed => ?_
  cases closed with
  | true => exact .pure rfl
  | false =>
    refine (ih.expression n (by omega)).bind fun item some => ?_
    refine .takes (.accept _) (fun comma some => ?_) (.pure rfl)
    exact (ih.list _ closing (by omega)).bind fun items _ => .pure rfl

/-- What follows a key, however it was read. -/
theorem entries_behind (key : Expr) (room : 32 * n + 16 ≤ fuel) :
    Moves g (Expr.placeEntries g) n 0
      (do
        Functor.discard (Parse.expect .colon .mapColon)
        let value ← Parse.expression fuel
        match ← Parse.accept .comma with
        | some _ => return (key, value) :: (← Parse.entries fuel)
        | none => return [(key, value)])
      (do
        Functor.discard (Parse.expect .colon .mapColon)
        let value ← Parse.expression (extra + fuel)
        match ← Parse.accept .comma with
        | some _ => return (key.place g, value) :: (← Parse.entries (extra + fuel))
        | none => return [(key.place g, value)]) := by
  refine (Moves.expect _ _).discard.bind fun _ _ => ?_
  refine (ih.expression _ (by omega)).bind fun value _ => ?_
  refine .takes (.accept _) (fun comma some => ?_) (.pure rfl)
  exact (ih.entries _ (by omega)).bind fun _ _ => .pure rfl

theorem entries_step (room : 32 * n + 16 ≤ fuel + 1) : Moves g (Expr.placeEntries g) n 0
    (Parse.entries (fuel + 1)) (Parse.entries (extra + fuel + 1)) := by
  unfold Parse.entries
  refine .sees _ fun closed => ?_
  cases closed with
  | true => exact .pure rfl
  | false =>
    refine .takes .bareKey (fun word some => ?_) ?_
    · exact ih.entries_behind _ (.literal word.span (.text word.text)) (by omega)
    · exact (ih.expression n (by omega)).bind fun key some => ih.entries_behind _ key (by omega)

theorem primary_step (room : 32 * n + 1 ≤ fuel + 1) : Moves g (Expr.place g) n 1
    (Parse.primary (fuel + 1)) (Parse.primary (extra + fuel + 1)) := by
  intro tokens ht
  unfold Parse.primary
  rcases tokens with _ | ⟨⟨kind, text, span⟩, rest⟩
  · exact .expected _ none
  have short : rest.length + 1 ≤ n := ht
  have number : Moves g (Expr.place g) (n - 1) 0
      (Expr.literal span <$> Parse.number ⟨kind, text, span⟩)
      (Expr.literal (g.span span) <$> Parse.number ⟨kind, text, g.span span⟩) :=
    (Moves.number ⟨kind, text, span⟩).map fun _ => rfl
  have group := ih.group (n - 1) ⟨kind, text, span⟩ (by omega)
  have array := ih.array (n - 1) ⟨kind, text, span⟩ (by omega)
  have map := ih.mapLiteral (n - 1) ⟨kind, text, span⟩ (by omega)
  have lambda := ih.lambda (n - 1) ⟨kind, text, span⟩ (by omega)
  have body := ih.lambdaBody (n - 1) ⟨kind, text, span⟩ [] (by omega)
  have behind {x y : Except GrammarFault (Expr × List Token)}
      (h : Moved g (Expr.place g) 0 rest.length x y) :
      Moved g (Expr.place g) 1 (rest.length + 1) x y := h.le (by omega)
  cases kind with
  | number => exact behind (number rest (by omega))
  | string => exact .ok (Nat.le_refl _)
  | identifier => exact .ok (Nat.le_refl _)
  | parenOpen => exact behind (group rest (by omega))
  | bracketOpen => exact behind (array rest (by omega))
  | braceOpen => exact behind (map rest (by omega))
  | pipe => exact behind (lambda rest (by omega))
  | orOr => exact behind (body rest (by omega))
  | keyword word =>
    cases word with
    | trueWord => exact .ok (Nat.le_refl _)
    | falseWord => exact .ok (Nat.le_refl _)
    | noneWord => exact .ok (Nat.le_refl _)
    | thisWord => exact .ok (Nat.le_refl _)
    | _ => exact .expected _ _
  | _ => exact .expected _ _

theorem group_step (opening : Token) (room : 32 * n + 16 ≤ fuel + 1) : Moves g (Expr.place g) n 0
    (Parse.group (fuel + 1) opening) (Parse.group (extra + fuel + 1) (opening.place g)) := by
  unfold Parse.group
  refine (ih.expression n (by omega)).bind fun inner _ => ?_
  exact (Moves.expect _ _).bind fun closing _ => .pure (by simp [Expr.place])

theorem array_step (opening : Token) (room : 32 * n + 17 ≤ fuel + 1) : Moves g (Expr.place g) n 0
    (Parse.array (fuel + 1) opening) (Parse.array (extra + fuel + 1) (opening.place g)) := by
  unfold Parse.array
  refine (ih.list n _ (by omega)).bind fun items _ => ?_
  exact (Moves.expect _ _).bind fun closing _ => .pure (by simp [Expr.place])

theorem mapLiteral_step (opening : Token) (room : 32 * n + 17 ≤ fuel + 1) :
    Moves g (Expr.place g) n 0 (Parse.mapLiteral (fuel + 1) opening)
      (Parse.mapLiteral (extra + fuel + 1) (opening.place g)) := by
  unfold Parse.mapLiteral
  refine (ih.entries n (by omega)).bind fun items _ => ?_
  exact (Moves.expect _ _).bind fun closing _ => .pure (by simp [Expr.place])

theorem lambda_step (opening : Token) (room : 32 * n + 2 ≤ fuel + 1) : Moves g (Expr.place g) n 0
    (Parse.lambda (fuel + 1) opening) (Parse.lambda (extra + fuel + 1) (opening.place g)) := by
  unfold Parse.lambda
  refine (moves_params n _ (by omega)).bind fun params _ => ?_
  refine (Moves.expect _ _).discard.bind fun _ some => ?_
  exact ih.lambdaBody _ opening params (by omega)

theorem lambdaBody_step (opening : Token) (params : List Param) (room : 32 * n + 16 ≤ fuel + 1) :
    Moves g (Expr.place g) n 0 (Parse.lambdaBody (fuel + 1) opening params)
      (Parse.lambdaBody (extra + fuel + 1) (opening.place g) (params.map (·.place g))) := by
  unfold Parse.lambdaBody
  refine .sees _ fun braced => ?_
  cases braced with
  | true => exact (ih.block n (by omega)).bind fun read _ => .pure (by simp [Expr.place])
  | false =>
    refine (ih.expression n (by omega)).bind fun result _ => .pure ?_
    simp [Expr.place, Stmt.place, Stmt.placeAll]

theorem block_step (room : 32 * n + 1 ≤ fuel + 1) :
    Moves g (Prod.map (Stmt.placeAll g) g.span) n 1 (Parse.block (fuel + 1))
      (Parse.block (extra + fuel + 1)) := by
  unfold Parse.block
  refine (Moves.expect _ _).bind fun opening some => ?_
  refine (ih.statements _ (by omega)).bind fun body _ => ?_
  exact (Moves.expect _ _).bind fun closing _ => .pure (by simp)

theorem statements_step (room : 32 * n + 18 ≤ fuel + 1) : Moves g (Stmt.placeAll g) n 0
    (Parse.statements (fuel + 1)) (Parse.statements (extra + fuel + 1)) := by
  unfold Parse.statements
  refine .untilBrace (.pure rfl) ?_
  refine (ih.statement n (by omega)).bind fun first some => ?_
  exact (ih.statements _ (by omega)).bind fun body _ => .pure rfl

theorem statement_step (room : 32 * n + 17 ≤ fuel + 1) : Moves g (Stmt.place g) n 1
    (Parse.statement (fuel + 1)) (Parse.statement (extra + fuel + 1)) := by
  intro tokens ht
  unfold Parse.statement
  rcases tokens with _ | ⟨⟨kind, text, span⟩, rest⟩
  · exact ih.expressionStatement n (by omega) [] ht
  have short : rest.length + 1 ≤ n := ht
  have other := ih.expressionStatement n (by omega) (⟨kind, text, span⟩ :: rest) ht
  have block := ih.blockStatement n (by omega) (⟨kind, text, span⟩ :: rest) ht
  have behind {p p' : Token → Parse Stmt}
      (h : ∀ start, Moves g (Stmt.place g) (n - 1) 0 (p start) (p' (start.place g)))
      (start : Token) : Moved g (Stmt.place g) 1 (rest.length + 1) (p start rest)
        (p' (start.place g) (rest.map (·.place g))) :=
    (h start rest (by omega)).le (by omega)
  cases kind with
  | braceOpen => exact block
  | keyword word =>
    cases word with
    | varWord => exact behind (fun start => ih.varStatement _ start (by omega)) _
    | constWord => exact behind (fun start => ih.constStatement _ start (by omega)) _
    | fnWord => exact behind (fun start => ih.fnStatement _ start (by omega)) _
    | ifWord => exact behind (fun start => ih.ifStatement _ start (by omega)) _
    | whileWord => exact behind (fun start => ih.whileStatement _ start (by omega)) _
    | loopWord => exact behind (fun start => ih.loopStatement _ start (by omega)) _
    | forWord => exact behind (fun start => ih.forStatement _ start (by omega)) _
    | whenWord => exact behind (fun start => ih.whenStatement _ start (by omega)) _
    | returnWord => exact behind (fun start => ih.returnStatement _ start (by omega)) _
    | breakWord => exact behind (fun start => ih.breakStatement _ start (by omega)) _
    | continueWord =>
      have continues (start : Token) : Moves g (Stmt.place g) (n - 1) 0
          (Parse.statement.continueStatement start)
          (Parse.statement.continueStatement (start.place g)) :=
        Moves.optionalSemicolon.bind fun _ _ => .pure rfl
      exact behind continues _
    | _ => exact other
  | _ => exact other

theorem blockStatement_step (room : 32 * n + 2 ≤ fuel + 1) : Moves g (Stmt.place g) n 1
    (Parse.blockStatement (fuel + 1)) (Parse.blockStatement (extra + fuel + 1)) := by
  unfold Parse.blockStatement
  exact (ih.block n (by omega)).bind fun read _ => .pure rfl

theorem expressionStatement_step (room : 32 * n + 16 ≤ fuel + 1) : Moves g (Stmt.place g) n 1
    (Parse.expressionStatement (fuel + 1)) (Parse.expressionStatement (extra + fuel + 1)) := by
  unfold Parse.expressionStatement
  refine (ih.expression n (by omega)).bind fun e _ => ?_
  exact Moves.optionalSemicolon.bind fun _ _ => .pure (by simp [Stmt.place])

theorem varStatement_step (start : Token) (room : 32 * n + 16 ≤ fuel + 1) :
    Moves g (Stmt.place g) n 0 (Parse.varStatement (fuel + 1) start)
      (Parse.varStatement (extra + fuel + 1) (start.place g)) := by
  unfold Parse.varStatement
  refine (Moves.discard_accept _).bind fun _ _ => (Moves.expect _ _).bind fun name some => ?_
  refine .takes (.accept _) (fun equals some => ?_)
    (Moves.optionalSemicolon.bind fun _ _ => .pure (by simp [Stmt.place]))
  refine (ih.expression _ (by omega)).bind fun value _ => ?_
  exact Moves.optionalSemicolon.bind fun _ _ => .pure (by simp [Stmt.place])

theorem constStatement_step (start : Token) (room : 32 * n + 16 ≤ fuel + 1) :
    Moves g (Stmt.place g) n 0 (Parse.constStatement (fuel + 1) start)
      (Parse.constStatement (extra + fuel + 1) (start.place g)) := by
  unfold Parse.constStatement
  refine (Moves.expect _ _).bind fun name some => ?_
  refine (Moves.expect _ _).discard.bind fun _ _ => ?_
  refine (ih.expression _ (by omega)).bind fun value _ => ?_
  exact Moves.optionalSemicolon.bind fun _ _ => .pure (by simp [Stmt.place])

theorem fnStatement_step (start : Token) (room : 32 * n + 16 ≤ fuel + 1) :
    Moves g (Stmt.place g) n 0 (Parse.fnStatement (fuel + 1) start)
      (Parse.fnStatement (extra + fuel + 1) (start.place g)) := by
  unfold Parse.fnStatement
  refine (Moves.expect _ _).bind fun name some => ?_
  refine (Moves.expect _ _).discard.bind fun _ _ => ?_
  refine (moves_params _ _ (by omega)).bind fun params _ => ?_
  refine (Moves.expect _ _).discard.bind fun _ _ => ?_
  exact (ih.block _ (by omega)).bind fun read _ => .pure (by simp [Stmt.place])

theorem ifStatement_step (start : Token) (room : 32 * n + 16 ≤ fuel + 1) :
    Moves g (Stmt.place g) n 0 (Parse.ifStatement (fuel + 1) start)
      (Parse.ifStatement (extra + fuel + 1) (start.place g)) := by
  unfold Parse.ifStatement
  refine (ih.expression n (by omega)).bind fun condition some => ?_
  refine (ih.block _ (by omega)).bind fun yes _ => ?_
  refine .takes (.accept _) (fun other _ => ?_) (.pure (by simp [Stmt.place]))
  refine .takes (.accept _) (fun next _ => ?_) ?_
  · refine (ih.ifStatement _ next (by omega)).bind fun nested _ => .pure ?_
    simp [Stmt.place, Stmt.placeAll]
  · exact (ih.block _ (by omega)).bind fun no _ => .pure (by simp [Stmt.place])

theorem whileStatement_step (start : Token) (room : 32 * n + 16 ≤ fuel + 1) :
    Moves g (Stmt.place g) n 0 (Parse.whileStatement (fuel + 1) start)
      (Parse.whileStatement (extra + fuel + 1) (start.place g)) := by
  unfold Parse.whileStatement
  refine (ih.expression n (by omega)).bind fun condition some => ?_
  exact (ih.block _ (by omega)).bind fun read _ => .pure (by simp [Stmt.place])

theorem loopStatement_step (start : Token) (room : 32 * n + 16 ≤ fuel + 1) :
    Moves g (Stmt.place g) n 0 (Parse.loopStatement (fuel + 1) start)
      (Parse.loopStatement (extra + fuel + 1) (start.place g)) := by
  unfold Parse.loopStatement
  exact (ih.block n (by omega)).bind fun read _ => .pure (by simp [Stmt.place])

theorem forStatement_step (start : Token) (room : 32 * n + 16 ≤ fuel + 1) :
    Moves g (Stmt.place g) n 0 (Parse.forStatement (fuel + 1) start)
      (Parse.forStatement (extra + fuel + 1) (start.place g)) := by
  unfold Parse.forStatement
  refine (Moves.expect _ _).bind fun name some => ?_
  refine (Moves.expect _ _).discard.bind fun _ _ => ?_
  refine (ih.expression _ (by omega)).bind fun iterable _ => ?_
  exact (ih.block _ (by omega)).bind fun read _ => .pure (by simp [Stmt.place])

theorem whenStatement_step (start : Token) (room : 32 * n + 16 ≤ fuel + 1) :
    Moves g (Stmt.place g) n 0 (Parse.whenStatement (fuel + 1) start)
      (Parse.whenStatement (extra + fuel + 1) (start.place g)) := by
  unfold Parse.whenStatement
  refine (ih.expression n (by omega)).bind fun subject some => ?_
  refine (Moves.expect _ _).discard.bind fun _ _ => ?_
  refine (ih.arms _ (by omega)).bind fun arms _ => ?_
  exact (Moves.expect _ _).bind fun closing _ => .pure (by simp [Stmt.place])

/-- What follows a pattern, however it was read. -/
theorem arms_behind (shape : Pattern) (room : 32 * n + 2 ≤ fuel) : Moves g (Arm.placeAll g) n 0
    (do
      Functor.discard (Parse.expect .arrow .armArrow)
      let (body, span) ← Parse.block fuel
      return .mk span shape body :: (← Parse.arms fuel))
    (do
      Functor.discard (Parse.expect .arrow .armArrow)
      let (body, span) ← Parse.block (extra + fuel)
      return .mk span shape body :: (← Parse.arms (extra + fuel))) := by
  refine (Moves.expect _ _).discard.bind fun _ _ => ?_
  refine (ih.block _ (by omega)).bind fun read _ => ?_
  exact (ih.arms _ (by omega)).bind fun arms _ => .pure rfl

theorem arms_step (room : 32 * n + 2 ≤ fuel + 1) : Moves g (Arm.placeAll g) n 0
    (Parse.arms (fuel + 1)) (Parse.arms (extra + fuel + 1)) := by
  unfold Parse.arms
  refine .untilBrace (.pure rfl) (.takes (.accept _) (fun _ some => ?_) ?_)
  · exact ih.arms_behind _ .wildcard (by omega)
  · exact ((uniformPatterns g extra fuel).pattern n (by omega)).bind fun shape some =>
      ih.arms_behind _ shape (by omega)

theorem returnStatement_step (start : Token) (room : 32 * n + 17 ≤ fuel + 1) :
    Moves g (Stmt.place g) n 0 (Parse.returnStatement (fuel + 1) start)
      (Parse.returnStatement (extra + fuel + 1) (start.place g)) := by
  unfold Parse.returnStatement
  refine (ih.trailingValue n (by omega)).bind fun value _ => .pure ?_
  cases value <;> simp [Stmt.place, Parse.spanWith]

theorem breakStatement_step (start : Token) (room : 32 * n + 17 ≤ fuel + 1) :
    Moves g (Stmt.place g) n 0 (Parse.breakStatement (fuel + 1) start)
      (Parse.breakStatement (extra + fuel + 1) (start.place g)) := by
  unfold Parse.breakStatement
  refine (ih.trailingValue n (by omega)).bind fun value _ => .pure ?_
  cases value <;> simp [Stmt.place, Parse.spanWith]

theorem trailingValue_step (room : 32 * n + 16 ≤ fuel + 1) :
    Moves g (Option.map (Expr.place g)) n 0 (Parse.trailingValue (fuel + 1))
      (Parse.trailingValue (extra + fuel + 1)) := by
  unfold Parse.trailingValue
  have behind {n : Nat} (value : Option Expr) : Moves g (Option.map (Expr.place g)) n 0
      (do
        Parse.optionalSemicolon
        return value)
      (do
        Parse.optionalSemicolon
        return value.map (Expr.place g)) := Moves.optionalSemicolon.bind fun _ _ => .pure rfl
  have read : Moves g (Option.map (Expr.place g)) n 1 (some <$> Parse.expression fuel)
      (some <$> Parse.expression (extra + fuel)) := (ih.expression n (by omega)).map fun _ => rfl
  refine .nextKind fun kind => ?_
  rcases kind with _ | kind
  · exact behind none
  · cases kind with
    | semicolon => exact behind none
    | braceClose => exact behind none
    | _ => exact read.bind fun value _ => behind value

end Uniform

theorem uniform (g : Placement) (extra fuel : Nat) : Uniform g extra fuel := by
  induction fuel with
  -- without fuel there is no room for anything
  | zero => constructor <;> intros <;> omega
  | succ fuel ih =>
    exact {
      expression := ih.expression_step
      infixChain := ih.infixChain_step
      operand := ih.operand_step
      infixRest := ih.infixRest_step
      unary := ih.unary_step
      postfixRest := ih.postfixRest_step
      list := ih.list_step
      entries := ih.entries_step
      primary := ih.primary_step
      group := ih.group_step
      array := ih.array_step
      mapLiteral := ih.mapLiteral_step
      lambda := ih.lambda_step
      lambdaBody := ih.lambdaBody_step
      block := ih.block_step
      statements := ih.statements_step
      statement := ih.statement_step
      blockStatement := ih.blockStatement_step
      expressionStatement := ih.expressionStatement_step
      varStatement := ih.varStatement_step
      constStatement := ih.constStatement_step
      fnStatement := ih.fnStatement_step
      ifStatement := ih.ifStatement_step
      whileStatement := ih.whileStatement_step
      loopStatement := ih.loopStatement_step
      forStatement := ih.forStatement_step
      whenStatement := ih.whenStatement_step
      arms := ih.arms_step
      returnStatement := ih.returnStatement_step
      breakStatement := ih.breakStatement_step
      trailingValue := ih.trailingValue_step }

/-- The statements of a text are read to its end and move with it. -/
theorem moves_body (g : Placement) (extra n fuel : Nat) (room : 32 * n + 18 ≤ fuel) :
    Moves g (Stmt.placeAll g) n 0 (body fuel) (body (extra + fuel)) := by
  induction fuel generalizing n with
  | zero => omega
  | succ fuel ih =>
    rw [← Nat.add_assoc]
    unfold body
    refine .nextKind fun kind => ?_
    cases kind with
    | none => exact .pure rfl
    | some _ =>
      refine ((uniform g extra fuel).statement n (by omega)).bind fun first _ => ?_
      exact (ih (n - 1) (by omega)).bind fun rest _ => .pure rfl

/-- The fuel that a source is read with lasts. -/
theorem body_ne_outOfFuel (tokens : List Token) :
    body (32 * (tokens.length + 1)) tokens ≠ .error .outOfFuel :=
  (moves_body (.after 0) 0 tokens.length _ (by omega)).lasts

end Parse

end LayerScript
