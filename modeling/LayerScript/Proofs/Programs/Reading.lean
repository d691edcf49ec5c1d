import LayerScript.Program.Parser
import LayerScript.Proofs.Programs.Plain

/-!
# The code that is read is plain

What the parser reads has the names of its tokens and no others. Without the word for the receiver
among the tokens the code is plain for these names.
-/

namespace LayerScript

namespace Parse

variable {α β : Type} {T : Token → Prop} {A : α → Prop} {B : β → Prop}

/-- From good tokens, `p` reads a good result and leaves good tokens. -/
def Yields (T : Token → Prop) (A : α → Prop) (p : Parse α) : Prop :=
  ∀ tokens a rest, (∀ t ∈ tokens, T t) → p tokens = .ok (a, rest) → A a ∧ ∀ t ∈ rest, T t

namespace Yields

theorem pure {a : α} (ha : A a) : Yields T A (Pure.pure a) := by
  intro tokens a' rest ht h
  obtain ⟨rfl, rfl⟩ := Prod.mk.inj (Except.ok.inj h)
  exact ⟨ha, ht⟩

theorem bind {p : Parse α} {f : α → Parse β} (hp : Yields T A p)
    (hf : ∀ a, A a → Yields T B (f a)) : Yields T B (p >>= f) := by
  intro tokens b rest ht h
  change (p tokens >>= fun r => f r.1 r.2) = .ok (b, rest) at h
  cases hr : p tokens with
  | error fault =>
    rw [hr] at h
    exact nomatch h
  | ok r =>
    rw [hr] at h
    obtain ⟨ha, ht'⟩ := hp tokens r.1 r.2 ht hr
    exact hf r.1 ha r.2 b rest ht' h

theorem map {p : Parse α} {f : α → β} (hp : Yields T A p) (hf : ∀ a, A a → B (f a)) :
    Yields T B (f <$> p) :=
  hp.bind fun a ha => .pure (hf a ha)

theorem fault (f : GrammarFault) : Yields T A (Parse.fault f) :=
  fun _ _ _ _ h => nomatch h

theorem nextKind : Yields T (fun _ => True) Parse.nextKind := by
  intro tokens a rest ht h
  obtain ⟨-, rfl⟩ := Prod.mk.inj (Except.ok.inj h)
  exact ⟨trivial, ht⟩

theorem sees (kind : TokenKind) : Yields T (fun _ => True) (Parse.sees kind) :=
  nextKind.bind fun _ _ => .pure trivial

theorem accept (kind : TokenKind) : Yields T (fun _ => True) (Parse.accept kind) := by
  intro tokens a rest ht h
  unfold Parse.accept at h
  split at h
  · split at h
    · obtain ⟨-, rfl⟩ := Prod.mk.inj (Except.ok.inj h)
      exact ⟨trivial, fun t mem => ht t (List.mem_cons_of_mem _ mem)⟩
    · obtain ⟨-, rfl⟩ := Prod.mk.inj (Except.ok.inj h)
      exact ⟨trivial, ht⟩
  · obtain ⟨-, rfl⟩ := Prod.mk.inj (Except.ok.inj h)
    exact ⟨trivial, ht⟩

theorem expect (kind : TokenKind) (what : Expectation) :
    Yields T (fun _ => True) (Parse.expect kind what) := by
  intro tokens a rest ht h
  unfold Parse.expect at h
  split at h
  · split at h
    · obtain ⟨-, rfl⟩ := Prod.mk.inj (Except.ok.inj h)
      exact ⟨trivial, fun t mem => ht t (List.mem_cons_of_mem _ mem)⟩
    · exact nomatch h
  · exact nomatch h

theorem discard {p : Parse α} (hp : Yields T A p) :
    Yields T (fun _ => True) (Functor.discard p) :=
  hp.map fun _ _ => trivial

theorem optionalSemicolon : Yields T (fun _ => True) Parse.optionalSemicolon :=
  discard (accept _)

theorem number (token : Token) : Yields T (fun _ => True) (Parse.number token) := by
  unfold Parse.number
  split
  · exact .pure trivial
  · exact .fault _
  · exact .fault _

theorem paramsFrom (fuel : Nat) (read : List Param) :
    Yields T (fun _ => True) (Parse.paramsFrom fuel read) := by
  induction fuel generalizing read with
  | zero => exact .fault _
  | succ fuel ih =>
    unfold Parse.paramsFrom
    refine (expect _ _).bind fun token _ => ?_
    split
    · exact .bind (A := fun _ => False) (.fault _) fun _ never => never.elim
    · refine (accept _).bind fun comma _ => ?_
      cases comma with
      | some _ => exact ih _
      | none => exact .pure trivial

theorem params (fuel : Nat) (closing : TokenKind) :
    Yields T (fun _ => True) (Parse.params fuel closing) := by
  refine (sees closing).bind fun closed _ => ?_
  split
  · exact .pure trivial
  · exact paramsFrom fuel []

/-! ## Patterns -/

theorem negated : Yields T (fun _ => True) Parse.pattern.negated :=
  (expect _ _).bind fun token _ => (number token).bind fun _ _ => .pure trivial

theorem patterns (fuel : Nat) : Yields T (fun _ => True) (Parse.pattern fuel) ∧
    Yields T (fun _ => True) (Parse.tuple fuel) ∧
    Yields T (fun _ => True) (Parse.patternsFrom fuel) := by
  induction fuel with
  | zero =>
    unfold Parse.pattern Parse.tuple Parse.patternsFrom
    exact ⟨.fault _, .fault _, .fault _⟩
  | succ fuel ih =>
    obtain ⟨pattern, tuple, patternsFrom⟩ := ih
    refine ⟨?_, ?_, ?_⟩
    · intro tokens shape rest ht h
      unfold Parse.pattern at h
      split at h
      · exact nomatch h
      next token behind =>
      have ht : ∀ t ∈ behind, T t := fun t mem => ht t (List.mem_cons_of_mem _ mem)
      split at h
      · split at h
        · obtain ⟨-, rfl⟩ := Prod.mk.inj (Except.ok.inj h)
          exact ⟨trivial, ht⟩
        · obtain ⟨-, rfl⟩ := Prod.mk.inj (Except.ok.inj h)
          exact ⟨trivial, ht⟩
      · exact tuple behind shape rest ht h
      · obtain ⟨-, rfl⟩ := Prod.mk.inj (Except.ok.inj h)
        exact ⟨trivial, ht⟩
      · obtain ⟨-, rfl⟩ := Prod.mk.inj (Except.ok.inj h)
        exact ⟨trivial, ht⟩
      · obtain ⟨-, rfl⟩ := Prod.mk.inj (Except.ok.inj h)
        exact ⟨trivial, ht⟩
      · exact (map (B := fun _ => True) (number token) fun _ _ => trivial) behind shape rest ht h
      · exact (bind (B := fun _ => True) negated fun _ _ => .pure trivial) behind shape rest ht h
      · obtain ⟨-, rfl⟩ := Prod.mk.inj (Except.ok.inj h)
        exact ⟨trivial, ht⟩
      · exact nomatch h
    · unfold Parse.tuple
      refine (sees _).bind fun empty _ => ?_
      split
      · exact (pure (A := fun _ => True) trivial).bind fun _ _ =>
          (discard (expect _ _)).bind fun _ _ => .pure trivial
      · exact patternsFrom.bind fun _ _ => (discard (expect _ _)).bind fun _ _ => .pure trivial
    · unfold Parse.patternsFrom
      refine pattern.bind fun part _ => (accept _).bind fun comma _ => ?_
      cases comma with
      | some _ => exact patternsFrom.bind fun _ _ => .pure trivial
      | none => exact .pure trivial

theorem bareKey : Yields T (fun _ => True) Parse.bareKey := by
  intro tokens key rest ht h
  unfold Parse.bareKey at h
  split at h
  · next token colon behind =>
    simp only at h
    have left : rest = colon :: behind ∨ rest = token :: colon :: behind := by
      split at h <;> split at h <;> obtain ⟨-, rfl⟩ := Prod.mk.inj (Except.ok.inj h) <;> simp
    refine ⟨trivial, fun t mem => ht t ?_⟩
    rcases left with rfl | rfl
    · exact List.mem_cons_of_mem _ mem
    · exact mem
  · obtain ⟨-, rfl⟩ := Prod.mk.inj (Except.ok.inj h)
    exact ⟨trivial, ht⟩

theorem operator (tier : Tier) : Yields T (fun _ => True) (Parse.operator tier) := by
  intro tokens op rest ht h
  unfold Parse.operator at h
  split at h
  · split at h
    · obtain ⟨-, rfl⟩ := Prod.mk.inj (Except.ok.inj h)
      exact ⟨trivial, fun t mem => ht t (List.mem_cons_of_mem _ mem)⟩
    · obtain ⟨-, rfl⟩ := Prod.mk.inj (Except.ok.inj h)
      exact ⟨trivial, ht⟩
  · obtain ⟨-, rfl⟩ := Prod.mk.inj (Except.ok.inj h)
    exact ⟨trivial, ht⟩

end Yields

/-! ## Expressions and statements -/

/-- Everything that is read on some fuel is plain for the names. -/
structure Reads (T : Token → Prop) (names : String → Prop) (fuel : Nat) : Prop where
  expression : Yields T (Expr.Plain names) (expression fuel)
  infixChain : ∀ tier, Yields T (Expr.Plain names) (infixChain fuel tier)
  operand : ∀ tier, Yields T (Expr.Plain names) (operand fuel tier)
  infixRest : ∀ tier left, Expr.Plain names left →
    Yields T (Expr.Plain names) (infixRest fuel tier left)
  unary : Yields T (Expr.Plain names) (unary fuel)
  postfixRest : ∀ target, Expr.Plain names target →
    Yields T (Expr.Plain names) (postfixRest fuel target)
  list : ∀ closing, Yields T (fun es => ∀ e ∈ es, Expr.Plain names e) (list fuel closing)
  entries : Yields T (fun es => ∀ e ∈ es, Expr.Plain names e.1 ∧ Expr.Plain names e.2)
    (entries fuel)
  primary : Yields T (Expr.Plain names) (primary fuel)
  group : ∀ opening, Yields T (Expr.Plain names) (group fuel opening)
  array : ∀ opening, Yields T (Expr.Plain names) (array fuel opening)
  mapLiteral : ∀ opening, Yields T (Expr.Plain names) (mapLiteral fuel opening)
  lambda : ∀ opening, Yields T (Expr.Plain names) (lambda fuel opening)
  lambdaBody : ∀ opening params, Yields T (Expr.Plain names) (lambdaBody fuel opening params)
  block : Yields T (fun read => ∀ st ∈ read.1, Stmt.Plain names st) (block fuel)
  statements : Yields T (fun body => ∀ st ∈ body, Stmt.Plain names st) (statements fuel)
  statement : Yields T (Stmt.Plain names) (statement fuel)
  blockStatement : Yields T (Stmt.Plain names) (blockStatement fuel)
  expressionStatement : Yields T (Stmt.Plain names) (expressionStatement fuel)
  varStatement : ∀ start, Yields T (Stmt.Plain names) (varStatement fuel start)
  constStatement : ∀ start, Yields T (Stmt.Plain names) (constStatement fuel start)
  fnStatement : ∀ start, Yields T (Stmt.Plain names) (fnStatement fuel start)
  ifStatement : ∀ start, Yields T (Stmt.Plain names) (ifStatement fuel start)
  whileStatement : ∀ start, Yields T (Stmt.Plain names) (whileStatement fuel start)
  loopStatement : ∀ start, Yields T (Stmt.Plain names) (loopStatement fuel start)
  forStatement : ∀ start, Yields T (Stmt.Plain names) (forStatement fuel start)
  whenStatement : ∀ start, Yields T (Stmt.Plain names) (whenStatement fuel start)
  arms : Yields T (fun arms => ∀ arm ∈ arms, Arm.Plain names arm) (arms fuel)
  returnStatement : ∀ start, Yields T (Stmt.Plain names) (returnStatement fuel start)
  breakStatement : ∀ start, Yields T (Stmt.Plain names) (breakStatement fuel start)
  trailingValue : Yields T (fun value => ∀ e ∈ value, Expr.Plain names e) (trailingValue fuel)

namespace Reads

variable {names : String → Prop} {fuel : Nat} (ih : Reads T names fuel)

include ih

theorem expression_step : Yields T (Expr.Plain names) (Parse.expression (fuel + 1)) := by
  unfold Parse.expression
  refine (ih.infixChain _).bind fun target ht => (Yields.accept _).bind fun equals _ => ?_
  cases equals with
  | none => exact .pure ht
  | some equals =>
    refine ih.expression.bind fun value hv => ?_
    split
    · exact .pure (.assign ht hv)
    · exact .fault _

theorem infixChain_step (tier : Tier) :
    Yields T (Expr.Plain names) (Parse.infixChain (fuel + 1) tier) := by
  unfold Parse.infixChain
  exact (ih.operand tier).bind fun first hf => ih.infixRest tier first hf

theorem operand_step (tier : Tier) :
    Yields T (Expr.Plain names) (Parse.operand (fuel + 1) tier) := by
  unfold Parse.operand
  cases tier.tighter with
  | none => exact ih.unary
  | some tighter => exact ih.infixChain tighter

theorem infixRest_step (tier : Tier) (left : Expr) (hl : left.Plain names) :
    Yields T (Expr.Plain names) (Parse.infixRest (fuel + 1) tier left) := by
  unfold Parse.infixRest
  refine (Yields.operator tier).bind fun op _ => ?_
  cases op with
  | none => exact .pure hl
  | some op =>
    refine (ih.operand tier).bind fun right hr => ih.infixRest tier _ ?_
    cases op with
    | logical op => exact .logical hl hr
    | binary op => exact .binary hl hr

theorem unary_step : Yields T (Expr.Plain names) (Parse.unary (fuel + 1)) := by
  unfold Parse.unary
  refine (Yields.accept _).bind fun minus _ => ?_
  cases minus with
  | some sign => exact ih.unary.bind fun operand ho => .pure (.unary ho)
  | none =>
    refine (Yields.accept _).bind fun bang _ => ?_
    cases bang with
    | some sign => exact ih.unary.bind fun operand ho => .pure (.unary ho)
    | none => exact ih.primary.bind fun target ht => ih.postfixRest target ht

theorem postfixRest_step (target : Expr) (ht : target.Plain names) :
    Yields T (Expr.Plain names) (Parse.postfixRest (fuel + 1) target) := by
  unfold Parse.postfixRest
  refine (Yields.accept _).bind fun opening _ => ?_
  cases opening with
  | some _ =>
    refine (ih.list _).bind fun args ha => (Yields.expect _ _).bind fun closing _ => ?_
    exact ih.postfixRest _ (.call ht ha)
  | none =>
    refine (Yields.accept _).bind fun opening _ => ?_
    cases opening with
    | some _ =>
      refine ih.expression.bind fun position hp => (Yields.expect _ _).bind fun closing _ => ?_
      exact ih.postfixRest _ (.index ht hp)
    | none =>
      refine (Yields.accept _).bind fun dot _ => ?_
      cases dot with
      | some _ => exact (Yields.expect _ _).bind fun name _ => ih.postfixRest _ (.field ht)
      | none => exact .pure ht

theorem list_step (closing : TokenKind) : Yields T (fun es => ∀ e ∈ es, Expr.Plain names e)
    (Parse.list (fuel + 1) closing) := by
  unfold Parse.list
  refine (Yields.sees closing).bind fun closed _ => ?_
  split
  · exact .pure (by simp)
  · refine ih.expression.bind fun item hi => (Yields.accept _).bind fun comma _ => ?_
    cases comma with
    | none => exact .pure (by simpa using hi)
    | some _ =>
      refine (ih.list closing).bind fun items his => .pure ?_
      rw [List.forall_mem_cons]
      exact ⟨hi, his⟩

theorem entries_step :
    Yields T (fun es => ∀ e ∈ es, Expr.Plain names e.1 ∧ Expr.Plain names e.2)
      (Parse.entries (fuel + 1)) := by
  unfold Parse.entries
  refine (Yields.sees _).bind fun closed _ => ?_
  split
  · exact .pure (by simp)
  refine Yields.bareKey.bind fun word _ => ?_
  cases word
  case' some word => refine (Yields.pure (A := Expr.Plain names) .literal).bind ?_
  case' none => refine ih.expression.bind ?_
  -- what follows a key, however it was read
  all_goals
    intro key hk
    refine (Yields.discard (Yields.expect _ _)).bind fun _ _ => ?_
    refine ih.expression.bind fun value hv => (Yields.accept _).bind fun comma _ => ?_
    cases comma with
    | none => exact .pure (by simp [hk, hv])
    | some _ =>
      refine ih.entries.bind fun es hes => .pure ?_
      rw [List.forall_mem_cons]
      exact ⟨⟨hk, hv⟩, hes⟩

theorem primary_step (hT : ∀ t, T t → t.kind ≠ .keyword .thisWord)
    (hn : ∀ t, T t → t.kind = .identifier → names t.text) :
    Yields T (Expr.Plain names) (Parse.primary (fuel + 1)) := by
  intro tokens e rest ht h
  unfold Parse.primary at h
  split at h
  · exact nomatch h
  next token behind =>
  have first : T token := ht token List.mem_cons_self
  have ht : ∀ t ∈ behind, T t := fun t mem => ht t (List.mem_cons_of_mem _ mem)
  split at h
  · obtain ⟨rfl, rfl⟩ := Prod.mk.inj (Except.ok.inj h)
    exact ⟨.literal, ht⟩
  · obtain ⟨rfl, rfl⟩ := Prod.mk.inj (Except.ok.inj h)
    exact ⟨.literal, ht⟩
  · obtain ⟨rfl, rfl⟩ := Prod.mk.inj (Except.ok.inj h)
    exact ⟨.literal, ht⟩
  · next kind => exact absurd kind (hT token first)
  · exact ((Yields.number token).map fun _ _ => .literal) behind e rest ht h
  · obtain ⟨rfl, rfl⟩ := Prod.mk.inj (Except.ok.inj h)
    exact ⟨.literal, ht⟩
  · next kind =>
    obtain ⟨rfl, rfl⟩ := Prod.mk.inj (Except.ok.inj h)
    exact ⟨.name (hn token first kind), ht⟩
  · exact ih.group token behind e rest ht h
  · exact ih.array token behind e rest ht h
  · exact ih.mapLiteral token behind e rest ht h
  · exact ih.lambda token behind e rest ht h
  · exact ih.lambdaBody token [] behind e rest ht h
  · exact nomatch h

theorem group_step (opening : Token) :
    Yields T (Expr.Plain names) (Parse.group (fuel + 1) opening) := by
  unfold Parse.group
  exact ih.expression.bind fun inner hi => (Yields.expect _ _).bind fun _ _ => .pure (.group hi)

theorem array_step (opening : Token) :
    Yields T (Expr.Plain names) (Parse.array (fuel + 1) opening) := by
  unfold Parse.array
  exact (ih.list _).bind fun items hi => (Yields.expect _ _).bind fun _ _ => .pure (.array hi)

theorem mapLiteral_step (opening : Token) :
    Yields T (Expr.Plain names) (Parse.mapLiteral (fuel + 1) opening) := by
  unfold Parse.mapLiteral
  refine ih.entries.bind fun items hi => (Yields.expect _ _).bind fun _ _ => .pure ?_
  exact .map (fun e he => (hi e he).1) fun e he => (hi e he).2

theorem lambda_step (opening : Token) :
    Yields T (Expr.Plain names) (Parse.lambda (fuel + 1) opening) := by
  unfold Parse.lambda
  refine (Yields.params fuel _).bind fun params _ => ?_
  exact (Yields.discard (Yields.expect _ _)).bind fun _ _ => ih.lambdaBody opening params

theorem lambdaBody_step (opening : Token) (params : List Param) :
    Yields T (Expr.Plain names) (Parse.lambdaBody (fuel + 1) opening params) := by
  unfold Parse.lambdaBody
  refine (Yields.sees _).bind fun braced _ => ?_
  split
  · exact ih.block.bind fun read hr => .pure (.lambda hr)
  · refine ih.expression.bind fun result hr => .pure (.lambda ?_)
    simpa using Stmt.Plain.expr hr

theorem block_step :
    Yields T (fun read => ∀ st ∈ read.1, Stmt.Plain names st) (Parse.block (fuel + 1)) := by
  unfold Parse.block
  refine (Yields.expect _ _).bind fun opening _ => ih.statements.bind fun body hb => ?_
  exact (Yields.expect _ _).bind fun _ _ => .pure hb

theorem statements_step :
    Yields T (fun body => ∀ st ∈ body, Stmt.Plain names st) (Parse.statements (fuel + 1)) := by
  unfold Parse.statements
  refine Yields.nextKind.bind fun kind _ => ?_
  split
  · exact .pure (by simp)
  · exact .pure (by simp)
  · refine ih.statement.bind fun first hf => ih.statements.bind fun body hb => .pure ?_
    rw [List.forall_mem_cons]
    exact ⟨hf, hb⟩

theorem statement_step : Yields T (Stmt.Plain names) (Parse.statement (fuel + 1)) := by
  intro tokens st rest ht h
  unfold Parse.statement at h
  split at h
  · exact ih.expressionStatement [] st rest ht h
  next token behind =>
  have hb : ∀ t ∈ behind, T t := fun t mem => ht t (List.mem_cons_of_mem _ mem)
  split at h
  · exact ih.varStatement token behind st rest hb h
  · exact ih.constStatement token behind st rest hb h
  · exact ih.fnStatement token behind st rest hb h
  · exact ih.ifStatement token behind st rest hb h
  · exact ih.whileStatement token behind st rest hb h
  · exact ih.loopStatement token behind st rest hb h
  · exact ih.forStatement token behind st rest hb h
  · exact ih.whenStatement token behind st rest hb h
  · exact ih.returnStatement token behind st rest hb h
  · exact ih.breakStatement token behind st rest hb h
  · exact (Yields.optionalSemicolon.bind fun _ _ => .pure .continue) behind st rest hb h
  · exact ih.blockStatement (token :: behind) st rest ht h
  · exact ih.expressionStatement (token :: behind) st rest ht h

theorem blockStatement_step : Yields T (Stmt.Plain names) (Parse.blockStatement (fuel + 1)) := by
  unfold Parse.blockStatement
  exact ih.block.bind fun read hr => .pure (.block hr)

theorem expressionStatement_step :
    Yields T (Stmt.Plain names) (Parse.expressionStatement (fuel + 1)) := by
  unfold Parse.expressionStatement
  exact ih.expression.bind fun e he => Yields.optionalSemicolon.bind fun _ _ => .pure (.expr he)

theorem varStatement_step (start : Token) :
    Yields T (Stmt.Plain names) (Parse.varStatement (fuel + 1) start) := by
  unfold Parse.varStatement
  refine (Yields.discard (Yields.accept _)).bind fun _ _ => ?_
  refine (Yields.expect _ _).bind fun name _ => (Yields.accept _).bind fun equals _ => ?_
  cases equals with
  | none => exact Yields.optionalSemicolon.bind fun _ _ => .pure (.varDecl (by simp))
  | some _ =>
    refine ih.expression.bind fun value hv => Yields.optionalSemicolon.bind fun _ _ => ?_
    exact .pure (.varDecl (by simpa using hv))

theorem constStatement_step (start : Token) :
    Yields T (Stmt.Plain names) (Parse.constStatement (fuel + 1) start) := by
  unfold Parse.constStatement
  refine (Yields.expect _ _).bind fun name _ => ?_
  refine (Yields.discard (Yields.expect _ _)).bind fun _ _ => ih.expression.bind fun value hv => ?_
  exact Yields.optionalSemicolon.bind fun _ _ => .pure (.constDecl hv)

theorem fnStatement_step (start : Token) :
    Yields T (Stmt.Plain names) (Parse.fnStatement (fuel + 1) start) := by
  unfold Parse.fnStatement
  refine (Yields.expect _ _).bind fun name _ => ?_
  refine (Yields.discard (Yields.expect _ _)).bind fun _ _ => ?_
  refine (Yields.params fuel _).bind fun params _ => ?_
  refine (Yields.discard (Yields.expect _ _)).bind fun _ _ => ?_
  exact ih.block.bind fun read hr => .pure (.fnDecl hr)

theorem ifStatement_step (start : Token) :
    Yields T (Stmt.Plain names) (Parse.ifStatement (fuel + 1) start) := by
  unfold Parse.ifStatement
  refine ih.expression.bind fun condition hc => ih.block.bind fun yes hy => ?_
  refine (Yields.accept _).bind fun other _ => ?_
  cases other with
  | none => exact .pure (.ifElse hc hy (by simp))
  | some _ =>
    refine (Yields.accept _).bind fun next _ => ?_
    cases next with
    | some next =>
      refine (ih.ifStatement next).bind fun nested hn => .pure (.ifElse hc hy ?_)
      simpa using hn
    | none =>
      refine ih.block.bind fun no hn => .pure (.ifElse hc hy ?_)
      simpa using hn

theorem whileStatement_step (start : Token) :
    Yields T (Stmt.Plain names) (Parse.whileStatement (fuel + 1) start) := by
  unfold Parse.whileStatement
  refine ih.expression.bind fun condition hc => ih.block.bind fun read hr => ?_
  exact .pure (.whileLoop hc hr)

theorem loopStatement_step (start : Token) :
    Yields T (Stmt.Plain names) (Parse.loopStatement (fuel + 1) start) := by
  unfold Parse.loopStatement
  exact ih.block.bind fun read hr => .pure (.loop hr)

theorem forStatement_step (start : Token) :
    Yields T (Stmt.Plain names) (Parse.forStatement (fuel + 1) start) := by
  unfold Parse.forStatement
  refine (Yields.expect _ _).bind fun name _ => ?_
  refine (Yields.discard (Yields.expect _ _)).bind fun _ _ => ?_
  refine ih.expression.bind fun iterable hi => ih.block.bind fun read hr => ?_
  exact .pure (.forLoop hi hr)

theorem whenStatement_step (start : Token) :
    Yields T (Stmt.Plain names) (Parse.whenStatement (fuel + 1) start) := by
  unfold Parse.whenStatement
  refine ih.expression.bind fun subject hs => ?_
  refine (Yields.discard (Yields.expect _ _)).bind fun _ _ => ih.arms.bind fun arms ha => ?_
  exact (Yields.expect _ _).bind fun _ _ => .pure (.when hs ha)

theorem arms_step :
    Yields T (fun arms => ∀ arm ∈ arms, Arm.Plain names arm) (Parse.arms (fuel + 1)) := by
  unfold Parse.arms
  refine Yields.nextKind.bind fun kind _ => ?_
  split
  · exact .pure (by simp)
  · exact .pure (by simp)
  refine (Yields.accept _).bind fun other _ => ?_
  cases other
  case' some _ => refine (Yields.pure (A := fun _ => True) trivial).bind ?_
  case' none => refine (Yields.patterns fuel).1.bind ?_
  -- what follows a pattern, however it was read
  all_goals
    intro shape _
    refine (Yields.discard (Yields.expect _ _)).bind fun _ _ => ih.block.bind fun read hr => ?_
    refine ih.arms.bind fun arms ha => .pure ?_
    rw [List.forall_mem_cons]
    exact ⟨.mk hr, ha⟩

theorem returnStatement_step (start : Token) :
    Yields T (Stmt.Plain names) (Parse.returnStatement (fuel + 1) start) := by
  unfold Parse.returnStatement
  exact ih.trailingValue.bind fun value hv => .pure (.return hv)

theorem breakStatement_step (start : Token) :
    Yields T (Stmt.Plain names) (Parse.breakStatement (fuel + 1) start) := by
  unfold Parse.breakStatement
  exact ih.trailingValue.bind fun value hv => .pure (.break hv)

theorem trailingValue_step :
    Yields T (fun value => ∀ e ∈ value, Expr.Plain names e) (Parse.trailingValue (fuel + 1)) := by
  unfold Parse.trailingValue
  have behind (value : Option Expr) (hv : ∀ e ∈ value, Expr.Plain names e) :
      Yields T (fun value => ∀ e ∈ value, Expr.Plain names e) (do
        Parse.optionalSemicolon
        return value) := Yields.optionalSemicolon.bind fun _ _ => .pure hv
  refine Yields.nextKind.bind fun kind _ => ?_
  split
  · exact (Yields.pure (by simp)).bind behind
  · exact (Yields.pure (by simp)).bind behind
  · exact (Yields.pure (by simp)).bind behind
  · refine (ih.expression.map fun e he => ?_).bind behind
    simpa using he

end Reads

theorem reads (names : String → Prop) (hT : ∀ t, T t → t.kind ≠ .keyword .thisWord)
    (hn : ∀ t, T t → t.kind = .identifier → names t.text) (fuel : Nat) : Reads T names fuel := by
  induction fuel with
  | zero => constructor <;> intros <;> exact Yields.fault .outOfFuel
  | succ fuel ih =>
    exact {
      expression := ih.expression_step
      infixChain := ih.infixChain_step
      operand := ih.operand_step
      infixRest := ih.infixRest_step
      unary := ih.unary_step
      postfixRest := ih.postfixRest_step
      list := ih.list_step
      entries := ih.entries_step
      primary := ih.primary_step hT hn
      group := ih.group_step
      array := ih.array_step
      mapLiteral := ih.mapLiteral_step
      lambda := ih.lambda_step
      lambdaBody := ih.lambdaBody_step
      block := ih.block_step
      statements := ih.statements_step
      statement := ih.statement_step
      blockStatement := ih.blockStatement_step
      expressionStatement := ih.expressionStatement_step
      varStatement := ih.varStatement_step
      constStatement := ih.constStatement_step
      fnStatement := ih.fnStatement_step
      ifStatement := ih.ifStatement_step
      whileStatement := ih.whileStatement_step
      loopStatement := ih.loopStatement_step
      forStatement := ih.forStatement_step
      whenStatement := ih.whenStatement_step
      arms := ih.arms_step
      returnStatement := ih.returnStatement_step
      breakStatement := ih.breakStatement_step
      trailingValue := ih.trailingValue_step }

theorem yields_body (names : String → Prop) (hT : ∀ t, T t → t.kind ≠ .keyword .thisWord)
    (hn : ∀ t, T t → t.kind = .identifier → names t.text) (fuel : Nat) :
    Yields T (fun body => ∀ st ∈ body, Stmt.Plain names st) (Parse.body fuel) := by
  induction fuel with
  | zero => exact .fault _
  | succ fuel ih =>
    unfold Parse.body
    refine Yields.nextKind.bind fun kind _ => ?_
    split
    · exact .pure (by simp)
    · refine (reads names hT hn fuel).statement.bind fun first hf => ih.bind fun body hb => .pure ?_
      rw [List.forall_mem_cons]
      exact ⟨hf, hb⟩

end Parse

/-- The body of a program is plain for the names among the tokens of its source. -/
theorem Program.plain_of_parse {source : String} {tokens : List Token} {program : Program}
    (ht : scanTokens source = .ok tokens) (hp : Program.parse source = .ok program)
    (this : ∀ t ∈ tokens, t.kind ≠ .keyword .thisWord) :
    ∀ st ∈ program.body,
      st.Plain fun x => ∃ t ∈ tokens, t.kind = .identifier ∧ t.text = x := by
  unfold Program.parse at hp
  rw [ht] at hp
  simp only [bind, Except.bind] at hp
  split at hp
  · next body rest hb =>
    obtain rfl := Except.ok.inj hp
    have plain := (Parse.yields_body (T := (· ∈ tokens))
      (fun x => ∃ t ∈ tokens, t.kind = .identifier ∧ t.text = x) this
      (fun t mem kind => ⟨t, mem, kind, rfl⟩) _ _ _ _ (fun _ mem => mem) hb).1
    unfold Program.ofStatements
    split
    · split
      · exact fun st mem => plain st (List.mem_cons_of_mem _ mem)
      · exact plain
    · exact fun _ mem => nomatch mem
  · exact nomatch hp

end LayerScript
