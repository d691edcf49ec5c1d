import LayerScript.Proofs.Programs.Expressions

/-!
# Canonical statements are read back

Each kind of statement is read from its words by its own function of the grammar. With the
expressions this settles every node of a canonical program, and so its body.
-/

namespace LayerScript.Parse

variable {style : Style}

/-! ## Statements -/

theorem stopsAt_braces (n : Nat) (words vs : List Token) : StopsAt n (Token.braces words ++ vs) :=
  stopsAt_mark rfl n _

theorem gives_semicolon {α : Type} {f : Nat → Unit → Parse α} {Q : α → List Token → Prop}
    {vs : List Token} (h : Gives (fun fuel => f fuel ()) vs Q) :
    Gives (fun fuel => optionalSemicolon >>= f fuel) (.mark .semicolon :: vs) Q :=
  .discard (.accept rfl fun _ _ => h)

theorem gives_trailingValue {e : Expr} (complete : Complete style e)
    (opens : Opens e.opener e.isWord (e.words style)) (vs : List Token) :
    Gives trailingValue (e.words style ++ .mark .semicolon :: vs) fun value us =>
      ∃ e', value = some e' ∧ e'.bare = e.bare ∧ us = vs := by
  obtain ⟨w, ws, split, kind⟩ := opens.more (.mark .semicolon :: vs)
  have opener := e.opensExpr_opener
  refine .step (fun fuel => by rw [trailingValue]) (.nextKind (q := fun fuel =>
    (some <$> expression fuel) >>= fun value => optionalSemicolon >>= fun _ => pure value)
    (fun fuel => ?_) ?_)
  · rw [split, List.head?_cons, Option.map_some, kind]
    split
    · next none => cases none
    · next eq =>
      rw [Option.some.inj eq] at opener
      cases opener
    · next eq =>
      rw [Option.some.inj eq] at opener
      cases opener
    · rfl
  · have value : Gives (fun fuel => some <$> expression fuel)
        (e.words style ++ .mark .semicolon :: vs) fun value us =>
          ∃ e', value = some e' ∧ Back e (.mark .semicolon :: vs) e' us :=
      (complete.whole (stopsAt_mark rfl 0 vs)).map fun e' us back => ⟨e', rfl, back⟩
    refine value.bind ?_
    rintro _ _ ⟨e', rfl, same, rfl⟩
    exact gives_semicolon (.pure ⟨e', rfl, same, rfl⟩)

theorem gives_noTrailingValue (vs : List Token) :
    Gives trailingValue (.mark .semicolon :: vs) fun value us => value = none ∧ us = vs := by
  refine .step (fun fuel => by rw [trailingValue]) (.nextKind (q := fun fuel =>
    optionalSemicolon >>= fun _ => pure none) (fun _ => rfl) ?_)
  exact gives_semicolon (.pure ⟨rfl, rfl⟩)

section

variable (start : Token) {x : String} {e : Expr} {span : Span} {vs : List Token}

/-- A statement that differs from `s` in places only, with `vs` behind it. -/
def BackStmt (s : Stmt) (vs : List Token) (s' : Stmt) (rest : List Token) : Prop :=
  s'.bare = s.bare ∧ rest = vs

theorem gives_uninitialised : Gives (fun fuel => varStatement fuel start)
    (.name x :: .mark .semicolon :: vs) (BackStmt (.varDecl span x none) vs) := by
  refine .step (fun fuel => by rw [varStatement]) ?_
  refine .discard (.reject (by simp [Token.name]) (.expect rfl fun t ht => ?_))
  refine .reject (by simp [Token.mark]) (gives_semicolon (.pure ⟨?_, rfl⟩))
  rw [Stmt.bare, Stmt.bare, show t.text = x from congrArg Token.text ht]

theorem gives_initialised (complete : Complete style e) :
    Gives (fun fuel => varStatement fuel start)
      (.name x :: .mark .assign :: (e.words style ++ .mark .semicolon :: vs))
      (BackStmt (.varDecl span x (some e)) vs) := by
  refine .step (fun fuel => by rw [varStatement]) ?_
  refine .discard (.reject (by simp [Token.name]) (.expect rfl fun t ht => ?_))
  refine .accept rfl fun _ _ => (complete.whole (stopsAt_mark rfl 0 vs)).bind ?_
  rintro e' _ ⟨same, rfl⟩
  refine gives_semicolon (.pure ⟨?_, rfl⟩)
  rw [Stmt.bare, Stmt.bare, same, show t.text = x from congrArg Token.text ht]

theorem gives_const (complete : Complete style e) : Gives (fun fuel => constStatement fuel start)
    (.name x :: .mark .assign :: (e.words style ++ .mark .semicolon :: vs))
    (BackStmt (.constDecl span x e) vs) := by
  refine .step (fun fuel => by rw [constStatement]) ?_
  refine .expect rfl fun t ht => .discard (.expect rfl fun _ _ => ?_)
  refine (complete.whole (stopsAt_mark rfl 0 vs)).bind ?_
  rintro e' _ ⟨same, rfl⟩
  refine gives_semicolon (.pure ⟨?_, rfl⟩)
  rw [Stmt.bare, Stmt.bare, same, show t.text = x from congrArg Token.text ht]

theorem gives_fn {params : List Param} {body : List Stmt} (canonical : Param.Canonical params)
    (whole : ∀ s ∈ body, Whole style s) : Gives (fun fuel => fnStatement fuel start)
    (.name x :: .mark .parenOpen :: (Param.words params ++
      .mark .parenClose :: (Token.braces (Stmt.wordsAll style body) ++ vs)))
    (BackStmt (.fnDecl span x params body) vs) := by
  refine .step (fun fuel => by rw [fnStatement]) ?_
  refine .expect rfl fun t ht => .discard (.expect rfl fun _ _ => ?_)
  refine (gives_params (by simp) (by simp) canonical.distinct _).bind ?_
  rintro names _ ⟨same, rfl⟩
  refine .discard (.expect rfl fun _ _ => (gives_block whole vs).bind ?_)
  rintro ⟨body', span'⟩ _ ⟨sames, rfl⟩
  refine .pure ⟨?_, rfl⟩
  rw [Stmt.bare, Stmt.bare, same, sames, show t.text = x from congrArg Token.text ht]

theorem gives_if {yes : List Stmt} (complete : Complete style e) (whole : ∀ s ∈ yes, Whole style s)
    (behind : ∀ w ∈ vs.head?, w.kind ≠ .keyword .elseWord) :
    Gives (fun fuel => ifStatement fuel start)
      (e.words style ++ (Token.braces (Stmt.wordsAll style yes) ++ vs))
      (BackStmt (.ifElse span e yes none) vs) := by
  refine .step (fun fuel => by rw [ifStatement]) ((complete.whole (stopsAt_braces 0 _ _)).bind ?_)
  rintro e' _ ⟨same, rfl⟩
  refine (gives_block whole vs).bind ?_
  rintro ⟨yes', span'⟩ _ ⟨sames, rfl⟩
  exact .reject behind (.pure ⟨by rw [Stmt.bare, Stmt.bare, same, sames], rfl⟩)

theorem gives_ifElse {yes no : List Stmt} (complete : Complete style e)
    (hy : ∀ s ∈ yes, Whole style s) (hn : ∀ s ∈ no, Whole style s) :
    Gives (fun fuel => ifStatement fuel start)
      (e.words style ++ (Token.braces (Stmt.wordsAll style yes) ++
        .keyword .elseWord :: (Token.braces (Stmt.wordsAll style no) ++ vs)))
      (BackStmt (.ifElse span e yes (some no)) vs) := by
  refine .step (fun fuel => by rw [ifStatement]) ((complete.whole (stopsAt_braces 0 _ _)).bind ?_)
  rintro e' _ ⟨same, rfl⟩
  refine (gives_block hy _).bind ?_
  rintro ⟨yes', span'⟩ _ ⟨sames, rfl⟩
  refine .accept rfl fun _ _ => .reject (by simp [Token.braces, Token.mark]) ?_
  refine (gives_block hn vs).bind ?_
  rintro ⟨no', span'⟩ _ ⟨sames', rfl⟩
  exact .pure ⟨by rw [Stmt.bare, Stmt.bare, same, sames, sames'], rfl⟩

theorem gives_while {body : List Stmt} (complete : Complete style e)
    (whole : ∀ s ∈ body, Whole style s) : Gives (fun fuel => whileStatement fuel start)
      (e.words style ++ (Token.braces (Stmt.wordsAll style body) ++ vs))
      (BackStmt (.whileLoop span e body) vs) := by
  refine .step (fun fuel => by rw [whileStatement])
    ((complete.whole (stopsAt_braces 0 _ _)).bind ?_)
  rintro e' _ ⟨same, rfl⟩
  refine (gives_block whole vs).bind ?_
  rintro ⟨body', span'⟩ _ ⟨sames, rfl⟩
  exact .pure ⟨by rw [Stmt.bare, Stmt.bare, same, sames], rfl⟩

theorem gives_loop {body : List Stmt} (whole : ∀ s ∈ body, Whole style s) :
    Gives (fun fuel => loopStatement fuel start)
      (Token.braces (Stmt.wordsAll style body) ++ vs) (BackStmt (.loop span body) vs) := by
  refine .step (fun fuel => by rw [loopStatement]) ((gives_block whole vs).bind ?_)
  rintro ⟨body', span'⟩ _ ⟨sames, rfl⟩
  exact .pure ⟨by rw [Stmt.bare, Stmt.bare, sames], rfl⟩

theorem gives_for {body : List Stmt} (complete : Complete style e)
    (whole : ∀ s ∈ body, Whole style s) : Gives (fun fuel => forStatement fuel start)
      (.name x :: .keyword .inWord :: (e.words style ++
        (Token.braces (Stmt.wordsAll style body) ++ vs)))
      (BackStmt (.forLoop span x e body) vs) := by
  refine .step (fun fuel => by rw [forStatement]) ?_
  refine .expect rfl fun t ht => .discard (.expect rfl fun _ _ => ?_)
  refine (complete.whole (stopsAt_braces 0 _ _)).bind ?_
  rintro e' _ ⟨same, rfl⟩
  refine (gives_block whole vs).bind ?_
  rintro ⟨body', span'⟩ _ ⟨sames, rfl⟩
  refine .pure ⟨?_, rfl⟩
  rw [Stmt.bare, Stmt.bare, same, sames, show t.text = x from congrArg Token.text ht]

theorem gives_arms {arms : List Arm} (canonical : ∀ a ∈ arms, Complete.node style (.arm a)) :
    Gives Parse.arms (Arm.wordsAll style arms ++ .mark .braceClose :: vs) fun arms' us =>
      Arm.bareAll arms' = Arm.bareAll arms ∧ us = .mark .braceClose :: vs := by
  induction arms with
  | nil =>
    refine .step (fun fuel => by rw [Parse.arms]) (.nextKind (fun _ => rfl) ?_)
    exact .pure ⟨rfl, rfl⟩
  | cons arm arms ih =>
    obtain ⟨span, shape, body⟩ := arm
    obtain ⟨hp, whole⟩ := canonical _ List.mem_cons_self
    have rest := ih fun a mem => canonical a (List.mem_cons_of_mem _ mem)
    obtain ⟨w, ws, split, -, open', noElse⟩ := head_words_pattern style shape
    rw [Arm.wordsAll, Arm.words, List.append_assoc, List.append_assoc, List.cons_append]
    refine .step (fun fuel => by rw [Parse.arms]) (.goesOn (by rw [split]; rfl) open'
      (fun fuel kind other => ?_) ?_)
    · cases kind <;> first | rfl | exact absurd rfl other
    · refine .reject (by rw [split]; simpa using noElse) ((gives_pattern hp _).bind ?_)
      rintro _ _ ⟨rfl, rfl⟩
      refine .discard (.expect rfl fun _ _ => (gives_block whole _).bind ?_)
      rintro ⟨body', span'⟩ _ ⟨same, rfl⟩
      refine rest.bind ?_
      rintro arms' _ ⟨sames, rfl⟩
      exact .pure ⟨by simp [Arm.bareAll, Arm.bare, same, sames], rfl⟩

theorem gives_when {arms : List Arm} (complete : Complete style e)
    (canonical : ∀ a ∈ arms, Complete.node style (.arm a)) :
    Gives (fun fuel => whenStatement fuel start)
      (e.words style ++ (Token.braces (Arm.wordsAll style arms) ++ vs))
      (BackStmt (.when span e arms) vs) := by
  refine .step (fun fuel => by rw [whenStatement])
    ((complete.whole (stopsAt_braces 0 _ _)).bind ?_)
  rintro e' _ ⟨same, rfl⟩
  rw [Token.braces, List.cons_append, List.append_assoc]
  refine .discard (.expect rfl fun _ _ => (gives_arms canonical).bind ?_)
  rintro arms' _ ⟨sames, rfl⟩
  exact .expect rfl fun _ _ => .pure ⟨by rw [Stmt.bare, Stmt.bare, same, sames], rfl⟩

theorem gives_expressionStatement (complete : Complete style e) :
    Gives expressionStatement (e.words style ++ .mark .semicolon :: vs)
      (BackStmt (.expr span e) vs) := by
  refine .step (fun fuel => by rw [expressionStatement])
    ((complete.whole (stopsAt_mark rfl 0 vs)).bind ?_)
  rintro e' _ ⟨same, rfl⟩
  exact gives_semicolon (.pure ⟨by rw [Stmt.bare, Stmt.bare, same], rfl⟩)

theorem gives_blockStatement {body : List Stmt} (whole : ∀ s ∈ body, Whole style s) :
    Gives blockStatement (Token.braces (Stmt.wordsAll style body) ++ vs)
      (BackStmt (.block span body) vs) := by
  refine .step (fun fuel => by rw [blockStatement]) ((gives_block whole vs).bind ?_)
  rintro ⟨body', span'⟩ _ ⟨same, rfl⟩
  exact .pure ⟨by rw [Stmt.bare, Stmt.bare, same], rfl⟩

theorem gives_continue : Gives (fun _ => statement.continueStatement start)
    (.mark .semicolon :: vs) (BackStmt (.continue span) vs) := by
  unfold statement.continueStatement
  exact gives_semicolon (.pure ⟨rfl, rfl⟩)

end

/-! ### Statements that may carry a value -/

section

variable (start : Token) (node : Span → Option Expr → Stmt) {p : Nat → Parse Stmt} {span : Span}
  {vs : List Token}

theorem gives_withoutValue
    (reads : ∀ fuel, p (fuel + 1) =
      trailingValue fuel >>= fun value => pure (node (spanWith start value) value))
    (same : ∀ span', (node span' none).bare = (node span none).bare) :
    Gives p (.mark .semicolon :: vs) (BackStmt (node span none) vs) := by
  refine .step reads ((gives_noTrailingValue vs).bind ?_)
  rintro _ _ ⟨rfl, rfl⟩
  exact .pure ⟨same _, rfl⟩

theorem gives_withValue {e : Expr}
    (reads : ∀ fuel, p (fuel + 1) =
      trailingValue fuel >>= fun value => pure (node (spanWith start value) value))
    (same : ∀ span' e', e'.bare = e.bare → (node span' (some e')).bare = (node span (some e)).bare)
    (complete : Complete style e) (opens : Opens e.opener e.isWord (e.words style)) :
    Gives p (e.words style ++ .mark .semicolon :: vs) (BackStmt (node span (some e)) vs) := by
  refine .step reads ((gives_trailingValue complete opens vs).bind ?_)
  rintro _ _ ⟨e', rfl, alike, rfl⟩
  exact .pure ⟨same _ e' alike, rfl⟩

end

/-! ### Every kind of statement -/

/-- Most statements are known by the keyword they begin with. -/
theorem gives_keyword {k : Keyword} {ws : List Token} {q : Token → Nat → Parse Stmt}
    {Q : Stmt → List Token → Prop}
    (read : ∀ t rest fuel, t.kind = .keyword k → statement (fuel + 1) (t :: rest) = q t fuel rest)
    (hq : ∀ t, Gives (q t) ws Q) : Gives statement (.keyword k :: ws) Q :=
  .look (fun t rest fuel ht => read t rest fuel (congrArg Token.kind ht)) fun t _ => hq t

/-- A statement that begins as an expression does is one, unless it is a block. -/
theorem statement_of_opensExpr {t : Token} {rest : List Token} {fuel : Nat}
    (opens : t.kind.opensExpr) (unbraced : t.kind ≠ .braceOpen) :
    statement (fuel + 1) (t :: rest) = expressionStatement fuel (t :: rest) := by
  simp only [statement]
  split <;> simp_all [TokenKind.opensExpr]

/-- What begins as an expression does is read as one. -/
theorem gives_statement_expr {e : Expr} {span : Span} {vs : List Token}
    (complete : Complete style e) (opens : Opens e.opener e.isWord (e.words style))
    (unbraced : e.opener ≠ .braceOpen) :
    Gives statement (e.words style ++ .mark .semicolon :: vs) (BackStmt (.expr span e) vs) := by
  obtain ⟨w, ws, split, kind⟩ := opens.more (.mark .semicolon :: vs)
  have read : Gives expressionStatement (e.words style ++ .mark .semicolon :: vs)
      (BackStmt (.expr span e) vs) := gives_expressionStatement complete
  rw [split] at read ⊢
  refine .stay (fun t rest fuel ht => ?_) read
  have opener : t.kind = e.opener := by rw [← kind, ← ht]; rfl
  exact statement_of_opensExpr (opener ▸ e.opensExpr_opener) (opener ▸ unbraced)

theorem gives_statement_block {body : List Stmt} {span : Span} {vs : List Token}
    (whole : ∀ s ∈ body, Whole style s) :
    Gives statement (Token.braces (Stmt.wordsAll style body) ++ vs)
      (BackStmt (.block span body) vs) := by
  refine .stay (q := blockStatement) (fun t rest fuel ht => ?_) (gives_blockStatement whole)
  have kind : t.kind = .braceOpen := congrArg Token.kind ht
  simp only [statement, kind]

theorem whole_stmt {s : Stmt} (h : (Node.stmt s).Each Node.Canonical)
    (ih : ∀ child ∈ s.children, Complete.node style child) : Whole style s := by
  refine ⟨head_words_stmt style h, fun {vs} behind => ?_⟩
  have expr {e : Expr} (mem : .expr e ∈ s.children) :
      Complete style e ∧ Opens e.opener e.isWord (e.words style) :=
    ⟨ih (.expr e) mem, opens_words style (h.child mem)⟩
  have all {body : List Stmt} (mem : ∀ s' ∈ body, .stmt s' ∈ s.children) :
      ∀ s' ∈ body, Whole style s' := fun s' hs => (ih (.stmt s') (mem s' hs)).1
  have here := h.here
  cases s with
  | varDecl span x value =>
    cases value with
    | none =>
      rw [Stmt.words]
      exact gives_keyword (fun t rest fuel kind => by simp only [statement, kind]) fun t =>
        gives_uninitialised t
    | some e =>
      have complete := (expr (e := e) (by simp [Stmt.children])).1
      simp only [Stmt.words, List.cons_append, List.append_assoc, List.nil_append]
      exact gives_keyword (fun t rest fuel kind => by simp only [statement, kind]) fun t =>
        gives_initialised t complete
  | constDecl span x e =>
    have complete := (expr (e := e) (by simp [Stmt.children])).1
    simp only [Stmt.words, List.cons_append, List.append_assoc, List.nil_append]
    exact gives_keyword (fun t rest fuel kind => by simp only [statement, kind]) fun t =>
      gives_const t complete
  | fnDecl span x params body =>
    simp only [Stmt.words, List.cons_append, List.append_assoc]
    exact gives_keyword (fun t rest fuel kind => by simp only [statement, kind]) fun t =>
      gives_fn t here.2 (all fun s' mem => List.mem_map_of_mem mem)
  | expr span e =>
    obtain ⟨complete, opens⟩ := expr (e := e) (by simp [Stmt.children])
    rw [Stmt.words, List.append_assoc]
    exact gives_statement_expr complete opens here
  | block span body =>
    have whole : ∀ s ∈ body, Whole style s := all fun s' mem => List.mem_map_of_mem mem
    rw [Stmt.words]
    exact gives_statement_block whole
  | ifElse span condition yes no =>
    have complete := (expr (e := condition) (by simp [Stmt.children])).1
    have hy : ∀ s ∈ yes, Whole style s := all (by simp +contextual [Stmt.children])
    cases no with
    | none =>
      simp only [Stmt.words, List.cons_append, List.append_assoc]
      exact gives_keyword (fun t rest fuel kind => by simp only [statement, kind]) fun t =>
        gives_if t complete hy behind
    | some no =>
      have hn : ∀ s ∈ no, Whole style s := all (by simp +contextual [Stmt.children])
      simp only [Stmt.words, List.cons_append, List.append_assoc]
      exact gives_keyword (fun t rest fuel kind => by simp only [statement, kind]) fun t =>
        gives_ifElse t complete hy hn
  | whileLoop span condition body =>
    have complete := (expr (e := condition) (by simp [Stmt.children])).1
    have whole : ∀ s ∈ body, Whole style s := all (by simp +contextual [Stmt.children])
    simp only [Stmt.words, List.cons_append, List.append_assoc]
    exact gives_keyword (fun t rest fuel kind => by simp only [statement, kind]) fun t =>
      gives_while t complete whole
  | loop span body =>
    have whole : ∀ s ∈ body, Whole style s := all fun s' mem => List.mem_map_of_mem mem
    rw [Stmt.words]
    exact gives_keyword (fun t rest fuel kind => by simp only [statement, kind]) fun t =>
      gives_loop t whole
  | forLoop span x iterable body =>
    have complete := (expr (e := iterable) (by simp [Stmt.children])).1
    have whole : ∀ s ∈ body, Whole style s := all (by simp +contextual [Stmt.children])
    simp only [Stmt.words, List.cons_append, List.append_assoc]
    exact gives_keyword (fun t rest fuel kind => by simp only [statement, kind]) fun t =>
      gives_for t complete whole
  | when span subject arms =>
    have complete := (expr (e := subject) (by simp [Stmt.children])).1
    simp only [Stmt.words, List.cons_append, List.append_assoc]
    exact gives_keyword (fun t rest fuel kind => by simp only [statement, kind]) fun t =>
      gives_when t complete fun a mem => ih (.arm a) (by simp [Stmt.children, mem])
  | «return» span value =>
    cases value with
    | none =>
      rw [Stmt.words]
      exact gives_keyword (q := fun t fuel => returnStatement fuel t)
        (fun t rest fuel kind => by simp only [statement, kind]) fun t =>
          gives_withoutValue t .return (fun fuel => by rw [returnStatement]) fun _ => rfl
    | some e =>
      obtain ⟨complete, opens⟩ := expr (e := e) (by simp [Stmt.children])
      simp only [Stmt.words, List.cons_append, List.append_assoc, List.nil_append]
      refine gives_keyword (q := fun t fuel => returnStatement fuel t)
        (fun t rest fuel kind => by simp only [statement, kind]) fun t =>
          gives_withValue t .return (fun fuel => by rw [returnStatement]) (fun _ e' same => ?_)
            complete opens
      rw [Stmt.bare, Stmt.bare, same]
  | «break» span value =>
    cases value with
    | none =>
      rw [Stmt.words]
      exact gives_keyword (q := fun t fuel => breakStatement fuel t)
        (fun t rest fuel kind => by simp only [statement, kind]) fun t =>
          gives_withoutValue t .break (fun fuel => by rw [breakStatement]) fun _ => rfl
    | some e =>
      obtain ⟨complete, opens⟩ := expr (e := e) (by simp [Stmt.children])
      simp only [Stmt.words, List.cons_append, List.append_assoc, List.nil_append]
      refine gives_keyword (q := fun t fuel => breakStatement fuel t)
        (fun t rest fuel kind => by simp only [statement, kind]) fun t =>
          gives_withValue t .break (fun fuel => by rw [breakStatement]) (fun _ e' same => ?_)
            complete opens
      rw [Stmt.bare, Stmt.bare, same]
  | «continue» span =>
    rw [Stmt.words]
    exact gives_keyword (fun t rest fuel kind => by simp only [statement, kind]) fun t =>
      gives_continue t

/-- From the words of every node of a canonical program the node is read. -/
theorem complete_node {node : Node} (h : node.Each Node.Canonical) : Complete.node style node := by
  induction h with
  | @intro node here below ih =>
    cases node with
    | expr e => exact complete_expr (.intro here below) ih
    | stmt s =>
      refine ⟨whole_stmt (.intro here below) ih, ?_⟩
      rintro span e rfl
      exact ih (.expr e) (by simp [Node.children, Stmt.children])
    | arm a =>
      obtain ⟨span, pattern, body⟩ := a
      exact ⟨here, fun s mem => (ih (.stmt s) (List.mem_map_of_mem mem)).1⟩

theorem gives_body {body : List Stmt} (h : ∀ s ∈ body, (Node.stmt s).Each Node.Canonical) :
    Gives Parse.body (Stmt.wordsAll style body) fun body' us =>
      Stmt.bareAll body' = Stmt.bareAll body ∧ us = [] := by
  induction body with
  | nil =>
    refine .step (fun fuel => by rw [Parse.body]) (.nextKind (fun _ => rfl) ?_)
    exact .pure ⟨rfl, rfl⟩
  | cons s body ih =>
    have rest := ih fun s' mem => h s' (List.mem_cons_of_mem s mem)
    have whole : Whole style s := (complete_node (h s List.mem_cons_self)).1
    obtain ⟨w, ws, split, -, -⟩ := whole.begins
    have behind : ∀ w ∈ (Stmt.wordsAll style body).head?, w.kind ≠ .keyword .elseWord := by
      cases body with
      | nil => simp [Stmt.wordsAll]
      | cons next body =>
        obtain ⟨w, ws, split, -, other⟩ := head_words_stmt style (h next (by simp))
        rw [Stmt.wordsAll, split]
        rintro _ ⟨⟩
        exact other
    rw [Stmt.wordsAll]
    refine .step (fun fuel => by rw [Parse.body]) (.nextKind (q := fun fuel =>
      statement fuel >>= fun first => Parse.body fuel >>= fun rest => pure (first :: rest))
      (fun fuel => by rw [split]; rfl) ?_)
    refine (whole.reads behind).bind ?_
    rintro s' _ ⟨same, rfl⟩
    refine rest.bind ?_
    rintro body' _ ⟨sames, rfl⟩
    exact .pure ⟨by simp [Stmt.bareAll, same, sames], rfl⟩

end LayerScript.Parse
