import LayerScript.Proofs.Programs.Giving

/-!
# Canonical patterns and expressions are read back

From the words of a literal, a pattern or an expression the grammar reads it, up to places. What is
said of an expression says where it may stand; a lambda asks the same of the statements in it.
-/

namespace LayerScript

theorem Operator.operator?_kind (op : Operator) : op.tier.operator? op.kind = some op := by
  rcases op with (_ | _) | (_ | _ | _ | _ | _) | (_ | _ | _ | _) | _ | _ <;> rfl

namespace Parse

variable {style : Style}

/-! ## Literals -/

theorem gives_number {t : Token} {value : Literal} (h : numberLiteral t.text = .ok value)
    (vs : List Token) : Gives (fun _ => number t) vs fun v us => v = value ∧ us = vs := by
  have read : number t = pure value := by rw [number, h]
  rw [read]
  exact .pure ⟨rfl, rfl⟩

theorem numberLiteral_natAbs {n : Int64} (least : n ≠ Int64.minValue) :
    numberLiteral (String.ofList (Decimal.natural n.toInt.natAbs)) =
      .ok (.int (if n.toInt < 0 then -n else n)) := by
  have bound : n.toInt ≠ -2 ^ 63 := fun eq => least (Int64.toInt_inj.1 eq)
  have small : n.toInt.natAbs < 2 ^ 63 := by
    have := n.toInt_lt
    have := n.le_toInt
    omega
  rw [Decimal.numberLiteral_natural small, ← Int64.ofInt_eq_ofNat]
  split
  · next negative =>
    rw [Int.ofNat_natAbs_of_nonpos (Int.le_of_lt negative), Int64.ofInt_neg, Int64.ofInt_toInt]
  · next positive =>
    rw [Int.natAbs_of_nonneg (Int.not_lt.1 positive), Int64.ofInt_toInt]

/-! ## Patterns -/

theorem head?_commas (w : Token) (ws : List Token) (items : List (List Token)) (vs : List Token) :
    (Token.commas ((w :: ws) :: items) ++ vs).head? = some w := by
  cases items <;> simp [Token.commas]

theorem gives_unsigned {digits : List Char} {value : Literal}
    (h : numberLiteral (String.ofList digits) = .ok value) (vs : List Token) :
    Gives pattern (.numeral digits :: vs) fun p us => p = .literal value ∧ us = vs := by
  refine .look (q := fun t _ => .literal <$> number t) (fun t rest fuel ht => ?_) fun t ht => ?_
  · have kind : t.kind = .number := congrArg Token.kind ht
    simp only [pattern, kind]
  · have text : t.text = String.ofList digits := congrArg Token.text ht
    refine (gives_number (text ▸ h) vs).map ?_
    rintro _ _ ⟨rfl, rfl⟩
    exact ⟨rfl, rfl⟩

theorem gives_signed {digits : List Char} {value : Literal}
    (h : numberLiteral (String.ofList digits) = .ok value) (vs : List Token) :
    Gives pattern (.mark .minus :: .numeral digits :: vs) fun p us =>
      p = .literal value.negated ∧ us = vs := by
  refine .look (q := fun _ _ => pattern.negated >>= fun v => pure (.literal v))
    (fun t rest fuel ht => ?_) fun _ _ => ?_
  · have kind : t.kind = .minus := congrArg Token.kind ht
    simp only [pattern, kind]
  · have read : Gives (fun _ => pattern.negated) (.numeral digits :: vs) fun v us =>
        v = value.negated ∧ us = vs := by
      unfold pattern.negated
      refine .expect rfl fun t ht => ?_
      have text : t.text = String.ofList digits := congrArg Token.text ht
      refine (gives_number (text ▸ h) vs).bind ?_
      rintro _ _ ⟨rfl, rfl⟩
      exact .pure ⟨rfl, rfl⟩
    refine read.bind ?_
    rintro _ _ ⟨rfl, rfl⟩
    exact .pure ⟨rfl, rfl⟩

/-- A pattern of one word. -/
theorem gives_word {w : Token} {p : Pattern} (h : ∀ t rest fuel, t.bare = w →
    pattern (fuel + 1) (t :: rest) = .ok (p, rest)) (vs : List Token) :
    Gives pattern (w :: vs) fun p' us => p' = p ∧ us = vs :=
  .look (q := fun _ _ => pure p) h fun _ _ => .pure ⟨rfl, rfl⟩

theorem gives_literal {value : Literal} (h : Pattern.Canonical (.literal value)) (vs : List Token) :
    Gives pattern (value.words style ++ vs) fun p us => p = .literal value ∧ us = vs := by
  have keyword {k : Keyword} {p : Pattern} (read : ∀ t rest fuel, t.kind = .keyword k →
      pattern (fuel + 1) (t :: rest) = .ok (p, rest)) :
      Gives pattern (.keyword k :: vs) fun p' us => p' = p ∧ us = vs :=
    gives_word (fun t rest fuel ht => read t rest fuel (congrArg Token.kind ht)) vs
  cases value with
  | none => exact keyword fun t rest fuel kind => by simp only [pattern, kind]
  | bool b =>
    cases b
    · exact keyword fun t rest fuel kind => by simp only [pattern, kind]
    · exact keyword fun t rest fuel kind => by simp only [pattern, kind]
  | int n =>
    rw [Pattern.Canonical] at h
    have read := numberLiteral_natAbs h
    rw [Literal.words]
    split
    · next negative =>
      rw [if_pos negative] at read
      have read := gives_signed read vs
      rwa [Literal.negated, Int64.neg_neg] at read
    · next positive =>
      rw [if_neg positive] at read
      exact gives_unsigned read vs
  | float x =>
    rw [Literal.words]
    split
    · next unsigned => exact gives_unsigned (style.reads unsigned) vs
    · next signed =>
      have number : ¬ x.isNaN := h
      have read := gives_signed (style.reads (.neg number signed)) vs
      rwa [Literal.negated, Decimal.neg_neg number] at read
  | text s =>
    refine gives_word (fun t rest fuel ht => ?_) vs
    have kind : t.kind = .string := congrArg Token.kind ht
    have text : t.text = s := congrArg Token.text ht
    simp only [pattern, kind, text]

mutual

theorem gives_pattern {p : Pattern} (h : p.Canonical) (vs : List Token) :
    Gives pattern (p.words style ++ vs) fun p' us => p' = p ∧ us = vs := by
  cases p with
  | literal value =>
    rw [Pattern.words]
    exact gives_literal h vs
  | wildcard =>
    rw [Pattern.words]
    refine gives_word (fun t rest fuel ht => ?_) vs
    have kind : t.kind = .identifier := congrArg Token.kind ht
    have text : t.text = "_" := congrArg Token.text ht
    simp only [pattern, kind, text, if_pos]
  | name x =>
    rw [Pattern.Canonical] at h
    rw [Pattern.words]
    refine gives_word (fun t rest fuel ht => ?_) vs
    have kind : t.kind = .identifier := congrArg Token.kind ht
    have text : t.text = x := congrArg Token.text ht
    simp only [pattern, kind, text, if_neg h.2]
  | tuple parts =>
    rw [Pattern.Canonical] at h
    rw [Pattern.words, List.cons_append, List.append_assoc]
    refine .look (q := fun _ => tuple) (fun t rest fuel ht => ?_) fun _ _ => ?_
    · have kind : t.kind = .parenOpen := congrArg Token.kind ht
      simp only [pattern, kind]
    have ending : Gives (fun _ => discard (expect .parenClose .tupleEnd) >>= fun _ =>
        Pure.pure (Pattern.tuple parts)) (.mark .parenClose :: vs) fun p us =>
          p = .tuple parts ∧ us = vs :=
      .discard (.expect rfl fun _ _ => .pure ⟨rfl, rfl⟩)
    cases parts with
    | nil =>
      refine .step (fun fuel => by rw [tuple]) ?_
      exact .sees rfl ending
    | cons part parts =>
      have unclosed : ∀ w ∈ (Token.commas (Pattern.wordsOfParts style (part :: parts)) ++
          .mark .parenClose :: vs).head?, w.kind ≠ .parenClose := by
        obtain ⟨w, ws, split, open', -⟩ := head_words_pattern style part
        rw [Pattern.wordsOfParts, split, head?_commas]
        rintro _ ⟨⟩
        exact open'
      refine .step (fun fuel => by rw [tuple]) (.misses unclosed ?_)
      refine (gives_patternsFrom (by simp) h vs).bind ?_
      rintro _ _ ⟨rfl, rfl⟩
      exact ending

theorem gives_patternsFrom {parts : List Pattern} (some : parts ≠ [])
    (h : Pattern.AllCanonical parts) (vs : List Token) :
    Gives patternsFrom (Token.commas (Pattern.wordsOfParts style parts) ++ .mark .parenClose :: vs)
      fun ps us => ps = parts ∧ us = .mark .parenClose :: vs := by
  cases parts with
  | nil => exact absurd rfl some
  | cons part parts =>
    rw [Pattern.AllCanonical] at h
    by_cases last : parts = []
    · subst last
      refine .step (fun fuel => by rw [patternsFrom]) ((gives_pattern h.1 _).bind ?_)
      rintro _ _ ⟨rfl, rfl⟩
      exact .reject (by simp [Token.mark]) (.pure ⟨rfl, rfl⟩)
    · have rest := gives_patternsFrom last h.2 vs
      rw [Pattern.wordsOfParts, Token.commas, List.append_assoc, List.cons_append]
      · refine .step (fun fuel => by rw [patternsFrom]) ((gives_pattern h.1 _).bind ?_)
        rintro _ _ ⟨rfl, rfl⟩
        refine .accept rfl fun _ _ => rest.bind ?_
        rintro _ _ ⟨rfl, rfl⟩
        exact .pure ⟨rfl, rfl⟩
      · cases parts with
        | nil => exact absurd rfl last
        | cons => simp [Pattern.wordsOfParts]

end

/-! ## Expressions -/

/-- An expression of one word. -/
theorem gives_atom {w : Token} (node : Span → Expr) (h : ∀ t rest fuel, t.bare = w →
    primary (fuel + 1) (t :: rest) = .ok (node t.span, rest))
    (bare : ∀ span, (node span).bare = node default) {span : Span} (vs : List Token) :
    Gives primary (w :: vs) (Back (node span) vs) :=
  .look (q := fun t _ => pure (node t.span)) h fun t _ =>
    .pure ⟨(bare t.span).trans (bare span).symm, rfl⟩

theorem gives_numeral {digits : List Char} {value : Literal}
    (h : numberLiteral (String.ofList digits) = .ok value) {span : Span} (vs : List Token) :
    Gives primary (.numeral digits :: vs) (Back (.literal span value) vs) := by
  refine .look (q := fun t _ => .literal t.span <$> number t) (fun t rest fuel ht => ?_)
    fun t ht => ?_
  · have kind : t.kind = .number := congrArg Token.kind ht
    simp only [primary, kind]
  · have text : t.text = String.ofList digits := congrArg Token.text ht
    refine (gives_number (text ▸ h) vs).map ?_
    rintro _ _ ⟨rfl, rfl⟩
    exact ⟨rfl, rfl⟩

theorem gives_plain {value : Literal} (h : value.Plain) {span : Span} (vs : List Token) :
    Gives primary (value.words style ++ vs) (Back (.literal span value) vs) := by
  have keyword {k : Keyword} (read : ∀ t rest fuel, t.kind = .keyword k →
      primary (fuel + 1) (t :: rest) = .ok (.literal t.span value, rest)) :
      Gives primary (.keyword k :: vs) (Back (.literal span value) vs) :=
    gives_atom (.literal · value)
      (fun t rest fuel ht => read t rest fuel (congrArg Token.kind ht)) (fun _ => rfl) vs
  cases value with
  | none => exact keyword fun t rest fuel kind => by simp only [primary, kind]
  | bool b =>
    cases b
    · exact keyword fun t rest fuel kind => by simp only [primary, kind]
    · exact keyword fun t rest fuel kind => by simp only [primary, kind]
  | int n =>
    have positive : ¬ n.toInt < 0 := Int.not_lt.2 h
    have read := numberLiteral_natAbs (Literal.Plain.canonical h)
    rw [if_neg positive] at read
    rw [Literal.words, if_neg positive]
    exact gives_numeral read vs
  | float x =>
    have unsigned : Decimal.IsUnsigned x := h
    rw [Literal.words, if_pos unsigned]
    exact gives_numeral (style.reads unsigned) vs
  | text s =>
    refine gives_atom (.literal · (.text s)) (fun t rest fuel ht => ?_) (fun _ => rfl) vs
    have kind : t.kind = .string := congrArg Token.kind ht
    have text : t.text = s := congrArg Token.text ht
    simp only [primary, kind, text]

/-- The words of a call, of an element and of a field are those of what it is taken of and more. -/
theorem Complete.of_extended {e target : Expr} {us : List Token} (whole : Complete style target)
    (high : 8 ≤ target.rank) (rank : e.rank = 8) (opens : Opens e.opener e.isWord (e.words style))
    (sign : e.opener ≠ .minus ∧ e.opener ≠ .bang) (words : e.words style = target.words style ++ us)
    (h : ∀ {vs Q target'}, target'.bare = target.bare →
      (∀ e', e'.bare = e.bare → Gives (fun fuel => postfixRest fuel e') vs Q) →
      Gives (fun fuel => postfixRest fuel target') (us ++ vs) Q) : Complete style e := by
  refine .of_target rank opens sign fun {vs Q} next => ?_
  rw [words, List.append_assoc]
  exact whole.target high fun target' same => h same next

/-! ### Statements of a body -/

/-- How the words of a statement are read. A conditional could go on with another branch. -/
structure Whole (style : Style) (s : Stmt) : Prop where
  begins : ∃ w ws, s.words style = w :: ws ∧ w.kind ≠ .braceClose ∧ w.kind ≠ .keyword .elseWord
  reads {vs : List Token} : (∀ w ∈ vs.head?, w.kind ≠ .keyword .elseWord) →
    Gives statement (s.words style ++ vs) fun s' us => s'.bare = s.bare ∧ us = vs

theorem gives_statements {body : List Stmt} (whole : ∀ s ∈ body, Whole style s) (vs : List Token) :
    Gives statements (Stmt.wordsAll style body ++ .mark .braceClose :: vs) fun body' us =>
      Stmt.bareAll body' = Stmt.bareAll body ∧ us = .mark .braceClose :: vs := by
  induction body with
  | nil =>
    refine .step (fun fuel => by rw [statements]) (.nextKind (fun _ => rfl) ?_)
    exact .pure ⟨rfl, rfl⟩
  | cons s body ih =>
    have this := whole s List.mem_cons_self
    have rest := ih fun s' mem => whole s' (List.mem_cons_of_mem s mem)
    have behind : ∀ w ∈ (Stmt.wordsAll style body ++ .mark .braceClose :: vs).head?,
        w.kind ≠ .keyword .elseWord := by
      cases body with
      | nil =>
        rintro _ ⟨⟩
        simp [Token.mark]
      | cons next body =>
        obtain ⟨w, ws, split, -, other⟩ := (whole next (by simp)).begins
        rw [Stmt.wordsAll, split]
        rintro _ ⟨⟩
        exact other
    obtain ⟨w, ws, split, opens, -⟩ := this.begins
    rw [Stmt.wordsAll, List.append_assoc]
    refine .step (fun fuel => by rw [statements]) (.goesOn (by rw [split]; rfl) opens
      (fun fuel kind other => ?_) ?_)
    · cases kind <;> first | rfl | exact absurd rfl other
    · refine (this.reads behind).bind ?_
      rintro s' _ ⟨same, rfl⟩
      refine rest.bind ?_
      rintro body' _ ⟨sames, rfl⟩
      exact .pure ⟨by simp [Stmt.bareAll, same, sames], rfl⟩

theorem gives_block {body : List Stmt} (whole : ∀ s ∈ body, Whole style s) (vs : List Token) :
    Gives block (Token.braces (Stmt.wordsAll style body) ++ vs) fun r us =>
      Stmt.bareAll r.1 = Stmt.bareAll body ∧ us = vs := by
  rw [Token.braces, List.cons_append, List.append_assoc]
  refine .step (fun fuel => by rw [block]) ?_
  refine .expect rfl fun _ _ => (gives_statements whole vs).bind ?_
  rintro body' _ ⟨same, rfl⟩
  exact .expect rfl fun _ _ => .pure ⟨same, rfl⟩

/-! ### Lambdas -/

/-- A block behind the bars of a lambda. -/
theorem gives_lambdaBody_block {body : List Stmt} (whole : ∀ s ∈ body, Whole style s)
    (opening : Token) {params names : List Param} {span : Span}
    (same : names.map (·.bare) = params.map (·.bare)) (vs : List Token) :
    Gives (fun fuel => lambdaBody fuel opening names)
      (Token.braces (Stmt.wordsAll style body) ++ vs)
      (Back (.lambda span params body false) vs) := by
  refine .step (fun fuel => by rw [lambdaBody]) ?_
  refine .sees rfl ((gives_block whole vs).bind ?_)
  rintro ⟨body', span'⟩ _ ⟨sames, rfl⟩
  exact .pure ⟨by rw [Expr.bare, Expr.bare, same, sames], rfl⟩

/-- An expression behind the bars of a lambda, which no brace begins. -/
theorem gives_lambdaBody_result {e : Expr} (whole : Complete style e)
    (opens : Opens e.opener e.isWord (e.words style)) (brace : e.opener ≠ .braceOpen)
    (opening : Token) {params names : List Param} {span span' : Span}
    (same : names.map (·.bare) = params.map (·.bare)) {vs : List Token} (stop : StopsAt 0 vs) :
    Gives (fun fuel => lambdaBody fuel opening names)
      (e.words style ++ vs) (Back (.lambda span params [.expr span' e] true) vs) := by
  have unbraced : ∀ w ∈ (e.words style ++ vs).head?, w.kind ≠ .braceOpen := by
    obtain ⟨w, ws, split, kind⟩ := opens.more vs
    rw [split]
    rintro _ ⟨⟩
    rwa [kind]
  refine .step (fun fuel => by rw [lambdaBody]) ?_
  refine .misses unbraced ((whole.whole stop).bind ?_)
  rintro e' _ ⟨bare, rfl⟩
  exact .pure ⟨by simp only [Expr.bare, Stmt.bareAll, Stmt.bare, same, bare], rfl⟩

/-- The bars of a lambda and what `read` gives behind them. -/
theorem gives_bars {params : List Param} (canonical : Param.Canonical params) {e : Expr}
    {us vs : List Token} (h : ∀ opening names, names.map (·.bare) = params.map (·.bare) →
      Gives (fun fuel => lambdaBody fuel opening names) us (Back e vs)) :
    Gives primary (Param.bars params ++ us) (Back e vs) := by
  unfold Param.bars
  split
  · next none =>
    obtain rfl := List.isEmpty_iff.1 none
    refine .look (q := fun t fuel => lambdaBody fuel t []) (fun t rest fuel ht => ?_)
      fun t _ => h t [] rfl
    have kind : t.kind = .orOr := congrArg Token.kind ht
    simp only [primary, kind]
  · rw [List.cons_append, List.append_assoc]
    refine .look (q := fun t fuel => lambda fuel t) (fun t rest fuel ht => ?_) fun t _ => ?_
    · have kind : t.kind = .pipe := congrArg Token.kind ht
      simp only [primary, kind]
    · refine .step (fun fuel => by rw [lambda]) ?_
      refine (gives_params (by simp) (by simp) canonical.distinct us).bind ?_
      rintro names _ ⟨same, rfl⟩
      exact .discard (.expect rfl fun _ _ => h t names same)

/-! ### All expressions -/

/-- How the words of a node are read. An expression can be a statement or the body of a lambda. -/
def Complete.node (style : Style) : Node → Prop
  | .expr e => Complete style e
  | .stmt s => Whole style s ∧ ∀ span e, s = .expr span e → Complete style e
  | .arm (.mk _ pattern body) => pattern.Canonical ∧ ∀ s ∈ body, Whole style s

theorem isAssignable_bare (e : Expr) : e.bare.isAssignable = e.isAssignable := by
  cases e <;> rfl

theorem rank_of_isAssignable {e : Expr} (h : e.isAssignable) : e.rank = 8 := by
  cases e <;> first | rfl | exact absurd h (by simp [Expr.isAssignable])

theorem complete_assign {target value : Expr} {span : Span} (ht : Complete style target)
    (hv : Complete style value) (assignable : target.isAssignable) :
    Complete style (.assign span target value) := by
  refine .of_whole rfl fun {vs} stop => ?_
  rw [Expr.words, List.append_assoc, List.cons_append]
  have behind (n : Nat) : StopsAt (n + 1) (.mark .assign :: (value.words style ++ vs)) := by
    rintro _ ⟨⟩ k level
    obtain rfl : k = 0 := Option.some.inj level.symm
    exact Nat.succ_pos n
  have high : Tier.level .disjunction < target.rank := by
    rw [rank_of_isAssignable assignable]
    decide
  have first := infixChain_of_operand (ht.operand high (behind 1)) (behind 0)
  refine .step (fun fuel => by rw [expression]) (first.bind ?_)
  rintro target' _ ⟨same, rfl⟩
  refine .accept rfl fun _ _ => (hv.whole stop).bind ?_
  rintro value' _ ⟨same', rfl⟩
  have still : target'.isAssignable := by
    rwa [← isAssignable_bare, same, isAssignable_bare]
  rw [if_pos still]
  exact .pure ⟨by rw [Expr.bare, Expr.bare, same, same'], rfl⟩

section

variable {span : Span}

theorem complete_unary {op : UnaryOp} {operand : Expr} (h : Complete style operand)
    (rank : 7 ≤ operand.rank) : Complete style (.unary span op operand) := by
  refine .of_signed rfl fun {vs} stop => ?_
  have signed := h.signed rank stop
  rw [Expr.words, List.cons_append]
  refine .step (fun fuel => by rw [unary]) ?_
  cases op with
  | negate =>
    refine .accept rfl fun _ _ => signed.bind ?_
    rintro operand' _ ⟨same, rfl⟩
    exact .pure ⟨by rw [Expr.bare, Expr.bare, same], rfl⟩
  | not =>
    refine .reject (by simp [Token.mark, UnaryOp.kind]) (.accept rfl fun _ _ => signed.bind ?_)
    rintro operand' _ ⟨same, rfl⟩
    exact .pure ⟨by rw [Expr.bare, Expr.bare, same], rfl⟩

theorem complete_call {target : Expr} {args : List Expr}
    (h : (Node.expr (.call span target args)).Each Node.Canonical) (ht : Complete style target)
    (ha : ∀ e ∈ args, Complete style e ∧ Opens e.opener e.isWord (e.words style)) :
    Complete style (.call span target args) := by
  refine .of_extended ht h.here rfl (opens_words style h) (Expr.opener_of_rank h (Nat.le_refl 8))
    (by rw [Expr.words]) fun {vs Q target'} same next => ?_
  rw [Expr.wordsOfItems_eq_map, List.cons_append, List.append_assoc]
  refine .step (fun fuel => by rw [postfixRest]) ?_
  refine .accept rfl fun _ _ => (gives_list rfl rfl (by simp) ha vs).bind ?_
  rintro items _ ⟨sames, rfl⟩
  exact .expect rfl fun _ _ => next _ (by rw [Expr.bare, Expr.bare, same, sames])

theorem complete_index {target position : Expr}
    (h : (Node.expr (.index span target position)).Each Node.Canonical)
    (ht : Complete style target) (hp : Complete style position) :
    Complete style (.index span target position) := by
  refine .of_extended ht h.here rfl (opens_words style h) (Expr.opener_of_rank h (Nat.le_refl 8))
    (by rw [Expr.words]) fun {vs Q target'} same next => ?_
  rw [List.cons_append, List.append_assoc]
  refine .step (fun fuel => by rw [postfixRest]) (.reject (by simp [Token.mark]) ?_)
  refine .accept rfl fun _ _ => (hp.whole (stopsAt_mark rfl 0 _)).bind ?_
  rintro position' _ ⟨same', rfl⟩
  exact .expect rfl fun _ _ => next _ (by rw [Expr.bare, Expr.bare, same, same'])

theorem complete_field {target : Expr} {x : String}
    (h : (Node.expr (.field span target x)).Each Node.Canonical) (ht : Complete style target) :
    Complete style (.field span target x) := by
  refine .of_extended ht h.here.1 rfl (opens_words style h) (Expr.opener_of_rank h (Nat.le_refl 8))
    (by rw [Expr.words]) fun {vs Q target'} same next => ?_
  refine .step (fun fuel => by rw [postfixRest]) (.reject (by simp [Token.mark]) ?_)
  refine .reject (by simp [Token.mark]) (.accept rfl fun _ _ => .expect rfl fun t ht => ?_)
  exact next _ (by rw [Expr.bare, Expr.bare, same, show t.text = x from congrArg Token.text ht])

theorem complete_group {inner : Expr} (h : (Node.expr (.group span inner)).Each Node.Canonical)
    (hi : Complete style inner) : Complete style (.group span inner) := by
  refine .of_primary rfl (opens_words style h) (by simp [Expr.opener]) fun vs => ?_
  rw [Expr.words, List.cons_append, List.append_assoc]
  refine .look (q := fun t fuel => group fuel t) (fun t rest fuel ht => ?_) fun t _ => ?_
  · have kind : t.kind = .parenOpen := congrArg Token.kind ht
    simp only [primary, kind]
  · refine .step (fun fuel => by rw [group]) ((hi.whole (stopsAt_mark rfl 0 _)).bind ?_)
    rintro inner' _ ⟨same, rfl⟩
    exact .expect rfl fun _ _ => .pure ⟨by rw [Expr.bare, Expr.bare, same], rfl⟩

theorem complete_array {items : List Expr}
    (h : (Node.expr (.array span items)).Each Node.Canonical)
    (hi : ∀ e ∈ items, Complete style e ∧ Opens e.opener e.isWord (e.words style)) :
    Complete style (.array span items) := by
  refine .of_primary rfl (opens_words style h) (by simp [Expr.opener]) fun vs => ?_
  rw [Expr.words, Expr.wordsOfItems_eq_map, List.cons_append, List.append_assoc]
  refine .look (q := fun t fuel => array fuel t) (fun t rest fuel ht => ?_) fun t _ => ?_
  · have kind : t.kind = .bracketOpen := congrArg Token.kind ht
    simp only [primary, kind]
  · refine .step (fun fuel => by rw [array]) ((gives_list rfl rfl (by simp) hi vs).bind ?_)
    rintro items' _ ⟨sames, rfl⟩
    exact .expect rfl fun _ _ => .pure ⟨by rw [Expr.bare, Expr.bare, sames], rfl⟩

theorem complete_map {entries : List (Expr × Expr)}
    (h : (Node.expr (.map span entries)).Each Node.Canonical)
    (he : ∀ entry ∈ entries, (Complete style entry.1 ∧
      Opens entry.1.opener entry.1.isWord (entry.1.words style)) ∧
        Complete style entry.2 ∧ ¬ entry.1.isWord) : Complete style (.map span entries) := by
  refine .of_primary rfl (opens_words style h) (by simp [Expr.opener]) fun vs => ?_
  rw [Expr.words, Expr.wordsOfEntries_eq_map, Token.braces, List.cons_append, List.append_assoc]
  refine .look (q := fun t fuel => mapLiteral fuel t) (fun t rest fuel ht => ?_) fun t _ => ?_
  · have kind : t.kind = .braceOpen := congrArg Token.kind ht
    simp only [primary, kind]
  · refine .step (fun fuel => by rw [mapLiteral]) ((gives_entries he vs).bind ?_)
    rintro entries' _ ⟨sames, rfl⟩
    exact .expect rfl fun _ _ => .pure ⟨by rw [Expr.bare, Expr.bare, sames], rfl⟩

/-- A lambda takes in all that follows it, so it is read as a whole only. -/
theorem complete_lambda {params : List Param} {body : List Stmt} {yields : Bool}
    (h : (Node.expr (.lambda span params body yields)).Each Node.Canonical)
    (ih : ∀ s ∈ body, Complete.node style (.stmt s)) :
    Complete style (.lambda span params body yields) := by
  obtain ⟨canonical, result⟩ := h.here
  refine .of_whole rfl fun {vs} stop => ?_
  have read : Gives primary ((Expr.lambda span params body yields).words style ++ vs)
      (Back (.lambda span params body yields) vs) := by
    cases yields with
    | false =>
      rw [Expr.words, List.append_assoc]
      exact gives_bars canonical fun opening names same =>
        gives_lambdaBody_block (fun s mem => (ih s mem).1) opening same vs
    | true =>
      obtain ⟨span', e, rfl⟩ := result rfl
      have statement : (Node.stmt (.expr span' e)).Each Node.Canonical :=
        h.child (by simp [Node.children, Expr.children])
      have inner : (Node.expr e).Each Node.Canonical :=
        statement.child (by simp [Node.children, Stmt.children])
      rw [Expr.words, List.append_assoc]
      exact gives_bars canonical fun opening names same =>
        gives_lambdaBody_result ((ih _ List.mem_cons_self).2 span' e rfl) (opens_words style inner)
          statement.here opening same stop
  refine expression_of_unary (unary_of_primary ((opens_words style h).more vs) ?_
    (read.bind ?_)) stop
  · cases params <;> simp [Expr.opener]
  · rintro e' _ ⟨same, rfl⟩
    exact postfixRest_stop (stop.mono (by decide)) ⟨same, rfl⟩

end

theorem complete_expr {e : Expr} (h : (Node.expr e).Each Node.Canonical)
    (ih : ∀ child ∈ e.children, Complete.node style child) : Complete style e := by
  have opens := opens_words style h
  have below {e' : Expr} (mem : .expr e' ∈ e.children) :
      Complete style e' ∧ Opens e'.opener e'.isWord (e'.words style) :=
    ⟨ih (.expr e') mem, opens_words style (h.child mem)⟩
  have both {left right : Expr} (pair : e.children = [.expr left, .expr right]) :
      Complete style left ∧ Complete style right :=
    ⟨(below (by simp [pair])).1, (below (by simp [pair])).1⟩
  have here := h.here
  cases e with
  | literal span value =>
    exact .of_primary rfl opens (Expr.opener_of_rank h (Nat.le_refl 8)) (gives_plain here)
  | name span x =>
    refine .of_primary rfl opens (by simp [Expr.opener])
      (gives_atom (.name · x) (fun t rest fuel ht => ?_) fun _ => rfl)
    have kind : t.kind = .identifier := congrArg Token.kind ht
    have text : t.text = x := congrArg Token.text ht
    simp only [primary, kind, text]
  | this span =>
    refine .of_primary rfl opens (by simp [Expr.opener])
      (gives_atom .this (fun t rest fuel ht => ?_) fun _ => rfl)
    have kind : t.kind = .keyword .thisWord := congrArg Token.kind ht
    simp only [primary, kind]
  | binary span op left right =>
    obtain ⟨hl, hr⟩ := both rfl
    refine .of_operator rfl (by rw [Expr.words]) (fun left' right' same same' => ?_)
      (Operator.operator?_kind _) hl hr here.first here.second
    rw [Operator.node, Expr.bare, Expr.bare, same, same']
  | logical span op left right =>
    obtain ⟨hl, hr⟩ := both rfl
    refine .of_operator rfl (by rw [Expr.words]) (fun left' right' same same' => ?_)
      (Operator.operator?_kind _) hl hr here.first here.second
    rw [Operator.node, Expr.bare, Expr.bare, same, same']
  | unary span op operand => exact complete_unary (below List.mem_cons_self).1 here
  | assign span target value =>
    obtain ⟨ht, hv⟩ := both rfl
    exact complete_assign ht hv here
  | call span target args =>
    exact complete_call h (below List.mem_cons_self).1 fun e mem =>
      below (List.mem_cons_of_mem _ (List.mem_map_of_mem mem))
  | array span items => exact complete_array h fun e mem => below (List.mem_map_of_mem mem)
  | map span entries =>
    exact complete_map h fun entry mem =>
      ⟨below (List.mem_append_left _ (List.mem_map_of_mem mem)),
        (below (List.mem_append_right _ (List.mem_map_of_mem mem))).1, here entry mem⟩
  | group span inner => exact complete_group h (below List.mem_cons_self).1
  | index span target position =>
    obtain ⟨ht, hp⟩ := both rfl
    exact complete_index h ht hp
  | field span target x => exact complete_field h (below List.mem_cons_self).1
  | lambda span params body yields =>
    exact complete_lambda h fun s mem => ih _ (List.mem_map_of_mem mem)

end Parse

end LayerScript
