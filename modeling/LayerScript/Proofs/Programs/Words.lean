import LayerScript.Proofs.Tokens.Spacing

/-!
# Words of canonical programs

Every word of a canonical program is a token of the grammar, and the first words of an expression
say what it is not: no end of a list, no statement with a keyword in front, no key of a map.
-/

namespace LayerScript

/-! ## Every word is a token -/

section

variable (style : Style)

theorem Style.slice_of_ne {word : Token} (h : word.kind ≠ .string) :
    style.slice word = word.text.toList :=
  if_neg h

theorem spelled_mark (kind : TokenKind) (h : kind ∈ marks.map (·.2)) :
    style.Spelled (.mark kind) := by
  have table : ∀ m ∈ marks, m.2.text.toList = m.1 ∧ m.2 ≠ .string := by
    decide
  obtain ⟨m, mem, rfl⟩ := List.mem_map.1 h
  refine ⟨?_, rfl⟩
  rw [style.slice_of_ne (table m mem).2]
  change Spells m.2 m.2.text.toList m.2.text.toList
  rw [(table m mem).1]
  exact .mark mem

theorem spells_of_word {x : String} {c : Char} {cs : List Char} (split : x.toList = c :: cs)
    (hc : startsWord c) (hcs : cs.all continuesWord) :
    Spells (wordKind x.toList) x.toList x.toList := by
  rw [split]
  exact .word hc (List.all_eq_true.1 hcs)

theorem spelled_keyword (k : Keyword) : style.Spelled (.keyword k) := by
  have table : ∀ k ∈ Keyword.all, wordKind k.text.toList = .keyword k ∧
      (k.text.toList.head?.any startsWord && k.text.toList.tail.all continuesWord) = true := by
    decide
  obtain ⟨kind, letters⟩ := table k (by cases k <;> decide)
  rw [Bool.and_eq_true] at letters
  cases split : k.text.toList with
  | nil => simp [split] at letters
  | cons c cs =>
    rw [split] at letters
    refine ⟨?_, rfl⟩
    rw [style.slice_of_ne (show TokenKind.keyword k ≠ .string by simp)]
    change Spells (.keyword k) k.text.toList k.text.toList
    rw [← kind]
    exact spells_of_word split letters.1 letters.2

theorem spelled_name {x : String} (h : isIdentifier x) : style.Spelled (.name x) := by
  refine ⟨?_, rfl⟩
  rw [style.slice_of_ne (show TokenKind.identifier ≠ .string by simp)]
  exact spells_of_isIdentifier h

theorem spelled_numeral {digits : List Char} (h : Numeral digits) :
    style.Spelled (.numeral digits) := by
  refine ⟨?_, rfl⟩
  rw [style.slice_of_ne (show TokenKind.number ≠ .string by simp)]
  change Spells .number (String.ofList digits).toList (String.ofList digits).toList
  rw [String.toList_ofList]
  exact .number h

theorem spelled_string (s : String) : style.Spelled (.string s) :=
  ⟨.string (by decide) (style.writing s), rfl⟩

def Style.AllSpelled (words : List Token) : Prop :=
  ∀ word ∈ words, style.Spelled word

variable {style}

@[simp]
theorem allSpelled_nil : style.AllSpelled [] :=
  nofun

@[simp]
theorem allSpelled_cons {word : Token} {words : List Token} :
    style.AllSpelled (word :: words) ↔ style.Spelled word ∧ style.AllSpelled words :=
  List.forall_mem_cons

@[simp]
theorem allSpelled_append {words words' : List Token} :
    style.AllSpelled (words ++ words') ↔ style.AllSpelled words ∧ style.AllSpelled words' :=
  List.forall_mem_append

theorem allSpelled_braces {words : List Token} (h : style.AllSpelled words) :
    style.AllSpelled (Token.braces words) := by
  simp [Token.braces, h, spelled_mark style .braceOpen (by decide),
    spelled_mark style .braceClose (by decide)]

/-- A number and its sign, which is the first of two words. -/
theorem allSpelled_literal {value : Literal} (h : Pattern.Canonical (.literal value)) :
    style.AllSpelled (value.words style) := by
  have minus : style.Spelled (.mark .minus) := spelled_mark style _ (by decide)
  have int (n : Nat) : style.Spelled (.numeral (Decimal.natural n)) :=
    spelled_numeral style (Decimal.numeral_natural n)
  cases value with
  | none => simpa [Literal.words] using spelled_keyword style _
  | bool b => cases b <;> simpa [Literal.words] using spelled_keyword style _
  | int n =>
    rw [Literal.words]
    split <;> simp [minus, int]
  | float x =>
    rw [Literal.words]
    split
    · next unsigned => simpa using spelled_numeral style (style.numeral unsigned)
    · next signed => simpa [minus] using spelled_numeral style (style.numeral (.neg h signed))
  | text s => simpa [Literal.words] using spelled_string style s

theorem allSpelled_commas {items : List (List Token)}
    (h : ∀ words ∈ items, style.AllSpelled words) : style.AllSpelled (Token.commas items) := by
  induction items using Token.commas.induct with
  | case1 => exact allSpelled_nil
  | case2 words => exact h words List.mem_cons_self
  | case3 words items many ih =>
    rw [Token.commas]
    · simp [h words List.mem_cons_self, spelled_mark style .comma (by decide),
        ih fun ws mem => h ws (List.mem_cons_of_mem words mem)]
    · exact many

theorem allSpelled_params {params : List Param} (h : Param.Canonical params) :
    style.AllSpelled (Param.words params) := by
  refine allSpelled_commas fun words mem => ?_
  obtain ⟨p, hp, rfl⟩ := List.mem_map.1 mem
  simpa using spelled_name style (h.named p hp)

theorem allSpelled_bars {params : List Param} (h : Param.Canonical params) :
    style.AllSpelled (Param.bars params) := by
  unfold Param.bars
  split
  · simpa using spelled_mark style .orOr (by decide)
  · simpa [spelled_mark style .pipe (by decide)] using allSpelled_params h

mutual

theorem Pattern.Canonical.allSpelled {pattern : Pattern} (h : pattern.Canonical) :
    style.AllSpelled (pattern.words style) := by
  cases pattern with
  | wildcard => simpa [Pattern.words] using spelled_name style (x := "_") (by decide)
  | literal value =>
    rw [Pattern.words]
    exact allSpelled_literal h
  | name x =>
    rw [Pattern.Canonical] at h
    simpa [Pattern.words] using spelled_name style h.1
  | tuple parts =>
    rw [Pattern.Canonical] at h
    simpa [Pattern.words, spelled_mark style .parenOpen (by decide),
      spelled_mark style .parenClose (by decide)] using allSpelled_commas h.allSpelled

theorem Pattern.AllCanonical.allSpelled {parts : List Pattern} (h : Pattern.AllCanonical parts) :
    ∀ words ∈ Pattern.wordsOfParts style parts, style.AllSpelled words := by
  cases parts with
  | nil => simp [Pattern.wordsOfParts]
  | cons part parts =>
    rw [Pattern.AllCanonical] at h
    rw [Pattern.wordsOfParts, List.forall_mem_cons]
    exact ⟨h.1.allSpelled, h.2.allSpelled⟩

end

/-! ### Lists of nodes -/

section

variable (style)

theorem Expr.wordsOfItems_eq_map (es : List Expr) :
    Expr.wordsOfItems style es = es.map (·.words style) := by
  induction es with
  | nil => rfl
  | cons e es ih => rw [Expr.wordsOfItems, ih, List.map_cons]

theorem Expr.wordsOfEntries_eq_map (entries : List (Expr × Expr)) :
    Expr.wordsOfEntries style entries =
      entries.map fun entry => entry.1.words style ++ .mark .colon :: entry.2.words style := by
  induction entries with
  | nil => rfl
  | cons entry entries ih => rw [Expr.wordsOfEntries, ih, List.map_cons]

theorem Stmt.wordsAll_eq_flatMap (body : List Stmt) :
    Stmt.wordsAll style body = body.flatMap (·.words style) := by
  induction body with
  | nil => rfl
  | cons s body ih => rw [Stmt.wordsAll, ih, List.flatMap_cons]

theorem Arm.wordsAll_eq_flatMap (arms : List Arm) :
    Arm.wordsAll style arms = arms.flatMap (·.words style) := by
  induction arms with
  | nil => rfl
  | cons a arms ih => rw [Arm.wordsAll, ih, List.flatMap_cons]

end

/-- The words of a node. -/
def Node.words (style : Style) : Node → List Token
  | .expr e => e.words style
  | .stmt s => s.words style
  | .arm a => a.words style

theorem Literal.Plain.canonical {value : Literal} (h : value.Plain) :
    Pattern.Canonical (.literal value) := by
  cases value with
  | int n =>
    rw [Pattern.Canonical]
    rintro rfl
    exact absurd (show 0 ≤ Int64.minValue.toInt from h) (by decide)
  | float x => exact Decimal.IsUnsigned.number h
  | _ => exact trivial

theorem allSpelled_body {body : List Stmt}
    (h : ∀ node ∈ body.map Node.stmt, style.AllSpelled (node.words style)) :
    style.AllSpelled (Token.braces (Stmt.wordsAll style body)) := by
  rw [Stmt.wordsAll_eq_flatMap]
  refine allSpelled_braces fun word mem => ?_
  obtain ⟨s, hs, hw⟩ := List.mem_flatMap.1 mem
  exact h _ (List.mem_map_of_mem hs) word hw

theorem allSpelled_expr {e : Expr} (here : (Node.expr e).Canonical)
    (ih : ∀ child ∈ e.children, style.AllSpelled (child.words style)) :
    style.AllSpelled (e.words style) := by
  have items {es : List Expr} (h : ∀ node ∈ es.map Node.expr, style.AllSpelled (node.words style)) :
      style.AllSpelled (Token.commas (Expr.wordsOfItems style es)) := by
    rw [Expr.wordsOfItems_eq_map]
    refine allSpelled_commas fun words mem => ?_
    obtain ⟨e, he, rfl⟩ := List.mem_map.1 mem
    exact h _ (List.mem_map_of_mem he)
  cases e with
  | literal span value => exact allSpelled_literal (Literal.Plain.canonical here)
  | name span x => simpa [Expr.words] using spelled_name style here
  | this span => simpa [Expr.words] using spelled_keyword style _
  | binary span op left right =>
    have mark : style.Spelled (.mark (Operator.binary op).kind) := by
      rcases op with (_ | _ | _ | _ | _) | (_ | _ | _ | _) | _ | _ <;>
        exact spelled_mark style _ (by decide)
    simpa [Expr.words, Expr.children, Node.words, mark] using ih
  | logical span op left right =>
    have mark : style.Spelled (.mark (Operator.logical op).kind) := by
      cases op <;> exact spelled_mark style _ (by decide)
    simpa [Expr.words, Expr.children, Node.words, mark] using ih
  | unary span op operand =>
    have mark : style.Spelled (.mark op.kind) := by
      cases op <;> exact spelled_mark style _ (by decide)
    simpa [Expr.words, Expr.children, Node.words, mark] using ih
  | assign span target value =>
    simpa (disch := decide) [Expr.words, Expr.children, Node.words, spelled_mark] using ih
  | call span callee args =>
    rw [Expr.children, List.forall_mem_cons] at ih
    simpa (disch := decide) [Expr.words, spelled_mark] using ⟨ih.1, items ih.2⟩
  | array span es =>
    simpa (disch := decide) [Expr.words, spelled_mark] using items ih
  | map span entries =>
    rw [Expr.children, List.forall_mem_append] at ih
    rw [Expr.words, Expr.wordsOfEntries_eq_map]
    refine allSpelled_braces (allSpelled_commas fun words mem => ?_)
    obtain ⟨entry, he, rfl⟩ := List.mem_map.1 mem
    have key := ih.1 _ (List.mem_map_of_mem he)
    have value := ih.2 _ (List.mem_map_of_mem he)
    simpa (disch := decide) [spelled_mark] using ⟨key, value⟩
  | group span inner =>
    simpa (disch := decide) [Expr.words, Expr.children, Node.words, spelled_mark] using ih
  | index span target position =>
    simpa (disch := decide) [Expr.words, Expr.children, Node.words, spelled_mark] using ih
  | field span target x =>
    simpa (disch := decide) [Expr.words, Expr.children, Node.words, spelled_mark,
      spelled_name style here.2] using ih
  | lambda span params body yields =>
    have bars : style.AllSpelled (Param.bars params) := allSpelled_bars here.1
    cases yields with
    | false =>
      rw [Expr.words, allSpelled_append]
      exact ⟨bars, allSpelled_body ih⟩
    | true =>
      obtain ⟨span', e, rfl⟩ := here.2 rfl
      rw [Expr.words, allSpelled_append]
      refine ⟨bars, ?_⟩
      have result := ih (.stmt (.expr span' e)) (by simp [Expr.children])
      rw [Node.words, Stmt.words, allSpelled_append] at result
      exact result.1

theorem allSpelled_stmt {s : Stmt} (here : (Node.stmt s).Canonical)
    (ih : ∀ child ∈ s.children, style.AllSpelled (child.words style)) :
    style.AllSpelled (s.words style) := by
  have keyword := spelled_keyword style
  have semicolon : style.Spelled (.mark .semicolon) := spelled_mark style _ (by decide)
  cases s with
  | varDecl span x value =>
    have name := spelled_name style (x := x) here
    cases value with
    | none => simp [Stmt.words, keyword, name, semicolon]
    | some e =>
      simpa (disch := decide) [Stmt.words, Stmt.children, Node.words, keyword, name, spelled_mark]
        using ih
  | constDecl span x e =>
    simpa (disch := decide) [Stmt.words, Stmt.children, Node.words, keyword, spelled_mark,
      spelled_name style (x := x) here] using ih
  | fnDecl span x params body =>
    simpa (disch := decide) [Stmt.words, keyword, spelled_mark, spelled_name style here.1,
      allSpelled_params here.2] using allSpelled_body ih
  | expr span e =>
    simpa [Stmt.words, Stmt.children, Node.words, semicolon] using ih
  | block span body => exact allSpelled_body ih
  | ifElse span condition yes no =>
    rw [Stmt.children, List.forall_mem_cons, List.forall_mem_append] at ih
    obtain ⟨test, hy, hn⟩ := ih
    cases no with
    | none => simpa [Stmt.words, keyword] using ⟨test, allSpelled_body hy⟩
    | some no =>
      simpa [Stmt.words, keyword] using ⟨test, allSpelled_body hy, allSpelled_body hn⟩
  | whileLoop span condition body =>
    rw [Stmt.children, List.forall_mem_cons] at ih
    simpa [Stmt.words, keyword] using ⟨ih.1, allSpelled_body ih.2⟩
  | loop span body => simpa [Stmt.words, keyword] using allSpelled_body ih
  | forLoop span x iterable body =>
    rw [Stmt.children, List.forall_mem_cons] at ih
    simpa [Stmt.words, keyword, spelled_name style (x := x) here] using
      ⟨ih.1, allSpelled_body ih.2⟩
  | when span subject arms =>
    rw [Stmt.children, List.forall_mem_cons] at ih
    have all : style.AllSpelled (Arm.wordsAll style arms) := by
      rw [Arm.wordsAll_eq_flatMap]
      intro word mem
      obtain ⟨a, ha, hw⟩ := List.mem_flatMap.1 mem
      exact ih.2 _ (List.mem_map_of_mem ha) word hw
    simpa [Stmt.words, keyword] using ⟨ih.1, allSpelled_braces all⟩
  | «return» span value =>
    cases value with
    | none => simp [Stmt.words, keyword, semicolon]
    | some e => simpa [Stmt.words, Stmt.children, Node.words, keyword, semicolon] using ih
  | «break» span value =>
    cases value with
    | none => simp [Stmt.words, keyword, semicolon]
    | some e => simpa [Stmt.words, Stmt.children, Node.words, keyword, semicolon] using ih
  | «continue» span => simp [Stmt.words, keyword, semicolon]

/-- Every word of a canonical node is a token of the grammar. -/
theorem allSpelled_words {node : Node} (h : node.Each Node.Canonical) :
    style.AllSpelled (node.words style) := by
  induction h with
  | @intro node here _ ih =>
    cases node with
    | expr e => exact allSpelled_expr here ih
    | stmt s => exact allSpelled_stmt here ih
    | arm a =>
      obtain ⟨span, pattern, body⟩ := a
      simpa (disch := decide) [Node.words, Arm.words, spelled_mark] using
        ⟨Pattern.Canonical.allSpelled here, allSpelled_body ih⟩

theorem Program.Canonical.allSpelled {p : Program} (h : p.Canonical) :
    style.AllSpelled (p.words style) := by
  have body : style.AllSpelled (Stmt.wordsAll style p.body) := by
    rw [Stmt.wordsAll_eq_flatMap]
    intro word mem
    obtain ⟨s, hs, hw⟩ := List.mem_flatMap.1 mem
    exact allSpelled_words (h.nodes s hs) word hw
  rw [Program.words, allSpelled_append]
  refine ⟨?_, body⟩
  split
  · simp [spelled_string, spelled_mark style .semicolon (by decide)]
  · exact allSpelled_nil

/-! ## First words -/

/-- The kinds of tokens that an expression can begin with. -/
def TokenKind.opensExpr : TokenKind → Bool
  | .identifier | .number | .string => true
  | .keyword .trueWord | .keyword .falseWord | .keyword .noneWord | .keyword .thisWord => true
  | .parenOpen | .bracketOpen | .braceOpen | .pipe | .orOr | .minus | .bang => true
  | _ => false

theorem Expr.opensExpr_opener (e : Expr) : e.opener.opensExpr := by
  fun_induction Expr.opener e with
  | case15 span op => cases op <;> rfl
  | case19 => rfl
  | _ => first | rfl | assumption

/-- A call, an element, a field and what they are taken of begin with no sign. -/
theorem Expr.opener_of_rank {e : Expr} (h : (Node.expr e).Each Node.Canonical) (rank : 8 ≤ e.rank) :
    e.opener ≠ .minus ∧ e.opener ≠ .bang := by
  generalize eq : Node.expr e = node at h
  induction h generalizing e with
  | @intro node here _ ih =>
    subst eq
    cases e with
    | literal span value =>
      rcases value with _ | (_ | _) | _ | _ | _ <;> simp [Expr.opener]
    | call span callee args =>
      exact ih (.expr callee) (by simp [Node.children, Expr.children]) (e := callee) here rfl
    | index span target position =>
      exact ih (.expr target) (by simp [Node.children, Expr.children]) (e := target) here rfl
    | field span target x =>
      exact ih (.expr target) (by simp [Node.children, Expr.children]) (e := target) here.1 rfl
    | binary span op left right =>
      have := (Tier.level_bounds (Operator.binary op).tier).2
      exact absurd (Nat.le_trans rank this) (by decide)
    | logical span op left right =>
      have := (Tier.level_bounds (Operator.logical op).tier).2
      exact absurd (Nat.le_trans rank this) (by decide)
    | unary => exact absurd rank (show ¬ 8 ≤ 7 by decide)
    | assign => exact absurd rank (show ¬ 8 ≤ 0 by decide)
    | lambda => exact absurd rank (show ¬ 8 ≤ 0 by decide)
    | _ => simp [Expr.opener]

/-- Words that begin with a token of a kind. If this token could be a key, it is the only one or
something other than a colon stands behind it. -/
def Opens (kind : TokenKind) (alone : Prop) (words : List Token) : Prop :=
  ∃ w ws, words = w :: ws ∧ w.kind = kind ∧
    (w.IsBareKey → ws = [] ∧ alone ∨ ∃ v vs, ws = v :: vs ∧ v.kind ≠ .colon)

theorem Opens.append {kind : TokenKind} {alone alone' : Prop} {words us : List Token} {u : Token}
    (h : Opens kind alone words) (hu : u.kind ≠ .colon) :
    Opens kind alone' (words ++ u :: us) := by
  obtain ⟨w, ws, rfl, hk, key⟩ := h
  refine ⟨w, ws ++ u :: us, rfl, hk, fun bare => .inr ?_⟩
  rcases key bare with ⟨rfl, -⟩ | ⟨v, vs, rfl, hv⟩
  · exact ⟨u, us, rfl, hu⟩
  · exact ⟨v, vs ++ u :: us, rfl, hv⟩

/-- More words do not change how they begin. -/
theorem Opens.more {kind : TokenKind} {alone : Prop} {words : List Token}
    (h : Opens kind alone words) (vs : List Token) :
    ∃ w ws, words ++ vs = w :: ws ∧ w.kind = kind := by
  obtain ⟨w, ws, rfl, hk, -⟩ := h
  exact ⟨w, ws ++ vs, rfl, hk⟩

theorem Operator.kind_ne_colon (op : Operator) : op.kind ≠ .colon := by
  rcases op with (_ | _) | (_ | _ | _ | _ | _) | (_ | _ | _ | _) | _ | _ <;> decide

/-- How the words of a canonical expression begin. -/
theorem opens_words (style : Style) {e : Expr} (h : (Node.expr e).Each Node.Canonical) :
    Opens e.opener e.isWord (e.words style) := by
  have other (kind : TokenKind) (text : String) (ws : List Token) {alone : Prop}
      (plain : kind ≠ .identifier ∧ ∀ k, kind ≠ .keyword k) :
      Opens kind alone (⟨kind, text, default⟩ :: ws) :=
    ⟨_, ws, rfl, rfl, fun
      | .inl name => absurd name plain.1
      | .inr ⟨k, word⟩ => absurd word (plain.2 k)⟩
  generalize eq : Node.expr e = node at h
  induction h generalizing e with
  | @intro node here _ ih =>
    subst eq
    have first {e' : Expr} (mem : .expr e' ∈ e.children) :
        Opens e'.opener e'.isWord (e'.words style) := ih _ mem rfl
    cases e with
    | literal span value =>
      cases value with
      | none => exact ⟨_, _, rfl, rfl, fun _ => .inl ⟨rfl, rfl⟩⟩
      | bool b => cases b <;> exact ⟨_, _, rfl, rfl, fun _ => .inl ⟨rfl, rfl⟩⟩
      | int n =>
        rw [Expr.words, Literal.words, if_neg (Int.not_lt.2 here)]
        exact other .number _ [] (by simp)
      | float x =>
        have unsigned : Decimal.IsUnsigned x := here
        rw [Expr.words, Literal.words, if_pos unsigned]
        exact other .number _ [] (by simp)
      | text s => exact other .string _ [] (by simp)
    | name span x => exact ⟨_, _, rfl, rfl, fun _ => .inl ⟨rfl, rfl⟩⟩
    | this span => exact ⟨_, _, rfl, rfl, fun _ => .inl ⟨rfl, rfl⟩⟩
    | binary span op left right =>
      rw [Expr.words]
      exact (first (by simp [Expr.children])).append (Operator.kind_ne_colon _)
    | logical span op left right =>
      rw [Expr.words]
      exact (first (by simp [Expr.children])).append (Operator.kind_ne_colon _)
    | unary span op operand =>
      rw [Expr.words]
      cases op with
      | negate => exact other .minus _ _ (by simp)
      | not => exact other .bang _ _ (by simp)
    | assign span target value =>
      rw [Expr.words]
      exact (first (by simp [Expr.children])).append (by simp [Token.mark])
    | call span callee args =>
      rw [Expr.words]
      exact (first (by simp [Expr.children])).append (by simp [Token.mark])
    | index span target position =>
      rw [Expr.words]
      exact (first (by simp [Expr.children])).append (by simp [Token.mark])
    | field span target x =>
      rw [Expr.words]
      exact (first (by simp [Expr.children])).append (by simp [Token.mark])
    | array => exact other .bracketOpen _ _ (by simp)
    | map => exact other .braceOpen _ _ (by simp)
    | group => exact other .parenOpen _ _ (by simp)
    | lambda span params body yields =>
      have bars (ws : List Token) :
          Opens (Expr.lambda span params body yields).opener
            (Expr.lambda span params body yields).isWord (Param.bars params ++ ws) := by
        unfold Param.bars Expr.opener
        split
        · exact other .orOr _ _ (by simp)
        · exact other .pipe _ _ (by simp)
      cases yields <;> exact bars _

/-- A statement begins with something, which ends no block and continues no conditional. -/
theorem head_words_stmt (style : Style) {s : Stmt} (h : (Node.stmt s).Each Node.Canonical) :
    ∃ w ws, s.words style = w :: ws ∧ w.kind ≠ .braceClose ∧ w.kind ≠ .keyword .elseWord := by
  have mark (kind : TokenKind) (ws : List Token) (other : kind ≠ .braceClose)
      (other' : kind ≠ .keyword .elseWord) : ∃ w vs, Token.mark kind :: ws = w :: vs ∧
        w.kind ≠ .braceClose ∧ w.kind ≠ .keyword .elseWord :=
    ⟨_, ws, rfl, other, other'⟩
  cases s with
  | expr span e =>
    have below : .expr e ∈ (Node.stmt (.expr span e)).children := by
      simp [Node.children, Stmt.children]
    obtain ⟨w, ws, split, hk, -⟩ := opens_words style (h.child below)
    have opens := e.opensExpr_opener
    rw [← hk] at opens
    refine ⟨w, ws ++ [Token.mark .semicolon], by rw [Stmt.words, split]; rfl, ?_, ?_⟩
    all_goals
      intro eq
      rw [eq] at opens
      exact absurd opens (by decide)
  | varDecl span x value => cases value <;> rw [Stmt.words] <;> exact mark _ _ (by simp) (by simp)
  | ifElse span condition yes no =>
    cases no <;> rw [Stmt.words] <;> exact mark _ _ (by simp) (by simp)
  | «return» span value => cases value <;> rw [Stmt.words] <;> exact mark _ _ (by simp) (by simp)
  | «break» span value => cases value <;> rw [Stmt.words] <;> exact mark _ _ (by simp) (by simp)
  | _ =>
    rw [Stmt.words]
    exact mark _ _ (by simp) (by simp)

/-- A pattern begins with something, which ends no tuple and no list of arms. -/
theorem head_words_pattern (style : Style) (pattern : Pattern) :
    ∃ w ws, pattern.words style = w :: ws ∧
      w.kind ≠ .parenClose ∧ w.kind ≠ .braceClose ∧ w.kind ≠ .keyword .elseWord := by
  have word (w : Token) (ws : List Token) (h : w.kind ≠ .parenClose ∧ w.kind ≠ .braceClose ∧
      w.kind ≠ .keyword .elseWord) : ∃ v vs, w :: ws = v :: vs ∧
        v.kind ≠ .parenClose ∧ v.kind ≠ .braceClose ∧ v.kind ≠ .keyword .elseWord :=
    ⟨w, ws, rfl, h⟩
  cases pattern with
  | literal value =>
    rw [Pattern.words]
    cases value with
    | none => exact word _ _ (by decide)
    | bool b => cases b <;> exact word _ _ (by decide)
    | int n =>
      rw [Literal.words]
      split <;> exact word _ _ (by simp [Token.mark, Token.numeral])
    | float x =>
      rw [Literal.words]
      split <;> exact word _ _ (by simp [Token.mark, Token.numeral])
    | text s => exact word _ _ (by simp [Token.string])
  | wildcard => exact word _ _ (by simp [Token.name])
  | name x => exact word _ _ (by simp [Token.name])
  | tuple parts => exact word _ _ (by simp [Token.mark])

end

end LayerScript
