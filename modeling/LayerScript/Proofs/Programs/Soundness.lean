import LayerScript.Program.Parser
import LayerScript.Proofs.Programs.Levels
import LayerScript.Proofs.Programs.Written

/-!
# What the parser reads is what is written

Every function of the grammar takes tokens that are a way to write the tree it returns, and the
tree has its operands at the levels that its operators ask for. The token behind an expression is
part of the argument: an expression that ends in a lambda with an expression as its body stands in
front of no token that could continue it.
-/

namespace LayerScript

/-- The level of what a token behind an expression makes of it, if the token can continue it. -/
def TokenKind.continues : TokenKind → Option Nat
  | .assign => some 0
  | .orOr => some 1
  | .andAnd => some 2
  | .equalEqual | .bangEqual => some 3
  | .less | .lessEqual | .greater | .greaterEqual => some 4
  | .plus | .minus => some 5
  | .star | .slash | .percent => some 6
  | .parenOpen | .bracketOpen | .dot => some 8
  | _ => none

/-- The next token continues an expression below a level at most. -/
def StopsAt (level : Nat) (tokens : List Token) : Prop :=
  ∀ t ∈ tokens.head?, ∀ n, t.kind.continues = some n → n < level

theorem StopsAt.mono {m n : Nat} {tokens : List Token} (h : StopsAt m tokens) (le : m ≤ n) :
    StopsAt n tokens :=
  fun t mem k hk => Nat.lt_of_lt_of_le (h t mem k hk) le

theorem StopsAt.nine (tokens : List Token) : StopsAt 9 tokens := by
  intro t _ n hn
  cases hk : t.kind <;> simp_all [TokenKind.continues] <;> omega

/-- Without the sign of a call, an element or a field only operators go on. -/
theorem StopsAt.of_no_suffix {tokens : List Token} (h : StopsAt 9 tokens)
    (paren : ∀ t ∈ tokens.head?, t.kind ≠ .parenOpen)
    (bracket : ∀ t ∈ tokens.head?, t.kind ≠ .bracketOpen)
    (dot : ∀ t ∈ tokens.head?, t.kind ≠ .dot) : StopsAt 7 tokens := by
  intro t mem n hn
  have := h t mem n hn
  have := paren t mem
  have := bracket t mem
  have := dot t mem
  cases hk : t.kind <;> simp_all [TokenKind.continues] <;> omega

/-- Without the tokens of one level the level does not go on either. -/
theorem StopsAt.step {n : Nat} {tokens : List Token} (h : StopsAt (n + 1) tokens)
    (other : ∀ t ∈ tokens.head?, t.kind.continues ≠ some n) : StopsAt n tokens := by
  intro t mem k hk
  have := h t mem k hk
  have : k ≠ n := by
    rintro rfl
    exact other t mem hk
  omega

theorem Tier.operator?_isSome_iff (tier : Tier) (kind : TokenKind) :
    (tier.operator? kind).isSome ↔ kind.continues = some tier.level := by
  cases tier <;> cases kind <;> simp [Tier.operator?, TokenKind.continues, Tier.level]

theorem TokenKind.eq_assign_of_continues {kind : TokenKind} (h : kind.continues = some 0) :
    kind = .assign := by
  cases kind <;> simp_all [TokenKind.continues]

namespace Parse

variable {α β : Type} {p : Parse α} {f : α → Parse β} {tokens : List Token}

/-- Whatever `p` reads from the tokens, it reads from the front of them. -/
def Uses (p : Parse α) (tokens : List Token)
    (Q : (used : List Token) → α → (rest : List Token) → Prop) : Prop :=
  ∀ a rest, p tokens = .ok (a, rest) → ∃ used, tokens = used ++ rest ∧ Q used a rest

namespace Uses

variable {Q : List Token → β → List Token → Prop}

theorem pure {b : β} (h : Q [] b tokens) : Uses (Pure.pure b) tokens Q := by
  rintro b rest ⟨⟩
  exact ⟨[], rfl, h⟩

theorem fault (f : GrammarFault) : Uses (Parse.fault f) tokens Q :=
  fun _ _ h => nomatch h

theorem mono {P : List Token → α → List Token → Prop} {Q : List Token → α → List Token → Prop}
    (h : Uses p tokens P) (imp : ∀ used a rest, P used a rest → Q used a rest) :
    Uses p tokens Q := by
  intro a rest read
  obtain ⟨used, split, hp⟩ := h a rest read
  exact ⟨used, split, imp used a rest hp⟩

theorem bind {P : List Token → α → List Token → Prop} (hp : Uses p tokens P)
    (hf : ∀ used a rest, P used a rest →
      Uses (f a) rest fun used' b rest' => Q (used ++ used') b rest') :
    Uses (p >>= f) tokens Q := by
  intro b rest h
  change (p tokens >>= fun r => f r.1 r.2) = .ok (b, rest) at h
  cases hr : p tokens with
  | error fault =>
    rw [hr] at h
    exact nomatch h
  | ok r =>
    rw [hr] at h
    obtain ⟨used, split, ha⟩ := hp r.1 r.2 hr
    obtain ⟨used', split', hb⟩ := hf used r.1 r.2 ha b rest h
    exact ⟨used ++ used', by rw [split, split', List.append_assoc], hb⟩

/-- What is read last decides what is left. -/
theorem map {P : List Token → α → List Token → Prop} {g : α → β} (hp : Uses p tokens P)
    (hg : ∀ used a rest, P used a rest → Q used (g a) rest) :
    Uses (p >>= fun a => Pure.pure (g a)) tokens Q :=
  hp.bind fun used a rest h => .pure (by simpa only [List.append_nil] using hg used a rest h)

theorem mapped {P : List Token → α → List Token → Prop} {g : α → β} (hp : Uses p tokens P)
    (hg : ∀ used a rest, P used a rest → Q used (g a) rest) : Uses (g <$> p) tokens Q := by
  rw [map_eq_pure_bind]
  exact hp.map hg

/-! ### Single tokens -/

theorem nextKind {f : Option TokenKind → Parse β}
    (h : Uses (f (tokens.head?.map (·.kind))) tokens Q) :
    Uses (Parse.nextKind >>= f) tokens Q :=
  h

theorem sees {kind : TokenKind} {f : Bool → Parse β} (yes : Uses (f true) tokens Q)
    (no : (∀ t ∈ tokens.head?, t.kind ≠ kind) → Uses (f false) tokens Q) :
    Uses (Parse.sees kind >>= f) tokens Q := by
  by_cases h : tokens.head?.map (·.kind) = some kind
  · have : (Parse.sees kind >>= f) tokens = f true tokens := by
      change f (decide (tokens.head?.map (·.kind) = some kind)) tokens = _
      rw [decide_eq_true h]
    exact fun b rest read => yes b rest (this ▸ read)
  · have : (Parse.sees kind >>= f) tokens = f false tokens := by
      change f (decide (tokens.head?.map (·.kind) = some kind)) tokens = _
      rw [decide_eq_false h]
    refine fun b rest read => no (fun t mem eq => h ?_) b rest (this ▸ read)
    rw [Option.mem_def.1 mem, Option.map_some, eq]

theorem accept {kind : TokenKind} {f : Option Token → Parse β}
    (yes : ∀ t rest, tokens = t :: rest → t.kind = kind →
      Uses (f (some t)) rest fun used => Q (t :: used))
    (no : (∀ t ∈ tokens.head?, t.kind ≠ kind) → Uses (f none) tokens Q) :
    Uses (Parse.accept kind >>= f) tokens Q := by
  intro b rest h
  cases tokens with
  | nil => exact no (by simp) b rest h
  | cons t behind =>
    by_cases hk : t.kind = kind
    · have : (Parse.accept kind >>= f) (t :: behind) = f (some t) behind := by
        change (Parse.accept kind (t :: behind) >>= fun r => f r.1 r.2) = _
        rw [Parse.accept, if_pos hk]
        rfl
      obtain ⟨used, rfl, hq⟩ := yes t behind rfl hk b rest (this ▸ h)
      exact ⟨t :: used, rfl, hq⟩
    · have : (Parse.accept kind >>= f) (t :: behind) = f none (t :: behind) := by
        change (Parse.accept kind (t :: behind) >>= fun r => f r.1 r.2) = _
        rw [Parse.accept, if_neg hk]
        rfl
      exact no (by simpa using hk) b rest (this ▸ h)

theorem expect {kind : TokenKind} {what : Expectation} {f : Token → Parse β}
    (h : ∀ t rest, t.kind = kind → Uses (f t) rest fun used => Q (t :: used)) :
    Uses (Parse.expect kind what >>= f) tokens Q := by
  intro b rest read
  cases tokens with
  | nil => exact nomatch read
  | cons t behind =>
    by_cases hk : t.kind = kind
    · have : (Parse.expect kind what >>= f) (t :: behind) = f t behind := by
        change (Parse.expect kind what (t :: behind) >>= fun r => f r.1 r.2) = _
        rw [Parse.expect, if_pos hk]
        rfl
      obtain ⟨used, rfl, hq⟩ := h t behind hk b rest (this ▸ read)
      exact ⟨t :: used, rfl, hq⟩
    · have : (Parse.expect kind what >>= f) (t :: behind) = .error (.expected what (some t)) := by
        change (Parse.expect kind what (t :: behind) >>= fun r => f r.1 r.2) = _
        rw [Parse.expect, if_neg hk]
        rfl
      rw [this] at read
      exact nomatch read

theorem discard {f : Unit → Parse β} (h : Uses (p >>= fun _ => f ()) tokens Q) :
    Uses (Functor.discard p >>= f) tokens Q := by
  intro b rest read
  refine h b rest ?_
  rw [← read]
  change (p tokens >>= fun r => f () r.2) = ((p tokens >>= fun r => Except.ok ((), r.2)) >>= _)
  cases p tokens <;> rfl

theorem perhaps {kind : TokenKind} {f : Unit → Parse β}
    (h : ∀ ts rest, Perhaps kind ts → Uses (f ()) rest fun used => Q (ts ++ used)) :
    Uses (Functor.discard (Parse.accept kind) >>= f) tokens Q :=
  discard (accept (fun t rest _ hk => h [t] rest (.inr ⟨t, hk, rfl⟩)) fun _ =>
    h [] tokens (.inl rfl))

theorem operator {tier : Tier} {f : Option Operator → Parse β}
    (yes : ∀ t rest op, tokens = t :: rest → tier.operator? t.kind = some op →
      Uses (f (some op)) rest fun used => Q (t :: used))
    (no : (∀ t ∈ tokens.head?, t.kind.continues ≠ some tier.level) → Uses (f none) tokens Q) :
    Uses (Parse.operator tier >>= f) tokens Q := by
  intro b rest h
  cases tokens with
  | nil => exact no (by simp) b rest h
  | cons t behind =>
    change (Parse.operator tier (t :: behind) >>= fun r => f r.1 r.2) = _ at h
    rw [Parse.operator] at h
    cases hop : tier.operator? t.kind with
    | some op =>
      rw [hop] at h
      obtain ⟨used, rfl, hq⟩ := yes t behind op rfl hop b rest h
      exact ⟨t :: used, rfl, hq⟩
    | none =>
      rw [hop] at h
      refine no (fun t' mem eq => ?_) b rest h
      obtain rfl := Option.some.inj mem
      have := (tier.operator?_isSome_iff t.kind).2 eq
      simp [hop] at this

/-! ### Parts without recursion -/

theorem number (t : Token) : Uses (Parse.number t) tokens fun used v rest =>
    used = [] ∧ rest = tokens ∧ numberLiteral t.text = .ok v := by
  unfold Parse.number
  split
  · next v h => exact .pure ⟨rfl, rfl, h⟩
  · exact .fault _
  · exact .fault _

/-- The parameters already read stay, and at least one more is read. -/
theorem paramsFrom (fuel : Nat) (read : List Param) :
    Uses (Parse.paramsFrom fuel read) tokens fun used ps _ =>
      ∃ p more, ps = read ++ p :: more ∧ Params (p :: more) used := by
  induction fuel generalizing read tokens with
  | zero => exact .fault _
  | succ fuel ih =>
    unfold Parse.paramsFrom
    refine expect fun t rest ht => ?_
    split
    · exact bind (P := fun _ _ _ => False) (.fault _) fun _ _ _ never => never.elim
    · refine accept (fun comma rest _ hc => ?_) fun _ => ?_
      · refine mono (ih _) ?_
        rintro used ps rest ⟨p, more, rfl, h⟩
        exact ⟨t.param, p :: more, by simp [Token.param], .cons ht hc h⟩
      · exact .pure ⟨t.param, [], rfl, .last ht⟩

theorem params (fuel : Nat) (closing : TokenKind) :
    Uses (Parse.params fuel closing) tokens fun used ps _ => Params ps used := by
  unfold Parse.params
  refine sees (.pure .nil) fun _ => mono (paramsFrom fuel []) ?_
  rintro used ps rest ⟨p, more, rfl, h⟩
  exact h

theorem negated : Uses Parse.pattern.negated tokens fun used v _ =>
    ∃ t w, used = [t] ∧ t.kind = .number ∧ numberLiteral t.text = .ok w ∧ v = w.negated := by
  unfold Parse.pattern.negated
  refine expect fun t rest ht => (number t).bind ?_
  rintro _ v rest ⟨rfl, rfl, h⟩
  exact .pure ⟨t, v, rfl, ht, h, rfl⟩

section

variable {fuel : Nat}

theorem pattern_step (tuple : ∀ {tokens} (opening : Token), opening.kind = .parenOpen →
      Uses (Parse.tuple fuel) tokens fun used shape _ => shape.Written (opening :: used)) :
    Uses (Parse.pattern (fuel + 1)) tokens fun used shape _ => shape.Written used := by
  intro shape rest read
  unfold Parse.pattern at read
  split at read
  · exact nomatch read
  next t behind =>
  split at read
  · next kind =>
    split at read
    · next text =>
      cases read
      exact ⟨[t], rfl, .wildcard kind text⟩
    · next text =>
      cases read
      exact ⟨[t], rfl, .name kind text⟩
  · next kind =>
    obtain ⟨used, rfl, h⟩ := tuple t kind shape rest read
    exact ⟨t :: used, rfl, h⟩
  · next kind =>
    cases read
    exact ⟨[t], rfl, .literal (.true kind)⟩
  · next kind =>
    cases read
    exact ⟨[t], rfl, .literal (.false kind)⟩
  · next kind =>
    cases read
    exact ⟨[t], rfl, .literal (.none kind)⟩
  · next kind =>
    have reads : Uses (Pattern.literal <$> Parse.number t) behind
        fun used shape _ => shape.Written (t :: used) := by
      refine (number t).mapped ?_
      rintro _ v _ ⟨rfl, -, hv⟩
      exact .literal (.number kind hv)
    obtain ⟨used, rfl, h⟩ := reads shape rest read
    exact ⟨t :: used, rfl, h⟩
  · next kind =>
    have reads : Uses (Parse.pattern.negated >>= fun value => Pure.pure (Pattern.literal value))
        behind fun used shape _ => shape.Written (t :: used) := by
      refine negated.map ?_
      rintro _ v _ ⟨t', w, rfl, ht, hw, rfl⟩
      exact .negated kind ht hw
    obtain ⟨used, rfl, h⟩ := reads shape rest read
    exact ⟨t :: used, rfl, h⟩
  · next kind =>
    cases read
    exact ⟨[t], rfl, .literal (.text kind)⟩
  · exact nomatch read

theorem tuple_step {opening : Token} (ho : opening.kind = .parenOpen)
    (patternsFrom : ∀ {tokens}, Uses (Parse.patternsFrom fuel) tokens fun used parts _ =>
      ∃ part more, parts = part :: more ∧ Pattern.Parts (part :: more) used) :
    Uses (Parse.tuple (fuel + 1)) tokens fun used shape _ => shape.Written (opening :: used) := by
  unfold Parse.tuple
  have close (parts : List Pattern) (tokens ts : List Token) (h : Pattern.Parts parts ts) :
      Uses (do
        Functor.discard (Parse.expect .parenClose .tupleEnd)
        return Pattern.tuple parts) tokens
        fun used shape _ => shape.Written (opening :: (ts ++ used)) :=
    discard (expect fun t rest ht => .pure (.tuple ho h ht))
  refine sees (close [] tokens [] .nil) fun _ => patternsFrom.bind ?_
  rintro ts _ rest ⟨part, more, rfl, h⟩
  exact close (part :: more) rest ts h

theorem patternsFrom_step
    (pattern : Uses (Parse.pattern fuel) tokens fun used shape _ => shape.Written used)
    (patternsFrom : ∀ {tokens}, Uses (Parse.patternsFrom fuel) tokens fun used parts _ =>
      ∃ part more, parts = part :: more ∧ Pattern.Parts (part :: more) used) :
    Uses (Parse.patternsFrom (fuel + 1)) tokens fun used parts _ =>
      ∃ part more, parts = part :: more ∧ Pattern.Parts (part :: more) used := by
  unfold Parse.patternsFrom
  refine pattern.bind fun ts part rest hp => accept (fun comma rest _ hc => ?_) fun _ => ?_
  · refine patternsFrom.bind ?_
    rintro us _ rest ⟨next, more, rfl, h⟩
    exact .pure ⟨part, next :: more, rfl, by simpa using .cons hp hc h⟩
  · exact .pure ⟨part, [], rfl, by simpa using .last hp⟩

end

theorem patterns (fuel : Nat) :
    (∀ {tokens}, Uses (Parse.pattern fuel) tokens fun used shape _ => shape.Written used) ∧
    (∀ {tokens} (opening : Token), opening.kind = .parenOpen →
      Uses (Parse.tuple fuel) tokens fun used shape _ => shape.Written (opening :: used)) ∧
    ∀ {tokens}, Uses (Parse.patternsFrom fuel) tokens fun used parts _ =>
      ∃ part more, parts = part :: more ∧ Pattern.Parts (part :: more) used := by
  induction fuel with
  | zero =>
    unfold Parse.pattern Parse.tuple Parse.patternsFrom
    exact ⟨.fault _, fun _ _ => .fault _, .fault _⟩
  | succ fuel ih =>
    obtain ⟨pattern, tuple, patternsFrom⟩ := ih
    exact ⟨pattern_step tuple, fun opening ho => tuple_step ho patternsFrom,
      patternsFrom_step pattern patternsFrom⟩

theorem bareKey_eq (tokens : List Token) : Parse.bareKey tokens = .ok (none, tokens) ∨
    ∃ t rest, tokens = t :: rest ∧ t.IsBareKey ∧ Parse.bareKey tokens = .ok (some t, rest) := by
  unfold Parse.bareKey
  split
  · next t colon rest =>
    cases hk : t.kind with
    | identifier =>
      by_cases hc : colon.kind = .colon
      · exact .inr ⟨t, colon :: rest, rfl, .inl hk, by simp [hc]⟩
      · exact .inl (by simp [hc])
    | keyword k =>
      by_cases hc : colon.kind = .colon
      · exact .inr ⟨t, colon :: rest, rfl, .inr ⟨k, hk⟩, by simp [hc]⟩
      · exact .inl (by simp [hc])
    | _ => exact .inl (by simp)
  · exact .inl rfl

theorem bareKey {f : Option Token → Parse β}
    (yes : ∀ t rest, t.IsBareKey → Uses (f (some t)) rest fun used => Q (t :: used))
    (no : Uses (f none) tokens Q) : Uses (Parse.bareKey >>= f) tokens Q := by
  intro b rest h
  change (Parse.bareKey tokens >>= fun r => f r.1 r.2) = _ at h
  rcases bareKey_eq tokens with eq | ⟨t, behind, rfl, word, eq⟩
  · rw [eq] at h
    exact no b rest h
  · rw [eq] at h
    obtain ⟨used, rfl, hq⟩ := yes t behind word b rest h
    exact ⟨t :: used, rfl, hq⟩

end Uses

/-! ## Expressions and statements -/

/-- What is known of an expression that was read: it binds as tightly as `level`, and what follows
it continues it below `stop` at most. -/
structure Reading (level stop : Nat) (used : List Token) (e : Expr) (rest : List Token) :
    Prop where
  written : e.Written used
  leveled : (Node.expr e).Each Node.Leveled
  level : level ≤ e.level
  stops : StopsAt stop rest
  closed : e.endsOpen → StopsAt 0 rest

/-- Nodes that all are leveled. -/
def Leveled (nodes : List Node) : Prop :=
  ∀ node ∈ nodes, node.Each Node.Leveled

structure Statement (used : List Token) (s : Stmt) : Prop where
  written : s.Written used
  leveled : (Node.stmt s).Each Node.Leveled

/-- Everything that is read on some fuel is written as the tokens that it was read from. The
parameters that are already read stand in front of them. -/
structure Sound (fuel : Nat) : Prop where
  expression : ∀ {tokens}, Uses (expression fuel) tokens (Reading 0 0)
  infixChain : ∀ {tokens} tier,
    Uses (infixChain fuel tier) tokens (Reading tier.level tier.level)
  operand : ∀ {tokens} tier,
    Uses (operand fuel tier) tokens (Reading (tier.level + 1) (tier.level + 1))
  infixRest : ∀ {tokens ls} tier left, Reading tier.level (tier.level + 1) ls left tokens →
    Uses (infixRest fuel tier left) tokens
      fun used => Reading tier.level tier.level (ls ++ used)
  unary : ∀ {tokens}, Uses (unary fuel) tokens (Reading 7 7)
  postfixRest : ∀ {tokens ts} target, Reading 8 9 ts target tokens →
    Uses (postfixRest fuel target) tokens fun used => Reading 7 7 (ts ++ used)
  list : ∀ {tokens} closing, Uses (list fuel closing) tokens fun used es _ =>
    Expr.Items es used ∧ Leveled (es.map .expr)
  entries : ∀ {tokens}, Uses (entries fuel) tokens fun used es _ =>
    Expr.Entries es used ∧ Leveled (es.map (.expr ·.1) ++ es.map (.expr ·.2))
  primary : ∀ {tokens}, Uses (primary fuel) tokens (Reading 8 9)
  group : ∀ {tokens} opening, opening.kind = .parenOpen →
    Uses (group fuel opening) tokens fun used => Reading 8 9 (opening :: used)
  array : ∀ {tokens} opening, opening.kind = .bracketOpen →
    Uses (array fuel opening) tokens fun used => Reading 8 9 (opening :: used)
  mapLiteral : ∀ {tokens} opening, opening.kind = .braceOpen →
    Uses (mapLiteral fuel opening) tokens fun used => Reading 8 9 (opening :: used)
  lambda : ∀ {tokens} opening, opening.kind = .pipe →
    Uses (lambda fuel opening) tokens fun used => Reading 8 9 (opening :: used)
  lambdaBody : ∀ {tokens bs} opening params, Bars opening params bs →
    Uses (lambdaBody fuel opening params) tokens fun used => Reading 8 9 (bs ++ used)
  block : ∀ {tokens}, Uses (block fuel) tokens fun used read _ =>
    Stmt.Braced read.1 read.2 used ∧ Leveled (read.1.map .stmt)
  statements : ∀ {tokens}, Uses (statements fuel) tokens fun used body _ =>
    Stmt.Sequence body used ∧ Leveled (body.map .stmt)
  statement : ∀ {tokens}, Uses (statement fuel) tokens fun used s _ => Statement used s
  blockStatement : ∀ {tokens}, Uses (blockStatement fuel) tokens fun used s _ => Statement used s
  expressionStatement : ∀ {tokens},
    Uses (expressionStatement fuel) tokens fun used s _ => Statement used s
  varStatement : ∀ {tokens} start, start.kind = .keyword .varWord →
    Uses (varStatement fuel start) tokens fun used s _ => Statement (start :: used) s
  constStatement : ∀ {tokens} start, start.kind = .keyword .constWord →
    Uses (constStatement fuel start) tokens fun used s _ => Statement (start :: used) s
  fnStatement : ∀ {tokens} start, start.kind = .keyword .fnWord →
    Uses (fnStatement fuel start) tokens fun used s _ => Statement (start :: used) s
  ifStatement : ∀ {tokens} start, start.kind = .keyword .ifWord →
    Uses (ifStatement fuel start) tokens fun used s _ => Statement (start :: used) s ∧
      ∃ place condition yes no, s = .ifElse place condition yes no
  whileStatement : ∀ {tokens} start, start.kind = .keyword .whileWord →
    Uses (whileStatement fuel start) tokens fun used s _ => Statement (start :: used) s
  loopStatement : ∀ {tokens} start, start.kind = .keyword .loopWord →
    Uses (loopStatement fuel start) tokens fun used s _ => Statement (start :: used) s
  forStatement : ∀ {tokens} start, start.kind = .keyword .forWord →
    Uses (forStatement fuel start) tokens fun used s _ => Statement (start :: used) s
  whenStatement : ∀ {tokens} start, start.kind = .keyword .whenWord →
    Uses (whenStatement fuel start) tokens fun used s _ => Statement (start :: used) s
  arms : ∀ {tokens}, Uses (arms fuel) tokens fun used arms _ =>
    Arm.Arms arms used ∧ Leveled (arms.map .arm)
  returnStatement : ∀ {tokens} start, start.kind = .keyword .returnWord →
    Uses (returnStatement fuel start) tokens fun used s _ => Statement (start :: used) s
  breakStatement : ∀ {tokens} start, start.kind = .keyword .breakWord →
    Uses (breakStatement fuel start) tokens fun used s _ => Statement (start :: used) s
  trailingValue : ∀ {tokens}, Uses (trailingValue fuel) tokens fun used value _ =>
    ∃ vs semi, used = vs ++ semi ∧ Perhaps .semicolon semi ∧
      (value = none ∧ vs = [] ∨ ∃ e, value = some e ∧ e.Written vs ∧
        (Node.expr e).Each Node.Leveled)

namespace Reading

variable {level stop : Nat} {used rest : List Token} {e : Expr}

theorem mono {level' stop' : Nat} (h : Reading level stop used e rest) (hl : level' ≤ level)
    (hs : stop ≤ stop') : Reading level' stop' used e rest :=
  ⟨h.written, h.leveled, Nat.le_trans hl h.level, h.stops.mono hs, h.closed⟩

/-- An expression in front of something that continues it is not open. -/
theorem not_endsOpen {t : Token} {n : Nat} (h : Reading level stop used e (t :: rest))
    (ht : t.kind.continues = some n) : ¬ e.endsOpen :=
  fun opened => Nat.not_lt_zero n (h.closed opened t rfl n ht)

theorem operation {tier : Tier} {op : Operator} {left right : Expr} {t : Token}
    {ls rs behind rest : List Token}
    (hl : Reading tier.level (tier.level + 1) ls left (t :: behind))
    (hop : tier.operator? t.kind = some op)
    (hr : Reading (tier.level + 1) (tier.level + 1) rs right rest) :
    Reading tier.level (tier.level + 1) (ls ++ t :: rs) (op.node left right) rest := by
  have same := Tier.tier_of_operator? hop
  have next : t.kind.continues = some tier.level :=
    (tier.operator?_isSome_iff t.kind).1 (by simp [hop])
  have fits : op.Fits left right := by
    refine ⟨?_, ?_, hl.not_endsOpen next⟩
    · exact same ▸ hl.level
    · exact same ▸ hr.level
  refine ⟨.operation hl.written hop hr.written, ?_, ?_, hr.stops, ?_⟩
  · cases op with
    | _ => exact .intro fits (by simpa [Operator.node, Node.children, Expr.children] using
        ⟨hl.leveled, hr.leveled⟩)
  · exact Nat.le_of_eq (by rw [Operator.level_node, same])
  · rw [Operator.endsOpen_node]
    exact hr.closed

/-- A call, an element or a field of what is read. -/
theorem postfixed {target e : Expr} {t : Token} {ts us rest rest' : List Token}
    (ht : Reading 8 9 ts target (t :: rest)) (next : t.kind.continues = some 8)
    (written : e.Written us) (local' : target.Postfixed → (Node.expr e).Leveled)
    (below : (Node.expr target).Each Node.Leveled → ∀ child ∈ e.children, child.Each Node.Leveled)
    (level : e.level = 8) (closed : ¬ e.endsOpen) : Reading 8 9 us e rest' := by
  refine ⟨written, .intro (local' ⟨ht.level, ht.not_endsOpen next⟩) (below ht.leveled), ?_, ?_,
    fun opened => absurd opened closed⟩
  · exact Nat.le_of_eq level.symm
  · exact StopsAt.nine _

end Reading

namespace Sound

variable {fuel : Nat} {tokens : List Token} (ih : Sound fuel)

include ih

theorem expression_step : Uses (Parse.expression (fuel + 1)) tokens (Reading 0 0) := by
  unfold Parse.expression
  refine (ih.infixChain .disjunction).bind fun ts target rest ht => ?_
  refine .accept (fun t rest _ ha => ?_) fun none => ?_
  · refine ih.expression.bind fun vs value rest hv => ?_
    split
    · next assignable =>
      refine .pure ⟨?_, .intro assignable ?_, Nat.zero_le _, hv.stops, hv.closed⟩
      · simpa using .assign ht.written ha hv.written
      · simpa [Node.children, Expr.children] using ⟨ht.leveled, hv.leveled⟩
    · exact .fault _
  · refine .pure ?_
    rw [List.append_nil]
    exact ⟨ht.written, ht.leveled, Nat.zero_le _,
      ht.stops.step fun t mem eq => none t mem (TokenKind.eq_assign_of_continues eq), ht.closed⟩

theorem infixChain_step (tier : Tier) :
    Uses (Parse.infixChain (fuel + 1) tier) tokens (Reading tier.level tier.level) := by
  unfold Parse.infixChain
  refine (ih.operand tier).bind fun ls first rest h => ih.infixRest tier first ?_
  exact h.mono (Nat.le_succ _) (Nat.le_refl _)

theorem operand_step (tier : Tier) : Uses (Parse.operand (fuel + 1) tier) tokens
    (Reading (tier.level + 1) (tier.level + 1)) := by
  unfold Parse.operand
  cases ht : tier.tighter with
  | none => exact Tier.level_of_tightest ht ▸ ih.unary
  | some tighter => exact Tier.level_tighter ht ▸ ih.infixChain tighter

theorem infixRest_step {ls : List Token} (tier : Tier) (left : Expr)
    (hl : Reading tier.level (tier.level + 1) ls left tokens) :
    Uses (Parse.infixRest (fuel + 1) tier left) tokens
      fun used => Reading tier.level tier.level (ls ++ used) := by
  unfold Parse.infixRest
  refine .operator (fun t rest op eq hop => ?_) fun none => ?_
  · subst eq
    refine (ih.operand tier).bind fun rs right rest hr => ?_
    have h := hl.operation hop hr
    simpa only [List.append_assoc, List.cons_append] using ih.infixRest tier _ h
  · refine .pure ?_
    rw [List.append_nil]
    exact ⟨hl.written, hl.leveled, hl.level, hl.stops.step none, hl.closed⟩

theorem unary_step : Uses (Parse.unary (fuel + 1)) tokens (Reading 7 7) := by
  unfold Parse.unary
  have signed (sign : Token) (op : UnaryOp) (hs : sign.kind = op.kind) (rest : List Token) :
      Uses (do
        let operand ← Parse.unary fuel
        return Expr.unary (sign.span.through operand.span) op operand) rest
        fun used => Reading 7 7 (sign :: used) := by
    refine ih.unary.map fun ts operand rest ho => ?_
    refine ⟨.unary hs ho.written, .intro ho.level ?_, Nat.le_refl _, ho.stops, ho.closed⟩
    simpa [Node.children, Expr.children] using ho.leveled
  refine .accept (fun sign rest _ hs => signed sign .negate hs rest) fun _ => ?_
  refine .accept (fun sign rest _ hs => signed sign .not hs rest) fun _ => ?_
  exact ih.primary.bind fun ts target rest ht => ih.postfixRest target ht

theorem postfixRest_step {ts : List Token} (target : Expr) (ht : Reading 8 9 ts target tokens) :
    Uses (Parse.postfixRest (fuel + 1) target) tokens
      fun used => Reading 7 7 (ts ++ used) := by
  unfold Parse.postfixRest
  refine .accept (fun opening rest eq ho => ?_) fun paren => ?_
  · subst eq
    refine (ih.list _).bind fun us args rest ha => .expect fun closing rest hc => ?_
    have h : Reading 8 9 (ts ++ opening :: (us ++ [closing]))
        (.call (target.span.through closing.span) target args) rest :=
      ht.postfixed (by rw [ho]; rfl) (.call ht.written ho ha.1 hc) id
        (fun below => List.forall_mem_cons.2 ⟨below, ha.2⟩) rfl (by simp [Expr.endsOpen])
    simpa only [List.append_assoc, List.cons_append, List.nil_append] using ih.postfixRest _ h
  refine .accept (fun opening rest eq ho => ?_) fun bracket => ?_
  · subst eq
    refine ih.expression.bind fun us position rest hp => .expect fun closing rest hc => ?_
    have h : Reading 8 9 (ts ++ opening :: (us ++ [closing]))
        (.index (target.span.through closing.span) target position) rest :=
      ht.postfixed (by rw [ho]; rfl) (.index ht.written ho hp.written hc) id
        (fun below => by simpa [Expr.children] using ⟨below, hp.leveled⟩) rfl
        (by simp [Expr.endsOpen])
    simpa only [List.append_assoc, List.cons_append, List.nil_append] using ih.postfixRest _ h
  refine .accept (fun dot rest eq hd => ?_) fun dot => ?_
  · subst eq
    refine .expect fun name rest hn => ?_
    have h : Reading 8 9 (ts ++ [dot, name])
        (.field (target.span.through name.span) target name.text) rest :=
      ht.postfixed (by rw [hd]; rfl) (.field ht.written hd hn) id
        (fun below => by simpa [Expr.children] using below) rfl (by simp [Expr.endsOpen])
    simpa only [List.append_assoc, List.cons_append, List.nil_append] using ih.postfixRest _ h
  · refine .pure ?_
    rw [List.append_nil]
    refine ⟨ht.written, ht.leveled, Nat.le_of_succ_le ht.level, ?_, ht.closed⟩
    exact ht.stops.of_no_suffix paren bracket dot

theorem list_step (closing : TokenKind) : Uses (Parse.list (fuel + 1) closing) tokens
    fun used es _ => Expr.Items es used ∧ Leveled (es.map .expr) := by
  unfold Parse.list
  refine .sees (.pure ⟨.nil, by simp [Leveled]⟩) fun _ => ?_
  refine ih.expression.bind fun ts item rest hi => .accept (fun comma rest _ hc => ?_) fun _ => ?_
  · refine (ih.list closing).map fun us es rest hes => ?_
    exact ⟨.cons hi.written hc hes.1, List.forall_mem_cons.2 ⟨hi.leveled, hes.2⟩⟩
  · exact .pure ⟨by simpa using .last hi.written, by simpa [Leveled] using hi.leveled⟩

/-- What follows a key, however it was read. -/
theorem entries_behind {ks : List Token} {key : Expr} (hk : key.Key ks)
    (leveled : (Node.expr key).Each Node.Leveled) :
    Uses (do
        Functor.discard (Parse.expect .colon .mapColon)
        let value ← Parse.expression fuel
        match ← Parse.accept .comma with
        | some _ => return (key, value) :: (← Parse.entries fuel)
        | none => return [(key, value)]) tokens fun used es _ =>
      Expr.Entries es (ks ++ used) ∧ Leveled (es.map (.expr ·.1) ++ es.map (.expr ·.2)) := by
  refine .discard (.expect fun colon rest hc => ih.expression.bind fun vs value rest hv => ?_)
  refine .accept (fun comma rest _ hm => ?_) fun _ => ?_
  · refine ih.entries.map fun us es rest hes => ?_
    refine ⟨.cons hk hc hv.written hm hes.1, ?_⟩
    have := hes.2
    simp only [Leveled, List.map_cons, List.forall_mem_append, List.forall_mem_cons] at this ⊢
    exact ⟨⟨leveled, this.1⟩, hv.leveled, this.2⟩
  · refine .pure ⟨?_, by simpa [Leveled] using ⟨leveled, hv.leveled⟩⟩
    simpa only [List.append_nil] using .last hk hc hv.written

theorem entries_step : Uses (Parse.entries (fuel + 1)) tokens fun used es _ =>
    Expr.Entries es used ∧ Leveled (es.map (.expr ·.1) ++ es.map (.expr ·.2)) := by
  unfold Parse.entries
  refine .sees (.pure ⟨.nil, by simp [Leveled]⟩) fun _ => ?_
  refine .bareKey (fun t rest ht => ?_) ?_
  · refine .bind (P := fun used key _ => used = [] ∧ key = .literal t.span (.text t.text))
      (.pure ⟨rfl, rfl⟩) ?_
    rintro _ _ rest ⟨rfl, rfl⟩
    exact ih.entries_behind (.bare ht) (.intro trivial (by simp [Node.children, Expr.children]))
  · exact ih.expression.bind fun ks key rest hk =>
      ih.entries_behind (.computed hk.written) hk.leveled

theorem primary_step : Uses (Parse.primary (fuel + 1)) tokens (Reading 8 9) := by
  intro e rest read
  unfold Parse.primary at read
  split at read
  · cases read
  next t behind =>
  -- a token that is an expression by itself
  have single (e : Expr) (written : e.Written [t]) (leveled : (Node.expr e).Leveled)
      (none : e.children = []) (level : e.level = 8) (closed : ¬ e.endsOpen) :
      ∃ used, t :: behind = used ++ behind ∧ Reading 8 9 used e behind :=
    ⟨[t], rfl, written, .intro leveled (by simp [Node.children, none]), Nat.le_of_eq level.symm,
      StopsAt.nine _, fun opened => absurd opened closed⟩
  have literal (v : Literal) (ht : t.Denotes v) : ∃ used, t :: behind = used ++ behind ∧
      Reading 8 9 used (.literal t.span v) behind :=
    single _ (.literal ht) trivial rfl rfl (by simp [Expr.endsOpen])
  -- a token that opens one
  have opened {p : Parse Expr} (h : Uses p behind fun used => Reading 8 9 (t :: used))
      (read : p behind = .ok (e, rest)) :
      ∃ used, t :: behind = used ++ rest ∧ Reading 8 9 used e rest := by
    obtain ⟨used, rfl, he⟩ := h e rest read
    exact ⟨t :: used, rfl, he⟩
  split at read
  · next kind =>
    cases read
    exact literal _ (.true kind)
  · next kind =>
    cases read
    exact literal _ (.false kind)
  · next kind =>
    cases read
    exact literal _ (.none kind)
  · next kind =>
    cases read
    exact single _ (.this kind) trivial rfl rfl (by simp [Expr.endsOpen])
  · next kind =>
    have h : Uses (Expr.literal t.span <$> Parse.number t) behind
        fun used => Reading 8 9 (t :: used) := by
      refine (Uses.number t).mapped ?_
      rintro _ v rest ⟨rfl, rfl, hv⟩
      obtain ⟨used, split, h⟩ := literal v (.number kind hv)
      obtain rfl : [t] = used := List.append_cancel_right split
      exact h
    exact opened h read
  · next kind =>
    cases read
    exact literal _ (.text kind)
  · next kind =>
    cases read
    exact single _ (.name kind) trivial rfl rfl (by simp [Expr.endsOpen])
  · next kind => exact opened (ih.group t kind) read
  · next kind => exact opened (ih.array t kind) read
  · next kind => exact opened (ih.mapLiteral t kind) read
  · next kind => exact opened (ih.lambda t kind) read
  · next kind => exact opened (ih.lambdaBody t [] (.joined kind)) read
  · cases read

theorem group_step (opening : Token) (ho : opening.kind = .parenOpen) :
    Uses (Parse.group (fuel + 1) opening) tokens fun used => Reading 8 9 (opening :: used) := by
  unfold Parse.group
  refine ih.expression.bind fun ts inner rest hi => .expect fun closing rest hc => .pure ?_
  exact ⟨.group ho hi.written hc, .intro trivial (by simpa [Node.children, Expr.children] using
    hi.leveled), Nat.le_refl _, StopsAt.nine _, by simp [Expr.endsOpen]⟩

theorem array_step (opening : Token) (ho : opening.kind = .bracketOpen) :
    Uses (Parse.array (fuel + 1) opening) tokens fun used => Reading 8 9 (opening :: used) := by
  unfold Parse.array
  refine (ih.list _).bind fun ts items rest hi => .expect fun closing rest hc => .pure ?_
  exact ⟨.array ho hi.1 hc, .intro trivial hi.2, Nat.le_refl _, StopsAt.nine _,
    by simp [Expr.endsOpen]⟩

theorem mapLiteral_step (opening : Token) (ho : opening.kind = .braceOpen) :
    Uses (Parse.mapLiteral (fuel + 1) opening) tokens
      fun used => Reading 8 9 (opening :: used) := by
  unfold Parse.mapLiteral
  refine ih.entries.bind fun ts items rest hi => .expect fun closing rest hc => .pure ?_
  exact ⟨.map ho hi.1 hc, .intro trivial hi.2, Nat.le_refl _, StopsAt.nine _,
    by simp [Expr.endsOpen]⟩

theorem lambda_step (opening : Token) (ho : opening.kind = .pipe) :
    Uses (Parse.lambda (fuel + 1) opening) tokens fun used => Reading 8 9 (opening :: used) := by
  unfold Parse.lambda
  refine (Uses.params fuel _).bind fun ps params rest hp => .discard (.expect fun t rest ht => ?_)
  refine (ih.lambdaBody opening params (.apart ho hp ht)).mono fun used e rest h => ?_
  simpa only [List.cons_append, List.append_assoc, List.nil_append] using h

theorem lambdaBody_step {bs : List Token} (opening : Token) (params : List Param)
    (bars : Bars opening params bs) : Uses (Parse.lambdaBody (fuel + 1) opening params) tokens
      fun used => Reading 8 9 (bs ++ used) := by
  unfold Parse.lambdaBody
  refine .sees ?_ fun _ => ?_
  · refine ih.block.map fun ts read rest hb => ?_
    exact ⟨.lambda bars hb.1, .intro trivial hb.2, Nat.le_refl _, StopsAt.nine _,
      by simp [Expr.endsOpen]⟩
  · refine ih.expression.map fun ts result rest hr => ?_
    refine ⟨.yielding bars hr.written, .intro trivial ?_, Nat.le_refl _, StopsAt.nine _,
      fun _ => hr.stops⟩
    have body : (Node.stmt (.expr result.span result)).Each Node.Leveled :=
      .intro trivial (by simpa [Node.children, Stmt.children] using hr.leveled)
    simpa [Node.children, Expr.children] using body

theorem block_step : Uses (Parse.block (fuel + 1)) tokens fun used read _ =>
    Stmt.Braced read.1 read.2 used ∧ Leveled (read.1.map .stmt) := by
  unfold Parse.block
  refine .expect fun opening rest ho => ih.statements.bind fun ts body rest hb => ?_
  exact .expect fun closing rest hc => .pure ⟨.intro ho hb.1 hc, hb.2⟩

theorem statements_step : Uses (Parse.statements (fuel + 1)) tokens fun used body _ =>
    Stmt.Sequence body used ∧ Leveled (body.map .stmt) := by
  unfold Parse.statements
  have none : Uses (return [] : Parse (List Stmt)) tokens fun used body _ =>
      Stmt.Sequence body used ∧ Leveled (body.map .stmt) :=
    .pure ⟨.nil, by simp [Leveled]⟩
  refine .nextKind ?_
  split
  · exact none
  · exact none
  · refine ih.statement.bind fun ts first rest hf => ih.statements.map fun us body rest hb => ?_
    exact ⟨.cons hf.written hb.1, List.forall_mem_cons.2 ⟨hf.leveled, hb.2⟩⟩

theorem statement_step : Uses (Parse.statement (fuel + 1)) tokens
    fun used s _ => Statement used s := by
  intro s rest read
  unfold Parse.statement at read
  split at read
  · exact ih.expressionStatement s rest read
  next t behind =>
  have started {p : Parse Stmt} (h : Uses p behind fun used s _ => Statement (t :: used) s)
      (read : p behind = .ok (s, rest)) :
      ∃ used, t :: behind = used ++ rest ∧ Statement used s := by
    obtain ⟨used, rfl, hs⟩ := h s rest read
    exact ⟨t :: used, rfl, hs⟩
  split at read
  · next kind => exact started (ih.varStatement t kind) read
  · next kind => exact started (ih.constStatement t kind) read
  · next kind => exact started (ih.fnStatement t kind) read
  · next kind => exact started ((ih.ifStatement t kind).mono fun _ _ _ h => h.1) read
  · next kind => exact started (ih.whileStatement t kind) read
  · next kind => exact started (ih.loopStatement t kind) read
  · next kind => exact started (ih.forStatement t kind) read
  · next kind => exact started (ih.whenStatement t kind) read
  · next kind => exact started (ih.returnStatement t kind) read
  · next kind => exact started (ih.breakStatement t kind) read
  · next kind =>
    have h : Uses (Parse.statement.continueStatement t) behind
        fun used s _ => Statement (t :: used) s := by
      refine .perhaps fun semi rest hs => .pure ⟨?_, .intro trivial (by simp [Node.children,
        Stmt.children])⟩
      simpa only [List.append_nil] using .continue kind hs
    exact started h read
  · exact ih.blockStatement s rest read
  · exact ih.expressionStatement s rest read

theorem blockStatement_step : Uses (Parse.blockStatement (fuel + 1)) tokens
    fun used s _ => Statement used s := by
  unfold Parse.blockStatement
  exact ih.block.map fun ts read rest hb => ⟨.block hb.1, .intro trivial hb.2⟩

theorem expressionStatement_step : Uses (Parse.expressionStatement (fuel + 1)) tokens
    fun used s _ => Statement used s := by
  unfold Parse.expressionStatement
  refine ih.expression.bind fun ts e rest he => .perhaps fun semi rest hs => .pure ?_
  refine ⟨?_, .intro trivial (by simpa [Node.children, Stmt.children] using he.leveled)⟩
  simpa only [List.append_nil] using .expr he.written hs

theorem varStatement_step (start : Token) (h : start.kind = .keyword .varWord) :
    Uses (Parse.varStatement (fuel + 1) start) tokens
      fun used s _ => Statement (start :: used) s := by
  unfold Parse.varStatement
  refine .perhaps fun ms rest hm => .expect fun name rest hn => ?_
  refine .accept (fun equals rest _ he => ?_) fun _ => ?_
  · refine ih.expression.bind fun vs value rest hv => .perhaps fun semi rest hs => .pure ?_
    refine ⟨?_, .intro trivial (by simpa [Node.children, Stmt.children] using hv.leveled)⟩
    simpa only [List.append_nil] using .varInit h hm hn he hv.written hs
  · refine .perhaps fun semi rest hs => .pure ?_
    refine ⟨?_, .intro trivial (by simp [Node.children, Stmt.children])⟩
    simpa only [List.append_nil] using .varDecl h hm hn hs

theorem constStatement_step (start : Token) (h : start.kind = .keyword .constWord) :
    Uses (Parse.constStatement (fuel + 1) start) tokens
      fun used s _ => Statement (start :: used) s := by
  unfold Parse.constStatement
  refine .expect fun name rest hn => .discard (.expect fun equals rest he => ?_)
  refine ih.expression.bind fun vs value rest hv => .perhaps fun semi rest hs => .pure ?_
  refine ⟨?_, .intro trivial (by simpa [Node.children, Stmt.children] using hv.leveled)⟩
  simpa only [List.append_nil] using .constDecl h hn he hv.written hs

theorem fnStatement_step (start : Token) (h : start.kind = .keyword .fnWord) :
    Uses (Parse.fnStatement (fuel + 1) start) tokens
      fun used s _ => Statement (start :: used) s := by
  unfold Parse.fnStatement
  refine .expect fun name rest hn => .discard (.expect fun opening rest ho => ?_)
  refine (Uses.params fuel _).bind fun ps params rest hp => ?_
  refine .discard (.expect fun closing rest hc => ih.block.map fun ts read rest hb => ?_)
  exact ⟨.fnDecl h hn ho hp hc hb.1, .intro trivial hb.2⟩

theorem ifStatement_step (start : Token) (h : start.kind = .keyword .ifWord) :
    Uses (Parse.ifStatement (fuel + 1) start) tokens
      fun used s _ => Statement (start :: used) s ∧
        ∃ place condition yes no, s = .ifElse place condition yes no := by
  unfold Parse.ifStatement
  refine ih.expression.bind fun cs condition rest hc => ih.block.bind fun ys read rest hy => ?_
  obtain ⟨yes, span⟩ := read
  have close {no : Option (List Stmt)} {last : Span} {ns : List Token}
      (hn : Stmt.Otherwise span no last ns) (leveled : Leveled ((no.getD []).map .stmt)) :
      Statement (start :: (cs ++ (ys ++ ns)))
        (.ifElse (start.span.through last) condition yes no) :=
    ⟨.ifElse h hc.written hy.1 hn, .intro trivial (List.forall_mem_cons.2
      ⟨hc.leveled, List.forall_mem_append.2 ⟨hy.2, leveled⟩⟩)⟩
  refine .accept (fun word rest _ hw => ?_) fun _ => ?_
  · refine .accept (fun next rest _ hn => ?_) fun _ => ?_
    · refine (ih.ifStatement next hn).map ?_
      rintro ns _ rest ⟨nested, place, condition', yes', no', rfl⟩
      exact ⟨close (.chain hw nested.written) (by simpa [Leveled] using nested.leveled),
        _, _, _, _, rfl⟩
    · refine ih.block.map fun ns read rest hn => ?_
      exact ⟨close (.block hw hn.1) hn.2, _, _, _, _, rfl⟩
  · exact .pure ⟨close .none (by simp [Leveled]), _, _, _, _, rfl⟩

theorem whileStatement_step (start : Token) (h : start.kind = .keyword .whileWord) :
    Uses (Parse.whileStatement (fuel + 1) start) tokens
      fun used s _ => Statement (start :: used) s := by
  unfold Parse.whileStatement
  refine ih.expression.bind fun cs condition rest hc => ih.block.map fun ts read rest hb => ?_
  exact ⟨.whileLoop h hc.written hb.1, .intro trivial
    (List.forall_mem_cons.2 ⟨hc.leveled, hb.2⟩)⟩

theorem loopStatement_step (start : Token) (h : start.kind = .keyword .loopWord) :
    Uses (Parse.loopStatement (fuel + 1) start) tokens
      fun used s _ => Statement (start :: used) s := by
  unfold Parse.loopStatement
  exact ih.block.map fun ts read rest hb => ⟨.loop h hb.1, .intro trivial hb.2⟩

theorem forStatement_step (start : Token) (h : start.kind = .keyword .forWord) :
    Uses (Parse.forStatement (fuel + 1) start) tokens
      fun used s _ => Statement (start :: used) s := by
  unfold Parse.forStatement
  refine .expect fun name rest hn => .discard (.expect fun word rest hw => ?_)
  refine ih.expression.bind fun es iterable rest he => ih.block.map fun ts read rest hb => ?_
  exact ⟨.forLoop h hn hw he.written hb.1, .intro trivial
    (List.forall_mem_cons.2 ⟨he.leveled, hb.2⟩)⟩

theorem whenStatement_step (start : Token) (h : start.kind = .keyword .whenWord) :
    Uses (Parse.whenStatement (fuel + 1) start) tokens
      fun used s _ => Statement (start :: used) s := by
  unfold Parse.whenStatement
  refine ih.expression.bind fun es subject rest he => .discard (.expect fun opening rest ho => ?_)
  refine ih.arms.bind fun ts arms rest ha => .expect fun closing rest hc => .pure ?_
  exact ⟨.when h he.written ho ha.1 hc, .intro trivial
    (List.forall_mem_cons.2 ⟨he.leveled, ha.2⟩)⟩

/-- What follows the pattern of an arm, however it was read. -/
theorem arms_behind {ps : List Token} {shape : Pattern} (hp : Arm.Shape shape ps) :
    Uses (do
        Functor.discard (Parse.expect .arrow .armArrow)
        let (body, span) ← Parse.block fuel
        return Arm.mk span shape body :: (← Parse.arms fuel)) tokens fun used arms _ =>
      Arm.Arms arms (ps ++ used) ∧ Leveled (arms.map .arm) := by
  refine .discard (.expect fun arrow rest ha => ih.block.bind fun ts read rest hb => ?_)
  refine ih.arms.map fun us arms rest has => ?_
  exact ⟨.cons hp ha hb.1 has.1, List.forall_mem_cons.2 ⟨.intro trivial hb.2, has.2⟩⟩

theorem arms_step : Uses (Parse.arms (fuel + 1)) tokens fun used arms _ =>
    Arm.Arms arms used ∧ Leveled (arms.map .arm) := by
  unfold Parse.arms
  have none : Uses (return [] : Parse (List Arm)) tokens fun used arms _ =>
      Arm.Arms arms used ∧ Leveled (arms.map .arm) :=
    .pure ⟨.nil, by simp [Leveled]⟩
  refine .nextKind ?_
  split
  · exact none
  · exact none
  refine .accept (fun word rest _ hw => ?_) fun _ => ?_
  · refine .bind (P := fun used shape _ => used = [] ∧ shape = .wildcard) (.pure ⟨rfl, rfl⟩) ?_
    rintro _ _ rest ⟨rfl, rfl⟩
    exact ih.arms_behind (.otherwise hw)
  · exact (Uses.patterns fuel).1.bind fun ps shape rest hp => ih.arms_behind (.pattern hp)

theorem trailingValue_step : Uses (Parse.trailingValue (fuel + 1)) tokens fun used value _ =>
    ∃ vs semi, used = vs ++ semi ∧ Perhaps .semicolon semi ∧
      (value = none ∧ vs = [] ∨ ∃ e, value = some e ∧ e.Written vs ∧
        (Node.expr e).Each Node.Leveled) := by
  unfold Parse.trailingValue
  have close (vs : List Token) (value : Option Expr) (tokens : List Token)
      (h : value = none ∧ vs = [] ∨ ∃ e, value = some e ∧ e.Written vs ∧
        (Node.expr e).Each Node.Leveled) :
      Uses (do
        Parse.optionalSemicolon
        return value) tokens fun used value _ =>
          ∃ vs' semi, vs ++ used = vs' ++ semi ∧ Perhaps .semicolon semi ∧
            (value = none ∧ vs' = [] ∨ ∃ e, value = some e ∧ e.Written vs' ∧
              (Node.expr e).Each Node.Leveled) :=
    .perhaps fun semi rest hs => .pure ⟨vs, semi, by rw [List.append_nil], hs, h⟩
  have absent : Uses (do
      let value ← (pure none : Parse (Option Expr))
      Parse.optionalSemicolon
      return value) tokens fun used value _ =>
        ∃ vs semi, used = vs ++ semi ∧ Perhaps .semicolon semi ∧
          (value = none ∧ vs = [] ∨ ∃ e, value = some e ∧ e.Written vs ∧
            (Node.expr e).Each Node.Leveled) :=
    close [] none tokens (.inl ⟨rfl, rfl⟩)
  refine .nextKind ?_
  split
  · exact absent
  · exact absent
  · exact absent
  · refine .bind (P := fun used value _ => ∃ e, value = some e ∧ e.Written used ∧
      (Node.expr e).Each Node.Leveled) (ih.expression.mapped fun ts e rest he =>
        ⟨e, rfl, he.written, he.leveled⟩) ?_
    exact fun vs value rest h => close vs value rest (.inr h)

theorem returnStatement_step (start : Token) (h : start.kind = .keyword .returnWord) :
    Uses (Parse.returnStatement (fuel + 1) start) tokens
      fun used s _ => Statement (start :: used) s := by
  unfold Parse.returnStatement
  refine ih.trailingValue.map ?_
  rintro _ _ rest ⟨vs, semi, rfl, hs, ⟨rfl, rfl⟩ | ⟨e, rfl, he, leveled⟩⟩
  · exact ⟨.returnNone h hs, .intro trivial (by simp [Node.children, Stmt.children])⟩
  · exact ⟨.return h he hs, .intro trivial (by simpa [Node.children, Stmt.children] using leveled)⟩

theorem breakStatement_step (start : Token) (h : start.kind = .keyword .breakWord) :
    Uses (Parse.breakStatement (fuel + 1) start) tokens
      fun used s _ => Statement (start :: used) s := by
  unfold Parse.breakStatement
  refine ih.trailingValue.map ?_
  rintro _ _ rest ⟨vs, semi, rfl, hs, ⟨rfl, rfl⟩ | ⟨e, rfl, he, leveled⟩⟩
  · exact ⟨.breakNone h hs, .intro trivial (by simp [Node.children, Stmt.children])⟩
  · exact ⟨.break h he hs, .intro trivial (by simpa [Node.children, Stmt.children] using leveled)⟩

end Sound

theorem sound (fuel : Nat) : Sound fuel := by
  induction fuel with
  | zero => constructor <;> intros <;> exact Uses.fault .outOfFuel
  | succ fuel ih =>
    exact {
      expression := ih.expression_step
      infixChain := ih.infixChain_step
      operand := ih.operand_step
      infixRest := ih.infixRest_step
      unary := ih.unary_step
      postfixRest := ih.postfixRest_step
      list := ih.list_step
      entries := ih.entries_step
      primary := ih.primary_step
      group := ih.group_step
      array := ih.array_step
      mapLiteral := ih.mapLiteral_step
      lambda := ih.lambda_step
      lambdaBody := ih.lambdaBody_step
      block := ih.block_step
      statements := ih.statements_step
      statement := ih.statement_step
      blockStatement := ih.blockStatement_step
      expressionStatement := ih.expressionStatement_step
      varStatement := ih.varStatement_step
      constStatement := ih.constStatement_step
      fnStatement := ih.fnStatement_step
      ifStatement := ih.ifStatement_step
      whileStatement := ih.whileStatement_step
      loopStatement := ih.loopStatement_step
      forStatement := ih.forStatement_step
      whenStatement := ih.whenStatement_step
      arms := ih.arms_step
      returnStatement := ih.returnStatement_step
      breakStatement := ih.breakStatement_step
      trailingValue := ih.trailingValue_step }

/-- The statements of a source take all its tokens. -/
theorem uses_body (fuel : Nat) {tokens : List Token} :
    Uses (Parse.body fuel) tokens fun used body rest =>
      rest = [] ∧ Stmt.Sequence body used ∧ Leveled (body.map .stmt) := by
  induction fuel generalizing tokens with
  | zero => exact .fault _
  | succ fuel ih =>
    unfold Parse.body
    refine .nextKind ?_
    split
    · next none =>
      refine .pure ⟨?_, .nil, by simp [Leveled]⟩
      simpa using none
    · refine (sound fuel).statement.bind fun ts first rest hf => ih.map fun us body rest hb => ?_
      exact ⟨hb.1, .cons hf.written hb.2.1, List.forall_mem_cons.2 ⟨hf.leveled, hb.2.2⟩⟩

end Parse

theorem scanTokens_of_toOption {source : String} {tokens : List Token}
    (h : (scanTokens source).toOption = some tokens) : scanTokens source = .ok tokens := by
  cases found : scanTokens source with
  | error d =>
    rw [found] at h
    exact nomatch h
  | ok words =>
    rw [found] at h
    rw [Option.some.inj h]

/-- What is read from a source is written as all its tokens, and each operator has operands of the
levels that it asks for. The directive is one of the statements that are written. -/
theorem Program.written_of_parse {source : String} {program : Program}
    (h : Program.parse source = .ok program) : ∃ tokens statements,
      scanTokens source = .ok tokens ∧ Stmt.Sequence statements tokens ∧
      program = .ofStatements statements ∧
      ∀ s ∈ statements, (Node.stmt s).Each Node.Leveled := by
  unfold Program.parse at h
  cases tokens : scanTokens source with
  | error d =>
    rw [tokens] at h
    exact nomatch h
  | ok ts =>
    rw [tokens] at h
    dsimp only [bind, Except.bind] at h
    split at h
    · next body rest read =>
      obtain rfl := Except.ok.inj h
      obtain ⟨used, rfl, rfl, written, leveled⟩ := Parse.uses_body _ body rest read
      rw [List.append_nil]
      exact ⟨used, body, rfl, written, rfl, fun s mem => leveled _ (List.mem_map_of_mem mem)⟩
    · exact nomatch h

namespace Program

theorem parse_of_body {source : String} {tokens : List Token} {body : List Stmt}
    (scanned : (scanTokens source).toOption = some tokens)
    (read : Parse.body (32 * (tokens.length + 1)) tokens = .ok (body, [])) :
    parse source = .ok (.ofStatements body) := by
  unfold parse
  rw [scanTokens_of_toOption scanned]
  simp only [bind, Except.bind, read]
  rfl

/-- A zero behind a minus sign. -/
def minusZero : List Token :=
  [⟨.keyword .whenWord, "when", ⟨0, 4⟩⟩, ⟨.number, "0", ⟨5, 6⟩⟩, ⟨.braceOpen, "\x7b", ⟨7, 8⟩⟩,
    ⟨.minus, "-", ⟨9, 10⟩⟩, ⟨.number, "0", ⟨10, 11⟩⟩, ⟨.arrow, "->", ⟨12, 14⟩⟩,
    ⟨.braceOpen, "\x7b", ⟨15, 16⟩⟩, ⟨.braceClose, "\x7d", ⟨16, 17⟩⟩,
    ⟨.braceClose, "\x7d", ⟨18, 19⟩⟩]

theorem scanTokens_minusZero :
    (scanTokens "when 0 \x7b -0 -> \x7b\x7d \x7d").toOption = some minusZero := by
  decide +kernel

theorem parse_minusZero : parse "when 0 \x7b -0 -> \x7b\x7d \x7d" =
    .ok ⟨false, [.when ⟨0, 19⟩ (.literal ⟨5, 6⟩ (.int 0))
      [.mk ⟨15, 17⟩ (.literal (.int 0)) []]]⟩ :=
  parse_of_body scanTokens_minusZero rfl

theorem written_of_parse_minusZero :
    parse "when 0 \x7b -0 -> \x7b\x7d \x7d" = .ok ⟨false, [.when ⟨0, 19⟩
      (.literal ⟨5, 6⟩ (.int 0)) [.mk ⟨15, 17⟩ (.literal (.int 0)) []]]⟩ ∧
    ∃ tokens statements, scanTokens "when 0 \x7b -0 -> \x7b\x7d \x7d" = .ok tokens ∧
      Stmt.Sequence statements tokens ∧
      ⟨false, [.when ⟨0, 19⟩ (.literal ⟨5, 6⟩ (.int 0))
        [.mk ⟨15, 17⟩ (.literal (.int 0)) []]]⟩ = ofStatements statements ∧
      ∀ s ∈ statements, (Node.stmt s).Each Node.Leveled :=
  ⟨parse_minusZero, written_of_parse parse_minusZero⟩

/-- Without the sign the tree is the same but for its spans, so the sign cannot be read off it. -/
theorem zero_written_two_ways :
    (∃ a b c, parse "when 0 \x7b -0 -> \x7b\x7d \x7d" =
      .ok ⟨false, [.when a (.literal b (.int 0)) [.mk c (.literal (.int 0)) []]]⟩) ∧
    (∃ a b c, parse "when 0 \x7b 0 -> \x7b\x7d \x7d" =
      .ok ⟨false, [.when a (.literal b (.int 0)) [.mk c (.literal (.int 0)) []]]⟩) ∧
    (scanTokens "when 0 \x7b -0 -> \x7b\x7d \x7d").toOption.map (·.map (·.kind)) =
      some [.keyword .whenWord, .number, .braceOpen, .minus, .number, .arrow, .braceOpen,
        .braceClose, .braceClose] ∧
    (scanTokens "when 0 \x7b 0 -> \x7b\x7d \x7d").toOption.map (·.map (·.kind)) =
      some [.keyword .whenWord, .number, .braceOpen, .number, .arrow, .braceOpen, .braceClose,
        .braceClose] := by
  have scanned : (scanTokens "when 0 \x7b 0 -> \x7b\x7d \x7d").toOption = some
      [⟨.keyword .whenWord, "when", ⟨0, 4⟩⟩, ⟨.number, "0", ⟨5, 6⟩⟩,
        ⟨.braceOpen, "\x7b", ⟨7, 8⟩⟩, ⟨.number, "0", ⟨9, 10⟩⟩, ⟨.arrow, "->", ⟨11, 13⟩⟩,
        ⟨.braceOpen, "\x7b", ⟨14, 15⟩⟩, ⟨.braceClose, "\x7d", ⟨15, 16⟩⟩,
        ⟨.braceClose, "\x7d", ⟨17, 18⟩⟩] := by
    decide +kernel
  refine ⟨⟨_, _, _, parse_minusZero⟩, ⟨⟨0, 18⟩, ⟨5, 6⟩, ⟨14, 16⟩, parse_of_body scanned rfl⟩,
    ?_, ?_⟩
  · rw [scanTokens_minusZero]
    rfl
  · rw [scanned]
    rfl

end Program

end LayerScript
