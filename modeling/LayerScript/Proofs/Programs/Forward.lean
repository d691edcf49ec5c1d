import LayerScript.Program.Parser
import LayerScript.Proofs.Programs.Rows

/-!
# Reading forward

What the parser reads lies behind all that was read before, and in front of the tokens that it
leaves. So what is read one after another is laid in a row. Where the parser fails it points to a
token that it was given, or to the end.
-/

namespace LayerScript

variable {T : Token → Prop} {lo mid hi : Nat}

/-! ## Tokens in a row -/

/-- Good tokens one behind another, from an offset on. -/
inductive Ordered (T : Token → Prop) : (lo : Nat) → (tokens : List Token) → Prop where
  | nil {lo : Nat} : Ordered T lo []
  | cons {lo : Nat} {token : Token} {tokens : List Token} : T token → lo ≤ token.span.start →
      token.span.start < token.span.stop → Ordered T token.span.stop tokens →
      Ordered T lo (token :: tokens)

theorem Ordered.first {token : Token} {tokens : List Token} (h : Ordered T lo (token :: tokens)) :
    token.span.Lies T lo token.span.stop := by
  cases h with
  | cons good start long _ =>
    exact ⟨⟨token, good, rfl⟩, ⟨token, good, rfl⟩, start, long, Nat.le_refl _⟩

theorem Ordered.good {token : Token} {tokens : List Token} (h : Ordered T lo (token :: tokens)) :
    T token := by
  cases h with
  | cons good _ _ _ => exact good

theorem Ordered.rest {token : Token} {tokens : List Token} (h : Ordered T lo (token :: tokens)) :
    Ordered T token.span.stop tokens := by
  cases h with
  | cons _ _ _ rest => exact rest

/-! ## Parts of the grammar -/

/-- The fault is found at a good token, or at the end. -/
def GrammarFault.Blames (T : Token → Prop) : GrammarFault → Prop
  | .expected _ (some token) => T token
  | .invalidTarget span => ∃ token, T token ∧ token.span = span
  | .expected _ none | .outOfFuel => True

namespace Parse

variable {α β : Type} {A : α → Nat → Prop} {B : β → Nat → Prop}

/-- A result that is good up to some offset, and tokens that begin there; or a fault at a token. -/
inductive Comes (T : Token → Prop) (lo : Nat) (A : α → Nat → Prop) :
    Except GrammarFault (α × List Token) → Prop where
  | ok {a : α} {hi : Nat} {rest : List Token} : lo ≤ hi → A a hi → Ordered T hi rest →
    Comes T lo A (.ok (a, rest))
  | error {f : GrammarFault} : f.Blames T → Comes T lo A (.error f)

theorem Comes.earlier {x : Except GrammarFault (α × List Token)} (h : Comes T mid A x)
    (low : lo ≤ mid) : Comes T lo A x := by
  cases h with
  | ok le ha ordered => exact .ok (Nat.le_trans low le) ha ordered
  | error blames => exact .error blames

/-- From tokens that begin at `lo`, `p` reads a result that is good up to some offset, and leaves
tokens that begin there. -/
def Lays (T : Token → Prop) (lo : Nat) (A : α → Nat → Prop) (p : Parse α) : Prop :=
  ∀ tokens, Ordered T lo tokens → Comes T lo A (p tokens)

/-- What a part of the grammar reads sits behind all that was read before. -/
def LaysNode (T : Token → Prop) (node : α → Node) (p : Parse α) : Prop :=
  ∀ lo, Lays T lo (fun a hi => (node a).Sits T lo hi) p

/-- The same for a part that begins with a token that is already read. -/
def LaysBehind (T : Token → Prop) (node : α → Node) (p : Token → Parse α) : Prop :=
  ∀ lo mid opening, opening.span.Lies T lo mid →
    Lays T mid (fun a hi => (node a).Sits T lo hi) (p opening)

/-- The same for a part that begins with an expression that is already read. -/
def LaysAround (T : Token → Prop) (p : Expr → Parse Expr) : Prop :=
  ∀ lo mid e, (Node.expr e).Sits T lo mid →
    Lays T mid (fun e hi => (Node.expr e).Sits T lo hi) (p e)

namespace Lays

theorem pure {a : α} (ha : A a lo) : Lays T lo A (Pure.pure a) :=
  fun _ ordered => .ok (Nat.le_refl _) ha ordered

theorem bind {p : Parse α} {f : α → Parse β} (hp : Lays T lo A p)
    (hf : ∀ a mid, lo ≤ mid → A a mid → Lays T mid B (f a)) : Lays T lo B (p >>= f) := by
  intro tokens ordered
  have first := hp tokens ordered
  change Comes T lo B (p tokens >>= fun r => f r.1 r.2)
  generalize p tokens = x at first
  cases first with
  | ok le ha rest => exact (hf _ _ le ha _ rest).earlier le
  | error blames => exact .error blames

theorem mono {B : α → Nat → Prop} {p : Parse α} (hp : Lays T lo A p)
    (imp : ∀ a hi, A a hi → B a hi) : Lays T lo B p := by
  intro tokens ordered
  have read := hp tokens ordered
  generalize p tokens = x at read ⊢
  cases read with
  | ok le ha rest => exact .ok le (imp _ _ ha) rest
  | error blames => exact .error blames

theorem map {p : Parse α} {f : α → β} (hp : Lays T lo A p)
    (hf : ∀ a hi, lo ≤ hi → A a hi → B (f a) hi) : Lays T lo B (f <$> p) :=
  hp.bind fun a hi le ha => .pure (hf a hi le ha)

theorem fault {f : GrammarFault} (h : f.Blames T) : Lays T lo A (Parse.fault f) :=
  fun _ _ => .error h

/-- Looking at the next token reads nothing. -/
theorem nextKind_bind {f : Option TokenKind → Parse β} (hf : ∀ kind, Lays T lo B (f kind)) :
    Lays T lo B (Parse.nextKind >>= f) :=
  fun tokens => hf _ tokens

theorem sees_bind {kind : TokenKind} {f : Bool → Parse β} (hf : ∀ seen, Lays T lo B (f seen)) :
    Lays T lo B (Parse.sees kind >>= f) :=
  fun tokens => hf _ tokens

theorem acceptToken (kind : TokenKind) :
    Lays T lo (fun token hi => ∀ t ∈ token, T t ∧ t.span.Lies T lo hi) (Parse.accept kind) := by
  intro tokens ordered
  unfold Parse.accept
  split
  · split
    · have first := ordered.first
      exact .ok (Nat.le_of_lt first.le) (by simpa using ⟨ordered.good, first⟩) ordered.rest
    · exact .ok (Nat.le_refl _) (by simp) ordered
  · exact .ok (Nat.le_refl _) (by simp) ordered

theorem accept (kind : TokenKind) :
    Lays T lo (fun token hi => ∀ t ∈ token, t.span.Lies T lo hi) (Parse.accept kind) :=
  (acceptToken kind).mono fun _ _ h t mem => (h t mem).2

theorem expectToken (kind : TokenKind) (what : Expectation) :
    Lays T lo (fun token hi => T token ∧ token.span.Lies T lo hi) (Parse.expect kind what) := by
  intro tokens ordered
  unfold Parse.expect
  split
  · split
    · have first := ordered.first
      exact .ok (Nat.le_of_lt first.le) ⟨ordered.good, first⟩ ordered.rest
    · exact .error ordered.good
  · exact .error trivial

theorem expect (kind : TokenKind) (what : Expectation) :
    Lays T lo (fun token hi => token.span.Lies T lo hi) (Parse.expect kind what) :=
  (expectToken kind what).mono fun _ _ h => h.2

theorem discard {p : Parse α} (hp : Lays T lo A p) :
    Lays T lo (fun _ _ => True) (Functor.discard p) :=
  hp.map fun _ _ _ _ => trivial

theorem optionalSemicolon : Lays T lo (fun _ _ => True) Parse.optionalSemicolon :=
  discard (accept _)

theorem number {token : Token} (good : T token) :
    Lays T lo (fun _ _ => True) (Parse.number token) := by
  unfold Parse.number
  split
  · exact .pure trivial
  · exact .fault good
  · exact .fault good

theorem operator (tier : Tier) : Lays T lo (fun _ _ => True) (Parse.operator tier) := by
  intro tokens ordered
  unfold Parse.operator
  split
  · split
    · exact .ok (Nat.le_of_lt ordered.first.le) trivial ordered.rest
    · exact .ok (Nat.le_refl _) trivial ordered
  · exact .ok (Nat.le_refl _) trivial ordered

theorem bareKey :
    Lays T lo (fun word hi => ∀ t ∈ word, t.span.Lies T lo hi) Parse.bareKey := by
  intro tokens ordered
  unfold Parse.bareKey
  split
  · have first := ordered.first
    have taken := ordered.rest
    simp only
    split <;> split <;>
      first
      | exact .ok (Nat.le_refl _) (by simp) ordered
      | exact .ok (Nat.le_of_lt first.le) (by simpa using first) taken
  · exact .ok (Nat.le_refl _) (by simp) ordered

/-- Parameters behind those already read. -/
theorem paramsFrom (fuel : Nat) (read : List Param) (h : Laid T lo (read.map (·.span)) mid) :
    Lays T mid (fun params hi => Laid T lo (params.map (·.span)) hi)
      (Parse.paramsFrom fuel read) := by
  induction fuel generalizing read mid with
  | zero => exact .fault trivial
  | succ fuel ih =>
    unfold Parse.paramsFrom
    refine (expectToken _ _).bind fun token next le ⟨good, ht⟩ => ?_
    have more : Laid T lo ((read ++ [(⟨token.text, token.span⟩ : Param)]).map (·.span)) next := by
      simpa using h.append (.one ht)
    split
    · exact .bind (A := fun _ _ => False) (.fault good) fun _ _ _ never => never.elim
    · refine (accept _).bind fun comma next' le' _ => ?_
      have more := more.later le'
      cases comma with
      | some _ => exact ih _ more
      | none => exact .pure more

theorem params (fuel : Nat) (closing : TokenKind) :
    Lays T lo (fun params hi => Laid T lo (params.map (·.span)) hi)
      (Parse.params fuel closing) := by
  refine sees_bind fun closed => ?_
  split
  · exact .pure (.nil (Nat.le_refl _))
  · exact paramsFrom fuel [] (.nil (Nat.le_refl _))

/-! ### Patterns -/

theorem negated : Lays T lo (fun _ _ => True) Parse.pattern.negated :=
  (expectToken _ _).bind fun _ _ _ ⟨good, _⟩ => (number good).bind fun _ _ _ _ => .pure trivial

theorem patterns (fuel : Nat) :
    (∀ lo, Lays T lo (fun _ _ => True) (Parse.pattern fuel)) ∧
    (∀ lo, Lays T lo (fun _ _ => True) (Parse.tuple fuel)) ∧
    ∀ lo, Lays T lo (fun _ _ => True) (Parse.patternsFrom fuel) := by
  induction fuel with
  | zero => exact ⟨fun _ => .fault trivial, fun _ => .fault trivial, fun _ => .fault trivial⟩
  | succ fuel ih =>
    obtain ⟨pattern, tuple, patternsFrom⟩ := ih
    refine ⟨fun lo => ?_, fun lo => ?_, fun lo => ?_⟩
    · intro tokens ordered
      unfold Parse.pattern
      split
      · exact .error trivial
      next token behind =>
      have le := Nat.le_of_lt ordered.first.le
      -- a pattern of one token, and one that goes on behind its first token
      have here (shape : Pattern) :
          Comes T lo (fun _ _ => True) (.ok (shape, behind)) := .ok le trivial ordered.rest
      have further {p : Parse Pattern} (hp : Lays T token.span.stop (fun _ _ => True) p) :
          Comes T lo (fun _ _ => True) (p behind) := (hp _ ordered.rest).earlier le
      split
      · split
        · exact here _
        · exact here _
      · exact further (tuple _)
      · exact here _
      · exact here _
      · exact here _
      · exact further ((number ordered.good).map fun _ _ _ _ => trivial)
      · exact further (negated.bind fun _ _ _ _ => .pure trivial)
      · exact here _
      · exact .error ordered.good
    · unfold Parse.tuple
      refine sees_bind fun empty => ?_
      split
      · exact (pure (A := fun _ _ => True) trivial).bind fun _ _ _ _ =>
          (discard (expect _ _)).bind fun _ _ _ _ => .pure trivial
      · exact (patternsFrom _).bind fun _ _ _ _ =>
          (discard (expect _ _)).bind fun _ _ _ _ => .pure trivial
    · unfold Parse.patternsFrom
      refine (pattern _).bind fun part _ _ _ => (accept _).bind fun comma _ _ _ => ?_
      cases comma with
      | some _ => exact (patternsFrom _).bind fun _ _ _ _ => .pure trivial
      | none => exact .pure trivial

end Lays

/-! ## Expressions and statements -/

/-- The nodes of a block lie between its braces, which are the ends of its span. -/
structure Braced (T : Token → Prop) (lo hi : Nat) (read : List Stmt × Span) : Prop where
  lies : read.2.Lies T lo hi
  row : Row T read.2.start (read.1.map .stmt) read.2.stop

theorem Braced.inside {read : List Stmt × Span} (h : Braced T lo hi read) :
    Row T lo (read.1.map .stmt) read.2.stop :=
  h.row.earlier h.lies.low

/-- Everything that is read on some fuel sits behind what was read before. -/
structure Forward (T : Token → Prop) (fuel : Nat) : Prop where
  expression : LaysNode T .expr (expression fuel)
  infixChain : ∀ tier, LaysNode T .expr (infixChain fuel tier)
  operand : ∀ tier, LaysNode T .expr (operand fuel tier)
  infixRest : ∀ tier, LaysAround T (infixRest fuel tier)
  unary : LaysNode T .expr (unary fuel)
  postfixRest : LaysAround T (postfixRest fuel)
  list : ∀ closing lo, Lays T lo (fun es hi => Row T lo (es.map .expr) hi) (list fuel closing)
  entries : ∀ lo, Lays T lo
    (fun es hi => Row T lo (es.flatMap fun e => [.expr e.1, .expr e.2]) hi) (entries fuel)
  primary : LaysNode T .expr (primary fuel)
  group : LaysBehind T .expr (group fuel)
  array : LaysBehind T .expr (array fuel)
  mapLiteral : LaysBehind T .expr (mapLiteral fuel)
  lambda : LaysBehind T .expr (lambda fuel)
  lambdaBody : ∀ lo mid next opening (params : List Param), opening.span.Lies T lo mid →
    Laid T mid (params.map (·.span)) next →
    Lays T next (fun e hi => (Node.expr e).Sits T lo hi) (lambdaBody fuel opening params)
  block : ∀ lo, Lays T lo (fun read hi => Braced T lo hi read) (block fuel)
  statements : ∀ lo, Lays T lo (fun body hi => Row T lo (body.map .stmt) hi) (statements fuel)
  statement : LaysNode T .stmt (statement fuel)
  blockStatement : LaysNode T .stmt (blockStatement fuel)
  expressionStatement : LaysNode T .stmt (expressionStatement fuel)
  varStatement : LaysBehind T .stmt (varStatement fuel)
  constStatement : LaysBehind T .stmt (constStatement fuel)
  fnStatement : LaysBehind T .stmt (fnStatement fuel)
  ifStatement : LaysBehind T .stmt (ifStatement fuel)
  whileStatement : LaysBehind T .stmt (whileStatement fuel)
  loopStatement : LaysBehind T .stmt (loopStatement fuel)
  forStatement : LaysBehind T .stmt (forStatement fuel)
  whenStatement : LaysBehind T .stmt (whenStatement fuel)
  arms : ∀ lo, Lays T lo (fun arms hi => Row T lo (arms.map .arm) hi) (arms fuel)
  returnStatement : LaysBehind T .stmt (returnStatement fuel)
  breakStatement : LaysBehind T .stmt (breakStatement fuel)
  trailingValue : ∀ lo, Lays T lo (fun value hi => ∀ e ∈ value, (Node.expr e).Sits T lo hi)
    (trailingValue fuel)

namespace Forward

variable {fuel : Nat} (ih : Forward T fuel)

include ih

theorem expression_step : LaysNode T .expr (Parse.expression (fuel + 1)) := by
  intro lo
  unfold Parse.expression
  refine (ih.infixChain _ lo).bind fun target mid _ ht => ?_
  refine (Lays.acceptToken _).bind fun equals next le he => ?_
  cases equals with
  | none => exact .pure (ht.later le)
  | some equals =>
    refine (ih.expression next).bind fun value hi _ hv => ?_
    split
    · exact .pure (.of_pair (ht.later le) (.one hv.toStop) hv.lies rfl rfl
        (Nat.le_refl _) rfl)
    · exact .fault ⟨equals, (he equals rfl).1, rfl⟩

theorem infixChain_step (tier : Tier) : LaysNode T .expr (Parse.infixChain (fuel + 1) tier) := by
  intro lo
  unfold Parse.infixChain
  exact (ih.operand tier lo).bind fun first mid _ hf => ih.infixRest tier lo mid first hf

theorem operand_step (tier : Tier) : LaysNode T .expr (Parse.operand (fuel + 1) tier) := by
  intro lo
  unfold Parse.operand
  cases tier.tighter with
  | none => exact ih.unary lo
  | some tighter => exact ih.infixChain tighter lo

theorem infixRest_step (tier : Tier) : LaysAround T (Parse.infixRest (fuel + 1) tier) := by
  intro lo mid left hl
  unfold Parse.infixRest
  refine (Lays.operator tier).bind fun op next le _ => ?_
  have hl := hl.later le
  cases op with
  | none => exact .pure hl
  | some op =>
    refine (ih.operand tier next).bind fun right hi _ hr => ih.infixRest tier lo hi _ ?_
    cases op with
    | logical op => exact .of_pair hl (.one hr.toStop) hr.lies rfl rfl (Nat.le_refl _) rfl
    | binary op => exact .of_pair hl (.one hr.toStop) hr.lies rfl rfl (Nat.le_refl _) rfl

theorem unary_step : LaysNode T .expr (Parse.unary (fuel + 1)) := by
  intro lo
  unfold Parse.unary
  refine (Lays.accept _).bind fun minus mid le hm => ?_
  cases minus with
  | some sign =>
    refine (ih.unary mid).bind fun operand hi _ ho => .pure ?_
    exact .of_last (hm sign rfl) ho rfl rfl rfl
  | none =>
    refine (Lays.accept _).bind fun bang next le' hb => ?_
    cases bang with
    | some sign =>
      refine (ih.unary next).bind fun operand hi _ ho => .pure ?_
      have hb := (hb sign rfl).earlier le
      exact .of_last hb ho rfl rfl rfl
    | none =>
      refine (ih.primary next).bind fun target hi _ ht => ih.postfixRest lo hi target ?_
      exact ht.earlier (Nat.le_trans le le')

theorem postfixRest_step : LaysAround T (Parse.postfixRest (fuel + 1)) := by
  intro lo mid target ht
  unfold Parse.postfixRest
  refine (Lays.accept _).bind fun opening next le _ => ?_
  have ht := ht.later le
  cases opening with
  | some _ =>
    refine (ih.list _ next).bind fun args stop le' ha => ?_
    refine (Lays.expect _ _).bind fun closing hi _ hc => ih.postfixRest lo hi _ ?_
    exact .of_pair ht ha (hc.earlier le') rfl rfl (hc.beyond) rfl
  | none =>
    refine (Lays.accept _).bind fun opening next' le' _ => ?_
    have ht := ht.later le'
    cases opening with
    | some _ =>
      refine (ih.expression next').bind fun position stop le'' hp => ?_
      refine (Lays.expect _ _).bind fun closing hi _ hc => ih.postfixRest lo hi _ ?_
      exact .of_pair ht (.one hp) (hc.earlier le'') rfl rfl hc.beyond rfl
    | none =>
      refine (Lays.accept _).bind fun dot last le'' _ => ?_
      have ht := ht.later le''
      cases dot with
      | some _ =>
        refine (Lays.expect _ _).bind fun name hi _ hn => ih.postfixRest lo hi _ ?_
        exact .of_pair ht (.nil (Nat.le_refl _)) hn rfl rfl hn.beyond rfl
      | none => exact .pure ht

theorem list_step (closing : TokenKind) (lo : Nat) :
    Lays T lo (fun es hi => Row T lo (es.map .expr) hi) (Parse.list (fuel + 1) closing) := by
  unfold Parse.list
  refine Lays.sees_bind fun closed => ?_
  split
  · exact .pure (.nil (Nat.le_refl _))
  · refine (ih.expression lo).bind fun item mid _ hi => ?_
    refine (Lays.accept _).bind fun comma next le _ => ?_
    have hi := hi.later le
    cases comma with
    | none => exact .pure (.one hi)
    | some _ => exact (ih.list closing next).bind fun items hi' _ his => .pure (.cons hi his)

theorem entries_step (lo : Nat) : Lays T lo
    (fun es hi => Row T lo (es.flatMap fun e => [.expr e.1, .expr e.2]) hi)
    (Parse.entries (fuel + 1)) := by
  unfold Parse.entries
  refine Lays.sees_bind fun closed => ?_
  split
  · exact .pure (.nil (Nat.le_refl _))
  refine Lays.bareKey.bind fun word mid le hw => ?_
  cases word
  case' some word =>
    have lies := hw word rfl
    have sits : (Node.expr (.literal word.span (.text word.text))).Sits T lo mid :=
      .of_row lies (.nil (Nat.le_of_lt lies.long)) rfl
    refine (Lays.pure (A := fun key hi => (Node.expr key).Sits T lo hi) sits).bind ?_
  case' none =>
    refine ((ih.expression mid).mono (B := fun key hi => (Node.expr key).Sits T lo hi)
      fun key hi hk => hk.earlier le).bind ?_
  -- what follows a key, however it was read
  all_goals
    intro key stop _ hk
    refine (Lays.discard (Lays.expect _ _)).bind fun _ next le _ => ?_
    refine (ih.expression next).bind fun value last _ hv => ?_
    refine (Lays.accept _).bind fun comma hi le' _ => ?_
    have hk := hk.later le
    have hv := hv.later le'
    cases comma with
    | none => exact .pure (.two hk hv)
    | some _ => exact (ih.entries hi).bind fun es _ _ hes => .pure (.cons hk (.cons hv hes))

theorem primary_step : LaysNode T .expr (Parse.primary (fuel + 1)) := by
  intro lo tokens ordered
  unfold Parse.primary
  split
  · exact .error trivial
  next token behind =>
  have first := ordered.first
  have le := Nat.le_of_lt first.le
  have row : Row T token.span.start [] token.span.stop := .nil (Nat.le_of_lt first.long)
  have literal (value : Literal) :
      (Node.expr (.literal token.span value)).Sits T lo token.span.stop := .of_row first row rfl
  have this : (Node.expr (.this token.span)).Sits T lo token.span.stop := .of_row first row rfl
  have name : (Node.expr (.name token.span token.text)).Sits T lo token.span.stop :=
    .of_row first row rfl
  -- an expression of one token, and one that goes on behind its first token
  have here {leaf : Expr} (sits : (Node.expr leaf).Sits T lo token.span.stop) :
      Comes T lo (fun e hi => (Node.expr e).Sits T lo hi) (.ok (leaf, behind)) :=
    .ok le sits ordered.rest
  have further {p : Parse Expr}
      (hp : Lays T token.span.stop (fun e hi => (Node.expr e).Sits T lo hi) p) :
      Comes T lo (fun e hi => (Node.expr e).Sits T lo hi) (p behind) :=
    (hp _ ordered.rest).earlier le
  split
  · exact here (literal _)
  · exact here (literal _)
  · exact here (literal _)
  · exact here this
  · exact further ((Lays.number ordered.good).map fun value hi le' _ =>
      (literal value).later le')
  · exact here (literal _)
  · exact here name
  · exact further (ih.group lo _ token first)
  · exact further (ih.array lo _ token first)
  · exact further (ih.mapLiteral lo _ token first)
  · exact further (ih.lambda lo _ token first)
  · exact further (ih.lambdaBody lo _ _ token [] first (.nil (Nat.le_refl _)))
  · exact .error ordered.good

theorem group_step : LaysBehind T .expr (Parse.group (fuel + 1)) := by
  intro lo mid opening ho
  unfold Parse.group
  refine (ih.expression mid).bind fun inner next le hi => ?_
  refine (Lays.expect _ _).bind fun closing stop _ hc => .pure ?_
  exact .of_opening ho (.one hi) (hc.earlier le) rfl hc.beyond rfl

theorem array_step : LaysBehind T .expr (Parse.array (fuel + 1)) := by
  intro lo mid opening ho
  unfold Parse.array
  refine (ih.list _ mid).bind fun items next le hi => ?_
  refine (Lays.expect _ _).bind fun closing stop _ hc => .pure ?_
  exact .of_opening ho hi (hc.earlier le) rfl hc.beyond rfl

theorem mapLiteral_step : LaysBehind T .expr (Parse.mapLiteral (fuel + 1)) := by
  intro lo mid opening ho
  unfold Parse.mapLiteral
  refine (ih.entries mid).bind fun entries next le he => ?_
  refine (Lays.expect _ _).bind fun closing hi _ hc => .pure ?_
  exact .of_entries ho he (hc.earlier le) hc.beyond

theorem lambda_step : LaysBehind T .expr (Parse.lambda (fuel + 1)) := by
  intro lo mid opening ho
  unfold Parse.lambda
  refine (Lays.params fuel _).bind fun params next _ hp => ?_
  refine (Lays.discard (Lays.expect _ _)).bind fun _ behind le _ => ?_
  exact ih.lambdaBody lo mid behind opening params ho (hp.later le)

theorem lambdaBody_step (lo mid next : Nat) (opening : Token) (params : List Param)
    (ho : opening.span.Lies T lo mid) (hp : Laid T mid (params.map (·.span)) next) :
    Lays T next (fun e hi => (Node.expr e).Sits T lo hi)
      (Parse.lambdaBody (fuel + 1) opening params) := by
  unfold Parse.lambdaBody
  refine Lays.sees_bind fun braced => ?_
  split
  · refine (ih.block next).bind fun read hi _ hr => .pure ?_
    exact .of_function (ho.through (hr.lies.earlier hp.le)) hp ho.within hr.inside rfl rfl
  · refine (ih.expression next).bind fun result hi _ hr => .pure ?_
    have yielded : (Node.stmt (.expr result.span result)).Sits T next result.span.stop :=
      .of_row hr.toStop.lies (.one hr.fromStart.toStop) rfl
    have row : Row T next ([Stmt.expr result.span result].map .stmt) result.span.stop :=
      .one yielded
    exact .of_function (ho.through (hr.lies.earlier hp.le)) hp ho.within row rfl rfl

theorem block_step (lo : Nat) :
    Lays T lo (fun read hi => Braced T lo hi read) (Parse.block (fuel + 1)) := by
  unfold Parse.block
  refine (Lays.expect _ _).bind fun opening mid _ ho => ?_
  refine (ih.statements mid).bind fun body next le hb => ?_
  refine (Lays.expect _ _).bind fun closing hi _ hc => .pure ?_
  exact ⟨ho.through (hc.earlier le), hb.widen ho.within hc.beyond⟩

theorem statements_step (lo : Nat) : Lays T lo (fun body hi => Row T lo (body.map .stmt) hi)
    (Parse.statements (fuel + 1)) := by
  unfold Parse.statements
  refine Lays.nextKind_bind fun kind => ?_
  split
  · exact .pure (.nil (Nat.le_refl _))
  · exact .pure (.nil (Nat.le_refl _))
  · refine (ih.statement lo).bind fun first mid _ hf => ?_
    exact (ih.statements mid).bind fun body hi _ hb => .pure (.cons hf hb)

theorem statement_step : LaysNode T .stmt (Parse.statement (fuel + 1)) := by
  intro lo tokens ordered
  unfold Parse.statement
  split
  · exact ih.expressionStatement lo [] ordered
  next token behind =>
  have first := ordered.first
  have further {p : Parse Stmt}
      (hp : Lays T token.span.stop (fun s hi => (Node.stmt s).Sits T lo hi) p) :
      Comes T lo (fun s hi => (Node.stmt s).Sits T lo hi) (p behind) :=
    (hp _ ordered.rest).earlier (Nat.le_of_lt first.le)
  split
  · exact further (ih.varStatement lo _ token first)
  · exact further (ih.constStatement lo _ token first)
  · exact further (ih.fnStatement lo _ token first)
  · exact further (ih.ifStatement lo _ token first)
  · exact further (ih.whileStatement lo _ token first)
  · exact further (ih.loopStatement lo _ token first)
  · exact further (ih.forStatement lo _ token first)
  · exact further (ih.whenStatement lo _ token first)
  · exact further (ih.returnStatement lo _ token first)
  · exact further (ih.breakStatement lo _ token first)
  · have sits : (Node.stmt (.continue token.span)).Sits T lo token.span.stop :=
      .of_row first (.nil (Nat.le_of_lt first.long)) rfl
    exact further (Lays.optionalSemicolon.bind fun _ hi le _ =>
      .pure (sits.later le))
  · exact ih.blockStatement lo (token :: behind) ordered
  · exact ih.expressionStatement lo (token :: behind) ordered

theorem blockStatement_step : LaysNode T .stmt (Parse.blockStatement (fuel + 1)) := by
  intro lo
  unfold Parse.blockStatement
  exact (ih.block lo).bind fun read hi _ hr => .pure (.of_row hr.lies hr.row rfl)

theorem expressionStatement_step : LaysNode T .stmt (Parse.expressionStatement (fuel + 1)) := by
  intro lo
  unfold Parse.expressionStatement
  refine (ih.expression lo).bind fun e mid _ he => Lays.optionalSemicolon.bind fun _ hi le _ => ?_
  have sits : (Node.stmt (.expr e.span e)).Sits T lo mid :=
    .of_row he.lies (.one he.fromStart.toStop) rfl
  exact .pure (sits.later le)

theorem varStatement_step : LaysBehind T .stmt (Parse.varStatement (fuel + 1)) := by
  intro lo mid start hs
  unfold Parse.varStatement
  refine (Lays.discard (Lays.accept _)).bind fun _ next le _ => ?_
  refine (Lays.expect _ _).bind fun name behind le' hn => ?_
  have hn := hn.earlier le
  refine (Lays.accept _).bind fun equals last le'' _ => ?_
  cases equals with
  | none =>
    refine Lays.optionalSemicolon.bind fun _ hi far _ => .pure ?_
    exact .of_opening hs (.nil (Nat.le_refl _)) (hn.later (Nat.le_trans le'' far))
      rfl hn.beyond rfl
  | some _ =>
    refine (ih.expression last).bind fun value stop _ hv => ?_
    refine Lays.optionalSemicolon.bind fun _ hi far _ => .pure ?_
    have hv := hv.widen (Nat.le_trans le (Nat.le_trans le' le'')) far
    exact .of_last hs hv rfl rfl rfl

theorem constStatement_step : LaysBehind T .stmt (Parse.constStatement (fuel + 1)) := by
  intro lo mid start hs
  unfold Parse.constStatement
  refine (Lays.expect _ _).bind fun name next le _ => ?_
  refine (Lays.discard (Lays.expect _ _)).bind fun _ last le' _ => ?_
  refine (ih.expression last).bind fun value stop _ hv => ?_
  refine Lays.optionalSemicolon.bind fun _ hi far _ => .pure ?_
  have hv := hv.widen (Nat.le_trans le le') far
  exact .of_last hs hv rfl rfl rfl

theorem fnStatement_step : LaysBehind T .stmt (Parse.fnStatement (fuel + 1)) := by
  intro lo mid start hs
  unfold Parse.fnStatement
  refine (Lays.expect _ _).bind fun name next le _ => ?_
  refine (Lays.discard (Lays.expect _ _)).bind fun _ behind le' _ => ?_
  refine (Lays.params fuel _).bind fun params last _ hp => ?_
  refine (Lays.discard (Lays.expect _ _)).bind fun _ stop far _ => ?_
  refine (ih.block stop).bind fun read hi _ hr => .pure ?_
  have names := hp.widen (Nat.le_trans le le') far
  exact .of_function (hs.through (hr.lies.earlier names.le)) names hs.within hr.inside rfl rfl

theorem ifStatement_step : LaysBehind T .stmt (Parse.ifStatement (fuel + 1)) := by
  intro lo mid start hs
  unfold Parse.ifStatement
  refine (ih.expression mid).bind fun condition next le hc => ?_
  refine (ih.block next).bind fun yes stop _ hy => ?_
  have row : Row T mid (.expr condition :: yes.1.map .stmt) yes.2.stop := .cons hc hy.inside
  refine (Lays.accept _).bind fun other last le' _ => ?_
  cases other with
  | none =>
    have row : Row T mid (.expr condition :: (yes.1.map .stmt ++ [])) yes.2.stop := by
      simpa using row
    exact .pure (.of_opening hs row (hy.lies.widen le le') rfl (Nat.le_refl _) rfl)
  | some _ =>
    have row := row.later (Nat.le_trans hy.lies.high le')
    refine (Lays.accept _).bind fun word behind le'' hw => ?_
    cases word with
    | some word =>
      refine (ih.ifStatement last behind word (hw word rfl)).bind fun nested hi _ hn => .pure ?_
      exact .of_opening hs (row.append (.one hn.toStop))
        (hn.lies.earlier row.laid.le) rfl (Nat.le_refl _) rfl
    | none =>
      refine (ih.block behind).bind fun no hi _ hn => .pure ?_
      have row := row.later le''
      exact .of_opening hs (row.append hn.inside) (hn.lies.earlier row.laid.le) rfl (Nat.le_refl _)
        rfl

theorem whileStatement_step : LaysBehind T .stmt (Parse.whileStatement (fuel + 1)) := by
  intro lo mid start hs
  unfold Parse.whileStatement
  refine (ih.expression mid).bind fun condition next le hc => ?_
  refine (ih.block next).bind fun read hi _ hr => .pure ?_
  exact .of_opening hs (.cons hc hr.inside) (hr.lies.earlier le) rfl (Nat.le_refl _) rfl

theorem loopStatement_step : LaysBehind T .stmt (Parse.loopStatement (fuel + 1)) := by
  intro lo mid start hs
  unfold Parse.loopStatement
  refine (ih.block mid).bind fun read hi _ hr => .pure ?_
  exact .of_opening hs hr.inside hr.lies rfl (Nat.le_refl _) rfl

theorem forStatement_step : LaysBehind T .stmt (Parse.forStatement (fuel + 1)) := by
  intro lo mid start hs
  unfold Parse.forStatement
  refine (Lays.expect _ _).bind fun name next le _ => ?_
  refine (Lays.discard (Lays.expect _ _)).bind fun _ behind le' _ => ?_
  refine (ih.expression behind).bind fun iterable last _ hi => ?_
  refine (ih.block last).bind fun read stop _ hr => .pure ?_
  have hi := hi.earlier (Nat.le_trans le le')
  exact .of_opening hs (.cons hi hr.inside)
    (hr.lies.earlier (Nat.le_of_lt hi.lies.le)) rfl (Nat.le_refl _) rfl

theorem whenStatement_step : LaysBehind T .stmt (Parse.whenStatement (fuel + 1)) := by
  intro lo mid start hs
  unfold Parse.whenStatement
  refine (ih.expression mid).bind fun subject next _ hv => ?_
  refine (Lays.discard (Lays.expect _ _)).bind fun _ behind le _ => ?_
  refine (ih.arms behind).bind fun arms last _ ha => ?_
  refine (Lays.expect _ _).bind fun closing hi _ hc => .pure ?_
  have row := Row.cons (hv.later le) ha
  exact .of_opening hs row (hc.earlier row.laid.le) rfl hc.beyond rfl

theorem arms_step (lo : Nat) : Lays T lo (fun arms hi => Row T lo (arms.map .arm) hi)
    (Parse.arms (fuel + 1)) := by
  unfold Parse.arms
  refine Lays.nextKind_bind fun kind => ?_
  split
  · exact .pure (.nil (Nat.le_refl _))
  · exact .pure (.nil (Nat.le_refl _))
  refine (Lays.accept _).bind fun other mid le _ => ?_
  cases other
  case' some _ => refine (Lays.pure (A := fun _ _ => True) trivial).bind ?_
  case' none => refine ((Lays.patterns fuel).1 mid).bind ?_
  -- what follows a pattern, however it was read
  all_goals
    intro shape next le' _
    refine (Lays.discard (Lays.expect _ _)).bind fun _ behind le'' _ => ?_
    refine (ih.block behind).bind fun read last _ hr => ?_
    refine (ih.arms last).bind fun arms hi _ ha => .pure ?_
    have sits : (Node.arm (.mk read.2 shape read.1)).Sits T behind last :=
      .of_row hr.lies hr.row rfl
    exact .cons (sits.earlier (Nat.le_trans le (Nat.le_trans le' le''))) ha

theorem returnStatement_step : LaysBehind T .stmt (Parse.returnStatement (fuel + 1)) := by
  intro lo mid start hs
  unfold Parse.returnStatement
  refine (ih.trailingValue mid).bind fun value hi le hv => .pure ?_
  cases value with
  | none => exact .of_row (hs.later le) (.nil (Nat.le_of_lt hs.long)) rfl
  | some e => exact .of_last hs (hv e rfl) rfl rfl rfl

theorem breakStatement_step : LaysBehind T .stmt (Parse.breakStatement (fuel + 1)) := by
  intro lo mid start hs
  unfold Parse.breakStatement
  refine (ih.trailingValue mid).bind fun value hi le hv => .pure ?_
  cases value with
  | none => exact .of_row (hs.later le) (.nil (Nat.le_of_lt hs.long)) rfl
  | some e => exact .of_last hs (hv e rfl) rfl rfl rfl

theorem trailingValue_step (lo : Nat) :
    Lays T lo (fun value hi => ∀ e ∈ value, (Node.expr e).Sits T lo hi)
      (Parse.trailingValue (fuel + 1)) := by
  unfold Parse.trailingValue
  have behind (value : Option Expr) (mid : Nat) (_ : lo ≤ mid)
      (hv : ∀ e ∈ value, (Node.expr e).Sits T lo mid) :
      Lays T mid (fun value hi => ∀ e ∈ value, (Node.expr e).Sits T lo hi) (do
        Parse.optionalSemicolon
        return value) :=
    Lays.optionalSemicolon.bind fun _ hi le _ =>
      .pure fun e mem => (hv e mem).later le
  refine Lays.nextKind_bind fun kind => ?_
  split
  · exact (Lays.pure nofun).bind behind
  · exact (Lays.pure nofun).bind behind
  · exact (Lays.pure nofun).bind behind
  · refine ((ih.expression lo).map fun e hi _ he => ?_).bind behind
    simpa using he

end Forward

theorem forward (T : Token → Prop) (fuel : Nat) : Forward T fuel := by
  induction fuel with
  | zero =>
    constructor <;> intros
    all_goals
      first
      | exact Lays.fault trivial
      | exact fun _ => Lays.fault trivial
      | exact fun _ _ _ _ => Lays.fault trivial
  | succ fuel ih =>
    exact {
      expression := ih.expression_step
      infixChain := ih.infixChain_step
      operand := ih.operand_step
      infixRest := ih.infixRest_step
      unary := ih.unary_step
      postfixRest := ih.postfixRest_step
      list := ih.list_step
      entries := ih.entries_step
      primary := ih.primary_step
      group := ih.group_step
      array := ih.array_step
      mapLiteral := ih.mapLiteral_step
      lambda := ih.lambda_step
      lambdaBody := ih.lambdaBody_step
      block := ih.block_step
      statements := ih.statements_step
      statement := ih.statement_step
      blockStatement := ih.blockStatement_step
      expressionStatement := ih.expressionStatement_step
      varStatement := ih.varStatement_step
      constStatement := ih.constStatement_step
      fnStatement := ih.fnStatement_step
      ifStatement := ih.ifStatement_step
      whileStatement := ih.whileStatement_step
      loopStatement := ih.loopStatement_step
      forStatement := ih.forStatement_step
      whenStatement := ih.whenStatement_step
      arms := ih.arms_step
      returnStatement := ih.returnStatement_step
      breakStatement := ih.breakStatement_step
      trailingValue := ih.trailingValue_step }

theorem lays_body (T : Token → Prop) (fuel lo : Nat) :
    Lays T lo (fun body hi => Row T lo (body.map .stmt) hi) (Parse.body fuel) := by
  induction fuel generalizing lo with
  | zero => exact .fault trivial
  | succ fuel ih =>
    unfold Parse.body
    refine Lays.nextKind_bind fun kind => ?_
    split
    · exact .pure (.nil (Nat.le_refl _))
    · refine ((forward T fuel).statement lo).bind fun first mid _ hf => ?_
      exact (ih mid).bind fun body hi _ hb => .pure (.cons hf hb)

end Parse

end LayerScript
