import LayerScript.Proofs.Programs.Soundness
import LayerScript.Proofs.Programs.Words

/-!
# What is read from given words

`Parse.Gives` says what a function of the grammar reads from words, wherever they stand in a text.
Chains of operators and of calls, elements and fields are read from the left into what was read
before, so what is proved about them speaks of all that the parser does next.
-/

namespace LayerScript

namespace Parse

variable {α β : Type}

/-- Whatever the places of the tokens, with enough fuel `p` reads from these words a result and
leaves words that go with it. -/
def Gives (p : Nat → Parse α) (words : List Token) (Q : α → List Token → Prop) : Prop :=
  ∀ tokens : List Token, tokens.map (·.bare) = words → ∃ a rest, Q a (rest.map (·.bare)) ∧
    ∃ n, ∀ fuel, n ≤ fuel → p fuel tokens = .ok (a, rest)

namespace Gives

variable {p : Nat → Parse α} {words : List Token} {P : α → List Token → Prop}
  {f : Nat → α → Parse β} {Q : β → List Token → Prop}

theorem pure {a : α} (h : P a words) : Gives (fun _ => Pure.pure a) words P := by
  rintro tokens rfl
  exact ⟨a, tokens, h, 0, fun _ _ => rfl⟩

theorem mono {R : α → List Token → Prop} (h : Gives p words P)
    (imp : ∀ a vs, P a vs → R a vs) : Gives p words R := by
  intro tokens same
  obtain ⟨a, rest, ha, n, read⟩ := h tokens same
  exact ⟨a, rest, imp _ _ ha, n, read⟩

theorem bind (hp : Gives p words P) (hf : ∀ a vs, P a vs → Gives (fun fuel => f fuel a) vs Q) :
    Gives (fun fuel => p fuel >>= f fuel) words Q := by
  intro tokens same
  obtain ⟨a, rest, ha, n, read⟩ := hp tokens same
  obtain ⟨b, rest', hb, n', read'⟩ := hf a _ ha rest rfl
  refine ⟨b, rest', hb, max n n', fun fuel room => ?_⟩
  change (p fuel tokens >>= fun r => f fuel r.1 r.2) = _
  rw [read fuel (by omega)]
  exact read' fuel (by omega)

theorem map {g : α → β} (hp : Gives p words P) (hg : ∀ a vs, P a vs → Q (g a) vs) :
    Gives (fun fuel => g <$> p fuel) words Q := by
  intro tokens same
  obtain ⟨a, rest, ha, n, read⟩ := hp tokens same
  refine ⟨g a, rest, hg _ _ ha, n, fun fuel room => ?_⟩
  change (p fuel tokens >>= fun r => Except.ok (g r.1, r.2)) = _
  rw [read fuel room]
  rfl

/-- A function of the grammar is read with one unit of fuel less inside. -/
theorem step {q : Nat → Parse α} (h : ∀ fuel, p (fuel + 1) = q fuel) (hq : Gives q words P) :
    Gives p words P := by
  intro tokens same
  obtain ⟨a, rest, ha, n, read⟩ := hq tokens same
  refine ⟨a, rest, ha, n + 1, fun fuel room => ?_⟩
  obtain ⟨less, rfl⟩ := Nat.exists_eq_add_of_le' room
  rw [← Nat.add_assoc, h]
  exact read _ (by omega)

/-- A function that looks at its first token goes on as what it is for that token. -/
theorem first {q : Token → Nat → Parse α} {w : Token} {ws : List Token}
    (h : ∀ t rest fuel, t.bare = w → p fuel (t :: rest) = q t fuel rest)
    (hq : ∀ t, t.bare = w → Gives (q t) ws P) : Gives p (w :: ws) P := by
  intro tokens same
  obtain ⟨t, rest, rfl, ht, hr⟩ := List.map_eq_cons_iff.1 same
  obtain ⟨a, rest', ha, n, read⟩ := hq t ht rest hr
  exact ⟨a, rest', ha, n, fun fuel room => (h t rest fuel ht).trans (read fuel room)⟩

/-- A function of the grammar that looks at its first token goes on as what it is for it. -/
theorem look {q : Token → Nat → Parse α} {w : Token} {ws : List Token}
    (h : ∀ t rest fuel, t.bare = w → p (fuel + 1) (t :: rest) = q t fuel rest)
    (hq : ∀ t, t.bare = w → Gives (q t) ws P) : Gives p (w :: ws) P := by
  intro tokens same
  obtain ⟨t, rest, rfl, ht, hr⟩ := List.map_eq_cons_iff.1 same
  obtain ⟨a, rest', ha, n, read⟩ := hq t ht rest hr
  refine ⟨a, rest', ha, n + 1, fun fuel room => ?_⟩
  obtain ⟨less, rfl⟩ := Nat.exists_eq_add_of_le' room
  rw [← Nat.add_assoc, h t rest _ ht]
  exact read _ (by omega)

/-- The first token may stay for what is to read it. -/
theorem stay {q : Nat → Parse α} {w : Token} {ws : List Token}
    (h : ∀ t rest fuel, t.bare = w → p (fuel + 1) (t :: rest) = q fuel (t :: rest))
    (hq : Gives q (w :: ws) P) : Gives p (w :: ws) P := by
  intro tokens same
  obtain ⟨a, rest', ha, n, read⟩ := hq tokens same
  obtain ⟨t, rest, rfl, ht, -⟩ := List.map_eq_cons_iff.1 same
  refine ⟨a, rest', ha, n + 1, fun fuel room => ?_⟩
  obtain ⟨less, rfl⟩ := Nat.exists_eq_add_of_le' room
  rw [← Nat.add_assoc, h t rest _ ht]
  exact read _ (by omega)

/-! ### Single tokens -/

theorem nextKind {f : Nat → Option TokenKind → Parse β} {q : Nat → Parse β}
    (goes : ∀ fuel, f fuel (words.head?.map (·.kind)) = q fuel) (h : Gives q words Q) :
    Gives (fun fuel => Parse.nextKind >>= f fuel) words Q := by
  rintro tokens rfl
  obtain ⟨b, rest, hb, n, read⟩ := h tokens rfl
  refine ⟨b, rest, hb, n, fun fuel room => ?_⟩
  rw [← read fuel room, ← goes fuel]
  cases tokens <;> rfl

/-- Where a body does not end, it does not matter what it goes on with. -/
theorem goesOn {f : Nat → Option TokenKind → Parse β} {w : Token} (first : words.head? = some w)
    (more : w.kind ≠ .braceClose) (blind : ∀ fuel kind, kind ≠ TokenKind.braceClose →
      f fuel (some kind) = f fuel (some .identifier))
    (h : Gives (fun fuel => f fuel (some .identifier)) words Q) :
    Gives (fun fuel => Parse.nextKind >>= f fuel) words Q :=
  .nextKind (fun fuel => by rw [first]; exact blind fuel _ more) h

theorem sees {kind : TokenKind} {f : Nat → Bool → Parse β} {w : Token} {ws : List Token}
    (hk : w.kind = kind) (h : Gives (fun fuel => f fuel true) (w :: ws) Q) :
    Gives (fun fuel => Parse.sees kind >>= f fuel) (w :: ws) Q := by
  intro tokens same
  obtain ⟨b, rest, hb, n, read⟩ := h tokens same
  obtain ⟨t, tokens, rfl, rfl, -⟩ := List.map_eq_cons_iff.1 same
  refine ⟨b, rest, hb, n, fun fuel room => ?_⟩
  rw [← read fuel room]
  change f fuel (decide (some t.kind = some kind)) _ = _
  rw [decide_eq_true (show some t.kind = some kind from congrArg some hk)]

theorem misses {kind : TokenKind} {f : Nat → Bool → Parse β}
    (other : ∀ w ∈ words.head?, w.kind ≠ kind) (h : Gives (fun fuel => f fuel false) words Q) :
    Gives (fun fuel => Parse.sees kind >>= f fuel) words Q := by
  rintro tokens rfl
  obtain ⟨b, rest, hb, n, read⟩ := h tokens rfl
  refine ⟨b, rest, hb, n, fun fuel room => ?_⟩
  rw [← read fuel room]
  change f fuel (decide (tokens.head?.map (·.kind) = some kind)) _ = _
  rw [decide_eq_false]
  cases tokens with
  | nil => simp
  | cons t tokens => exact fun eq => other t.bare (by simp) (Option.some.inj eq)

theorem accept {kind : TokenKind} {f : Nat → Option Token → Parse β} {w : Token} {ws : List Token}
    (hk : w.kind = kind) (h : ∀ t, t.bare = w → Gives (fun fuel => f fuel (some t)) ws Q) :
    Gives (fun fuel => Parse.accept kind >>= f fuel) (w :: ws) Q := by
  refine .first (q := fun t fuel => f fuel (some t)) (fun t rest fuel ht => ?_) h
  change (Parse.accept kind (t :: rest) >>= fun r => f fuel r.1 r.2) = _
  rw [Parse.accept, if_pos (by rw [← hk, ← ht]; rfl)]
  rfl

theorem reject {kind : TokenKind} {f : Nat → Option Token → Parse β}
    (other : ∀ w ∈ words.head?, w.kind ≠ kind) (h : Gives (fun fuel => f fuel none) words Q) :
    Gives (fun fuel => Parse.accept kind >>= f fuel) words Q := by
  rintro tokens rfl
  obtain ⟨b, rest, hb, n, read⟩ := h tokens rfl
  refine ⟨b, rest, hb, n, fun fuel room => ?_⟩
  rw [← read fuel room]
  cases tokens with
  | nil => rfl
  | cons t tokens =>
    change (Parse.accept kind (t :: tokens) >>= fun r => f fuel r.1 r.2) = _
    rw [Parse.accept, if_neg (show t.kind ≠ kind from other t.bare (by simp))]
    rfl

theorem expect {kind : TokenKind} {what : Expectation} {f : Nat → Token → Parse β} {w : Token}
    {ws : List Token} (hk : w.kind = kind)
    (h : ∀ t, t.bare = w → Gives (fun fuel => f fuel t) ws Q) :
    Gives (fun fuel => Parse.expect kind what >>= f fuel) (w :: ws) Q := by
  refine .first (q := fun t fuel => f fuel t) (fun t rest fuel ht => ?_) h
  change (Parse.expect kind what (t :: rest) >>= fun r => f fuel r.1 r.2) = _
  rw [Parse.expect, if_pos (by rw [← hk, ← ht]; rfl)]
  rfl

theorem discard {p : Nat → Parse α} {f : Nat → Unit → Parse β}
    (h : Gives (fun fuel => p fuel >>= fun _ => f fuel ()) words Q) :
    Gives (fun fuel => Functor.discard (p fuel) >>= f fuel) words Q := by
  intro tokens same
  obtain ⟨b, rest, hb, n, read⟩ := h tokens same
  refine ⟨b, rest, hb, n, fun fuel room => ?_⟩
  rw [← read fuel room]
  change ((p fuel tokens >>= fun r => Except.ok ((), r.2)) >>= fun r => f fuel r.1 r.2) =
    (p fuel tokens >>= fun r => f fuel () r.2)
  cases p fuel tokens <;> rfl

theorem operator {tier : Tier} {op : Operator} {f : Nat → Option Operator → Parse β} {w : Token}
    {ws : List Token} (hop : tier.operator? w.kind = some op)
    (h : Gives (fun fuel => f fuel (some op)) ws Q) :
    Gives (fun fuel => Parse.operator tier >>= f fuel) (w :: ws) Q := by
  refine .first (q := fun _ fuel => f fuel (some op)) (fun t rest fuel ht => ?_) fun _ _ => h
  have same : tier.operator? t.kind = some op := by
    rw [← hop, ← ht]
    rfl
  change (Parse.operator tier (t :: rest) >>= fun r => f fuel r.1 r.2) = _
  rw [Parse.operator, same]
  rfl

theorem noOperator {tier : Tier} {f : Nat → Option Operator → Parse β}
    (other : ∀ w ∈ words.head?, tier.operator? w.kind = none)
    (h : Gives (fun fuel => f fuel none) words Q) :
    Gives (fun fuel => Parse.operator tier >>= f fuel) words Q := by
  rintro tokens rfl
  obtain ⟨b, rest, hb, n, read⟩ := h tokens rfl
  refine ⟨b, rest, hb, n, fun fuel room => ?_⟩
  rw [← read fuel room]
  cases tokens with
  | nil => rfl
  | cons t tokens =>
    have same : tier.operator? t.kind = none := other t.bare (by simp)
    change (Parse.operator tier (t :: tokens) >>= fun r => f fuel r.1 r.2) = _
    rw [Parse.operator, same]
    rfl

theorem noKey {f : Nat → Option Token → Parse β}
    (other : ∀ w v ws, words = w :: v :: ws → w.IsBareKey → v.kind ≠ .colon)
    (h : Gives (fun fuel => f fuel none) words Q) :
    Gives (fun fuel => Parse.bareKey >>= f fuel) words Q := by
  rintro tokens rfl
  obtain ⟨b, rest, hb, n, read⟩ := h tokens rfl
  refine ⟨b, rest, hb, n, fun fuel room => ?_⟩
  have none : Parse.bareKey tokens = .ok (none, tokens) := by
    unfold Parse.bareKey
    split
    · next t v tokens =>
      refine if_neg fun key => ?_
      simp only [Bool.and_eq_true, decide_eq_true_eq] at key
      refine other t.bare v.bare _ rfl ?_ key.2
      change t.IsBareKey
      unfold Token.IsBareKey
      split at key <;> simp_all
    · rfl
  change (Parse.bareKey tokens >>= fun r => f fuel r.1 r.2) = _
  rw [none]
  exact read fuel room

end Gives

/-! ## Chains of operators -/

variable {words vs : List Token} {Q : Expr → List Token → Prop}

/-- An expression that differs from `e` in places only, with `vs` behind it. -/
def Back (e : Expr) (vs : List Token) (e' : Expr) (rest : List Token) : Prop :=
  e'.bare = e.bare ∧ rest = vs

theorem infixRest_stop {tier : Tier} {left : Expr} (stop : StopsAt tier.level vs)
    (h : Q left vs) : Gives (fun fuel => infixRest fuel tier left) vs Q := by
  refine .step (fun fuel => by rw [infixRest]) (.noOperator (fun w mem => ?_) (.pure h))
  cases op : tier.operator? w.kind with
  | none => rfl
  | some op' =>
    have level := (tier.operator?_isSome_iff w.kind).1 (by rw [op]; rfl)
    exact absurd (stop w mem _ level) (Nat.lt_irrefl _)

variable {e : Expr}

/-- Where no operator of a tier follows, the chain of the tier is its first operand. -/
theorem infixChain_of_operand {tier : Tier}
    (h : Gives (fun fuel => operand fuel tier) words (Back e vs)) (stop : StopsAt tier.level vs) :
    Gives (fun fuel => infixChain fuel tier) words (Back e vs) := by
  refine .step (fun fuel => by rw [infixChain]) (h.bind ?_)
  rintro first _ ⟨same, rfl⟩
  exact infixRest_stop stop ⟨same, rfl⟩

/-- An operand of a tier is a chain of a tighter one, if none of the tiers between them goes on. -/
theorem operand_of_infixChain {tier tight : Tier}
    (h : Gives (fun fuel => infixChain fuel tight) words (Back e vs))
    (below : tier.level < tight.level) (stop : StopsAt (tier.level + 1) vs) :
    Gives (fun fuel => operand fuel tier) words (Back e vs) := by
  obtain ⟨n, gap⟩ := Nat.exists_eq_add_of_lt below
  induction n generalizing tier with
  | zero =>
    cases next : tier.tighter with
    | none =>
      have := Tier.level_of_tightest next
      have := (Tier.level_bounds tight).2
      omega
    | some tighter =>
      have level := Tier.level_tighter next
      obtain rfl : tighter = tight := by
        have : tighter.level = tight.level := by omega
        revert this
        cases tighter <;> cases tight <;> decide
      refine .step (q := fun fuel => infixChain fuel tighter) (fun fuel => ?_) h
      rw [operand, next]
  | succ n ih =>
    cases next : tier.tighter with
    | none =>
      have := Tier.level_of_tightest next
      have := (Tier.level_bounds tight).2
      omega
    | some tighter =>
      have level := Tier.level_tighter next
      have inner := @ih tighter (by omega) (stop.mono (by omega)) (by omega)
      refine .step (q := fun fuel => infixChain fuel tighter) (fun fuel => ?_)
        (infixChain_of_operand inner (level ▸ stop))
      rw [operand, next]

/-- An expression with a sign or without an operator is an operand of every tier. -/
theorem operand_of_unary {tier : Tier} (h : Gives unary words (Back e vs))
    (stop : StopsAt (tier.level + 1) vs) :
    Gives (fun fuel => operand fuel tier) words (Back e vs) := by
  have tightest : Gives (fun fuel => operand fuel .product) words (Back e vs) :=
    .step (q := unary) (fun fuel => by rw [operand]; rfl) h
  by_cases last : tier = .product
  · exact last ▸ tightest
  · have below : tier.level < Tier.level .product := by
      revert last
      cases tier <;> decide
    exact operand_of_infixChain
      (infixChain_of_operand tightest (stop.mono below)) below stop

theorem expression_of_infixChain
    (h : Gives (fun fuel => infixChain fuel .disjunction) words (Back e vs))
    (stop : StopsAt 0 vs) : Gives expression words (Back e vs) := by
  refine .step (fun fuel => by rw [expression]) (h.bind ?_)
  rintro target _ ⟨same, rfl⟩
  refine .reject (fun w mem assign => ?_) (.pure ⟨same, rfl⟩)
  exact absurd (stop w mem 0 (by rw [assign]; rfl)) (Nat.lt_irrefl 0)

/-- A sign, its operand and what takes them stand for themselves where a whole expression does. -/
theorem expression_of_unary (h : Gives unary words (Back e vs)) (stop : StopsAt 0 vs) :
    Gives expression words (Back e vs) :=
  expression_of_infixChain
    (infixChain_of_operand (operand_of_unary h (stop.mono (Nat.zero_le _)))
      (stop.mono (Nat.zero_le _))) stop

/-! ## Chains of calls, elements and fields -/

theorem postfixRest_stop {target : Expr} {Q : Expr → List Token → Prop} (stop : StopsAt 7 vs)
    (h : Q target vs) : Gives (fun fuel => postfixRest fuel target) vs Q := by
  have none (kind : TokenKind) (level : kind.continues = some 8) :
      ∀ w ∈ vs.head?, w.kind ≠ kind := by
    rintro w mem rfl
    exact absurd (stop w mem 8 level) (by decide)
  refine .step (fun fuel => by rw [postfixRest]) (.reject (none _ rfl) ?_)
  exact .reject (none _ rfl) (.reject (none _ rfl) (.pure h))

/-- What begins with no sign begins with something that needs no operand. -/
theorem unary_of_primary {kind : TokenKind} (opens : ∃ w ws, words = w :: ws ∧ w.kind = kind)
    (sign : kind ≠ .minus ∧ kind ≠ .bang)
    (h : Gives (fun fuel => primary fuel >>= postfixRest fuel) words Q) : Gives unary words Q := by
  obtain ⟨w, ws, rfl, rfl⟩ := opens
  refine .step (fun fuel => by rw [unary]) (.reject (by simpa using sign.1) ?_)
  exact .reject (by simpa using sign.2) h

/-! ## Expressions -/

/-- How the words of an expression are read at the places where it can stand. -/
structure Complete (style : Style) (e : Expr) : Prop where
  /-- As a whole, in front of what continues no expression. -/
  whole : ∀ {vs}, StopsAt 0 vs → Gives expression (e.words style ++ vs) (Back e vs)
  /-- As an operand of a tier. -/
  operand : ∀ {tier : Tier} {vs}, tier.level < e.rank → StopsAt (tier.level + 1) vs →
    Gives (fun fuel => operand fuel tier) (e.words style ++ vs) (Back e vs)
  /-- As the first operands of a chain that goes on. -/
  chain : ∀ {tier : Tier} {vs Q}, tier.level ≤ e.rank → StopsAt (tier.level + 1) vs →
    (∀ e', e'.bare = e.bare → Gives (fun fuel => infixRest fuel tier e') vs Q) →
    Gives (fun fuel => infixChain fuel tier) (e.words style ++ vs) Q
  /-- As the operand of a sign. -/
  signed : ∀ {vs}, 7 ≤ e.rank → StopsAt 7 vs → Gives unary (e.words style ++ vs) (Back e vs)
  /-- As what a call, an element or a field is taken of. -/
  target : ∀ {vs Q}, 8 ≤ e.rank →
    (∀ e', e'.bare = e.bare → Gives (fun fuel => postfixRest fuel e') vs Q) →
    Gives (fun fuel => primary fuel >>= postfixRest fuel) (e.words style ++ vs) Q

namespace Complete

variable {style : Style}

theorem of_whole (rank : e.rank = 0)
    (h : ∀ {vs}, StopsAt 0 vs → Gives expression (e.words style ++ vs) (Back e vs)) :
    Complete style e where
  whole := h
  operand low _ := absurd low (by omega)
  chain {tier} _ _ low _ _ := by
    have := (Tier.level_bounds tier).1
    omega
  signed low _ := absurd low (by omega)
  target low _ := absurd low (by omega)

/-- An operand goes on as the chain in front of which it stands. -/
theorem chain_of_operand {tier : Tier} {Q : Expr → List Token → Prop}
    (h : Gives (fun fuel => Parse.operand fuel tier) words (Back e vs))
    (next : ∀ e', e'.bare = e.bare → Gives (fun fuel => infixRest fuel tier e') vs Q) :
    Gives (fun fuel => infixChain fuel tier) words Q := by
  refine .step (fun fuel => by rw [infixChain]) (h.bind ?_)
  rintro first _ ⟨same, rfl⟩
  exact next first same

theorem of_signed (rank : e.rank = 7)
    (h : ∀ {vs}, StopsAt 7 vs → Gives unary (e.words style ++ vs) (Back e vs)) :
    Complete style e where
  whole stop := expression_of_unary (h (stop.mono (by decide))) stop
  operand {tier} _ _ stop := by
    have := (Tier.level_bounds tier).2
    exact operand_of_unary (h (stop.mono (by omega))) stop
  chain {tier} _ _ _ stop next := by
    have := (Tier.level_bounds tier).2
    exact chain_of_operand (operand_of_unary (h (stop.mono (by omega))) stop) next
  signed _ stop := h stop
  target high _ := absurd high (by omega)

/-- What begins with no sign and takes calls, elements and fields. -/
theorem of_target (rank : e.rank = 8) (opens : Opens e.opener e.isWord (e.words style))
    (sign : e.opener ≠ .minus ∧ e.opener ≠ .bang)
    (h : ∀ {vs Q}, (∀ e', e'.bare = e.bare → Gives (fun fuel => postfixRest fuel e') vs Q) →
      Gives (fun fuel => primary fuel >>= postfixRest fuel) (e.words style ++ vs) Q) :
    Complete style e := by
  have signed {vs : List Token} (stop : StopsAt 7 vs) :
      Gives unary (e.words style ++ vs) (Back e vs) :=
    unary_of_primary (opens.more vs) sign
      (h fun e' same => postfixRest_stop stop ⟨same, rfl⟩)
  exact {
    whole := fun stop => expression_of_unary (signed (stop.mono (by decide))) stop
    operand := fun {tier} _ _ stop => by
      have := (Tier.level_bounds tier).2
      exact operand_of_unary (signed (stop.mono (by omega))) stop
    chain := fun {tier} _ _ _ stop next => by
      have := (Tier.level_bounds tier).2
      exact chain_of_operand (operand_of_unary (signed (stop.mono (by omega))) stop) next
    signed := fun _ stop => signed stop
    target := fun _ next => h next }

/-- What is read whatever stands behind it. -/
theorem of_primary (rank : e.rank = 8) (opens : Opens e.opener e.isWord (e.words style))
    (sign : e.opener ≠ .minus ∧ e.opener ≠ .bang)
    (h : ∀ vs, Gives primary (e.words style ++ vs) (Back e vs)) : Complete style e := by
  refine of_target rank opens sign fun {vs Q} next => (h vs).bind ?_
  rintro e' _ ⟨same, rfl⟩
  exact next e' same

/-- An infix operator takes what was read of its tier as its left operand. -/
theorem of_operator {tier : Tier} {op : Operator} {left right : Expr} (rank : e.rank = tier.level)
    (words : e.words style = left.words style ++ .mark op.kind :: right.words style)
    (node : ∀ left' right' : Expr, left'.bare = left.bare → right'.bare = right.bare →
      (op.node left' right').bare = e.bare)
    (kind : tier.operator? op.kind = some op) (hl : Complete style left)
    (hr : Complete style right) (first : tier.level ≤ left.rank)
    (second : tier.level < right.rank) : Complete style e := by
  have own {vs : List Token} {Q : Expr → List Token → Prop} (stop : StopsAt (tier.level + 1) vs)
      (next : ∀ e', e'.bare = e.bare → Gives (fun fuel => infixRest fuel tier e') vs Q) :
      Gives (fun fuel => infixChain fuel tier) (e.words style ++ vs) Q := by
    rw [words, List.append_assoc, List.cons_append]
    have behind : StopsAt (tier.level + 1) (Token.mark op.kind :: (right.words style ++ vs)) := by
      intro t mem n level
      obtain rfl := Option.some.inj mem
      have := (tier.operator?_isSome_iff op.kind).1 (by rw [kind]; rfl)
      obtain rfl := Option.some.inj (level.symm.trans this)
      exact Nat.lt_succ_self _
    refine hl.chain first behind fun left' sameLeft => ?_
    refine .step (fun fuel => by rw [infixRest]) (.operator kind ((hr.operand second stop).bind ?_))
    rintro right' _ ⟨sameRight, rfl⟩
    exact next _ (node left' right' sameLeft sameRight)
  have alone {vs : List Token} (stop : StopsAt tier.level vs) :
      Gives (fun fuel => infixChain fuel tier) (e.words style ++ vs) (Back e vs) :=
    own (stop.mono (Nat.le_succ _)) fun e' same => infixRest_stop stop ⟨same, rfl⟩
  have operand {loose : Tier} {vs : List Token} (low : loose.level < e.rank)
      (stop : StopsAt (loose.level + 1) vs) :
      Gives (fun fuel => Parse.operand fuel loose) (e.words style ++ vs) (Back e vs) :=
    operand_of_infixChain (alone (stop.mono (by omega))) (rank ▸ low) stop
  have bounds := Tier.level_bounds tier
  exact {
    whole := fun {vs} stop => by
      by_cases loosest : tier = .disjunction
      · subst loosest
        exact expression_of_infixChain (alone (stop.mono (Nat.zero_le _))) stop
      · have low : Tier.level .disjunction < e.rank := by
          rw [rank]
          revert loosest
          cases tier <;> decide
        exact expression_of_infixChain (infixChain_of_operand
          (operand low (stop.mono (Nat.zero_le _))) (stop.mono (Nat.zero_le _))) stop
    operand := operand
    chain := fun {loose} _ _ low stop next => by
      by_cases same : loose = tier
      · subst same
        exact own stop next
      · refine chain_of_operand (operand ?_ stop) next
        rw [rank] at low ⊢
        refine Nat.lt_of_le_of_ne low fun eq => same ?_
        revert eq
        cases loose <;> cases tier <;> decide
    signed := fun high => absurd high (by omega)
    target := fun high => absurd high (by omega) }

end Complete

/-! ## Lists -/

section Lists

variable {style : Style}

theorem stopsAt_mark {kind : TokenKind} (h : kind.continues = none) (n : Nat)
    (words : List Token) : StopsAt n (.mark kind :: words) := by
  intro t mem k level
  obtain rfl := Option.some.inj mem
  exact absurd (h.symm.trans level) (by simp)

/-- The first word of a canonical expression is of no kind that begins none. -/
theorem head_ne {e : Expr} {kind : TokenKind} (opens : Opens e.opener e.isWord (e.words style))
    (h : kind.opensExpr = false) (vs : List Token) :
    ∀ w ∈ (e.words style ++ vs).head?, w.kind ≠ kind := by
  obtain ⟨w, ws, split, hk⟩ := opens.more vs
  rw [split]
  rintro _ ⟨⟩ rfl
  have := e.opensExpr_opener
  rw [← hk, h] at this
  exact absurd this (by simp)

theorem gives_list {closing : TokenKind} (closes : closing.continues = none)
    (ends : closing.opensExpr = false) (notComma : closing ≠ .comma) {es : List Expr}
    (complete : ∀ e ∈ es, Complete style e ∧ Opens e.opener e.isWord (e.words style))
    (vs : List Token) :
    Gives (fun fuel => list fuel closing)
      (Token.commas (es.map (·.words style)) ++ .mark closing :: vs)
      fun es' us => Expr.bareAll es' = Expr.bareAll es ∧ us = .mark closing :: vs := by
  induction es with
  | nil =>
    refine .step (fun fuel => by rw [list]) ?_
    exact .sees rfl (.pure ⟨rfl, rfl⟩)
  | cons e es ih =>
    obtain ⟨whole, opens⟩ := complete e List.mem_cons_self
    have rest := ih fun e' mem => complete e' (List.mem_cons_of_mem e mem)
    cases es with
    | nil =>
      refine .step (fun fuel => by rw [list]) (.misses (head_ne opens ends _) ?_)
      refine (whole.whole (stopsAt_mark closes 0 vs)).bind ?_
      rintro item _ ⟨same, rfl⟩
      refine .reject (by simpa [Token.mark] using notComma) (.pure ⟨?_, rfl⟩)
      simp [Expr.bareAll, same]
    | cons next es =>
      rw [List.map_cons, List.map_cons, Token.commas, List.append_assoc, List.cons_append]
      · refine .step (fun fuel => by rw [list]) (.misses (head_ne opens ends _) ?_)
        refine (whole.whole (stopsAt_mark rfl 0 _)).bind ?_
        rintro item _ ⟨same, rfl⟩
        refine .accept rfl fun comma _ => rest.bind ?_
        rintro items _ ⟨sames, rfl⟩
        exact .pure ⟨by simp [Expr.bareAll, same, sames], rfl⟩
      · simp

theorem gives_entries {entries : List (Expr × Expr)}
    (complete : ∀ entry ∈ entries, (Complete style entry.1 ∧
      Opens entry.1.opener entry.1.isWord (entry.1.words style)) ∧
        Complete style entry.2 ∧ ¬ entry.1.isWord) (vs : List Token) :
    Gives Parse.entries
      (Token.commas (entries.map fun entry => entry.1.words style ++
        .mark .colon :: entry.2.words style) ++ .mark .braceClose :: vs)
      fun es us =>
        Expr.bareEntries es = Expr.bareEntries entries ∧ us = .mark .braceClose :: vs := by
  induction entries with
  | nil =>
    refine .step (fun fuel => by rw [Parse.entries]) ?_
    exact .sees rfl (.pure ⟨rfl, rfl⟩)
  | cons entry entries ih =>
    obtain ⟨key, value⟩ := entry
    obtain ⟨⟨hk, opens⟩, hv, several⟩ := complete _ List.mem_cons_self
    have rest := ih fun e mem => complete e (List.mem_cons_of_mem _ mem)
    have noKey (us : List Token) : ∀ w v ws, key.words style ++ .mark .colon :: us = w :: v :: ws →
        w.IsBareKey → v.kind ≠ .colon := by
      obtain ⟨w, ws, split, -, second⟩ := opens
      rw [split]
      rintro w' v us' eq bare
      obtain ⟨rfl, tail⟩ := List.cons.inj eq
      rcases second bare with ⟨-, alone⟩ | ⟨v', vs', rfl, hv'⟩
      · exact absurd alone several
      · exact (List.cons.inj tail).1 ▸ hv'
    cases entries with
    | nil =>
      rw [List.map_cons, List.map_nil, Token.commas, List.append_assoc, List.cons_append]
      refine .step (fun fuel => by rw [Parse.entries]) (.misses (head_ne opens rfl _) ?_)
      refine .noKey (noKey _) ((hk.whole (stopsAt_mark rfl 0 _)).bind ?_)
      rintro key' _ ⟨sameKey, rfl⟩
      refine .discard (.expect rfl fun colon _ => (hv.whole (stopsAt_mark rfl 0 _)).bind ?_)
      rintro value' _ ⟨sameValue, rfl⟩
      refine .reject (by simp [Token.mark]) (.pure ⟨?_, rfl⟩)
      simp [Expr.bareEntries, sameKey, sameValue]
    | cons next entries =>
      rw [List.map_cons, List.map_cons, Token.commas, List.append_assoc, List.append_assoc,
        List.cons_append, List.cons_append]
      · refine .step (fun fuel => by rw [Parse.entries]) (.misses (head_ne opens rfl _) ?_)
        refine .noKey (noKey _) ((hk.whole (stopsAt_mark rfl 0 _)).bind ?_)
        rintro key' _ ⟨sameKey, rfl⟩
        refine .discard (.expect rfl fun colon _ => (hv.whole (stopsAt_mark rfl 0 _)).bind ?_)
        rintro value' _ ⟨sameValue, rfl⟩
        refine .accept rfl fun comma _ => rest.bind ?_
        rintro es _ ⟨sames, rfl⟩
        exact .pure ⟨by simp [Expr.bareEntries, sameKey, sameValue, sames], rfl⟩
      · simp

/-! ## Parameters and patterns -/

theorem gives_paramsFrom {closing : TokenKind} (notComma : closing ≠ .comma) {p : Param}
    {ps read : List Param} (distinct : ((read ++ p :: ps).map (·.name)).Nodup) (vs : List Token) :
    Gives (fun fuel => paramsFrom fuel read) (Param.words (p :: ps) ++ .mark closing :: vs)
      fun found us => found.map (·.bare) = (read ++ p :: ps).map (·.bare) ∧
        us = .mark closing :: vs := by
  have fresh {p : Param} {ps read : List Param}
      (distinct : ((read ++ p :: ps).map (·.name)).Nodup) :
      read.any (·.name = p.name) = false := by
    rw [List.map_append, List.nodup_append] at distinct
    rw [List.any_eq_false]
    intro q mem
    simpa using distinct.2.2 q.name (List.mem_map_of_mem mem) p.name (by simp)
  induction ps generalizing p read with
  | nil =>
    refine .step (fun fuel => by rw [paramsFrom]) ?_
    refine .expect rfl fun t ht => ?_
    have text : t.text = p.name := congrArg Token.text ht
    simp only [text, fresh distinct, Bool.false_eq_true, if_false]
    exact .reject (by simpa [Token.mark] using notComma) (.pure ⟨by simp [Param.bare], rfl⟩)
  | cons next ps ih =>
    refine .step (fun fuel => by rw [paramsFrom]) ?_
    refine .expect rfl fun t ht => ?_
    have text : t.text = p.name := congrArg Token.text ht
    simp only [text, fresh distinct, Bool.false_eq_true, if_false]
    refine .accept rfl fun comma _ => ?_
    refine (@ih next (read ++ [⟨p.name, t.span⟩]) (by simpa using distinct)).mono ?_
    rintro found us ⟨same, rfl⟩
    exact ⟨by rw [same]; simp [Param.bare], rfl⟩

theorem gives_params {closing : TokenKind} (notComma : closing ≠ .comma)
    (notName : closing ≠ .identifier) {params : List Param}
    (distinct : (params.map (·.name)).Nodup) (vs : List Token) :
    Gives (fun fuel => Parse.params fuel closing) (Param.words params ++ .mark closing :: vs)
      fun found us => found.map (·.bare) = params.map (·.bare) ∧ us = .mark closing :: vs := by
  unfold Parse.params
  cases params with
  | nil => exact .sees rfl (.pure ⟨rfl, rfl⟩)
  | cons p ps =>
    refine .misses (fun w mem eq => ?_) (gives_paramsFrom notComma ?_ vs)
    · cases ps <;>
      · obtain rfl := Option.some.inj mem
        exact notName eq.symm
    · simpa using distinct

end Lists

end Parse

end LayerScript
