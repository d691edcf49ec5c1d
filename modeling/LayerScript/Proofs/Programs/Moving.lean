import LayerScript.Proofs.Programs.Placing

/-!
# Readers that move

A reader moves when from tokens at other places it reads the tree at these places, or meets the
fault there. The two readings that are compared need not have the same fuel, so a reader that moves
has enough.
-/

namespace LayerScript

namespace Parse

variable {α β : Type} {g : Placement} {n used : Nat} {move : α → α} {move' : β → β}

/-- Two results of reading, the second from moved tokens. At least `used` of `total` tokens are used
up, and the fuel lasted. -/
inductive Moved (g : Placement) (move : α → α) (used total : Nat) :
    Except GrammarFault (α × List Token) → Except GrammarFault (α × List Token) → Prop
  | ok {a rest} : rest.length + used ≤ total →
      Moved g move used total (.ok (a, rest)) (.ok (move a, rest.map (·.place g)))
  | error {f} : f ≠ .outOfFuel → Moved g move used total (.error f) (.error (f.place g))

theorem Moved.le {used' total total' : Nat} {x y : Except GrammarFault (α × List Token)}
    (h : Moved g move used total x y) (room : total + used' ≤ total' + used) :
    Moved g move used' total' x y := by
  cases h with
  | ok fits => exact .ok (by omega)
  | error lasted => exact .error lasted

theorem Moved.expected {total : Nat} (what : Expectation) (found : Option Token) :
    Moved g move used total (.error (.expected what found))
      (.error (.expected what (found.map (·.place g)))) :=
  .error (f := .expected what found) nofun

/-- From at most `n` tokens `p` reads what `p'` reads from the moved ones, but for the move. -/
def Moves (g : Placement) (move : α → α) (n used : Nat) (p p' : Parse α) : Prop :=
  ∀ tokens, tokens.length ≤ n →
    Moved g move used tokens.length (p tokens) (p' (tokens.map (·.place g)))

/-- A reader that cannot fail: it takes the next token for something or leaves all tokens. -/
def Takes (g : Placement) (move : α → α) (q : Parse (Option α)) : Prop :=
  ∀ tokens,
    (q tokens = .ok (none, tokens) ∧
      q (tokens.map (·.place g)) = .ok (none, tokens.map (·.place g))) ∨
    ∃ a token rest, tokens = token :: rest ∧ q tokens = .ok (some a, rest) ∧
      q (tokens.map (·.place g)) = .ok (some (move a), rest.map (·.place g))

namespace Takes

theorem accept (kind : TokenKind) : Takes g (·.place g) (Parse.accept kind) := by
  intro tokens
  cases tokens with
  | nil => exact .inl ⟨rfl, rfl⟩
  | cons token rest =>
    by_cases hk : token.kind = kind
    · exact .inr ⟨token, token, rest, rfl, if_pos hk, if_pos hk⟩
    · exact .inl ⟨if_neg hk, if_neg hk⟩

theorem operator (tier : Tier) : Takes g id (Parse.operator tier) := by
  intro tokens
  cases tokens with
  | nil => exact .inl ⟨rfl, rfl⟩
  | cons token rest =>
    simp only [List.map_cons, Parse.operator, Token.place]
    cases tier.operator? token.kind with
    | none => exact .inl ⟨rfl, rfl⟩
    | some op => exact .inr ⟨op, token, rest, rfl, rfl, rfl⟩

theorem bareKey : Takes g (·.place g) Parse.bareKey := by
  intro tokens
  rcases tokens with _ | ⟨token, _ | ⟨colon, rest⟩⟩
  · exact .inl ⟨rfl, rfl⟩
  · exact .inl ⟨rfl, rfl⟩
  · simp only [List.map_cons, Parse.bareKey, Token.place]
    split
    · exact .inr ⟨token, token, colon :: rest, rfl, rfl, rfl⟩
    · exact .inl ⟨rfl, rfl⟩

end Takes

namespace Moves

variable {p p' : Parse α}

theorem pure {a a' : α} (h : move a = a') : Moves g move n 0 (Pure.pure a) (Pure.pure a') := by
  subst h
  exact fun tokens _ => .ok (Nat.le_refl _)

theorem fault {f : GrammarFault} (h : f ≠ .outOfFuel) :
    Moves g move n used (Parse.fault f) (Parse.fault (f.place g)) :=
  fun _ _ => .error h

/-- The fuel of a reader that moves lasts. -/
theorem lasts {tokens : List Token} (hp : Moves g move tokens.length used p p') :
    p tokens ≠ .error .outOfFuel := by
  intro out
  have moved := hp tokens (Nat.le_refl _)
  rw [out] at moved
  generalize p' (tokens.map (·.place g)) = y at moved
  cases moved with
  | error lasted => exact lasted rfl

theorem le {less : Nat} (hp : Moves g move n used p p') (h : less ≤ used) :
    Moves g move n less p p' :=
  fun tokens ht => (hp tokens ht).le (by omega)

/-- What follows `p` has fewer tokens left and need use up no more than is missing. -/
theorem bind {first : Nat} {f f' : α → Parse β} (hp : Moves g move n first p p')
    (hf : ∀ a, first ≤ n → Moves g move' (n - first) (used - first) (f a) (f' (move a))) :
    Moves g move' n used (p >>= f) (p' >>= f') := by
  intro tokens ht
  have moved := hp tokens ht
  change Moved g move' used _ (p tokens >>= fun r => f r.1 r.2)
    (p' (tokens.map (·.place g)) >>= fun r => f' r.1 r.2)
  generalize p tokens = x, p' (tokens.map (·.place g)) = y at moved ⊢
  cases moved with
  | error lasted => exact .error lasted
  | @ok a rest room => exact (hf a (by omega) rest (by omega)).le (by omega)

theorem map {f f' : α → β} (hp : Moves g move n used p p')
    (hf : ∀ a, move' (f a) = f' (move a)) : Moves g move' n used (f <$> p) (f' <$> p') := by
  change Moves g move' n used (p >>= fun a => Pure.pure (f a)) (p' >>= fun a => Pure.pure (f' a))
  refine hp.bind fun a _ => ?_
  rw [Nat.sub_self]
  exact .pure (hf a)

theorem discard (hp : Moves g move n used p p') :
    Moves g id n used (Functor.discard p) (Functor.discard p') :=
  hp.map fun _ => rfl

theorem nextKind {f f' : Option TokenKind → Parse β}
    (hf : ∀ kind, Moves g move' n used (f kind) (f' kind)) :
    Moves g move' n used (Parse.nextKind >>= f) (Parse.nextKind >>= f') := by
  intro tokens ht
  cases tokens with
  | nil => exact hf none [] ht
  | cons token rest => exact hf (some token.kind) (token :: rest) ht

theorem sees {f f' : Bool → Parse β} (kind : TokenKind)
    (hf : ∀ seen, Moves g move' n used (f seen) (f' seen)) :
    Moves g move' n used (Parse.sees kind >>= f) (Parse.sees kind >>= f') :=
  nextKind fun next => hf (next = some kind)

/-- Statements and arms end in front of a closing brace. -/
theorem untilBrace {p p' q q' : Parse α} (closed : Moves g move n used p p')
    (more : Moves g move n used q q') :
    Moves g move n used
      (do
        match ← Parse.nextKind with
        | none | some .braceClose => p
        | some _ => q)
      (do
        match ← Parse.nextKind with
        | none | some .braceClose => p'
        | some _ => q') := by
  refine .nextKind fun kind => ?_
  rcases kind with _ | kind
  · exact closed
  · cases kind with
    | braceClose => exact closed
    | _ => exact more

theorem expect (kind : TokenKind) (what : Expectation) :
    Moves g (·.place g) n 1 (Parse.expect kind what) (Parse.expect kind what) := by
  intro tokens _
  cases tokens with
  | nil => exact .error nofun
  | cons token rest =>
    simp only [List.map_cons, Parse.expect, Token.place]
    split
    · exact .ok (Nat.le_refl _)
    · exact .error nofun

/-- What may be there is used up if it is. -/
theorem takes {q : Parse (Option α)} {f f' : Option α → Parse β} (hq : Takes g move q)
    (taken : ∀ a, 1 ≤ n → Moves g move' (n - 1) (used - 1) (f (some a)) (f' (some (move a))))
    (left : Moves g move' n used (f none) (f' none)) :
    Moves g move' n used (q >>= f) (q >>= f') := by
  intro tokens ht
  change Moved g move' used _ (q tokens >>= fun r => f r.1 r.2)
    (q (tokens.map (·.place g)) >>= fun r => f' r.1 r.2)
  rcases hq tokens with ⟨first, second⟩ | ⟨a, token, rest, rfl, first, second⟩
  · rw [first, second]
    exact left tokens ht
  · have room : rest.length + 1 ≤ n := ht
    rw [first, second]
    refine (taken a (by omega) rest (by omega)).le ?_
    rw [List.length_cons]
    omega

theorem discard_accept (kind : TokenKind) :
    Moves g id n 0 (Functor.discard (Parse.accept kind)) (Functor.discard (Parse.accept kind)) := by
  change Moves g id n 0 (Parse.accept kind >>= fun _ => Pure.pure ())
    (Parse.accept kind >>= fun _ => Pure.pure ())
  exact takes (.accept kind) (fun _ _ => .pure rfl) (.pure rfl)

theorem optionalSemicolon : Moves g id n 0 Parse.optionalSemicolon Parse.optionalSemicolon :=
  discard_accept _

theorem number (token : Token) :
    Moves g id n 0 (Parse.number token) (Parse.number (token.place g)) := by
  unfold Parse.number Token.place
  cases numberLiteral token.text with
  | ok value => exact .pure rfl
  | error flaw => cases flaw <;> exact .fault nofun

end Moves

/-! ## Parameters and patterns -/

variable {extra fuel : Nat}

theorem moves_paramsFrom (n : Nat) (read : List Param) (room : 32 * n + 1 ≤ fuel) :
    Moves g (List.map (·.place g)) n 1 (paramsFrom fuel read)
      (paramsFrom (extra + fuel) (read.map (·.place g))) := by
  induction fuel generalizing n read with
  | zero => omega
  | succ fuel ih =>
    rw [← Nat.add_assoc]
    unfold paramsFrom
    refine (Moves.expect _ _).bind fun token some => ?_
    have known : (read.map (·.place g)).any (·.name = (token.place g).text) =
        read.any (·.name = token.text) := by
      rw [List.any_map]
      rfl
    rw [known]
    split
    · exact fun _ _ => .expected (.newParameterName token.text) (Option.some token)
    · refine .takes (.accept _) (fun comma left => ?_) (.pure (by simp; rfl))
      have more := ih (n - 1 - 1) (read ++ [⟨token.text, token.span⟩]) (by omega)
      rw [List.map_append] at more
      exact more.le (by omega)

theorem moves_params (n : Nat) (closing : TokenKind) (room : 32 * n + 1 ≤ fuel) :
    Moves g (List.map (·.place g)) n 0 (params fuel closing) (params (extra + fuel) closing) := by
  refine .sees closing fun closed => ?_
  cases closed with
  | true => exact .pure rfl
  | false => exact (moves_paramsFrom n [] room).le (Nat.zero_le _)

theorem moves_negated : Moves g id n 1 pattern.negated pattern.negated :=
  (Moves.expect _ _).bind fun token _ => (Moves.number token).bind fun _ _ => .pure rfl

/-- Every pattern that is read on some fuel, and on more of it from moved tokens, is the same. -/
structure UniformPatterns (g : Placement) (extra fuel : Nat) : Prop where
  pattern : ∀ n, 32 * n + 1 ≤ fuel → Moves g id n 1 (pattern fuel) (pattern (extra + fuel))
  tuple : ∀ n, 32 * n + 3 ≤ fuel → Moves g id n 0 (tuple fuel) (tuple (extra + fuel))
  patternsFrom : ∀ n, 32 * n + 2 ≤ fuel →
    Moves g id n 1 (patternsFrom fuel) (patternsFrom (extra + fuel))

namespace UniformPatterns

variable (ih : UniformPatterns g extra fuel) (n : Nat)

include ih

theorem pattern_step (room : 32 * n + 1 ≤ fuel + 1) :
    Moves g id n 1 (Parse.pattern (fuel + 1)) (Parse.pattern (extra + fuel + 1)) := by
  intro tokens ht
  unfold Parse.pattern
  rcases tokens with _ | ⟨⟨kind, text, span⟩, rest⟩
  · exact .expected _ none
  have short : rest.length + 1 ≤ n := ht
  have parts := ih.tuple (n - 1) (by omega)
  have positive : Moves g id (n - 1) 0 (Pattern.literal <$> Parse.number ⟨kind, text, span⟩)
      (Pattern.literal <$> Parse.number ⟨kind, text, g.span span⟩) :=
    (Moves.number ⟨kind, text, span⟩).map fun _ => rfl
  have negative : Moves g id (n - 1) 0
      (pattern.negated >>= fun value => pure (Pattern.literal value))
      (pattern.negated >>= fun value => pure (Pattern.literal value)) :=
    moves_negated.bind fun _ _ => .pure rfl
  cases kind with
  | identifier =>
    by_cases blank : text = "_"
    · subst blank
      exact .ok (Nat.le_refl _)
    · simp only [List.map_cons, Token.place, if_neg blank]
      exact .ok (Nat.le_refl _)
  | parenOpen => exact (parts rest (by omega)).le (by simp)
  | number => exact (positive rest (by omega)).le (by simp)
  | minus => exact (negative rest (by omega)).le (by simp)
  | string => exact .ok (Nat.le_refl _)
  | keyword word =>
    cases word with
    | trueWord => exact .ok (Nat.le_refl _)
    | falseWord => exact .ok (Nat.le_refl _)
    | noneWord => exact .ok (Nat.le_refl _)
    | _ => exact .expected _ _
  | _ => exact .expected _ _

theorem tuple_step (room : 32 * n + 3 ≤ fuel + 1) :
    Moves g id n 0 (Parse.tuple (fuel + 1)) (Parse.tuple (extra + fuel + 1)) := by
  unfold Parse.tuple
  have closing (parts : List Pattern) {n : Nat} : Moves g id n 0 (do
      Functor.discard (Parse.expect .parenClose .tupleEnd)
      return Pattern.tuple parts) (do
      Functor.discard (Parse.expect .parenClose .tupleEnd)
      return Pattern.tuple parts) := (Moves.expect _ _).discard.bind fun _ _ => .pure rfl
  refine .sees _ fun empty => ?_
  cases empty with
  | true => exact closing []
  | false => exact (ih.patternsFrom n (by omega)).bind fun parts _ => (closing parts).le (by omega)

theorem patternsFrom_step (room : 32 * n + 2 ≤ fuel + 1) :
    Moves g id n 1 (Parse.patternsFrom (fuel + 1)) (Parse.patternsFrom (extra + fuel + 1)) := by
  unfold Parse.patternsFrom
  refine (ih.pattern n (by omega)).bind fun part some => ?_
  refine .takes (.accept _) (fun comma left => ?_) (.pure rfl)
  exact (ih.patternsFrom _ (by omega)).bind fun _ _ => .pure rfl

end UniformPatterns

theorem uniformPatterns (g : Placement) (extra fuel : Nat) : UniformPatterns g extra fuel := by
  induction fuel with
  | zero => constructor <;> intros <;> omega
  | succ fuel ih => exact ⟨ih.pattern_step, ih.tuple_step, ih.patternsFrom_step⟩

end Parse

end LayerScript
