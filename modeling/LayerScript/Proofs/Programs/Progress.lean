import LayerScript.Proofs.Programs.Locations
import LayerScript.Proofs.Programs.Soundness
import Mathlib.Data.List.TakeDrop

/-!
# The parser goes on

The parser has a cursor among the tokens of a source and the mark of the end. Its functions move the
cursor on and leave it at a token or at the mark. Those for statements, expressions and patterns
move it past a token at least, and so does each round of a loop. So the parser comes to an end: it
has read all tokens, or it reports a place in the source.
-/

namespace LayerScript

/-! ## What is written has tokens -/

theorem Bars.ne_nil {opening : Token} {params : List Param} {ts : List Token}
    (h : Bars opening params ts) : ts ≠ [] := by
  cases h <;> simp

theorem Pattern.Written.ne_nil {shape : Pattern} {ts : List Token} (h : shape.Written ts) :
    ts ≠ [] := by
  cases h <;> simp

theorem Pattern.Parts.ne_nil {part : Pattern} {parts : List Pattern} {ts : List Token}
    (h : Pattern.Parts (part :: parts) ts) : ts ≠ [] := by
  cases h with
  | last written => exact written.ne_nil
  | cons => simp

theorem Expr.Written.ne_nil {e : Expr} {ts : List Token} (h : e.Written ts) : ts ≠ [] := by
  cases h with
  | lambda bars | yielding bars => simp [bars.ne_nil]
  | _ => simp

theorem Expr.Key.ne_nil {key : Expr} {ts : List Token} (h : key.Key ts) : ts ≠ [] := by
  cases h with
  | bare => simp
  | computed written => exact written.ne_nil

theorem Stmt.Braced.ne_nil {body : List Stmt} {span : Span} {ts : List Token}
    (h : Stmt.Braced body span ts) : ts ≠ [] := by
  cases h
  simp

theorem Stmt.Written.ne_nil {s : Stmt} {ts : List Token} (h : s.Written ts) : ts ≠ [] := by
  cases h with
  | expr written => simp [written.ne_nil]
  | block braced => exact braced.ne_nil
  | _ => simp

theorem Params.ne_nil {p : Param} {ps : List Param} {ts : List Token}
    (h : Params (p :: ps) ts) : ts ≠ [] := by
  cases h <;> simp

namespace Parse

variable {α σ : Type} {source : String} {i : Nat} {tokens taken used rest : List Token}
  {uses : α → Nat → Prop} {p : Parse α}

/-! ## The cursor -/

/-- The cursor is at place `i` of the tokens of a source and the mark of its end, and `tokens` are
left up to the mark. -/
def Stands (source : String) (i : Nat) (tokens : List Token) : Prop :=
  ∃ all, tokenize source = .ok all ∧ all.drop i = tokens ++ [endToken source]

theorem stands_zero (scanned : scanTokens source = .ok tokens) : Stands source 0 tokens :=
  ⟨_, tokenize_of_scanTokens scanned, rfl⟩

theorem Stands.forward (h : Stands source i (used ++ rest)) :
    Stands source (i + used.length) rest := by
  obtain ⟨all, split, left⟩ := h
  refine ⟨all, split, ?_⟩
  rw [← List.drop_drop, left, List.append_assoc, List.drop_left]

/-- There always is a token at the cursor. It is the mark of the end if no token is left. -/
theorem Stands.exists_token (h : Stands source i tokens) : ∃ all token,
    tokenize source = .ok all ∧ all[i]? = some token ∧
      (token.kind = .endOfText ↔ tokens = []) := by
  obtain ⟨all, split, left⟩ := h
  have found : all[i]? = (tokens ++ [endToken source])[0]? := by
    rw [← left, List.getElem?_drop, Nat.add_zero]
  refine ⟨all, _, split, found.trans (List.getElem?_eq_getElem (by simp)), ?_⟩
  cases tokens with
  | nil => exact iff_of_true rfl rfl
  | cons token rest =>
    cases scanned : scanTokens source with
    | error d =>
      rw [tokenize, scanned] at split
      cases split
    | ok words =>
      obtain rfl := Except.ok.inj ((tokenize_of_scanTokens scanned).symm.trans split)
      obtain ⟨stop, gap, m, -⟩ := munches_of_scanTokens scanned
      have inner : words.drop i = token :: rest := by
        have last := congrArg List.dropLast left
        rwa [List.dropLast_drop_eq_drop_dropLast, List.dropLast_concat, List.dropLast_concat]
          at last
      have mem : token ∈ words := List.mem_of_mem_drop (inner ▸ List.mem_cons_self)
      obtain ⟨ne, -⟩ := m.covers [] rfl rfl token mem
      exact iff_of_false ne (List.cons_ne_nil _ _)

/-- Behind the tokens `taken` the cursor is moved on, from the first of them by as many places as
`uses` allows for what is read. It still stands at a token, or at the mark of the end. -/
def Passes (source : String) (taken : List Token) (uses : α → Nat → Prop) (p : Parse α) : Prop :=
  ∀ i tokens, Stands source i (taken ++ tokens) → ∀ a rest, p tokens = .ok (a, rest) →
    ∃ n, uses a n ∧ Stands source (i + n) rest

theorem passes_of_uses
    (h : ∀ tokens, Uses p tokens fun used a _ => uses a (taken ++ used).length) :
    Passes source taken uses p := by
  intro i tokens stands a rest read
  obtain ⟨used, rfl, far⟩ := h tokens a rest read
  rw [← List.append_assoc] at stands
  exact ⟨_, far, stands.forward⟩

/-! ## Functions of the grammar

Which tokens a function uses up is known from what it reads (`sound`), and that its fuel lasts is
known from the bound on its calls (`uniform`). -/

/-- A function moves the cursor on, whatever fuel it has, and enough fuel lasts. -/
structure Advances (source : String) (taken : List Token) (uses : α → Nat → Prop)
    (p : Nat → Parse α) : Prop where
  passes : ∀ fuel, Passes source taken uses (p fuel)
  ends : ∀ fuel tokens, 32 * (tokens.length + 1) ≤ fuel → p fuel tokens ≠ .error .outOfFuel

/-- A function that uses up a token at least. -/
def Consumes (source : String) (taken : List Token) (p : Nat → Parse α) : Prop :=
  Advances source taken (fun _ n => 0 < n) p

/-- A function behind a token of a kind, which counts. -/
def Behind (source : String) (kind : TokenKind) (p : Nat → Token → Parse α) : Prop :=
  ∀ start, start.kind = kind → Consumes source [start] (p · start)

/-- A function that may use up no token. -/
def Helps (source : String) (p : Nat → Parse α) : Prop :=
  Advances source [] (fun _ _ => True) p

/-- What is known of the tokens that are used up may say that there are some. -/
theorem consumes_of_uses {p : Nat → Parse α} {Q : Nat → List Token → α → List Token → Prop}
    (h : ∀ fuel tokens, Uses (p fuel) tokens (Q fuel))
    (some : ∀ fuel used a rest, Q fuel used a rest → taken ++ used ≠ [])
    (ends : ∀ fuel tokens, 32 * (tokens.length + 1) ≤ fuel → p fuel tokens ≠ .error .outOfFuel) :
    Consumes source taken p where
  passes fuel := passes_of_uses fun tokens => (h fuel tokens).mono fun used a rest read =>
    List.length_pos_iff.2 (some fuel used a rest read)
  ends := ends

theorem helps_of_uses {p : Nat → Parse α} {Q : Nat → List Token → α → List Token → Prop}
    (h : ∀ fuel tokens, Uses (p fuel) tokens (Q fuel))
    (ends : ∀ fuel tokens, 32 * (tokens.length + 1) ≤ fuel → p fuel tokens ≠ .error .outOfFuel) :
    Helps source p where
  passes fuel := passes_of_uses fun tokens => (h fuel tokens).mono fun _ _ _ _ => trivial
  ends := ends

theorem behind_of_uses {kind : TokenKind} {p : Nat → Token → Parse α}
    {Q : Nat → Token → List Token → α → List Token → Prop}
    (h : ∀ start, start.kind = kind → ∀ fuel tokens, Uses (p fuel start) tokens (Q fuel start))
    (ends : ∀ start fuel tokens, 32 * (tokens.length + 1) ≤ fuel →
      p fuel start tokens ≠ .error .outOfFuel) : Behind source kind p :=
  fun start eq => consumes_of_uses (h start eq) (fun _ _ _ _ _ => List.cons_ne_nil _ _)
    (ends start)

/-- What may be there is used up if it is. -/
theorem advances_of_takes {move : α → α} {q : Parse (Option α)} (h : Takes (.after 0) move q) :
    Advances source [] (fun found n => n = found.toList.length) fun _ => q where
  passes _ := by
    refine passes_of_uses fun tokens a rest read => ?_
    rcases h tokens with ⟨left, -⟩ | ⟨a, token, rest, rfl, taken, -⟩
    · rw [left] at read
      cases read
      exact ⟨[], rfl, rfl⟩
    · rw [taken] at read
      cases read
      exact ⟨[token], rfl, rfl⟩
  ends _ tokens _ := by
    rcases h tokens with ⟨left, -⟩ | ⟨a, token, rest, rfl, taken, -⟩
    · rw [left]
      nofun
    · rw [taken]
      nofun

/-- The key of a map entry. -/
def mapKey (fuel : Nat) : Parse Expr := do
  match ← bareKey with
  | some word => return .literal word.span (.text word.text)
  | none => expression fuel

/-- A primary expression and the calls, elements and fields behind it. -/
def suffixed (fuel : Nat) : Parse Expr := do
  postfixRest fuel (← primary fuel)

/-- All functions of the grammar move the cursor on and end. Only those for lists, statements in a
row, entries, arms, parameters and a trailing value may leave it where it is. -/
structure Progress (source : String) : Prop where
  accept : ∀ kind, Advances source [] (fun found n => n = found.toList.length) fun _ => accept kind
  operator : ∀ tier,
    Advances source [] (fun found n => n = found.toList.length) fun _ => operator tier
  bareKey : Advances source [] (fun found n => n = found.toList.length) fun _ => bareKey
  expect : ∀ kind what, Consumes source [] fun _ => expect kind what
  statement : Consumes source [] statement
  varStatement : Behind source (.keyword .varWord) varStatement
  constStatement : Behind source (.keyword .constWord) constStatement
  fnStatement : Behind source (.keyword .fnWord) fnStatement
  ifStatement : Behind source (.keyword .ifWord) ifStatement
  whileStatement : Behind source (.keyword .whileWord) whileStatement
  loopStatement : Behind source (.keyword .loopWord) loopStatement
  forStatement : Behind source (.keyword .forWord) forStatement
  whenStatement : Behind source (.keyword .whenWord) whenStatement
  returnStatement : Behind source (.keyword .returnWord) returnStatement
  breakStatement : Behind source (.keyword .breakWord) breakStatement
  continueStatement : Behind source (.keyword .continueWord)
    fun _ => Parse.statement.continueStatement
  blockStatement : Consumes source [] blockStatement
  expressionStatement : Consumes source [] expressionStatement
  block : Consumes source [] block
  expression : Consumes source [] expression
  infixChain : ∀ tier, Consumes source [] (infixChain · tier)
  operand : ∀ tier, Consumes source [] (operand · tier)
  unary : Consumes source [] unary
  suffixed : Consumes source [] suffixed
  primary : Consumes source [] primary
  group : Behind source .parenOpen group
  array : Behind source .bracketOpen array
  mapLiteral : Behind source .braceOpen mapLiteral
  mapKey : Consumes source [] mapKey
  lambda : Behind source .pipe lambda
  lambdaBody : ∀ opening names bars, Bars opening names bars →
    Consumes source bars (lambdaBody · opening names)
  pattern : Consumes source [] pattern
  tuple : Behind source .parenOpen fun fuel _ => tuple fuel
  patternsFrom : Consumes source [] patternsFrom
  paramsFrom : ∀ read, Consumes source [] (paramsFrom · read)
  params : ∀ closing, Helps source (params · closing)
  list : ∀ closing, Helps source (list · closing)
  entries : Helps source entries
  statements : Helps source statements
  arms : Helps source arms
  trailingValue : Helps source trailingValue
  body : Helps source body

/-- Moved by nothing and with no more fuel, the reading is the same one twice. -/
theorem still (fuel : Nat) : Uniform (.after 0) 0 fuel :=
  uniform _ _ _

section

variable {fuel : Nat}

theorem still_paramsFrom (read : List Param) (room : 32 * (tokens.length + 1) ≤ fuel) :
    Moves (.after 0) (List.map (·.place (.after 0))) tokens.length 1 (paramsFrom fuel read)
      (paramsFrom (0 + fuel) (read.map (·.place (.after 0)))) :=
  moves_paramsFrom _ read (by omega)

theorem still_params (closing : TokenKind) (room : 32 * (tokens.length + 1) ≤ fuel) :
    Moves (.after 0) (List.map (·.place (.after 0))) tokens.length 0 (params fuel closing)
      (params (0 + fuel) closing) :=
  moves_params _ closing (by omega)

theorem uses_expect (kind : TokenKind) (what : Expectation) :
    Uses (expect kind what) tokens fun used token _ => used = [token] := by
  have read : Uses (expect kind what >>= pure) tokens fun used token _ => used = [token] :=
    .expect fun token rest _ => .pure rfl
  rwa [bind_pure] at read

theorem uses_continueStatement (start : Token) :
    Uses (statement.continueStatement start) tokens fun used _ _ => Perhaps .semicolon used :=
  .perhaps fun semi rest h => .pure (by rwa [List.append_nil])

theorem moves_continueStatement (start : Token) :
    Moves (.after 0) (Stmt.place (.after 0)) tokens.length 0 (statement.continueStatement start)
      (statement.continueStatement (start.place (.after 0))) :=
  Moves.optionalSemicolon.bind fun _ _ => .pure rfl

theorem uses_suffixed (fuel : Nat) : Uses (suffixed fuel) tokens (Reading 7 7) :=
  (sound fuel).primary.bind fun _ target _ read => (sound fuel).postfixRest target read

theorem moves_suffixed (room : 32 * (tokens.length + 1) ≤ fuel) :
    Moves (.after 0) (Expr.place (.after 0)) tokens.length 1 (suffixed fuel)
      (suffixed (0 + fuel)) :=
  ((still fuel).primary _ (by omega)).bind fun target _ =>
    (still fuel).postfixRest _ target (by omega)

theorem uses_mapKey (fuel : Nat) : Uses (mapKey fuel) tokens fun used key _ => key.Key used :=
  .bareKey (fun _ _ word => .pure (.bare word))
    ((sound fuel).expression.mono fun _ _ _ read => .computed read.written)

theorem moves_mapKey (room : 32 * (tokens.length + 1) ≤ fuel) :
    Moves (.after 0) (Expr.place (.after 0)) tokens.length 0 (mapKey fuel) (mapKey (0 + fuel)) :=
  .takes .bareKey (fun _ _ => .pure rfl) (((still fuel).expression _ (by omega)).le (by omega))

end

theorem progress (source : String) : Progress source where
  accept kind := advances_of_takes (.accept kind)
  operator tier := advances_of_takes (.operator tier)
  bareKey := advances_of_takes .bareKey
  expect kind what := consumes_of_uses (fun _ _ => uses_expect kind what)
    (fun _ _ _ _ read => read ▸ List.cons_ne_nil _ _)
    fun _ _ _ => (Moves.expect (g := .after 0) kind what).lasts
  statement := consumes_of_uses (fun fuel _ => (sound fuel).statement)
    (fun _ _ _ _ read => read.written.ne_nil)
    fun fuel _ room => ((still fuel).statement _ (by omega)).lasts
  varStatement := behind_of_uses (fun start eq fuel _ => (sound fuel).varStatement start eq)
    fun start fuel _ room => ((still fuel).varStatement _ start (by omega)).lasts
  constStatement := behind_of_uses (fun start eq fuel _ => (sound fuel).constStatement start eq)
    fun start fuel _ room => ((still fuel).constStatement _ start (by omega)).lasts
  fnStatement := behind_of_uses (fun start eq fuel _ => (sound fuel).fnStatement start eq)
    fun start fuel _ room => ((still fuel).fnStatement _ start (by omega)).lasts
  ifStatement := behind_of_uses (fun start eq fuel _ => (sound fuel).ifStatement start eq)
    fun start fuel _ room => ((still fuel).ifStatement _ start (by omega)).lasts
  whileStatement := behind_of_uses (fun start eq fuel _ => (sound fuel).whileStatement start eq)
    fun start fuel _ room => ((still fuel).whileStatement _ start (by omega)).lasts
  loopStatement := behind_of_uses (fun start eq fuel _ => (sound fuel).loopStatement start eq)
    fun start fuel _ room => ((still fuel).loopStatement _ start (by omega)).lasts
  forStatement := behind_of_uses (fun start eq fuel _ => (sound fuel).forStatement start eq)
    fun start fuel _ room => ((still fuel).forStatement _ start (by omega)).lasts
  whenStatement := behind_of_uses (fun start eq fuel _ => (sound fuel).whenStatement start eq)
    fun start fuel _ room => ((still fuel).whenStatement _ start (by omega)).lasts
  returnStatement := behind_of_uses (fun start eq fuel _ => (sound fuel).returnStatement start eq)
    fun start fuel _ room => ((still fuel).returnStatement _ start (by omega)).lasts
  breakStatement := behind_of_uses (fun start eq fuel _ => (sound fuel).breakStatement start eq)
    fun start fuel _ room => ((still fuel).breakStatement _ start (by omega)).lasts
  continueStatement := behind_of_uses (fun start _ _ _ => uses_continueStatement start)
    fun start _ _ _ => (moves_continueStatement start).lasts
  blockStatement := consumes_of_uses (fun fuel _ => (sound fuel).blockStatement)
    (fun _ _ _ _ read => read.written.ne_nil)
    fun fuel _ room => ((still fuel).blockStatement _ (by omega)).lasts
  expressionStatement := consumes_of_uses (fun fuel _ => (sound fuel).expressionStatement)
    (fun _ _ _ _ read => read.written.ne_nil)
    fun fuel _ room => ((still fuel).expressionStatement _ (by omega)).lasts
  block := consumes_of_uses (fun fuel _ => (sound fuel).block)
    (fun _ _ _ _ read => read.1.ne_nil)
    fun fuel _ room => ((still fuel).block _ (by omega)).lasts
  expression := consumes_of_uses (fun fuel _ => (sound fuel).expression)
    (fun _ _ _ _ read => read.written.ne_nil)
    fun fuel _ room => ((still fuel).expression _ (by omega)).lasts
  infixChain tier := consumes_of_uses (fun fuel _ => (sound fuel).infixChain tier)
    (fun _ _ _ _ read => read.written.ne_nil)
    fun fuel _ room => ((still fuel).infixChain _ tier (by have := tier.calls_bounds; omega)).lasts
  operand tier := consumes_of_uses (fun fuel _ => (sound fuel).operand tier)
    (fun _ _ _ _ read => read.written.ne_nil)
    fun fuel _ room => ((still fuel).operand _ tier (by have := tier.calls_bounds; omega)).lasts
  unary := consumes_of_uses (fun fuel _ => (sound fuel).unary)
    (fun _ _ _ _ read => read.written.ne_nil)
    fun fuel _ room => ((still fuel).unary _ (by omega)).lasts
  suffixed := consumes_of_uses (fun fuel _ => uses_suffixed fuel)
    (fun _ _ _ _ read => read.written.ne_nil)
    fun fuel _ room => (moves_suffixed (by omega)).lasts
  primary := consumes_of_uses (fun fuel _ => (sound fuel).primary)
    (fun _ _ _ _ read => read.written.ne_nil)
    fun fuel _ room => ((still fuel).primary _ (by omega)).lasts
  group := behind_of_uses (fun start eq fuel _ => (sound fuel).group start eq)
    fun start fuel _ room => ((still fuel).group _ start (by omega)).lasts
  array := behind_of_uses (fun start eq fuel _ => (sound fuel).array start eq)
    fun start fuel _ room => ((still fuel).array _ start (by omega)).lasts
  mapLiteral := behind_of_uses (fun start eq fuel _ => (sound fuel).mapLiteral start eq)
    fun start fuel _ room => ((still fuel).mapLiteral _ start (by omega)).lasts
  mapKey := consumes_of_uses (fun fuel _ => uses_mapKey fuel) (fun _ _ _ _ read => read.ne_nil)
    fun fuel _ room => (moves_mapKey (by omega)).lasts
  lambda := behind_of_uses (fun start eq fuel _ => (sound fuel).lambda start eq)
    fun start fuel _ room => ((still fuel).lambda _ start (by omega)).lasts
  lambdaBody opening names bars written :=
    consumes_of_uses (fun fuel _ => (sound fuel).lambdaBody opening names written)
      (fun _ _ _ _ read => read.written.ne_nil)
      fun fuel _ room => ((still fuel).lambdaBody _ opening names (by omega)).lasts
  pattern := consumes_of_uses (fun fuel _ => (Uses.patterns fuel).1)
    (fun _ _ _ _ read => read.ne_nil)
    fun fuel _ room => ((uniformPatterns (.after 0) 0 fuel).pattern _ (by omega)).lasts
  tuple := behind_of_uses (fun start eq fuel _ => (Uses.patterns fuel).2.1 start eq)
    fun start fuel _ room => ((uniformPatterns (.after 0) 0 fuel).tuple _ (by omega)).lasts
  patternsFrom := consumes_of_uses (fun fuel _ => (Uses.patterns fuel).2.2)
    (fun _ _ _ _ ⟨_, _, _, written⟩ => written.ne_nil)
    fun fuel _ room => ((uniformPatterns (.after 0) 0 fuel).patternsFrom _ (by omega)).lasts
  paramsFrom read := consumes_of_uses (fun fuel _ => Uses.paramsFrom fuel read)
    (fun _ _ _ _ ⟨_, _, _, written⟩ => written.ne_nil)
    fun _ _ room => (still_paramsFrom read (by omega)).lasts
  params closing := helps_of_uses (fun fuel _ => Uses.params fuel closing)
    fun _ _ room => (still_params closing (by omega)).lasts
  list closing := helps_of_uses (fun fuel _ => (sound fuel).list closing)
    fun fuel _ room => ((still fuel).list _ closing (by omega)).lasts
  entries := helps_of_uses (fun fuel _ => (sound fuel).entries)
    fun fuel _ room => ((still fuel).entries _ (by omega)).lasts
  statements := helps_of_uses (fun fuel _ => (sound fuel).statements)
    fun fuel _ room => ((still fuel).statements _ (by omega)).lasts
  arms := helps_of_uses (fun fuel _ => (sound fuel).arms)
    fun fuel _ room => ((still fuel).arms _ (by omega)).lasts
  trailingValue := helps_of_uses (fun fuel _ => (sound fuel).trailingValue)
    fun fuel _ room => ((still fuel).trailingValue _ (by omega)).lasts
  body := helps_of_uses (fun fuel _ => uses_body fuel)
    fun fuel _ room => (moves_body (.after 0) 0 _ fuel (by omega)).lasts

/-! ## Loops

The functions that repeat something are one round and then themselves again. -/

/-- What a round of a loop comes to: the loop is over without it, or behind it, or goes on. -/
inductive Round (σ α : Type) where
  | over (result : α)
  | last (result : α)
  | next (state : σ) (add : α → α)

/-- Only a round that does not take place uses up no token. -/
def Round.Uses : Round σ α → Nat → Prop
  | .over _, n => n = 0
  | .last _, n | .next .., n => 0 < n

/-- A loop behind a round. -/
def Round.resume (loop : σ → Parse α) : Round σ α → Parse α
  | .over result | .last result => pure result
  | .next state add => add <$> loop state

/-- The loop goes through one round after another, and each uses up a token. -/
structure Loops (source : String) (round : Nat → σ → Parse (Round σ α))
    (loop : Nat → σ → Parse α) : Prop where
  unrolls : ∀ fuel state, loop (fuel + 1) state = round fuel state >>= Round.resume (loop fuel)
  advances : ∀ fuel state, Passes source [] Round.Uses (round fuel state)

def bodyRound (fuel : Nat) (_ : Unit) : Parse (Round Unit (List Stmt)) := do
  match ← nextKind with
  | none => return .over []
  | some _ =>
    let first ← statement fuel
    return .next () (first :: ·)

def statementsRound (fuel : Nat) (_ : Unit) : Parse (Round Unit (List Stmt)) := do
  match ← nextKind with
  | none | some .braceClose => return .over []
  | some _ =>
    let first ← statement fuel
    return .next () (first :: ·)

def armsRound (fuel : Nat) (_ : Unit) : Parse (Round Unit (List Arm)) := do
  match ← nextKind with
  | none | some .braceClose => return .over []
  | some _ =>
    let shape ← match ← accept (.keyword .elseWord) with
      | some _ => pure .wildcard
      | none => pattern fuel
    discard (expect .arrow .armArrow)
    let (body, span) ← block fuel
    return .next () (.mk span shape body :: ·)

def paramsRound (_ : Nat) (read : List Param) : Parse (Round (List Param) (List Param)) := do
  let token ← identifier .parameterName
  if read.any (·.name = token.text) then
    fault (.expected (.newParameterName token.text) (some token))
  let read := read ++ [⟨token.text, token.span⟩]
  match ← accept .comma with
  | some _ => return .next read id
  | none => return .last read

def patternsRound (fuel : Nat) (_ : Unit) : Parse (Round Unit (List Pattern)) := do
  let part ← pattern fuel
  match ← accept .comma with
  | some _ => return .next () (part :: ·)
  | none => return .last [part]

def infixRound (tier : Tier) (fuel : Nat) (left : Expr) : Parse (Round Expr Expr) := do
  match ← operator tier with
  | none => return .over left
  | some op =>
    let right ← operand fuel tier
    return .next (op.node left right) id

def suffixRound (fuel : Nat) (target : Expr) : Parse (Round Expr Expr) := do
  match ← accept .parenOpen with
  | some _ =>
    let args ← list fuel .parenClose
    let closing ← expect .parenClose .argumentsEnd
    return .next (.call (target.span.through closing.span) target args) id
  | none =>
    match ← accept .bracketOpen with
    | some _ =>
      let position ← expression fuel
      let closing ← expect .bracketClose .indexEnd
      return .next (.index (target.span.through closing.span) target position) id
    | none =>
      match ← accept .dot with
      | some _ =>
        let name ← identifier .fieldName
        return .next (.field (target.span.through name.span) target name.text) id
      | none => return .over target

def listRound (closing : TokenKind) (fuel : Nat) (_ : Unit) : Parse (Round Unit (List Expr)) := do
  if ← sees closing then return .over []
  else
    let item ← expression fuel
    match ← accept .comma with
    | some _ => return .next () (item :: ·)
    | none => return .last [item]

def entriesRound (fuel : Nat) (_ : Unit) : Parse (Round Unit (List (Expr × Expr))) := do
  if ← sees .braceClose then return .over []
  else
    let key ← mapKey fuel
    discard (expect .colon .mapColon)
    let value ← expression fuel
    match ← accept .comma with
    | some _ => return .next () ((key, value) :: ·)
    | none => return .last [(key, value)]

/-- All loops of the grammar. -/
structure Rounds (source : String) : Prop where
  body : Loops source bodyRound fun fuel _ => body fuel
  statements : Loops source statementsRound fun fuel _ => statements fuel
  arms : Loops source armsRound fun fuel _ => arms fuel
  paramsFrom : Loops source paramsRound paramsFrom
  patternsFrom : Loops source patternsRound fun fuel _ => patternsFrom fuel
  infixRest : ∀ tier, Loops source (infixRound tier) (infixRest · tier)
  postfixRest : Loops source suffixRound postfixRest
  list : ∀ closing, Loops source (listRound closing) fun fuel _ => list fuel closing
  entries : Loops source entriesRound fun fuel _ => entries fuel

section

variable (fuel : Nat)

theorem body_unrolls :
    body (fuel + 1) = bodyRound fuel () >>= Round.resume fun _ => body fuel := by
  conv_lhs => unfold body
  rw [bodyRound, bind_assoc]
  refine bind_congr fun kind => ?_
  cases kind with
  | none => rfl
  | some _ => simp only [bind_assoc, pure_bind, Round.resume, map_eq_pure_bind]

theorem statements_unrolls :
    statements (fuel + 1) = statementsRound fuel () >>= Round.resume fun _ => statements fuel := by
  conv_lhs => unfold statements
  rw [statementsRound, bind_assoc]
  refine bind_congr fun kind => ?_
  split <;> simp only [bind_assoc, pure_bind, Round.resume, map_eq_pure_bind]

theorem arms_unrolls :
    arms (fuel + 1) = armsRound fuel () >>= Round.resume fun _ => arms fuel := by
  conv_lhs => unfold arms
  rw [armsRound, bind_assoc]
  refine bind_congr fun kind => ?_
  split
  · rfl
  · rfl
  · simp only [bind_assoc]
    refine bind_congr fun word => ?_
    cases word <;> simp only [bind_assoc, pure_bind, Round.resume, map_eq_pure_bind]

theorem paramsFrom_unrolls (read : List Param) :
    paramsFrom (fuel + 1) read = paramsRound fuel read >>= Round.resume (paramsFrom fuel) := by
  conv_lhs => unfold paramsFrom
  rw [paramsRound, bind_assoc]
  refine bind_congr fun token => ?_
  split
  · simp only [bind_assoc]
    rfl
  · simp only [bind_assoc]
    refine bind_congr fun comma => ?_
    cases comma <;> simp only [pure_bind, Round.resume, id_map]

theorem patternsFrom_unrolls :
    patternsFrom (fuel + 1) =
      patternsRound fuel () >>= Round.resume fun _ => patternsFrom fuel := by
  conv_lhs => unfold patternsFrom
  rw [patternsRound]
  simp only [bind_assoc]
  refine bind_congr fun part => bind_congr fun comma => ?_
  cases comma <;> simp only [pure_bind, Round.resume, map_eq_pure_bind]

theorem infixRest_unrolls (tier : Tier) (left : Expr) :
    infixRest (fuel + 1) tier left =
      infixRound tier fuel left >>= Round.resume (infixRest fuel tier) := by
  conv_lhs => unfold infixRest
  rw [infixRound, bind_assoc]
  refine bind_congr fun op => ?_
  cases op with
  | none => rfl
  | some op => simp only [bind_assoc, pure_bind, Round.resume, id_map]

theorem postfixRest_unrolls (target : Expr) :
    postfixRest (fuel + 1) target =
      suffixRound fuel target >>= Round.resume (postfixRest fuel) := by
  conv_lhs => unfold postfixRest
  rw [suffixRound, bind_assoc]
  refine bind_congr fun paren => ?_
  cases paren with
  | some _ => simp only [bind_assoc, pure_bind, Round.resume, id_map]
  | none =>
    simp only [bind_assoc]
    refine bind_congr fun bracket => ?_
    cases bracket with
    | some _ => simp only [bind_assoc, pure_bind, Round.resume, id_map]
    | none =>
      simp only [bind_assoc]
      refine bind_congr fun dot => ?_
      cases dot with
      | some _ => simp only [bind_assoc, pure_bind, Round.resume, id_map]
      | none => rfl

theorem list_unrolls (closing : TokenKind) :
    list (fuel + 1) closing =
      listRound closing fuel () >>= Round.resume fun _ => list fuel closing := by
  conv_lhs => unfold list
  rw [listRound, bind_assoc]
  refine bind_congr fun closed => ?_
  split
  · rfl
  · simp only [bind_assoc]
    refine bind_congr fun item => bind_congr fun comma => ?_
    cases comma <;> simp only [pure_bind, Round.resume, map_eq_pure_bind]

theorem entries_unrolls :
    entries (fuel + 1) = entriesRound fuel () >>= Round.resume fun _ => entries fuel := by
  conv_lhs => unfold entries
  rw [entriesRound, bind_assoc]
  refine bind_congr fun closed => ?_
  split
  · rfl
  simp only [bind_assoc, mapKey]
  refine bind_congr fun word => ?_
  cases word
  case' some word => simp only [pure_bind]
  case' none => refine bind_congr fun key => ?_
  -- what follows a key, however it was read
  all_goals
    refine bind_congr fun _ => bind_congr fun value => bind_congr fun comma => ?_
    cases comma <;> simp only [pure_bind, Round.resume, map_eq_pure_bind]

end

section

variable (fuel : Nat)

theorem advances_bodyRound :
    Uses (bodyRound fuel ()) tokens fun used round _ => round.Uses used.length := by
  refine .nextKind ?_
  split
  · exact .pure rfl
  · refine (sound fuel).statement.map fun used first _ read => ?_
    exact List.length_pos_iff.2 read.written.ne_nil

theorem advances_statementsRound :
    Uses (statementsRound fuel ()) tokens fun used round _ => round.Uses used.length := by
  refine .nextKind ?_
  split
  · exact .pure rfl
  · exact .pure rfl
  · refine (sound fuel).statement.map fun used first _ read => ?_
    exact List.length_pos_iff.2 read.written.ne_nil

theorem advances_armsRound :
    Uses (armsRound fuel ()) tokens fun used round _ => round.Uses used.length := by
  have behind (shape : Pattern) (used tokens : List Token) : Uses (do
      discard (expect .arrow .armArrow)
      let (body, span) ← block fuel
      return Round.next () (Arm.mk span shape body :: ·)) tokens fun used' round _ =>
        round.Uses (used ++ used').length := by
    -- the arrow alone is a token that is used up
    refine .discard (.expect fun arrow _ _ => (sound fuel).block.map fun _ _ _ _ => ?_)
    exact List.length_pos_iff.2 (by simp)
  refine .nextKind ?_
  split
  · exact .pure rfl
  · exact .pure rfl
  · refine .accept (fun word _ _ _ => ?_) fun _ => ?_
    · exact .bind (.pure (Q := fun _ _ _ => True) trivial) fun used shape rest _ =>
        behind shape (word :: used) rest
    · exact (Uses.patterns fuel).1.bind fun used shape rest _ => behind shape used rest

theorem advances_paramsRound (read : List Param) :
    Uses (paramsRound fuel read) tokens fun used round _ => round.Uses used.length := by
  refine .expect fun token rest _ => ?_
  split
  · exact .bind (P := fun _ _ _ => False) (.fault _) fun _ _ _ never => never.elim
  · exact .accept (fun comma _ _ _ => .pure (Nat.succ_pos _)) fun _ => .pure (Nat.succ_pos _)

theorem advances_patternsRound :
    Uses (patternsRound fuel ()) tokens fun used round _ => round.Uses used.length := by
  refine (Uses.patterns fuel).1.bind fun used part rest read => ?_
  exact .accept (fun comma _ _ _ => .pure (List.length_pos_iff.2 (by simp))) fun _ =>
    .pure (List.length_pos_iff.2 (by simpa using read.ne_nil))

theorem advances_infixRound (tier : Tier) (left : Expr) :
    Uses (infixRound tier fuel left) tokens fun used round _ => round.Uses used.length :=
  .operator
    (fun _ _ _ _ _ => ((sound fuel).operand tier).map fun _ _ _ _ => Nat.succ_pos _)
    fun _ => .pure rfl

theorem advances_suffixRound (target : Expr) :
    Uses (suffixRound fuel target) tokens fun used round _ => round.Uses used.length := by
  refine .accept (fun opening _ _ _ => ?_) fun _ => .accept (fun opening _ _ _ => ?_) fun _ =>
    .accept (fun dot _ _ _ => ?_) fun _ => .pure rfl
  · exact ((sound fuel).list _).bind fun _ _ _ _ => .expect fun _ _ _ => .pure (Nat.succ_pos _)
  · exact (sound fuel).expression.bind fun _ _ _ _ => .expect fun _ _ _ => .pure (Nat.succ_pos _)
  · exact .expect fun _ _ _ => .pure (Nat.succ_pos _)

theorem advances_listRound (closing : TokenKind) :
    Uses (listRound closing fuel ()) tokens fun used round _ => round.Uses used.length := by
  refine .sees (.pure rfl) fun _ => (sound fuel).expression.bind fun used item rest read => ?_
  exact .accept (fun comma _ _ _ => .pure (List.length_pos_iff.2 (by simp))) fun _ =>
    .pure (List.length_pos_iff.2 (by simpa using read.written.ne_nil))

theorem advances_entriesRound :
    Uses (entriesRound fuel ()) tokens fun used round _ => round.Uses used.length := by
  refine .sees (.pure rfl) fun _ => (uses_mapKey fuel).bind fun used key rest _ => ?_
  refine .discard (.expect fun colon _ _ => (sound fuel).expression.bind fun _ value _ _ => ?_)
  exact .accept (fun comma _ _ _ => .pure (List.length_pos_iff.2 (by simp))) fun _ =>
    .pure (List.length_pos_iff.2 (by simp))

end

theorem rounds (source : String) : Rounds source where
  body := ⟨fun fuel _ => body_unrolls fuel,
    fun fuel _ => passes_of_uses fun _ => advances_bodyRound fuel⟩
  statements := ⟨fun fuel _ => statements_unrolls fuel,
    fun fuel _ => passes_of_uses fun _ => advances_statementsRound fuel⟩
  arms := ⟨fun fuel _ => arms_unrolls fuel,
    fun fuel _ => passes_of_uses fun _ => advances_armsRound fuel⟩
  paramsFrom := ⟨paramsFrom_unrolls,
    fun fuel read => passes_of_uses fun _ => advances_paramsRound fuel read⟩
  patternsFrom := ⟨fun fuel _ => patternsFrom_unrolls fuel,
    fun fuel _ => passes_of_uses fun _ => advances_patternsRound fuel⟩
  infixRest tier := ⟨fun fuel => infixRest_unrolls fuel tier,
    fun fuel left => passes_of_uses fun _ => advances_infixRound fuel tier left⟩
  postfixRest := ⟨postfixRest_unrolls,
    fun fuel target => passes_of_uses fun _ => advances_suffixRound fuel target⟩
  list closing := ⟨fun fuel _ => list_unrolls fuel closing,
    fun fuel _ => passes_of_uses fun _ => advances_listRound fuel closing⟩
  entries := ⟨fun fuel _ => entries_unrolls fuel,
    fun fuel _ => passes_of_uses fun _ => advances_entriesRound fuel⟩

end Parse

/-! ## Texts -/

/-- The functions of the parser end, and they move the cursor on: those for statements, expressions
and patterns by a token at least, and so do the rounds of loops. From the first token on there is a
token wherever the cursor comes. In the end all tokens are read, or a place in the source is
reported. -/
theorem Program.parse_ends (source : String) :
    Parse.Progress source ∧ Parse.Rounds source ∧
    (∀ tokens, scanTokens source = .ok tokens → Parse.Stands source 0 tokens) ∧
    (∀ i tokens, Parse.Stands source i tokens → ∃ all token, tokenize source = .ok all ∧
      all[i]? = some token ∧ (token.kind = .endOfText ↔ tokens = [])) ∧
    match parse source with
    | .ok program => ∃ tokens statements,
      tokenize source = .ok (tokens ++ [endToken source]) ∧
      Parse.body (32 * (tokens.length + 1)) tokens = .ok (statements, []) ∧
      program = .ofStatements statements
    | .error d => ∃ span slice, d.Placed source span slice := by
  refine ⟨Parse.progress source, Parse.rounds source, fun _ => Parse.stands_zero,
    fun _ _ => Parse.Stands.exists_token, ?_⟩
  rw [parse_eq_statements]
  cases read : statements source with
  | error d => exact placed_of_statements read
  | ok body =>
    obtain ⟨tokens, rest, scanned, parsed⟩ := of_statements read
    obtain ⟨used, -, rfl, -⟩ := Parse.uses_body _ body rest parsed
    exact ⟨tokens, body, tokenize_of_scanTokens scanned, parsed, rfl⟩

/-- A call, and a bracket that closes nothing. -/
def strayBracket : List Token :=
  [⟨.identifier, "f", ⟨0, 1⟩⟩, ⟨.parenOpen, "(", ⟨1, 2⟩⟩, ⟨.parenClose, ")", ⟨2, 3⟩⟩,
    ⟨.parenClose, ")", ⟨4, 5⟩⟩]

theorem scanTokens_strayBracket : scanTokens "f() )" = .ok strayBracket :=
  scanTokens_of_toOption (by decide +kernel)

/-- The call is read up to the bracket, where the text is rejected. -/
theorem Program.parse_ends_strayBracket :
    let source := "f() )"
    Parse.Stands source 0 strayBracket ∧
    (∃ e rest n, Parse.expression 160 strayBracket = .ok (e, rest) ∧ 0 < n ∧
      Parse.Stands source (0 + n) rest) ∧
    ∃ d span slice, parse source = .error d ∧ d.Placed source span slice := by
  intro source
  obtain ⟨progress, -, first, -, ends⟩ := parse_ends source
  have start := first _ scanTokens_strayBracket
  have broken : parse source = .error
      ⟨.parser, "unexpected token in expression, found `)`", some ⟨4, 5⟩, [], []⟩ := by
    unfold parse
    rw [scanTokens_strayBracket]
    rfl
  rw [broken] at ends
  obtain ⟨span, slice, placed⟩ := ends
  refine ⟨start, ?_, _, span, slice, broken, placed⟩
  obtain ⟨n, some, behind⟩ := progress.expression.passes 160 0 strayBracket start _ _ rfl
  exact ⟨_, _, n, rfl, some, behind⟩

end LayerScript
