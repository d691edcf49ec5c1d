import LayerScript.Proofs.Tokens.Spelling

/-!
# Sources as gaps and tokens

A source is gaps and longest tokens by turns, or it is so up to a place where the grammar has
nothing. Which of the two holds, and how, is what the scanner finds: `tokenize_ok_iff` and
`tokenize_error_iff` go both ways, so a source can be read in one way only.
-/

namespace LayerScript

/-- A text at a byte offset read as tokens, each the longest at its place and each behind a gap.
`behind` is what they leave, which begins at `stop`. -/
inductive Munches : (offset : Nat) → (cs : List Char) → (tokens : List Token) → (stop : Nat) →
    (behind : List Char) → Prop where
  | nil {offset : Nat} {cs : List Char} : Munches offset cs [] offset cs
  | cons {offset stop : Nat} {gap slice text rest behind : List Char} {kind : TokenKind}
      {tokens : List Token} : Gap gap (slice ++ rest) → ¬ OpensGap (slice ++ rest) →
      Longest kind slice text (slice ++ rest) →
      Munches (offset + Text.byteLength gap + Text.byteLength slice) rest tokens stop behind →
      Munches offset (gap ++ (slice ++ rest))
        (⟨kind, String.ofList text, ⟨offset + Text.byteLength gap,
          offset + Text.byteLength gap + Text.byteLength slice⟩⟩ :: tokens) stop behind

/-- What the grammar has neither a gap nor a token for. -/
inductive Broken : (fault : LexicalFault) → (cs : List Char) → Prop where
  | comment {cs : List Char} : (∀ body, CommentBody body → ¬ body <+: cs) →
      Broken .openComment ('/' :: '*' :: cs)
  | string {mark : Char} {cs : List Char} : isQuote mark →
      (∀ written meant, Writing mark written meant → ¬ written ++ [mark] <+: cs) →
      Broken .openString (mark :: cs)
  | character {c : Char} {cs : List Char} : ¬ OpensGap (c :: cs) → ¬ isQuote c →
      (∀ kind slice text, Spells kind slice text → ¬ slice <+: c :: cs) →
      Broken (.unexpectedCharacter c) (c :: cs)

/-! ## Comments -/

theorem CommentBody.length {body : List Char} (b : CommentBody body) : 2 ≤ body.length := by
  induction b with
  | close => exact Nat.le_refl _
  | nested => simp only [List.length_cons]; omega
  | character _ _ _ ih => simp only [List.length_cons]; omega

/-- Two characters that a body does not begin with, what follows it does not make it begin with. -/
theorem CommentBody.not_starts {c d e : Char} {body : List Char} (rest : List Char)
    (b : CommentBody body) (h : ¬ [d, e] <+: c :: body) : ¬ [d, e] <+: c :: (body ++ rest) := by
  cases body with
  | nil => exact absurd b.length (by decide)
  | cons f body => simpa [List.cons_prefix_cons] using h

/-- Goes on behind one of `depth + 1` comments inside one another. -/
def leaveComment (depth offset : Nat) (cs : List Char) : Option (Nat × List Char) :=
  match depth with
  | 0 => some (offset, cs)
  | outer + 1 => skipComment outer offset cs

theorem CommentBody.skipComment {body : List Char} (b : CommentBody body) (depth offset : Nat)
    (rest : List Char) : skipComment depth offset (body ++ rest) =
      leaveComment depth (offset + Text.byteLength body) rest := by
  induction b generalizing depth offset rest with
  | close => cases depth <;> rfl
  | @nested inner outer _ _ first second =>
    have size : offset + 2 + Text.byteLength inner + Text.byteLength outer =
        offset + Text.byteLength ('/' :: '*' :: (inner ++ outer)) := by
      simp only [Text.byteLength, Text.byteLength_append]
      have : '/'.utf8Size = 1 := rfl
      have : '*'.utf8Size = 1 := rfl
      omega
    simp only [List.cons_append, LayerScript.skipComment, List.append_assoc]
    rw [first, leaveComment, second, size]
  | @character c body opens closes b ih =>
    have notOpen := b.not_starts rest opens
    have notClose := b.not_starts rest closes
    have size : offset + c.utf8Size + Text.byteLength body =
        offset + Text.byteLength (c :: body) := Nat.add_assoc _ _ _
    rw [List.cons_append, LayerScript.skipComment, ih, size]
    · rintro cs rfl eq
      exact notOpen (by simp [eq])
    · rintro cs rfl eq
      exact notClose (by simp [eq])

/-- A comment `depth + 1` comments deep is closed by that many bodies. -/
theorem bodies_of_skipComment {depth offset stop : Nat} {cs rest : List Char}
    (h : skipComment depth offset cs = some (stop, rest)) :
    ∃ (body : List Char) (bodies : List (List Char)), CommentBody body ∧
      (∀ b ∈ bodies, CommentBody b) ∧
      bodies.length = depth ∧ cs = body ++ (bodies.flatten ++ rest) := by
  fun_induction skipComment depth offset cs with
  | case1 => simp at h
  | case2 depth offset cs ih =>
    obtain ⟨inner, bodies, hi, hb, length, rfl⟩ := ih h
    cases bodies with
    | nil => simp at length
    | cons outer bodies =>
      refine ⟨_, bodies, .nested hi (hb outer List.mem_cons_self),
        fun b h => hb b (List.mem_cons_of_mem _ h), by simpa using length, ?_⟩
      simp
  | case3 offset cs =>
    obtain rfl := (Prod.mk.inj (Option.some.inj h)).2
    exact ⟨_, [], .close, by simp, rfl, rfl⟩
  | case4 offset cs outer ih =>
    obtain ⟨body, bodies, hb, hbs, length, rfl⟩ := ih h
    exact ⟨_, body :: bodies, .close, by simpa using ⟨hb, hbs⟩, by simpa using length, by simp⟩
  | case5 depth offset c cs opens closes ih =>
    obtain ⟨body, bodies, hb, hbs, length, rfl⟩ := ih h
    refine ⟨c :: body, bodies, .character ?_ ?_ hb, hbs, length, rfl⟩
    · rintro ⟨tail, eq⟩
      obtain ⟨rfl, rfl⟩ := List.cons.inj eq
      exact opens _ rfl rfl
    · rintro ⟨tail, eq⟩
      obtain ⟨rfl, rfl⟩ := List.cons.inj eq
      exact closes _ rfl rfl

/-- A comment that the scanner finds no end of has none. -/
theorem not_starts_of_skipComment {offset : Nat} {cs : List Char}
    (h : skipComment 0 offset cs = none) {body : List Char} (b : CommentBody body) :
    ¬ body <+: cs := by
  rintro ⟨rest, rfl⟩
  exact absurd (h.symm.trans (b.skipComment 0 offset rest)) nofun

/-! ## Gaps -/

theorem not_isBlank_slash : ¬ Text.isBlank '/' := by
  decide

/-- The scanner goes over a gap. -/
theorem Gap.skipSeparators {gap rest : List Char} (g : Gap gap rest) (offset : Nat) :
    skipSeparators offset (gap ++ rest) =
      LayerScript.skipSeparators (offset + Text.byteLength gap) rest := by
  induction g generalizing offset with
  | nil => rfl
  | @blank c gap rest hc _ ih =>
    have mark : c ≠ '/' := by
      rintro rfl
      exact not_isBlank_slash hc
    rw [List.cons_append, skipSeparators_of_blank _ _ mark hc, ih, Text.byteLength, Nat.add_assoc]
  | @line line gap rest inside ends _ ih =>
    have run := run_eq (· ≠ '\n') line (gap ++ rest)
      (by
        intro c hc
        simpa using fun eq : c = '\n' => inside (eq ▸ hc))
      (by simpa using ends)
    have size : offset + 2 + Text.byteLength line + Text.byteLength gap =
        offset + Text.byteLength ('/' :: '/' :: (line ++ gap)) := by
      simp only [Text.byteLength, Text.byteLength_append]
      have : '/'.utf8Size = 1 := rfl
      omega
    have whole : '/' :: '/' :: (line ++ gap) ++ rest = '/' :: '/' :: (line ++ (gap ++ rest)) := by
      simp
    rw [whole, LayerScript.skipSeparators, run.1, run.2, ih, size]
  | @block body gap rest b _ ih =>
    have found := b.skipComment 0 (offset + 2) (gap ++ rest)
    have size : offset + 2 + Text.byteLength body + Text.byteLength gap =
        offset + Text.byteLength ('/' :: '*' :: (body ++ gap)) := by
      simp only [Text.byteLength, Text.byteLength_append]
      have : '/'.utf8Size = 1 := rfl
      have : '*'.utf8Size = 1 := rfl
      omega
    have whole : '/' :: '*' :: (body ++ gap) ++ rest = '/' :: '*' :: (body ++ (gap ++ rest)) := by
      simp
    rw [whole, LayerScript.skipSeparators]
    split
    · next stop behind h =>
      obtain ⟨rfl, rfl⟩ := Prod.mk.inj (Option.some.inj (found.symm.trans h))
      rw [ih, size]
    · next h => cases found.symm.trans h

/-- Where no gap opens the scanner stays. -/
theorem skipSeparators_of_not_opensGap {cs : List Char} (h : ¬ OpensGap cs) (offset : Nat) :
    skipSeparators offset cs = .ok (offset, cs) := by
  simp only [OpensGap, not_or] at h
  obtain ⟨blank, line, block⟩ := h
  fun_cases skipSeparators offset cs with
  | case1 => rfl
  | case2 => simp at line
  | case3 => simp at block
  | case4 => simp at block
  | case5 c rest _ _ hb => exact absurd ⟨c, rfl, hb⟩ blank
  | case6 => rfl

/-- At a comment without an end the scanner fails. -/
theorem skipSeparators_of_broken {cs : List Char} (h : Broken .openComment cs) (offset : Nat) :
    skipSeparators offset cs = .error offset := by
  cases h with
  | @comment cs none =>
    rw [skipSeparators]
    split
    · next stop behind h =>
      obtain ⟨body, bodies, b, -, length, rfl⟩ := bodies_of_skipComment h
      exact absurd (List.prefix_append _ _) (none body b)
    · rfl

/-- Every text begins with a gap up to where no gap opens or a comment has no end. -/
theorem exists_gap (cs : List Char) : ∃ gap rest, cs = gap ++ rest ∧ Gap gap rest ∧
    (¬ OpensGap rest ∨ Broken .openComment rest) := by
  induction (0 : Nat), cs using skipSeparators.induct with
  | case1 => exact ⟨[], [], rfl, .nil, .inl (by simp [OpensGap])⟩
  | case2 _ tail line ih =>
    obtain ⟨gap, rest, split, g, stop⟩ := ih
    refine ⟨'/' :: '/' :: (line ++ gap), rest, ?_, .line (fun inside => ?_) (fun c hc => ?_) g,
      stop⟩
    · rw [List.cons_append, List.cons_append, List.append_assoc, ← split,
        List.takeWhile_append_dropWhile]
    · simpa using List.mem_takeWhile_imp inside
    · have ends := List.head?_dropWhile_not (· ≠ '\n') tail
      rw [split, hc] at ends
      simpa using ends
  | case3 _ tail stop behind hc ih =>
    obtain ⟨gap, rest, rfl, g, stop⟩ := ih
    obtain ⟨body, bodies, b, -, length, split⟩ := bodies_of_skipComment hc
    obtain rfl := List.length_eq_zero_iff.1 length
    exact ⟨'/' :: '*' :: (body ++ gap), rest, by simp [split], .block b g, stop⟩
  | case4 _ tail hc =>
    exact ⟨[], _, rfl, .nil, .inr (.comment fun _ b => not_starts_of_skipComment hc b)⟩
  | case5 _ c tail _ _ hb ih =>
    obtain ⟨gap, rest, rfl, g, stop⟩ := ih
    exact ⟨c :: gap, rest, rfl, .blank hb g, stop⟩
  | case6 _ c tail line block hb =>
    refine ⟨[], _, rfl, .nil, .inl ?_⟩
    rintro (⟨d, hd, blank⟩ | ⟨_, eq⟩ | ⟨_, eq⟩)
    · obtain rfl := Option.some.inj hd
      exact hb blank
    · obtain ⟨rfl, rfl⟩ := List.cons.inj eq
      exact line _ rfl rfl
    · obtain ⟨rfl, rfl⟩ := List.cons.inj eq
      exact block _ rfl rfl

theorem Gap.skipSeparators_stop {gap rest : List Char} (g : Gap gap rest) (h : ¬ OpensGap rest)
    (offset : Nat) :
    LayerScript.skipSeparators offset (gap ++ rest) = .ok (offset + Text.byteLength gap, rest) :=
  (g.skipSeparators offset).trans (skipSeparators_of_not_opensGap h _)

/-! ## Tokens -/

/-- What is read and what is left make up the text. -/
theorem Munches.split {offset stop : Nat} {cs behind : List Char} {tokens : List Token}
    (m : Munches offset cs tokens stop behind) :
    ∃ read, cs = read ++ behind ∧ stop = offset + Text.byteLength read := by
  induction m with
  | nil => exact ⟨[], rfl, rfl⟩
  | @cons offset stop gap slice text rest behind kind tokens g h l _ ih =>
    obtain ⟨read, rfl, rfl⟩ := ih
    refine ⟨gap ++ (slice ++ read), by simp, ?_⟩
    simp only [Text.byteLength_append]
    omega

/-- The scanner takes these tokens and goes on behind them. -/
theorem Munches.tokensOf {offset stop : Nat} {cs behind : List Char} {tokens : List Token}
    (m : Munches offset cs tokens stop behind) :
    tokensOf offset cs = (LayerScript.tokensOf stop behind).map (tokens ++ ·) := by
  induction m with
  | @nil offset cs => cases LayerScript.tokensOf offset cs <;> rfl
  | @cons offset stop gap slice text rest behind kind tokens g h l _ ih =>
    have skip := g.skipSeparators_stop h offset
    cases slice with
    | nil => exact absurd rfl l.spells.ne_nil
    | cons c slice =>
      rw [tokensOf_of_lexeme skip (scanToken_of_longest l rfl), ih]
      cases LayerScript.tokensOf stop behind <;> rfl

theorem tokensOf_of_gap {gap : List Char} (g : Gap gap []) (offset : Nat) :
    tokensOf offset gap = .ok [] := by
  have skip := g.skipSeparators_stop (by simp [OpensGap]) offset
  rw [List.append_nil] at skip
  exact tokensOf_of_end skip

theorem not_opensGap_of_isQuote {c : Char} {cs : List Char} (h : isQuote c) :
    ¬ OpensGap (c :: cs) := by
  rcases isQuote_iff.1 h with rfl | rfl
  all_goals
    rintro (⟨d, hd, blank⟩ | hp | hp)
    · obtain rfl := Option.some.inj hd
      exact absurd blank (by decide)
    · exact absurd (head_eq_of_starts hp) (by decide)
    · exact absurd (head_eq_of_starts hp) (by decide)

/-- Where the grammar has nothing the scanner fails, with the place where that begins. -/
theorem tokensOf_of_broken {gap rest : List Char} {fault : LexicalFault} (g : Gap gap rest)
    (b : Broken fault rest) (offset : Nat) :
    tokensOf offset (gap ++ rest) = .error (fault.diagnostic ⟨offset + Text.byteLength gap,
      offset + Text.byteLength gap + fault.width rest⟩) := by
  cases b with
  | @comment cs none =>
    have skip := (g.skipSeparators offset).trans (skipSeparators_of_broken (.comment none) _)
    rw [tokensOf_of_error skip, Text.byteLength_append, ← Nat.add_assoc]
    rfl
  | @string mark cs quote none =>
    have scan := scanToken_of_none mark cs fun kind slice text s hp => by
      obtain ⟨q, rfl⟩ := s.exists_cons hp
      obtain ⟨written, w, -, rfl⟩ := s.of_isQuote quote
      exact none _ _ w (List.cons_prefix_cons.1 hp).2
    rw [if_pos quote] at scan
    exact tokensOf_of_fault (g.skipSeparators_stop (not_opensGap_of_isQuote quote) offset) scan
  | @character c cs stop plain none =>
    have scan := scanToken_of_none c cs none
    rw [if_neg plain] at scan
    exact tokensOf_of_fault (g.skipSeparators_stop stop offset) scan

/-- Every text is tokens up to a last gap or to where the grammar has nothing. -/
theorem exists_munches (offset : Nat) (cs : List Char) : ∃ tokens stop gap rest,
    Munches offset cs tokens stop (gap ++ rest) ∧ Gap gap rest ∧
      (rest = [] ∨ ∃ fault, Broken fault rest) := by
  obtain ⟨gap, rest, whole, g, stop | broken⟩ := exists_gap cs
  · cases rest with
    | nil => exact ⟨[], offset, gap, [], whole ▸ .nil, g, .inl rfl⟩
    | cons c tail =>
      cases h : scanToken c tail with
      | error fault =>
        refine ⟨[], offset, gap, c :: tail, whole ▸ .nil, g, .inr ⟨fault, ?_⟩⟩
        obtain ⟨rfl, none⟩ := broken_of_scanToken h
        by_cases quote : isQuote c
        · rw [if_pos quote]
          refine .string quote fun written meant w hp => none _ _ _ (.string quote w) ?_
          exact List.cons_prefix_cons.2 ⟨rfl, hp⟩
        · rw [if_neg quote]
          exact .character stop quote none
      | ok lexeme =>
        have l := longest_of_scanToken h
        have covers := (scanToken_append h).2
        have shorter : lexeme.rest.length < cs.length := by
          have := length_scanToken h
          rw [whole, List.length_append]
          omega
        rw [← covers] at l g stop
        rw [whole, ← covers]
        obtain ⟨tokens, last, gap', rest', m, g', ends⟩ := exists_munches _ lexeme.rest
        exact ⟨_, last, gap', rest', .cons g stop l m, g', ends⟩
  · exact ⟨[], offset, gap, rest, whole ▸ .nil, g, .inr ⟨_, broken⟩⟩
termination_by cs.length
decreasing_by exact shorter

/-! ## Sources -/

theorem Spells.ne_endOfText {kind : TokenKind} {slice text : List Char}
    (s : Spells kind slice text) : kind ≠ .endOfText := by
  cases s with
  | word => unfold wordKind; split <;> exact nofun
  | number => exact nofun
  | string => exact nofun
  | mark m =>
    have kinds : ∀ m ∈ marks, m.2 ≠ .endOfText := by decide
    exact kinds _ m

/-- Whether a span covers a part of a source. It begins and ends between characters then. -/
def Span.Covers (span : Span) (source : String) (slice : List Char) : Prop :=
  ∃ before after, source.toList = before ++ (slice ++ after) ∧
    span = ⟨Text.byteLength before, Text.byteLength before + Text.byteLength slice⟩

/-- Each token is spelled in the part of the source that it covers. -/
theorem Munches.spells {source : String} {offset stop : Nat} {cs behind : List Char}
    {tokens : List Token} (m : Munches offset cs tokens stop behind) (before : List Char)
    (whole : source.toList = before ++ cs) (size : Text.byteLength before = offset) :
    ∀ token ∈ tokens, ∃ slice, Spells token.kind slice token.text.toList ∧
      token.span.Covers source slice := by
  induction m generalizing before with
  | nil => simp
  | @cons offset stop gap slice text rest behind kind tokens g h l _ ih =>
    have start : Text.byteLength (before ++ gap) = offset + Text.byteLength gap := by
      rw [Text.byteLength_append, size]
    refine List.forall_mem_cons.2 ⟨⟨slice, by simpa using l.spells,
      before ++ gap, rest, by simp [whole], by rw [start]⟩, ?_⟩
    refine ih (before ++ gap ++ slice) (by simp [whole]) ?_
    rw [Text.byteLength_append, start]

/-- Each token covers a part of the source, which is not empty. -/
theorem Munches.covers {source : String} {offset stop : Nat} {cs behind : List Char}
    {tokens : List Token} (m : Munches offset cs tokens stop behind) (before : List Char)
    (whole : source.toList = before ++ cs) (size : Text.byteLength before = offset) :
    ∀ token ∈ tokens, token.kind ≠ .endOfText ∧
      ∃ slice, slice ≠ [] ∧ token.span.Covers source slice := by
  intro token mem
  obtain ⟨slice, spells, covers⟩ := m.spells before whole size token mem
  exact ⟨spells.ne_endOfText, slice, spells.ne_nil, covers⟩

theorem tokenize_of_munches {source : String} {words : List Token} {stop : Nat} {gap : List Char}
    (m : Munches 0 source.toList words stop gap) (g : Gap gap []) :
    tokenize source = .ok (words ++ [endToken source]) := by
  rw [tokenize, scanTokens, m.tokensOf, tokensOf_of_gap g]
  simp [Except.map, bind, Except.bind, pure, Except.pure]

theorem tokenize_of_broken {source : String} {words : List Token} {stop : Nat}
    {gap rest : List Char} {fault : LexicalFault}
    (m : Munches 0 source.toList words stop (gap ++ rest)) (g : Gap gap rest)
    (b : Broken fault rest) : tokenize source = .error (fault.diagnostic
      ⟨stop + Text.byteLength gap, stop + Text.byteLength gap + fault.width rest⟩) := by
  rw [tokenize, scanTokens, m.tokensOf, tokensOf_of_broken g b]
  rfl

/-- What is reported where the grammar has nothing are the first characters there. -/
theorem Broken.exists_slice {fault : LexicalFault} {rest : List Char} (b : Broken fault rest) :
    ∃ slice after, rest = slice ++ after ∧ fault.width rest = Text.byteLength slice ∧
      slice ≠ [] := by
  cases b with
  | comment => exact ⟨_, [], (List.append_nil _).symm, rfl, nofun⟩
  | string => exact ⟨_, [], (List.append_nil _).symm, rfl, nofun⟩
  | @character c cs => exact ⟨[c], cs, rfl, rfl, nofun⟩

/-- What a scanner finds in a source is all that there is but for a last gap. -/
theorem munches_of_scanTokens {source : String} {tokens : List Token}
    (h : scanTokens source = .ok tokens) :
    ∃ stop gap, Munches 0 source.toList tokens stop gap ∧ Gap gap [] := by
  obtain ⟨words, stop, gap, rest, m, g, rfl | ⟨fault, b⟩⟩ := exists_munches 0 source.toList
  · rw [List.append_nil] at m
    rw [scanTokens, m.tokensOf, tokensOf_of_gap g] at h
    obtain rfl : words = tokens := by simpa [Except.map] using h
    exact ⟨stop, gap, m, g⟩
  · rw [scanTokens, m.tokensOf, tokensOf_of_broken g b] at h
    exact nomatch h

/-- A scanner that fails reports some characters of the source. -/
theorem exists_fault_of_scanTokens {source : String} {d : Diagnostic}
    (h : scanTokens source = .error d) : ∃ (fault : LexicalFault) (span : Span) (slice : List Char),
      d = fault.diagnostic span ∧ span.Covers source slice ∧ slice ≠ [] := by
  obtain ⟨words, stop, gap, rest, m, g, rfl | ⟨fault, b⟩⟩ := exists_munches 0 source.toList
  · rw [List.append_nil] at m
    rw [scanTokens, m.tokensOf, tokensOf_of_gap g] at h
    exact nomatch h
  · rw [scanTokens, m.tokensOf, tokensOf_of_broken g b] at h
    obtain rfl := Except.error.inj h
    obtain ⟨read, whole, size⟩ := m.split
    obtain ⟨slice, after, rfl, width, some⟩ := b.exists_slice
    refine ⟨fault, _, slice, rfl, ⟨read ++ gap, after, by simp [whole], ?_⟩, some⟩
    rw [width, Text.byteLength_append, size, Nat.zero_add]

/-- The scanner takes a source exactly when it is longest tokens with gaps around them, and gives
these tokens and one mark of the end. It rejects a source exactly when such tokens lead to a place
where the grammar has nothing, and says where that begins. -/
theorem tokenize_maximal_munch (source : String) :
    (∀ tokens, tokenize source = .ok tokens ↔ ∃ words stop gap,
      Munches 0 source.toList words stop gap ∧ Gap gap [] ∧ tokens = words ++ [endToken source] ∧
        ∀ word ∈ words, word.kind ≠ .endOfText ∧
          ∃ slice, slice ≠ [] ∧ word.span.Covers source slice) ∧
    (∀ d, tokenize source = .error d ↔ ∃ words stop gap rest fault,
      Munches 0 source.toList words stop (gap ++ rest) ∧ Gap gap rest ∧ Broken fault rest ∧
        d = fault.diagnostic ⟨stop + Text.byteLength gap,
          stop + Text.byteLength gap + fault.width rest⟩) := by
  obtain ⟨words, stop, gap, rest, m, g, rfl | ⟨fault, b⟩⟩ := exists_munches 0 source.toList
  · rw [List.append_nil] at m
    refine ⟨fun tokens => ⟨fun h => ?_, ?_⟩, fun d => ⟨fun h => ?_, ?_⟩⟩
    · obtain rfl := Except.ok.inj ((tokenize_of_munches m g).symm.trans h)
      exact ⟨words, stop, gap, m, g, rfl, m.covers [] rfl rfl⟩
    · rintro ⟨words', stop', gap', m', g', rfl, -⟩
      exact tokenize_of_munches m' g'
    · exact absurd ((tokenize_of_munches m g).symm.trans h) nofun
    · rintro ⟨words', stop', gap', rest', fault', m', g', b', rfl⟩
      exact tokenize_of_broken m' g' b'
  · refine ⟨fun tokens => ⟨fun h => ?_, ?_⟩, fun d => ⟨fun h => ?_, ?_⟩⟩
    · exact absurd ((tokenize_of_broken m g b).symm.trans h) nofun
    · rintro ⟨words', stop', gap', m', g', rfl, -⟩
      exact tokenize_of_munches m' g'
    · obtain rfl := Except.error.inj ((tokenize_of_broken m g b).symm.trans h)
      exact ⟨words, stop, gap, rest, fault, m, g, b, rfl⟩
    · rintro ⟨words', stop', gap', rest', fault', m', g', b', rfl⟩
      exact tokenize_of_broken m' g' b'

end LayerScript
