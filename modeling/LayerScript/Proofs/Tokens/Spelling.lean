import LayerScript.Proofs.Tokens.Offsets
import Mathlib.Data.List.TakeWhile

/-!
# The token grammar

What the tokens of the language are and what may stand between them, said without a scanner. A
scanner is right when each token that it takes is the longest that the grammar has at its place.
-/

namespace LayerScript

/-! ## Gaps -/

/-- What stands behind the opening of a block comment, the closing mark included. Comments nest. -/
inductive CommentBody : List Char → Prop where
  | close : CommentBody ['*', '/']
  | nested {inner outer : List Char} : CommentBody inner → CommentBody outer →
      CommentBody ('/' :: '*' :: (inner ++ outer))
  | character {c : Char} {body : List Char} : ¬ ['/', '*'] <+: c :: body →
      ¬ ['*', '/'] <+: c :: body → CommentBody body → CommentBody (c :: body)

/-- Blank characters and comments in front of a text. A comment without a closing mark goes up to
the end of its line, which is a line feed or the end of the text. -/
inductive Gap : (gap rest : List Char) → Prop where
  | nil {rest : List Char} : Gap [] rest
  | blank {c : Char} {gap rest : List Char} : Text.isBlank c → Gap gap rest → Gap (c :: gap) rest
  | line {line gap rest : List Char} : '\n' ∉ line → (∀ c ∈ (gap ++ rest).head?, c = '\n') →
      Gap gap rest → Gap ('/' :: '/' :: (line ++ gap)) rest
  | block {body gap rest : List Char} : CommentBody body → Gap gap rest →
      Gap ('/' :: '*' :: (body ++ gap)) rest

/-- Whether a text starts with a blank character or the opening of a comment. -/
def OpensGap (cs : List Char) : Prop :=
  (∃ c ∈ cs.head?, Text.isBlank c) ∨ ['/', '/'] <+: cs ∨ ['/', '*'] <+: cs

/-! ## Tokens -/

/-- The part of a number from its point on. -/
def Fraction (cs : List Char) : Prop :=
  cs = [] ∨ ∃ d ds, isDigit d ∧ (∀ c ∈ ds, isDigitOrGap c) ∧ cs = '.' :: d :: ds

/-- The part of a number from its letter on. The grammar of tokens does not ask for digits. -/
def Exponent (cs : List Char) : Prop :=
  cs = [] ∨ ∃ letter sign ds, (letter = 'e' ∨ letter = 'E') ∧ sign ∈ [[], ['+'], ['-']] ∧
    (∀ c ∈ ds, isDigit c) ∧ cs = letter :: (sign ++ ds)

def Numeral (cs : List Char) : Prop :=
  ∃ d ds fraction exponent, isDigit d ∧ (∀ c ∈ ds, isDigitOrGap c) ∧ Fraction fraction ∧
    Exponent exponent ∧ cs = d :: (ds ++ (fraction ++ exponent))

/-- The characters between the marks of a string, and those that they stand for. -/
inductive Writing (mark : Char) : (written meant : List Char) → Prop where
  | nil : Writing mark [] []
  | plain {c : Char} {written meant : List Char} : c ≠ mark → c ≠ '\\' →
      Writing mark written meant → Writing mark (c :: written) (c :: meant)
  | escape {c : Char} {written meant : List Char} : Writing mark written meant →
      Writing mark ('\\' :: c :: written) (unescape c :: meant)

def isQuote (c : Char) : Bool :=
  c = '"' || c = '\''

def marks : List (List Char × TokenKind) :=
  [(['-', '>'], .arrow), (['=', '='], .equalEqual), (['!', '='], .bangEqual),
    (['<', '='], .lessEqual), (['>', '='], .greaterEqual), (['|', '|'], .orOr),
    (['&', '&'], .andAnd), (['('], .parenOpen), ([')'], .parenClose), (['\x7b'], .braceOpen),
    (['\x7d'], .braceClose), (['['], .bracketOpen), ([']'], .bracketClose), ([','], .comma),
    (['.'], .dot), ([':'], .colon), ([';'], .semicolon), (['+'], .plus), (['-'], .minus),
    (['*'], .star), (['/'], .slash), (['%'], .percent), (['='], .assign), (['!'], .bang),
    (['<'], .less), (['>'], .greater), (['|'], .pipe)]

/-- A token of a kind as it stands in a source, and the text it carries. -/
inductive Spells : (kind : TokenKind) → (slice text : List Char) → Prop where
  | word {c : Char} {cs : List Char} : startsWord c → (∀ d ∈ cs, continuesWord d) →
      Spells (wordKind (c :: cs)) (c :: cs) (c :: cs)
  | number {cs : List Char} : Numeral cs → Spells .number cs cs
  | string {mark : Char} {written meant : List Char} : isQuote mark →
      Writing mark written meant → Spells .string (mark :: (written ++ [mark])) meant
  | mark {mark : List Char} {kind : TokenKind} : (mark, kind) ∈ marks → Spells kind mark mark

/-- The longest token that a text starts with. -/
structure Longest (kind : TokenKind) (slice text cs : List Char) : Prop where
  spells : Spells kind slice text
  starts : slice <+: cs
  longest : ∀ {k p t}, Spells k p t → p <+: cs → p.length ≤ slice.length

/-! ### What a token begins with -/

theorem not_isDigit_of_startsWord {c : Char} (h : startsWord c) : ¬ isDigit c := by
  simp only [startsWord, isDigit, Bool.or_eq_true, Bool.and_eq_true, decide_eq_true_eq,
    Char.le_def, UInt32.le_iff_toNat_le] at h ⊢
  change ¬ (48 ≤ c.val.toNat ∧ c.val.toNat ≤ 57)
  rcases h with h | rfl
  · have bounds : 65 ≤ c.val.toNat := by
      delta Char.isAlpha Char.isUpper Char.isLower at h
      simp only [Bool.or_eq_true, Bool.and_eq_true, decide_eq_true_eq, ge_iff_le,
        UInt32.le_iff_toNat_le] at h
      rcases h with ⟨low, -⟩ | ⟨low, -⟩
      · exact low
      · exact Nat.le_trans (by decide) low
    omega
  · decide

theorem isQuote_iff {c : Char} : isQuote c ↔ c = '"' ∨ c = '\'' := by
  simp [isQuote]

theorem not_startsWord_of_isQuote {c : Char} (h : isQuote c) : ¬ startsWord c := by
  rcases isQuote_iff.1 h with rfl | rfl <;> decide

theorem not_isDigit_of_isQuote {c : Char} (h : isQuote c) : ¬ isDigit c := by
  rcases isQuote_iff.1 h with rfl | rfl <;> decide

/-- An operator begins like no word, number or string, and like no separator but for the slash. -/
theorem head_of_mem_marks {c : Char} {cs : List Char} {kind : TokenKind}
    (m : (c :: cs, kind) ∈ marks) :
    ¬ startsWord c ∧ ¬ isDigit c ∧ ¬ isQuote c ∧ ¬ Text.isBlank c := by
  have heads : ∀ m ∈ marks, m.1.head?.all fun c =>
      !startsWord c && !isDigit c && !isQuote c && !Text.isBlank c := by
    decide +kernel
  simpa [and_assoc] using heads _ m

section

variable {kind : TokenKind} {c : Char} {cs text : List Char}

theorem Spells.ne_nil {slice : List Char} (s : Spells kind slice text) : slice ≠ [] := by
  cases s with
  | word => exact List.cons_ne_nil _ _
  | number n =>
    obtain ⟨d, ds, fraction, exponent, -, -, -, -, rfl⟩ := n
    exact List.cons_ne_nil _ _
  | string => exact List.cons_ne_nil _ _
  | mark h =>
    have filled : ∀ m ∈ marks, m.1 ≠ [] := by decide
    exact filled _ h

theorem Numeral.isDigit (n : Numeral (c :: cs)) : isDigit c := by
  obtain ⟨d, ds, fraction, exponent, hd, -, -, -, eq⟩ := n
  obtain ⟨rfl, -⟩ := List.cons.inj eq
  exact hd

theorem Spells.of_startsWord (s : Spells kind (c :: cs) text) (h : startsWord c) :
    (∀ d ∈ cs, continuesWord d) ∧ kind = wordKind (c :: cs) ∧ text = c :: cs := by
  cases s with
  | word hc hcs => exact ⟨hcs, rfl, rfl⟩
  | number n => exact absurd n.isDigit (not_isDigit_of_startsWord h)
  | string q => exact absurd h (not_startsWord_of_isQuote q)
  | mark m =>
    exact absurd h (head_of_mem_marks m).1

theorem Spells.of_isDigit (s : Spells kind (c :: cs) text) (h : isDigit c) :
    Numeral (c :: cs) ∧ kind = .number ∧ text = c :: cs := by
  cases s with
  | word hc => exact absurd h (not_isDigit_of_startsWord hc)
  | number n => exact ⟨n, rfl, rfl⟩
  | string q => exact absurd h (not_isDigit_of_isQuote q)
  | mark m =>
    exact absurd h (head_of_mem_marks m).2.1

theorem Spells.of_isQuote (s : Spells kind (c :: cs) text) (h : isQuote c) :
    ∃ written, Writing c written text ∧ kind = .string ∧ cs = written ++ [c] := by
  cases s with
  | word hc => exact absurd hc (not_startsWord_of_isQuote h)
  | number n => exact absurd n.isDigit (not_isDigit_of_isQuote h)
  | string q w => exact ⟨_, w, rfl, rfl⟩
  | mark m =>
    exact absurd h (head_of_mem_marks m).2.2.1

theorem Spells.mem_marks (s : Spells kind (c :: cs) text) (hw : ¬ startsWord c)
    (hd : ¬ isDigit c) (hq : ¬ isQuote c) : (c :: cs, kind) ∈ marks ∧ text = c :: cs := by
  cases s with
  | word hc => exact absurd hc hw
  | number n => exact absurd n.isDigit hd
  | string q => exact absurd q hq
  | mark m => exact ⟨m, rfl⟩

end

/-! ## What the scanner takes -/

/-- A prefix all of whose characters pass a test is within the longest such prefix. -/
theorem length_le_takeWhile {p : Char → Bool} {cs ds : List Char} (h : ∀ c ∈ cs, p c)
    (hp : cs <+: ds) : cs.length ≤ (ds.takeWhile p).length := by
  obtain ⟨rest, rfl⟩ := hp
  rw [List.takeWhile_append_of_pos h, List.length_append]
  omega

/-- Where a run of characters ends is where the scanner ends it. -/
theorem run_eq (p : Char → Bool) (cs rest : List Char) (h : ∀ c ∈ cs, p c)
    (stop : ∀ c ∈ rest.head?, ¬ p c) :
    (cs ++ rest).takeWhile p = cs ∧ (cs ++ rest).dropWhile p = rest := by
  rw [List.takeWhile_append_of_pos h, List.dropWhile_append_of_pos h]
  cases rest with
  | nil => simp
  | cons c rest => simp [stop c rfl]

/-! ### Numbers -/

theorem exponent_takeExponent (cs : List Char) : Exponent (takeExponent cs).1 := by
  have digits (ds : List Char) : ∀ c ∈ ds.takeWhile isDigit, isDigit c :=
    fun _ h => List.mem_takeWhile_imp h
  fun_cases takeExponent cs with
  | case1 letter hl s ds hs =>
    refine .inr ⟨letter, [s], _, by simpa using hl, ?_, digits ds, rfl⟩
    rcases (by simpa using hs : s = '+' ∨ s = '-') with rfl | rfl <;> simp
  | case2 letter hl s ds hs =>
    exact .inr ⟨letter, [], _, by simpa using hl, by simp, digits (s :: ds), rfl⟩
  | case3 letter hl => exact .inr ⟨letter, [], [], by simpa using hl, by simp, by simp, rfl⟩
  | case4 => exact .inl rfl
  | case5 => exact .inl rfl

theorem length_le_takeExponent {cs : List Char} (rest : List Char) (e : Exponent cs) :
    cs.length ≤ (takeExponent (cs ++ rest)).1.length := by
  obtain rfl | ⟨letter, sign, ds, hl, hs, hds, rfl⟩ := e
  · exact Nat.zero_le _
  have run := length_le_takeWhile hds (List.prefix_append ds rest)
  have marked : (letter = 'e' || letter = 'E') = true := by simpa using hl
  simp only [List.mem_cons, List.not_mem_nil, or_false] at hs
  rcases hs with rfl | rfl | rfl
  · rw [List.nil_append]
    cases ds with
    | nil =>
      cases rest with
      | nil => simp [takeExponent, marked]
      | cons s rest =>
        simp only [List.cons_append, List.nil_append, takeExponent, marked, if_true]
        split <;> simp
    | cons d ds =>
      have unsigned : ¬ (d = '+' || d = '-') = true := by
        have := hds d List.mem_cons_self
        rintro h
        rcases (by simpa using h : d = '+' ∨ d = '-') with rfl | rfl <;>
          exact absurd this (by decide)
      simp only [List.cons_append, takeExponent, marked, if_true, unsigned]
      simpa using run
  all_goals
    simp only [List.cons_append, List.nil_append, takeExponent, marked, if_true]
    simpa using run

theorem fraction_takeFraction (cs : List Char) : Fraction (takeFraction cs).1 := by
  fun_cases takeFraction cs with
  | case1 d rest hd =>
    refine .inr ⟨d, rest.takeWhile isDigitOrGap, hd, fun _ h => List.mem_takeWhile_imp h, ?_⟩
    rw [List.takeWhile_cons_of_pos (by simp [isDigitOrGap, hd])]
  | case2 => exact .inl rfl
  | case3 => exact .inl rfl

/-- An exponent begins with a letter, which ends every run of digits. -/
theorem Exponent.head {cs : List Char} (rest : List Char) (e : Exponent cs) (h : cs ≠ []) :
    ∃ letter tail, cs ++ rest = letter :: tail ∧ letter ≠ '.' ∧ ¬ isDigitOrGap letter := by
  obtain rfl | ⟨letter, sign, ds, rfl | rfl, -, -, rfl⟩ := e
  · exact absurd rfl h
  all_goals exact ⟨_, _, rfl, by decide, by decide⟩

theorem length_le_takeFraction {fraction exponent : List Char} (rest : List Char)
    (f : Fraction fraction) (e : Exponent exponent) :
    let taken := takeFraction (fraction ++ (exponent ++ rest))
    fraction.length + exponent.length ≤ taken.1.length + (takeExponent taken.2).1.length := by
  intro taken
  by_cases last : exponent = []
  · subst last
    obtain rfl | ⟨d, ds, hd, hds, rfl⟩ := f
    · exact Nat.zero_le _
    have run := length_le_takeWhile hds (List.prefix_append ds rest)
    have eq : taken.1 = '.' :: d :: (ds ++ rest).takeWhile isDigitOrGap := by
      simp [taken, takeFraction, hd, isDigitOrGap]
    simp only [eq, List.length_cons, List.length_nil]
    omega
  · have whole := length_le_takeExponent rest e
    obtain ⟨letter, tail, eq, hp, hl⟩ := e.head rest last
    obtain rfl | ⟨d, ds, hd, hds, rfl⟩ := f
    · have : taken = ([], exponent ++ rest) := by
        simp only [taken, List.nil_append, eq]
        exact takeFraction.eq_2 _ fun _ _ h => hp (List.cons.inj h).1
      rw [this]
      simpa using whole
    · have cut := run_eq isDigitOrGap (d :: ds) (exponent ++ rest)
        (by simpa [isDigitOrGap, hd] using hds) (by simpa [eq] using hl)
      have : taken = ('.' :: d :: ds, exponent ++ rest) := by
        simp only [taken, List.cons_append, takeFraction, hd, if_true]
        exact Prod.ext (congrArg ('.' :: ·) cut.1) cut.2
      rw [this]
      simpa using whole

/-- A number is taken whole, and nothing but a number is. -/
theorem numeral_takeNumber {c : Char} {cs : List Char} (h : isDigit c) :
    Numeral (takeNumber (c :: cs)).1 := by
  have gap : isDigitOrGap c = true := by simp [isDigitOrGap, h]
  refine ⟨c, cs.takeWhile isDigitOrGap, _, _, h, fun _ h => List.mem_takeWhile_imp h,
    fraction_takeFraction (cs.dropWhile isDigitOrGap), exponent_takeExponent
      (takeFraction (cs.dropWhile isDigitOrGap)).2, ?_⟩
  simp [takeNumber, gap]

theorem length_le_takeNumber {p cs : List Char} (n : Numeral p) (hp : p <+: cs) :
    p.length ≤ (takeNumber cs).1.length := by
  obtain ⟨d, ds, fraction, exponent, hd, hds, hf, he, rfl⟩ := n
  obtain ⟨rest, rfl⟩ := hp
  have digits : ∀ c ∈ d :: ds, isDigitOrGap c := by simpa [isDigitOrGap, hd] using hds
  by_cases last : fraction ++ exponent = []
  · obtain ⟨rfl, rfl⟩ := List.append_eq_nil_iff.1 last
    have := length_le_takeWhile digits (List.prefix_append _ rest)
    simp only [takeNumber, List.append_nil, List.cons_append, List.length_append] at this ⊢
    omega
  · have tail := length_le_takeFraction rest hf he
    have stop : ∀ c ∈ (fraction ++ (exponent ++ rest)).head?, ¬ isDigitOrGap c := by
      obtain rfl | ⟨_, _, -, -, rfl⟩ := hf
      · obtain ⟨_, _, eq, -, hl⟩ := he.head rest (by simpa using last)
        simpa [eq] using hl
      · simp [isDigitOrGap, isDigit]
    have run := run_eq _ _ _ digits stop
    have whole : d :: (ds ++ (fraction ++ exponent)) ++ rest =
        d :: ds ++ (fraction ++ (exponent ++ rest)) := by simp
    rw [whole]
    simp only [takeNumber, run.1, run.2, List.length_append, List.length_cons] at tail ⊢
    omega

/-! ### Strings -/

theorem writing_of_takeString {mark : Char} {cs written rest : List Char}
    (h : takeString mark cs = some (written, rest)) : Writing mark written (unescaped written) := by
  fun_induction takeString mark cs generalizing written with
  | case1 => simp at h
  | case2 => simp at h
  | case3 c cs ih =>
    obtain ⟨⟨inner, behind⟩, hi, he⟩ := Option.map_eq_some_iff.1 h
    obtain ⟨rfl, rfl⟩ := Prod.mk.inj he
    exact .escape (ih hi)
  | case4 cs =>
    obtain ⟨rfl, rfl⟩ := Prod.mk.inj (Option.some.inj h)
    exact .nil
  | case5 c cs ends escapes hc ih =>
    obtain ⟨⟨inner, behind⟩, hi, he⟩ := Option.map_eq_some_iff.1 h
    obtain ⟨rfl, rfl⟩ := Prod.mk.inj he
    have plain : c ≠ '\\' := by
      rintro rfl
      cases cs with
      | nil => simp [takeString] at hi
      | cons d ds => exact escapes d ds rfl rfl
    rw [unescaped]
    · exact .plain hc plain (ih hi)
    · rintro d ds rfl
      exact absurd rfl plain

/-- A string ends at the first mark that no backslash stands in front of. -/
theorem takeString_of_writing {mark : Char} {written meant : List Char} (rest : List Char)
    (hm : mark ≠ '\\') (w : Writing mark written meant) :
    takeString mark (written ++ mark :: rest) = some (written, rest) ∧
      unescaped written = meant := by
  induction w with
  | nil =>
    refine ⟨?_, rfl⟩
    rw [List.nil_append, takeString, if_pos rfl]
    all_goals
      intros
      contradiction
  | @plain c written meant hc hp w ih =>
    rw [List.cons_append, takeString, if_neg hc, ih.1, unescaped, ih.2]
    · exact ⟨rfl, rfl⟩
    all_goals
      intros
      contradiction
  | escape w ih =>
    rw [List.cons_append, List.cons_append, takeString, ih.1, unescaped, ih.2]
    exact ⟨rfl, rfl⟩

/-! ### Operators -/

theorem isPrefixOf_eq_false {mark cs : List Char} (h : ∀ tail, ¬ cs = mark ++ tail) :
    mark.isPrefixOf cs = false := by
  rw [Bool.eq_false_iff]
  intro p
  obtain ⟨tail, rfl⟩ := List.isPrefixOf_iff_prefix.1 p
  exact h tail rfl

/-- The scanner takes the first operator of the table that the text starts with. -/
theorem markAt?_eq (cs : List Char) : markAt? cs =
    (marks.find? fun m => m.1.isPrefixOf cs).map fun m => (m.2, m.1.length) := by
  fun_cases markAt? cs with
  | case28 =>
    have none : marks.find? (fun m => m.1.isPrefixOf cs) = none := by
      rw [List.find?_eq_none]
      simp only [marks, List.forall_mem_cons, Bool.not_eq_true]
      and_intros
      all_goals first | exact isPrefixOf_eq_false (by assumption) | simp
    rw [none]
    rfl
  | _ => simp_all [marks, List.isPrefixOf, isPrefixOf_eq_false]

/-- Longer operators stand in front of shorter ones. -/
theorem pairwise_marks : marks.Pairwise fun m n => n.1.length ≤ m.1.length := by
  decide

theorem markAt?_eq_some {cs : List Char} {kind : TokenKind} {length : Nat}
    (h : markAt? cs = some (kind, length)) :
    (cs.take length, kind) ∈ marks ∧ ∀ m ∈ marks, m.1 <+: cs → m.1.length ≤ length := by
  rw [markAt?_eq, Option.map_eq_some_iff] at h
  obtain ⟨first, found, eq⟩ := h
  obtain ⟨rfl, rfl⟩ := Prod.mk.inj eq
  obtain ⟨starts, before, behind, split, none⟩ := List.find?_eq_some_iff_append.1 found
  obtain ⟨rest, rfl⟩ := List.isPrefixOf_iff_prefix.1 starts
  refine ⟨by simpa using List.mem_of_find?_eq_some found, fun m hm hp => ?_⟩
  have ordered := pairwise_marks
  rw [split] at hm ordered
  rcases List.mem_append.1 hm with hb | hb
  · have := none m hb
    simp [List.isPrefixOf_iff_prefix.2 hp] at this
  · rcases List.mem_cons.1 hb with rfl | hb
    · exact Nat.le_refl _
    · exact List.rel_of_pairwise_cons (List.pairwise_append.1 ordered).2.1 hb

theorem markAt?_eq_none {cs : List Char} (h : markAt? cs = none) : ∀ m ∈ marks, ¬ m.1 <+: cs := by
  rw [markAt?_eq, Option.map_eq_none_iff, List.find?_eq_none] at h
  exact fun m hm hp => h m hm <| List.isPrefixOf_iff_prefix.2 hp

/-! ### Tokens -/

theorem ne_backslash_of_isQuote {c : Char} (h : isQuote c) : c ≠ '\\' := by
  rintro rfl
  exact absurd h (by decide)

theorem head_eq_of_starts {c d : Char} {cs ds : List Char} (h : c :: cs <+: d :: ds) : c = d := by
  obtain ⟨rest, eq⟩ := h
  exact (List.cons.inj eq).1

/-- A token at a place begins with the character there. -/
theorem Spells.exists_cons {c : Char} {cs p text : List Char} {kind : TokenKind}
    (s : Spells kind p text) (hp : p <+: c :: cs) : ∃ q, p = c :: q := by
  cases p with
  | nil => exact absurd rfl s.ne_nil
  | cons d q => exact ⟨q, by rw [head_eq_of_starts hp]⟩

/-- A string token is what the scanner takes behind its first mark. -/
theorem Spells.takeString {mark : Char} {cs p text : List Char} {kind : TokenKind}
    (s : Spells kind (mark :: p) text) (quote : isQuote mark) (hp : mark :: p <+: mark :: cs) :
    ∃ written rest, p = written ++ [mark] ∧
      LayerScript.takeString mark cs = some (written, rest) := by
  obtain ⟨written, w, -, rfl⟩ := s.of_isQuote quote
  obtain ⟨rest, eq⟩ := hp
  have found := (takeString_of_writing rest (ne_backslash_of_isQuote quote) w).1
  simp only [List.cons_append, List.append_assoc, List.nil_append, List.cons.injEq,
    true_and] at eq
  rw [eq] at found
  exact ⟨written, rest, rfl, found⟩

/-- The scanner takes the longest token there is. -/
theorem longest_of_scanToken {c : Char} {cs : List Char} {lexeme : Lexeme}
    (h : scanToken c cs = .ok lexeme) :
    Longest lexeme.kind lexeme.source lexeme.text (c :: cs) := by
  have covers := List.prefix_append lexeme.source lexeme.rest
  rw [(scanToken_append h).2] at covers
  fun_cases scanToken c cs with simp only [scanToken, *] at h
  | case1 hw word =>
    obtain rfl := Except.ok.inj h
    refine ⟨.word hw fun _ hd => List.mem_takeWhile_imp hd, covers, fun {k p t} s hp => ?_⟩
    obtain ⟨q, rfl⟩ := s.exists_cons hp
    have := length_le_takeWhile (s.of_startsWord hw).1 (List.cons_prefix_cons.1 hp).2
    simpa [word] using this
  | case2 hw hd number rest hn =>
    obtain rfl := Except.ok.inj h
    have taken : number = (takeNumber (c :: cs)).1 := by rw [hn]
    refine ⟨.number (taken ▸ numeral_takeNumber hd), covers, fun {k p t} s hp => ?_⟩
    obtain ⟨q, rfl⟩ := s.exists_cons hp
    exact taken ▸ length_le_takeNumber (s.of_isDigit hd).1 hp
  | case3 hw hd hq written rest ht =>
    obtain rfl := Except.ok.inj h
    refine ⟨.string hq (writing_of_takeString ht), covers, fun {k p t} s hp => ?_⟩
    obtain ⟨q, rfl⟩ := s.exists_cons hp
    obtain ⟨other, behind, rfl, found⟩ := s.takeString hq hp
    rw [ht] at found
    cases found
    exact Nat.le_refl _
  | case4 => simp at h
  | case5 hw hd hq kind length hm mark =>
    obtain rfl := Except.ok.inj h
    obtain ⟨listed, longest⟩ := markAt?_eq_some hm
    refine ⟨.mark listed, covers, fun {k p t} s hp => ?_⟩
    obtain ⟨q, rfl⟩ := s.exists_cons hp
    have bound : (c :: q).length ≤ length := longest _ (s.mem_marks hw hd hq).1 hp
    have := hp.length_le
    rw [List.length_take]
    omega
  | case6 => simp at h

/-- What the scanner stops at: a quotation mark that no string begins with, or another character
that no token begins with. -/
theorem broken_of_scanToken {c : Char} {cs : List Char} {fault : LexicalFault}
    (h : scanToken c cs = .error fault) :
    fault = (if isQuote c then .openString else .unexpectedCharacter c) ∧
      ∀ kind p text, Spells kind p text → ¬ p <+: c :: cs := by
  fun_cases scanToken c cs with simp only [scanToken, *] at h
  | case1 => simp at h
  | case2 => simp at h
  | case3 => simp at h
  | case4 hw hd hq ht =>
    obtain rfl := Except.error.inj h
    have quote : isQuote c := hq
    refine ⟨by rw [if_pos quote], fun kind p text s hp => ?_⟩
    obtain ⟨q, rfl⟩ := s.exists_cons hp
    obtain ⟨written, rest, -, found⟩ := s.takeString quote hp
    rw [ht] at found
    cases found
  | case5 => simp at h
  | case6 hw hd hq hm =>
    obtain rfl := Except.error.inj h
    have plain : ¬ isQuote c := hq
    refine ⟨by rw [if_neg plain], fun kind p text s hp => ?_⟩
    obtain ⟨q, rfl⟩ := s.exists_cons hp
    exact markAt?_eq_none hm _ (s.mem_marks hw hd plain).1 hp

/-- Where no token begins the scanner stops. -/
theorem scanToken_of_none (c : Char) (cs : List Char)
    (none : ∀ kind slice text, Spells kind slice text → ¬ slice <+: c :: cs) :
    scanToken c cs = .error (if isQuote c then .openString else .unexpectedCharacter c) := by
  cases h : scanToken c cs with
  | error fault => rw [(broken_of_scanToken h).1]
  | ok lexeme =>
    have l := longest_of_scanToken h
    exact absurd l.starts (none _ _ _ l.spells)

/-- What a token is written like says what it is. -/
theorem Spells.unique {slice text text' : List Char} {kind kind' : TokenKind}
    (s : Spells kind slice text) (s' : Spells kind' slice text') : kind = kind' ∧ text = text' := by
  cases slice with
  | nil => exact absurd rfl s.ne_nil
  | cons c cs =>
    by_cases hw : startsWord c
    · obtain ⟨-, rfl, rfl⟩ := s.of_startsWord hw
      obtain ⟨-, rfl, rfl⟩ := s'.of_startsWord hw
      exact ⟨rfl, rfl⟩
    by_cases hd : isDigit c
    · obtain ⟨-, rfl, rfl⟩ := s.of_isDigit hd
      obtain ⟨-, rfl, rfl⟩ := s'.of_isDigit hd
      exact ⟨rfl, rfl⟩
    by_cases hq : isQuote c
    · obtain ⟨written, w, rfl, rfl⟩ := s.of_isQuote hq
      obtain ⟨written', w', rfl, eq⟩ := s'.of_isQuote hq
      obtain rfl := List.append_cancel_right eq
      have mark := ne_backslash_of_isQuote hq
      exact ⟨rfl, (takeString_of_writing [] mark w).2.symm.trans
        (takeString_of_writing [] mark w').2⟩
    · obtain ⟨m, rfl⟩ := s.mem_marks hw hd hq
      obtain ⟨m', rfl⟩ := s'.mem_marks hw hd hq
      have distinct : ∀ m ∈ marks, ∀ n ∈ marks, m.1 = n.1 → m.2 = n.2 := by decide
      exact ⟨distinct _ m _ m' rfl, rfl⟩

theorem Longest.unique {kind kind' : TokenKind} {slice slice' text text' cs : List Char}
    (l : Longest kind slice text cs) (l' : Longest kind' slice' text' cs) :
    kind = kind' ∧ slice = slice' ∧ text = text' := by
  have same : slice = slice' := List.IsPrefix.eq_of_length
    (List.prefix_of_prefix_length_le l.starts l'.starts (l'.longest l.spells l.starts))
    (Nat.le_antisymm (l'.longest l.spells l.starts) (l.longest l'.spells l'.starts))
  obtain rfl := same
  obtain ⟨hk, ht⟩ := l.spells.unique l'.spells
  exact ⟨hk, rfl, ht⟩

/-- A token that is the longest at its place is the one that the scanner takes. -/
theorem scanToken_of_longest {c : Char} {cs slice text rest : List Char} {kind : TokenKind}
    (l : Longest kind slice text (c :: cs)) (split : c :: cs = slice ++ rest) :
    scanToken c cs = .ok ⟨kind, text, slice, rest⟩ := by
  cases h : scanToken c cs with
  | error fault => exact absurd l.starts ((broken_of_scanToken h).2 _ _ _ l.spells)
  | ok lexeme =>
    obtain ⟨rfl, rfl, rfl⟩ := (longest_of_scanToken h).unique l
    have behind := (scanToken_append h).2
    rw [split] at behind
    obtain rfl := List.append_cancel_left behind
    rfl

/-! ## Names -/

theorem wordKind_eq_identifier {word : List Char} :
    wordKind word = .identifier ↔ Keyword.ofText? (String.ofList word) = none := by
  unfold wordKind
  split <;> simp [*]

theorem spells_of_isIdentifier {x : String} (h : isIdentifier x) :
    Spells .identifier x.toList x.toList := by
  unfold isIdentifier at h
  split at h
  · cases h
  · next c cs split =>
    simp only [Bool.and_eq_true, Option.isNone_iff_eq_none, List.all_eq_true] at h
    obtain ⟨⟨first, others⟩, plain⟩ := h
    have kind : wordKind (c :: cs) = .identifier := by
      rw [wordKind_eq_identifier, ← split, String.ofList_toList, plain]
    rw [split, ← kind]
    exact .word first others

theorem isIdentifier_of_spells {kind : TokenKind} {slice text : List Char}
    (s : Spells kind slice text) (plain : kind = .identifier) :
    isIdentifier (String.ofList slice) := by
  cases s with
  | @word c cs first others =>
    have word : cs.all continuesWord := List.all_eq_true.2 others
    rw [isIdentifier, String.toList_ofList]
    simp only [first, word, wordKind_eq_identifier.1 plain, Option.isNone_none, Bool.and_self]
  | number => exact nomatch plain
  | string => exact nomatch plain
  | mark m =>
    have kinds : ∀ m ∈ marks, m.2 ≠ .identifier := by decide
    exact absurd plain (kinds _ m)

end LayerScript
