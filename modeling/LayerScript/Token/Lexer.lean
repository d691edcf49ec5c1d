import LayerScript.Token.Basic
import LayerScript.Text.Blank
import LayerScript.Diagnostic

/-!
# Splitting a text into tokens

`scanTokens` reads the longest token at each place. Blank characters, comments to the end of the
line and nested block comments separate tokens. `scanToken_append` says that a token and what
follows it make up the text that was scanned, so that reading always goes forward.
-/

namespace LayerScript

/-- Why a text cannot be split: the failure covers the characters from where it starts to the end
of the text, or one character. -/
inductive LexicalFault where
  | unexpectedCharacter (c : Char)
  | openComment
  | openString
deriving DecidableEq, Repr

def LexicalFault.message : LexicalFault → String
  | .unexpectedCharacter c => s!"unexpected character `{c}`"
  | .openComment => "unterminated block comment"
  | .openString => "unterminated string literal"

/-! ## Separators -/

/-- The byte offset behind a block comment `depth + 1` comments deep, and what follows it, given
the offset of the text. -/
def skipComment (depth offset : Nat) : List Char → Option (Nat × List Char)
  | [] => none
  | '/' :: '*' :: cs => skipComment (depth + 1) (offset + 2) cs
  | '*' :: '/' :: cs =>
    match depth with
    | 0 => some (offset + 2, cs)
    | outer + 1 => skipComment outer (offset + 2) cs
  | c :: cs => skipComment depth (offset + c.utf8Size) cs

theorem length_skipComment {depth offset stop : Nat} {cs rest : List Char}
    (h : skipComment depth offset cs = some (stop, rest)) : rest.length < cs.length := by
  fun_induction skipComment depth offset cs with
  | case1 => simp at h
  | case2 depth offset cs ih => have := ih h; simp only [List.length_cons]; omega
  | case3 offset cs =>
    obtain rfl := (Prod.mk.inj (Option.some.inj h)).2
    simp only [List.length_cons]
    omega
  | case4 offset cs outer ih => have := ih h; simp only [List.length_cons]; omega
  | case5 depth offset c cs _ _ ih => have := ih h; simp only [List.length_cons]; omega

/-- Skips blank characters and comments. A comment that is not closed is reported by the byte
offset of its start. -/
def skipSeparators (offset : Nat) (cs : List Char) : Except Nat (Nat × List Char) :=
  match cs with
  | [] => .ok (offset, [])
  | '/' :: '/' :: rest =>
    let line := rest.takeWhile (· ≠ '\n')
    skipSeparators (offset + 2 + Text.byteLength line) (rest.dropWhile (· ≠ '\n'))
  | '/' :: '*' :: rest =>
    match _h : skipComment 0 (offset + 2) rest with
    | some (stop, behind) => skipSeparators stop behind
    | none => .error offset
  | c :: rest =>
    if Text.isBlank c then skipSeparators (offset + c.utf8Size) rest else .ok (offset, c :: rest)
termination_by cs.length
decreasing_by
  · have := (List.dropWhile_sublist (fun c => decide (c ≠ '\n')) (l := rest)).length_le
    simp only [List.length_cons]
    omega
  · have := length_skipComment _h
    simp only [List.length_cons]
    omega
  · simp

theorem length_skipSeparators {offset start : Nat} {cs rest : List Char}
    (h : skipSeparators offset cs = .ok (start, rest)) : rest.length ≤ cs.length := by
  fun_induction skipSeparators offset cs with
  | case1 => obtain rfl := (Prod.mk.inj (Except.ok.inj h)).2; simp
  | case2 offset tail line ih =>
    have := ih h
    have := (List.dropWhile_sublist (fun c => decide (c ≠ '\n')) (l := tail)).length_le
    simp only [List.length_cons]
    omega
  | case3 offset tail stop behind hc ih =>
    have := ih h
    have := length_skipComment hc
    simp only [List.length_cons]
    omega
  | case4 => simp at h
  | case5 offset c tail _ _ hb ih => have := ih h; simp only [List.length_cons]; omega
  | case6 offset c tail _ _ hb =>
    obtain rfl := (Prod.mk.inj (Except.ok.inj h)).2
    exact Nat.le_refl _

/-! ## Tokens -/

/-- Digits and separating underscores. -/
def isDigitOrGap (c : Char) : Bool :=
  isDigit c || c = '_'

/-- The fraction of a number, which needs a digit behind its point. -/
def takeFraction (cs : List Char) : List Char × List Char :=
  match cs with
  | '.' :: d :: rest =>
    if isDigit d then
      ('.' :: (d :: rest).takeWhile isDigitOrGap, (d :: rest).dropWhile isDigitOrGap)
    else ([], cs)
  | _ => ([], cs)

/-- The exponent of a number. Its digits may be missing, which is found out later. -/
def takeExponent (cs : List Char) : List Char × List Char :=
  match cs with
  | c :: rest =>
    if c = 'e' || c = 'E' then
      match rest with
      | s :: digits =>
        if s = '+' || s = '-' then
          (c :: s :: digits.takeWhile isDigit, digits.dropWhile isDigit)
        else (c :: rest.takeWhile isDigit, rest.dropWhile isDigit)
      | [] => ([c], [])
    else ([], cs)
  | [] => ([], [])

def takeNumber (cs : List Char) : List Char × List Char :=
  let (fraction, rest) := takeFraction (cs.dropWhile isDigitOrGap)
  let (exponent, rest) := takeExponent rest
  (cs.takeWhile isDigitOrGap ++ fraction ++ exponent, rest)

/-- The character that a backslash and `c` stand for. -/
def unescape (c : Char) : Char :=
  if c = 'n' then '\n' else if c = 'r' then '\r' else if c = 't' then '\t' else c

/-- What is written in a string up to its closing mark, and what follows the mark. -/
def takeString (mark : Char) : List Char → Option (List Char × List Char)
  | [] => none
  | '\\' :: [] => none
  | '\\' :: c :: cs =>
    (takeString mark cs).map fun (written, rest) => ('\\' :: c :: written, rest)
  | c :: cs =>
    if c = mark then some ([], cs)
    else (takeString mark cs).map fun (written, rest) => (c :: written, rest)

/-- The characters that the writing in a string stands for. -/
def unescaped : List Char → List Char
  | '\\' :: c :: cs => unescape c :: unescaped cs
  | c :: cs => c :: unescaped cs
  | [] => []

/-- The mark of two characters or of one that a text starts with, and its length. -/
def markAt? : List Char → Option (TokenKind × Nat)
  | '-' :: '>' :: _ => some (.arrow, 2)
  | '=' :: '=' :: _ => some (.equalEqual, 2)
  | '!' :: '=' :: _ => some (.bangEqual, 2)
  | '<' :: '=' :: _ => some (.lessEqual, 2)
  | '>' :: '=' :: _ => some (.greaterEqual, 2)
  | '|' :: '|' :: _ => some (.orOr, 2)
  | '&' :: '&' :: _ => some (.andAnd, 2)
  | '(' :: _ => some (.parenOpen, 1)
  | ')' :: _ => some (.parenClose, 1)
  | '\x7b' :: _ => some (.braceOpen, 1)
  | '\x7d' :: _ => some (.braceClose, 1)
  | '[' :: _ => some (.bracketOpen, 1)
  | ']' :: _ => some (.bracketClose, 1)
  | ',' :: _ => some (.comma, 1)
  | '.' :: _ => some (.dot, 1)
  | ':' :: _ => some (.colon, 1)
  | ';' :: _ => some (.semicolon, 1)
  | '+' :: _ => some (.plus, 1)
  | '-' :: _ => some (.minus, 1)
  | '*' :: _ => some (.star, 1)
  | '/' :: _ => some (.slash, 1)
  | '%' :: _ => some (.percent, 1)
  | '=' :: _ => some (.assign, 1)
  | '!' :: _ => some (.bang, 1)
  | '<' :: _ => some (.less, 1)
  | '>' :: _ => some (.greater, 1)
  | '|' :: _ => some (.pipe, 1)
  | _ => none

/-- A token without its place: its kind, its text, the part of the source it covers, and what
follows it. -/
structure Lexeme where
  kind : TokenKind
  text : List Char
  source : List Char
  rest : List Char

def wordKind (word : List Char) : TokenKind :=
  match Keyword.ofText? (String.ofList word) with
  | some k => .keyword k
  | none => .identifier

/-- The token at the start of a text that is not empty. -/
def scanToken (c : Char) (cs : List Char) : Except LexicalFault Lexeme :=
  if startsWord c then
    let word := c :: cs.takeWhile continuesWord
    .ok ⟨wordKind word, word, word, cs.dropWhile continuesWord⟩
  else if isDigit c then
    let (number, rest) := takeNumber (c :: cs)
    .ok ⟨.number, number, number, rest⟩
  else if c = '\"' || c = '\'' then
    match takeString c cs with
    | some (written, rest) => .ok ⟨.string, unescaped written, c :: (written ++ [c]), rest⟩
    | none => .error .openString
  else
    match markAt? (c :: cs) with
    | some (kind, length) =>
      let mark := (c :: cs).take length
      .ok ⟨kind, mark, mark, (c :: cs).drop length⟩
    | none => .error (.unexpectedCharacter c)

/-! ## What a token covers -/

theorem takeFraction_append (cs : List Char) : (takeFraction cs).1 ++ (takeFraction cs).2 = cs := by
  fun_cases takeFraction cs with
  | case1 d rest h => rw [List.cons_append, List.takeWhile_append_dropWhile]
  | case2 d rest h => rfl
  | case3 => rfl

theorem takeExponent_append (cs : List Char) : (takeExponent cs).1 ++ (takeExponent cs).2 = cs := by
  fun_cases takeExponent cs <;> simp_all [List.takeWhile_append_dropWhile]

theorem takeNumber_append (cs : List Char) : (takeNumber cs).1 ++ (takeNumber cs).2 = cs := by
  simp only [takeNumber, List.append_assoc]
  rw [takeExponent_append, takeFraction_append, List.takeWhile_append_dropWhile]

theorem takeNumber_ne_nil {c : Char} {cs : List Char} (h : isDigit c) :
    (takeNumber (c :: cs)).1 ≠ [] := by
  simp [takeNumber, isDigitOrGap, h]

theorem append_of_takeString {mark : Char} {cs written rest : List Char}
    (h : takeString mark cs = some (written, rest)) : written ++ mark :: rest = cs := by
  fun_induction takeString mark cs generalizing written with
  | case1 => simp at h
  | case2 => simp at h
  | case3 c cs ih =>
    obtain ⟨⟨inner, behind⟩, hi, he⟩ := Option.map_eq_some_iff.1 h
    obtain ⟨rfl, rfl⟩ := Prod.mk.inj he
    rw [List.cons_append, List.cons_append, ih hi]
  | case4 cs =>
    obtain ⟨rfl, rfl⟩ := Prod.mk.inj (Option.some.inj h)
    rfl
  | case5 c cs _ _ _ ih =>
    obtain ⟨⟨inner, behind⟩, hi, he⟩ := Option.map_eq_some_iff.1 h
    obtain ⟨rfl, rfl⟩ := Prod.mk.inj he
    rw [List.cons_append, ih hi]

theorem markAt?_pos {cs : List Char} {kind : TokenKind} {length : Nat}
    (h : markAt? cs = some (kind, length)) : 0 < length := by
  fun_cases markAt? cs <;> simp_all [markAt?] <;> omega

/-- A token covers at least a character, and what follows it is the rest of the text. -/
theorem scanToken_append {c : Char} {cs : List Char} {lexeme : Lexeme}
    (h : scanToken c cs = .ok lexeme) :
    lexeme.source ≠ [] ∧ lexeme.source ++ lexeme.rest = c :: cs := by
  fun_cases scanToken c cs with simp only [scanToken, *] at h
  | case1 hc =>
    obtain rfl := Except.ok.inj h
    exact ⟨List.cons_ne_nil _ _, by rw [List.cons_append, List.takeWhile_append_dropWhile]⟩
  | case2 hw hd number rest hn =>
    obtain rfl := Except.ok.inj h
    have := takeNumber_append (c :: cs)
    have : (takeNumber (c :: cs)).1 ≠ [] := takeNumber_ne_nil hd
    simp_all
  | case3 hw hd hc written rest ht =>
    obtain rfl := Except.ok.inj h
    exact ⟨List.cons_ne_nil _ _, by simp [append_of_takeString ht]⟩
  | case4 => simp at h
  | case5 hw hd hc kind length hm mark =>
    obtain rfl := Except.ok.inj h
    have := markAt?_pos hm
    exact ⟨by simp; omega, List.take_append_drop ..⟩
  | case6 => simp at h

theorem length_scanToken {c : Char} {cs : List Char} {lexeme : Lexeme}
    (h : scanToken c cs = .ok lexeme) : lexeme.rest.length < (c :: cs).length := by
  have := List.length_pos_iff.2 (scanToken_append h).1
  rw [← (scanToken_append h).2, List.length_append]
  omega

/-! ## Sources -/

def LexicalFault.diagnostic (fault : LexicalFault) (span : Span) : Diagnostic :=
  (Diagnostic.of .lexer fault.message).withSpan span

/-- The tokens of a text that starts at a byte offset. -/
def tokensOf (offset : Nat) (cs : List Char) : Except Diagnostic (List Token) :=
  match _hs : skipSeparators offset cs with
  | .error start =>
    .error (LexicalFault.openComment.diagnostic ⟨start, offset + Text.byteLength cs⟩)
  | .ok (_, []) => .ok []
  | .ok (start, c :: rest) =>
    match _ht : scanToken c rest with
    | .error fault =>
      let width := match fault with
        | .unexpectedCharacter c => c.utf8Size
        | .openComment | .openString => Text.byteLength (c :: rest)
      .error (fault.diagnostic ⟨start, start + width⟩)
    | .ok lexeme => do
      let stop := start + Text.byteLength lexeme.source
      let token : Token := ⟨lexeme.kind, String.ofList lexeme.text, ⟨start, stop⟩⟩
      return token :: (← tokensOf stop lexeme.rest)
termination_by cs.length
decreasing_by
  have := length_skipSeparators _hs
  have := length_scanToken _ht
  omega

/-- The tokens of a source. -/
def scanTokens (source : String) : Except Diagnostic (List Token) :=
  tokensOf 0 source.toList

/-- The mark of the end of a source. -/
def endToken (source : String) : Token :=
  let size := Text.byteLength source.toList
  ⟨.endOfText, "", ⟨size, size⟩⟩

/-- The tokens of a source and the mark of its end. -/
def tokenize (source : String) : Except Diagnostic (List Token) := do
  return (← scanTokens source) ++ [endToken source]

end LayerScript
