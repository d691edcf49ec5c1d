import LayerScript.Script.Basic

/-!
# Tokens and where the text begins

The offset of a text only moves the places of its tokens. A script is read behind two tokens, and
its own tokens are those of its text, moved.
-/

namespace LayerScript

def Span.shift (span : Span) (bytes : Nat) : Span :=
  ⟨span.start + bytes, span.stop + bytes⟩

def Token.shift (token : Token) (bytes : Nat) : Token :=
  { token with span := token.span.shift bytes }

def Diagnostic.shift (d : Diagnostic) (bytes : Nat) : Diagnostic :=
  { d with
    span := d.span.map (·.shift bytes)
    stack := d.stack.map fun f => { f with span := f.span.map (·.shift bytes) } }

theorem skipComment_add (depth offset k : Nat) (cs : List Char) :
    skipComment depth (offset + k) cs =
      (skipComment depth offset cs).map fun found => (found.1 + k, found.2) := by
  fun_induction skipComment depth offset cs with
  | case1 => rfl
  | case2 depth offset cs ih =>
    rw [skipComment, Nat.add_right_comm, ih]
  | case3 offset cs =>
    rw [skipComment, Nat.add_right_comm]
    rfl
  | case4 offset cs outer ih =>
    rw [skipComment, Nat.add_right_comm, ih]
  | case5 depth offset c cs h h' ih =>
    rw [skipComment, Nat.add_right_comm, ih]
    · exact h
    · exact h'

/-- Either way the place that is reported moves with the text. -/
theorem skipSeparators_add (offset k : Nat) (cs : List Char) :
    skipSeparators (offset + k) cs =
      ((skipSeparators offset cs).map fun found => (found.1 + k, found.2)).mapError (· + k) := by
  fun_induction skipSeparators offset cs with
  | case1 offset =>
    rw [skipSeparators]
    rfl
  | case2 offset rest line ih =>
    have moved : offset + k + 2 + Text.byteLength line = offset + 2 + Text.byteLength line + k := by
      omega
    rw [skipSeparators, ← ih, ← moved]
  | case3 offset rest stop behind hc ih =>
    have hs : skipComment 0 (offset + k + 2) rest = some (stop + k, behind) := by
      rw [Nat.add_right_comm, skipComment_add, hc]
      rfl
    rw [skipSeparators]
    split
    · next stop' behind' h =>
      rw [hs] at h
      obtain ⟨rfl, rfl⟩ := Prod.mk.inj (Option.some.inj h)
      exact ih
    · next h => simp [hs] at h
  | case4 offset rest hc =>
    have hs : skipComment 0 (offset + k + 2) rest = none := by
      rw [Nat.add_right_comm, skipComment_add, hc]
      rfl
    rw [skipSeparators]
    split
    · next h => simp [hs] at h
    · rfl
  | case5 offset c rest h h' hb ih =>
    rw [skipSeparators, if_pos hb, Nat.add_right_comm, ih]
    · exact h
    · exact h'
  | case6 offset c rest h h' hb =>
    rw [skipSeparators, if_neg hb]
    · rfl
    · exact h
    · exact h'

/-! ## Tokens of a text, step by step -/

section

variable {offset start : Nat} {cs rest : List Char} {c : Char}

theorem tokensOf_of_error (hs : skipSeparators offset cs = .error start) : tokensOf offset cs =
    .error (LexicalFault.openComment.diagnostic ⟨start, offset + Text.byteLength cs⟩) := by
  unfold tokensOf
  split
  · next h =>
    rw [hs] at h
    obtain rfl := Except.error.inj h
    rfl
  · next h => simp [hs] at h
  · next h => simp [hs] at h

theorem tokensOf_of_end (hs : skipSeparators offset cs = .ok (start, [])) :
    tokensOf offset cs = .ok [] := by
  unfold tokensOf
  split
  · next h => simp [hs] at h
  · rfl
  · next h => simp [hs] at h

/-- The number of bytes that a failure covers in the text that it starts. -/
def LexicalFault.width (fault : LexicalFault) (cs : List Char) : Nat :=
  match fault with
  | .unexpectedCharacter c => c.utf8Size
  | .openComment | .openString => Text.byteLength cs

theorem tokensOf_of_fault {fault : LexicalFault}
    (hs : skipSeparators offset cs = .ok (start, c :: rest))
    (ht : scanToken c rest = .error fault) :
    tokensOf offset cs =
      .error (fault.diagnostic ⟨start, start + fault.width (c :: rest)⟩) := by
  unfold tokensOf
  split
  · next h => simp [hs] at h
  · next h => simp [hs] at h
  · next h =>
    rw [hs] at h
    obtain ⟨rfl, eq⟩ := Prod.mk.inj (Except.ok.inj h)
    obtain ⟨rfl, rfl⟩ := List.cons.inj eq
    split
    · next h' =>
      rw [ht] at h'
      obtain rfl := Except.error.inj h'
      cases fault <;> rfl
    · next h' => simp [ht] at h'

def Lexeme.token (lexeme : Lexeme) (start : Nat) : Token :=
  ⟨lexeme.kind, String.ofList lexeme.text, ⟨start, start + Text.byteLength lexeme.source⟩⟩

theorem tokensOf_of_lexeme {lexeme : Lexeme}
    (hs : skipSeparators offset cs = .ok (start, c :: rest))
    (ht : scanToken c rest = .ok lexeme) :
    tokensOf offset cs =
      (tokensOf (start + Text.byteLength lexeme.source) lexeme.rest).map
        (lexeme.token start :: ·) := by
  rw [tokensOf]
  split
  · next h => simp [hs] at h
  · next h => simp [hs] at h
  · next h =>
    rw [hs] at h
    obtain ⟨rfl, eq⟩ := Prod.mk.inj (Except.ok.inj h)
    obtain ⟨rfl, rfl⟩ := List.cons.inj eq
    split
    · next h' => simp [ht] at h'
    · next h' =>
      rw [ht] at h'
      obtain rfl := Except.ok.inj h'
      rfl

end

theorem tokensOf_add (offset k : Nat) (cs : List Char) :
    tokensOf (offset + k) cs =
      ((tokensOf offset cs).map (·.map (·.shift k))).mapError (·.shift k) := by
  have moved := skipSeparators_add offset k cs
  cases hs : skipSeparators offset cs with
  | error start =>
    rw [hs] at moved
    rw [tokensOf_of_error hs, tokensOf_of_error moved, Nat.add_right_comm]
    rfl
  | ok found =>
    obtain ⟨start, behind⟩ := found
    rw [hs] at moved
    cases behind with
    | nil =>
      rw [tokensOf_of_end hs, tokensOf_of_end moved]
      rfl
    | cons c rest =>
      cases ht : scanToken c rest with
      | error fault =>
        rw [tokensOf_of_fault hs ht, tokensOf_of_fault moved ht, Nat.add_right_comm]
        rfl
      | ok lexeme =>
        have shorter := length_skipSeparators hs
        have := length_scanToken ht
        rw [tokensOf_of_lexeme hs ht, tokensOf_of_lexeme moved ht, Nat.add_right_comm,
          tokensOf_add _ k]
        cases tokensOf (start + Text.byteLength lexeme.source) lexeme.rest with
        | error d => rfl
        | ok tokens =>
          have place : start + k + Text.byteLength lexeme.source =
              start + Text.byteLength lexeme.source + k := Nat.add_right_comm _ _ _
          simp only [Except.map, Lexeme.token, place]
          rfl
termination_by cs.length
decreasing_by omega

/-- The tokens of a text do not depend on where it begins, apart from their places. -/
theorem tokensOf_ok_add {offset : Nat} {cs : List Char} {tokens : List Token} (k : Nat)
    (h : tokensOf (offset + k) cs = .ok tokens) :
    ∃ base, tokensOf offset cs = .ok base ∧ tokens = base.map (·.shift k) := by
  rw [tokensOf_add] at h
  cases hb : tokensOf offset cs with
  | error d =>
    rw [hb] at h
    exact absurd h nofun
  | ok base =>
    rw [hb] at h
    exact ⟨base, rfl, (Except.ok.inj h).symm⟩

/-! ## The text in front of a script -/

theorem skipSeparators_of_mark {c : Char} (offset : Nat) (cs : List Char) (hc : c ≠ '/')
    (hb : ¬ Text.isBlank c) : skipSeparators offset (c :: cs) = .ok (offset, c :: cs) := by
  rw [skipSeparators, if_neg hb]
  · rintro rest rfl
    exact absurd rfl hc
  · rintro rest rfl
    exact absurd rfl hc

theorem skipSeparators_of_blank {c : Char} (offset : Nat) (cs : List Char) (hc : c ≠ '/')
    (hb : Text.isBlank c) :
    skipSeparators offset (c :: cs) = skipSeparators (offset + c.utf8Size) cs := by
  rw [skipSeparators, if_pos hb]
  · rintro rest rfl
    exact absurd rfl hc
  · rintro rest rfl
    exact absurd rfl hc

theorem tokensOf_of_blank {c : Char} (offset : Nat) (cs : List Char) (hc : c ≠ '/')
    (hb : Text.isBlank c) : tokensOf offset (c :: cs) = tokensOf (offset + c.utf8Size) cs := by
  have skip := skipSeparators_of_blank offset cs hc hb
  cases hs : skipSeparators (offset + c.utf8Size) cs with
  | error start =>
    rw [tokensOf_of_error hs, tokensOf_of_error (skip.trans hs), Text.byteLength, Nat.add_assoc]
  | ok found =>
    obtain ⟨start, behind⟩ := found
    cases behind with
    | nil => rw [tokensOf_of_end hs, tokensOf_of_end (skip.trans hs)]
    | cons d rest =>
      cases ht : scanToken d rest with
      | error fault => rw [tokensOf_of_fault hs ht, tokensOf_of_fault (skip.trans hs) ht]
      | ok lexeme => rw [tokensOf_of_lexeme hs ht, tokensOf_of_lexeme (skip.trans hs) ht]

theorem toList_strictPrelude : strictPrelude.toList =
    ['"', 'u', 's', 'e', ' ', 's', 't', 'r', 'i', 'c', 't', '"', ';', '\n'] := by
  decide +kernel

theorem scanToken_directive (cs : List Char) :
    scanToken '"' (['u', 's', 'e', ' ', 's', 't', 'r', 'i', 'c', 't', '"'] ++ cs) =
      .ok ⟨.string, ['u', 's', 'e', ' ', 's', 't', 'r', 'i', 'c', 't'],
        ['"', 'u', 's', 'e', ' ', 's', 't', 'r', 'i', 'c', 't', '"'], cs⟩ :=
  rfl

/-- A script is read behind a string and a semicolon. -/
theorem tokensOf_prelude (cs : List Char) : tokensOf 0 (strictPrelude.toList ++ cs) =
    (tokensOf 14 cs).map fun tokens =>
      ⟨.string, strictDirective, ⟨0, 12⟩⟩ :: ⟨.semicolon, ";", ⟨12, 13⟩⟩ :: tokens := by
  have first := tokensOf_of_lexeme
    (skipSeparators_of_mark 0 (['u', 's', 'e', ' ', 's', 't', 'r', 'i', 'c', 't', '"'] ++
      (';' :: '\n' :: cs)) (by decide : '"' ≠ '/') (by decide)) (scanToken_directive _)
  have second := tokensOf_of_lexeme (skipSeparators_of_mark 12 ('\n' :: cs)
    (by decide : ';' ≠ '/') (by decide)) (rfl : scanToken ';' ('\n' :: cs) =
      .ok ⟨.semicolon, [';'], [';'], '\n' :: cs⟩)
  have third : tokensOf 13 ('\n' :: cs) = tokensOf 14 cs :=
    tokensOf_of_blank 13 cs (by decide : '\n' ≠ '/') (by decide)
  rw [toList_strictPrelude]
  refine first.trans ?_
  refine (congrArg _ second).trans ?_
  refine (congrArg (fun x => Except.map _ (Except.map _ x)) third).trans ?_
  cases tokensOf 14 cs <;> rfl

theorem Text.byteLength_append (cs ds : List Char) :
    byteLength (cs ++ ds) = byteLength cs + byteLength ds := by
  induction cs with
  | nil => simp [byteLength]
  | cons c cs ih => simp only [List.cons_append, byteLength, ih, Nat.add_assoc]

theorem Text.byteLength_eq_zero {cs : List Char} : Text.byteLength cs = 0 ↔ cs = [] := by
  cases cs with
  | nil => simp [Text.byteLength]
  | cons c cs =>
    have := c.utf8Size_pos
    simp [Text.byteLength]
    omega

theorem utf8ByteSize_strictPrelude : strictPrelude.utf8ByteSize = 14 := by
  decide +kernel

theorem endToken_prelude (source : String) :
    (endToken (strictPrelude ++ source)).span = (endToken source).span.shift 14 := by
  have size : Text.byteLength strictPrelude.toList = 14 := by
    rw [toList_strictPrelude]
    rfl
  simp only [endToken, String.toList_append, Text.byteLength_append, size, Span.shift,
    Nat.add_comm 14]

theorem scanTokens_prelude {source : String} {tokens : List Token}
    (h : scanTokens (strictPrelude ++ source) = .ok tokens) :
    ∃ base, scanTokens source = .ok base ∧
      tokens = ⟨.string, strictDirective, ⟨0, 12⟩⟩ :: ⟨.semicolon, ";", ⟨12, 13⟩⟩ ::
        base.map (·.shift 14) := by
  unfold scanTokens at h
  rw [String.toList_append, tokensOf_prelude] at h
  cases ht : tokensOf 14 source.toList with
  | error d => simp [ht, Except.map] at h
  | ok moved =>
    rw [ht] at h
    rw [← Nat.zero_add 14] at ht
    obtain ⟨base, hb, rfl⟩ := tokensOf_ok_add 14 ht
    exact ⟨base, hb, (Except.ok.inj h).symm⟩

end LayerScript
