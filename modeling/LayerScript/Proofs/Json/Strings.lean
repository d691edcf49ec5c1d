import LayerScript.Json.Reader
import LayerScript.Json.Printer
import Mathlib.Tactic.SplitIfs

/-!
# Reading strings back

Behind each escape that is written, reading goes on with the character that was escaped.
-/

namespace LayerScript.Json

theorem hexValue?_hexDigit {n : Nat} (h : n < 16) : hexValue? (hexDigit n) = some n := by
  have all : ∀ n < 16, hexValue? (hexDigit n) = some n := by decide
  exact all n h

section Bodies

variable {read cs : List Char} {o : Nat} {c : Char}

theorem stringBody_close :
    stringBody read ⟨o, '\"' :: cs⟩ = .ok (String.ofList read.reverse, ⟨o + 1, cs⟩) := by
  rw [stringBody]
  rfl

theorem stringBody_plain (mark : c ≠ '\"') (backslash : c ≠ '\\') (printable : ¬ c.toNat < 0x20) :
    stringBody read ⟨o, c :: cs⟩ = stringBody (c :: read) ⟨o + c.utf8Size, cs⟩ := by
  rw [stringBody]
  simp [mark, backslash, printable, Cursor.past]

theorem stringBody_escaped {behind : Cursor}
    (h : escapeSequence ⟨o + 1, cs⟩ = .ok (c, behind)) :
    stringBody read ⟨o, '\\' :: cs⟩ = stringBody (c :: read) behind := by
  rw [stringBody]
  simp only [Char.reduceEq, if_false, if_true]
  split
  next found =>
    cases h.symm.trans found
    rfl
  next found => cases h.symm.trans found

theorem escapeSequence_letter {letter : Char} (h : letterEscape? letter = some c)
    (hex : letter ≠ 'u') :
    ∃ o', escapeSequence ⟨o, letter :: cs⟩ = .ok (c, ⟨o', cs⟩) := by
  simp [escapeSequence, h, hex, Cursor.past]

theorem escapeSequence_control (h : c.toNat < 0x20) :
    ∃ o', escapeSequence ⟨o, 'u' :: '0' :: '0' :: hexDigit (c.toNat / 16) ::
      hexDigit (c.toNat % 16) :: cs⟩ = .ok (c, ⟨o', cs⟩) := by
  have high := hexValue?_hexDigit (show c.toNat / 16 < 16 by omega)
  have low := hexValue?_hexDigit (show c.toNat % 16 < 16 by omega)
  have zero : hexValue? '0' = some 0 := by decide
  have same : c.toNat / 16 * 16 + c.toNat % 16 = c.toNat := by omega
  have small : c.toNat < 0xD800 := by omega
  have unpaired : ¬ (0xDC00 ≤ c.toNat ∧ c.toNat ≤ 0xDFFF) := by omega
  simp [escapeSequence, unicodeEscape, hexEscape, fourHex?, zero, high, low, same, Cursor.past,
    bind, Except.bind, unpaired, small, pure, Except.pure]

/-- Reading an escape gives the character that was escaped. -/
theorem stringBody_escape (read : List Char) (o : Nat) (c : Char) (cs : List Char) :
    ∃ o', stringBody read ⟨o, escape c ++ cs⟩ = stringBody (c :: read) ⟨o', cs⟩ := by
  have escaped {rest : List Char}
      (h : ∃ o', escapeSequence ⟨o + 1, rest⟩ = .ok (c, ⟨o', cs⟩)) :
      ∃ o', stringBody read ⟨o, '\\' :: rest⟩ = stringBody (c :: read) ⟨o', cs⟩ := by
    obtain ⟨o', sequence⟩ := h
    exact ⟨o', stringBody_escaped sequence⟩
  have letter {l : Char} (stands : letterEscape? l = some c) (hex : l ≠ 'u') :
      ∃ o', stringBody read ⟨o, '\\' :: l :: cs⟩ = stringBody (c :: read) ⟨o', cs⟩ :=
    escaped (escapeSequence_letter stands hex)
  have ofNat {n : Nat} (code : c.toNat = n) : Char.ofNat n = c := by
    rw [← code, Char.ofNat_toNat]
  unfold escape
  split_ifs with mark backslash feed carriage tab back page control
  · exact letter (by rw [mark]; rfl) (by decide)
  · exact letter (by rw [backslash]; rfl) (by decide)
  · exact letter (by rw [feed]; rfl) (by decide)
  · exact letter (by rw [carriage]; rfl) (by decide)
  · exact letter (by rw [tab]; rfl) (by decide)
  · exact letter (congrArg some (ofNat back)) (by decide)
  · exact letter (congrArg some (ofNat page)) (by decide)
  · exact escaped (escapeSequence_control control)
  · exact ⟨_, stringBody_plain mark backslash control⟩

end Bodies

theorem quotedString_quote (s : String) (o : Nat) (more : List Char) :
    ∃ o', quotedString ⟨o, s.toList.flatMap escape ++ '\"' :: more⟩ = .ok (s, ⟨o', more⟩) := by
  have body (read cs : List Char) (o : Nat) :
      ∃ o', stringBody read ⟨o, cs.flatMap escape ++ '\"' :: more⟩ =
        .ok (String.ofList (read.reverse ++ cs), ⟨o', more⟩) := by
    induction cs generalizing read o with
    | nil => exact ⟨o + 1, by simpa using stringBody_close⟩
    | cons c cs ih =>
      obtain ⟨o', step⟩ := stringBody_escape read o c (cs.flatMap escape ++ '\"' :: more)
      obtain ⟨o'', rest⟩ := ih (c :: read) o'
      refine ⟨o'', ?_⟩
      rw [List.flatMap_cons, List.append_assoc, step, rest]
      simp
  simpa [quotedString] using body [] s.toList o

end LayerScript.Json
