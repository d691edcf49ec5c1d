import LayerScript.Proofs.Programs.Canonical
import LayerScript.Proofs.Tokens.Munching

/-!
# Words with spaces between them

A word in front of a space or of the end is the longest token at its place: only strings have spaces
in them, and a string ends at its own mark. So the scanner finds the words that were put together
with one space between them.
-/

namespace LayerScript

/-! ## Words in front of a space -/

theorem not_mem_of_exponent {cs : List Char} (e : Exponent cs) : ' ' ∉ cs := by
  obtain rfl | ⟨letter, sign, ds, hl, hs, hd, rfl⟩ := e
  · exact List.not_mem_nil
  · have letters : ' ' ≠ letter := by
      rcases hl with rfl | rfl <;> decide
    have signs : ' ' ∉ sign := by
      simp only [List.mem_cons, List.not_mem_nil, or_false] at hs
      rcases hs with rfl | rfl | rfl <;> decide
    have digits : ' ' ∉ ds := fun mem => absurd (hd _ mem) (by decide)
    simp [letters, signs, digits]

theorem not_mem_of_fraction {cs : List Char} (f : Fraction cs) : ' ' ∉ cs := by
  obtain rfl | ⟨d, ds, hd, hds, rfl⟩ := f
  · exact List.not_mem_nil
  · have digit : ' ' ≠ d := by
      rintro rfl
      exact absurd hd (by decide)
    have digits : ' ' ∉ ds := fun mem => absurd (hds _ mem) (by decide)
    simp [digit, digits]

theorem Numeral.not_mem {cs : List Char} (n : Numeral cs) : ' ' ∉ cs := by
  obtain ⟨d, ds, fraction, exponent, hd, hds, hf, he, rfl⟩ := n
  have digit : ' ' ≠ d := by
    rintro rfl
    exact absurd hd (by decide)
  have digits : ' ' ∉ ds := fun mem => absurd (hds _ mem) (by decide)
  simp [digit, digits, not_mem_of_fraction hf, not_mem_of_exponent he]

theorem not_continuesWord_space : ¬ continuesWord ' ' := by
  decide

variable {kind : TokenKind} {slice text rest : List Char}

/-- A token without a quotation mark in front has no space in it. -/
theorem Spells.not_mem (s : Spells kind slice text) (plain : ∀ c ∈ slice.head?, ¬ isQuote c) :
    ' ' ∉ slice := by
  cases s with
  | @word c cs hc hcs =>
    have first : ' ' ≠ c := by
      rintro rfl
      exact absurd hc (by decide)
    have others : ' ' ∉ cs := fun mem => not_continuesWord_space (hcs _ mem)
    simp [first, others]
  | number n => exact n.not_mem
  | string q => exact absurd q (plain _ rfl)
  | mark m =>
    have spaceless : ∀ m ∈ marks, ' ' ∉ m.1 := by decide
    exact spaceless _ m

/-- A part of a text that ends at a space, without a space of its own, goes no further. -/
theorem length_le_of_not_mem {p cs : List Char} (h : ' ' ∉ p) (starts : p <+: cs ++ rest)
    (ends : ∀ c ∈ rest.head?, c = ' ') : p.length ≤ cs.length := by
  rcases List.prefix_or_prefix_of_prefix starts (List.prefix_append cs rest) with within | beyond
  · exact within.length_le
  · obtain ⟨tail, rfl⟩ := beyond
    cases tail with
    | nil => simp
    | cons c tail =>
      obtain ⟨more, split⟩ := starts
      rw [List.append_assoc, List.append_cancel_left_eq] at split
      have space : c = ' ' := ends c (by rw [← split]; rfl)
      exact absurd (by simp [space]) h

/-- In front of a space a token is the longest at its place. -/
theorem Spells.longest (s : Spells kind slice text) (ends : ∀ c ∈ rest.head?, c = ' ') :
    Longest kind slice text (slice ++ rest) := by
  cases slice with
  | nil => exact absurd rfl s.ne_nil
  | cons c cs =>
    by_cases quote : isQuote c
    · obtain ⟨written, w, rfl, rfl⟩ := s.of_isQuote quote
      have taken := takeString_of_writing rest (ne_backslash_of_isQuote quote) w
      have whole : written ++ [c] ++ rest = written ++ c :: rest := by simp
      have scanned : scanToken c (written ++ [c] ++ rest) =
          .ok ⟨.string, text, c :: (written ++ [c]), rest⟩ := by
        rw [whole, scanToken, if_neg (not_startsWord_of_isQuote quote),
          if_neg (not_isDigit_of_isQuote quote)]
        refine (if_pos quote).trans ?_
        rw [taken.1]
        simp only [taken.2]
      exact longest_of_scanToken scanned
    · refine ⟨s, List.prefix_append .., fun {k p t} s' hp => ?_⟩
      refine length_le_of_not_mem (s'.not_mem fun d hd => ?_) hp ends
      obtain ⟨q, rfl⟩ := s'.exists_cons hp
      obtain rfl := Option.some.inj hd
      exact quote

theorem toNat_of_isBlank {c : Char} (h : Text.isBlank c) : c.toNat ≤ 32 ∨ 133 ≤ c.toNat := by
  simp [Text.isBlank, Text.blankRanges, Text.Ranges.holds] at h
  omega

theorem toNat_of_startsWord {c : Char} (h : startsWord c) : 65 ≤ c.toNat ∧ c.toNat ≤ 122 := by
  simp only [startsWord, Bool.or_eq_true, decide_eq_true_eq] at h
  rcases h with h | rfl
  · delta Char.isAlpha Char.isUpper Char.isLower at h
    simp only [Bool.or_eq_true, Bool.and_eq_true, decide_eq_true_eq, ge_iff_le,
      UInt32.le_iff_toNat_le] at h
    change (65 ≤ c.toNat ∧ c.toNat ≤ 90) ∨ (97 ≤ c.toNat ∧ c.toNat ≤ 122) at h
    omega
  · decide

theorem toNat_of_isDigit {c : Char} (h : isDigit c) : 48 ≤ c.toNat ∧ c.toNat ≤ 57 := by
  simpa [isDigit, Char.le_def, UInt32.le_iff_toNat_le] using h

/-- No token begins with a blank character. -/
theorem Spells.not_isBlank {c : Char} {cs : List Char} (s : Spells kind (c :: cs) text) :
    ¬ Text.isBlank c := by
  intro blank
  have outside := toNat_of_isBlank blank
  by_cases word : startsWord c
  · have := toNat_of_startsWord word
    omega
  by_cases digit : isDigit c
  · have := toNat_of_isDigit digit
    omega
  by_cases quote : isQuote c
  · rcases isQuote_iff.1 quote with rfl | rfl <;> exact absurd blank (by decide)
  · exact (head_of_mem_marks (s.mem_marks word digit quote).1).2.2.2 blank

/-- A token that begins with a slash is a slash. -/
theorem Spells.of_slash {cs : List Char} (s : Spells kind ('/' :: cs) text) : cs = [] := by
  have single : ∀ m ∈ marks, m.1.head? = some '/' → m.1 = ['/'] := by decide
  have m := (s.mem_marks (by decide) (by decide) (by decide)).1
  exact (List.cons.inj (single _ m rfl)).2

/-- Nothing that separates tokens begins where a token stands in front of a space. -/
theorem Spells.not_opensGap (s : Spells kind slice text) (ends : ∀ c ∈ rest.head?, c = ' ') :
    ¬ OpensGap (slice ++ rest) := by
  cases slice with
  | nil => exact absurd rfl s.ne_nil
  | cons c cs =>
    have notComment (d : Char) (hd : d ≠ ' ') : ¬ ['/', d] <+: c :: cs ++ rest := by
      rintro ⟨tail, split⟩
      obtain ⟨rfl, behind⟩ := List.cons.inj split
      obtain rfl := s.of_slash
      change d :: tail = rest at behind
      exact hd (ends d (by rw [← behind]; rfl))
    rintro (⟨d, hd, blank⟩ | line | block)
    · obtain rfl := Option.some.inj hd
      exact s.not_isBlank blank
    · exact notComment _ (by decide) line
    · exact notComment _ (by decide) block

/-! ## Texts of words -/

theorem gap_space (cs : List Char) : Gap [' '] cs :=
  .blank (by decide) .nil

theorem intercalate_cons (slice : List Char) (slices : List (List Char)) :
    [' '].intercalate (slice :: slices) = slice ++ slices.flatMap (' ' :: ·) := by
  induction slices generalizing slice with
  | nil => simp [List.intercalate]
  | cons next slices ih => simp [List.intercalate_cons_cons, ih]

section

variable {words : List (Token × List Char)}
  (spelled : ∀ word ∈ words, Spells word.1.kind word.2 word.1.text.toList)

include spelled

/-- Slices that spell tokens, each behind a space, are read one by one. -/
theorem munches_spaced (ends : ∀ c ∈ rest.head?, c = ' ') (offset : Nat) : ∃ tokens stop,
    Munches offset ((words.map (·.2)).flatMap (' ' :: ·) ++ rest) tokens stop rest ∧
      tokens.map (·.bare) = words.map (·.1.bare) := by
  induction words generalizing offset with
  | nil => exact ⟨[], offset, .nil, rfl⟩
  | cons word words ih =>
    have this := spelled word List.mem_cons_self
    obtain ⟨tokens, stop, m, same⟩ := ih (fun w mem => spelled w (List.mem_cons_of_mem _ mem))
      (offset + Text.byteLength [' '] + Text.byteLength word.2)
    have next : ∀ c ∈ ((words.map (·.2)).flatMap (' ' :: ·) ++ rest).head?, c = ' ' := by
      cases words with
      | nil => exact ends
      | cons => simp
    have m' := Munches.cons (gap_space _) (this.not_opensGap next) (this.longest next) m
    rw [List.map_cons, List.flatMap_cons, List.append_assoc, List.map_cons, ← same]
    exact ⟨_, stop, m', by simp [Token.bare]⟩

/-- Slices that spell tokens, with one space between them and perhaps one behind them, are read as
these tokens. -/
theorem scanTokens_intercalate {tail : List Char} (last : tail = [] ∨ tail = [' ']) : ∃ tokens,
    scanTokens (String.ofList ([' '].intercalate (words.map (·.2)) ++ tail)) = .ok tokens ∧
      tokens.map (·.bare) = words.map (·.1.bare) := by
  have gap : Gap tail [] := by
    rcases last with rfl | rfl
    · exact .nil
    · exact gap_space _
  have ends : ∀ c ∈ tail.head?, c = ' ' := by
    rcases last with rfl | rfl <;> simp
  have whole {cs : List Char} {tokens : List Token} {stop : Nat}
      (m : Munches 0 cs tokens stop tail) : scanTokens (String.ofList cs) = .ok tokens := by
    rw [scanTokens, String.toList_ofList, m.tokensOf, tokensOf_of_gap gap]
    simp [Except.map]
  cases words with
  | nil => exact ⟨[], whole .nil, rfl⟩
  | cons word words =>
    have this := spelled word List.mem_cons_self
    obtain ⟨tokens, stop, m, same⟩ := munches_spaced
      (fun w mem => spelled w (List.mem_cons_of_mem _ mem)) ends
      (0 + Text.byteLength [] + Text.byteLength word.2)
    have next : ∀ c ∈ ((words.map (·.2)).flatMap (' ' :: ·) ++ tail).head?, c = ' ' := by
      cases words with
      | nil => exact ends
      | cons => simp
    have m' := Munches.cons .nil (this.not_opensGap next) (this.longest next) m
    rw [List.map_cons, intercalate_cons, List.append_assoc, List.map_cons, ← same]
    exact ⟨_, whole m', by simp [Token.bare]⟩

end

/-- A word without a place that is spelled as its slice. -/
structure Style.Spelled (style : Style) (word : Token) : Prop where
  spells : Spells word.kind (style.slice word) word.text.toList
  bare : word.bare = word

theorem Style.spaced_eq_intercalate (style : Style) (words : List Token) :
    style.spaced words = [' '].intercalate (words.map style.slice) := by
  cases words with
  | nil => rfl
  | cons word words => rw [List.map_cons, intercalate_cons, List.flatMap_map, spaced]

/-- The scanner finds the words that a text was put together from. -/
theorem Style.scanTokens_spaced (style : Style) {words : List Token}
    (spelled : ∀ word ∈ words, style.Spelled word) : ∃ tokens,
      scanTokens (String.ofList (style.spaced words)) = .ok tokens ∧
        tokens.map (·.bare) = words := by
  have sliced : ∀ word ∈ words.map fun word => (word, style.slice word),
      Spells word.1.kind word.2 word.1.text.toList :=
    List.forall_mem_map.2 fun word mem => (spelled word mem).spells
  obtain ⟨tokens, scanned, same⟩ := scanTokens_intercalate sliced (.inl rfl)
  rw [List.map_map, List.append_nil] at scanned
  refine ⟨tokens, style.spaced_eq_intercalate words ▸ scanned, same.trans ?_⟩
  rw [List.map_map]
  exact (List.map_congr_left fun word mem => (spelled word mem).bare).trans (List.map_id _)

end LayerScript
