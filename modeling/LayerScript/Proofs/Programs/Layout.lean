import LayerScript.Proofs.Programs.RoundTrip
import Mathlib.Data.String.Basic

/-!
# Layout does not matter

The tokens of a source say all that there is to read in it. With its layout replaced by single
spaces between its tokens a source has the same tokens but for their places, and no reader of the
grammar looks at places.
-/

namespace LayerScript

/-- The part of a source between the bounds of a span. -/
def Span.slice (span : Span) (source : String) : String :=
  String.Pos.Raw.extract source ⟨span.start⟩ ⟨span.stop⟩

/-- What tokens are written as in a source, with one space between them. -/
def respaced (source : String) (tokens : List Token) : String :=
  " ".intercalate (tokens.map (·.span.slice source))

/-! ## Tokens of a source -/

theorem utf8Len_eq_byteLength (cs : List Char) : String.utf8Len cs = Text.byteLength cs := by
  induction cs with
  | nil => rfl
  | cons c cs ih => rw [String.utf8Len_cons, ih, Text.byteLength, Nat.add_comm]

variable {source : String}

theorem Span.Covers.slice_eq {span : Span} {slice : List Char} (h : span.Covers source slice) :
    span.slice source = String.ofList slice := by
  obtain ⟨before, behind, whole, rfl⟩ := h
  have same : source = String.ofList (before ++ slice ++ behind) := by
    rw [List.append_assoc, ← whole, String.ofList_toList]
  rw [Span.slice, same, ← utf8Len_eq_byteLength, ← utf8Len_eq_byteLength]
  exact String.extract_of_valid before slice behind

theorem slice_endToken (source : String) : (endToken source).span.slice source = "" := by
  have covers : (endToken source).span.Covers source [] :=
    ⟨source.toList, [], by simp, rfl⟩
  exact covers.slice_eq

/-- The words of a source are spelled by their slices. -/
theorem spells_of_scanTokens {tokens : List Token} (scanned : scanTokens source = .ok tokens) :
    ∀ token ∈ tokens, Spells token.kind (token.span.slice source).toList token.text.toList := by
  obtain ⟨stop, gap, m, -⟩ := munches_of_scanTokens scanned
  intro token mem
  obtain ⟨slice, spells, covers⟩ := m.spells [] rfl rfl token mem
  rwa [covers.slice_eq, String.toList_ofList]

/-- A source with its layout replaced has the same tokens, up to places, whether or not the space in
front of the mark of its end is kept. -/
theorem scanTokens_respaced {tokens : List Token} (scanned : scanTokens source = .ok tokens) :
    ∀ shown ∈ [tokens ++ [endToken source], tokens], ∃ tokens',
      scanTokens (respaced source shown) = .ok tokens' ∧
        tokens'.map (·.bare) = tokens.map (·.bare) := by
  let slices := tokens.map fun token => (token.span.slice source).toList
  have read {tail : List Char} (last : tail = [] ∨ tail = [' ']) : ∃ tokens',
      scanTokens (String.ofList ([' '].intercalate slices ++ tail)) = .ok tokens' ∧
        tokens'.map (·.bare) = tokens.map (·.bare) := by
    have spelled : ∀ word ∈ tokens.map fun token => (token, (token.span.slice source).toList),
        Spells word.1.kind word.2 word.1.text.toList :=
      List.forall_mem_map.2 (spells_of_scanTokens scanned)
    obtain ⟨tokens', scanned', same⟩ := scanTokens_intercalate spelled last
    rw [List.map_map] at scanned' same
    exact ⟨tokens', scanned', same⟩
  have text (shown : List Token) : respaced source shown =
      String.ofList
        ([' '].intercalate (shown.map fun token => (token.span.slice source).toList)) := by
    apply String.toList_inj.1
    simp only [respaced, String.toList_intercalate, String.toList_ofList, List.map_map]
    rfl
  simp only [List.forall_mem_cons, List.not_mem_nil, false_implies, implies_true, and_true]
  constructor
  · have last : (slices ++ [[]]) = slices ++ [((endToken source).span.slice source).toList] := by
      rw [slice_endToken]
      rfl
    rw [text, List.map_append, List.map_singleton, ← last]
    cases h : slices with
    | nil =>
      have := read (.inl rfl)
      rw [h] at this
      exact this
    | cons slice slices =>
      have := read (.inr rfl)
      rw [h, intercalate_cons, List.append_assoc] at this
      rw [List.cons_append, intercalate_cons, List.flatMap_append]
      exact this
  · rw [text]
    have := read (.inl rfl)
    rw [List.append_nil] at this
    exact this

/-! ## Reading -/

namespace Parse

variable {tokens tokens' : List Token} {fuel : Nat}

/-- What is read from tokens without places is what is read from the tokens, without places. -/
theorem moves_bare (room : 32 * tokens.length + 18 ≤ fuel) :
    Moved .blank (Stmt.placeAll .blank) 0 tokens.length (body fuel tokens)
      (body fuel (tokens.map (·.bare))) := by
  have moved := moves_body .blank 0 tokens.length fuel room tokens (Nat.le_refl _)
  rwa [Nat.zero_add] at moved

/-- Tokens that differ in places are read to statements, or lead to a fault, that differ in
places. -/
theorem body_of_bare (same : tokens'.map (·.bare) = tokens.map (·.bare))
    (room : 32 * tokens.length + 18 ≤ fuel) :
    (∀ body rest, Parse.body fuel tokens = .ok (body, rest) → ∃ body' rest',
      Parse.body fuel tokens' = .ok (body', rest') ∧ Stmt.bareAll body' = Stmt.bareAll body) ∧
    ∀ fault, Parse.body fuel tokens = .error fault → ∃ fault',
      Parse.body fuel tokens' = .error fault' ∧ fault'.place .blank = fault.place .blank := by
  have length : tokens'.length = tokens.length := by
    simpa using congrArg List.length same
  have first := moves_bare room
  have second : Moved .blank (Stmt.placeAll .blank) 0 tokens'.length (body fuel tokens')
      (body fuel (tokens'.map (·.bare))) := moves_bare (length ▸ room)
  rw [same] at second
  generalize Parse.body fuel tokens = x, Parse.body fuel tokens' = x',
    Parse.body fuel (tokens.map (·.bare)) = y at first second ⊢
  cases first with
  | @ok a rest =>
    generalize moved : (Stmt.placeAll .blank a, rest.map (·.place .blank)) = read at second
    cases second with
    | @ok a' rest' =>
      have placed : Stmt.placeAll .blank a = Stmt.placeAll .blank a' := congrArg Prod.fst moved
      refine ⟨?_, fun _ h => (by cases h)⟩
      rintro _ _ ⟨⟩
      refine ⟨a', rest', rfl, ?_⟩
      rw [← Stmt.bareAll_placeAll a' .blank, ← placed, Stmt.bareAll_placeAll]
  | @error f =>
    generalize moved : f.place .blank = fault at second
    cases second with
    | @error f' =>
      refine ⟨fun _ _ h => (by cases h), ?_⟩
      rintro _ ⟨⟩
      exact ⟨f', rfl, moved.symm⟩

end Parse

namespace Program

/-- Sources whose tokens differ in places are programs that differ in places, or are faulty in the
same way. -/
theorem parse_of_bare {source' : String} {tokens tokens' : List Token}
    (scanned : scanTokens source = .ok tokens) (scanned' : scanTokens source' = .ok tokens')
    (same : tokens'.map (·.bare) = tokens.map (·.bare)) :
    (∀ p, parse source = .ok p →
      ∃ p', parse source' = .ok p' ∧ p'.strict = p.strict ∧ p'.bare = p.bare) ∧
    ∀ d, parse source = .error d →
      ∃ d', parse source' = .error d' ∧ { d' with span := d.span } = d := by
  have length : tokens'.length = tokens.length := by
    simpa using congrArg List.length same
  have room : 32 * tokens.length + 18 ≤ 32 * (tokens.length + 1) := by
    omega
  obtain ⟨good, bad⟩ := Parse.body_of_bare same room
  rw [parse, scanned, parse, scanned']
  dsimp only [bind, Except.bind]
  rw [length]
  cases h : Parse.body (32 * (tokens.length + 1)) tokens with
  | ok answer =>
    obtain ⟨body, rest⟩ := answer
    obtain ⟨body', rest', read', alike⟩ := good body rest h
    rw [read']
    refine ⟨?_, fun _ h => (by cases h)⟩
    rintro _ ⟨⟩
    have bare := bare_ofStatements alike
    have strict : (ofStatements body').bare.strict = (ofStatements body).bare.strict := by
      rw [bare]
    exact ⟨ofStatements body', rfl, strict, bare⟩
  | error fault =>
    obtain ⟨fault', read', alike⟩ := bad fault h
    rw [read']
    refine ⟨fun _ h => (by cases h), ?_⟩
    rintro _ ⟨⟩
    refine ⟨_, rfl, ?_⟩
    have unplaced : { fault'.diagnostic (endToken source').span with span := none } =
        { fault.diagnostic (endToken source).span with span := none } :=
      (fault'.diagnostic_place .blank _ default).symm.trans
        (alike ▸ fault.diagnostic_place .blank _ default)
    exact congrArg (fun d => { d with span := (fault.diagnostic (endToken source).span).span })
      unplaced

/-- A source with its layout replaced by single spaces, with or without one in front of the mark of
its end, has tokens of the same kinds and texts. So it reads as the same program up to places, or is
rejected for the same reason. -/
theorem parse_respaced {tokens : List Token} (h : tokenize source = .ok tokens) :
    ∀ text ∈ [respaced source tokens, respaced source tokens.dropLast],
      (∃ tokens', tokenize text = .ok tokens' ∧
        (tokens'.map fun t => (t.kind, t.text)) = tokens.map fun t => (t.kind, t.text)) ∧
      (∀ p, parse source = .ok p →
        ∃ p', parse text = .ok p' ∧ p'.strict = p.strict ∧ p'.bare = p.bare) ∧
      ∀ d, parse source = .error d →
        ∃ d', parse text = .error d' ∧ { d' with span := d.span } = d := by
  unfold tokenize at h
  cases scanned : scanTokens source with
  | error d =>
    rw [scanned] at h
    exact nomatch h
  | ok words =>
    rw [scanned] at h
    obtain rfl : words ++ [endToken source] = tokens := Except.ok.inj h
    rw [List.dropLast_concat]
    intro text shown
    have respacing := scanTokens_respaced scanned
    obtain ⟨all, mem, rfl⟩ : ∃ all ∈ [words ++ [endToken source], words],
        text = respaced source all := by
      simpa using shown
    obtain ⟨words', scanned', same⟩ := respacing all mem
    refine ⟨⟨words' ++ [endToken (respaced source all)], ?_, ?_⟩,
      parse_of_bare scanned scanned' same⟩
    · rw [tokenize, scanned']
      rfl
    · have plain := congrArg (List.map fun t : Token => (t.kind, t.text)) same
      rw [List.map_map, List.map_map] at plain
      rw [List.map_append, List.map_append]
      exact congrArg (· ++ _) plain

/-- The tokens of a source with a comment and a line break in it. -/
def gapped : List Token :=
  [⟨.number, "1", ⟨0, 1⟩⟩, ⟨.dot, ".", ⟨1, 2⟩⟩, ⟨.identifier, "e", ⟨2, 3⟩⟩,
    ⟨.slash, "/", ⟨13, 14⟩⟩, ⟨.number, "2", ⟨14, 15⟩⟩, ⟨.endOfText, "", ⟨15, 15⟩⟩]

/-- A number, a dot, a word and a slash, with a comment and a line break between them. -/
theorem parse_respaced_gaps :
    tokenize "1.e/* gap */\n/2" = .ok gapped ∧
    respaced "1.e/* gap */\n/2" gapped = "1 . e / 2 " ∧
    ∀ text ∈ ["1 . e / 2 ", "1 . e / 2"],
      (∃ tokens', tokenize text = .ok tokens' ∧
        (tokens'.map fun t => (t.kind, t.text)) = gapped.map fun t => (t.kind, t.text)) ∧
      (∀ p, parse "1.e/* gap */\n/2" = .ok p →
        ∃ p', parse text = .ok p' ∧ p'.strict = p.strict ∧ p'.bare = p.bare) ∧
      ∀ d, parse "1.e/* gap */\n/2" = .error d →
        ∃ d', parse text = .error d' ∧ { d' with span := d.span } = d := by
  have scanned : tokenize "1.e/* gap */\n/2" = .ok gapped := by decide +kernel
  have whole : respaced "1.e/* gap */\n/2" gapped = "1 . e / 2 " := by decide +kernel
  have cut : respaced "1.e/* gap */\n/2" gapped.dropLast = "1 . e / 2" := by decide +kernel
  have respacing := parse_respaced scanned
  rw [whole, cut] at respacing
  exact ⟨scanned, whole, respacing⟩

end Program

end LayerScript
