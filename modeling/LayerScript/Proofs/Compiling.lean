import LayerScript.Proofs.Isolation
import LayerScript.Proofs.Programs.Grammar
import LayerScript.Proofs.Tokens.Munching

/-!
# A script is read like its text

The text in front of a script adds one statement, the directive, and moves what is read from the
script itself. So a script can be read exactly when its text can be read alone, to the same tree or
to the same diagnostic.
-/

namespace LayerScript

/-- The statement that is read in front of a script. -/
def strictStatement : Stmt :=
  .expr ⟨0, 12⟩ (.literal ⟨0, 12⟩ (.text strictDirective))

theorem Parse.statement_prelude (fuel : Nat) (rest : List Token) :
    Parse.statement (fuel + 40)
        (⟨.string, strictDirective, ⟨0, 12⟩⟩ :: ⟨.semicolon, ";", ⟨12, 13⟩⟩ :: rest) =
      .ok (strictStatement, rest) :=
  rfl

theorem Parse.body_prelude (fuel : Nat) (rest : List Token) :
    Parse.body (fuel + 41)
        (⟨.string, strictDirective, ⟨0, 12⟩⟩ :: ⟨.semicolon, ";", ⟨12, 13⟩⟩ :: rest) =
      (Parse.body (fuel + 40) rest).map fun read => (strictStatement :: read.1, read.2) := by
  change (Parse.statement (fuel + 40)
    (⟨.string, strictDirective, ⟨0, 12⟩⟩ :: ⟨.semicolon, ";", ⟨12, 13⟩⟩ :: rest) >>= fun read =>
      (Parse.body (fuel + 40) read.2 >>= fun more => .ok (read.1 :: more.1, more.2))) = _
  rw [Parse.statement_prelude]
  cases h : Parse.body (fuel + 40) rest with
  | error fault => simp [bind, Except.bind, Except.map, h]
  | ok read => simp [bind, Except.bind, Except.map, h]

/-- A diagnostic of the text itself: nothing was called when it was made. -/
structure Diagnostic.Textual (d : Diagnostic) : Prop where
  stage : d.stage = .lexer ∨ d.stage = .parser
  stack : d.stack = []

theorem LexicalFault.textual (fault : LexicalFault) (span : Span) :
    (fault.diagnostic span).Textual :=
  ⟨.inl rfl, rfl⟩

theorem GrammarFault.textual (fault : GrammarFault) (finish : Span) :
    (fault.diagnostic finish).Textual := by
  cases fault with
  | expected what found => cases found <;> exact ⟨.inr rfl, rfl⟩
  | _ => exact ⟨.inr rfl, rfl⟩

namespace Program

/-- The statements of a source, the directive among them, or the first fault in it. -/
def statements (source : String) : Except Diagnostic (List Stmt) := do
  let tokens ← scanTokens source
  match Parse.body (32 * (tokens.length + 1)) tokens with
  | .ok (body, _) => return body
  | .error fault => throw (fault.diagnostic (endToken source).span)

variable {source : String}

theorem of_statements {body : List Stmt} (h : statements source = .ok body) :
    ∃ tokens rest, scanTokens source = .ok tokens ∧
      Parse.body (32 * (tokens.length + 1)) tokens = .ok (body, rest) := by
  unfold statements at h
  cases scanned : scanTokens source with
  | error d =>
    rw [scanned] at h
    cases h
  | ok tokens =>
    rw [scanned] at h
    dsimp only [bind, Except.bind] at h
    split at h
    · next read rest parsed =>
      cases h
      exact ⟨tokens, rest, rfl, parsed⟩
    · cases h

theorem of_statements_error {d : Diagnostic} (h : statements source = .error d) :
    scanTokens source = .error d ∨ ∃ tokens fault, scanTokens source = .ok tokens ∧
      Parse.body (32 * (tokens.length + 1)) tokens = .error fault ∧
      d = fault.diagnostic (endToken source).span := by
  unfold statements at h
  cases scanned : scanTokens source with
  | error d' =>
    rw [scanned] at h
    cases h
    exact .inl rfl
  | ok tokens =>
    rw [scanned] at h
    dsimp only [bind, Except.bind] at h
    split at h
    · cases h
    · next fault broken =>
      cases h
      exact .inr ⟨tokens, fault, rfl, broken, rfl⟩

theorem parse_eq_statements : parse source = (statements source).map ofStatements := by
  unfold parse statements
  cases scanTokens source with
  | error d => rfl
  | ok tokens =>
    dsimp only [bind, Except.bind]
    cases Parse.body (32 * (tokens.length + 1)) tokens with
    | error fault => rfl
    | ok read => rfl

theorem statements_prelude : statements (strictPrelude ++ source) =
    ((statements source).map fun body => strictStatement :: body.map (·.shift 14)).mapError
      (·.shift 14) := by
  unfold statements scanTokens
  rw [String.toList_append, tokensOf_prelude, ← Nat.zero_add 14, tokensOf_add, Nat.zero_add,
    endToken_prelude]
  cases tokensOf 0 source.toList with
  | error d => rfl
  | ok tokens =>
    have moved := Parse.moves_body (.after 14) 63 tokens.length (32 * (tokens.length + 1))
      (by omega) tokens (Nat.le_refl _)
    -- the directive takes one unit of fuel, and 63 more are left than the text alone is read with
    have behind := Parse.body_prelude (32 * tokens.length + 55) (tokens.map (·.shift 14))
    have whole : 32 * ((tokens.map (·.shift 14)).length + 1 + 1 + 1) =
        32 * tokens.length + 55 + 41 := by
      rw [List.length_map]
      omega
    have rest : 32 * tokens.length + 55 + 40 = 63 + 32 * (tokens.length + 1) := by
      omega
    dsimp only [bind, Except.bind, Except.map, Except.mapError, List.length_cons]
    rw [whole, behind, rest]
    change Parse.Moved _ _ _ _ _ (Parse.body _ (tokens.map (·.shift 14))) at moved
    generalize Parse.body (32 * (tokens.length + 1)) tokens = x,
      Parse.body (63 + 32 * (tokens.length + 1)) (tokens.map (·.shift 14)) = y at moved ⊢
    cases moved with
    | ok _ =>
      rw [Stmt.placeAll_after, Stmt.shiftAll_eq_map]
      rfl
    | @error f _ => exact congrArg Except.error (f.diagnostic_after (endToken source).span 14)

theorem parse_prelude : parse (strictPrelude ++ source) =
    ((statements source).map fun body => ⟨true, body.map (·.shift 14)⟩).mapError (·.shift 14) := by
  rw [parse_eq_statements, statements_prelude]
  cases statements source <;> rfl

theorem statements_of_prelude {program : Program}
    (h : parse (strictPrelude ++ source) = .ok program) :
    ∃ body, statements source = .ok body ∧ program = ⟨true, body.map (·.shift 14)⟩ := by
  rw [parse_prelude] at h
  cases read : statements source with
  | error d =>
    rw [read] at h
    cases h
  | ok body =>
    rw [read] at h
    exact ⟨body, rfl, (Except.ok.inj h).symm⟩

theorem error_of_prelude {d : Diagnostic} (h : parse (strictPrelude ++ source) = .error d) :
    ∃ d', statements source = .error d' ∧ d = d'.shift 14 := by
  rw [parse_prelude] at h
  cases read : statements source with
  | error d' =>
    rw [read] at h
    exact ⟨d', rfl, (Except.error.inj h).symm⟩
  | ok body =>
    rw [read] at h
    cases h

/-- Only the directive is taken off the statements. -/
theorem exists_lead (body : List Stmt) : ∃ lead, body = lead ++ (ofStatements body).body ∧
    if (ofStatements body).strict then ∃ first, lead = [first] ∧ first.isDirective
    else lead = [] := by
  cases body with
  | nil => exact ⟨[], rfl, by simp [ofStatements]⟩
  | cons first rest =>
    by_cases directive : first.isDirective
    · exact ⟨[first], by simp [ofStatements, directive]⟩
    · exact ⟨[], by simp [ofStatements, directive]⟩

theorem textual_of_statements {d : Diagnostic} (h : statements source = .error d) :
    d.Textual := by
  rcases of_statements_error h with broken | ⟨tokens, fault, -, -, rfl⟩
  · obtain ⟨fault, span, -, rfl, -⟩ := exists_fault_of_scanTokens broken
    exact fault.textual span
  · exact fault.textual _

end Program

theorem Diagnostic.shiftBack_shift (d : Diagnostic) (bytes : Nat) :
    (d.shift bytes).shiftBack bytes = d := by
  have back (span : Span) : (span.shift bytes).shiftBack bytes = span := by
    simp [Span.shift, Span.shiftBack]
  simp [shift, shiftBack, back, Function.comp_def]

namespace Script

variable {params : List String}

/-- A script can be read exactly when its text can be read alone, and it consists of the statements
of the text, each moved behind the text in front of it. The diagnostic of a text that cannot be read
moves there too, and moving it back loses nothing. -/
theorem compile_agrees (valid : ∀ x ∈ params, isIdentifier x) (source : String) :
    ((∃ script, compile source params = .ok script) ↔
      ∃ program, Program.parse source = .ok program) ∧
    (∀ program, Program.parse source = .ok program →
      ∃ lead, Program.statements source = .ok (lead ++ program.body) ∧
        (if program.strict then ∃ first, lead = [first] ∧ first.isDirective else lead = []) ∧
        compile source params = .ok
          ⟨params, (lead ++ program.body).map (·.shift strictPrelude.utf8ByteSize), true⟩) ∧
    (∀ d, Program.parse source = .error d →
      Program.parse (strictPrelude ++ source) = .error (d.shift strictPrelude.utf8ByteSize) ∧
      ∃ failure, compile source params = .error failure ∧ failure.phase = .compile ∧
        failure.diagnostic = { d with stack := [⟨scriptFrame, none⟩] }) := by
  rw [compile_of_valid valid, utf8ByteSize_strictPrelude, Program.parse_prelude,
    Program.parse_eq_statements]
  cases read : Program.statements source with
  | ok body =>
    obtain ⟨lead, split, directive⟩ := Program.exists_lead body
    refine ⟨by simp [Except.map, Except.mapError], ?_, by simp [Except.map]⟩
    rintro _ ⟨⟩
    exact ⟨lead, by rw [← split], directive, by rw [← split]; rfl⟩
  | error d =>
    refine ⟨by simp [Except.map, Except.mapError], by simp [Except.map], ?_⟩
    rintro _ ⟨⟩
    refine ⟨rfl, .ofCompile source d, ?_, rfl, ?_⟩
    · simp only [Except.map, Except.mapError, Diagnostic.shiftBack_shift]
    · simp [ScriptFailure.ofCompile, Diagnostic.pushFrame,
        (Program.textual_of_statements read).stack]

/-- A text with a directive of its own, and one that ends too early. -/
theorem compile_agrees_directive : isIdentifier "event" ∧
    (∃ program first,
      Program.parse "\"use strict\"; return event" = .ok program ∧
      program.strict ∧ first.isDirective ∧
      compile "\"use strict\"; return event" ["event"] = .ok
        ⟨["event"], (first :: program.body).map (·.shift strictPrelude.utf8ByteSize), true⟩) ∧
    ∃ failure, compile "return (event" ["event"] = .error failure ∧
      failure.diagnostic = ⟨.parser, "expected `)` after expression, found end of input",
        some ⟨13, 13⟩, [], [⟨"<script>", none⟩]⟩ := by
  have valid : ∀ x ∈ ["event"], isIdentifier x := by
    decide
  have read : (Program.parse "\"use strict\"; return event").map (·.strict) = .ok true := by
    decide +kernel
  have broken : (Program.parse "return (event").map (fun _ => ()) = .error
      ⟨.parser, "expected `)` after expression, found end of input", some ⟨13, 13⟩, [], []⟩ := by
    decide +kernel
  refine ⟨valid "event" List.mem_cons_self, ?_, ?_⟩
  · cases parsed : Program.parse "\"use strict\"; return event" with
    | error d =>
      rw [parsed] at read
      cases read
    | ok program =>
      rw [parsed] at read
      have strict : program.strict = true := Except.ok.inj read
      obtain ⟨lead, -, directive, compiled⟩ := (compile_agrees valid _).2.1 program parsed
      rw [if_pos strict] at directive
      obtain ⟨first, rfl, directive⟩ := directive
      exact ⟨program, first, rfl, strict, directive, compiled⟩
  · cases parsed : Program.parse "return (event" with
    | ok program =>
      rw [parsed] at broken
      cases broken
    | error d =>
      rw [parsed] at broken
      obtain rfl := Except.error.inj broken
      obtain ⟨-, failure, compiled, -, same⟩ := (compile_agrees valid _).2.2 _ parsed
      exact ⟨failure, compiled, same⟩

end Script

end LayerScript
