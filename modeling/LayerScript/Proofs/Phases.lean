import LayerScript.Proofs.Compiling
import LayerScript.Proofs.Stopping

/-!
# Failing to be read and failing to run

A script that cannot be read fails before anything has run, with a diagnostic of its text. Every
other failure is that of the last moment of a run, whatever part of the run it comes from.
-/

namespace LayerScript

/-- The failure of a script that could not be read. -/
structure ScriptFailure.Unread (failure : ScriptFailure) : Prop where
  phase : failure.phase = .compile
  stage : failure.diagnostic.stage = .lexer ∨ failure.diagnostic.stage = .parser
  stack : failure.diagnostic.stack = [⟨scriptFrame, none⟩]

/-- The failure of a script that ran, up to the last of these moments. -/
structure ScriptFailure.Raised {σ : Type} (failure : ScriptFailure) (ms : List (Moment σ)) :
    Prop where
  phase : failure.phase = .run
  stage : failure.diagnostic.stage = .runtime
  fault : ∃ earlier now fault, ms = earlier ++ [now] ∧ now.fault? = some fault ∧
    failure.diagnostic.message = fault.message ∧ failure.diagnostic.notes = fault.notes

namespace ScriptFailure

theorem Unread.ofCompile {d : Diagnostic} (h : d.Textual) (source : String) :
    (ofCompile source d).Unread := by
  constructor
  case phase => rfl
  case stage => exact h.stage
  case stack => simp [ScriptFailure.ofCompile, Diagnostic.pushFrame, h.stack]

variable {σ : Type} {failure : ScriptFailure} {ms : List (Moment σ)}

theorem Raised.ofRun {d : Diagnostic} (h : Blames ms (some d)) (source : String) :
    (ofRun source (d.shiftBack strictPrelude.utf8ByteSize)).Raised ms := by
  obtain ⟨earlier, now, fault, split, -, fails, reports⟩ := h
  exact ⟨rfl, reports.stage, earlier, now, fault, split, fails, reports.message, reports.notes⟩

end ScriptFailure

theorem Diagnostic.Textual.shiftBack {d : Diagnostic} (h : d.Textual) (bytes : Nat) :
    (d.shiftBack bytes).Textual :=
  ⟨h.stage, by simp [Diagnostic.shiftBack, h.stack]⟩

namespace Program

variable {source : String} {d : Diagnostic}

theorem textual_of_parse (h : parse source = .error d) : d.Textual := by
  rw [parse_eq_statements] at h
  cases read : statements source with
  | ok body =>
    rw [read] at h
    exact nomatch h
  | error d' =>
    rw [read] at h
    obtain rfl := Except.error.inj h
    exact textual_of_statements read

theorem parse_prelude_error : (∃ d, parse (strictPrelude ++ source) = .error d) ↔
    ∃ d, parse source = .error d := by
  rw [parse_prelude, parse_eq_statements]
  cases statements source <;> simp [Except.map, Except.mapError]

end Program

namespace Script

variable {σ : Type}

theorem compile_error_iff {source : String} {params : List String} :
    (∃ failure, compile source params = .error failure) ↔
      (∃ x ∈ params, ¬ isIdentifier x) ∨ ∃ d, Program.parse source = .error d := by
  rw [← Program.parse_prelude_error]
  constructor
  · rintro ⟨failure, failed⟩
    obtain ⟨-, -, ⟨x, mem, wrong, -⟩ | ⟨d, parsed, -⟩⟩ := of_compile_error failed
    · exact .inl ⟨x, mem, wrong⟩
    · exact .inr ⟨d, parsed⟩
  · intro broken
    cases read : compile source params with
    | error failure => exact ⟨failure, rfl⟩
    | ok script =>
      obtain ⟨valid, program, parsed, -⟩ := of_compile read
      rcases broken with ⟨x, mem, wrong⟩ | ⟨d, failed⟩
      · exact absurd (valid x mem) wrong
      · cases parsed.symm.trans failed

theorem unread_of_compile {source : String} {params : List String} {failure : ScriptFailure}
    (h : compile source params = .error failure) : failure.Unread := by
  obtain ⟨d, rfl, ⟨x, -, -, rfl⟩ | ⟨d', read, rfl⟩⟩ := of_compile_error h
  · exact .ofCompile ⟨.inr rfl, rfl⟩ source
  · exact .ofCompile ((Program.textual_of_parse read).shiftBack _) source

/-- A script cannot be read exactly when a name is none or its text cannot be read, and then nothing
has run. Every other failure is that of a script that ran. -/
theorem execute_phases (out : Sink σ) (fuel : Nat) (source : String) (b : Bindings) (s : Store)
    (k : σ) :
    ((∃ failure s' k', execute out fuel source b s k = some ⟨.error failure, s', k'⟩ ∧
        failure.phase = .compile) ↔
      (∃ x ∈ b.names s, ¬ isIdentifier x) ∨ ∃ d, Program.parse source = .error d) ∧
    ∀ failure s' k', execute out fuel source b s k = some ⟨.error failure, s', k'⟩ →
      (failure.Unread ∧ s' = s ∧ k' = k ∧ moments out fuel source b s k = []) ∨
        failure.Raised (moments out fuel source b s k) := by
  rw [← compile_error_iff]
  cases read : compile source (b.names s) with
  | error failure =>
    have unread := unread_of_compile read
    rw [execute_of_error read, moments_of_error read]
    refine ⟨by simp [unread.phase], ?_⟩
    rintro _ _ _ ⟨⟩
    exact .inl ⟨unread, rfl, rfl, rfl⟩
  | ok script =>
    rw [execute_of_compile read, moments_of_compile read]
    have account := (watched_call out fuel).routine out
      (Routine.script script b.map (b.values s)) [] (.start s script.strict k)
    rw [Routine.run_script] at account
    cases run : script.invoke out fuel b.map (b.values s) (.start s script.strict k) with
    | done r m => simp [Execution.ofOutcome]
    | exhausted => simp [Execution.ofOutcome]
    | failed d m =>
      rw [run] at account
      have raised := ScriptFailure.Raised.ofRun account.blames source
      refine ⟨by simp [Execution.ofOutcome, raised.phase], ?_⟩
      rintro _ _ _ ⟨⟩
      exact .inr raised

end Script

end LayerScript
