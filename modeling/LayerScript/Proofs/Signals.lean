import LayerScript.Proofs.Compiling
import LayerScript.Proofs.Escapes
import LayerScript.Proofs.Nesting
import LayerScript.Proofs.Routines.Faults
import LayerScript.Proofs.Stopping
import LayerScript.Proofs.Visiting

/-!
# Control signals are lexical

Loop control that leaves a function was written in its body, outside of the loops there, and a
function whose body has no `return` returns nothing, unless it is a lambda with an expression as its
body. This is all that a caller sees of the signals inside.
-/

namespace LayerScript

/-- Loop control goes astray in the code of a function only if it gets out of the body. -/
def strayTurns : Hazard :=
  fun fn fault => fault = .strayLoopControl →
    ∃ g, fn = some g ∧ Exit.turn.escapesBody g.2.body = true

theorem open_strayTurns : strayTurns.Open := by
  rintro fn fault own rfl
  cases own

namespace Routine

variable {σ : Type}

theorem risks_functionBody (fuel : Nat) (f : Ref) (c : Closure) :
    (functionBody fuel c : Routine σ .body Ref).Risks strayTurns (some (f, c)) := by
  -- the statements fail as they do in any code, and only the flow they leave can be stray
  refine ⟨(risking open_strayTurns fuel).sequence c.body .next, fun left gives => ?_⟩
  have own : left.1.Of c.body := (flowing σ fuel).sequence c.body .next rfl left gives
  have astray (turns : left.1.exit? = some .turn) : strayTurns (some (f, c)) .strayLoopControl :=
    fun _ => ⟨(f, c), rfl, own .turn turns⟩
  obtain ⟨flow, span⟩ := left
  cases flow with
  | next => exact .alloc _
  | value r =>
    unfold bodyResult
    split
    · exact trivial
    · exact .alloc _
  | «return» r => exact trivial
  | «break» r => exact astray rfl
  | «continue» => exact astray rfl

/-- A body without `return` that yields no value gives nothing. -/
theorem cell_of_functionBody {out : Sink σ} {call : Caller σ} {fuel : Nat} {c : Closure}
    {m m' : Machine σ} {r : Ref} (yields : c.yields = false)
    (returnless : Exit.return.escapesBody c.body = false)
    (ended : (functionBody fuel c).run out call m = .done r m') : m'.store.cell r = .none := by
  obtain ⟨⟨flow, span⟩, m₁, first, ended⟩ := Outcome.exists_of_bind ended
  have own : flow.Of c.body :=
    (flowing σ fuel).sequence c.body .next rfl _ ⟨out, call, m, m₁, first⟩
  have nothing (h : Run.alloc .none m₁ = .done r m') : m'.store.cell r = .none := by
    cases h
    exact m₁.store.cell_alloc_self .none
  rw [run_bodyResult] at ended
  cases flow with
  | next => exact nothing ended
  | value v =>
    simp only [Run.bodyResult, yields] at ended
    exact nothing ended
  | «return» v => exact absurd (own .return rfl) (by simp [returnless])
  | «break» v => cases ended
  | «continue» => cases ended

end Routine

namespace Run

variable {σ : Type} {out : Sink σ} {fuel : Nat} {f r : Ref} {c : Closure} {receiver : Option Ref}
  {args : List Ref} {m m' : Machine σ}

theorem cell_of_call (function : m.store.cell f = .closure c) (yields : c.yields = false)
    (returnless : Exit.return.escapesBody c.body = false)
    (ended : call out fuel f receiver args m = .done r m') : m'.store.cell r = .none := by
  cases fuel with
  | zero => cases ended
  | succ fuel =>
    change activate out (call out fuel) fuel f receiver args m = _ at ended
    rw [activate_closure function, ← Routine.run_activation out (call out fuel) fuel f,
      Routine.run] at ended
    by_cases limit : callLimit ≤ m.depth
    · rw [enter_of_limit limit] at ended
      cases ended
    · rw [enter_of_room limit] at ended
      obtain ⟨frame, m₁, -, ended⟩ := Outcome.exists_of_bind ended
      rw [inFrame_eq] at ended
      split at ended
      · next v m₂ body =>
        have nothing : m₂.store.cell v = .none :=
          Routine.cell_of_functionBody yields returnless body
        cases ended
        exact nothing
      · cases ended
      · cases ended

end Run

namespace Script

variable {σ : Type} {out : Sink σ} {fuel : Nat} {source : String} {b : Bindings} {s : Store} {k : σ}

theorem escapes_of_isDirective {first : Stmt} (h : first.isDirective) (e : Exit) :
    e.escapes first = false := by
  cases first with
  | expr => rfl
  | _ => cases h

/-- The statements that run for a script are those of its text and perhaps a directive. -/
theorem escapesBody_of_compile {params : List String} {script : Script} {e : Exit}
    (read : compile source params = .ok script)
    (own : ∀ p, Program.parse source = .ok p → e.escapesBody p.body = false) :
    e.escapesBody script.body = false := by
  obtain ⟨-, program, parsed, rfl⟩ := of_compile read
  obtain ⟨body, stmts, rfl⟩ := Program.statements_of_prelude parsed
  have alone : Program.parse source = .ok (.ofStatements body) := by
    rw [Program.parse_eq_statements, stmts]
    rfl
  have rest := own _ alone
  change e.escapesBody (body.map (·.shift 14)) = false
  rw [← Stmt.shiftAll_eq_map, Exit.escapesBody_shiftAll]
  cases body with
  | nil => rfl
  | cons first body =>
    by_cases directive : first.isDirective
    · simp only [Program.ofStatements, if_pos directive] at rest
      simp [Exit.escapesBody, escapes_of_isDirective directive, rest]
    · simpa only [Program.ofStatements, if_neg directive] using rest

theorem cell_of_invoke {script : Script} {receiver r : Ref} {args : List Ref} {m m' : Machine σ}
    (returnless : Exit.return.escapesBody script.body = false)
    (ended : script.invoke out fuel receiver args m = .done r m') : m'.store.cell r = .none := by
  let main := script.main m.globals
  have called : Run.call out fuel (m.store.alloc (.closure main)).1 (some receiver) args
      { m with store := (m.store.alloc (.closure main)).2 } = .done r m' := ended
  exact Run.cell_of_call (m.store.cell_alloc_self (.closure main)) rfl returnless called

theorem cell_of_execute {r : Ref} {s' : Store} {k' : σ}
    (own : ∀ p, Program.parse source = .ok p → Exit.return.escapesBody p.body = false)
    (ended : execute out fuel source b s k = some ⟨.ok r, s', k'⟩) : s'.cell r = .none := by
  cases read : compile source (b.names s) with
  | error failure =>
    rw [execute_of_error read] at ended
    cases ended
  | ok script =>
    rw [execute_of_compile read] at ended
    cases run : script.invoke out fuel b.map (b.values s) (.start s script.strict k) with
    | done r' m =>
      rw [run] at ended
      cases ended
      exact cell_of_invoke (escapesBody_of_compile read own) run
    | failed d m =>
      rw [run] at ended
      cases ended
    | exhausted =>
      rw [run] at ended
      cases ended

end Script

/-- A function fails with loop control of its own only if that gets out of its body, and without a
`return` that gets out of its body it gives nothing, unless it is there to yield a value. A source
without a `return` of its own gives nothing, whatever its statements do. -/
theorem control_signals_lexical {σ : Type} (out : Sink σ) (fuel : Nat) :
    (∀ f receiver args active m, ∀ now ∈ Run.callMoments out fuel f receiver args active m,
      now.fault? = some .strayLoopControl →
        ∃ g, now.running? = some g ∧ Exit.turn.escapesBody g.2.body = true) ∧
    (∀ source b s k, ∀ now ∈ Script.moments out fuel source b s k,
      now.fault? = some .strayLoopControl →
        ∃ g, now.running? = some g ∧ Exit.turn.escapesBody g.2.body = true) ∧
    (∀ f c receiver args m r m', m.store.cell f = .closure c → c.yields = false →
      Exit.return.escapesBody c.body = false →
      Run.call out fuel f receiver args m = .done r m' → m'.store.cell r = .none) ∧
    ∀ source b s k r s' k',
      (∀ p, Program.parse source = .ok p → Exit.return.escapesBody p.body = false) →
      Script.execute out fuel source b s k = some ⟨.ok r, s', k'⟩ → s'.cell r = .none := by
  have calls : Watcher.Risks strayTurns (Run.callMoments out fuel) :=
    Watcher.risks_callMoments out open_strayTurns Routine.risks_functionBody fuel
  refine ⟨?_, ?_, ?_, ?_⟩
  · intro f receiver args active m now mem fails
    exact calls f receiver args active m now mem _ fails rfl
  · intro source b s k now mem fails
    cases read : Script.compile source (b.names s) with
    | error failure =>
      rw [Script.moments_of_error read] at mem
      exact absurd mem List.not_mem_nil
    | ok script =>
      rw [Script.moments_of_compile read] at mem
      exact calls.routine out _ (.script script b.map (b.values s)) _ now mem _ fails rfl
  · exact fun f c receiver args m r m' function yields returnless ended =>
      Run.cell_of_call function yields returnless ended
  · exact fun source b s k r s' k' own ended => Script.cell_of_execute own ended

/-- A `break` gets out of a function that is called in a loop, and none gets out of a loop in a
function. A script has values, a loop that ends with one and a function that returns one. -/
theorem control_signals_lexical_astray :
    let b : Bindings := ⟨.cell 0⟩
    let s : Store := ⟨#[.map .empty], #[], 0⟩
    let turning : Closure := ⟨some "turn", [], [.break default none], ⟨0⟩, false, none⟩
    let looping : Closure := ⟨none, [], [.loop default turning.body], ⟨0⟩, false, none⟩
    let m : Machine Unit :=
      ⟨⟨#[.closure turning, .closure looping], #[], 0⟩, ⟨0⟩, ⟨0⟩, .cell 0, false, 0, none, ()⟩
    (∃ now ∈ Run.callMoments .silent 9 (.cell 0) none [] [] m,
      now.fault? = some .strayLoopControl ∧
        ∃ g, now.running? = some g ∧ Exit.turn.escapesBody g.2.body = true) ∧
    (∃ now ∈ Script.moments .silent 60 "fn turn() { break } while true { turn() }" b s (),
      now.fault? = some .strayLoopControl ∧
        ∃ g, now.running? = some g ∧ Exit.turn.escapesBody g.2.body = true) ∧
    (Exit.return.escapesBody looping.body = false ∧ ∃ r m',
      Run.call .silent 9 (.cell 1) none [] m = .done r m' ∧ m'.store.cell r = .none) ∧
    let source := "fn one() { return 1 } while true { break one() }"
    (∀ p, Program.parse source = .ok p → Exit.return.escapesBody p.body = false) ∧
      ∃ r s' k', Script.execute .silent 60 source b s () = some ⟨.ok r, s', k'⟩ ∧
        s'.cell r = .none := by
  intro b s turning looping m
  have astray (ms : List (Moment Unit))
      (found : ms.any (fun now => now.fault? == some .strayLoopControl) = true) :
      ∃ now ∈ ms, now.fault? = some .strayLoopControl := by
    simpa using found
  refine ⟨?_, ?_, ?_, ?_⟩
  · obtain ⟨now, mem, fails⟩ := astray
      (Run.callMoments .silent 9 (.cell 0) none [] [] m) (by decide +kernel)
    exact ⟨now, mem, fails, (control_signals_lexical .silent 9).1 _ _ _ _ _ now mem fails⟩
  · obtain ⟨now, mem, fails⟩ := astray (Script.moments .silent 60
      "fn turn() { break } while true { turn() }" b s ()) (by decide +kernel)
    exact ⟨now, mem, fails, (control_signals_lexical .silent 60).2.1 _ _ _ _ now mem fails⟩
  · obtain ⟨r, m', ended⟩ : ∃ r m', Run.call .silent 9 (.cell 1) none [] m = .done r m' :=
      ⟨_, _, rfl⟩
    exact ⟨rfl, r, m', ended,
      (control_signals_lexical .silent 9).2.2.1 _ looping _ _ m r m' rfl rfl rfl ended⟩
  · intro source
    have returnless : (Program.parse source).map (Exit.return.escapesBody ·.body) = .ok false := by
      decide +kernel
    have own : ∀ p, Program.parse source = .ok p → Exit.return.escapesBody p.body = false := by
      intro p parsed
      rw [parsed] at returnless
      exact Except.ok.inj returnless
    have ends : (Script.execute .silent 60 source b s ()).any (·.failure?.isNone) = true := by
      decide +kernel
    obtain ⟨⟨result, s', k'⟩, ran, succeeds⟩ := (Option.any_eq_true ..).1 ends
    cases result with
    | error failure => cases succeeds
    | ok r => exact ⟨own, r, s', k', ran,
        (control_signals_lexical .silent 60).2.2.2 source b s () r s' k' own ran⟩

end LayerScript
