import LayerScript.Proofs.Replaying
import LayerScript.Session.Basic

/-!
# How the run of a script settles

A session that has run a script is done, or in error if the script has failed. Its layers are as
they were, and so is the scratch layer unless the result has been displayed. What the console makes
of the report of the session is of no account.
-/

namespace LayerScript

namespace Session

variable {η : Type}

/-- A session that is about to run a script, and the bindings made for it. -/
def ready (s : Session η) : Bindings × Session η :=
  let (b, s) := bindings { s with status := .running }
  (b, s.note ⟨.debug, executorTarget, "compiling script",
    [("bindings", quotedList (b.names s.store))]⟩)

/-- What is left when the script has run. -/
def execution? (fuel : Nat) (s : Session η) (source : String) : Option (Execution (Console η)) :=
  Script.execute (.ofConsole η fuel) fuel source s.ready.1 s.ready.2.store s.ready.2.console

def moments (fuel : Nat) (s : Session η) (source : String) : List (Moment (Console η)) :=
  Script.moments (.ofConsole η fuel) fuel source s.ready.1 s.ready.2.store s.ready.2.console

/-- The session in which the result of the script is taken. -/
def ended (s : Session η) (e : Execution (Console η)) : Session η :=
  noteResult { s.ready.2 with store := e.store, console := e.sink } e.result

theorem run_eq (fuel : Nat) (s : Session η) (source : String) : s.run fuel source =
    (s.execution? fuel source).bind fun e => conclude fuel (s.ended e) e.result := by
  cases ran : s.execution? fuel source with
  | none =>
    simp only [execution?, ready] at ran
    simp only [run, ran, Option.bind_none]
  | some e =>
    simp only [execution?, ready] at ran
    simp only [run, ran, Option.bind_some]
    rfl

structure Holds (s t : Session η) : Prop where
  layers : t.layers = s.layers
  counter : t.counter = s.counter
  scratch : t.scratch = s.scratch

theorem Holds.trans {s t u : Session η} (h : s.Holds t) (h' : t.Holds u) : s.Holds u where
  layers := h'.layers.trans h.layers
  counter := h'.counter.trans h.counter
  scratch := h'.scratch.trans h.scratch

theorem holds_ready (s : Session η) : s.Holds s.ready.2 := by
  obtain ⟨config, console, journal, store, layers, counter, scratch, status⟩ := s
  cases scratch <;> exact ⟨rfl, rfl, rfl⟩

theorem holds_noteResult (s : Session η) (result : Except ScriptFailure Ref) :
    s.Holds (s.noteResult result) ∧ (s.noteResult result).store = s.store := by
  cases result with
  | ok r => exact ⟨⟨rfl, rfl, rfl⟩, rfl⟩
  | error why =>
    obtain ⟨phase, diagnostic, trace⟩ := why
    cases phase <;> exact ⟨⟨rfl, rfl, rfl⟩, rfl⟩

theorem holds_ended (s : Session η) (e : Execution (Console η)) :
    s.Holds (s.ended e) ∧ (s.ended e).store = e.store := by
  obtain ⟨holds, store⟩ :=
    holds_noteResult { s.ready.2 with store := e.store, console := e.sink } e.result
  have ready := s.holds_ready
  have left : s.Holds { s.ready.2 with store := e.store, console := e.sink } :=
    ⟨ready.layers, ready.counter, ready.scratch⟩
  exact ⟨left.trans holds, store⟩

theorem holds_report {fuel : Nat} {s t : Session η} {level : Level} {text : String}
    (h : s.report fuel level text = some t) : s.Holds t := by
  unfold report at h
  dsimp only [alloc] at h
  split at h
  · cases h
  · cases h
    exact ⟨rfl, rfl, rfl⟩
  · cases h
    exact ⟨rfl, rfl, rfl⟩

/-- What a session makes of the result of a script, found in a store, and what it does to the
scratch layer. -/
inductive Settles (store : Store) :
    Except ScriptFailure Ref → RunOutcome → Option Ref → Option Ref → Prop
  | displayed {r : Ref} {scratch : Option Ref} (holds : (store.cell r).truthy)
    (shown : store.isDisplayable r) : Settles store (.ok r) .displayed scratch (some r)
  | noResult {r : Ref} {scratch : Option Ref} (empty : (store.cell r).truthy = false) :
    Settles store (.ok r) .noResult scratch scratch
  | notDisplayable {r : Ref} {scratch : Option Ref} (holds : (store.cell r).truthy)
    (other : store.isDisplayable r = false) :
    Settles store (.ok r) (.notDisplayable r) scratch scratch
  | failed {why : ScriptFailure} {scratch : Option Ref} :
    Settles store (.error why) (.failed why) scratch scratch

theorem Settles.unique {store : Store} {result : Except ScriptFailure Ref} {o o' : RunOutcome}
    {scratch after after' : Option Ref} (h : Settles store result o scratch after)
    (h' : Settles store result o' scratch after') : o' = o ∧ after' = after := by
  cases h <;> cases h' <;> simp_all

/-- The status after a script, and what has become of the layers. -/
structure Settled (s t : Session η) (store : Store) (result : Except ScriptFailure Ref)
    (o : RunOutcome) : Prop where
  status : t.status = if o.isFailure then .error else .done
  layers : t.layers = s.layers
  counter : t.counter = s.counter
  settles : Settles store result o s.scratch t.scratch

theorem settled_conclude {fuel : Nat} {s t : Session η} {result : Except ScriptFailure Ref}
    {o : RunOutcome} (h : s.conclude fuel result = some (o, t)) :
    Settled s t s.store result o := by
  unfold conclude at h
  cases result with
  | ok r =>
    by_cases holds : (s.store.cell r).truthy
    · by_cases shown : s.store.isDisplayable r
      · simp only [holds, shown, Bool.not_true, Bool.false_eq_true, if_false, if_true] at h
        cases h
        exact ⟨rfl, rfl, rfl, .displayed holds shown⟩
      · simp only [holds, shown, Bool.not_true, Bool.false_eq_true, if_false] at h
        obtain ⟨u, reported, same⟩ := Option.map_eq_some_iff.1 h
        cases same
        have held := holds_report reported
        have settles : Settles s.store _ _ s.scratch s.scratch :=
          .notDisplayable holds (Bool.eq_false_iff.2 shown)
        exact ⟨rfl, held.layers, held.counter, held.scratch ▸ settles⟩
    · simp only [holds, Bool.not_false, if_true] at h
      cases h
      exact ⟨rfl, rfl, rfl, .noResult (Bool.eq_false_iff.2 holds)⟩
  | error why =>
    obtain ⟨u, reported, same⟩ := Option.map_eq_some_iff.1 h
    cases same
    have held := holds_report reported
    have settles : Settles s.store (.error why) (.failed why) s.scratch s.scratch := .failed
    exact ⟨rfl, held.layers, held.counter, held.scratch ▸ settles⟩

theorem settled_run {fuel : Nat} {s t : Session η} {source : String} {o : RunOutcome}
    (h : s.run fuel source = some (o, t)) :
    ∃ e, s.execution? fuel source = some e ∧ Settled s t e.store e.result o := by
  rw [run_eq] at h
  obtain ⟨e, ran, concluded⟩ := Option.bind_eq_some_iff.1 h
  obtain ⟨held, store⟩ := s.holds_ended e
  have settled := settled_conclude concluded
  refine ⟨e, ran, settled.status, settled.layers.trans held.layers,
    settled.counter.trans held.counter, ?_⟩
  rw [← held.scratch, ← store]
  exact settled.settles

/-! ## Answers of the console -/

/-- The console answers every line. -/
def Answers (fuel : Nat) (s : Session η) : Prop :=
  ∀ store level payload, (s.console.write store fuel level payload).isSome

theorem Answers.report {fuel : Nat} {s : Session η} (h : s.Answers fuel) (level : Level)
    (text : String) : (s.report fuel level text).isSome := by
  have answered := h (s.alloc (.text text)).2.store level [(s.alloc (.text text)).1]
  unfold Session.report
  dsimp only [alloc] at answered ⊢
  split
  · next silent => simp [silent] at answered
  · rfl
  · rfl

theorem Answers.conclude {fuel : Nat} {s : Session η} (h : s.Answers fuel)
    (result : Except ScriptFailure Ref) : (s.conclude fuel result).isSome := by
  unfold Session.conclude
  cases result with
  | ok r =>
    dsimp only
    split
    · rfl
    · split
      · rfl
      · rw [Option.isSome_map]
        exact h.report ..
  | error why =>
    rw [Option.isSome_map]
    exact h.report ..

/-- The same session with another console and another journal. -/
def withConsole (s : Session η) (console : Console η) (journal : Journal η) : Session η :=
  { s with console := console, journal := journal }

theorem ready_withConsole (s : Session η) (console : Console η) (journal : Journal η) :
    (s.withConsole console journal).ready.1 = s.ready.1 ∧
      (s.withConsole console journal).ready.2.store = s.ready.2.store := by
  obtain ⟨config, _, _, store, layers, counter, scratch, status⟩ := s
  cases scratch <;> exact ⟨rfl, rfl⟩

/-- The script is repeated on a console that answers its lines in the same way. -/
theorem execution?_withConsole {fuel : Nat} {s : Session η} {source : String}
    {e : Execution (Console η)} (ran : s.execution? fuel source = some e)
    {console after : Console η} {journal : Journal η}
    (replays : (Sink.ofConsole η fuel).replay? (s.withConsole console journal).ready.2.console
      (s.moments fuel source) = some after) :
    (s.withConsole console journal).execution? fuel source = some { e with sink := after } := by
  obtain ⟨bound, store⟩ := s.ready_withConsole console journal
  rw [execution?, bound, store]
  exact Script.execute_repeated ran replays

/-- After a script the status is that of its outcome, the layers are as before, and the scratch
layer is the result if this was displayed and else as before. If the script ends and the console
answers, there is an outcome. All this is the same on a console that answers the lines of the script
as this one did, whatever it makes of the report. -/
theorem run_settles (fuel : Nat) (s : Session η) (source : String) :
    (∀ o t, s.run fuel source = some (o, t) →
      ∃ e, s.execution? fuel source = some e ∧ Settled s t e.store e.result o) ∧
    (∀ e, s.execution? fuel source = some e → (s.ended e).Answers fuel →
      (s.run fuel source).isSome) ∧
    ∀ o t, s.run fuel source = some (o, t) → ∀ console journal after,
      (Sink.ofConsole η fuel).replay? (s.withConsole console journal).ready.2.console
        (s.moments fuel source) = some after →
      ∀ o' t', (s.withConsole console journal).run fuel source = some (o', t') →
        o' = o ∧ t'.status = t.status ∧ t'.scratch = t.scratch := by
  refine ⟨fun o t h => settled_run h, fun e ran answers => ?_, ?_⟩
  · rw [run_eq, ran]
    exact answers.conclude e.result
  · intro o t h console journal after replays o' t' h'
    obtain ⟨e, ran, settled⟩ := settled_run h
    obtain ⟨e', ran', settled'⟩ := settled_run h'
    rw [execution?_withConsole ran replays] at ran'
    obtain rfl := Option.some.inj ran'
    obtain ⟨rfl, scratch⟩ := settled.settles.unique settled'.settles
    exact ⟨rfl, settled'.status.trans settled.status.symm, scratch⟩

/-- A script that writes a line and returns a number, on a console that takes all lines and on one
that refuses warnings. -/
theorem run_settles_refused :
    let accepting : Console Nat := ⟨fun _ _ _ n => (.ok (), n + 1), [], 0⟩
    let refusing : Console Nat :=
      ⟨fun _ level _ n => (if level = .warn then .error (.io "full") else .ok (), n + 1), [], 0⟩
    let s : Session Nat := .start .standard accepting (fun _ n => n) .empty
    ∃ o t t', s.run 60 "console.log(1); return 7" = some (o, t) ∧
      (s.withConsole refusing fun _ n => n).run 60 "console.log(1); return 7" = some (o, t') ∧
      t.status = .done ∧ t'.status = .done ∧ t'.scratch = none := by
  intro accepting refusing s
  have ran : (s.run 60 "console.log(1); return 7").map (fun e => (e.2.status, e.2.scratch.isNone)) =
      some (.done, true) := by
    decide +kernel
  have ran' : ((s.withConsole refusing fun _ n => n).run 60 "console.log(1); return 7").isSome := by
    decide +kernel
  have replayed : ((Sink.ofConsole Nat 60).replay?
      (s.withConsole refusing fun _ n => n).ready.2.console
      (s.moments 60 "console.log(1); return 7")).isSome := by
    decide +kernel
  obtain ⟨⟨o, t⟩, run, ends⟩ := Option.map_eq_some_iff.1 ran
  obtain ⟨⟨o', t'⟩, run'⟩ := Option.isSome_iff_exists.1 ran'
  obtain ⟨after, replays⟩ := Option.isSome_iff_exists.1 replayed
  obtain ⟨status, scratch⟩ := Prod.mk.inj ends
  obtain ⟨rfl, status', scratch'⟩ := (run_settles 60 s "console.log(1); return 7").2.2 o t run
    refusing (fun _ n => n) after replays o' t' run'
  exact ⟨o', t, t', run, run', status, status'.trans status,
    scratch'.trans (Option.isNone_iff_eq_none.1 scratch)⟩

end Session

end LayerScript
