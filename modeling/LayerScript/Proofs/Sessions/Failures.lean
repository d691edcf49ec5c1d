import LayerScript.Proofs.Phases
import LayerScript.Proofs.Programs.Locations
import LayerScript.Proofs.Sessions.Running
import LayerScript.Proofs.Traces.Receivers
import Mathlib.Data.List.Forall2

/-!
# Where failures are found

A script that cannot be read fails somewhere in its text. One that fails while it runs has a place,
and so have its frames: that of a frame is a node of the code of its function. Functions outlive the
script that made them, and keep the places that they had in its text. For the functions of the text
that is run these are nodes of that text.
-/

namespace LayerScript

variable {σ : Type} {code : Code} {span : Span} {now : Moment σ} {d : Diagnostic}
  {g : Ref × Closure}

/-! ## The places of calls are nodes -/

theorem Expr.parts_below {e part : Expr} (mem : part ∈ e.parts) :
    (Node.expr e).makesFunction = false ∧ .expr part ∈ e.children := by
  have plain : (Node.expr e).makesFunction = false := by
    cases e with
    | lambda => exact nomatch mem
    | _ => rfl
  exact ⟨plain, Expr.children_eq_parts plain ▸ List.mem_map_of_mem mem⟩

theorem Expr.HasCall.place {e : Expr} (h : e.HasCall span) (has : code.has (.expr e)) :
    code.Place span := by
  induction h with
  | here => exact code.place_expr has
  | part mem _ ih =>
    obtain ⟨plain, below⟩ := Expr.parts_below mem
    exact ih (code.expr_below has plain below)

theorem Stmt.HasCall.place {s : Stmt} (h : s.HasCall span) (has : code.has (.stmt s)) :
    code.Place span := by
  induction h with
  | @expr s e mem call =>
    refine call.place (code.stmt_below has ?_ ?_) <;>
      cases s <;> simp_all [Stmt.exprs, Stmt.children, Node.makesFunction]
  | @part s part mem _ ih =>
    have plain : (Node.stmt s).makesFunction = false := by
      cases s <;> simp_all [Stmt.parts, Node.makesFunction]
    cases s with
    | «when» place subject arms =>
      obtain ⟨arm, mem', inside⟩ := List.mem_flatMap.1 mem
      have below : code.has (.arm arm) := code.stmt_below has plain (by simp [Stmt.children, mem'])
      refine ih (code.below below rfl ?_)
      obtain ⟨place, pattern, body⟩ := arm
      exact List.mem_map_of_mem inside
    | _ =>
      refine ih (code.stmt_below has plain ?_)
      simp_all [Stmt.parts, Stmt.children]

theorem Activation.Own.place {a : Activation} (own : a.Own []) (function : a.function = some g) :
    ∀ span ∈ a.pending, (Code.of g.2.body).Place span := by
  intro span pending
  obtain ⟨s, mem, call⟩ := own span pending
  rw [Activation.code, function] at mem
  exact call.place (.stmt mem)

def Frame.Inside (frame : Frame) (g : Ref × Closure) : Prop :=
  ∀ span ∈ frame.span, (Code.of g.2.body).Place span

theorem inside_filterMap {outer : List Activation} (own : ∀ a ∈ outer, a.Own []) :
    List.Forall₂ Frame.Inside (outer.filterMap (·.frame? none)) (called outer) := by
  induction outer with
  | nil => exact .nil
  | cons a outer ih =>
    rw [List.forall_mem_cons] at own
    obtain ⟨function, pending⟩ := a
    cases function with
    | none => exact ih own.2
    | some g =>
      refine .cons ?_ (ih own.2)
      simpa [Frame.Inside] using own.1.place rfl

theorem inside_framesOf {place : Option Span} {active : List Activation}
    (own : ∀ a ∈ active, a.Own [])
    (head : ∀ g, active.head?.bind (·.function) = some g →
      ∀ span ∈ place, (Code.of g.2.body).Place span) :
    List.Forall₂ Frame.Inside (framesOf place active) (called active) := by
  cases active with
  | nil => exact .nil
  | cons a outer =>
    rw [List.forall_mem_cons] at own
    have rest := inside_filterMap own.2
    obtain ⟨function, pending⟩ := a
    cases function with
    | none => exact rest
    | some g =>
      refine .cons (fun span mem => ?_) rest
      cases pending with
      | none => exact head g rfl span mem
      | some call => exact own.1.place rfl span mem

/-- Where code at work fails, and where the functions around it are at work, are nodes of their
code. -/
theorem Explains.inside (h : Explains [] now d)
    (enacts : ∀ g, now.running? = some g → now.Enacts (.of g.2.body)) :
    (∀ g, now.running? = some g → ∀ span ∈ d.span, (Code.of g.2.body).Place span) ∧
      List.Forall₂ Frame.Inside d.stack (called now.active) := by
  have head (g : Ref × Closure) (running : now.running? = some g) :
      ∀ span ∈ now.span?, (Code.of g.2.body).Place span := by
    intro span mem
    unfold Moment.span? at mem
    cases place : now.place? with
    | some own =>
      rw [place] at mem
      obtain rfl : own = span := by simpa using mem
      obtain ⟨fault, failed⟩ : ∃ fault, now.deed = .fail fault (some own) := by
        unfold Moment.place? at place
        split at place
        · next fault _ deed => exact ⟨fault, place ▸ deed⟩
        · exact nomatch place
      exact (enacts g running).fails fault own failed
    | none =>
      rw [place] at mem
      unfold Moment.running? at running
      cases active : now.active with
      | nil => simp [active] at running
      | cons a outer =>
        have own : a.Own [] := h.own a (by simp [active])
        exact own.place (by simpa [active] using running) span (by simpa [active] using mem)
  rw [h.span, h.stack]
  exact ⟨head, inside_framesOf h.own head⟩

/-! ## Scripts -/

/-- The span covers a part of the source, and is that of a node. -/
structure Span.OfNode (source : String) (span : Span) : Prop where
  covers : ∃ slice, span.Covers source slice
  node : ∃ node : Node, node.Of source ∧ node.span = span

namespace Script

variable {out : Sink σ} {fuel : Nat} {source : String} {b : Bindings} {s : Store} {k : σ}

/-- The function is one of the text that is run. -/
def Wrote (out : Sink σ) (fuel : Nat) (source : String) (b : Bindings) (s : Store) (k : σ)
    (g : Ref × Closure) : Prop :=
  ∃ script, compile source (b.names s) = .ok script ∧
    let m := Machine.start s script.strict k
    Owns (moments out fuel source b s k) (m.store.nextCell, script.main m.globals) g

theorem Wrote.ofNode {script : Script} (read : compile source (b.names s) = .ok script)
    (h : Wrote out fuel source b s k g) (place : (Code.of g.2.body).Place span) :
    (span.shiftBack strictPrelude.utf8ByteSize).OfNode source := by
  obtain ⟨script', read', owns⟩ := h
  obtain rfl := Except.ok.inj (read.symm.trans read')
  obtain ⟨enclosed, inside, -⟩ := owns.inside read
  obtain ⟨node, has, rfl⟩ := place
  obtain ⟨node', of, same⟩ := (Code.Runs.inside has inside).of_script read
  rw [same]
  exact ⟨of.covers, node', of, rfl⟩

/-- Where a script fails. -/
structure Located (out : Sink σ) (fuel : Nat) (source : String) (b : Bindings) (s : Store) (k : σ)
    (why : ScriptFailure) : Prop where
  trace : why.trace = why.diagnostic.trace source
  compile : why.phase = .compile → why.diagnostic.stack = [⟨scriptFrame, none⟩] ∧
    ∀ span ∈ why.diagnostic.span, span.Reported source
  run : why.phase = .run → why.diagnostic.span.isSome ∧ ∃ earlier now,
    moments out fuel source b s k = earlier ++ [now] ∧
    (∀ g, now.running? = some g → Wrote out fuel source b s k g →
      ∀ span ∈ why.diagnostic.span, span.OfNode source) ∧
    List.Forall₂ (fun frame g => Wrote out fuel source b s k g →
      ∀ span ∈ frame.span, span.OfNode source) why.diagnostic.stack (called now.active)

theorem exists_ofRun_of_ofOutcome {o : Outcome σ Ref} {why : ScriptFailure} {s' : Store} {k' : σ}
    (h : Execution.ofOutcome source o = some ⟨.error why, s', k'⟩) :
    ∃ d, why = .ofRun source d := by
  cases o with
  | done r m => exact nomatch h
  | failed d m =>
    cases h
    exact ⟨_, rfl⟩
  | exhausted => exact nomatch h

theorem located_of_execute {why : ScriptFailure} {s' : Store} {k' : σ}
    (h : execute out fuel source b s k = some ⟨.error why, s', k'⟩) :
    Located out fuel source b s k why := by
  cases read : Script.compile source (b.names s) with
  | error failure =>
    rw [execute_of_error read] at h
    cases h
    have unread := unread_of_compile read
    refine ⟨?_, fun _ => ⟨unread.stack, reported_of_compile read⟩, fun running => ?_⟩
    · obtain ⟨d, rfl, -⟩ := of_compile_error read
      rfl
    · cases unread.phase.symm.trans running
  | ok script =>
    obtain ⟨d, rfl⟩ := exists_ofRun_of_ofOutcome (execute_of_compile read ▸ h)
    obtain ⟨script', earlier, now, d, inner, read', split, -, explains, moved, -, -⟩ :=
      execute_explained out fuel source b s k h rfl
    have mem : now ∈ moments out fuel source b s k := by simp [split]
    obtain ⟨place, frames⟩ := explains.inside fun g => enacts_of_running read mem
    -- what is found are places in the tree of the script, and they have been moved back
    refine ⟨rfl, nofun, fun _ => ⟨?_, earlier, now, split, ?_, ?_⟩⟩
    · rw [moved]
      simpa [Diagnostic.shiftBack] using explains.located
    · intro g head wrote span mem
      rw [moved] at mem
      obtain ⟨own, found, rfl⟩ := Option.map_eq_some_iff.1 mem
      exact wrote.ofNode read (place g head own found)
    · rw [moved]
      refine List.forall₂_map_left_iff.2 (frames.imp fun frame g inside wrote span mem => ?_)
      obtain ⟨own, found, rfl⟩ := Option.map_eq_some_iff.1 mem
      exact wrote.ofNode read (inside own found)

end Script

def RunOutcome.failure? : RunOutcome → Option ScriptFailure
  | .failed why => some why
  | _ => none

theorem RunOutcome.eq_of_failure? {o : RunOutcome} {why : ScriptFailure}
    (h : o.failure? = some why) : o = .failed why := by
  cases o with
  | failed => rw [Option.some.inj h]
  | _ => cases h

namespace Session

variable {η : Type}

/-- When a session fails to run a text, it has failed somewhere in that text. -/
theorem failures_located {fuel : Nat} {s t : Session η} {source : String} {why : ScriptFailure}
    (ran : s.run fuel source = some (.failed why, t)) :
    Script.Located (.ofConsole η fuel) fuel source s.ready.1 s.ready.2.store s.ready.2.console
      why := by
  obtain ⟨e, run, settled⟩ := settled_run ran
  obtain ⟨result, store, sink⟩ := e
  have settles := settled.settles
  generalize s.scratch = before, t.scratch = after at settles
  cases settles with
  | failed => exact Script.located_of_execute run

/-- A name that is missing in a function that the text declares and calls. -/
theorem failures_located_called :
    let console : Console Nat := ⟨fun _ _ _ n => (.ok (), n + 1), [], 0⟩
    let s : Session Nat := .start .standard console (fun _ n => n) .empty
    let source := "fn f() \x7b missing \x7d f()"
    ∃ why t, s.run 60 source = some (.failed why, t) ∧ why.phase = .run ∧
      why.diagnostic.span = some ⟨9, 16⟩ ∧
      why.diagnostic.stack = [⟨"f", some ⟨9, 16⟩⟩, ⟨"<script>", some ⟨19, 22⟩⟩] ∧
      Script.Located (.ofConsole Nat 60) 60 source s.ready.1 s.ready.2.store s.ready.2.console
        why := by
  intro console s source
  have ran : (s.run 60 source).bind (fun e => e.1.failure?.map fun why =>
      (why.phase, why.diagnostic.span, why.diagnostic.stack)) =
      some (.run, some ⟨9, 16⟩, [⟨"f", some ⟨9, 16⟩⟩, ⟨"<script>", some ⟨19, 22⟩⟩]) := by
    decide +kernel
  obtain ⟨⟨o, t⟩, run, ends⟩ := Option.bind_eq_some_iff.1 ran
  obtain ⟨why, found, places⟩ := Option.map_eq_some_iff.1 ends
  obtain rfl := RunOutcome.eq_of_failure? found
  simp only [Prod.mk.injEq] at places
  obtain ⟨phase, span, stack⟩ := places
  exact ⟨why, t, run, phase, span, stack, failures_located run⟩

/-- A function that an earlier text has left in a layer fails where it stood in that text, which is
behind the end of the text that is run. And a text that falls into no tokens fails where there is
neither a token nor a node. -/
theorem failures_elsewhere :
    let console : Console Nat := ⟨fun _ _ _ n => (.ok (), n + 1), [], 0⟩
    let store : Store := ⟨#[.map (.ofList [("kept", .scalar 0 (.int 1))])], #[], 1⟩
    let s : Session Nat :=
      ((Session.start .standard console (fun _ n => n) store).addLayer (.cell 0) none).2
    let first := "var no = \"no\"\nfn f() \x7b fail(no) \x7d\nlayer1.f = f"
    (∃ o t why u, s.run 60 first = some (o, t) ∧ t.run 60 "layer1.f()" = some (.failed why, u) ∧
      why.diagnostic.span = some ⟨23, 31⟩ ∧
      why.diagnostic.stack.head? = some ⟨"f", some ⟨23, 31⟩⟩ ∧
      "layer1.f()".utf8ByteSize < 23) ∧
    ∃ why t, s.run 60 "@" = some (.failed why, t) ∧ why.diagnostic.span = some ⟨0, 1⟩ ∧
      (¬ ∃ tokens, tokenize "@" = .ok tokens) ∧ ¬ Span.OfNode "@" ⟨0, 1⟩ := by
  intro console store s first
  constructor
  · have ran : (s.run 60 first).bind (fun e => (e.2.run 60 "layer1.f()").bind fun e' =>
        e'.1.failure?.map fun why => (why.diagnostic.span, why.diagnostic.stack.head?)) =
        some (some ⟨23, 31⟩, some ⟨"f", some ⟨23, 31⟩⟩) := by
      decide +kernel
    obtain ⟨⟨o, t⟩, run, next⟩ := Option.bind_eq_some_iff.1 ran
    obtain ⟨⟨o', u⟩, run', ends⟩ := Option.bind_eq_some_iff.1 next
    obtain ⟨why, found, places⟩ := Option.map_eq_some_iff.1 ends
    obtain rfl := RunOutcome.eq_of_failure? found
    obtain ⟨span, frame⟩ := Prod.mk.inj places
    exact ⟨o, t, why, u, run, run', span, frame, by decide +kernel⟩
  · have ran : (s.run 60 "@").bind (fun e => e.1.failure?.map (·.diagnostic.span)) =
        some (some ⟨0, 1⟩) := by
      decide +kernel
    have broken : (scanTokens "@").toOption = none := by decide +kernel
    have none (tokens : List Token) : scanTokens "@" ≠ .ok tokens := fun scanned => by
      rw [scanned] at broken
      cases broken
    obtain ⟨⟨o, t⟩, run, ends⟩ := Option.bind_eq_some_iff.1 ran
    obtain ⟨why, found, place⟩ := Option.map_eq_some_iff.1 ends
    obtain rfl := RunOutcome.eq_of_failure? found
    refine ⟨why, t, run, place, ?_, ?_⟩
    · rintro ⟨tokens, split⟩
      cases scanned : scanTokens "@" with
      | error d =>
        rw [tokenize, scanned] at split
        cases split
      | ok words => exact none words scanned
    · rintro ⟨-, node, ⟨body, enclosed, read, -⟩, -⟩
      obtain ⟨tokens, hi, scanned, -⟩ := Program.row_of_statements read
      exact none tokens scanned

end Session

end LayerScript
