import LayerScript.Proofs.Routines.Calls
import LayerScript.Script.Execution

/-!
# The moments of a run

A run goes through moments. At each of them some functions are being called, the machine is in some
state, and one step is made: it looks at the machine, changes the store, writes a line to the
console or fails. The moments of a run that does not end are those it goes through while there is
fuel.
-/

namespace LayerScript

/-- A function that is being called, with the reference to it, or a program. While a call that its
code has made is going on, the place of the call is known. -/
structure Activation where
  function : Option (Ref × Closure)
  pending : Option Span

/-- What is done at a moment: the store after a change, and the answer to a line that was written
with the sink after it. -/
inductive Deed (σ : Type) where
  | look
  | change (store : Store)
  | write (level : Level) (payload : List Ref) (answer : Except SinkError Unit) (sink : σ)
  | fail (fault : Fault) (place : Option Span)

structure Moment (σ : Type) where
  /-- What is being called, innermost first. -/
  active : List Activation
  machine : Machine σ
  deed : Deed σ

namespace Machine

/-- What is left of a machine when a run has ended. -/
def contents {σ : Type} (m : Machine σ) : Store × σ :=
  (m.store, m.sink)

end Machine

namespace Moment

variable {σ : Type}

/-- The store and the sink after a moment. -/
def after (now : Moment σ) : Store × σ :=
  match now.deed with
  | .look | .fail .. => now.machine.contents
  | .change store => (store, now.machine.sink)
  | .write _ _ _ sink => (now.machine.store, sink)

/-- What goes wrong at a moment. -/
def fault? (now : Moment σ) : Option Fault :=
  match now.deed with
  | .fail fault _ => some fault
  | .write level _ (.error e) _ => some (.console level e)
  | _ => none

/-- The place that a failure has of its own. -/
def place? (now : Moment σ) : Option Span :=
  match now.deed with
  | .fail _ place => place
  | _ => none

end Moment

/-- The same code at the place of a call that it makes. -/
def waitingAt (span : Span) : List Activation → List Activation
  | [] => []
  | a :: outer => { a with pending := some span } :: outer

theorem map_function_waitingAt (span : Span) (active : List Activation) :
    (waitingAt span active).map (·.function) = active.map (·.function) := by
  cases active <;> rfl

/-- The functions that are being called, innermost first. -/
def called (active : List Activation) : List (Ref × Closure) :=
  active.filterMap (·.function)

/-- The moments of the calls that are left open in a routine. -/
abbrev Watcher (σ : Type) :=
  Ref → Option Ref → List Ref → List Activation → Machine σ → List (Moment σ)

namespace Outcome

variable {σ α γ : Type}

/-- The machine after a run that has ended. -/
def after? : Outcome σ α → Option (Machine σ)
  | .done _ m | .failed _ m => some m
  | .exhausted => none

def diagnostic? : Outcome σ α → Option Diagnostic
  | .failed d _ => some d
  | .done .. | .exhausted => none

/-- What there is to tell of what comes next. -/
def andThen (rest : α → Machine σ → List γ) : Outcome σ α → List γ
  | .done a m => rest a m
  | .failed .. | .exhausted => []

theorem mem_andThen {o : Outcome σ α} {rest : α → Machine σ → List γ} {c : γ} :
    c ∈ o.andThen rest ↔ ∃ a m, o = .done a m ∧ c ∈ rest a m := by
  cases o with
  | done a m =>
    constructor
    · exact fun mem => ⟨a, m, rfl, mem⟩
    · rintro ⟨_, _, ⟨⟩, mem⟩
      exact mem
  | failed d m => simp [andThen]
  | exhausted => simp [andThen]

end Outcome

namespace Routine

variable {σ : Type}

def moments (out : Sink σ) (call : Caller σ) (inside : Watcher σ) :
    {p : Part} → {α : Type} → Routine σ p α → List Activation → Machine σ → List (Moment σ)
  | _, _, .pure _, _, _ => []
  | _, _, .bind x f, active, m =>
    x.moments out call inside active m ++
      (x.run out call m).andThen fun a m => (f a).moments out call inside active m
  | _, _, .exhausted, _, _ => []
  | _, _, .read _, active, m => [⟨active, m, .look⟩]
  | _, _, .onStore f, active, m => [⟨active, m, .change (f m.store).2⟩]
  | _, _, .raise fault, active, m => [⟨active, m, .fail fault none⟩]
  | _, _, .raiseAt span fault, active, m => [⟨active, m, .fail fault (some span)⟩]
  | _, _, .inScope scope x, active, m =>
    x.moments out call inside active { m with scope := scope }
  | _, _, .atCall span x, active, m => x.moments out call inside (waitingAt span active) m
  | _, _, .call f receiver args, active, m => inside f receiver args active m
  | _, _, .activation f c ready body, active, m =>
    if callLimit ≤ m.depth then [⟨active, m, .fail .callLimit none⟩]
    else
      ready.moments out call inside active m ++ (ready.run out call m).andThen fun frame m =>
        body.moments out call inside (⟨some (f, c), none⟩ :: active) (m.entering frame)
  | _, _, .write level payload, active, m =>
    match out.write m.store level payload m.sink with
    | some (answer, sink) => [⟨active, m, .write level payload answer sink⟩]
    | none => []

theorem moments_activation_of_limit {out : Sink σ} {call : Caller σ} {inside : Watcher σ}
    {m : Machine σ} (h : callLimit ≤ m.depth) (f : Ref) (c : Closure)
    (ready : Routine σ .call (ScopeId × Ref)) (body : Routine σ .body Ref)
    (active : List Activation) :
    (activation f c ready body).moments out call inside active m =
      [⟨active, m, .fail .callLimit none⟩] :=
  if_pos h

theorem moments_activation_of_room {out : Sink σ} {call : Caller σ} {inside : Watcher σ}
    {m : Machine σ} (h : ¬ callLimit ≤ m.depth) (f : Ref) (c : Closure)
    (ready : Routine σ .call (ScopeId × Ref)) (body : Routine σ .body Ref)
    (active : List Activation) :
    (activation f c ready body).moments out call inside active m =
      ready.moments out call inside active m ++ (ready.run out call m).andThen fun frame m =>
        body.moments out call inside (⟨some (f, c), none⟩ :: active) (m.entering frame) :=
  if_neg h

theorem moments_write {out : Sink σ} (call : Caller σ) (inside : Watcher σ) (level : Level)
    (payload : List Ref) (active : List Activation) (m : Machine σ) :
    (Routine.write level payload).moments out call inside active m =
      ((out.write m.store level payload m.sink).map fun answer =>
        (⟨active, m, .write level payload answer.1 answer.2⟩ : Moment σ)).toList := by
  unfold moments
  cases out.write m.store level payload m.sink <;> rfl

theorem moments_bind {p : Part} {α β : Type} (out : Sink σ) (call : Caller σ) (inside : Watcher σ)
    (x : Routine σ p α) (f : α → Routine σ p β) (active : List Activation) (m : Machine σ) :
    (x >>= f).moments out call inside active m = x.moments out call inside active m ++
      (x.run out call m).andThen fun a m => (f a).moments out call inside active m :=
  rfl

theorem moments_checkAt {α : Type} (out : Sink σ) (call : Caller σ) (inside : Watcher σ)
    (place : Fault → Span) (f : Store → Except Fault α) (active : List Activation)
    (m : Machine σ) : (checkAt place f).moments out call inside active m = ⟨active, m, .look⟩ ::
      match f m.store with
      | .ok _ => []
      | .error fault => [⟨active, m, .fail fault (some (place fault))⟩] := by
  have looked : (checkAt place f).moments out call inside active m =
      ⟨active, m, .look⟩ :: moments out call inside (match f m.store with
        | .ok a => pure a
        | .error fault => raiseAt (place fault) fault) active m := rfl
  rw [looked]
  cases f m.store <;> rfl

/-- Makes the function of a script that has been read, and calls it. -/
def script (s : Script) (receiver : Ref) (args : List Ref) : Routine σ .call Ref := do
  let home ← read (·.globals)
  let f ← alloc (.closure ⟨some scriptFrame, s.params, s.body, home, false, none⟩)
  Routine.call f (some receiver) args

theorem run_script (out : Sink σ) (fuel : Nat) (s : Script) (receiver : Ref) (args : List Ref) :
    (script s receiver args).run out (Run.call out fuel) = s.invoke out fuel receiver args :=
  rfl

end Routine

namespace Run

variable {σ : Type}

/-- The moments of a call. -/
def callMoments (out : Sink σ) : Nat → Watcher σ
  | 0 => fun _ _ _ _ _ => []
  | fuel + 1 => fun f receiver args =>
    (Routine.activate fuel f receiver args).moments out (call out fuel) (callMoments out fuel)

/-- The machine with which a program starts. -/
def atProgram (p : Program) (m : Machine σ) : Machine σ :=
  { m with strict := m.strict || p.strict, callSite := none }

/-- The moments of a program. -/
def programMoments (out : Sink σ) (fuel : Nat) (p : Program) (m : Machine σ) : List (Moment σ) :=
  (Routine.programBody fuel p).moments out (call out fuel) (callMoments out fuel) [⟨none, none⟩]
    (atProgram p m)

theorem program_eq (out : Sink σ) (fuel : Nat) (p : Program) (m : Machine σ) :
    program out fuel p m =
      (Routine.programBody fuel p).run out (call out fuel) (atProgram p m) := by
  rw [Routine.run_programBody]
  rfl

end Run

/-- The moments of a script that is run with bindings. A script that cannot be read has none. -/
def Script.moments {σ : Type} (out : Sink σ) (fuel : Nat) (source : String) (b : Bindings)
    (store : Store) (sink : σ) : List (Moment σ) :=
  match compile source (b.names store) with
  | .error _ => []
  | .ok script =>
    (Routine.script script b.map (b.values store)).moments out (Run.call out fuel)
      (Run.callMoments out fuel) [] (.start store script.strict sink)

end LayerScript
