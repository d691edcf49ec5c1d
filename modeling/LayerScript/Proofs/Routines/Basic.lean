import LayerScript.Machine.Call

/-!
# Routines

A routine is a run that is written down: its steps can be counted, and where a call is made, where a
failure is raised and where the body of a function begins can be read off. The calls in it are left
open, as they are in the evaluator. Two parts of a run are told apart. In a body a failure has a
place of its own, and a call has the place of its expression; within a call a failure has no place.
-/

namespace LayerScript

inductive Part where
  | body
  | call

inductive Routine (σ : Type) : Part → Type → Type 1 where
  | protected pure {p : Part} {α : Type} (a : α) : Routine σ p α
  | protected bind {p : Part} {α β : Type} (x : Routine σ p α) (f : α → Routine σ p β) :
    Routine σ p β
  | exhausted {p : Part} {α : Type} : Routine σ p α
  | read {p : Part} {α : Type} (f : Machine σ → α) : Routine σ p α
  | onStore {p : Part} {α : Type} (f : Store → α × Store) : Routine σ p α
  | raise {α : Type} (fault : Fault) : Routine σ .call α
  | raiseAt {α : Type} (span : Span) (fault : Fault) : Routine σ .body α
  | inScope {α : Type} (scope : ScopeId) (x : Routine σ .body α) : Routine σ .body α
  | atCall {α : Type} (span : Span) (x : Routine σ .call α) : Routine σ .body α
  | protected call (f : Ref) (receiver : Option Ref) (args : List Ref) : Routine σ .call Ref
  /-- The call of a function `c`, found at `f`: the scope and the receiver of its body are made
  ready, and then the body runs. -/
  | activation (f : Ref) (c : Closure) (ready : Routine σ .call (ScopeId × Ref))
      (body : Routine σ .body Ref) : Routine σ .call Ref
  | write (level : Level) (payload : List Ref) : Routine σ .call Unit

namespace Machine

variable {σ : Type}

/-- The machine in the body of a function. -/
def entering (m : Machine σ) (frame : ScopeId × Ref) : Machine σ :=
  { m with scope := frame.1, receiver := frame.2, depth := m.depth + 1 }

/-- The machine `m` once more outside the function that was called on `outer`. -/
def leaving (outer m : Machine σ) : Machine σ :=
  { m with scope := outer.scope, receiver := outer.receiver, depth := outer.depth }

end Machine

namespace Run

variable {σ α : Type} {m : Machine σ}

/-- Calls a function of a script, unless too many are being called. -/
def enter (c : Closure) (ready : Run σ (ScopeId × Ref)) (body : Run σ Ref) : Run σ Ref := do
  if callLimit ≤ (← read (·.depth)) then raise .callLimit
  else
    let frame ← ready
    inFrame (c.name.getD "<anonymous>") frame.1 frame.2 body

theorem inFrame_eq (name : String) (frame : ScopeId × Ref) (x : Run σ α) (m : Machine σ) :
    inFrame name frame.1 frame.2 x m =
      match x (m.entering frame) with
      | .done a m' => .done a (m.leaving m')
      | .failed d m' =>
        .failed (d.pushFrame name (m'.callSite <|> d.span))
          { m.leaving m' with callSite := none }
      | .exhausted => .exhausted :=
  rfl

theorem enter_of_limit (h : callLimit ≤ m.depth) (c : Closure) (ready : Run σ (ScopeId × Ref))
    (body : Run σ Ref) : enter c ready body m = .failed Fault.callLimit.diagnostic m := by
  simp only [enter, bind, Run.bind, read, if_pos h]
  rfl

theorem enter_of_room (h : ¬ callLimit ≤ m.depth) (c : Closure) (ready : Run σ (ScopeId × Ref))
    (body : Run σ Ref) : enter c ready body m =
      (ready.bind fun frame => inFrame (c.name.getD "<anonymous>") frame.1 frame.2 body) m := by
  simp only [enter, bind, Run.bind, read, if_neg h]

/-- A console does not answer, takes a line or refuses it. -/
theorem write_cases (out : Sink σ) (level : Level) (payload : List Ref) (m : Machine σ) :
    (out.write m.store level payload m.sink = none ∧ write out level payload m = .exhausted) ∨
    (∃ sink, out.write m.store level payload m.sink = some (.ok (), sink) ∧
      write out level payload m = .done () { m with sink := sink }) ∨
    ∃ e sink, out.write m.store level payload m.sink = some (.error e, sink) ∧
      write out level payload m =
        .failed (Fault.console level e).diagnostic { m with sink := sink } := by
  cases answered : out.write m.store level payload m.sink with
  | none => exact .inl ⟨rfl, by simp only [write, answered]⟩
  | some answer =>
    obtain ⟨answer, sink⟩ := answer
    cases answer with
    | ok => exact .inr (.inl ⟨sink, rfl, by simp only [write, answered]⟩)
    | error e => exact .inr (.inr ⟨e, sink, rfl, by simp only [write, answered]⟩)

end Run

namespace Routine

variable {σ α β : Type} {p : Part}

instance : Monad (Routine σ p) where
  pure := .pure
  bind := .bind

/-- The run that a routine stands for. -/
def run (out : Sink σ) (call : Caller σ) : {p : Part} → {α : Type} → Routine σ p α → Run σ α
  | _, _, .pure a => Run.pure a
  | _, _, .bind x f => (x.run out call).bind fun a => (f a).run out call
  | _, _, .exhausted => Run.exhausted
  | _, _, .read f => Run.read f
  | _, _, .onStore f => Run.onStore f
  | _, _, .raise fault => Run.raise fault
  | _, _, .raiseAt span fault => Run.raiseAt span fault
  | _, _, .inScope scope x => Run.inScope scope (x.run out call)
  | _, _, .atCall span x => Run.atCall span (x.run out call)
  | _, _, .call f receiver args => call f receiver args
  | _, _, .activation _ c ready body => Run.enter c (ready.run out call) (body.run out call)
  | _, _, .write level payload => Run.write out level payload

/-! ## Steps put together -/

def cell (r : Ref) : Routine σ p Cell :=
  read (·.store.cell r)

def alloc (c : Cell) : Routine σ p Ref :=
  onStore (·.alloc c)

def declare (name : String) (value : Ref) (isMutable : Bool) : Routine σ p Unit := do
  let scope ← read (·.scope)
  onStore fun s => ((), s.declare scope name value isMutable)

def check (f : Store → Except Fault α) : Routine σ .call α := do
  match ← read fun m => f m.store with
  | .ok a => pure a
  | .error fault => raise fault

/-- Looks at the store; `place` gives the place of a fault. -/
def checkAt (place : Fault → Span) (f : Store → Except Fault α) : Routine σ .body α := do
  match ← read fun m => f m.store with
  | .ok a => pure a
  | .error fault => raiseAt (place fault) fault

def attempt (f : Store → Except Fault (Store.Effect α)) : Routine σ .call α :=
  check f >>= onStore

def attemptAt (place : Fault → Span) (f : Store → Except Fault (Store.Effect α)) :
    Routine σ .body α :=
  checkAt place f >>= onStore

def inNewScope (x : Routine σ .body α) : Routine σ .body α := do
  let outer ← read (·.scope)
  let inner ← onStore (·.newScope (some outer))
  inScope inner x

def truthy (r : Ref) : Routine σ p Bool := do
  return (← cell r).truthy

section

variable (out : Sink σ) (call : Caller σ)

@[simp] theorem run_pure (a : α) : (pure a : Routine σ p α).run out call = pure a :=
  rfl

@[simp] theorem run_bind (x : Routine σ p α) (f : α → Routine σ p β) :
    (x >>= f).run out call = x.run out call >>= fun a => (f a).run out call :=
  rfl

@[simp] theorem run_map (f : α → β) (x : Routine σ p α) :
    (f <$> x).run out call = f <$> x.run out call :=
  rfl

@[simp] theorem run_exhausted : (exhausted : Routine σ p α).run out call = Run.exhausted :=
  rfl

@[simp] theorem run_read (f : Machine σ → α) :
    (read f : Routine σ p α).run out call = Run.read f :=
  rfl

@[simp] theorem run_onStore (f : Store → α × Store) :
    (onStore f : Routine σ p α).run out call = Run.onStore f :=
  rfl

@[simp] theorem run_raise (fault : Fault) :
    (raise fault : Routine σ .call α).run out call = Run.raise fault :=
  rfl

@[simp] theorem run_raiseAt (span : Span) (fault : Fault) :
    (raiseAt span fault : Routine σ .body α).run out call = Run.raiseAt span fault :=
  rfl

@[simp] theorem run_atCall (span : Span) (x : Routine σ .call α) :
    (atCall span x).run out call = Run.atCall span (x.run out call) :=
  rfl

@[simp] theorem run_call (f : Ref) (receiver : Option Ref) (args : List Ref) :
    (Routine.call f receiver args : Routine σ .call Ref).run out call = call f receiver args :=
  rfl

@[simp] theorem run_write (level : Level) (payload : List Ref) :
    (write level payload : Routine σ .call Unit).run out call = Run.write out level payload :=
  rfl

@[simp] theorem run_cell (r : Ref) : (cell r : Routine σ p Cell).run out call = Run.cell r :=
  rfl

@[simp] theorem run_alloc (c : Cell) : (alloc c : Routine σ p Ref).run out call = Run.alloc c :=
  rfl

@[simp] theorem run_declare (name : String) (value : Ref) (isMutable : Bool) :
    (declare name value isMutable : Routine σ p Unit).run out call =
      Run.declare name value isMutable :=
  rfl

@[simp] theorem run_truthy (r : Ref) : (truthy r : Routine σ p Bool).run out call = Run.truthy r :=
  rfl

@[simp] theorem run_check (f : Store → Except Fault α) :
    (check f).run out call = Run.check Fault.diagnostic f := by
  funext m
  have looked : (check f).run out call m = run out call (match f m.store with
    | .ok a => pure a
    | .error fault => raise fault) m := rfl
  rw [looked, Run.check]
  cases f m.store <;> rfl

@[simp] theorem run_checkAt (place : Fault → Span) (f : Store → Except Fault α) :
    (checkAt place f).run out call = Run.check (fun fault => fault.locatedAt (place fault)) f := by
  funext m
  have looked : (checkAt place f).run out call m = run out call (match f m.store with
    | .ok a => pure a
    | .error fault => raiseAt (place fault) fault) m := rfl
  rw [looked, Run.check]
  cases f m.store <;> rfl

@[simp] theorem run_attempt (f : Store → Except Fault (Store.Effect α)) :
    (attempt f).run out call = Run.attempt Fault.diagnostic f := by
  rw [attempt, run_bind, run_check]
  rfl

@[simp] theorem run_attemptAt (place : Fault → Span) (f : Store → Except Fault (Store.Effect α)) :
    (attemptAt place f).run out call =
      Run.attempt (fun fault => fault.locatedAt (place fault)) f := by
  rw [attemptAt, run_bind, run_checkAt]
  rfl

@[simp] theorem run_inNewScope (x : Routine σ .body α) :
    (inNewScope x).run out call = Run.inNewScope (x.run out call) :=
  rfl

end

end Routine

end LayerScript
