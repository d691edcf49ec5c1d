import LayerScript.Machine.Traversal
import LayerScript.Native.Prelude
import LayerScript.Program.Parser

/-!
# Calls and whole sources

An activation is one call of a function; the calls inside it are made by the caller it is given.
`Run.call` ties the two together, on less fuel for each call inside another.
-/

namespace LayerScript

namespace Store

/-- Declares the parameters of a function. Arguments that are missing are nothing. -/
def declareParams (s : Store) (scope : ScopeId) : List String → List Ref → Store
  | [], _ => s
  | name :: names, [] =>
    let (r, s) := s.alloc .none
    (s.declare scope name r true).declareParams scope names []
  | name :: names, r :: rs => (s.declare scope name r true).declareParams scope names rs

end Store

namespace Run

variable {σ : Type}

/-- The value of a function body. Only a lambda with an expression yields its last value. -/
def bodyResult (f : Closure) : Flow × Span → Run σ Ref
  | (.next, _) => alloc .none
  | (.value r, _) => if f.yields then pure r else alloc .none
  | (.return r, _) => pure r
  | (.break _, span) | (.continue, span) => raiseAt span .strayLoopControl

/-- The value of a whole source. -/
def sourceResult : Flow × Span → Run σ Ref
  | (.next, _) => alloc .none
  | (.value r, _) | (.return r, _) => pure r
  | (.break _, span) => raiseAt span .strayBreak
  | (.continue, span) => raiseAt span .strayContinue

/-- Runs the body of a function of a script. -/
def activateClosure (call : Caller σ) (fuel : Nat) (f : Closure) (receiver : Option Ref)
    (args : List Ref) : Run σ Ref := do
  if callLimit ≤ (← read (·.depth)) then raise .callLimit
  else
    let frame ← onStore fun s =>
      let (frame, s) := s.newScope (some f.home)
      (frame, s.declareParams frame f.params args)
    let this ← match f.receiver <|> receiver with
      | some r => pure r
      | none => alloc .none
    inFrame (f.name.getD "<anonymous>") frame this do
      bodyResult f (← sequence call fuel f.body .next)

/-- Carries out a call. -/
def activate (out : Sink σ) (call : Caller σ) (fuel : Nat) : Caller σ :=
  fun f receiver args => do
    match ← cell f with
    | .native (.plain op) => attempt Fault.diagnostic (op.run args)
    | .native (.traversal op) => traverse call op args
    | .native (.console level) => do
      write out level args
      alloc .none
    | .closure f => activateClosure call fuel f receiver args
    | c => raise (.notCallable c.kind)

def call (out : Sink σ) : Nat → Caller σ
  | 0 => fun _ _ _ => exhausted
  | fuel + 1 => activate out (call out fuel) fuel

/-- Runs a program in the present scope. -/
def program (out : Sink σ) (fuel : Nat) (p : Program) : Run σ Ref := do
  onMachine fun m => { m with strict := m.strict || p.strict, callSite := none }
  sourceResult (← sequence (call out fuel) fuel p.body .next)
where
  onMachine (f : Machine σ → Machine σ) : Run σ Unit :=
    fun m => .done () (f m)

/-- Reads and runs a source. -/
def source (out : Sink σ) (fuel : Nat) (text : String) : Run σ Ref :=
  match Program.parse text with
  | .ok p => program out fuel p
  | .error d => fail d

end Run

/-- A machine with a new prelude. -/
def Machine.start {σ : Type} (store : Store) (strict : Bool) (sink : σ) : Machine σ :=
  let (globals, store) := store.newPrelude
  let (receiver, store) := store.alloc .none
  ⟨store, globals, globals, receiver, strict, 0, none, sink⟩

end LayerScript
