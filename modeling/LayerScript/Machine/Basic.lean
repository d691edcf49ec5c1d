import LayerScript.Console.Level
import LayerScript.Store

/-!
# The state of a running script

A `Run` takes a machine to a result and the machine after it. It may also fail, which keeps what
was done before the failure, or use up its fuel.
-/

namespace LayerScript

/-- Where console output goes. A write can fail; it has no result when it does not end. -/
structure Sink (σ : Type) where
  write : Store → Level → List Ref → σ → Option (Except SinkError Unit × σ)

structure Machine (σ : Type) where
  store : Store
  /-- The scope of the names in sight. -/
  scope : ScopeId
  /-- The scope of the prelude and of the names of the whole script. -/
  globals : ScopeId
  /-- The value of `this`. -/
  receiver : Ref
  strict : Bool
  /-- The number of script functions being called. -/
  depth : Nat
  /-- The place of the call that a failure has just left. -/
  callSite : Option Span
  sink : σ

inductive Outcome (σ α : Type) where
  | done (value : α) (after : Machine σ)
  | failed (why : Diagnostic) (after : Machine σ)
  | exhausted

def Run (σ α : Type) := Machine σ → Outcome σ α

namespace Run

variable {σ α β : Type}

@[inline] protected def pure (a : α) : Run σ α :=
  fun m => .done a m

@[inline] protected def bind (x : Run σ α) (f : α → Run σ β) : Run σ β :=
  fun m =>
    match x m with
    | .done a m => f a m
    | .failed d m => .failed d m
    | .exhausted => .exhausted

@[always_inline] instance : Monad (Run σ) where
  pure := Run.pure
  bind := Run.bind

def exhausted : Run σ α :=
  fun _ => .exhausted

def fail (d : Diagnostic) : Run σ α :=
  fun m => .failed d m

/-- Fails without a place; the call that is being made provides one. -/
def raise (f : Fault) : Run σ α :=
  fail f.diagnostic

def raiseAt (span : Span) (f : Fault) : Run σ α :=
  fail (f.locatedAt span)

@[inline] def read (f : Machine σ → α) : Run σ α :=
  fun m => .done (f m) m

@[inline] def cell (r : Ref) : Run σ Cell :=
  fun m => .done (m.store.cell r) m

/-- Runs a step of the store. -/
@[inline] def onStore (f : Store → α × Store) : Run σ α :=
  fun m =>
    match m with
    | ⟨store, scope, globals, receiver, strict, depth, callSite, sink⟩ =>
      match f store with
      | (a, store) => .done a ⟨store, scope, globals, receiver, strict, depth, callSite, sink⟩

def alloc (c : Cell) : Run σ Ref :=
  onStore (·.alloc c)

def declare (name : String) (value : Ref) (isMutable : Bool) : Run σ Unit :=
  fun m => .done () { m with store := m.store.declare m.scope name value isMutable }

/-- Looks at the store; `explain` gives the diagnostic of a fault. -/
@[inline] def check (explain : Fault → Diagnostic) (f : Store → Except Fault α) : Run σ α :=
  fun m =>
    match f m.store with
    | .ok a => .done a m
    | .error fault => .failed (explain fault) m

/-- Checks whether an operation is possible, and then carries it out. -/
@[inline] def attempt (explain : Fault → Diagnostic) (f : Store → Except Fault (Store.Effect α)) :
    Run σ α :=
  (check explain f).bind onStore

/-- Runs a step in another scope. -/
def inScope (scope : ScopeId) (x : Run σ α) : Run σ α :=
  fun m =>
    let outer := m.scope
    match x { m with scope := scope } with
    | .done a m => .done a { m with scope := outer }
    | .failed d m => .failed d { m with scope := outer }
    | .exhausted => .exhausted

/-- Runs a step in a new scope inside the present one. -/
def inNewScope (x : Run σ α) : Run σ α :=
  fun m =>
    let outer := m.scope
    let (inner, store) := m.store.newScope (some outer)
    inScope inner x { m with store := store }

/-- Makes a call. A failure without a place gets the place of the call, which is remembered for
the frame of the function that made it. -/
def atCall (span : Span) (x : Run σ α) : Run σ α :=
  fun m =>
    match x m with
    | .done a m => .done a m
    | .failed d m => .failed (d.orSpan span) { m with callSite := some span }
    | .exhausted => .exhausted

/-- Runs the body of a function in its own scope and with its own receiver. A failure that leaves
the body gets a frame. -/
def inFrame (name : String) (scope : ScopeId) (receiver : Ref) (x : Run σ α) : Run σ α :=
  fun m =>
    let outer := m.scope
    let outerReceiver := m.receiver
    let depth := m.depth
    match x { m with scope := scope, receiver := receiver, depth := depth + 1 } with
    | .done a m => .done a { m with scope := outer, receiver := outerReceiver, depth := depth }
    | .failed d m =>
      .failed (d.pushFrame name (m.callSite <|> d.span))
        { m with scope := outer, receiver := outerReceiver, depth := depth, callSite := none }
    | .exhausted => .exhausted

/-- Writes a line to the console. -/
def write (out : Sink σ) (level : Level) (payload : List Ref) : Run σ Unit :=
  fun m =>
    match m with
    | ⟨store, scope, globals, receiver, strict, depth, callSite, sink⟩ =>
      match out.write store level payload sink with
      | some (result, sink) =>
        let m := ⟨store, scope, globals, receiver, strict, depth, callSite, sink⟩
        match result with
        | .ok () => .done () m
        | .error e => .failed (Fault.console level e).diagnostic m
      | none => .exhausted

end Run

end LayerScript
