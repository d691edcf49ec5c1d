import LayerScript.Machine.Call
import LayerScript.Script.Basic
import LayerScript.Script.Bindings

/-!
# Running scripts with bindings

A script runs on a new machine. It sees the prelude and the bound names, which are its parameters,
and the map of the bindings as `this`.
-/

namespace LayerScript

/-- What is left when a script has run: its result, the store and the sink. -/
structure Execution (σ : Type) where
  result : Except ScriptFailure Ref
  store : Store
  sink : σ

namespace Script

variable {σ : Type}

/-- Calls a compiled script as a function. -/
def invoke (out : Sink σ) (fuel : Nat) (script : Script) (receiver : Ref) (args : List Ref) :
    Run σ Ref := do
  let home ← Run.read (·.globals)
  let f ← Run.alloc (.closure ⟨some scriptFrame, script.params, script.body, home, false, none⟩)
  Run.call out fuel f (some receiver) args

/-- Reads and runs a script; `none` when it does not end on the fuel given. -/
def execute (out : Sink σ) (fuel : Nat) (source : String) (b : Bindings) (store : Store)
    (sink : σ) : Option (Execution σ) :=
  match compile source (b.names store) with
  | .error failure => some ⟨.error failure, store, sink⟩
  | .ok script =>
    let args := b.values store
    match script.invoke out fuel b.map args (.start store script.strict sink) with
    | .done r m => some ⟨.ok r, m.store, m.sink⟩
    | .failed d m =>
      some ⟨.error (.ofRun source (d.shiftBack strictPrelude.utf8ByteSize)), m.store, m.sink⟩
    | .exhausted => none

end Script

end LayerScript
