import LayerScript.Proofs.Intact
import LayerScript.Script.Execution

/-!
# The frame of a script

Running a script makes one function, whose code is that of the script, and calls it. The call makes
one scope, the frame, which declares the parameters of the script. Nothing else in the store is
changed until the first statement runs.
-/

namespace LayerScript

namespace Store

variable {s : Store} {e : ScopeId}

/-- Declaring as many parameters as there are arguments. -/
theorem declareParams_entries (entries : List (String × Ref)) :
    s.declareParams e (entries.map Prod.fst) (entries.map Prod.snd) = s.declareAll e entries := by
  induction entries generalizing s with
  | nil => rfl
  | cons entry entries ih => exact ih

theorem declareAll_cons (entry : String × Ref) (entries : List (String × Ref)) :
    s.declareAll e (entry :: entries) =
      (s.declare e entry.1 entry.2 true).declareAll e entries :=
  rfl

@[simp] theorem cell_declareAll (entries : List (String × Ref)) (r : Ref) :
    (s.declareAll e entries).cell r = s.cell r := by
  induction entries generalizing s with
  | nil => rfl
  | cons entry entries ih => rw [declareAll_cons, ih, cell_declare]

theorem scope_declareAll_of_ne {e' : ScopeId} (h : e' ≠ e) (entries : List (String × Ref)) :
    (s.declareAll e entries).scope e' = s.scope e' := by
  induction entries generalizing s with
  | nil => rfl
  | cons entry entries ih => rw [declareAll_cons, ih, scope_declare_of_ne h]

theorem scope_declareAll_self (h : s.Has (.scope e)) (entries : List (String × Ref)) :
    (s.declareAll e entries).scope e =
      { s.scope e with
        names := (entries.map fun b => (b.1, (⟨b.2, true⟩ : Binding))).foldl
          (fun d b => d.insert b.1 b.2) (s.scope e).names } := by
  induction entries generalizing s with
  | nil => rfl
  | cons entry entries ih =>
    rw [declareAll_cons, ih (has_declare.2 h), scope_declare_self h]
    rfl

theorem sizes_declareAll (entries : List (String × Ref)) :
    (s.declareAll e entries).sizes = s.sizes := by
  induction entries generalizing s with
  | nil => rfl
  | cons entry entries ih =>
    rw [declareAll_cons, ih]
    simp [sizes, declare]

/-! ## A call of a new function -/

def nextCell (s : Store) : Ref :=
  .cell s.cells.size

def nextScope (s : Store) : ScopeId :=
  ⟨s.scopes.size⟩

theorem nextCell_of_sizes {t : Store} (h : t.sizes = s.sizes) : t.nextCell = s.nextCell := by
  simp only [sizes, Prod.mk.injEq] at h
  simp [nextCell, h]

theorem nextScope_of_sizes {t : Store} (h : t.sizes = s.sizes) : t.nextScope = s.nextScope := by
  simp only [sizes, Prod.mk.injEq] at h
  simp [nextScope, h]

/-- The store after a function has been made and called with named arguments, before its body. -/
def entered (s : Store) (f : Closure) (args : Dict Ref) : Store :=
  ((s.alloc (.closure f)).2.newScope (some f.home)).2.declareAll s.nextScope args.entries

/-- The arguments are those of the parameters, in order. -/
theorem entered_eq (s : Store) {f : Closure} {args : Dict Ref} (params : f.params = args.keys) :
    s.entered f args = ((s.alloc (.closure f)).2.newScope (some f.home)).2.declareParams
      s.nextScope f.params args.values := by
  rw [params, entered]
  exact (declareParams_entries args.entries).symm

/-- The names of a frame. -/
def argumentNames (args : Dict Ref) : Dict Binding :=
  .ofList (args.entries.map fun e => (e.1, ⟨e.2, true⟩))

theorem find?_argumentNames (args : Dict Ref) (x : String) :
    (argumentNames args).find? x = (args.find? x).map fun r => ⟨r, true⟩ := by
  have nodup : ((args.entries.map fun e => (e.1, (⟨e.2, true⟩ : Binding))).map Prod.fst).Nodup := by
    rw [List.map_map]
    exact args.nodup_keys
  rw [argumentNames, Dict.find?_ofList nodup, Dict.find?_eq]
  exact valueOf?_map (fun r => (⟨r, true⟩ : Binding)) x args.entries

theorem value_of_mem_argumentNames {args : Dict Ref} {b : Binding}
    (h : b ∈ (argumentNames args).values) : b.value ∈ args.values := by
  have := Dict.mem_values_ofList h
  simp only [List.map_map, List.mem_map, Function.comp_apply] at this
  obtain ⟨e, mem, rfl⟩ := this
  exact Dict.mem_values.2 ⟨e.1, mem⟩

variable {f : Closure} {args : Dict Ref}

theorem not_has_nextCell : ¬ s.Has (.value s.nextCell) := by
  simp [nextCell, Has]

theorem not_has_nextScope : ¬ s.Has (.scope s.nextScope) := by
  simp [nextScope, Has]

theorem cell_entered_self : (s.entered f args).cell s.nextCell = .closure f := by
  rw [entered, cell_declareAll, cell_newScope]
  exact cell_alloc_self (.closure f)

theorem cell_entered_of_ne {r : Ref} (h : r ≠ s.nextCell) :
    (s.entered f args).cell r = s.cell r := by
  rw [entered, cell_declareAll, cell_newScope]
  exact cell_alloc_of_ne h

theorem scope_entered_self :
    (s.entered f args).scope s.nextScope = ⟨some f.home, argumentNames args⟩ := by
  have made : ((s.alloc (.closure f)).2.newScope (some f.home)).2.Has (.scope s.nextScope) :=
    has_newScope_self (some f.home)
  have frame : ((s.alloc (.closure f)).2.newScope (some f.home)).2.scope s.nextScope =
      ⟨some f.home, .empty⟩ := scope_newScope_self (some f.home)
  rw [entered, scope_declareAll_self made, frame]
  rfl

theorem scope_entered_of_ne {e' : ScopeId} (h : e' ≠ s.nextScope) :
    (s.entered f args).scope e' = s.scope e' := by
  have outer : ((s.alloc (.closure f)).2.newScope (some f.home)).2.scope e' =
      (s.alloc (.closure f)).2.scope e' := scope_newScope_of_ne h
  rw [entered, scope_declareAll_of_ne h, outer, scope_alloc]

theorem sameAt_entered {p : Place} (cell : p ≠ .value s.nextCell) (scope : p ≠ .scope s.nextScope) :
    SameAt p s (s.entered f args) := by
  cases p with
  | value r => exact cell_entered_of_ne fun eq => cell (congrArg _ eq)
  | scope e => exact scope_entered_of_ne fun eq => scope (congrArg _ eq)

theorem sizes_entered : (s.entered f args).sizes =
    (s.cells.size + 1, s.scopes.size + 1, s.serials) := by
  rw [entered, sizes_declareAll]
  simp [sizes, newScope, alloc, Cell.scalar?]

theorem has_entered {p : Place} :
    (s.entered f args).Has p ↔ s.Has p ∨ p = .value s.nextCell ∨ p = .scope s.nextScope := by
  have sizes : (s.entered f args).sizes = _ := sizes_entered
  simp only [Store.sizes, Prod.mk.injEq] at sizes
  cases p with
  | value r =>
    cases r <;> simp [Has, sizes, nextCell]
    omega
  | scope e =>
    cases e
    simp [Has, sizes, nextScope]
    omega

theorem extends_entered : s.Extends (s.entered f args) where
  has _ h := has_entered.2 (.inl h)
  parent e h := by
    rw [scope_entered_of_ne]
    rintro rfl
    exact not_has_nextScope h
  function r h := by
    rw [cell_entered_of_ne]
    rintro rfl
    exact not_has_nextCell (has_of_function h)

end Store

namespace Run

variable {σ : Type} {m : Machine σ} {f : Ref} {c : Closure}

theorem activate_closure (h : m.store.cell f = .closure c) (out : Sink σ) (call : Caller σ)
    (fuel : Nat) (receiver : Option Ref) (args : List Ref) :
    activate out call fuel f receiver args m = activateClosure call fuel c receiver args m := by
  simp only [activate, bind, Run.bind, cell, h]

theorem activate_traversal {op : Traversal} (h : m.store.cell f = .native (.traversal op))
    (out : Sink σ) (call : Caller σ) (fuel : Nat) (receiver : Option Ref) (args : List Ref) :
    activate out call fuel f receiver args m = traverse call op args m := by
  simp only [activate, bind, Run.bind, cell, h]

theorem activateClosure_eq (call : Caller σ) (fuel : Nat) (c : Closure) (receiver : Ref)
    (args : List Ref) (own : c.receiver = none) (room : m.depth < callLimit) :
    activateClosure call fuel c (some receiver) args m =
      inFrame (c.name.getD "<anonymous>") m.store.nextScope receiver
        (do bodyResult c (← sequence call fuel c.body .next))
        { m with
          store :=
            (m.store.newScope (some c.home)).2.declareParams m.store.nextScope c.params args } := by
  have within : ¬ callLimit ≤ m.depth := Nat.not_le_of_lt room
  simp only [activateClosure, bind, Run.bind, read, if_neg within, onStore, own]
  rfl

end Run

namespace Script

variable {σ : Type}

/-- The function whose body a script is. -/
def main (script : Script) (home : ScopeId) : Closure :=
  ⟨some scriptFrame, script.params, script.body, home, false, none⟩

theorem invoke_zero (out : Sink σ) (script : Script) (receiver : Ref) (args : List Ref)
    (m : Machine σ) : script.invoke out 0 receiver args m = .exhausted :=
  rfl

theorem invoke_succ (out : Sink σ) (fuel : Nat) (script : Script) (receiver : Ref)
    (args : Dict Ref) (params : script.params = args.keys) (m : Machine σ)
    (room : m.depth < callLimit) :
    script.invoke out (fuel + 1) receiver args.values m =
      Run.inFrame scriptFrame m.store.nextScope receiver (do
        Run.bodyResult (script.main m.globals)
          (← Run.sequence (Run.call out fuel) fuel script.body .next))
        { m with store := m.store.entered (script.main m.globals) args } := by
  let f := script.main m.globals
  let after : Machine σ := { m with store := (m.store.alloc (.closure f)).2 }
  have made : after.store.cell m.store.nextCell = .closure f := Store.cell_alloc_self (.closure f)
  refine (Run.activate_closure made out (Run.call out fuel) fuel (some receiver)
    args.values).trans ?_
  refine (Run.activateClosure_eq (m := after) _ _ _ _ _ rfl room).trans ?_
  rw [m.store.entered_eq (f := f) params]
  rfl

end Script

/-- What is left of a run of a script. -/
def Execution.ofOutcome {σ : Type} (source : String) : Outcome σ Ref → Option (Execution σ)
  | .done r m => some ⟨.ok r, m.store, m.sink⟩
  | .failed d m =>
    some ⟨.error (.ofRun source (d.shiftBack strictPrelude.utf8ByteSize)), m.store, m.sink⟩
  | .exhausted => none

namespace Script

variable {σ : Type} {out : Sink σ} {fuel : Nat} {source : String} {b : Bindings} {s : Store} {k : σ}

theorem execute_of_error {failure : ScriptFailure}
    (h : compile source (b.names s) = .error failure) :
    execute out fuel source b s k = some ⟨.error failure, s, k⟩ := by
  simp only [execute, h]

theorem execute_of_compile {script : Script} (h : compile source (b.names s) = .ok script) :
    execute out fuel source b s k = Execution.ofOutcome source
      (script.invoke out fuel b.map (b.values s) (.start s script.strict k)) := by
  simp only [execute, h]
  generalize script.invoke out fuel b.map (b.values s) _ = outcome
  cases outcome <;> rfl

end Script

end LayerScript
