import LayerScript.Proofs.Routines.Evaluation

/-!
# Calls as routines

The native functions that call functions, and calls themselves, written down step by step.
-/

namespace LayerScript

namespace Routine

variable {σ : Type}

def orderNumber (verdict : Ref) : Routine σ .call Float :=
  check (·.numberOf "std.collections.sort_by" verdict)

def itemsFor (function : String) (r : Ref) : Routine σ .call (List Ref) :=
  check fun s => (s.itemsOf function r).map (·.toList)

def mapItems (f : Ref) (index : Nat) : List Ref → Routine σ .call (List Ref)
  | [] => pure []
  | item :: items => do
    let i ← alloc (.int (Int64.ofNat index))
    let r ← Routine.call f none [item, i]
    let rs ← mapItems f (index + 1) items
    pure (r :: rs)

def filterItems (f : Ref) (index : Nat) : List Ref → Routine σ .call (List Ref)
  | [] => pure []
  | item :: items => do
    let i ← alloc (.int (Int64.ofNat index))
    let verdict ← Routine.call f none [item, i]
    let keep ← truthy verdict
    let rs ← filterItems f (index + 1) items
    pure (if keep then item :: rs else rs)

def reduceItems (f : Ref) (index : Nat) (total : Ref) : List Ref → Routine σ .call Ref
  | [] => pure total
  | item :: items => do
    let i ← alloc (.int (Int64.ofNat index))
    let r ← Routine.call f none [total, item, i]
    reduceItems f (index + 1) r items

def findItem (f : Ref) (index : Nat) : List Ref → Routine σ .call (Option Ref)
  | [] => pure none
  | item :: items => do
    let i ← alloc (.int (Int64.ofNat index))
    let verdict ← Routine.call f none [item, i]
    if ← truthy verdict then pure (some item) else findItem f (index + 1) items

def insertItem (f item : Ref) : List Ref → Routine σ .call (List Ref)
  | [] => pure [item]
  | last :: before => do
    let verdict ← Routine.call f none [last, item]
    let order ← orderNumber verdict
    if order ≤ 0 then pure (item :: last :: before)
    else do
      let rest ← insertItem f item before
      pure (last :: rest)

def sortItems (f : Ref) (sorted : List Ref) : List Ref → Routine σ .call (List Ref)
  | [] => pure sorted
  | item :: items => do
    let sorted ← insertItem f item sorted
    sortItems f sorted items

def traverse (op : Traversal) (args : List Ref) : Routine σ .call Ref :=
  match op, args with
  | .map, [a, f] => do
    let items ← itemsFor "std.collections.map" a
    let rs ← mapItems f 0 items
    alloc (.array rs.toArray)
  | .filter, [a, f] => do
    let items ← itemsFor "std.collections.filter" a
    let rs ← filterItems f 0 items
    alloc (.array rs.toArray)
  | .reduce, [a, f, start] => do
    let items ← itemsFor "std.collections.reduce" a
    reduceItems f 0 start items
  | .find, [a, f] => do
    let items ← itemsFor "std.collections.find" a
    match ← findItem f 0 items with
    | some r => pure r
    | none => alloc .none
  | .sortBy, [a, f] => do
    match ← cell a with
    | .array items =>
      let sorted ← sortItems f [] items.toList
      onStore fun s => (a, s.modifyArray a fun _ => sorted.reverse.toArray)
    | _ => raise .sortTarget
  | op, args => raise (.arity op.name op.arity args.length)

def bodyResult (f : Closure) : Flow × Span → Routine σ .body Ref
  | (.next, _) => alloc .none
  | (.value r, _) => if f.yields then pure r else alloc .none
  | (.return r, _) => pure r
  | (.break _, span) | (.continue, span) => raiseAt span .strayLoopControl

def sourceResult : Flow × Span → Routine σ .body Ref
  | (.next, _) => alloc .none
  | (.value r, _) | (.return r, _) => pure r
  | (.break _, span) => raiseAt span .strayBreak
  | (.continue, span) => raiseAt span .strayContinue

/-- Makes the scope and the receiver of the body of a function. -/
def readyBody (c : Closure) (receiver : Option Ref) (args : List Ref) :
    Routine σ .call (ScopeId × Ref) := do
  let frame ← onStore fun s =>
    let (frame, s) := s.newScope (some c.home)
    (frame, s.declareParams frame c.params args)
  let this ← match c.receiver <|> receiver with
    | some r => pure r
    | none => alloc .none
  pure (frame, this)

/-- The body of a function of a script. -/
def functionBody (fuel : Nat) (c : Closure) : Routine σ .body Ref := do
  bodyResult c (← sequence fuel c.body .next)

/-- A whole program. -/
def programBody (fuel : Nat) (p : Program) : Routine σ .body Ref := do
  sourceResult (← sequence fuel p.body .next)

def activate (fuel : Nat) (f : Ref) (receiver : Option Ref) (args : List Ref) :
    Routine σ .call Ref := do
  match ← cell f with
  | .native (.plain op) => attempt (op.run args)
  | .native (.traversal op) => traverse op args
  | .native (.console level) => do
    write level args
    alloc .none
  | .closure c => activation f c (readyBody c receiver args) (functionBody fuel c)
  | c => raise (.notCallable c.kind)

section

variable (out : Sink σ) (call : Caller σ)

@[simp] theorem run_orderNumber (verdict : Ref) :
    (orderNumber verdict : Routine σ .call Float).run out call = Run.orderNumber verdict :=
  run_check out call _

@[simp] theorem run_itemsFor (function : String) (r : Ref) :
    (itemsFor function r : Routine σ .call (List Ref)).run out call = Run.itemsFor function r :=
  run_check out call _

theorem run_mapItems (f : Ref) (index : Nat) (items : List Ref) :
    (mapItems f index items : Routine σ .call _).run out call =
      Run.mapItems call f index items := by
  induction items generalizing index with
  | nil => rfl
  | cons item items ih => simp [mapItems, Run.mapItems, ih]

theorem run_filterItems (f : Ref) (index : Nat) (items : List Ref) :
    (filterItems f index items : Routine σ .call _).run out call =
      Run.filterItems call f index items := by
  induction items generalizing index with
  | nil => rfl
  | cons item items ih => simp [filterItems, Run.filterItems, ih]

theorem run_reduceItems (f : Ref) (index : Nat) (total : Ref) (items : List Ref) :
    (reduceItems f index total items : Routine σ .call _).run out call =
      Run.reduceItems call f index total items := by
  induction items generalizing index total with
  | nil => rfl
  | cons item items ih => simp [reduceItems, Run.reduceItems, ih]

theorem run_findItem (f : Ref) (index : Nat) (items : List Ref) :
    (findItem f index items : Routine σ .call _).run out call =
      Run.findItem call f index items := by
  induction items generalizing index with
  | nil => rfl
  | cons item items ih =>
    simp only [findItem, Run.findItem, run_bind, run_alloc, run_call, run_truthy]
    congr 2
    funext i
    congr 1
    funext verdict
    congr 1
    funext found
    cases found
    · exact ih (index + 1)
    · rfl

theorem run_insertItem (f item : Ref) (items : List Ref) :
    (insertItem f item items : Routine σ .call _).run out call =
      Run.insertItem call f item items := by
  induction items with
  | nil => rfl
  | cons last before ih =>
    simp only [insertItem, Run.insertItem, run_bind, run_call, run_orderNumber]
    congr 1
    funext verdict
    congr 1
    funext order
    split
    · rfl
    · simp [ih]

theorem run_sortItems (f : Ref) (sorted items : List Ref) :
    (sortItems f sorted items : Routine σ .call _).run out call =
      Run.sortItems call f sorted items := by
  induction items generalizing sorted with
  | nil => rfl
  | cons item items ih => simp [sortItems, Run.sortItems, run_insertItem, ih]

theorem run_traverse (op : Traversal) (args : List Ref) :
    (traverse op args : Routine σ .call Ref).run out call = Run.traverse call op args := by
  fun_cases Run.traverse call op args with
  | case1 a f => simp [traverse, run_mapItems]
  | case2 a f => simp [traverse, run_filterItems]
  | case3 a f start => simp [traverse, run_reduceItems]
  | case4 a f =>
    simp only [traverse, run_bind, run_itemsFor, run_findItem]
    congr 2
    funext items
    congr 1
    funext found
    cases found <;> rfl
  | case5 a f =>
    simp only [traverse, run_bind, run_cell]
    congr 1
    funext c
    cases c <;> simp [run_sortItems]
  | case6 op args map filter reduce find sortBy =>
    rw [traverse, run_raise]
    · exact map
    · exact filter
    · exact reduce
    · exact find
    · exact sortBy

theorem run_bodyResult (f : Closure) (left : Flow × Span) :
    (bodyResult f left : Routine σ .body Ref).run out call = Run.bodyResult f left := by
  unfold bodyResult Run.bodyResult
  split <;> try rfl
  split <;> rfl

theorem run_sourceResult (left : Flow × Span) :
    (sourceResult left : Routine σ .body Ref).run out call = Run.sourceResult left := by
  unfold sourceResult Run.sourceResult
  split <;> rfl

theorem run_functionBody (fuel : Nat) (c : Closure) :
    (functionBody fuel c : Routine σ .body Ref).run out call =
      (do Run.bodyResult c (← Run.sequence call fuel c.body .next)) := by
  simp only [functionBody, run_bind, (runsAs out call fuel).sequence, run_bodyResult]

theorem run_programBody (fuel : Nat) (p : Program) :
    (programBody fuel p : Routine σ .body Ref).run out call =
      (do Run.sourceResult (← Run.sequence call fuel p.body .next)) := by
  simp only [programBody, run_bind, (runsAs out call fuel).sequence, run_sourceResult]

theorem run_activation (fuel : Nat) (f : Ref) (c : Closure) (receiver : Option Ref)
    (args : List Ref) :
    (activation f c (readyBody c receiver args) (functionBody fuel c)).run out call =
      Run.activateClosure call fuel c receiver args := by
  funext m
  rw [run, run_functionBody]
  unfold Run.enter Run.activateClosure readyBody
  cases c.receiver <|> receiver <;> rfl

theorem run_activate (fuel : Nat) (f : Ref) (receiver : Option Ref) (args : List Ref) :
    (activate fuel f receiver args).run out call =
      Run.activate out call fuel f receiver args := by
  unfold activate Run.activate
  simp only [run_bind, run_cell]
  congr 1
  funext c
  cases c with
  | native native =>
    cases native with
    | plain op => exact run_attempt out call _
    | traversal op => exact run_traverse out call op args
    | console level => rfl
  | closure c => exact run_activation out call fuel f c receiver args
  | _ => rfl

end

end Routine

end LayerScript
