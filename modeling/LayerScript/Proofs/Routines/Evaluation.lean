import LayerScript.Proofs.Routines.Basic

/-!
# Evaluation as a routine

The evaluator of expressions and statements, written down step by step. Whatever makes the calls, it
runs as the evaluator does.
-/

namespace LayerScript

namespace Routine

variable {σ : Type}

def name (span : Span) (x : String) : Routine σ .body Ref := do
  let scope ← read (·.scope)
  checkAt (fun _ => span) (·.lookup scope x)

def assignName (span : Span) (x : String) (value : Ref) : Routine σ .body Unit := do
  let scope ← read (·.scope)
  let strict ← read (·.strict)
  let owner ← checkAt (fun _ => span) (·.assignee scope x strict)
  onStore fun s => ((), s.declare owner x value true)

def operator (span : Span) (f : Store → Except Fault Cell) : Routine σ .body Ref := do
  alloc (← checkAt (fun _ => span) f)

def closure (name : Option String) (params : List Param) (body : List Stmt) (yields : Bool)
    (receiver : Option Ref) : Routine σ .body Ref := do
  let home ← read (·.scope)
  alloc (.closure ⟨name, params.map (·.name), body, home, yields, receiver⟩)

/-- The place of a failed assignment to an element. -/
def elementPlace (span positionSpan : Span) : Fault → Span
  | .elementBounds .. => positionSpan
  | _ => span

def assignElement (span positionSpan : Span) (target position value : Ref) :
    Routine σ .body Unit :=
  attemptAt (elementPlace span positionSpan) (·.assignElement target position value)

mutual

def evaluate (fuel : Nat) (e : Expr) : Routine σ .body Ref :=
  match fuel with
  | 0 => exhausted
  | fuel + 1 =>
    match e with
    | .literal _ value => alloc (.ofLiteral value)
    | .name span x => name span x
    | .this _ => read (·.receiver)
    | .binary span op left right => do
      let a ← evaluate fuel left
      let b ← evaluate fuel right
      let strict ← read (·.strict)
      operator span (·.binary strict op a b)
    | .logical _ op left right => do
      let a ← evaluate fuel left
      if op.decides (← cell a) then pure a else evaluate fuel right
    | .unary span op operand => do
      let a ← evaluate fuel operand
      operator span (·.unary op a)
    | .assign _ target value => do
      let r ← evaluate fuel value
      assign fuel target r
      pure r
    | .call span callee args => do
      let f ← evaluate fuel callee
      let rs ← evaluateAll fuel args
      atCall span (.call f none rs)
    | .array _ items => do
      let rs ← evaluateAll fuel items
      alloc (.array rs.toArray)
    | .map _ entries => do
      let es ← evaluateEntries fuel .empty entries
      alloc (.map es)
    | .group _ inner => evaluate fuel inner
    | .index span target position => do
      let a ← evaluate fuel target
      let b ← evaluate fuel position
      attemptAt (fun _ => span) (·.element a b)
    | .field span target x => do
      let a ← evaluate fuel target
      checkAt (fun _ => span) (·.field a x)
    | .lambda _ params body yields => do
      let receiver ← read (·.receiver)
      closure none params body yields (some receiver)

def evaluateAll (fuel : Nat) (es : List Expr) : Routine σ .body (List Ref) :=
  match fuel with
  | 0 => exhausted
  | fuel + 1 =>
    match es with
    | [] => pure []
    | e :: es => do
      let r ← evaluate fuel e
      let rs ← evaluateAll fuel es
      pure (r :: rs)

def evaluateEntries (fuel : Nat) (done : Dict Ref) (es : List (Expr × Expr)) :
    Routine σ .body (Dict Ref) :=
  match fuel with
  | 0 => exhausted
  | fuel + 1 =>
    match es with
    | [] => pure done
    | (key, value) :: es => do
      let k ← evaluate fuel key
      let text ← checkAt (fun _ => key.span) (·.mapKey k)
      let r ← evaluate fuel value
      evaluateEntries fuel (done.insert text r) es

def assign (fuel : Nat) (target : Expr) (value : Ref) : Routine σ .body Unit :=
  match fuel with
  | 0 => exhausted
  | fuel + 1 =>
    match target with
    | .name span x => assignName span x value
    | .field span owner x => do
      let a ← evaluate fuel owner
      attemptAt (fun _ => span) (·.assignField a x value)
    | .index span owner position => do
      let a ← evaluate fuel owner
      let b ← evaluate fuel position
      assignElement span position.span a b value
    | e => raiseAt e.span .invalidTarget

def sequence (fuel : Nat) (body : List Stmt) (last : Flow) : Routine σ .body (Flow × Span) :=
  match fuel with
  | 0 => exhausted
  | fuel + 1 =>
    match body with
    | [] => pure (last, default)
    | first :: body => do
      match ← execute fuel first with
      | .next => sequence fuel body last
      | .value r => sequence fuel body (.value r)
      | flow => pure (flow, first.span)

def block (fuel : Nat) (body : List Stmt) : Routine σ .body Flow :=
  match fuel with
  | 0 => exhausted
  | fuel + 1 => inNewScope (Prod.fst <$> sequence fuel body .next)

def execute (fuel : Nat) (s : Stmt) : Routine σ .body Flow :=
  match fuel with
  | 0 => exhausted
  | fuel + 1 =>
    match s with
    | .varDecl _ x initial => do
      let r ← match initial with
        | some e => evaluate fuel e
        | none => alloc .none
      declare x r true
      pure .next
    | .constDecl _ x e => do
      let r ← evaluate fuel e
      declare x r false
      pure .next
    | .fnDecl _ x params body => do
      let r ← closure (some x) params body false none
      declare x r false
      pure .next
    | .expr _ e => .value <$> evaluate fuel e
    | .block _ body => block fuel body
    | .ifElse _ condition yes no => do
      let r ← evaluate fuel condition
      if ← truthy r then block fuel yes
      else match no with
        | some body => block fuel body
        | none => pure .next
    | .whileLoop _ condition body => whileLoop fuel condition body
    | .loop _ body => loop fuel body
    | .forLoop _ x iterable body => do
      let r ← evaluate fuel iterable
      let items ← attemptAt (fun _ => iterable.span) (·.iterate r)
      forLoop fuel x body items
    | .when _ subject arms => do
      let r ← evaluate fuel subject
      match ← read fun m => Run.firstMatch? m.store r arms with
      | none => pure .next
      | some (bound, body) => inNewScope do
        let scope ← read (·.scope)
        onStore fun s => ((), s.declareAll scope bound)
        block fuel body
    | .return _ value => do
      let r ← match value with
        | some e => evaluate fuel e
        | none => alloc .none
      pure (.return r)
    | .break _ value => do
      match value with
      | some e => (.break ∘ some) <$> evaluate fuel e
      | none => pure (.break none)
    | .continue _ => pure .continue

def whileLoop (fuel : Nat) (condition : Expr) (body : List Stmt) : Routine σ .body Flow :=
  match fuel with
  | 0 => exhausted
  | fuel + 1 => do
    let r ← evaluate fuel condition
    if ← truthy r then
      let flow ← block fuel body
      match flow.afterRound with
      | none => whileLoop fuel condition body
      | some flow => pure flow
    else pure .next

def loop (fuel : Nat) (body : List Stmt) : Routine σ .body Flow :=
  match fuel with
  | 0 => exhausted
  | fuel + 1 => do
    let flow ← block fuel body
    match flow.afterRound with
    | none => loop fuel body
    | some flow => pure flow

def forLoop (fuel : Nat) (x : String) (body : List Stmt) (items : List Ref) :
    Routine σ .body Flow :=
  match fuel with
  | 0 => exhausted
  | fuel + 1 =>
    match items with
    | [] => pure .next
    | item :: items => do
      let flow ← inNewScope do
        declare x item true
        block fuel body
      match flow.afterRound with
      | none => forLoop fuel x body items
      | some flow => pure flow

end

section

variable (out : Sink σ) (call : Caller σ)

@[simp] theorem run_name (span : Span) (x : String) :
    (name span x : Routine σ .body Ref).run out call = Run.name span x := by
  simp [name, Run.name]

@[simp] theorem run_assignName (span : Span) (x : String) (value : Ref) :
    (assignName span x value : Routine σ .body Unit).run out call =
      Run.assignName span x value := by
  simp [assignName, Run.assignName]

@[simp] theorem run_operator (span : Span) (f : Store → Except Fault Cell) :
    (operator span f : Routine σ .body Ref).run out call = Run.operator span f := by
  simp [operator, Run.operator]

@[simp] theorem run_closure (name : Option String) (params : List Param) (body : List Stmt)
    (yields : Bool) (receiver : Option Ref) :
    (closure name params body yields receiver : Routine σ .body Ref).run out call =
      Run.closure name params body yields receiver :=
  rfl

@[simp] theorem run_assignElement (span positionSpan : Span) (target position value : Ref) :
    (assignElement span positionSpan target position value : Routine σ .body Unit).run out call =
      Run.assignElement span positionSpan target position value := by
  have places : (fun fault : Fault => fault.locatedAt (elementPlace span positionSpan fault)) =
      Run.assignElement.explain span positionSpan := by
    funext fault
    cases fault <;> rfl
  rw [assignElement, run_attemptAt, places, Run.assignElement]

end

/-- The routines of the evaluator run as the evaluator does on some fuel. -/
structure RunsAs (out : Sink σ) (call : Caller σ) (fuel : Nat) : Prop where
  evaluate : ∀ e, (evaluate fuel e).run out call = Run.evaluate call fuel e
  evaluateAll : ∀ es, (evaluateAll fuel es).run out call = Run.evaluateAll call fuel es
  evaluateEntries : ∀ done es,
    (evaluateEntries fuel done es).run out call = Run.evaluateEntries call fuel done es
  assign : ∀ target value, (assign fuel target value).run out call =
    Run.assign call fuel target value
  sequence : ∀ body last, (sequence fuel body last).run out call = Run.sequence call fuel body last
  block : ∀ body, (block fuel body).run out call = Run.block call fuel body
  execute : ∀ s, (execute fuel s).run out call = Run.execute call fuel s
  whileLoop : ∀ condition body,
    (whileLoop fuel condition body).run out call = Run.whileLoop call fuel condition body
  loop : ∀ body, (loop fuel body).run out call = Run.loop call fuel body
  forLoop : ∀ x body items,
    (forLoop fuel x body items).run out call = Run.forLoop call fuel x body items

namespace RunsAs

variable {out : Sink σ} {call : Caller σ} {fuel : Nat}

theorem evaluate_step (ih : RunsAs out call fuel) (e : Expr) :
    (Routine.evaluate (fuel + 1) e).run out call = Run.evaluate call (fuel + 1) e := by
  unfold Routine.evaluate Run.evaluate
  cases e with
  | logical span op left right =>
    simp only [run_bind, ih.evaluate, run_cell]
    congr 2
    funext a
    congr 1
    funext c
    split
    · rfl
    · exact ih.evaluate right
  | _ => simp [ih.evaluate, ih.evaluateAll, ih.evaluateEntries, ih.assign]

theorem evaluateAll_step (ih : RunsAs out call fuel) (es : List Expr) :
    (Routine.evaluateAll (fuel + 1) es).run out call = Run.evaluateAll call (fuel + 1) es := by
  unfold Routine.evaluateAll Run.evaluateAll
  cases es with
  | nil => rfl
  | cons e es => simp [ih.evaluate, ih.evaluateAll]

theorem evaluateEntries_step (ih : RunsAs out call fuel) (done : Dict Ref)
    (es : List (Expr × Expr)) : (Routine.evaluateEntries (fuel + 1) done es).run out call =
      Run.evaluateEntries call (fuel + 1) done es := by
  unfold Routine.evaluateEntries Run.evaluateEntries
  cases es with
  | nil => rfl
  | cons e es => simp [ih.evaluate, ih.evaluateEntries]

theorem assign_step (ih : RunsAs out call fuel) (target : Expr) (value : Ref) :
    (Routine.assign (fuel + 1) target value).run out call =
      Run.assign call (fuel + 1) target value := by
  unfold Routine.assign Run.assign
  cases target <;> simp [ih.evaluate]

theorem sequence_step (ih : RunsAs out call fuel) (body : List Stmt) (last : Flow) :
    (Routine.sequence (fuel + 1) body last).run out call =
      Run.sequence call (fuel + 1) body last := by
  unfold Routine.sequence Run.sequence
  cases body with
  | nil => rfl
  | cons first body =>
    simp only [run_bind, ih.execute]
    congr 1
    funext flow
    cases flow <;> simp [ih.sequence]

theorem block_step (ih : RunsAs out call fuel) (body : List Stmt) :
    (Routine.block (fuel + 1) body).run out call = Run.block call (fuel + 1) body := by
  unfold Routine.block Run.block
  simp [ih.sequence]

theorem execute_step (ih : RunsAs out call fuel) (s : Stmt) :
    (Routine.execute (fuel + 1) s).run out call = Run.execute call (fuel + 1) s := by
  unfold Routine.execute Run.execute
  cases s with
  | varDecl span x initial => cases initial <;> simp [ih.evaluate]
  | ifElse span condition yes no =>
    simp only [run_bind, ih.evaluate, run_truthy]
    congr 2
    funext r
    congr 1
    funext holds
    cases holds
    · cases no with
      | none => rfl
      | some body => exact ih.block body
    · exact ih.block yes
  | when span subject arms =>
    simp only [run_bind, ih.evaluate, run_read]
    congr 2
    funext r
    congr 1
    funext found
    cases found with
    | none => rfl
    | some found => simp [ih.block]
  | «return» span value => cases value <;> simp [ih.evaluate]
  | «break» span value => cases value <;> simp [ih.evaluate]
  | _ => simp [ih.evaluate, ih.block, ih.whileLoop, ih.loop, ih.forLoop]

theorem whileLoop_step (ih : RunsAs out call fuel) (condition : Expr) (body : List Stmt) :
    (Routine.whileLoop (fuel + 1) condition body).run out call =
      Run.whileLoop call (fuel + 1) condition body := by
  unfold Routine.whileLoop Run.whileLoop
  simp only [run_bind, ih.evaluate, run_truthy]
  congr 2
  funext r
  congr 1
  funext holds
  cases holds
  · rfl
  · simp only [if_true, run_bind, ih.block]
    congr 1
    funext flow
    cases flow.afterRound <;> simp [ih.whileLoop]

theorem loop_step (ih : RunsAs out call fuel) (body : List Stmt) :
    (Routine.loop (fuel + 1) body).run out call = Run.loop call (fuel + 1) body := by
  unfold Routine.loop Run.loop
  simp only [run_bind, ih.block]
  congr 1
  funext flow
  cases flow.afterRound <;> simp [ih.loop]

theorem forLoop_step (ih : RunsAs out call fuel) (x : String) (body : List Stmt)
    (items : List Ref) : (Routine.forLoop (fuel + 1) x body items).run out call =
      Run.forLoop call (fuel + 1) x body items := by
  unfold Routine.forLoop Run.forLoop
  cases items with
  | nil => rfl
  | cons item items =>
    simp only [run_bind, run_inNewScope, run_declare, ih.block]
    congr 1
    funext flow
    cases flow.afterRound <;> simp [ih.forLoop]

end RunsAs

theorem runsAs (out : Sink σ) (call : Caller σ) (fuel : Nat) : RunsAs out call fuel := by
  induction fuel with
  | zero => constructor <;> intros <;> rfl
  | succ fuel ih =>
    exact ⟨ih.evaluate_step, ih.evaluateAll_step, ih.evaluateEntries_step, ih.assign_step,
      ih.sequence_step, ih.block_step, ih.execute_step, ih.whileLoop_step, ih.loop_step,
      ih.forLoop_step⟩

end Routine

end LayerScript
