import LayerScript.Proofs.Inert
import LayerScript.Proofs.Programs.Levels
import LayerScript.Proofs.Routines.Moments

/-!
# The code of a routine

What is run with some nodes of a program: all that is below them, but for the bodies of the
functions that they make. A routine that enacts code makes the calls of its call expressions and the
functions of its lambdas and declarations, and fails at the places of its nodes. The evaluator
enacts the code it is given, and the native functions enact none.
-/

namespace LayerScript

/-- Whether a node makes a function. What is below it runs when that function is called. -/
def Node.makesFunction : Node → Bool
  | .expr (.lambda ..) | .stmt (.fnDecl ..) => true
  | _ => false

/-- Nodes, together with all that runs when they run. -/
structure Code where
  has : Node → Prop
  below : ∀ {node child}, has node → node.makesFunction = false → child ∈ node.children → has child

namespace Code

/-- The nodes that run when statements run. -/
inductive Runs (body : List Stmt) : Node → Prop where
  | stmt {s : Stmt} : s ∈ body → Runs body (.stmt s)
  | child {node child : Node} : Runs body node → node.makesFunction = false →
      child ∈ node.children → Runs body child

/-- The code of the body of a function. -/
def of (body : List Stmt) : Code :=
  ⟨Runs body, .child⟩

def none : Code :=
  ⟨fun _ => False, False.elim⟩

/-- The place of a node. -/
def Place (code : Code) (span : Span) : Prop :=
  ∃ node, code.has node ∧ node.span = span

variable {code : Code}

theorem expr_below {e : Expr} {child : Node} (h : code.has (.expr e))
    (open_ : (Node.expr e).makesFunction = false) (mem : child ∈ e.children) : code.has child :=
  code.below h open_ mem

theorem stmt_below {s : Stmt} {child : Node} (h : code.has (.stmt s))
    (open_ : (Node.stmt s).makesFunction = false) (mem : child ∈ s.children) : code.has child :=
  code.below h open_ mem

theorem place_expr {e : Expr} (h : code.has (.expr e)) : code.Place e.span :=
  ⟨.expr e, h, rfl⟩

theorem place_stmt {s : Stmt} (h : code.has (.stmt s)) : code.Place s.span :=
  ⟨.stmt s, h, rfl⟩

end Code

def Arm.body : Arm → List Stmt
  | .mk _ _ body => body

/-- What matches is one of the arms. -/
theorem Run.exists_arm {s : Store} {r : Ref} {arms : List Arm}
    {found : List (String × Ref) × List Stmt} (h : firstMatch? s r arms = some found) :
    ∃ arm ∈ arms, arm.body = found.2 := by
  induction arms with
  | nil => exact nomatch h
  | cons arm arms ih =>
    obtain ⟨span, pattern, body⟩ := arm
    unfold firstMatch? at h
    split at h
    · cases h
      exact ⟨_, List.mem_cons_self, rfl⟩
    · obtain ⟨arm, mem, same⟩ := ih h
      exact ⟨arm, List.mem_cons_of_mem _ mem, same⟩

/-- Whether the loop around a statement goes on or ends with it. -/
def Flow.turnsLoop : Flow → Bool
  | .break _ | .continue => true
  | .next | .value _ | .return _ => false

namespace Routine

variable {σ α β : Type} {p : Part}

/-- Some run of the routine has this result. -/
def Gives (x : Routine σ p α) (a : α) : Prop :=
  ∃ out call m m', x.run out call m = .done a m'

theorem Gives.of_bind {x : Routine σ p α} {f : α → Routine σ p β} {b : β}
    (h : (x >>= f).Gives b) : ∃ a, x.Gives a ∧ (f a).Gives b := by
  obtain ⟨out, call, m, m', run⟩ := h
  change Run.bind _ _ m = _ at run
  unfold Run.bind at run
  cases first : x.run out call m with
  | done a m₁ =>
    rw [first] at run
    exact ⟨a, ⟨out, call, m, m₁, first⟩, out, call, m₁, m', run⟩
  | failed d m₁ =>
    rw [first] at run
    cases run
  | exhausted =>
    rw [first] at run
    cases run

theorem Gives.of_pure {a b : α} (h : (pure a : Routine σ p α).Gives b) : a = b := by
  obtain ⟨out, call, m, m', run⟩ := h
  cases run
  rfl

theorem Gives.of_read {f : Machine σ → α} {a : α} (h : (read f : Routine σ p α).Gives a) :
    ∃ m, f m = a := by
  obtain ⟨out, call, m, m', run⟩ := h
  cases run
  exact ⟨m, rfl⟩

/-- A check that passes gives what it has found in the store. -/
theorem done_of_checkAt {out : Sink σ} {call : Caller σ} {place : Fault → Span}
    {f : Store → Except Fault α} {a : α} {m m' : Machine σ}
    (h : (checkAt place f).run out call m = .done a m') : f m.store = .ok a ∧ m' = m := by
  rw [run_checkAt, Run.check] at h
  cases found : f m.store with
  | ok b =>
    rw [found] at h
    cases h
    exact ⟨rfl, rfl⟩
  | error fault =>
    rw [found] at h
    cases h

theorem Gives.of_checkAt {place : Fault → Span} {f : Store → Except Fault α} {a : α}
    (h : (checkAt place f : Routine σ .body α).Gives a) : ∃ s, f s = .ok a := by
  obtain ⟨out, call, m, m', run⟩ := h
  exact ⟨m.store, (done_of_checkAt run).1⟩

theorem Gives.of_check {f : Store → Except Fault α} {a : α}
    (h : (check f : Routine σ .call α).Gives a) : ∃ s, f s = .ok a := by
  obtain ⟨out, call, m, m', run⟩ := h
  rw [run_check, Run.check] at run
  cases found : f m.store with
  | ok b =>
    rw [found] at run
    cases run
    exact ⟨m.store, found⟩
  | error fault =>
    rw [found] at run
    cases run

def operation (span : Span) (op : BinaryOp) (a b : Ref) : Routine σ .body Ref := do
  let strict ← read (·.strict)
  operator span (·.binary strict op a b)

/-- Runs a step in a new scope that declares the names a pattern has bound. -/
def inArm (bound : List (String × Ref)) (x : Routine σ .body α) : Routine σ .body α :=
  inNewScope do
    let scope ← read (·.scope)
    onStore fun s => ((), s.declareAll scope bound)
    x

/-- A lambda has the receiver of the code around it. -/
def lambda (params : List Param) (body : List Stmt) (yields : Bool) : Routine σ .body Ref := do
  let receiver ← read (·.receiver)
  closure none params body yields (some receiver)

/-! ## Enacting code -/

inductive Enacts {σ : Type} (code : Code) : {p : Part} → {α : Type} → Routine σ p α → Prop
  | pure {p : Part} {α : Type} (a : α) : Enacts code (pure a : Routine σ p α)
  | bind {p : Part} {α β : Type} {x : Routine σ p α} {f : α → Routine σ p β} (hx : Enacts code x)
    (hf : ∀ a, x.Gives a → Enacts code (f a)) : Enacts code (x >>= f)
  | exhausted {p : Part} {α : Type} : Enacts code (exhausted : Routine σ p α)
  | scope {p : Part} : Enacts code (read (·.scope) : Routine σ p ScopeId)
  | receiver {p : Part} : Enacts code (read (·.receiver) : Routine σ p Ref)
  | look {p : Part} {α : Type} (f : Store → α) :
    Enacts code (read fun m => f m.store : Routine σ p α)
  | effect {p : Part} {α : Type} {f : Store.Effect α} (inert : Store.Inert f) :
    Enacts code (onStore f : Routine σ p α)
  | declare (x : String) (value : Ref) (isMutable : Bool) :
    Enacts code (declare x value isMutable : Routine σ .body Unit)
  | assignName {span : Span} (place : code.Place span) (x : String) (value : Ref) :
    Enacts code (assignName span x value : Routine σ .body Unit)
  | operation {span : Span} (place : code.Place span) (op : BinaryOp) (a b : Ref) :
    Enacts code (operation span op a b : Routine σ .body Ref)
  | lambda {span : Span} {params : List Param} {body : List Stmt} {yields : Bool}
    (has : code.has (.expr (.lambda span params body yields))) :
    Enacts code (lambda params body yields : Routine σ .body Ref)
  | function {span : Span} {x : String} {params : List Param} {body : List Stmt}
    (has : code.has (.stmt (.fnDecl span x params body))) :
    Enacts code (closure (some x) params body false none : Routine σ .body Ref)
  | raise {α : Type} (fault : Fault) : Enacts code (raise fault : Routine σ .call α)
  | raiseAt {α : Type} {span : Span} (place : code.Place span) (fault : Fault) :
    Enacts code (raiseAt span fault : Routine σ .body α)
  | inNewScope {α : Type} {x : Routine σ .body α} (hx : Enacts code x) :
    Enacts code (inNewScope x)
  | inArm {α : Type} (bound : List (String × Ref)) {x : Routine σ .body α} (hx : Enacts code x) :
    Enacts code (inArm bound x)
  | atCall {α : Type} {span : Span} {callee : Expr} {args : List Expr}
    (has : code.has (.expr (.call span callee args))) {x : Routine σ .call α}
    (hx : Enacts code x) : Enacts code (atCall span x)
  /-- Code provides no receiver. -/
  | call (f : Ref) (args : List Ref) : Enacts code (Routine.call f none args : Routine σ .call Ref)
  | write (level : Level) (payload : List Ref) :
    Enacts code (write level payload : Routine σ .call Unit)

namespace Enacts

variable {code : Code}

theorem map {x : Routine σ p α} (f : α → β) (hx : x.Enacts code) : (f <$> x).Enacts code :=
  hx.bind fun _ _ => .pure _

theorem cell (r : Ref) : (cell r : Routine σ p Cell).Enacts code :=
  .look (·.cell r)

theorem alloc {c : Cell} (hc : c.Codeless) : (alloc c : Routine σ p Ref).Enacts code :=
  .effect (Store.inert_alloc hc)

theorem nothing : (Routine.alloc .none : Routine σ p Ref).Enacts code :=
  alloc (by simp [Cell.Codeless])

theorem truthy (r : Ref) : (truthy r : Routine σ p Bool).Enacts code :=
  (cell r).bind fun _ _ => .pure _

theorem check (f : Store → Except Fault α) : (check f : Routine σ .call α).Enacts code := by
  refine (look f).bind fun found _ => ?_
  cases found with
  | ok a => exact .pure a
  | error fault => exact .raise fault

theorem checkAt {place : Fault → Span} (places : ∀ fault, code.Place (place fault))
    (f : Store → Except Fault α) : (checkAt place f : Routine σ .body α).Enacts code := by
  refine (look f).bind fun found _ => ?_
  cases found with
  | ok a => exact .pure a
  | error fault => exact .raiseAt (places fault) fault

theorem attempt {f : Store → Except Fault (Store.Effect α)}
    (inert : ∀ s, Passes Store.Inert (f s)) : (attempt f : Routine σ .call α).Enacts code := by
  refine (check f).bind fun effect gives => ?_
  obtain ⟨s, found⟩ := gives.of_check
  exact .effect (found ▸ inert s).holds

theorem attemptAt {place : Fault → Span} (places : ∀ fault, code.Place (place fault))
    {f : Store → Except Fault (Store.Effect α)} (inert : ∀ s, Passes Store.Inert (f s)) :
    (attemptAt place f : Routine σ .body α).Enacts code := by
  refine (checkAt places f).bind fun effect gives => ?_
  obtain ⟨s, found⟩ := gives.of_checkAt
  exact .effect (found ▸ inert s).holds

theorem operator {span : Span} (place : code.Place span) {f : Store → Except Fault Cell}
    (codeless : ∀ s, Passes Cell.Codeless (f s)) :
    (operator span f : Routine σ .body Ref).Enacts code := by
  refine (checkAt (fun _ => place) f).bind fun c gives => ?_
  obtain ⟨s, found⟩ := gives.of_checkAt
  exact alloc (found ▸ codeless s).holds

end Enacts

/-! ## Evaluation -/

/-- On some fuel the evaluator enacts the code that it is given. -/
structure Enacting (σ : Type) (code : Code) (fuel : Nat) : Prop where
  evaluate : ∀ e, code.has (.expr e) → (evaluate fuel e : Routine σ .body Ref).Enacts code
  evaluateAll : ∀ es, (∀ e ∈ es, code.has (.expr e)) →
    (evaluateAll fuel es : Routine σ .body _).Enacts code
  evaluateEntries : ∀ done es, (∀ e ∈ es, code.has (.expr e.1) ∧ code.has (.expr e.2)) →
    (evaluateEntries fuel done es : Routine σ .body _).Enacts code
  assign : ∀ target value, code.has (.expr target) →
    (assign fuel target value : Routine σ .body Unit).Enacts code
  sequence : ∀ body last, (∀ s ∈ body, code.has (.stmt s)) →
    (sequence fuel body last : Routine σ .body _).Enacts code
  block : ∀ body, (∀ s ∈ body, code.has (.stmt s)) →
    (block fuel body : Routine σ .body Flow).Enacts code
  execute : ∀ s, code.has (.stmt s) → (execute fuel s : Routine σ .body Flow).Enacts code
  whileLoop : ∀ condition body, code.has (.expr condition) → (∀ s ∈ body, code.has (.stmt s)) →
    (whileLoop fuel condition body : Routine σ .body Flow).Enacts code
  loop : ∀ body, (∀ s ∈ body, code.has (.stmt s)) →
    (loop fuel body : Routine σ .body Flow).Enacts code
  forLoop : ∀ x body items, (∀ s ∈ body, code.has (.stmt s)) →
    (forLoop fuel x body items : Routine σ .body Flow).Enacts code

namespace Enacting

variable {code : Code} {fuel : Nat}

theorem evaluate_step (ih : Enacting σ code fuel) (e : Expr) (has : code.has (.expr e)) :
    (Routine.evaluate (fuel + 1) e : Routine σ .body Ref).Enacts code := by
  have place : code.Place e.span := Code.place_expr has
  have part {t : Expr} (evaluated : (Node.expr e).makesFunction = false)
      (mem : .expr t ∈ e.children) : code.has (.expr t) := Code.expr_below has evaluated mem
  unfold Routine.evaluate
  cases e with
  | literal span value => exact .alloc (Store.codeless_ofLiteral value)
  | name span x => exact Enacts.scope.bind fun _ _ => .checkAt (fun _ => place) _
  | this span => exact .receiver
  | binary span op left right =>
    have first := part rfl (t := left) (by simp [Expr.children])
    have second := part rfl (t := right) (by simp [Expr.children])
    exact (ih.evaluate left first).bind fun a _ => (ih.evaluate right second).bind fun b _ =>
      .operation place op a b
  | logical span op left right =>
    have first := part rfl (t := left) (by simp [Expr.children])
    have second := part rfl (t := right) (by simp [Expr.children])
    refine (ih.evaluate left first).bind fun a _ => (Enacts.cell a).bind fun c _ => ?_
    split
    · exact .pure a
    · exact ih.evaluate right second
  | unary span op operand =>
    have inner := part rfl (t := operand) (by simp [Expr.children])
    exact (ih.evaluate operand inner).bind fun a _ => .operator place fun s => s.codeless_unary op a
  | assign span target value =>
    have first := part rfl (t := target) (by simp [Expr.children])
    have second := part rfl (t := value) (by simp [Expr.children])
    exact (ih.evaluate value second).bind fun r _ => (ih.assign target r first).bind fun _ _ =>
      .pure r
  | call span callee args =>
    have first := part rfl (t := callee) (by simp [Expr.children])
    have others : ∀ e ∈ args, code.has (.expr e) := fun e mem =>
      part rfl (by simp [Expr.children, mem])
    exact (ih.evaluate callee first).bind fun f _ => (ih.evaluateAll args others).bind fun rs _ =>
      .atCall has (.call f rs)
  | array span items =>
    have all : ∀ e ∈ items, code.has (.expr e) := fun e mem =>
      part rfl (by simp [Expr.children, mem])
    exact (ih.evaluateAll items all).bind fun rs _ => .alloc (by simp [Cell.Codeless])
  | map span entries =>
    have all : ∀ e ∈ entries, code.has (.expr e.1) ∧ code.has (.expr e.2) := fun e mem =>
      ⟨part rfl (List.mem_append_left _ (List.mem_map_of_mem mem)),
        part rfl (List.mem_append_right _ (List.mem_map_of_mem mem))⟩
    exact (ih.evaluateEntries .empty entries all).bind fun es _ => .alloc (by simp [Cell.Codeless])
  | group span inner => exact ih.evaluate inner (part rfl (by simp [Expr.children]))
  | index span target position =>
    have first := part rfl (t := target) (by simp [Expr.children])
    have second := part rfl (t := position) (by simp [Expr.children])
    exact (ih.evaluate target first).bind fun a _ => (ih.evaluate position second).bind fun b _ =>
      .attemptAt (fun _ => place) fun s => s.inert_element a b
  | field span target x =>
    have first := part rfl (t := target) (by simp [Expr.children])
    exact (ih.evaluate target first).bind fun a _ => .checkAt (fun _ => place) _
  | lambda span params body yields => exact .lambda has

theorem evaluateAll_step (ih : Enacting σ code fuel) (es : List Expr)
    (has : ∀ e ∈ es, code.has (.expr e)) :
    (Routine.evaluateAll (fuel + 1) es : Routine σ .body _).Enacts code := by
  unfold Routine.evaluateAll
  cases es with
  | nil => exact .pure []
  | cons e es =>
    rw [List.forall_mem_cons] at has
    exact (ih.evaluate e has.1).bind fun r _ => (ih.evaluateAll es has.2).bind fun rs _ =>
      .pure (r :: rs)

theorem evaluateEntries_step (ih : Enacting σ code fuel) (done : Dict Ref)
    (es : List (Expr × Expr)) (has : ∀ e ∈ es, code.has (.expr e.1) ∧ code.has (.expr e.2)) :
    (Routine.evaluateEntries (fuel + 1) done es : Routine σ .body _).Enacts code := by
  unfold Routine.evaluateEntries
  cases es with
  | nil => exact .pure done
  | cons e es =>
    rw [List.forall_mem_cons] at has
    refine (ih.evaluate e.1 has.1.1).bind fun k _ => ?_
    refine (Enacts.checkAt (fun _ => Code.place_expr has.1.1) _).bind fun text _ => ?_
    exact (ih.evaluate e.2 has.1.2).bind fun r _ => ih.evaluateEntries _ es has.2

theorem assign_step (ih : Enacting σ code fuel) (target : Expr) (value : Ref)
    (has : code.has (.expr target)) :
    (Routine.assign (fuel + 1) target value : Routine σ .body Unit).Enacts code := by
  have place : code.Place target.span := Code.place_expr has
  have part {e : Expr} (evaluated : (Node.expr target).makesFunction = false)
      (mem : .expr e ∈ target.children) : code.has (.expr e) := Code.expr_below has evaluated mem
  unfold Routine.assign
  cases target with
  | name span x => exact .assignName place x value
  | field span owner x =>
    have first := part rfl (e := owner) (by simp [Expr.children])
    exact (ih.evaluate owner first).bind fun a _ =>
      .attemptAt (fun _ => place) fun s => s.inert_assignField a x value
  | index span owner position =>
    have first := part rfl (e := owner) (by simp [Expr.children])
    have second := part rfl (e := position) (by simp [Expr.children])
    refine (ih.evaluate owner first).bind fun a _ =>
      (ih.evaluate position second).bind fun b _ => ?_
    refine .attemptAt (fun fault => ?_) fun s => s.inert_assignElement a b value
    unfold elementPlace
    split
    · exact Code.place_expr second
    · exact place
  | _ => exact .raiseAt place .invalidTarget

theorem sequence_step (ih : Enacting σ code fuel) (body : List Stmt) (last : Flow)
    (has : ∀ s ∈ body, code.has (.stmt s)) :
    (Routine.sequence (fuel + 1) body last : Routine σ .body _).Enacts code := by
  unfold Routine.sequence
  cases body with
  | nil => exact .pure _
  | cons first body =>
    rw [List.forall_mem_cons] at has
    refine (ih.execute first has.1).bind fun flow _ => ?_
    cases flow with
    | next => exact ih.sequence body last has.2
    | value r => exact ih.sequence body _ has.2
    | _ => exact .pure _

theorem block_step (ih : Enacting σ code fuel) (body : List Stmt)
    (has : ∀ s ∈ body, code.has (.stmt s)) :
    (Routine.block (fuel + 1) body : Routine σ .body Flow).Enacts code :=
  .inNewScope ((ih.sequence body .next has).map _)

theorem execute_step (ih : Enacting σ code fuel) (s : Stmt) (has : code.has (.stmt s)) :
    (Routine.execute (fuel + 1) s : Routine σ .body Flow).Enacts code := by
  have expr {e : Expr} (executed : (Node.stmt s).makesFunction = false)
      (mem : .expr e ∈ s.children) : code.has (.expr e) := Code.stmt_below has executed mem
  have stmts {body : List Stmt} (executed : (Node.stmt s).makesFunction = false)
      (mem : ∀ t ∈ body, .stmt t ∈ s.children) : ∀ t ∈ body, code.has (.stmt t) :=
    fun t inside => Code.stmt_below has executed (mem t inside)
  unfold Routine.execute
  cases s with
  | varDecl span x initial =>
    have rest (r : Ref) : (do
        Routine.declare x r true
        pure .next : Routine σ .body Flow).Enacts code :=
      (Enacts.declare ..).bind fun _ _ => .pure _
    cases initial with
    | none => exact Enacts.nothing.bind fun r _ => rest r
    | some e =>
      have initial := expr rfl (e := e) (by simp [Stmt.children])
      exact (ih.evaluate e initial).bind fun r _ => rest r
  | constDecl span x e =>
    have initial := expr rfl (e := e) (by simp [Stmt.children])
    exact (ih.evaluate e initial).bind fun r _ => (Enacts.declare ..).bind fun _ _ => .pure _
  | fnDecl span x params body =>
    exact (Enacts.function has).bind fun r _ => (Enacts.declare ..).bind fun _ _ => .pure _
  | expr span e => exact (ih.evaluate e (expr rfl (by simp [Stmt.children]))).map _
  | block span body => exact ih.block body (stmts rfl (by simp [Stmt.children]))
  | ifElse span condition yes no =>
    have asked := expr rfl (e := condition) (by simp [Stmt.children])
    refine (ih.evaluate condition asked).bind fun r _ => (Enacts.truthy r).bind fun holds _ => ?_
    split
    · exact ih.block yes (stmts rfl fun t mem => by simp [Stmt.children, mem])
    · cases no with
      | none => exact .pure _
      | some body => exact ih.block body (stmts rfl fun t mem => by simp [Stmt.children, mem])
  | whileLoop span condition body =>
    have asked := expr rfl (e := condition) (by simp [Stmt.children])
    exact ih.whileLoop condition body asked (stmts rfl (by simp [Stmt.children]))
  | loop span body => exact ih.loop body (stmts rfl (by simp [Stmt.children]))
  | forLoop span x iterable body =>
    have asked := expr rfl (e := iterable) (by simp [Stmt.children])
    refine (ih.evaluate iterable asked).bind fun r _ => ?_
    refine (Enacts.attemptAt (fun _ => Code.place_expr asked) fun s => s.inert_iterate r).bind
      fun items _ => ?_
    exact ih.forLoop x body items (stmts rfl (by simp [Stmt.children]))
  | when span subject arms =>
    have asked := expr rfl (e := subject) (by simp [Stmt.children])
    refine (ih.evaluate subject asked).bind fun r _ =>
      (Enacts.look (Run.firstMatch? · r arms)).bind fun found gives => ?_
    cases found with
    | none => exact .pure _
    | some hit =>
      obtain ⟨m, matched⟩ := gives.of_read
      obtain ⟨arm, mem, same⟩ := Run.exists_arm matched
      have chosen : code.has (.arm arm) := Code.stmt_below has rfl (by simp [Stmt.children, mem])
      refine .inArm hit.1 (ih.block hit.2 fun t inside => ?_)
      rw [← same] at inside
      cases arm with
      | mk place pattern body => exact code.below chosen rfl (List.mem_map_of_mem inside)
  | «return» span value =>
    cases value with
    | none => exact Enacts.nothing.bind fun r _ => .pure _
    | some e =>
      exact (ih.evaluate e (expr rfl (by simp [Stmt.children]))).bind fun r _ => .pure _
  | «break» span value =>
    cases value with
    | none => exact .pure _
    | some e => exact (ih.evaluate e (expr rfl (by simp [Stmt.children]))).map _
  | «continue» span => exact .pure _

theorem whileLoop_step (ih : Enacting σ code fuel) (condition : Expr) (body : List Stmt)
    (asked : code.has (.expr condition)) (has : ∀ s ∈ body, code.has (.stmt s)) :
    (Routine.whileLoop (fuel + 1) condition body : Routine σ .body Flow).Enacts code := by
  unfold Routine.whileLoop
  refine (ih.evaluate condition asked).bind fun r _ => (Enacts.truthy r).bind fun holds _ => ?_
  split
  · refine (ih.block body has).bind fun flow _ => ?_
    cases flow.afterRound with
    | none => exact ih.whileLoop condition body asked has
    | some left => exact .pure left
  · exact .pure _

theorem loop_step (ih : Enacting σ code fuel) (body : List Stmt)
    (has : ∀ s ∈ body, code.has (.stmt s)) :
    (Routine.loop (fuel + 1) body : Routine σ .body Flow).Enacts code := by
  unfold Routine.loop
  refine (ih.block body has).bind fun flow _ => ?_
  cases flow.afterRound with
  | none => exact ih.loop body has
  | some left => exact .pure left

theorem forLoop_step (ih : Enacting σ code fuel) (x : String) (body : List Stmt) (items : List Ref)
    (has : ∀ s ∈ body, code.has (.stmt s)) :
    (Routine.forLoop (fuel + 1) x body items : Routine σ .body Flow).Enacts code := by
  unfold Routine.forLoop
  cases items with
  | nil => exact .pure _
  | cons item items =>
    have round : (Routine.inNewScope (do
        Routine.declare x item true
        Routine.block fuel body) : Routine σ .body Flow).Enacts code :=
      .inNewScope ((Enacts.declare ..).bind fun _ _ => ih.block body has)
    refine round.bind fun flow _ => ?_
    cases flow.afterRound with
    | none => exact ih.forLoop x body items has
    | some left => exact .pure left

end Enacting

theorem enacting (σ : Type) (code : Code) (fuel : Nat) : Enacting σ code fuel := by
  induction fuel with
  | zero => constructor <;> intros <;> exact .exhausted
  | succ fuel ih =>
    exact ⟨ih.evaluate_step, ih.evaluateAll_step, ih.evaluateEntries_step, ih.assign_step,
      ih.sequence_step, ih.block_step, ih.execute_step, ih.whileLoop_step, ih.loop_step,
      ih.forLoop_step⟩

/-! ## Calls -/

/-- Calls what has been looked up. -/
def apply (fuel : Nat) (f : Ref) (receiver : Option Ref) (args : List Ref) :
    Cell → Routine σ .call Ref
  | .native (.plain op) => attempt (op.run args)
  | .native (.traversal op) => traverse op args
  | .native (.console level) => do
    write level args
    alloc .none
  | .closure c => activation f c (readyBody c receiver args) (functionBody fuel c)
  | c => raise (.notCallable c.kind)

theorem activate_eq (fuel : Nat) (f : Ref) (receiver : Option Ref) (args : List Ref) :
    (activate fuel f receiver args : Routine σ .call Ref) =
      cell f >>= apply fuel f receiver args :=
  rfl

/-- A loop is left, or gone on with, by one of the statements that ran. -/
theorem span_of_sequence {fuel : Nat} {body : List Stmt} {last : Flow} {left : Flow × Span}
    (stays : last.turnsLoop = false)
    (h : (sequence fuel body last : Routine σ .body _).Gives left)
    (turns : left.1.turnsLoop = true) : ∃ s ∈ body, s.span = left.2 := by
  induction fuel generalizing body last with
  | zero =>
    obtain ⟨out, call, m, m', run⟩ := h
    cases run
  | succ fuel ih =>
    unfold sequence at h
    cases body with
    | nil =>
      obtain rfl := h.of_pure
      exact absurd turns (by simp [stays])
    | cons first body =>
      have later : (∃ s ∈ body, s.span = left.2) → ∃ s ∈ first :: body, s.span = left.2 := by
        rintro ⟨s, mem, same⟩
        exact ⟨s, List.mem_cons_of_mem _ mem, same⟩
      obtain ⟨flow, -, rest⟩ := h.of_bind
      cases flow with
      | next => exact later (ih stays rest)
      | value r => exact later (ih rfl rest)
      | «return» r =>
        obtain rfl := rest.of_pure
        cases turns
      | «break» r =>
        obtain rfl := rest.of_pure
        exact ⟨first, List.mem_cons_self, rfl⟩
      | «continue» =>
        obtain rfl := rest.of_pure
        exact ⟨first, List.mem_cons_self, rfl⟩

namespace Enacts

variable {code : Code}

theorem functionBody (fuel : Nat) (c : Closure) (has : ∀ s ∈ c.body, code.has (.stmt s)) :
    (functionBody fuel c : Routine σ .body Ref).Enacts code := by
  refine ((enacting σ code fuel).sequence c.body .next has).bind fun left gives => ?_
  have turns := span_of_sequence rfl gives
  unfold Routine.bodyResult
  split
  · exact nothing
  · split
    · exact .pure _
    · exact nothing
  · exact .pure _
  all_goals
    obtain ⟨s, mem, rfl⟩ := turns rfl
    exact .raiseAt (Code.place_stmt (has s mem)) _

theorem programBody (fuel : Nat) (p : Program) (has : ∀ s ∈ p.body, code.has (.stmt s)) :
    (programBody fuel p : Routine σ .body Ref).Enacts code := by
  refine ((enacting σ code fuel).sequence p.body .next has).bind fun left gives => ?_
  have turns := span_of_sequence rfl gives
  unfold Routine.sourceResult
  split
  · exact nothing
  · exact .pure _
  · exact .pure _
  all_goals
    obtain ⟨s, mem, rfl⟩ := turns rfl
    exact .raiseAt (Code.place_stmt (has s mem)) _

theorem mapItems (f : Ref) (index : Nat) (items : List Ref) :
    (mapItems f index items : Routine σ .call _).Enacts code := by
  induction items generalizing index with
  | nil => exact .pure []
  | cons item items ih =>
    refine (alloc (by simp [Cell.Codeless])).bind fun i _ => (call ..).bind fun r _ => ?_
    exact (ih (index + 1)).bind fun rs _ => .pure _

theorem filterItems (f : Ref) (index : Nat) (items : List Ref) :
    (filterItems f index items : Routine σ .call _).Enacts code := by
  induction items generalizing index with
  | nil => exact .pure []
  | cons item items ih =>
    refine (alloc (by simp [Cell.Codeless])).bind fun i _ => (call ..).bind fun verdict _ => ?_
    exact (truthy verdict).bind fun keep _ => (ih (index + 1)).bind fun rs _ => .pure _

theorem reduceItems (f : Ref) (index : Nat) (total : Ref) (items : List Ref) :
    (reduceItems f index total items : Routine σ .call _).Enacts code := by
  induction items generalizing index total with
  | nil => exact .pure total
  | cons item items ih =>
    refine (alloc (by simp [Cell.Codeless])).bind fun i _ => (call ..).bind fun r _ => ?_
    exact ih (index + 1) r

theorem findItem (f : Ref) (index : Nat) (items : List Ref) :
    (findItem f index items : Routine σ .call _).Enacts code := by
  induction items generalizing index with
  | nil => exact .pure none
  | cons item items ih =>
    refine (alloc (by simp [Cell.Codeless])).bind fun i _ => (call ..).bind fun verdict _ => ?_
    refine (truthy verdict).bind fun found _ => ?_
    cases found
    · exact ih (index + 1)
    · exact .pure _

theorem insertItem (f item : Ref) (items : List Ref) :
    (insertItem f item items : Routine σ .call _).Enacts code := by
  induction items with
  | nil => exact .pure _
  | cons last before ih =>
    refine (call ..).bind fun verdict _ => (check _).bind fun order _ => ?_
    split
    · exact .pure _
    · exact ih.bind fun rest _ => .pure _

theorem sortItems (f : Ref) (sorted items : List Ref) :
    (sortItems f sorted items : Routine σ .call _).Enacts code := by
  induction items generalizing sorted with
  | nil => exact .pure sorted
  | cons item items ih => exact (insertItem f item sorted).bind fun sorted _ => ih sorted

theorem traverse (op : Traversal) (args : List Ref) :
    (traverse op args : Routine σ .call Ref).Enacts code := by
  unfold Routine.traverse
  split
  · exact (check _).bind fun items _ => (mapItems ..).bind fun rs _ =>
      alloc (by simp [Cell.Codeless])
  · exact (check _).bind fun items _ => (filterItems ..).bind fun rs _ =>
      alloc (by simp [Cell.Codeless])
  · exact (check _).bind fun items _ => reduceItems ..
  · refine (check _).bind fun items _ => (findItem ..).bind fun found _ => ?_
    cases found with
    | none => exact nothing
    | some r => exact .pure r
  · refine (cell _).bind fun c _ => ?_
    cases c with
    | array items =>
      exact (sortItems ..).bind fun sorted _ => .effect (Store.inert_modifyArray ..)
    | _ => exact .raise _
  · exact .raise _

/-- What is not a function of a script enacts no code when it is called. -/
theorem apply {c : Cell} (codeless : c.Codeless) (fuel : Nat) (f : Ref) (receiver : Option Ref)
    (args : List Ref) : (apply fuel f receiver args c : Routine σ .call Ref).Enacts code := by
  cases c with
  | native native =>
    cases native with
    | plain op => exact attempt fun s => Plain.inert_run s op args
    | traversal op => exact traverse op args
    | console level => exact (write level args).bind fun _ _ => nothing
  | closure c => exact absurd rfl (codeless c)
  | _ => exact .raise _

end Enacts

end Routine

end LayerScript
