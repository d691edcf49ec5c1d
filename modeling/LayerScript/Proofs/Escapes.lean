import LayerScript.Proofs.Programs.Placing
import LayerScript.Proofs.Routines.Code

/-!
# What escapes a body

A `return` leaves the function around it, and a `break` or `continue` belongs to the nearest loop.
Whether one of them gets out of a body can be read off the body, before anything runs: the flow that
a run of the body gives comes from a statement in it.
-/

namespace LayerScript

/-- The ways to leave what is around a statement: a loop ends or goes on to its next turn, or a
function returns. -/
inductive Exit where
  | turn
  | return
deriving DecidableEq

def Flow.exit? : Flow → Option Exit
  | .next | .value _ => none
  | .break _ | .continue => some .turn
  | .return _ => some .return

namespace Exit

mutual

/-- Whether an exit gets out of a statement. Loops keep their turns, and functions keep all that is
in them. Other functions are in expressions, and nothing gets out of these. -/
def escapes (e : Exit) : Stmt → Bool
  | .varDecl .. | .constDecl .. | .fnDecl .. | .expr .. => false
  | .block _ body => e.escapesBody body
  | .ifElse _ _ yes none => e.escapesBody yes
  | .ifElse _ _ yes (some no) => e.escapesBody yes || e.escapesBody no
  | .whileLoop _ _ body | .loop _ body | .forLoop _ _ _ body => e = .return && e.escapesBody body
  | .when _ _ arms => e.escapesArms arms
  | .return .. => e = .return
  | .break .. | .continue _ => e = .turn

def escapesBody (e : Exit) : List Stmt → Bool
  | [] => false
  | s :: body => e.escapes s || e.escapesBody body

def escapesArms (e : Exit) : List Arm → Bool
  | [] => false
  | .mk _ _ body :: arms => e.escapesBody body || e.escapesArms arms

end

variable {e : Exit}

theorem escapesArms_of_mem {arm : Arm} {arms : List Arm} (mem : arm ∈ arms)
    (h : e.escapesBody arm.body = true) : e.escapesArms arms = true := by
  induction arms with
  | nil => exact absurd mem List.not_mem_nil
  | cons first arms ih =>
    obtain ⟨span, pattern, body⟩ := first
    rw [escapesArms, Bool.or_eq_true]
    rcases List.mem_cons.1 mem with rfl | mem
    · exact .inl h
    · exact .inr (ih mem)

/-! ## Moved code -/

mutual

theorem escapes_shift (e : Exit) (bytes : Nat) (s : Stmt) :
    e.escapes (s.shift bytes) = e.escapes s := by
  match s with
  | .varDecl _ _ none | .varDecl _ _ (some _) | .constDecl .. | .fnDecl .. | .expr .. => rfl
  | .block _ body | .whileLoop _ _ body | .loop _ body | .forLoop _ _ _ body
  | .ifElse _ _ body none => simp [Stmt.shift, escapes, escapesBody_shiftAll e bytes body]
  | .ifElse _ _ yes (some no) =>
    simp [Stmt.shift, escapes, escapesBody_shiftAll e bytes yes, escapesBody_shiftAll e bytes no]
  | .when _ _ arms => simp [Stmt.shift, escapes, escapesArms_shiftAll e bytes arms]
  | .return _ none | .return _ (some _) | .break _ none | .break _ (some _) | .continue _ => rfl

theorem escapesBody_shiftAll (e : Exit) (bytes : Nat) (body : List Stmt) :
    e.escapesBody (Stmt.shiftAll bytes body) = e.escapesBody body := by
  match body with
  | [] => rfl
  | s :: body =>
    simp [Stmt.shiftAll, escapesBody, escapes_shift e bytes s, escapesBody_shiftAll e bytes body]

theorem escapesArms_shiftAll (e : Exit) (bytes : Nat) (arms : List Arm) :
    e.escapesArms (Arm.shiftAll bytes arms) = e.escapesArms arms := by
  match arms with
  | [] => rfl
  | .mk _ _ body :: arms =>
    simp [Arm.shiftAll, Arm.shift, escapesArms, escapesBody_shiftAll e bytes body,
      escapesArms_shiftAll e bytes arms]

end

end Exit

/-! ## Flows -/

namespace Flow

variable {flow left : Flow} {s : Stmt} {body : List Stmt} {P Q : Exit → Prop}

/-- If a flow leaves what is around it, the way is as `P` says. -/
def Exits (P : Exit → Prop) (flow : Flow) : Prop :=
  ∀ e, flow.exit? = some e → P e

theorem Exits.stays (h : flow.exit? = none) : flow.Exits P :=
  fun e leaves => absurd leaves (by simp [h])

theorem Exits.leaves {e : Exit} (h : flow.exit? = some e) (way : P e) : flow.Exits P :=
  fun _ leaves => Option.some.inj (h.symm.trans leaves) ▸ way

theorem Exits.imp (h : flow.Exits P) (imp : ∀ e, P e → Q e) : flow.Exits Q :=
  fun e leaves => imp e (h e leaves)

/-- The flow of a body leaves it only as something in the body does. -/
def Of (body : List Stmt) : Flow → Prop :=
  Exits fun e => e.escapesBody body = true

/-- The flow of a statement. -/
def OfStmt (s : Stmt) : Flow → Prop :=
  Exits fun e => e.escapes s = true

/-- The flow of a loop, which is left only by a return in its body. -/
def OfLoop (body : List Stmt) : Flow → Prop :=
  Exits fun e => e = .return ∧ e.escapesBody body = true

theorem OfStmt.first (h : flow.OfStmt s) : flow.Of (s :: body) :=
  Exits.imp h fun e own => by simp [Exit.escapesBody, own]

theorem Of.later (h : flow.Of body) : flow.Of (s :: body) :=
  Exits.imp h fun e own => by simp [Exit.escapesBody, own]

/-- A loop takes the turns of its body. -/
theorem Of.afterRound (h : flow.Of body) (ends : flow.afterRound = some left) :
    left.OfLoop body := by
  cases flow with
  | next | value | «continue» => cases ends
  | «break» r => cases r <;> cases ends <;> exact .stays rfl
  | «return» r =>
    cases ends
    exact .leaves rfl ⟨rfl, h .return rfl⟩

end Flow

/-! ## Evaluation -/

namespace Routine

variable {σ α β : Type} {p : Part} {P : α → Prop}

/-- Whatever a run of the routine gives is as `P` says. -/
def GivesOnly (P : α → Prop) (x : Routine σ p α) : Prop :=
  ∀ a, x.Gives a → P a

namespace GivesOnly

theorem pure {a : α} (h : P a) : (pure a : Routine σ p α).GivesOnly P :=
  fun _ gives => gives.of_pure ▸ h

theorem bind {Q : β → Prop} {x : Routine σ p α} {f : α → Routine σ p β}
    (h : ∀ a, x.Gives a → (f a).GivesOnly Q) : (x >>= f).GivesOnly Q := by
  intro b gives
  obtain ⟨a, first, next⟩ := gives.of_bind
  exact h a first b next

theorem map {Q : β → Prop} {x : Routine σ p α} {f : α → β} (h : x.GivesOnly (Q ∘ f)) :
    (f <$> x).GivesOnly Q :=
  .bind fun a gives => .pure (h a gives)

theorem exhausted : (exhausted : Routine σ p α).GivesOnly P := by
  rintro a ⟨out, call, m, m', run⟩
  cases run

theorem inScope {scope : ScopeId} {x : Routine σ .body α} (h : x.GivesOnly P) :
    (inScope scope x).GivesOnly P := by
  rintro a ⟨out, call, m, m', run⟩
  simp only [Routine.run, Run.inScope] at run
  cases inner : x.run out call { m with scope := scope } with
  | done b m₁ =>
    rw [inner] at run
    cases run
    exact h a ⟨out, call, _, _, inner⟩
  | failed d m₁ =>
    rw [inner] at run
    cases run
  | exhausted =>
    rw [inner] at run
    cases run

theorem inNewScope {x : Routine σ .body α} (h : x.GivesOnly P) : (inNewScope x).GivesOnly P :=
  .bind fun _ _ => .bind fun _ _ => .inScope h

end GivesOnly

/-- On some fuel the flows of statements come from them. -/
structure Flowing (σ : Type) (fuel : Nat) : Prop where
  sequence : ∀ body last, last.exit? = none →
    (sequence fuel body last : Routine σ .body _).GivesOnly (·.1.Of body)
  block : ∀ body, (block fuel body : Routine σ .body Flow).GivesOnly (·.Of body)
  execute : ∀ s, (execute fuel s : Routine σ .body Flow).GivesOnly (·.OfStmt s)
  whileLoop : ∀ condition body,
    (whileLoop fuel condition body : Routine σ .body Flow).GivesOnly (·.OfLoop body)
  loop : ∀ body, (loop fuel body : Routine σ .body Flow).GivesOnly (·.OfLoop body)
  forLoop : ∀ x body items,
    (forLoop fuel x body items : Routine σ .body Flow).GivesOnly (·.OfLoop body)

namespace Flowing

variable {fuel : Nat}

theorem sequence_step (ih : Flowing σ fuel) (body : List Stmt) (last : Flow)
    (stays : last.exit? = none) :
    (Routine.sequence (fuel + 1) body last : Routine σ .body _).GivesOnly (·.1.Of body) := by
  unfold Routine.sequence
  cases body with
  | nil => exact .pure (.stays stays)
  | cons first body =>
    refine .bind fun flow gives => ?_
    have own : flow.OfStmt first := ih.execute first flow gives
    have rest (last : Flow) (stays : last.exit? = none) :
        (Routine.sequence fuel body last : Routine σ .body _).GivesOnly (·.1.Of (first :: body)) :=
      fun left gives => (ih.sequence body last stays left gives).later
    cases flow with
    | next => exact rest last stays
    | value r => exact rest (.value r) rfl
    | _ => exact .pure own.first

theorem block_step (ih : Flowing σ fuel) (body : List Stmt) :
    (Routine.block (fuel + 1) body : Routine σ .body Flow).GivesOnly (·.Of body) :=
  .inNewScope (.map (ih.sequence body .next rfl))

theorem execute_step (ih : Flowing σ fuel) (s : Stmt) :
    (Routine.execute (fuel + 1) s : Routine σ .body Flow).GivesOnly (·.OfStmt s) := by
  unfold Routine.execute
  cases s with
  | varDecl span x initial =>
    cases initial <;> exact .bind fun r _ => .bind fun _ _ => .pure (.stays rfl)
  | constDecl span x e => exact .bind fun r _ => .bind fun _ _ => .pure (.stays rfl)
  | fnDecl span x params body => exact .bind fun r _ => .bind fun _ _ => .pure (.stays rfl)
  | expr span e => exact .map fun r _ => .stays rfl
  | block span body => exact ih.block body
  | ifElse span condition yes no =>
    refine .bind fun r _ => .bind fun holds _ => ?_
    split
    · refine fun flow gives => (ih.block yes flow gives).imp fun e own => ?_
      cases no <;> simp [Exit.escapes, own]
    · cases no with
      | none => exact .pure (.stays rfl)
      | some body =>
        exact fun flow gives => (ih.block body flow gives).imp fun e own => by
          simp [Exit.escapes, own]
  | whileLoop span condition body =>
    exact fun flow gives => (ih.whileLoop condition body flow gives).imp fun e own => by
      simpa [Exit.escapes] using own
  | loop span body =>
    exact fun flow gives => (ih.loop body flow gives).imp fun e own => by
      simpa [Exit.escapes] using own
  | forLoop span x iterable body =>
    refine .bind fun r _ => .bind fun items _ flow gives => ?_
    exact (ih.forLoop x body items flow gives).imp fun e own => by
      simpa [Exit.escapes] using own
  | when span subject arms =>
    refine .bind fun r _ => .bind fun found gives => ?_
    cases found with
    | none => exact .pure (.stays rfl)
    | some hit =>
      obtain ⟨m, matched⟩ := gives.of_read
      obtain ⟨arm, mem, same⟩ := Run.exists_arm matched
      refine .inNewScope (.bind fun scope _ => .bind fun _ _ flow gives => ?_)
      exact (ih.block hit.2 flow gives).imp fun e own => Exit.escapesArms_of_mem mem (same ▸ own)
  | «return» span value => cases value <;> exact .bind fun r _ => .pure (.leaves rfl rfl)
  | «break» span value =>
    cases value with
    | none => exact .pure (.leaves rfl rfl)
    | some e => exact .map fun r _ => .leaves rfl rfl
  | «continue» span => exact .pure (.leaves rfl rfl)

theorem whileLoop_step (ih : Flowing σ fuel) (condition : Expr) (body : List Stmt) :
    (Routine.whileLoop (fuel + 1) condition body : Routine σ .body Flow).GivesOnly
      (·.OfLoop body) := by
  unfold Routine.whileLoop
  refine .bind fun r _ => .bind fun holds _ => ?_
  split
  · refine .bind fun flow gives => ?_
    cases round : flow.afterRound with
    | none => exact ih.whileLoop condition body
    | some left => exact .pure ((ih.block body flow gives).afterRound round)
  · exact .pure (.stays rfl)

theorem loop_step (ih : Flowing σ fuel) (body : List Stmt) :
    (Routine.loop (fuel + 1) body : Routine σ .body Flow).GivesOnly (·.OfLoop body) := by
  unfold Routine.loop
  refine .bind fun flow gives => ?_
  cases round : flow.afterRound with
  | none => exact ih.loop body
  | some left => exact .pure ((ih.block body flow gives).afterRound round)

theorem forLoop_step (ih : Flowing σ fuel) (x : String) (body : List Stmt) (items : List Ref) :
    (Routine.forLoop (fuel + 1) x body items : Routine σ .body Flow).GivesOnly
      (·.OfLoop body) := by
  unfold Routine.forLoop
  cases items with
  | nil => exact .pure (.stays rfl)
  | cons item items =>
    have round : (Routine.inNewScope (do
        Routine.declare x item true
        Routine.block fuel body) : Routine σ .body Flow).GivesOnly (·.Of body) :=
      .inNewScope (.bind fun _ _ => ih.block body)
    refine .bind fun flow gives => ?_
    cases ends : flow.afterRound with
    | none => exact ih.forLoop x body items
    | some left => exact .pure ((round flow gives).afterRound ends)

end Flowing

theorem flowing (σ : Type) (fuel : Nat) : Flowing σ fuel := by
  induction fuel with
  | zero => constructor <;> intros <;> exact .exhausted
  | succ fuel ih =>
    exact ⟨ih.sequence_step, ih.block_step, ih.execute_step, ih.whileLoop_step, ih.loop_step,
      ih.forLoop_step⟩

end Routine

end LayerScript
