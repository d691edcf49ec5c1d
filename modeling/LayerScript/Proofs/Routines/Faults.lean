import LayerScript.Proofs.Tame
import LayerScript.Proofs.Traces.Origins

/-!
# What can go wrong where

A routine fails in the code of a function that is being called, or of a program. The faults of the
evaluator and of the native functions are the same wherever they are run. What the end of a body
finds depends on the body.
-/

namespace LayerScript

/-- What can go wrong in the code of a function, or of a program. -/
abbrev Hazard := Option (Ref × Closure) → Fault → Prop

/-- Anything but stray loop control can go wrong everywhere. -/
def Hazard.Open (P : Hazard) : Prop :=
  ∀ fn fault, fault.isStray = false → P fn fault

namespace Routine

variable {σ α β : Type} {p : Part} {P : Hazard} {fn : Option (Ref × Closure)}

/-- All that goes wrong in a routine itself, if it is run for `fn`, is as `P` says. -/
def Risks (P : Hazard) :
    {p : Part} → {α : Type} → Option (Ref × Closure) → Routine σ p α → Prop
  | _, _, fn, .bind x f => x.Risks P fn ∧ ∀ a, x.Gives a → (f a).Risks P fn
  | _, _, fn, .raise fault | _, _, fn, .raiseAt _ fault => P fn fault
  | _, _, fn, .inScope _ x | _, _, fn, .atCall _ x => x.Risks P fn
  | _, _, fn, .activation f c ready body =>
    P fn .callLimit ∧ ready.Risks P fn ∧ body.Risks P (some (f, c))
  | _, _, fn, .write level _ => ∀ e, P fn (.console level e)
  | _, _, _, .pure _ | _, _, _, .exhausted | _, _, _, .read _ | _, _, _, .onStore _
  | _, _, _, .call .. => True

namespace Risks

theorem bind {x : Routine σ p α} {f : α → Routine σ p β} (hx : x.Risks P fn)
    (hf : ∀ a, (f a).Risks P fn) : (x >>= f).Risks P fn :=
  ⟨hx, fun a _ => hf a⟩

theorem map {x : Routine σ p α} (f : α → β) (hx : x.Risks P fn) : (f <$> x).Risks P fn :=
  hx.bind fun _ => trivial

theorem cell (r : Ref) : (cell r : Routine σ p Cell).Risks P fn :=
  trivial

theorem alloc (c : Cell) : (alloc c : Routine σ p Ref).Risks P fn :=
  trivial

theorem truthy (r : Ref) : (truthy r : Routine σ p Bool).Risks P fn :=
  .bind trivial fun _ => trivial

theorem declare (x : String) (value : Ref) (isMutable : Bool) :
    (declare x value isMutable : Routine σ p Unit).Risks P fn :=
  .bind trivial fun _ => trivial

theorem inNewScope {x : Routine σ .body α} (hx : x.Risks P fn) : (inNewScope x).Risks P fn :=
  .bind trivial fun _ => .bind trivial fun _ => hx

theorem check (open_ : P.Open) {f : Store → Except Fault α} (tame : ∀ s, Tame (f s)) :
    (check f : Routine σ .call α).Risks P fn := by
  refine ⟨trivial, fun found gives => ?_⟩
  obtain ⟨m, rfl⟩ := gives.of_read
  cases found : f m.store with
  | ok a => exact trivial
  | error fault => exact open_ fn fault (found ▸ tame m.store).of_error

theorem checkAt (open_ : P.Open) (place : Fault → Span) {f : Store → Except Fault α}
    (tame : ∀ s, Tame (f s)) : (checkAt place f : Routine σ .body α).Risks P fn := by
  refine ⟨trivial, fun found gives => ?_⟩
  obtain ⟨m, rfl⟩ := gives.of_read
  cases found : f m.store with
  | ok a => exact trivial
  | error fault => exact open_ fn fault (found ▸ tame m.store).of_error

theorem attempt (open_ : P.Open) {f : Store → Except Fault (Store.Effect α)}
    (tame : ∀ s, Tame (f s)) : (attempt f : Routine σ .call α).Risks P fn :=
  (check open_ tame).bind fun _ => trivial

theorem attemptAt (open_ : P.Open) (place : Fault → Span)
    {f : Store → Except Fault (Store.Effect α)} (tame : ∀ s, Tame (f s)) :
    (attemptAt place f : Routine σ .body α).Risks P fn :=
  (checkAt open_ place tame).bind fun _ => trivial

theorem operator (open_ : P.Open) (span : Span) {f : Store → Except Fault Cell}
    (tame : ∀ s, Tame (f s)) : (operator span f : Routine σ .body Ref).Risks P fn :=
  (checkAt open_ _ tame).bind fun _ => trivial

theorem closure (name : Option String) (params : List Param) (body : List Stmt) (yields : Bool)
    (receiver : Option Ref) :
    (closure name params body yields receiver : Routine σ .body Ref).Risks P fn :=
  .bind trivial fun _ => trivial

end Risks

/-! ## Evaluation -/

/-- On some fuel all that goes wrong in the evaluator is as `P` says. -/
structure Risking (σ : Type) (P : Hazard) (fn : Option (Ref × Closure)) (fuel : Nat) : Prop where
  evaluate : ∀ e, (evaluate fuel e : Routine σ .body Ref).Risks P fn
  evaluateAll : ∀ es, (evaluateAll fuel es : Routine σ .body _).Risks P fn
  evaluateEntries : ∀ done es, (evaluateEntries fuel done es : Routine σ .body _).Risks P fn
  assign : ∀ target value, (assign fuel target value : Routine σ .body Unit).Risks P fn
  sequence : ∀ body last, (sequence fuel body last : Routine σ .body _).Risks P fn
  block : ∀ body, (block fuel body : Routine σ .body Flow).Risks P fn
  execute : ∀ s, (execute fuel s : Routine σ .body Flow).Risks P fn
  whileLoop : ∀ condition body,
    (whileLoop fuel condition body : Routine σ .body Flow).Risks P fn
  loop : ∀ body, (loop fuel body : Routine σ .body Flow).Risks P fn
  forLoop : ∀ x body items, (forLoop fuel x body items : Routine σ .body Flow).Risks P fn

namespace Risking

variable {fuel : Nat}

theorem evaluate_step (ih : Risking σ P fn fuel) (open_ : P.Open) (e : Expr) :
    (Routine.evaluate (fuel + 1) e : Routine σ .body Ref).Risks P fn := by
  unfold Routine.evaluate
  cases e with
  | literal span value => exact .alloc _
  | name span x =>
    exact Risks.bind trivial fun scope => .checkAt open_ _ fun s => s.tame_lookup scope x
  | this span => exact trivial
  | binary span op left right =>
    exact (ih.evaluate left).bind fun a => (ih.evaluate right).bind fun b =>
      Risks.bind trivial fun strict => .operator open_ span fun s => s.tame_binary strict op a b
  | logical span op left right =>
    refine (ih.evaluate left).bind fun a => (Risks.cell a).bind fun c => ?_
    split
    · exact trivial
    · exact ih.evaluate right
  | unary span op operand =>
    exact (ih.evaluate operand).bind fun a => .operator open_ span fun s => s.tame_unary op a
  | assign span target value =>
    exact (ih.evaluate value).bind fun r => (ih.assign target r).bind fun _ => trivial
  | call span callee args =>
    exact (ih.evaluate callee).bind fun f => (ih.evaluateAll args).bind fun rs => trivial
  | array span items => exact (ih.evaluateAll items).bind fun rs => .alloc _
  | map span entries => exact (ih.evaluateEntries .empty entries).bind fun es => .alloc _
  | group span inner => exact ih.evaluate inner
  | index span target position =>
    exact (ih.evaluate target).bind fun a => (ih.evaluate position).bind fun b =>
      .attemptAt open_ _ fun s => s.tame_element a b
  | field span target x =>
    exact (ih.evaluate target).bind fun a => .checkAt open_ _ fun s => s.tame_field a x
  | lambda span params body yields => exact Risks.bind trivial fun receiver => .closure ..

theorem evaluateAll_step (ih : Risking σ P fn fuel) (es : List Expr) :
    (Routine.evaluateAll (fuel + 1) es : Routine σ .body _).Risks P fn := by
  unfold Routine.evaluateAll
  cases es with
  | nil => exact trivial
  | cons e es =>
    exact (ih.evaluate e).bind fun r => (ih.evaluateAll es).bind fun rs => trivial

theorem evaluateEntries_step (ih : Risking σ P fn fuel) (open_ : P.Open) (done : Dict Ref)
    (es : List (Expr × Expr)) :
    (Routine.evaluateEntries (fuel + 1) done es : Routine σ .body _).Risks P fn := by
  unfold Routine.evaluateEntries
  cases es with
  | nil => exact trivial
  | cons e es =>
    refine (ih.evaluate e.1).bind fun k => ?_
    refine (Risks.checkAt open_ _ fun s => s.tame_mapKey k).bind fun text => ?_
    exact (ih.evaluate e.2).bind fun r => ih.evaluateEntries _ es

theorem assign_step (ih : Risking σ P fn fuel) (open_ : P.Open) (target : Expr) (value : Ref) :
    (Routine.assign (fuel + 1) target value : Routine σ .body Unit).Risks P fn := by
  unfold Routine.assign
  cases target with
  | name span x =>
    refine Risks.bind trivial fun scope => Risks.bind trivial fun strict => ?_
    exact (Risks.checkAt open_ _ fun s => s.tame_assignee scope x strict).bind fun owner => trivial
  | field span owner x =>
    exact (ih.evaluate owner).bind fun a =>
      .attemptAt open_ _ fun s => s.tame_assignField a x value
  | index span owner position =>
    exact (ih.evaluate owner).bind fun a => (ih.evaluate position).bind fun b =>
      .attemptAt open_ _ fun s => s.tame_assignElement a b value
  | _ => exact open_ fn .invalidTarget rfl

theorem sequence_step (ih : Risking σ P fn fuel) (body : List Stmt) (last : Flow) :
    (Routine.sequence (fuel + 1) body last : Routine σ .body _).Risks P fn := by
  unfold Routine.sequence
  cases body with
  | nil => exact trivial
  | cons first body =>
    refine (ih.execute first).bind fun flow => ?_
    cases flow with
    | next => exact ih.sequence body last
    | value r => exact ih.sequence body _
    | _ => exact trivial

theorem block_step (ih : Risking σ P fn fuel) (body : List Stmt) :
    (Routine.block (fuel + 1) body : Routine σ .body Flow).Risks P fn :=
  .inNewScope ((ih.sequence body .next).map _)

theorem execute_step (ih : Risking σ P fn fuel) (open_ : P.Open) (s : Stmt) :
    (Routine.execute (fuel + 1) s : Routine σ .body Flow).Risks P fn := by
  unfold Routine.execute
  cases s with
  | varDecl span x initial =>
    have rest (r : Ref) : (do
        Routine.declare x r true
        pure .next : Routine σ .body Flow).Risks P fn :=
      (Risks.declare ..).bind fun _ => trivial
    cases initial with
    | none => exact (Risks.alloc _).bind rest
    | some e => exact (ih.evaluate e).bind rest
  | constDecl span x e =>
    exact (ih.evaluate e).bind fun r => (Risks.declare ..).bind fun _ => trivial
  | fnDecl span x params body =>
    exact (Risks.closure ..).bind fun r => (Risks.declare ..).bind fun _ => trivial
  | expr span e => exact (ih.evaluate e).map _
  | block span body => exact ih.block body
  | ifElse span condition yes no =>
    refine (ih.evaluate condition).bind fun r => (Risks.truthy r).bind fun holds => ?_
    split
    · exact ih.block yes
    · cases no with
      | none => exact trivial
      | some body => exact ih.block body
  | whileLoop span condition body => exact ih.whileLoop condition body
  | loop span body => exact ih.loop body
  | forLoop span x iterable body =>
    refine (ih.evaluate iterable).bind fun r => ?_
    exact (Risks.attemptAt open_ _ fun s => s.tame_iterate r).bind (ih.forLoop x body)
  | when span subject arms =>
    refine (ih.evaluate subject).bind fun r => Risks.bind trivial fun found => ?_
    cases found with
    | none => exact trivial
    | some hit =>
      exact .inNewScope (Risks.bind trivial fun scope => Risks.bind trivial fun _ =>
        ih.block hit.2)
  | «return» span value =>
    cases value with
    | none => exact (Risks.alloc _).bind fun r => trivial
    | some e => exact (ih.evaluate e).bind fun r => trivial
  | «break» span value =>
    cases value with
    | none => exact trivial
    | some e => exact (ih.evaluate e).map _
  | «continue» span => exact trivial

theorem whileLoop_step (ih : Risking σ P fn fuel) (condition : Expr) (body : List Stmt) :
    (Routine.whileLoop (fuel + 1) condition body : Routine σ .body Flow).Risks P fn := by
  unfold Routine.whileLoop
  refine (ih.evaluate condition).bind fun r => (Risks.truthy r).bind fun holds => ?_
  split
  · refine (ih.block body).bind fun flow => ?_
    cases flow.afterRound with
    | none => exact ih.whileLoop condition body
    | some left => exact trivial
  · exact trivial

theorem loop_step (ih : Risking σ P fn fuel) (body : List Stmt) :
    (Routine.loop (fuel + 1) body : Routine σ .body Flow).Risks P fn := by
  unfold Routine.loop
  refine (ih.block body).bind fun flow => ?_
  cases flow.afterRound with
  | none => exact ih.loop body
  | some left => exact trivial

theorem forLoop_step (ih : Risking σ P fn fuel) (x : String) (body : List Stmt)
    (items : List Ref) :
    (Routine.forLoop (fuel + 1) x body items : Routine σ .body Flow).Risks P fn := by
  unfold Routine.forLoop
  cases items with
  | nil => exact trivial
  | cons item items =>
    have round : (Routine.inNewScope (do
        Routine.declare x item true
        Routine.block fuel body) : Routine σ .body Flow).Risks P fn :=
      .inNewScope ((Risks.declare ..).bind fun _ => ih.block body)
    refine round.bind fun flow => ?_
    cases flow.afterRound with
    | none => exact ih.forLoop x body items
    | some left => exact trivial

end Risking

theorem risking (open_ : P.Open) (fuel : Nat) : Risking σ P fn fuel := by
  induction fuel with
  | zero => constructor <;> intros <;> exact trivial
  | succ fuel ih =>
    exact ⟨ih.evaluate_step open_, ih.evaluateAll_step, ih.evaluateEntries_step open_,
      ih.assign_step open_, ih.sequence_step, ih.block_step, ih.execute_step open_,
      ih.whileLoop_step, ih.loop_step, ih.forLoop_step⟩

/-! ## Calls -/

namespace Risks

theorem mapItems (f : Ref) (index : Nat) (items : List Ref) :
    (mapItems f index items : Routine σ .call _).Risks P fn := by
  induction items generalizing index with
  | nil => exact trivial
  | cons item items ih =>
    exact (alloc _).bind fun i => Risks.bind trivial fun r => (ih (index + 1)).bind fun rs =>
      trivial

theorem filterItems (f : Ref) (index : Nat) (items : List Ref) :
    (filterItems f index items : Routine σ .call _).Risks P fn := by
  induction items generalizing index with
  | nil => exact trivial
  | cons item items ih =>
    exact (alloc _).bind fun i => Risks.bind trivial fun verdict => (truthy verdict).bind
      fun keep => (ih (index + 1)).bind fun rs => trivial

theorem reduceItems (f : Ref) (index : Nat) (total : Ref) (items : List Ref) :
    (reduceItems f index total items : Routine σ .call _).Risks P fn := by
  induction items generalizing index total with
  | nil => exact trivial
  | cons item items ih =>
    exact (alloc _).bind fun i => Risks.bind trivial fun r => ih (index + 1) r

theorem findItem (f : Ref) (index : Nat) (items : List Ref) :
    (findItem f index items : Routine σ .call _).Risks P fn := by
  induction items generalizing index with
  | nil => exact trivial
  | cons item items ih =>
    refine (alloc _).bind fun i => Risks.bind trivial fun verdict => (truthy verdict).bind
      fun found => ?_
    cases found
    · exact ih (index + 1)
    · exact trivial

theorem insertItem (open_ : P.Open) (f item : Ref) (items : List Ref) :
    (insertItem f item items : Routine σ .call _).Risks P fn := by
  induction items with
  | nil => exact trivial
  | cons last before ih =>
    refine Risks.bind trivial fun verdict =>
      (check open_ fun s => s.tame_numberOf _ verdict).bind fun order => ?_
    split
    · exact trivial
    · exact ih.bind fun rest => trivial

theorem sortItems (open_ : P.Open) (f : Ref) (sorted items : List Ref) :
    (sortItems f sorted items : Routine σ .call _).Risks P fn := by
  induction items generalizing sorted with
  | nil => exact trivial
  | cons item items ih => exact (insertItem open_ f item sorted).bind ih

theorem itemsFor (open_ : P.Open) (function : String) (r : Ref) :
    (itemsFor function r : Routine σ .call _).Risks P fn :=
  check open_ fun s => (s.tame_itemsOf function r).map _

theorem traverse (open_ : P.Open) (op : Traversal) (args : List Ref) :
    (traverse op args : Routine σ .call Ref).Risks P fn := by
  unfold Routine.traverse
  split
  · exact (itemsFor open_ ..).bind fun items => (mapItems ..).bind fun rs => alloc _
  · exact (itemsFor open_ ..).bind fun items => (filterItems ..).bind fun rs => alloc _
  · exact (itemsFor open_ ..).bind fun items => reduceItems ..
  · refine (itemsFor open_ ..).bind fun items => (findItem ..).bind fun found => ?_
    cases found <;> exact trivial
  · refine (cell _).bind fun c => ?_
    cases c with
    | array items => exact (sortItems open_ ..).bind fun sorted => trivial
    | _ => exact open_ fn .sortTarget rfl
  · exact open_ fn _ rfl

/-- A call goes wrong as calls do, but for what the body of a function finds at its end. -/
theorem activate (open_ : P.Open) (fuel : Nat) (f : Ref) (receiver : Option Ref)
    (args : List Ref)
    (body : ∀ c, (functionBody fuel c : Routine σ .body Ref).Risks P (some (f, c))) :
    (activate fuel f receiver args : Routine σ .call Ref).Risks P fn := by
  rw [activate_eq]
  refine (cell f).bind fun found => ?_
  cases found with
  | native native =>
    cases native with
    | plain op => exact attempt open_ fun s => Plain.tame_run s op args
    | traversal op => exact traverse open_ op args
    | console level => exact Risks.bind (fun e => open_ fn _ rfl) fun _ => alloc _
  | closure c =>
    refine ⟨open_ fn _ rfl, .bind trivial fun frame => ?_, body c⟩
    cases c.receiver <|> receiver with
    | some r => exact .bind trivial fun this => trivial
    | none => exact .bind trivial fun this => trivial
  | _ => exact open_ fn _ rfl

theorem script (s : Script) (receiver : Ref) (args : List Ref) :
    (script s receiver args : Routine σ .call Ref).Risks P fn :=
  .bind trivial fun _ => .bind trivial fun _ => trivial

end Risks

end Routine

/-! ## Moments -/

section

variable {σ α : Type} {P : Hazard} {inside : Watcher σ}

/-- What goes wrong at a moment is as `P` says of the function whose code is at work. -/
def Moment.Risks (P : Hazard) (now : Moment σ) : Prop :=
  ∀ fault, now.fault? = some fault → P now.running? fault

theorem Moment.Risks.calm {now : Moment σ} (h : now.fault? = none) : now.Risks P :=
  fun _ fails => absurd (h.symm.trans fails) nofun

theorem Moment.Risks.of_fault {now : Moment σ} {fault : Fault} (h : now.fault? = some fault)
    (risk : P now.running? fault) : now.Risks P :=
  fun _ fails => Option.some.inj (h.symm.trans fails) ▸ risk

def Watcher.Risks (P : Hazard) (inside : Watcher σ) : Prop :=
  ∀ f receiver args active m, ∀ now ∈ inside f receiver args active m, now.Risks P

theorem Watcher.Risks.routine (h : inside.Risks P) (out : Sink σ) (call : Caller σ) {p : Part}
    {x : Routine σ p α} {active : List Activation}
    (risks : x.Risks P (active.head?.bind (·.function))) (m : Machine σ) :
    ∀ now ∈ x.moments out call inside active m, now.Risks P := by
  intro now mem
  induction x generalizing active m with
  | pure a | exhausted => exact nomatch mem
  | bind x f ihx ihf =>
    rcases List.mem_append.1 mem with first | next
    · exact ihx risks.1 m first
    · obtain ⟨a, m', ended, next⟩ := Outcome.mem_andThen.1 next
      exact ihf a (risks.2 a ⟨out, call, m, m', ended⟩) m' next
  | read f | onStore f =>
    obtain rfl := List.mem_singleton.1 mem
    exact .calm rfl
  | raise fault | raiseAt span fault =>
    obtain rfl := List.mem_singleton.1 mem
    exact .of_fault rfl risks
  | inScope scope x ih => exact ih risks _ mem
  | atCall span x ih =>
    have same : (waitingAt span active).head?.bind (·.function) =
        active.head?.bind (·.function) := by
      cases active <;> rfl
    exact ih (same ▸ risks) m mem
  | call f receiver args => exact h f receiver args active m now mem
  | activation f c ready body ihr ihb =>
    by_cases limit : callLimit ≤ m.depth
    · rw [Routine.moments_activation_of_limit limit] at mem
      obtain rfl := List.mem_singleton.1 mem
      exact .of_fault rfl risks.1
    · rw [Routine.moments_activation_of_room limit] at mem
      rcases List.mem_append.1 mem with first | next
      · exact ihr risks.2.1 m first
      · obtain ⟨frame, m', ended, next⟩ := Outcome.mem_andThen.1 next
        let entered : List Activation := ⟨some (f, c), none⟩ :: active
        have body : body.Risks P (entered.head?.bind (·.function)) := risks.2.2
        exact ihb body _ next
  | write level payload =>
    rw [Routine.moments_write] at mem
    simp only [Option.mem_toList, Option.map_eq_some_iff] at mem
    obtain ⟨⟨answer, sink⟩, _, rfl⟩ := mem
    cases answer with
    | ok => exact .calm rfl
    | error e => exact .of_fault rfl (risks e)

/-- What calls risk is decided by the bodies of functions. -/
theorem Watcher.risks_callMoments (out : Sink σ) (open_ : P.Open)
    (body : ∀ fuel f c, (Routine.functionBody fuel c : Routine σ .body Ref).Risks P (some (f, c)))
    (fuel : Nat) : Watcher.Risks P (Run.callMoments out fuel) := by
  induction fuel with
  | zero => exact fun _ _ _ _ _ _ mem => nomatch mem
  | succ fuel ih =>
    intro f receiver args active m
    exact ih.routine out (Run.call out fuel)
      (.activate open_ fuel f receiver args (body fuel f)) m

end

end LayerScript
