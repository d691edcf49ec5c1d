import LayerScript.Proofs.Routines.Code

/-!
# The places of calls

Where the code of a function makes calls: at the call expressions in its body, not counting the
bodies of the functions that it makes. The calls that a routine leaves pending are at such places.
-/

namespace LayerScript

/-- The expressions that are evaluated for an expression, which are directly in it. -/
def Expr.parts : Expr → List Expr
  | .literal .. | .name .. | .this _ | .lambda .. => []
  | .unary _ _ e | .group _ e | .field _ e _ => [e]
  | .binary _ _ a b | .logical _ _ a b | .assign _ a b | .index _ a b => [a, b]
  | .call _ callee args => callee :: args
  | .array _ items => items
  | .map _ entries => entries.map Prod.fst ++ entries.map Prod.snd

inductive Expr.HasCall (span : Span) : Expr → Prop
  | here {callee args} : Expr.HasCall span (.call span callee args)
  | part {e part} : part ∈ e.parts → Expr.HasCall span part → Expr.HasCall span e

/-- The expressions that are directly in a statement. -/
def Stmt.exprs : Stmt → List Expr
  | .varDecl _ _ value | .return _ value | .break _ value => value.toList
  | .constDecl _ _ e | .expr _ e | .ifElse _ e .. | .whileLoop _ e _ | .forLoop _ _ e _
  | .when _ e _ => [e]
  | .fnDecl .. | .block .. | .loop .. | .continue _ => []

/-- The statements that are directly in a statement. -/
def Stmt.parts : Stmt → List Stmt
  | .block _ body | .whileLoop _ _ body | .loop _ body | .forLoop _ _ _ body => body
  | .ifElse _ _ yes no => yes ++ no.getD []
  | .when _ _ arms => arms.flatMap Arm.body
  | .varDecl .. | .constDecl .. | .fnDecl .. | .expr .. | .return .. | .break .. | .continue _ => []

inductive Stmt.HasCall (span : Span) : Stmt → Prop
  | expr {s e} : e ∈ s.exprs → Expr.HasCall span e → Stmt.HasCall span s
  | part {s part} : part ∈ s.parts → Stmt.HasCall span part → Stmt.HasCall span s

namespace Routine

variable {σ α β : Type} {p : Part} {P : Activation → Prop} {fn : Option (Ref × Closure)}

/-- All that a routine adds to what is being called satisfies `P`, if it is run for `fn`. -/
def Adds (P : Activation → Prop) :
    {p : Part} → {α : Type} → Option (Ref × Closure) → Routine σ p α → Prop
  | _, _, fn, .bind x f => x.Adds P fn ∧ ∀ a, x.Gives a → (f a).Adds P fn
  | _, _, fn, .inScope _ x => x.Adds P fn
  | _, _, fn, .atCall span x => P ⟨fn, some span⟩ ∧ x.Adds P fn
  | _, _, fn, .activation f c ready body =>
    P ⟨some (f, c), none⟩ ∧ ready.Adds P fn ∧ body.Adds P (some (f, c))
  | _, _, _, .pure _ | _, _, _, .exhausted | _, _, _, .read _ | _, _, _, .onStore _
  | _, _, _, .raise _ | _, _, _, .raiseAt .. | _, _, _, .call .. | _, _, _, .write .. => True

theorem Adds.bind {x : Routine σ p α} {f : α → Routine σ p β} (hx : x.Adds P fn)
    (hf : ∀ a, (f a).Adds P fn) : (x >>= f).Adds P fn :=
  ⟨hx, fun a _ => hf a⟩

theorem adds_true (x : Routine σ p α) (fn : Option (Ref × Closure)) :
    x.Adds (fun _ => True) fn := by
  induction x generalizing fn with
  | bind x f ihx ihf => exact ⟨ihx fn, fun a _ => ihf a fn⟩
  | inScope scope x ih => exact ih fn
  | atCall span x ih => exact ⟨trivial, ih fn⟩
  | activation f c ready body ihr ihb => exact ⟨trivial, ihr fn, ihb _⟩
  | _ => trivial

theorem adds_checkAt (place : Fault → Span) (f : Store → Except Fault α) :
    (checkAt place f : Routine σ .body α).Adds P fn := by
  refine .bind trivial fun found => ?_
  cases found <;> trivial

theorem adds_declare (name : String) (value : Ref) (isMutable : Bool) :
    (declare name value isMutable : Routine σ p Unit).Adds P fn :=
  .bind trivial fun _ => trivial

theorem Adds.inNewScope {x : Routine σ .body α} (hx : x.Adds P fn) : (inNewScope x).Adds P fn :=
  .bind trivial fun _ => .bind trivial fun _ => hx

theorem adds_closure (name : Option String) (params : List Param) (body : List Stmt)
    (yields : Bool) (receiver : Option Ref) :
    (closure name params body yields receiver : Routine σ .body Ref).Adds P fn :=
  .bind trivial fun _ => trivial

end Routine

/-- The calls in an expression are at places that satisfy `Q`. -/
def Expr.CallsAt (Q : Span → Prop) (e : Expr) : Prop :=
  ∀ span, e.HasCall span → Q span

def Stmt.CallsAt (Q : Span → Prop) (s : Stmt) : Prop :=
  ∀ span, s.HasCall span → Q span

theorem Expr.CallsAt.part {Q : Span → Prop} {e part : Expr} (h : e.CallsAt Q)
    (mem : part ∈ e.parts) : part.CallsAt Q :=
  fun span has => h span (.part mem has)

theorem Stmt.CallsAt.expr {Q : Span → Prop} {s : Stmt} {e : Expr} (h : s.CallsAt Q)
    (mem : e ∈ s.exprs) : e.CallsAt Q :=
  fun span has => h span (.expr mem has)

theorem Stmt.CallsAt.part {Q : Span → Prop} {s part : Stmt} (h : s.CallsAt Q)
    (mem : part ∈ s.parts) : part.CallsAt Q :=
  fun span has => h span (.part mem has)

/-- The calls that a node makes when it runs are at places that satisfy `Q`. -/
def Node.CallsAt (Q : Span → Prop) : Node → Prop
  | .expr e => e.CallsAt Q
  | .stmt s => s.CallsAt Q
  | .arm a => ∀ s ∈ a.body, s.CallsAt Q

theorem Expr.children_eq_parts {e : Expr} (h : (Node.expr e).makesFunction = false) :
    e.children = e.parts.map .expr := by
  cases e with
  | lambda => exact nomatch h
  | _ => simp [children, parts, Function.comp_def]

theorem Stmt.mem_children {s : Stmt} (h : (Node.stmt s).makesFunction = false) {child : Node}
    (mem : child ∈ s.children) : (∃ e ∈ s.exprs, child = .expr e) ∨
      (∃ t ∈ s.parts, child = .stmt t) ∨ ∃ a, (∀ t ∈ a.body, t ∈ s.parts) ∧ child = .arm a := by
  have flat (same : s.children = s.exprs.map .expr ++ s.parts.map .stmt) :
      (∃ e ∈ s.exprs, child = .expr e) ∨ ∃ t ∈ s.parts, child = .stmt t := by
    rw [same, List.mem_append, List.mem_map, List.mem_map] at mem
    exact mem.imp (fun ⟨e, inside, eq⟩ => ⟨e, inside, eq.symm⟩)
      fun ⟨t, inside, eq⟩ => ⟨t, inside, eq.symm⟩
  cases s with
  | fnDecl => exact nomatch h
  | «when» span subject arms =>
    rcases List.mem_cons.1 mem with rfl | mem
    · exact .inl ⟨subject, List.mem_cons_self, rfl⟩
    · obtain ⟨a, inside, rfl⟩ := List.mem_map.1 mem
      exact .inr (.inr ⟨a, fun t body => List.mem_flatMap.2 ⟨a, inside, body⟩, rfl⟩)
  | _ => exact (flat (by simp [children, exprs, parts])).imp_right .inl

/-- Code whose calls are at places that satisfy `Q`. -/
def Code.calling (Q : Span → Prop) : Code where
  has := Node.CallsAt Q
  below {node child} h runs mem := by
    cases node with
    | expr e =>
      change child ∈ e.children at mem
      rw [Expr.children_eq_parts runs] at mem
      obtain ⟨part, inside, rfl⟩ := List.mem_map.1 mem
      exact Expr.CallsAt.part h inside
    | stmt s =>
      rcases Stmt.mem_children runs mem with ⟨e, inside, rfl⟩ | ⟨t, inside, rfl⟩ | ⟨a, all, rfl⟩
      · exact Stmt.CallsAt.expr h inside
      · exact Stmt.CallsAt.part h inside
      · exact fun t inside => Stmt.CallsAt.part h (all t inside)
    | arm a =>
      obtain ⟨span, pattern, body⟩ := a
      obtain ⟨t, inside, rfl⟩ := List.mem_map.1 mem
      exact h t inside

namespace Routine

variable {σ α : Type} {p : Part} {P : Activation → Prop} {fn : Option (Ref × Closure)}

/-- What enacts code leaves calls pending only at its call expressions. -/
theorem Adds.of_enacts {code : Code} {x : Routine σ p α} (h : x.Enacts code)
    (own : ∀ span callee args, code.has (.expr (.call span callee args)) → P ⟨fn, some span⟩) :
    x.Adds P fn := by
  induction h with
  | bind _ _ ihx ihf => exact ⟨ihx, ihf⟩
  | assignName =>
    refine .bind trivial fun scope => .bind trivial fun strict => ?_
    exact (adds_checkAt _ _).bind fun owner => trivial
  | operation => exact .bind trivial fun strict => (adds_checkAt _ _).bind fun _ => trivial
  | lambda => exact .bind trivial fun receiver => adds_closure ..
  | function => exact adds_closure ..
  | declare => exact adds_declare ..
  | inNewScope _ ih => exact ih.inNewScope
  | inArm bound _ ih => exact .inNewScope (.bind trivial fun scope => .bind trivial fun _ => ih)
  | atCall has _ ih => exact ⟨own _ _ _ has, ih⟩
  | _ => trivial

theorem adds_functionBody (fuel : Nat) (c : Closure)
    (own : ∀ s ∈ c.body, Stmt.CallsAt (fun span => P ⟨fn, some span⟩) s) :
    (functionBody fuel c : Routine σ .body Ref).Adds P fn :=
  .of_enacts (Enacts.functionBody fuel c own : Enacts (.calling fun span => P ⟨fn, some span⟩) _)
    fun span _ _ calls => calls span .here

theorem adds_programBody (fuel : Nat) (p : Program)
    (own : ∀ s ∈ p.body, Stmt.CallsAt (fun span => P ⟨fn, some span⟩) s) :
    (programBody fuel p : Routine σ .body Ref).Adds P fn :=
  .of_enacts (Enacts.programBody fuel p own : Enacts (.calling fun span => P ⟨fn, some span⟩) _)
    fun span _ _ calls => calls span .here

theorem adds_activation (fuel : Nat) {f : Ref} {c : Closure} (entered : P ⟨some (f, c), none⟩)
    (own : ∀ s ∈ c.body, Stmt.CallsAt (fun span => P ⟨some (f, c), some span⟩) s)
    (receiver : Option Ref) (args : List Ref) :
    (activation f c (readyBody c receiver args) (functionBody fuel c) :
      Routine σ .call Ref).Adds P fn := by
  refine ⟨entered, .bind trivial fun frame => ?_, adds_functionBody fuel c own⟩
  cases c.receiver <|> receiver with
  | some r => exact .bind trivial fun this => trivial
  | none => exact .bind trivial fun this => trivial

theorem adds_activate (fuel : Nat) {f : Ref} (entered : ∀ c, P ⟨some (f, c), none⟩)
    (own : ∀ c : Closure, ∀ s ∈ c.body, Stmt.CallsAt (fun span => P ⟨some (f, c), some span⟩) s)
    (receiver : Option Ref) (args : List Ref) :
    (activate fuel f receiver args : Routine σ .call Ref).Adds P fn := by
  rw [activate_eq]
  refine .bind trivial fun found => ?_
  by_cases function : ∃ c, found = .closure c
  · obtain ⟨c, rfl⟩ := function
    exact adds_activation fuel (entered c) (own c) receiver args
  · have codeless : found.Codeless := fun c same => function ⟨c, same⟩
    exact .of_enacts (Enacts.apply codeless fuel f receiver args : Enacts .none _)
      fun _ _ _ => False.elim

end Routine

/-! ## What is being called -/

/-- What is being called is as `P` says, and all but the innermost waits for a call. -/
structure Orderly (P : Activation → Prop) (active : List Activation) : Prop where
  sound : ∀ a ∈ active, P a
  waiting : ∀ a ∈ active.tail, a.pending.isSome

/-- What is being called where a part begins: a body is that of the innermost function, and in a
call everything waits. -/
def Part.Begins (fn : Option (Ref × Closure)) : Part → List Activation → Prop
  | .body, active => ∃ a outer, active = a :: outer ∧ a.function = fn
  | .call, active => ∀ a ∈ active, a.pending.isSome

def Watcher.Orderly {σ : Type} (P : Activation → Prop) (inside : Watcher σ) : Prop :=
  ∀ f receiver args active m, LayerScript.Orderly P active → Part.call.Begins none active →
    ∀ now ∈ inside f receiver args active m, LayerScript.Orderly P now.active

theorem Watcher.Orderly.routine {σ α : Type} {P : Activation → Prop} {inside : Watcher σ}
    (h : inside.Orderly P) (out : Sink σ) (call : Caller σ) {p : Part} {x : Routine σ p α}
    {fn : Option (Ref × Closure)} (adds : x.Adds P fn) {active : List Activation}
    (orderly : LayerScript.Orderly P active) (begins : p.Begins fn active) (m : Machine σ) :
    ∀ now ∈ x.moments out call inside active m, LayerScript.Orderly P now.active := by
  intro now mem
  induction x generalizing fn active m with
  | pure a => exact nomatch mem
  | bind x f ihx ihf =>
    rcases List.mem_append.1 mem with first | next
    · exact ihx adds.1 orderly begins m first
    · obtain ⟨a, m', ended, next⟩ := Outcome.mem_andThen.1 next
      exact ihf a (adds.2 a ⟨out, call, m, m', ended⟩) orderly begins m' next
  | exhausted => exact nomatch mem
  | read f | onStore f | raise fault | raiseAt span fault =>
    obtain rfl := List.mem_singleton.1 mem
    exact orderly
  | inScope scope x ih => exact ih adds orderly begins _ mem
  | atCall span x ih =>
    obtain ⟨a, outer, rfl, rfl⟩ := begins
    have sound : P { a with pending := some span } := adds.1
    have waiting : ∀ b ∈ outer, b.pending.isSome := orderly.waiting
    have begun : LayerScript.Orderly P (waitingAt span (a :: outer)) :=
      ⟨List.forall_mem_cons.2 ⟨sound, (List.forall_mem_cons.1 orderly.sound).2⟩, waiting⟩
    exact ih adds.2 begun (List.forall_mem_cons.2 ⟨rfl, waiting⟩) m mem
  | call f receiver args => exact h f receiver args active m orderly begins now mem
  | activation f c ready body ihr ihb =>
    by_cases limit : callLimit ≤ m.depth
    · rw [Routine.moments_activation_of_limit limit] at mem
      obtain rfl := List.mem_singleton.1 mem
      exact orderly
    · rw [Routine.moments_activation_of_room limit] at mem
      rcases List.mem_append.1 mem with first | next
      · exact ihr adds.2.1 orderly begins m first
      · obtain ⟨frame, m', ended, next⟩ := Outcome.mem_andThen.1 next
        have entered : LayerScript.Orderly P (⟨some (f, c), none⟩ :: active) :=
          ⟨List.forall_mem_cons.2 ⟨adds.1, orderly.sound⟩, begins⟩
        exact ihb adds.2.2 entered ⟨_, active, rfl, rfl⟩ _ next
  | write level payload =>
    rw [Routine.moments_write] at mem
    simp only [Option.mem_toList, Option.map_eq_some_iff] at mem
    obtain ⟨answer, _, rfl⟩ := mem
    exact orderly

theorem Watcher.orderly_callMoments {σ : Type} (out : Sink σ) {P : Activation → Prop}
    (entered : ∀ f c, P ⟨some (f, c), none⟩)
    (own : ∀ (f : Ref) (c : Closure), ∀ s ∈ c.body,
      Stmt.CallsAt (fun span => P ⟨some (f, c), some span⟩) s) (fuel : Nat) :
    Watcher.Orderly P (Run.callMoments out fuel) := by
  induction fuel with
  | zero => exact fun _ _ _ _ _ _ _ _ mem => nomatch mem
  | succ fuel ih =>
    intro f receiver args active m orderly begins
    exact ih.routine out (Run.call out fuel)
      (Routine.adds_activate fuel (entered f) (own f) receiver args) orderly begins m

end LayerScript
