import LayerScript.Machine.Eval
import LayerScript.Proofs.Lockstep.Machines
import LayerScript.Proofs.Lockstep.Names

/-!
# Evaluation in lockstep

Expressions and statements run in lockstep when calls do. Code from the text of a script has to be
plain.
-/

namespace LayerScript

namespace Sharing

variable {W : Sharing} {σ τ α β : Type} {S : σ → τ → Prop} {o : Origin} {d : Nat}
  {call : Caller σ} {call' : Caller τ} {fuel : Nat}

/-- Calls of live values with live arguments are in lockstep. -/
def Calls (W : Sharing) (S : σ → τ → Prop) (d : Nat) (call : Caller σ) (call' : Caller τ) : Prop :=
  ∀ o f receiver args, W.live (.value f) → (∀ r ∈ receiver, W.live (.value r)) →
    (∀ a ∈ args, W.live (.value a)) → W.Lockstep S o d (fun r => W.live (.value r))
      (call f receiver args) (call' f receiver args)

/-- What leaves a statement is live. -/
def LiveFlow (W : Sharing) : Flow → Prop
  | .value r | .return r | .break (some r) => W.live (.value r)
  | .next | .break none | .continue => True

theorem LiveFlow.afterRound {flow left : Flow} (h : W.LiveFlow flow)
    (hn : flow.afterRound = some left) : W.LiveFlow left := by
  unfold Flow.afterRound at hn
  split at hn <;> simp only [Option.some.injEq, reduceCtorEq] at hn <;> subst hn
  · trivial
  · exact h
  · exact h

/-! ## Parts -/

theorem Lockstep.truthy {r : Ref} (hr : W.live (.value r)) :
    W.Lockstep S o d (fun _ => True) (Run.truthy r) (Run.truthy r) :=
  (Lockstep.cell hr).bind fun _ _ => .pure trivial

theorem Related.seen {m : Machine σ} {n : Machine τ} (h : W.Related S o d m n) {x : String}
    (hx : o = .text → W.names x) : W.Seen m.store m.scope x := by
  cases o with
  | text => exact .inl (hx rfl)
  | guest => exact .inr (h.guest rfl).1

theorem Lockstep.name (span : Span) {x : String} (hx : o = .text → W.names x) :
    W.Lockstep S o d (fun r => W.live (.value r)) (Run.name span x) (Run.name span x) := by
  intro m n related
  show W.Matched S o d _ m.store (Run.check _ (·.lookup m.scope x) m)
    (Run.check _ (·.lookup n.scope x) n)
  rw [related.scope]
  exact related.check (related.stores.lookup_name related.home.1 (related.seen hx))

theorem Lockstep.assignName (span : Span) {x : String} {r : Ref} (hx : o = .text → W.names x)
    (hr : W.live (.value r)) : W.Lockstep S o d (fun _ => True) (Run.assignName span x r)
      (Run.assignName span x r) := by
  intro m n related
  unfold Run.assignName
  show W.Matched S o d _ m.store
    ((Run.check _ (·.assignee m.scope x m.strict) >>= fun owner =>
      Run.onStore fun s => ((), s.declare owner x r true)) m)
    ((Run.check _ (·.assignee n.scope x n.strict) >>= fun owner =>
      Run.onStore fun s => ((), s.declare owner x r true)) n)
  rw [related.scope, related.strict]
  have owner := related.stores.assignee related.home.1 (related.seen hx) m.strict
  have found : W.Matched S o d (fun e => W.live (.scope e)) m.store
      (Run.check (·.locatedAt span) (·.assignee m.scope x m.strict) m)
      (Run.check (·.locatedAt span) (·.assignee m.scope x m.strict) n) := related.check owner
  exact found.bind fun e he => .onStore (respects_declare he hr x true)

theorem Lockstep.operator (span : Span) {f : Store → Except Fault Cell}
    (h : ∀ s t, W.Alike s t → Shown Bare (f s) (f t)) :
    W.Lockstep S o d (fun r => W.live (.value r)) (Run.operator span f) (Run.operator span f) :=
  (Lockstep.check h).bind fun _ bare => .bare bare

/-- The functions that plain code makes may keep any receiver. -/
theorem Lockstep.closure (name : Option String) (params : List Param) {body : List Stmt}
    (yields : Bool) {receiver : Option Ref} (hb : o = .text → ∀ st ∈ body, st.Plain W.names)
    (hr : o = .guest → ∀ r ∈ receiver, W.live (.value r)) :
    W.Lockstep S o d (fun r => W.live (.value r)) (Run.closure name params body yields receiver)
      (Run.closure name params body yields receiver) := by
  intro m n related
  have fits : W.Fits m.store
      (.closure ⟨name, params.map (·.name), body, m.scope, yields, receiver⟩) := by
    refine ⟨related.home, ?_⟩
    cases o with
    | text => exact .inl ⟨related.text rfl, hb rfl⟩
    | guest => exact .inr ⟨(related.guest rfl).1, hr rfl⟩
  show W.Matched S o d _ m.store (Run.alloc (.closure ⟨name, _, body, m.scope, yields, receiver⟩) m)
    (Run.alloc (.closure ⟨name, _, body, n.scope, yields, receiver⟩) n)
  rw [related.scope]
  exact related.onStore (related.stores.alloc fits)

theorem Lockstep.receiver : W.Lockstep S o d (fun r => o = .guest → W.live (.value r))
    (Run.read (·.receiver)) (Run.read (·.receiver)) :=
  .read fun _ _ related => ⟨related.receiver, fun ho => (related.guest ho).2⟩

theorem Lockstep.assignElement (span positionSpan : Span) {a b r : Ref} (ha : W.live (.value a))
    (hb : W.live (.value b)) (hr : W.live (.value r)) :
    W.Lockstep S o d (fun _ => True) (Run.assignElement span positionSpan a b r)
      (Run.assignElement span positionSpan a b r) :=
  .attempt fun _ _ alike => alike.assignElement ha hb hr

theorem respects_declareAll {e : ScopeId} (he : W.live (.scope e)) {bound : List (String × Ref)}
    (hb : ∀ b ∈ bound, W.live (.value b.2)) :
    W.Respects (fun _ => True) fun s => ((), s.declareAll e bound) := by
  induction bound with
  | nil => exact respects_keep trivial
  | cons b bound ih =>
    have first := respects_declare (W := W) he (hb b List.mem_cons_self) b.1 true
    have rest := ih fun b' hb' => hb b' (List.mem_cons_of_mem _ hb')
    exact first.seq (g := fun _ s => ((), s.declareAll e bound)) fun _ _ => rest

/-! ## Expressions -/

/-- Expressions and statements are in lockstep on some fuel. -/
structure Evaluates (W : Sharing) (S : σ → τ → Prop) (o : Origin) (d : Nat) (call : Caller σ)
    (call' : Caller τ) (fuel : Nat) : Prop where
  evaluate : ∀ e, (o = .text → e.Plain W.names) → W.Lockstep S o d (fun r => W.live (.value r))
    (Run.evaluate call fuel e) (Run.evaluate call' fuel e)
  evaluateAll : ∀ es, (o = .text → ∀ e ∈ es, Expr.Plain W.names e) →
    W.Lockstep S o d (fun rs => ∀ r ∈ rs, W.live (.value r))
      (Run.evaluateAll call fuel es) (Run.evaluateAll call' fuel es)
  evaluateEntries : ∀ done es, (∀ r ∈ done.values, W.live (.value r)) →
    (o = .text → ∀ e ∈ es, Expr.Plain W.names e.1 ∧ Expr.Plain W.names e.2) →
    W.Lockstep S o d (fun entries => ∀ r ∈ entries.values, W.live (.value r))
      (Run.evaluateEntries call fuel done es) (Run.evaluateEntries call' fuel done es)
  assign : ∀ target r, (o = .text → target.Plain W.names) → W.live (.value r) →
    W.Lockstep S o d (fun _ => True) (Run.assign call fuel target r)
      (Run.assign call' fuel target r)
  sequence : ∀ body last, (o = .text → ∀ st ∈ body, st.Plain W.names) → W.LiveFlow last →
    W.Lockstep S o d (fun left => W.LiveFlow left.1)
      (Run.sequence call fuel body last) (Run.sequence call' fuel body last)
  block : ∀ body, (o = .text → ∀ st ∈ body, st.Plain W.names) → W.Lockstep S o d W.LiveFlow
    (Run.block call fuel body) (Run.block call' fuel body)
  execute : ∀ st, (o = .text → st.Plain W.names) → W.Lockstep S o d W.LiveFlow
    (Run.execute call fuel st) (Run.execute call' fuel st)
  whileLoop : ∀ condition body, (o = .text → condition.Plain W.names) →
    (o = .text → ∀ st ∈ body, st.Plain W.names) → W.Lockstep S o d W.LiveFlow
      (Run.whileLoop call fuel condition body) (Run.whileLoop call' fuel condition body)
  loop : ∀ body, (o = .text → ∀ st ∈ body, st.Plain W.names) → W.Lockstep S o d W.LiveFlow
    (Run.loop call fuel body) (Run.loop call' fuel body)
  forLoop : ∀ x body items, (o = .text → ∀ st ∈ body, st.Plain W.names) →
    (∀ r ∈ items, W.live (.value r)) → W.Lockstep S o d W.LiveFlow
      (Run.forLoop call fuel x body items) (Run.forLoop call' fuel x body items)

namespace Evaluates

theorem evaluate_step (ih : W.Evaluates S o d call call' fuel) (hc : W.Calls S d call call')
    (e : Expr) (plain : o = .text → e.Plain W.names) :
    W.Lockstep S o d (fun r => W.live (.value r)) (Run.evaluate call (fuel + 1) e)
      (Run.evaluate call' (fuel + 1) e) := by
  unfold Run.evaluate
  match e with
  | .literal _ value => exact .bare (bare_ofLiteral value)
  | .name span x => exact .name span fun ho => by cases plain ho; assumption
  | .this _ =>
    refine .read fun m n related => ⟨related.receiver, ?_⟩
    cases o with
    | text => exact nomatch plain rfl
    | guest => exact (related.guest rfl).2
  | .binary span op left right =>
    refine (ih.evaluate left fun ho => by cases plain ho; assumption).bind fun a ha => ?_
    refine (ih.evaluate right fun ho => by cases plain ho; assumption).bind fun b hb => ?_
    refine (Lockstep.read (A := fun _ => True) fun _ _ related => ⟨related.strict, trivial⟩).bind
      fun strict _ => ?_
    exact .operator span fun _ _ alike => ⟨alike.binary strict op ha hb, fun _ => bare_binary⟩
  | .logical _ op left right =>
    refine (ih.evaluate left fun ho => by cases plain ho; assumption).bind fun a ha => ?_
    refine (Lockstep.cell ha).bind fun c _ => ?_
    split
    · exact .pure ha
    · exact ih.evaluate right fun ho => by cases plain ho; assumption
  | .unary span op operand =>
    refine (ih.evaluate operand fun ho => by cases plain ho; assumption).bind fun a ha => ?_
    exact .operator span fun _ _ alike => ⟨alike.unary op ha, fun _ => bare_unary⟩
  | .assign _ target value =>
    refine (ih.evaluate value fun ho => by cases plain ho; assumption).bind fun r hr => ?_
    refine (ih.assign target r (fun ho => by cases plain ho; assumption) hr).bind fun _ _ => ?_
    exact .pure hr
  | .call span callee args =>
    refine (ih.evaluate callee fun ho => by cases plain ho; assumption).bind fun f hf => ?_
    refine (ih.evaluateAll args fun ho => by cases plain ho; assumption).bind fun rs hrs => ?_
    exact .atCall span (hc o f none rs hf (fun _ h => nomatch h) hrs)
  | .array _ items =>
    refine (ih.evaluateAll items fun ho => by cases plain ho; assumption).bind fun rs hrs => ?_
    exact .alloc fun _ => fits_array.2 hrs
  | .map _ entries =>
    refine (ih.evaluateEntries .empty entries (by simp) ?_).bind fun es hes => ?_
    · intro ho e he
      cases plain ho with
      | map keys values => exact ⟨keys e he, values e he⟩
    · exact .alloc fun _ => fits_map.2 hes
  | .group _ inner => exact ih.evaluate inner fun ho => by cases plain ho; assumption
  | .index span target position =>
    refine (ih.evaluate target fun ho => by cases plain ho; assumption).bind fun a ha => ?_
    refine (ih.evaluate position fun ho => by cases plain ho; assumption).bind fun b hb => ?_
    exact .attempt fun _ _ alike => alike.element ha hb
  | .field span target x =>
    refine (ih.evaluate target fun ho => by cases plain ho; assumption).bind fun a ha => ?_
    exact .check fun _ _ alike => alike.field ha x
  | .lambda _ params body yields =>
    refine Lockstep.receiver.bind fun r hr => ?_
    refine .closure none params yields (fun ho => by cases plain ho; assumption) ?_
    rintro ho _ ⟨⟩
    exact hr ho

theorem evaluateAll_step (ih : W.Evaluates S o d call call' fuel) (es : List Expr)
    (plain : o = .text → ∀ e ∈ es, Expr.Plain W.names e) :
    W.Lockstep S o d (fun rs => ∀ r ∈ rs, W.live (.value r))
      (Run.evaluateAll call (fuel + 1) es) (Run.evaluateAll call' (fuel + 1) es) := by
  unfold Run.evaluateAll
  match es with
  | [] => exact .pure (by simp)
  | e :: es =>
    refine (ih.evaluate e fun ho => plain ho e List.mem_cons_self).bind fun r hr => ?_
    refine (ih.evaluateAll es fun ho e' he' => plain ho e' (List.mem_cons_of_mem _ he')).bind
      fun rs hrs => .pure fun r' hr' => ?_
    rcases List.mem_cons.1 hr' with rfl | hr'
    · exact hr
    · exact hrs r' hr'

theorem evaluateEntries_step (ih : W.Evaluates S o d call call' fuel) (done : Dict Ref)
    (es : List (Expr × Expr)) (live : ∀ r ∈ done.values, W.live (.value r))
    (plain : o = .text → ∀ e ∈ es, Expr.Plain W.names e.1 ∧ Expr.Plain W.names e.2) :
    W.Lockstep S o d (fun entries => ∀ r ∈ entries.values, W.live (.value r))
      (Run.evaluateEntries call (fuel + 1) done es)
      (Run.evaluateEntries call' (fuel + 1) done es) := by
  unfold Run.evaluateEntries
  match es with
  | [] => exact .pure live
  | (key, value) :: es =>
    refine (ih.evaluate key fun ho => (plain ho _ List.mem_cons_self).1).bind fun k hk => ?_
    refine (Lockstep.check fun _ _ alike => .of_eq (alike.mapKey hk)).bind fun text _ => ?_
    refine (ih.evaluate value fun ho => (plain ho _ List.mem_cons_self).2).bind fun r hr => ?_
    exact ih.evaluateEntries _ es (live_insert live hr)
      fun ho e he => plain ho e (List.mem_cons_of_mem _ he)

theorem assign_step (ih : W.Evaluates S o d call call' fuel) (target : Expr) (r : Ref)
    (plain : o = .text → target.Plain W.names) (hr : W.live (.value r)) :
    W.Lockstep S o d (fun _ => True) (Run.assign call (fuel + 1) target r)
      (Run.assign call' (fuel + 1) target r) := by
  unfold Run.assign
  split
  · exact .assignName _ (fun ho => by cases plain ho; assumption) hr
  · next owner x =>
    refine (ih.evaluate owner fun ho => by cases plain ho; assumption).bind fun a ha => ?_
    exact .attempt fun _ _ alike => alike.assignField ha hr x
  · next owner position =>
    refine (ih.evaluate owner fun ho => by cases plain ho; assumption).bind fun a ha => ?_
    refine (ih.evaluate position fun ho => by cases plain ho; assumption).bind fun b hb => ?_
    exact .assignElement _ _ ha hb hr
  · exact .raiseAt _ _

/-! ## Statements -/

theorem sequence_step (ih : W.Evaluates S o d call call' fuel) (body : List Stmt) (last : Flow)
    (plain : o = .text → ∀ st ∈ body, st.Plain W.names) (live : W.LiveFlow last) :
    W.Lockstep S o d (fun left => W.LiveFlow left.1) (Run.sequence call (fuel + 1) body last)
      (Run.sequence call' (fuel + 1) body last) := by
  unfold Run.sequence
  match body with
  | [] => exact .pure live
  | first :: body =>
    have rest (ho : o = .text) : ∀ st ∈ body, st.Plain W.names :=
      fun st hst => plain ho st (List.mem_cons_of_mem _ hst)
    refine (ih.execute first fun ho => plain ho first List.mem_cons_self).bind fun flow hf => ?_
    cases flow with
    | next => exact ih.sequence body last rest live
    | value r => exact ih.sequence body (.value r) rest hf
    | _ => exact .pure hf

theorem block_step (ih : W.Evaluates S o d call call' fuel) (body : List Stmt)
    (plain : o = .text → ∀ st ∈ body, st.Plain W.names) :
    W.Lockstep S o d W.LiveFlow (Run.block call (fuel + 1) body)
      (Run.block call' (fuel + 1) body) := by
  unfold Run.block
  exact .inNewScope ((ih.sequence body .next plain trivial).map fun _ h => h)

theorem execute_step (ih : W.Evaluates S o d call call' fuel) (st : Stmt)
    (plain : o = .text → st.Plain W.names) :
    W.Lockstep S o d W.LiveFlow (Run.execute call (fuel + 1) st)
      (Run.execute call' (fuel + 1) st) := by
  unfold Run.execute
  match st with
  | .varDecl _ x initial =>
    cases initial with
    | none =>
      refine (Lockstep.bare (c := .none) rfl).bind fun r hr => ?_
      exact (Lockstep.declare hr x true).bind fun _ _ => .pure trivial
    | some e =>
      refine (ih.evaluate e fun ho => ?_).bind fun r hr => ?_
      · cases plain ho with
        | varDecl h => exact h e rfl
      · exact (Lockstep.declare hr x true).bind fun _ _ => .pure trivial
  | .constDecl _ x e =>
    refine (ih.evaluate e fun ho => by cases plain ho; assumption).bind fun r hr => ?_
    exact (Lockstep.declare hr x false).bind fun _ _ => .pure trivial
  | .fnDecl _ x params body =>
    have made : W.Lockstep S o d (fun r => W.live (.value r))
        (Run.closure (some x) params body false none)
        (Run.closure (some x) params body false none) :=
      .closure _ _ _ (fun ho => by cases plain ho; assumption) fun _ _ h => nomatch h
    refine made.bind fun r hr => ?_
    exact (Lockstep.declare hr x false).bind fun _ _ => .pure trivial
  | .expr _ e => exact (ih.evaluate e fun ho => by cases plain ho; assumption).map fun _ h => h
  | .block _ body => exact ih.block body fun ho => by cases plain ho; assumption
  | .ifElse _ condition yes no =>
    refine (ih.evaluate condition fun ho => by cases plain ho; assumption).bind fun r hr => ?_
    refine (Lockstep.truthy hr).bind fun holds _ => ?_
    split
    · exact ih.block yes fun ho => by cases plain ho; assumption
    · cases no with
      | none => exact .pure trivial
      | some body =>
        refine ih.block body fun ho => ?_
        cases plain ho with
        | ifElse _ _ h => exact h body rfl
  | .whileLoop _ condition body =>
    exact ih.whileLoop condition body (fun ho => by cases plain ho; assumption)
      (fun ho => by cases plain ho; assumption)
  | .loop _ body => exact ih.loop body fun ho => by cases plain ho; assumption
  | .forLoop _ x iterable body =>
    refine (ih.evaluate iterable fun ho => by cases plain ho; assumption).bind fun r hr => ?_
    refine (Lockstep.attempt fun _ _ alike => alike.iterate hr).bind fun items live => ?_
    exact ih.forLoop x body items (fun ho => by cases plain ho; assumption) live
  | .when _ subject arms =>
    refine (ih.evaluate subject fun ho => by cases plain ho; assumption).bind fun r hr => ?_
    refine (Lockstep.read (A := fun found => ∀ p ∈ found, (∀ b ∈ p.1, W.live (.value b.2)) ∧
      (o = .text → ∀ st ∈ p.2, st.Plain W.names)) ?_).bind fun found good => ?_
    · intro m n related
      obtain ⟨same, live⟩ := related.stores.firstMatch? arms hr
      refine ⟨same, fun p hp => ?_⟩
      obtain ⟨bound, arm, mem, span, pattern, rfl⟩ := live p hp
      refine ⟨bound, fun ho => ?_⟩
      cases plain ho with
      | when _ h =>
        cases h _ mem
        assumption
    · cases found with
      | none => exact .pure trivial
      | some p =>
        obtain ⟨live, body⟩ := good p rfl
        refine .inNewScope ?_
        refine (Lockstep.read (A := fun e => W.live (.scope e)) fun _ _ related =>
          ⟨related.scope, related.home.1⟩).bind fun e he => ?_
        exact (Lockstep.onStore (respects_declareAll he live)).bind fun _ _ => ih.block p.2 body
  | .return _ value =>
    cases value with
    | none => exact (Lockstep.bare (c := .none) rfl).bind fun _ hr => .pure hr
    | some e =>
      refine (ih.evaluate e fun ho => ?_).bind fun _ hr => .pure hr
      cases plain ho with
      | «return» h => exact h e rfl
  | .break _ value =>
    cases value with
    | none => exact .pure trivial
    | some e =>
      refine (ih.evaluate e fun ho => ?_).map fun _ h => h
      cases plain ho with
      | «break» h => exact h e rfl
  | .continue _ => exact .pure trivial

theorem whileLoop_step (ih : W.Evaluates S o d call call' fuel) (condition : Expr)
    (body : List Stmt) (hc : o = .text → condition.Plain W.names)
    (hb : o = .text → ∀ st ∈ body, st.Plain W.names) :
    W.Lockstep S o d W.LiveFlow (Run.whileLoop call (fuel + 1) condition body)
      (Run.whileLoop call' (fuel + 1) condition body) := by
  unfold Run.whileLoop
  refine (ih.evaluate condition hc).bind fun r hr => ?_
  refine (Lockstep.truthy hr).bind fun holds _ => ?_
  split
  · refine (ih.block body hb).bind fun flow live => ?_
    cases hf : flow.afterRound with
    | none => exact ih.whileLoop condition body hc hb
    | some left => exact .pure (live.afterRound hf)
  · exact .pure trivial

theorem loop_step (ih : W.Evaluates S o d call call' fuel) (body : List Stmt)
    (hb : o = .text → ∀ st ∈ body, st.Plain W.names) :
    W.Lockstep S o d W.LiveFlow (Run.loop call (fuel + 1) body)
      (Run.loop call' (fuel + 1) body) := by
  unfold Run.loop
  refine (ih.block body hb).bind fun flow live => ?_
  cases hf : flow.afterRound with
  | none => exact ih.loop body hb
  | some left => exact .pure (live.afterRound hf)

theorem forLoop_step (ih : W.Evaluates S o d call call' fuel) (x : String) (body : List Stmt)
    (items : List Ref) (hb : o = .text → ∀ st ∈ body, st.Plain W.names)
    (live : ∀ r ∈ items, W.live (.value r)) :
    W.Lockstep S o d W.LiveFlow (Run.forLoop call (fuel + 1) x body items)
      (Run.forLoop call' (fuel + 1) x body items) := by
  unfold Run.forLoop
  match items with
  | [] => exact .pure trivial
  | item :: items =>
    refine (Lockstep.inNewScope (A := W.LiveFlow) ?_).bind fun flow good => ?_
    · exact (Lockstep.declare (live item List.mem_cons_self) x true).bind fun _ _ =>
        ih.block body hb
    · cases hf : flow.afterRound with
      | none => exact ih.forLoop x body items hb fun r hr => live r (List.mem_cons_of_mem _ hr)
      | some left => exact .pure (good.afterRound hf)

end Evaluates

/-- All code is in lockstep when calls are. -/
theorem Calls.evaluates (hc : W.Calls S d call call') (fuel : Nat) :
    W.Evaluates S o d call call' fuel := by
  induction fuel with
  | zero =>
    constructor <;> intros
    case evaluate => unfold Run.evaluate; exact .exhausted
    case evaluateAll => unfold Run.evaluateAll; exact .exhausted
    case evaluateEntries => unfold Run.evaluateEntries; exact .exhausted
    case assign => unfold Run.assign; exact .exhausted
    case sequence => unfold Run.sequence; exact .exhausted
    case block => unfold Run.block; exact .exhausted
    case execute => unfold Run.execute; exact .exhausted
    case whileLoop => unfold Run.whileLoop; exact .exhausted
    case loop => unfold Run.loop; exact .exhausted
    case forLoop => unfold Run.forLoop; exact .exhausted
  | succ fuel ih =>
    exact {
      evaluate := ih.evaluate_step hc
      evaluateAll := ih.evaluateAll_step
      evaluateEntries := ih.evaluateEntries_step
      assign := ih.assign_step
      sequence := ih.sequence_step
      block := ih.block_step
      execute := ih.execute_step
      whileLoop := ih.whileLoop_step
      loop := ih.loop_step
      forLoop := ih.forLoop_step }

end Sharing

end LayerScript
