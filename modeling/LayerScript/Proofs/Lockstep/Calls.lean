import LayerScript.Machine.Call
import LayerScript.Proofs.Lockstep.Evaluation
import LayerScript.Proofs.Lockstep.Natives

/-!
# Calls in lockstep

Calls are in lockstep when the calls inside them are, and so all calls are, by induction on the
fuel.
-/

namespace LayerScript

/-- The arguments that a traversal passes to the function it is given. -/
def Traversal.Passes : Traversal → List Ref → Prop
  | .map, args | .filter, args | .find, args => ∃ item k n, args = [item, .scalar k (.int n)]
  | .reduce, args => ∃ total item k n, args = [total, item, .scalar k (.int n)]
  | .sortBy, args => ∃ a b, args = [a, b]

namespace Sharing

variable {W : Sharing} {σ τ α β : Type} {S : σ → τ → Prop} {o : Origin} {d : Nat}
  {call : Caller σ} {call' : Caller τ}

/-! ## Traversals -/

/-- The calls that a traversal makes are in lockstep. -/
def Callback (W : Sharing) (S : σ → τ → Prop) (o : Origin) (d : Nat) (call : Caller σ)
    (call' : Caller τ) (op : Traversal) (f : Ref) : Prop :=
  ∀ args, op.Passes args → (∀ a ∈ args, W.live (.value a)) →
    W.Lockstep S o d (fun r => W.live (.value r)) (call f none args) (call' f none args)

theorem Lockstep.counter (n : Int64) :
    W.Lockstep S o d (fun i => W.live (.value i) ∧ ∃ k, i = .scalar k (.int n))
      (Run.alloc (.int n)) (Run.alloc (.int n)) := by
  refine .onStore fun s t alike => ?_
  have moved := respects_bare (W := W) (c := .int n) rfl s t alike
  exact { moved with good := ⟨moved.good, _, rfl⟩ }

theorem Lockstep.orderNumber {verdict : Ref} (hv : W.live (.value verdict)) :
    W.Lockstep S o d (fun _ => True) (Run.orderNumber verdict) (Run.orderNumber verdict) :=
  .check fun _ _ alike => alike.numberOf _ hv

theorem Lockstep.itemsFor (function : String) {a : Ref} (ha : W.live (.value a)) :
    W.Lockstep S o d (fun items => ∀ r ∈ items, W.live (.value r)) (Run.itemsFor function a)
      (Run.itemsFor function a) :=
  .check fun _ _ alike => (alike.itemsOf function ha).map fun _ live => live

section

variable {f : Ref} {items : List Ref} (live : ∀ r ∈ items, W.live (.value r))

include live

theorem Lockstep.mapItems (hf : W.Callback S o d call call' .map f) (index : Nat) :
    W.Lockstep S o d (fun rs => ∀ r ∈ rs, W.live (.value r)) (Run.mapItems call f index items)
      (Run.mapItems call' f index items) := by
  induction items generalizing index with
  | nil => exact .pure live
  | cons item items ih =>
    rw [List.forall_mem_cons] at live
    unfold Run.mapItems
    refine (Lockstep.counter _).bind ?_
    rintro i ⟨hi, k, rfl⟩
    refine (hf _ ⟨item, k, _, rfl⟩ (by simp [live.1, hi])).bind fun r hr => ?_
    refine (ih live.2 (index + 1)).bind fun rs hrs => .pure ?_
    rw [List.forall_mem_cons]
    exact ⟨hr, hrs⟩

theorem Lockstep.filterItems (hf : W.Callback S o d call call' .filter f) (index : Nat) :
    W.Lockstep S o d (fun rs => ∀ r ∈ rs, W.live (.value r)) (Run.filterItems call f index items)
      (Run.filterItems call' f index items) := by
  induction items generalizing index with
  | nil => exact .pure live
  | cons item items ih =>
    rw [List.forall_mem_cons] at live
    unfold Run.filterItems
    refine (Lockstep.counter _).bind ?_
    rintro i ⟨hi, k, rfl⟩
    refine (hf _ ⟨item, k, _, rfl⟩ (by simp [live.1, hi])).bind fun verdict hv => ?_
    refine (Lockstep.truthy hv).bind fun keep _ => ?_
    refine (ih live.2 (index + 1)).bind fun rs hrs => .pure ?_
    split
    · rw [List.forall_mem_cons]
      exact ⟨live.1, hrs⟩
    · exact hrs

theorem Lockstep.reduceItems (hf : W.Callback S o d call call' .reduce f) (index : Nat)
    {total : Ref} (ht : W.live (.value total)) :
    W.Lockstep S o d (fun r => W.live (.value r)) (Run.reduceItems call f index total items)
      (Run.reduceItems call' f index total items) := by
  induction items generalizing index total with
  | nil => exact .pure ht
  | cons item items ih =>
    rw [List.forall_mem_cons] at live
    unfold Run.reduceItems
    refine (Lockstep.counter _).bind ?_
    rintro i ⟨hi, k, rfl⟩
    refine (hf _ ⟨total, item, k, _, rfl⟩ (by simp [ht, live.1, hi])).bind fun r hr => ?_
    exact ih live.2 (index + 1) hr

theorem Lockstep.findItem (hf : W.Callback S o d call call' .find f) (index : Nat) :
    W.Lockstep S o d (fun found => ∀ r ∈ found, W.live (.value r))
      (Run.findItem call f index items) (Run.findItem call' f index items) := by
  induction items generalizing index with
  | nil => exact .pure fun _ h => nomatch h
  | cons item items ih =>
    rw [List.forall_mem_cons] at live
    unfold Run.findItem
    refine (Lockstep.counter _).bind ?_
    rintro i ⟨hi, k, rfl⟩
    refine (hf _ ⟨item, k, _, rfl⟩ (by simp [live.1, hi])).bind fun verdict hv => ?_
    refine (Lockstep.truthy hv).bind fun found _ => ?_
    split
    · refine .pure ?_
      rintro _ ⟨⟩
      exact live.1
    · exact ih live.2 (index + 1)

theorem Lockstep.insertItem (hf : W.Callback S o d call call' .sortBy f) {item : Ref}
    (hi : W.live (.value item)) :
    W.Lockstep S o d (fun rs => ∀ r ∈ rs, W.live (.value r)) (Run.insertItem call f item items)
      (Run.insertItem call' f item items) := by
  induction items with
  | nil => exact .pure (by simpa using hi)
  | cons last before ih =>
    rw [List.forall_mem_cons] at live
    unfold Run.insertItem
    refine (hf _ ⟨last, item, rfl⟩ (by simp [live.1, hi])).bind fun verdict hv => ?_
    refine (Lockstep.orderNumber hv).bind fun order _ => ?_
    split
    · refine .pure ?_
      rw [List.forall_mem_cons, List.forall_mem_cons]
      exact ⟨hi, live⟩
    · refine (ih live.2).bind fun rest hrest => .pure ?_
      rw [List.forall_mem_cons]
      exact ⟨live.1, hrest⟩

theorem Lockstep.sortItems (hf : W.Callback S o d call call' .sortBy f) {sorted : List Ref}
    (hs : ∀ r ∈ sorted, W.live (.value r)) :
    W.Lockstep S o d (fun rs => ∀ r ∈ rs, W.live (.value r)) (Run.sortItems call f sorted items)
      (Run.sortItems call' f sorted items) := by
  induction items generalizing sorted with
  | nil => exact .pure hs
  | cons item items ih =>
    rw [List.forall_mem_cons] at live
    exact (Lockstep.insertItem hs hf live.1).bind fun rs hrs => ih live.2 hrs

end

theorem Lockstep.traverse {op : Traversal} {args : List Ref}
    (live : ∀ a ∈ args, W.live (.value a)) (hf : ∀ f ∈ args[1]?, W.Callback S o d call call' op f) :
    W.Lockstep S o d (fun r => W.live (.value r)) (Run.traverse call op args)
      (Run.traverse call' op args) := by
  unfold Run.traverse
  split
  · next a f =>
    refine (Lockstep.itemsFor _ (live a (by simp))).bind fun items hi => ?_
    refine (Lockstep.mapItems hi (hf f rfl) 0).bind fun rs hrs => ?_
    exact .alloc fun _ => fits_array.2 hrs
  · next a f =>
    refine (Lockstep.itemsFor _ (live a (by simp))).bind fun items hi => ?_
    refine (Lockstep.filterItems hi (hf f rfl) 0).bind fun rs hrs => ?_
    exact .alloc fun _ => fits_array.2 hrs
  · next a f start =>
    refine (Lockstep.itemsFor _ (live a (by simp))).bind fun items hi => ?_
    exact .reduceItems hi (hf f rfl) 0 (live start (by simp))
  · next a f =>
    refine (Lockstep.itemsFor _ (live a (by simp))).bind fun items hi => ?_
    refine (Lockstep.findItem hi (hf f rfl) 0).bind fun found good => ?_
    cases found with
    | none => exact .bare rfl
    | some r => exact .pure (good r rfl)
  · next a f =>
    have ha : W.live (.value a) := live a (by simp)
    refine .onCell ha fun m n related => ?_
    cases hc : m.store.cell a with
    | array items =>
      have hi := related.stores.live_item ha hc
      refine Lockstep.bind (.sortItems hi (hf f rfl) (by simp)) (fun sorted hs => ?_) m n related
      refine .onStore (respects_modifyArray ha (fun _ _ r hr => ?_) ha)
      exact hs r (by simpa using hr)
    | _ => exact .failed related (.refl _)
  · exact .raise _

/-! ## Functions of scripts -/

theorem respects_declareParams {e : ScopeId} (he : W.live (.scope e)) (params : List String)
    {args : List Ref} (live : ∀ a ∈ args, W.live (.value a)) :
    W.Respects (fun _ => True) fun s => ((), s.declareParams e params args) := by
  induction params generalizing args with
  | nil => exact respects_keep trivial
  | cons x params ih =>
    cases args with
    | nil =>
      refine (respects_bare (c := .none) rfl).seq
        (g := fun r s => ((), (s.declare e x r true).declareParams e params [])) fun r hr => ?_
      exact (respects_declare he hr x true).seq
        (g := fun _ s => ((), s.declareParams e params [])) fun _ _ => ih (by simp)
    | cons a args =>
      rw [List.forall_mem_cons] at live
      exact (respects_declare he live.1 x true).seq
        (g := fun _ s => ((), s.declareParams e params args)) fun _ _ => ih live.2

theorem Lockstep.bodyResult (f : Closure) {left : Flow × Span} (live : W.LiveFlow left.1) :
    W.Lockstep S o d (fun r => W.live (.value r)) (Run.bodyResult f left)
      (Run.bodyResult f left) := by
  unfold Run.bodyResult
  split
  · exact .bare rfl
  · split
    · exact .pure live
    · exact .bare rfl
  · exact .pure live
  · exact .raiseAt _ _
  · exact .raiseAt _ _

/-- The body of a function in a frame that is ready. -/
theorem Related.runBody {m : Machine σ} {n : Machine τ} {p : Origin} (h : W.Related S o d m n)
    (hc : W.Calls S (d + 1) call call') (fuel : Nat) (f : Closure) {frame : ScopeId}
    {receiver : Option Ref} (home : W.Live m.store (.scope frame))
    (plain : p = .text → W.seam.isSome ∧ ∀ st ∈ f.body, st.Plain W.names)
    (guest : p = .guest → W.Apart m.store frame ∧
      ∀ r ∈ f.receiver <|> receiver, W.live (.value r)) :
    W.Matched S o d (fun r => W.live (.value r)) m.store
      ((do
        let this ← match f.receiver <|> receiver with
          | some r => pure r
          | none => Run.alloc .none
        Run.inFrame (f.name.getD "<anonymous>") frame this do
          Run.bodyResult f (← Run.sequence call fuel f.body .next)) m)
      ((do
        let this ← match f.receiver <|> receiver with
          | some r => pure r
          | none => Run.alloc .none
        Run.inFrame (f.name.getD "<anonymous>") frame this do
          Run.bodyResult f (← Run.sequence call' fuel f.body .next)) n) := by
  have body : W.Lockstep S p (d + 1) (fun r => W.live (.value r))
      (do Run.bodyResult f (← Run.sequence call fuel f.body .next))
      (do Run.bodyResult f (← Run.sequence call' fuel f.body .next)) :=
    ((hc.evaluates fuel).sequence f.body .next (fun hp => (plain hp).2) trivial).bind
      fun _ live => .bodyResult f live
  cases hr : f.receiver <|> receiver with
  | some r =>
    exact h.inFrame _ home (fun hp => (plain hp).1)
      (fun hp => ⟨(guest hp).1, (guest hp).2 r hr⟩) body
  | none =>
    refine Matched.next (Lockstep.bare (c := .none) rfl m n h) fun r m' n' hr h' grows => ?_
    exact h'.inFrame _ (home.mono grows) (fun hp => (plain hp).1)
      (fun hp => ⟨(guest hp).1.mono h.stores home grows, hr⟩) body

/-- The calls in the body matter only where the limit is not reached. -/
theorem Related.activateClosure {m : Machine σ} {n : Machine τ} (h : W.Related S o d m n)
    (hc : d < callLimit → W.Calls S (d + 1) call call') (fuel : Nat) {f : Closure}
    {receiver : Option Ref}
    {args : List Ref} (hf : W.Fits m.store (.closure f))
    (hr : ∀ r ∈ receiver, W.live (.value r)) (live : ∀ a ∈ args, W.live (.value a)) :
    W.Matched S o d (fun r => W.live (.value r)) m.store
      (Run.activateClosure call fuel f receiver args m)
      (Run.activateClosure call' fuel f receiver args n) := by
  unfold Run.activateClosure
  refine Matched.next (A := fun depth => depth = d)
    (Lockstep.read (fun m n h => ⟨h.depths.2.trans h.depths.1.symm, h.depths.1⟩) m n h) ?_
  rintro depth m' n' rfl h' grows
  obtain ⟨home, code⟩ := hf.mono h.stores grows
  split
  · exact Lockstep.raise .callLimit m' n' h'
  · next within =>
    have hc := hc (Nat.lt_of_not_le within)
    have scope := h'.stores.newScope (some f.home) (by rintro _ ⟨⟩; exact home)
    have params := respects_declareParams scope.good f.params live _ _ scope.alike
    have frame : W.Live (m'.store.newScope (some f.home)).2
        (.scope (m'.store.newScope (some f.home)).1) :=
      ⟨scope.good, fun _ => Store.has_newScope_self _⟩
    refine h'.stepThen (A := fun _ => True) ⟨scope.value, trivial, ?_, ?_⟩ fun ready => ?_
    · simp only [scope.value]
      exact params.alike
    · exact scope.grows.trans params.grows
    · rcases code with plain | ⟨apart, receiver⟩
      · exact ready.runBody (p := .text) hc fuel f (frame.mono params.grows)
          (fun _ => plain) (fun hp => nomatch hp)
      · refine ready.runBody (p := .guest) hc fuel f (frame.mono params.grows)
          (fun hp => nomatch hp) fun _ => ⟨?_, fun r hf => ?_⟩
        · exact (h'.stores.apart_newScope home apart).mono scope.alike frame params.grows
        · cases hs : f.receiver with
          | none => exact hr r (by simpa [hs] using hf)
          | some r' => exact receiver r (by simpa [hs] using hf)

/-! ## All calls -/

theorem Related.activate {m : Machine σ} {n : Machine τ} (h : W.Related S o d m n) {out : Sink σ}
    {out' : Sink τ} (answers : W.Answers S out out')
    (hc : d < callLimit → W.Calls S (d + 1) call call') (fuel : Nat) {f : Ref}
    {receiver : Option Ref} {args : List Ref} (hf : W.live (.value f))
    (hr : ∀ r ∈ receiver, W.live (.value r)) (live : ∀ a ∈ args, W.live (.value a))
    (ht : ∀ op, m.store.cell f = .native (.traversal op) →
      W.Matched S o d (fun r => W.live (.value r)) m.store (Run.traverse call op args m)
        (Run.traverse call' op args n)) :
    W.Matched S o d (fun r => W.live (.value r)) m.store
      (Run.activate out call fuel f receiver args m)
      (Run.activate out' call' fuel f receiver args n) := by
  have same := h.stores.cell f hf
  simp only [Run.activate, bind, Run.bind, Run.cell, same]
  cases hcell : m.store.cell f with
  | native native =>
    cases native with
    | plain op => exact Lockstep.attempt (fun _ _ alike => alike.plain op live) m n h
    | traversal op => exact ht op hcell
    | console level =>
      exact ((Lockstep.write answers level live).bind fun _ _ => .bare (c := .none) rfl) m n h
  | closure closure =>
    refine h.activateClosure hc fuel ?_ hr live
    rw [← hcell]
    exact h.stores.fits f hf
  | _ => exact Lockstep.raise _ m n h

/-- All calls of live values with live arguments are in lockstep. -/
theorem Answers.calls {out : Sink σ} {out' : Sink τ} (answers : W.Answers S out out')
    (fuel d : Nat) :
    W.Calls S d (Run.call out fuel) (Run.call out' fuel) := by
  induction fuel generalizing d with
  | zero => exact fun _ _ _ _ _ _ _ => .exhausted
  | succ fuel ih =>
    intro o f receiver args hf hr live m n related
    refine related.activate answers (fun _ => ih (d + 1)) fuel hf hr live fun op _ => ?_
    refine Lockstep.traverse live (fun g hg args' _ live' => ?_) m n related
    exact ih d o g none args' (live g (List.mem_of_getElem? hg)) (fun _ h => nomatch h) live'

end Sharing

end LayerScript
