import LayerScript.Proofs.Guarded
import LayerScript.Proofs.Sorting

/-!
# What native functions change

Most native functions only make new values. A few change an array or a map, which is always their
first argument, and they do so in one step after everything that can fail. What a callback does
in between is its own.
-/

namespace LayerScript

/-! ## What is left as it was -/

namespace Store

variable {P Q : Ref → Prop} {s t u : Store}

/-- Whatever there was is still there, and it is as it was, apart from values that `P` holds of. -/
structure Leaves (P : Ref → Prop) (s t : Store) : Prop where
  has : ∀ p, s.Has p → t.Has p
  value : ∀ r, s.Has (.value r) → ¬ P r → t.cell r = s.cell r
  scope : ∀ e, s.Has (.scope e) → t.scope e = s.scope e

namespace Leaves

theorem refl (s : Store) : s.Leaves P s :=
  ⟨fun _ h => h, fun _ _ _ => rfl, fun _ _ => rfl⟩

theorem trans (h : s.Leaves P t) (h' : t.Leaves P u) : s.Leaves P u where
  has p hp := h'.has p (h.has p hp)
  value r hr other := (h'.value r (h.has _ hr) other).trans (h.value r hr other)
  scope e he := (h'.scope e (h.has _ he)).trans (h.scope e he)

theorem mono (h : s.Leaves P t) (imp : ∀ r, P r → Q r) : s.Leaves Q t :=
  ⟨h.has, fun r hr other => h.value r hr fun hp => other (imp r hp), h.scope⟩

theorem alloc (s : Store) (c : Cell) : s.Leaves P (s.alloc c).2 where
  has _ hp := has_alloc hp
  value _ hr _ := cell_alloc_of_ne (ne_of_has hr)
  scope e _ := scope_alloc c e

theorem modify {r : Ref} (mine : P r) (s : Store) (f : Cell → Cell) :
    s.Leaves P (s.modify r f) where
  has _ hp := has_modify.2 hp
  value r' _ other := by
    refine cell_modify_of_ne ?_ f
    rintro rfl
    exact other mine
  scope e _ := scope_modify r f e

end Leaves

/-- A modest effect leaves everything else. -/
theorem Modest.leaves {α : Type} {f : Effect α} (h : Modest P f) (s : Store) :
    s.Leaves P (f s).2 := by
  induction h generalizing s with
  | keep => exact .refl s
  | alloc => exact .alloc s _
  | inTurn _ _ first next => exact (first s).trans (next _ _)
  | modifyArray mine => exact .modify mine s _
  | modifyMap mine => exact .modify mine s _

end Store

/-! ## Between the callbacks -/

section

variable {σ α β : Type}

/-- A run between the calls that it makes, all of them of the callback: until it ends, it leaves
everything as it was, and it changes what `P` holds of only as it ends without a failure. It ends
with a call that fails. -/
inductive Interleaves (call : Caller σ) (callback : Option Ref) (P : Ref → Prop) :
    Machine σ → List (Invocation σ) → Outcome σ α → Prop
  | done {m m' : Machine σ} {a : α} (own : m.store.Leaves P m'.store) :
    Interleaves call callback P m [] (.done a m')
  | failed {m m' : Machine σ} {d : Diagnostic} (own : m.store.Leaves (fun _ => False) m'.store) :
    Interleaves call callback P m [] (.failed d m')
  | exhausted {m : Machine σ} : Interleaves call callback P m [] .exhausted
  | returned {m m' : Machine σ} {q : Invocation σ} {made : List (Invocation σ)} {r : Ref}
    {o : Outcome σ α} (own : m.store.Leaves (fun _ => False) q.machine.store)
    (called : callback = some q.function ∧ q.receiver = none)
    (ended : call q.function q.receiver q.args q.machine = .done r m')
    (rest : Interleaves call callback P m' made o) :
    Interleaves call callback P m (q :: made) o
  | broken {m m' : Machine σ} {q : Invocation σ} {d : Diagnostic}
    (own : m.store.Leaves (fun _ => False) q.machine.store)
    (called : callback = some q.function ∧ q.receiver = none)
    (ended : call q.function q.receiver q.args q.machine = .failed d m') :
    Interleaves call callback P m [q] (.failed d m')
  | endless {m : Machine σ} {q : Invocation σ}
    (own : m.store.Leaves (fun _ => False) q.machine.store)
    (called : callback = some q.function ∧ q.receiver = none)
    (ended : call q.function q.receiver q.args q.machine = .exhausted) :
    Interleaves call callback P m [q] .exhausted

namespace Interleaves

variable {call : Caller σ} {callback : Option Ref} {P : Ref → Prop} {m m' : Machine σ}
  {made : List (Invocation σ)} {o : Outcome σ α}

theorem after (own : m.store.Leaves (fun _ => False) m'.store)
    (h : Interleaves call callback P m' made o) : Interleaves call callback P m made o := by
  have free {t : Store} (h : m'.store.Leaves (fun _ => False) t) := own.trans h
  cases h with
  | done own' => exact .done ((own.mono fun _ => False.elim).trans own')
  | failed own' => exact .failed (free own')
  | exhausted => exact .exhausted
  | returned own' called ended rest => exact .returned (free own') called ended rest
  | broken own' called ended => exact .broken (free own') called ended
  | endless own' called ended => exact .endless (free own') called ended

theorem bind {f : α → Run σ β} {more : α → Machine σ → List (Invocation σ)}
    (h : Interleaves call callback (fun _ => False) m made o)
    (next : ∀ a m', o = .done a m' → Interleaves call callback P m' (more a m') (f a m')) :
    Interleaves call callback P m (made ++ o.andThen more) (o.bind f) := by
  induction h with
  | done own => exact (next _ _ rfl).after own
  | failed own => exact .failed own
  | exhausted => exact .exhausted
  | returned own called ended _ ih => exact .returned own called ended (ih next)
  | broken own called ended => exact .broken own called ended
  | endless own called ended => exact .endless own called ended

end Interleaves

/-! ## Native functions -/

namespace Routine

/-- Whatever a routine runs on, it does nothing else between its calls of the callback. -/
def Apart (callback : Option Ref) (P : Ref → Prop) {p : Part} (x : Routine σ p α) : Prop :=
  ∀ out call m, Interleaves call callback P m (x.invocations out call m) (x.run out call m)

variable {p : Part} {callback : Option Ref} {P : Ref → Prop}

theorem apart_pure (a : α) : (pure a : Routine σ p α).Apart callback P :=
  fun _ _ m => .done (.refl m.store)

theorem apart_read (f : Machine σ → α) : (read f : Routine σ p α).Apart callback P :=
  fun _ _ m => .done (.refl m.store)

theorem apart_raise (fault : Fault) : (raise fault : Routine σ .call α).Apart callback P :=
  fun _ _ m => .failed (.refl m.store)

theorem apart_onStore {f : Store.Effect α} (h : ∀ s : Store, s.Leaves P (f s).2) :
    (onStore f : Routine σ p α).Apart callback P :=
  fun _ _ m => .done (h m.store)

theorem apart_alloc (c : Cell) : (alloc c : Routine σ p Ref).Apart callback P :=
  apart_onStore fun s => .alloc s c

theorem apart_bind {x : Routine σ p α} {f : α → Routine σ p β}
    (first : x.Apart callback fun _ => False) (next : ∀ a, (f a).Apart callback P) :
    (x >>= f).Apart callback P :=
  fun out call m => (first out call m).bind fun a m' _ => next a out call m'

theorem apart_call (f : Ref) (args : List Ref) :
    (Routine.call f none args : Routine σ .call Ref).Apart (some f) P := by
  intro out call m
  have called : some f = some f ∧ (none : Option Ref) = none := ⟨rfl, rfl⟩
  change Interleaves call _ _ m [⟨f, none, args, m⟩] (call f none args m)
  cases ended : call f none args m with
  | done r m' => exact .returned (.refl m.store) called ended (.done (.refl m'.store))
  | failed d m' => exact .broken (.refl m.store) called ended
  | exhausted => exact .endless (.refl m.store) called ended

theorem apart_check (f : Store → Except Fault α) :
    (check f : Routine σ .call α).Apart callback P := by
  refine apart_bind (apart_read _) fun answer => ?_
  cases answer with
  | ok a => exact apart_pure a
  | error fault => exact apart_raise fault

theorem apart_write (level : Level) (payload : List Ref) :
    (write level payload : Routine σ .call Unit).Apart callback P := by
  intro out call m
  change Interleaves call _ _ m [] (Run.write out level payload m)
  obtain ⟨-, ended⟩ | ⟨sink, -, ended⟩ | ⟨e, sink, -, ended⟩ :=
    Run.write_cases out level payload m
  · rw [ended]
    exact .exhausted
  · rw [ended]
    exact .done (.refl m.store)
  · rw [ended]
    exact .failed (.refl m.store)

theorem apart_attempt {f : Store → Except Fault (Store.Effect α)}
    (h : ∀ s, Passes (Store.Modest P) (f s)) :
    (attempt f : Routine σ .call α).Apart callback P := by
  intro out call m
  have own : (attempt f).invocations out call m = [] := by
    rw [attempt, invocations_bind, invocations_check, List.nil_append]
    cases (check f).run out call m <;> rfl
  rw [own, run_attempt, Run.attempt, Run.bind, Run.check]
  have passes := h m.store
  cases passed : f m.store with
  | ok effect =>
    rw [passed] at passes
    exact .done (passes.holds.leaves m.store)
  | error fault => exact .failed (.refl m.store)

/-! ### Callbacks for each element -/

theorem apart_orderNumber (verdict : Ref) :
    (orderNumber verdict : Routine σ .call Float).Apart callback P :=
  apart_check _

theorem apart_itemsFor (function : String) (r : Ref) :
    (itemsFor function r : Routine σ .call (List Ref)).Apart callback P :=
  apart_check _

theorem apart_truthy (r : Ref) : (truthy r : Routine σ p Bool).Apart callback P :=
  apart_bind (apart_read _) fun _ => apart_pure _

variable (f : Ref)

theorem apart_mapItems (index : Nat) (items : List Ref) :
    (mapItems f index items : Routine σ .call _).Apart (some f) P := by
  induction items generalizing index P with
  | nil => exact apart_pure []
  | cons item items ih =>
    refine apart_bind (apart_alloc _) fun i => apart_bind (apart_call f _) fun r => ?_
    exact apart_bind (ih _) fun rs => apart_pure _

theorem apart_filterItems (index : Nat) (items : List Ref) :
    (filterItems f index items : Routine σ .call _).Apart (some f) P := by
  induction items generalizing index P with
  | nil => exact apart_pure []
  | cons item items ih =>
    refine apart_bind (apart_alloc _) fun i => apart_bind (apart_call f _) fun verdict => ?_
    refine apart_bind (apart_truthy _) fun keep => apart_bind (ih _) fun rs => apart_pure _

theorem apart_reduceItems (index : Nat) (total : Ref) (items : List Ref) :
    (reduceItems f index total items : Routine σ .call _).Apart (some f) P := by
  induction items generalizing index total with
  | nil => exact apart_pure total
  | cons item items ih =>
    exact apart_bind (apart_alloc _) fun i => apart_bind (apart_call f _) fun r => ih _ r

theorem apart_findItem (index : Nat) (items : List Ref) :
    (findItem f index items : Routine σ .call _).Apart (some f) P := by
  induction items generalizing index with
  | nil => exact apart_pure none
  | cons item items ih =>
    refine apart_bind (apart_alloc _) fun i => apart_bind (apart_call f _) fun verdict => ?_
    refine apart_bind (apart_truthy _) fun found => ?_
    cases found with
    | true => exact apart_pure (some item)
    | false => exact ih _

theorem apart_insertItem (item : Ref) (sorted : List Ref) :
    (insertItem f item sorted : Routine σ .call _).Apart (some f) P := by
  induction sorted generalizing P with
  | nil => exact apart_pure [item]
  | cons last before ih =>
    refine apart_bind (apart_call f _) fun verdict => ?_
    refine apart_bind (apart_orderNumber _) fun order => ?_
    by_cases behind : order ≤ 0
    · rw [if_pos behind]
      exact apart_pure _
    · rw [if_neg behind]
      exact apart_bind ih fun rest => apart_pure _

theorem apart_sortItems (sorted items : List Ref) :
    (sortItems f sorted items : Routine σ .call _).Apart (some f) P := by
  induction items generalizing sorted with
  | nil => exact apart_pure sorted
  | cons item items ih => exact apart_bind (apart_insertItem f item sorted) fun sorted => ih sorted

end Routine

/-- What a call may change: the first argument, if the function is one of these six. -/
def Native.Changes (f : Native) (args : List Ref) (r : Ref) : Prop :=
  f ∈ [.plain .push, .plain .pop, .plain .unshift, .plain .insert, .plain .remove,
    .traversal .sortBy] ∧ args.head? = some r

/-- What a call calls: the second argument, if the function is one that calls it. -/
def Native.callback? (f : Native) (args : List Ref) : Option Ref :=
  match f with
  | .traversal _ => args[1]?
  | _ => none

namespace Routine

variable {p : Part} {callback : Option Ref} {P : Ref → Prop}

theorem apart_traverse (op : Traversal) (args : List Ref) :
    (traverse op args : Routine σ .call Ref).Apart
      ((Native.traversal op).callback? args) ((Native.traversal op).Changes args) := by
  unfold traverse
  split
  case h_1 a f =>
    exact apart_bind (apart_itemsFor _ _) fun items => apart_bind (apart_mapItems f 0 items)
      fun rs => apart_alloc _
  case h_2 a f =>
    exact apart_bind (apart_itemsFor _ _) fun items => apart_bind (apart_filterItems f 0 items)
      fun rs => apart_alloc _
  case h_3 a f start =>
    exact apart_bind (apart_itemsFor _ _) fun items => apart_reduceItems f 0 start items
  case h_4 a f =>
    refine apart_bind (apart_itemsFor _ _) fun items => apart_bind (apart_findItem f 0 items)
      fun found => ?_
    cases found with
    | some r => exact apart_pure r
    | none => exact apart_alloc _
  case h_5 a f =>
    refine apart_bind (apart_read _) fun c => ?_
    cases c with
    | array items =>
      refine apart_bind (apart_sortItems f [] items.toList) fun sorted => apart_onStore fun s => ?_
      exact .modify ⟨by simp, rfl⟩ s _
    | _ => exact apart_raise _
  case h_6 => exact apart_raise _

/-- A call of a native function. -/
def native (f : Native) (args : List Ref) : Routine σ .call Ref :=
  match f with
  | .plain op => attempt (op.run args)
  | .traversal op => traverse op args
  | .console level => do
    write level args
    alloc .none

theorem apart_native (f : Native) (args : List Ref) :
    (native f args : Routine σ .call Ref).Apart (f.callback? args) (f.Changes args) := by
  cases f with
  | plain op =>
    refine apart_attempt fun s => (Plain.modest_run s op args).imp fun effect modest => ?_
    exact modest.mono fun r ⟨mem, first⟩ => ⟨by simpa using mem, first⟩
  | traversal op => exact apart_traverse op args
  | console level => exact apart_bind (apart_write level args) fun _ => apart_alloc _

theorem invocations_activate {g : Ref} {f : Native} {m : Machine σ}
    (native : m.store.cell g = .native f) (out : Sink σ) (call : Caller σ) (fuel : Nat)
    (receiver : Option Ref) (args : List Ref) :
    (activate fuel g receiver args).invocations out call m =
      (Routine.native f args).invocations out call m := by
  have looked : (cell g : Routine σ .call Cell).invocations out call m = [] := rfl
  rw [activate, invocations_bind, looked, run_cell, Run.cell, native, List.nil_append]
  cases f <;> rfl

theorem run_native {g : Ref} {f : Native} {m : Machine σ} (native : m.store.cell g = .native f)
    (out : Sink σ) (call : Caller σ) (fuel : Nat) (receiver : Option Ref) (args : List Ref) :
    (Routine.native f args).run out call m = Run.activate out call fuel g receiver args m := by
  rw [← run_activate, activate, run_bind, run_cell]
  simp only [bind, Run.bind, Run.cell, native]
  cases f <;> rfl

end Routine

/-- Apart from what its callbacks do, a native function changes no value that there is, unless it is
one of six; these change their first argument at most, and only when they do not fail. No step of a
call goes without an answer, apart from a counter that overflows. -/
theorem Run.natives_change_first_argument (out : Sink σ) (fuel : Nat) (m : Machine σ) (g : Ref)
    (f : Native) (native : m.store.cell g = .native f) (receiver : Option Ref) (args : List Ref) :
    (m.store.Countable → (∀ op, f = .plain op → ¬ op.Overflows args m.store) →
      (guardedNative out (call out fuel) f args).run m =
        (call out (fuel + 1) g receiver args m).bind fun r => pure (some r)) ∧
    (∀ op, f = .plain op → op.Overflows args m.store →
      (guardedNative out (call out fuel) f args).run m = .done none m) ∧
    Interleaves (call out fuel) (f.callback? args) (f.Changes args) m
      ((Routine.activate fuel g receiver args).invocations out (call out fuel) m)
      (call out (fuel + 1) g receiver args m) := by
  refine ⟨fun small within => guardedNative_eq native small within out fuel receiver, ?_, ?_⟩
  · rintro op rfl overflows
    exact guardedNative_of_overflows overflows out (call out fuel)
  · rw [Routine.invocations_activate native, call, ← Routine.run_native native]
    exact Routine.apart_native f args out (call out fuel) m

/-- An array is pushed to itself, and another one stays empty. -/
theorem Run.natives_change_first_argument_push :
    let out : Sink Unit := ⟨fun _ _ _ k => some (.ok (), k)⟩
    let m : Machine Unit :=
      ⟨⟨#[.array #[.cell 0], .native (.plain .push), .array #[]], #[], 0⟩, ⟨0⟩, ⟨0⟩, .cell 2,
        false, 0, none, ()⟩
    m.store.cell (.cell 1) = .native (.plain .push) ∧ m.store.Countable ∧
      ∃ m', (guardedNative out (call out 0) (.plain .push) [.cell 0, .cell 0]).run m =
          .done (some (.scalar 0 (.int 2))) m' ∧
        m'.store.cell (.cell 0) = .array #[.cell 0, .cell 0] ∧
        m'.store.cell (.cell 2) = .array #[] := by
  intro out m
  have small : m.store.Countable := by
    rintro (⟨serial, value⟩ | _ | _ | _ | n) items found
    · cases value <;> cases found
    all_goals cases found
    · decide
    · decide
  obtain ⟨guarded, -, apart⟩ := natives_change_first_argument out 0 m (.cell 1) _ rfl none
    [.cell 0, .cell 0]
  refine ⟨rfl, small, _, guarded small ?_, rfl, ?_⟩
  · rintro _ ⟨⟩ ⟨eq, -⟩
    cases eq
  · cases apart with
    | done own =>
      refine own.value (.cell 2) (show 2 < 3 by decide) ?_
      rintro ⟨-, first⟩
      cases first

end

end LayerScript
