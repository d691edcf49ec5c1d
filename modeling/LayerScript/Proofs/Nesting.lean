import LayerScript.Proofs.Frames
import LayerScript.Proofs.Lockstep.Calls

/-!
# How deep calls nest

A function of a script is not called inside 200 others. Native functions have no such limit of their
own: a traversal calls the function it is given, which may be a traversal again. `Run.limited` makes
calls with room for so many inside one another and leaves those beyond to another caller; calls nest
no deeper than that when the other caller makes no difference.

All traversals but one pass the index of an element to the function, and an index can neither be
called nor traversed, so that they soon end between two functions of the script. Sorting passes two
elements: a sort that compares with the sort function sorts the first by the second, without end if
an array contains itself.
-/

namespace LayerScript

def Cell.traversal? : Cell → Option Traversal
  | .native (.traversal op) => some op
  | _ => Option.none

theorem Cell.eq_of_traversal? {c : Cell} {op : Traversal} (h : c.traversal? = some op) :
    c = .native (.traversal op) := by
  unfold traversal? at h
  split at h
  · rw [Option.some.inj h]
  · exact nomatch h

/-- Whether a call takes room inside a function. Traversals inside traversals may be free of it. -/
def takesRoom (free : Traversal → Traversal → Bool) : Option Traversal → Option Traversal → Bool
  | some outer, some inner => !free outer inner
  | _, _ => true

namespace Run

variable {σ : Type}

/-- The caller inside a function that may be a traversal. -/
def callerIn (free : Traversal → Traversal → Bool) (outer : Option Traversal)
    (less same : Caller σ) : Caller σ :=
  fun f receiver args => do
    let inner := (← cell f).traversal?
    if takesRoom free outer inner then less f receiver args else same f receiver args

/-- Makes calls, up to `room` inside one another. Those beyond are made by `deeper`. -/
def limited (out : Sink σ) (free : Traversal → Traversal → Bool) (deeper : Caller σ) :
    (fuel room : Nat) → Caller σ
  | 0, _ => fun _ _ _ => exhausted
  | _ + 1, 0 => deeper
  | fuel + 1, room + 1 => fun f receiver args => do
    let outer := (← cell f).traversal?
    let call := callerIn free outer (limited out free deeper fuel room)
      (limited out free deeper fuel (room + 1))
    activate out call fuel f receiver args

end Run

/-- The room that suffices for a call when so many functions of scripts are running. -/
def roomFor (depth : Nat) : Nat :=
  3 * (callLimit - depth) + 4

namespace Run

variable {σ : Type} {m : Machine σ} {f : Ref}

theorem cell_bind {α : Type} (f : Ref) (k : Cell → Run σ α) (m : Machine σ) :
    (cell f >>= k) m = k (m.store.cell f) m :=
  rfl

theorem activate_uncallable (h : (m.store.cell f).kind ≠ .function) (out : Sink σ)
    (call : Caller σ) (fuel : Nat) (receiver : Option Ref) (args : List Ref) :
    activate out call fuel f receiver args m = raise (.notCallable (m.store.cell f).kind) m := by
  simp only [activate, bind, Run.bind, cell]
  cases hc : m.store.cell f <;> first | rfl | simp [hc, Cell.kind] at h

theorem callerIn_of_takesRoom {free : Traversal → Traversal → Bool} {outer : Option Traversal}
    (h : takesRoom free outer (m.store.cell f).traversal?) (less same : Caller σ)
    (receiver : Option Ref) (args : List Ref) :
    callerIn free outer less same f receiver args m = less f receiver args m := by
  rw [callerIn, cell_bind, if_pos h]

theorem callerIn_of_free {free : Traversal → Traversal → Bool} {outer : Option Traversal}
    (h : ¬ takesRoom free outer (m.store.cell f).traversal?) (less same : Caller σ)
    (receiver : Option Ref) (args : List Ref) :
    callerIn free outer less same f receiver args m = same f receiver args m := by
  rw [callerIn, cell_bind, if_neg h]

theorem callerIn_none (free : Traversal → Traversal → Bool) (less same : Caller σ) :
    callerIn free none less same = less := by
  funext f receiver args m
  exact callerIn_of_takesRoom rfl less same receiver args

theorem limited_succ (out : Sink σ) (free : Traversal → Traversal → Bool) (deeper : Caller σ)
    (fuel room : Nat) (f : Ref) (receiver : Option Ref) (args : List Ref) (m : Machine σ) :
    limited out free deeper (fuel + 1) (room + 1) f receiver args m =
      activate out (callerIn free (m.store.cell f).traversal? (limited out free deeper fuel room)
        (limited out free deeper fuel (room + 1))) fuel f receiver args m := by
  rw [limited]
  exact cell_bind f _ m

end Run

theorem Traversal.passes_index {op : Traversal} (sort : op ≠ .sortBy) (reduce : op ≠ .reduce)
    {args : List Ref} (h : op.Passes args) : ∃ item k i, args = [item, .scalar k (.int i)] := by
  cases op with
  | sortBy => exact absurd rfl sort
  | reduce => exact absurd rfl reduce
  | _ => obtain ⟨item, k, i, rfl⟩ := h; exact ⟨item, k, i, rfl⟩

namespace Sharing

open Run (limited callerIn limited_succ)

variable {σ : Type} {s : Store} {o : Origin} {d : Nat} {out : Sink σ}
  {free : Traversal → Traversal → Bool} {deeper : Caller σ} {fuel room : Nat} {m n : Machine σ}
  {call : Caller σ}

/-- One store beside itself, where everything is live. -/
def whole (s : Store) : Sharing :=
  ⟨fun _ => True, none, fun _ => True, s, s⟩

theorem answers_whole (s : Store) (out : Sink σ) : (whole s).Answers Eq out out := by
  rintro u v alike level payload - k _ rfl
  obtain rfl : v = u := alike.eq rfl rfl
  cases out.write v level payload k with
  | none => exact .none
  | some answer => exact .some rfl

/-- A caller that has this much room for each call, or more. -/
def Roomy (out : Sink σ) (free : Traversal → Traversal → Bool) (deeper : Caller σ)
    (fuel room : Nat) (call : Caller σ) : Prop :=
  ∀ f receiver args m, ∃ more, room ≤ more ∧
    call f receiver args m = limited out free deeper fuel more f receiver args m

theorem roomy_limited : Roomy out free deeper fuel room (limited out free deeper fuel room) :=
  fun _ _ _ _ => ⟨room, Nat.le_refl _, rfl⟩

theorem roomy_callerIn (outer : Option Traversal) : Roomy out free deeper fuel room
    (callerIn free outer (limited out free deeper fuel room)
      (limited out free deeper fuel (room + 1))) := by
  intro f receiver args m
  by_cases h : takesRoom free outer (m.store.cell f).traversal?
  · exact ⟨room, Nat.le_refl _, Run.callerIn_of_takesRoom h ..⟩
  · exact ⟨room + 1, Nat.le_succ _, Run.callerIn_of_free h ..⟩

theorem Roomy.zero (h : Roomy out free deeper 0 room call) (f : Ref) (receiver : Option Ref)
    (args : List Ref) (m n : Machine σ) :
    (whole s).Matched Eq o d (fun _ => True) m.store (Run.call out 0 f receiver args m)
      (call f receiver args n) := by
  obtain ⟨more, _, eq⟩ := h f receiver args n
  rw [eq]
  exact .exhausted

theorem Related.limited {f : Ref} {receiver : Option Ref} {args : List Ref}
    (h : (whole s).Related Eq o d m n) (hc : Roomy out free deeper (fuel + 1) (room + 1) call)
    (calls : ∀ call, Roomy out free deeper fuel room call → d < callLimit →
      (whole s).Calls Eq (d + 1) (Run.call out fuel) call)
    (ht : ∀ op, m.store.cell f = .native (.traversal op) → ∀ more, room ≤ more →
      (whole s).Matched Eq o d (fun _ => True) m.store
        (Run.traverse (Run.call out fuel) op args m)
        (Run.traverse (callerIn free (some op) (Run.limited out free deeper fuel more)
          (Run.limited out free deeper fuel (more + 1))) op args n)) :
    (whole s).Matched Eq o d (fun _ => True) m.store (Run.call out (fuel + 1) f receiver args m)
      (call f receiver args n) := by
  have same := h.stores.cell f trivial
  obtain ⟨more, enough, eq⟩ := hc f receiver args n
  obtain ⟨more, rfl⟩ : ∃ k, more = k + 1 := ⟨more - 1, by omega⟩
  rw [Run.call, eq, limited_succ, same]
  cases hop : (m.store.cell f).traversal? with
  | some op =>
    have hop := Cell.eq_of_traversal? hop
    rw [Run.activate_traversal hop, Run.activate_traversal (same.trans hop)]
    exact ht op hop more (by omega)
  | none =>
    rw [Run.callerIn_none]
    refine h.activate (answers_whole s out) (calls _ ?_) fuel trivial (fun _ _ => trivial)
      (fun _ _ => trivial) fun op cell => ?_
    · intro f receiver args m
      exact ⟨more, by omega, rfl⟩
    · simp [cell, Cell.traversal?] at hop

theorem Related.uncallable {A : Ref → Prop} {f : Ref} {receiver : Option Ref} {args : List Ref}
    (h : (whole s).Related Eq o d m n) (hc : Roomy out free deeper fuel (room + 1) call)
    (hf : (m.store.cell f).kind ≠ .function) :
    (whole s).Matched Eq o d A m.store (Run.call out fuel f receiver args m)
      (call f receiver args n) := by
  have same := h.stores.cell f trivial
  obtain ⟨more, enough, eq⟩ := hc f receiver args n
  obtain ⟨more, rfl⟩ : ∃ k, more = k + 1 := ⟨more - 1, by omega⟩
  rw [eq]
  cases fuel with
  | zero => exact .exhausted
  | succ fuel =>
    rw [Run.call, limited_succ, Run.activate_uncallable hf, Run.activate_uncallable (same ▸ hf),
      same]
    exact Lockstep.raise _ m n h

theorem Related.reduceIndex {A : Ref → Prop} {f a b : Ref} {receiver : Option Ref} {k : Nat}
    {i : Int64} (h : (whole s).Related Eq o d m n)
    (hc : Roomy out free deeper fuel (room + 1) call)
    (hf : m.store.cell f = .native (.traversal .reduce)) :
    (whole s).Matched Eq o d A m.store (Run.call out fuel f receiver [.scalar k (.int i), a, b] m)
      (call f receiver [.scalar k (.int i), a, b] n) := by
  have same := h.stores.cell f trivial
  obtain ⟨more, enough, eq⟩ := hc f receiver [.scalar k (.int i), a, b] n
  obtain ⟨more, rfl⟩ : ∃ k, more = k + 1 := ⟨more - 1, by omega⟩
  rw [eq]
  cases fuel with
  | zero => exact .exhausted
  | succ fuel =>
    rw [Run.call, limited_succ, Run.activate_traversal hf, Run.activate_traversal (same.trans hf)]
    have fails : (whole s).Matched Eq o d (fun _ => False) m.store
        (Run.itemsFor "std.collections.reduce" (.scalar k (.int i)) m)
        (Run.itemsFor "std.collections.reduce" (.scalar k (.int i)) n) :=
      .failed h (.refl _)
    exact fails.next fun _ _ _ => nofun

/-- What is called alike with and without a limit when so many functions of the script are running.
Less room is needed where the arguments end in an index. -/
structure Spans (s : Store) (out : Sink σ) (free : Traversal → Traversal → Bool)
    (deeper : Caller σ) (fuel : Nat) : Prop where
  any : ∀ d room call, roomFor d ≤ room → Roomy out free deeper fuel room call →
    (whole s).Calls Eq d (Run.call out fuel) call
  pair : ∀ o d room call, roomFor d ≤ room + 1 → Roomy out free deeper fuel room call →
    ∀ f a b m n, (whole s).Related Eq o d m n → m.store.cell f ≠ .native (.traversal .sortBy) →
      (whole s).Matched Eq o d (fun _ => True) m.store (Run.call out fuel f none [a, b] m)
        (call f none [a, b] n)
  triple : ∀ o d room call, roomFor d ≤ room + 1 → Roomy out free deeper fuel room call →
    ∀ f total item k i, (whole s).Lockstep Eq o d (fun _ => True)
      (Run.call out fuel f none [total, item, .scalar k (.int i)])
      (call f none [total, item, .scalar k (.int i)])
  indexed : ∀ o d room call, roomFor d ≤ room + 2 → Roomy out free deeper fuel room call →
    ∀ f item k i, (whole s).Lockstep Eq o d (fun _ => True)
      (Run.call out fuel f none [item, .scalar k (.int i)])
      (call f none [item, .scalar k (.int i)])
  folded : ∀ o d room call, roomFor d ≤ room + 2 → Roomy out free deeper fuel room call →
    ∀ f total item k i m n, (whole s).Related Eq o d m n →
      m.store.cell f ≠ .native (.traversal .reduce) →
      (whole s).Matched Eq o d (fun _ => True) m.store
        (Run.call out fuel f none [total, item, .scalar k (.int i)] m)
        (call f none [total, item, .scalar k (.int i)] n)

/-! ## One more step -/

section

variable (ih : Spans s out free deeper fuel)

include ih

theorem Spans.calls (h : roomFor d ≤ room + 3) (call : Caller σ)
    (hc : Roomy out free deeper fuel room call) (hd : d < callLimit) :
    (whole s).Calls Eq (d + 1) (Run.call out fuel) call := by
  have : roomFor (d + 1) ≤ room := by
    unfold roomFor at *
    omega
  exact ih.any (d + 1) room call this hc

theorem Spans.indexed_step (h : roomFor d ≤ room + 2)
    (hc : Roomy out free deeper (fuel + 1) room call) (f item : Ref) (k : Nat) (i : Int64) :
    (whole s).Lockstep Eq o d (fun _ => True)
      (Run.call out (fuel + 1) f none [item, .scalar k (.int i)])
      (call f none [item, .scalar k (.int i)]) := by
  obtain ⟨room, rfl⟩ : ∃ r, room = r + 2 := ⟨room - 2, by unfold roomFor at h; omega⟩
  intro m n related
  refine related.limited hc (ih.calls h) fun op _ more enough => ?_
  refine Lockstep.traverse (fun _ _ => trivial) (fun g hg args _ _ m n related => ?_) m n related
  obtain rfl : Ref.scalar k (.int i) = g := Option.some.inj hg
  obtain ⟨more, rfl⟩ : ∃ k, more = k + 1 := ⟨more - 1, by omega⟩
  exact related.uncallable (roomy_callerIn (some op))
    (by simp [Store.cell, Cell.ofLiteral, Cell.kind])

theorem Spans.folded_step (h : roomFor d ≤ room + 2)
    (hc : Roomy out free deeper (fuel + 1) room call) (f total item : Ref) (k : Nat) (i : Int64)
    (related : (whole s).Related Eq o d m n) (hf : m.store.cell f ≠ .native (.traversal .reduce)) :
    (whole s).Matched Eq o d (fun _ => True) m.store
      (Run.call out (fuel + 1) f none [total, item, .scalar k (.int i)] m)
      (call f none [total, item, .scalar k (.int i)] n) := by
  obtain ⟨room, rfl⟩ : ∃ r, room = r + 1 := ⟨room - 1, by unfold roomFor at h; omega⟩
  refine related.limited hc (ih.calls h) fun op hop _ _ => ?_
  cases op with
  | reduce => exact absurd hop hf
  | _ => exact Lockstep.raise _ m n related

theorem Spans.pair_step (h : roomFor d ≤ room + 1)
    (hc : Roomy out free deeper (fuel + 1) room call) (f a b : Ref)
    (related : (whole s).Related Eq o d m n) (hf : m.store.cell f ≠ .native (.traversal .sortBy)) :
    (whole s).Matched Eq o d (fun _ => True) m.store (Run.call out (fuel + 1) f none [a, b] m)
      (call f none [a, b] n) := by
  obtain ⟨room, rfl⟩ : ∃ r, room = r + 1 := ⟨room - 1, by unfold roomFor at h; omega⟩
  refine related.limited hc (ih.calls (by omega)) fun op hop more enough => ?_
  by_cases reduce : op = .reduce
  · subst reduce
    exact Lockstep.raise _ m n related
  · have sort : op ≠ .sortBy := fun eq => hf (eq ▸ hop)
    refine Lockstep.traverse (fun _ _ => trivial) (fun g hg args passes _ => ?_) m n related
    obtain ⟨item, k, i, rfl⟩ := Traversal.passes_index sort reduce passes
    exact ih.indexed o d more _ (by omega) (roomy_callerIn (some op)) g item k i

theorem Spans.foldedItems (h : roomFor d ≤ room + 2) (hc : Roomy out free deeper fuel room call)
    {f : Ref} (items : List Ref) (index : Nat) (total : Ref)
    (related : (whole s).Related Eq o d m n) (hf : (m.store.cell f).kind = .function)
    (reduce : m.store.cell f ≠ .native (.traversal .reduce)) :
    (whole s).Matched Eq o d (fun _ => True) m.store
      (Run.reduceItems (Run.call out fuel) f index total items m)
      (Run.reduceItems call f index total items n) := by
  induction items generalizing index total m n with
  | nil => exact Lockstep.pure trivial m n related
  | cons item items more =>
    unfold Run.reduceItems
    refine Matched.next (Lockstep.counter _ m n related) ?_
    rintro i m' n' ⟨-, k, rfl⟩ related' grows
    have same := grows.function f hf
    rw [← same] at hf reduce
    refine Matched.next (ih.folded o d room call h hc f total item k _ m' n' related' reduce) ?_
    intro r m'' n'' _ related'' grows'
    have same := grows'.function f hf
    rw [← same] at hf reduce
    exact more _ r related'' hf reduce

/-- Reducing from an index: the first call fails when the function is the one that reduces. -/
theorem Spans.itemsFromIndex (h : roomFor d ≤ room + 2)
    (hc : Roomy out free deeper fuel room call) (f : Ref) (items : List Ref) (index k : Nat)
    (i : Int64) : (whole s).Lockstep Eq o d (fun _ => True)
      (Run.reduceItems (Run.call out fuel) f index (.scalar k (.int i)) items)
      (Run.reduceItems call f index (.scalar k (.int i)) items) := by
  intro m n related
  cases items with
  | nil => exact Lockstep.pure trivial m n related
  | cons item items =>
    unfold Run.reduceItems
    refine Matched.next (Lockstep.counter _ m n related) ?_
    rintro j m' n' ⟨-, k', rfl⟩ related' -
    obtain ⟨room, rfl⟩ : ∃ r, room = r + 1 := ⟨room - 1, by unfold roomFor at h; omega⟩
    by_cases hf : (m'.store.cell f).kind = .function
    case neg =>
      exact Matched.next (related'.uncallable (A := fun _ => False) hc hf) fun _ _ _ never =>
        False.elim never
    by_cases reduce : m'.store.cell f = .native (.traversal .reduce)
    case pos =>
      exact Matched.next (related'.reduceIndex (A := fun _ => False) hc reduce) fun _ _ _ never =>
        False.elim never
    refine Matched.next (ih.folded o d _ call h hc f _ item k' _ m' n' related' reduce) ?_
    intro r m'' n'' _ related'' grows
    have same := grows.function f hf
    rw [← same] at hf reduce
    exact ih.foldedItems h hc items _ r related'' hf reduce

theorem Spans.triple_step (h : roomFor d ≤ room + 1)
    (hc : Roomy out free deeper (fuel + 1) room call) (f total item : Ref) (k : Nat) (i : Int64) :
    (whole s).Lockstep Eq o d (fun _ => True)
      (Run.call out (fuel + 1) f none [total, item, .scalar k (.int i)])
      (call f none [total, item, .scalar k (.int i)]) := by
  obtain ⟨room, rfl⟩ : ∃ r, room = r + 1 := ⟨room - 1, by unfold roomFor at h; omega⟩
  intro m n related
  refine related.limited hc (ih.calls (by omega)) fun op _ more enough => ?_
  cases op with
  | reduce =>
    refine Lockstep.bind (.itemsFor _ trivial) (fun items _ => ?_) m n related
    have room : roomFor d ≤ more + 2 := by omega
    exact ih.itemsFromIndex room (roomy_callerIn (some .reduce)) item items 0 k i
  | _ => exact Lockstep.raise _ m n related

/-- Sorting calls with any two elements, so that a sort inside a sort needs all the room again. -/
theorem Spans.any_step (sorts : free .sortBy .sortBy) (h : roomFor d ≤ room)
    (hc : Roomy out free deeper (fuel + 1) room call) :
    (whole s).Calls Eq d (Run.call out (fuel + 1)) call := by
  obtain ⟨room, rfl⟩ : ∃ r, room = r + 1 := ⟨room - 1, by unfold roomFor at h; omega⟩
  intro o f receiver args _ _ _ m n related
  refine related.limited hc (ih.calls (by omega)) fun op _ more enough => ?_
  refine Lockstep.traverse (fun _ _ => trivial) (fun g hg args passes _ => ?_) m n related
  by_cases reduce : op = .reduce
  · subst reduce
    obtain ⟨total, item, k, i, rfl⟩ := passes
    exact ih.triple o d more _ (by omega) (roomy_callerIn (some .reduce)) g total item k i
  by_cases sort : op = .sortBy
  · subst sort
    obtain ⟨a, b, rfl⟩ := passes
    intro m n related
    have same := related.stores.cell g trivial
    by_cases again : m.store.cell g = .native (.traversal .sortBy)
    · rw [Run.callerIn_of_free (by simp [same, again, Cell.traversal?, takesRoom, sorts])]
      have room : roomFor d ≤ more + 1 := by omega
      exact ih.any d (more + 1) _ room roomy_limited o g none [a, b] trivial nofun
        (fun _ _ => trivial) m n related
    · exact ih.pair o d more _ (by omega) (roomy_callerIn (some .sortBy)) g a b m n related again
  · obtain ⟨item, k, i, rfl⟩ := Traversal.passes_index sort reduce passes
    exact ih.indexed o d more _ (by omega) (roomy_callerIn (some op)) g item k i

end

theorem spans (s : Store) (out : Sink σ) (sorts : free .sortBy .sortBy) (deeper : Caller σ)
    (fuel : Nat) : Spans s out free deeper fuel := by
  induction fuel with
  | zero =>
    constructor
    case any => exact fun _ _ _ _ hc _ f _ args _ _ _ m n _ => hc.zero f _ args m n
    case pair => exact fun _ _ _ _ _ hc f a b m n _ _ => hc.zero f none [a, b] m n
    case triple => exact fun _ _ _ _ _ hc f _ _ _ _ m n _ => hc.zero f none _ m n
    case indexed => exact fun _ _ _ _ _ hc f _ _ _ m n _ => hc.zero f none _ m n
    case folded => exact fun _ _ _ _ _ hc f _ _ _ _ m n _ _ => hc.zero f none _ m n
  | succ fuel ih =>
    constructor
    case any => exact fun d room call h hc => ih.any_step sorts h hc
    case pair =>
      exact fun o d room call h hc f a b m n related hf => ih.pair_step h hc f a b related hf
    case triple =>
      exact fun o d room call h hc f total item k i => ih.triple_step h hc f total item k i
    case indexed => exact fun o d room call h hc f item k i => ih.indexed_step h hc f item k i
    case folded =>
      exact fun o d room call h hc f total item k i m n related hf =>
        ih.folded_step h hc f total item k i related hf

theorem related_self (m : Machine σ) : (whole m.store).Related Eq .guest m.depth m m where
  stores := alike_start ⟨rfl, rfl, rfl⟩ (fun p _ => .refl p _) (fun _ _ _ _ => trivial)
    fun _ _ => trivial
  scope := rfl
  globals := rfl
  receiver := rfl
  strict := rfl
  callSite := rfl
  depths := ⟨rfl, rfl⟩
  home := ⟨trivial, nofun⟩
  text := nofun
  guest := fun _ => ⟨nofun, trivial⟩
  sinks := rfl

theorem Related.eq (h : (whole s).Related Eq o d m n) : n = m := by
  have stores : n.store = m.store := h.stores.eq rfl rfl
  have depths : n.depth = m.depth := h.depths.2.trans h.depths.1.symm
  cases m
  cases n
  simp only [Machine.mk.injEq]
  exact ⟨stores, h.scope, h.globals, h.receiver, h.strict, depths, h.callSite, h.sinks.symm⟩

theorem Matched.eq {α : Type} {A : α → Prop} {t : Store} {x y : Outcome σ α}
    (h : (whole s).Matched Eq o d A t x y) : y = x := by
  cases h with
  | done _ related _ => rw [related.eq]
  | failed related _ => rw [related.eq]
  | exhausted => rfl

end Sharing

/-- The most that calls nest, not counting sorts that sorts call. -/
def nestingLimit : Nat :=
  3 * callLimit + 4

theorem Run.limited_eq_call {σ : Type} {free : Traversal → Traversal → Bool}
    (sorts : free .sortBy .sortBy) (out : Sink σ) (deeper : Caller σ) (fuel : Nat) :
    limited out free deeper fuel nestingLimit = call out fuel := by
  funext f receiver args m
  have room : roomFor m.depth ≤ nestingLimit := by
    unfold roomFor nestingLimit
    omega
  have spanned := (Sharing.spans m.store out sorts deeper fuel).any m.depth nestingLimit _ room
    Sharing.roomy_limited
  exact (spanned .guest f receiver args trivial (fun _ _ => trivial) (fun _ _ => trivial) m m
    (Sharing.related_self m)).eq

/-! ## An array that contains itself -/

namespace Run

variable {σ : Type} {m : Machine σ} {a f x y : Ref} {inner : Caller σ}

theorem traverse_pair_of_failed (ha : m.store.cell a = .array #[x, y]) {why : Diagnostic}
    {after : Machine σ} (h : inner f none [x, y] m = .failed why after) :
    traverse inner .sortBy [a, f] m = .failed why after := by
  simp only [traverse, bind, Run.bind, cell, ha, sortItems, insertItem, pure, Run.pure, h]

theorem traverse_pair_of_exhausted (ha : m.store.cell a = .array #[x, y])
    (h : inner f none [x, y] m = .exhausted) : traverse inner .sortBy [a, f] m = .exhausted := by
  simp only [traverse, bind, Run.bind, cell, ha, sortItems, insertItem, pure, Run.pure, h]

/-- Sorting an array of itself and the sort function makes the same call again. -/
theorem limited_knot {free : Traversal → Traversal → Bool} (counted : free .sortBy .sortBy = false)
    (out : Sink σ) (why : Diagnostic) (ha : m.store.cell a = .array #[a, f])
    (hf : m.store.cell f = .native (.traversal .sortBy)) {fuel room : Nat} (h : room < fuel) :
    limited out free (fun _ _ _ => fail why) fuel room f none [a, f] m = .failed why m := by
  induction room generalizing fuel with
  | zero =>
    obtain ⟨fuel, rfl⟩ : ∃ k, fuel = k + 1 := ⟨fuel - 1, by omega⟩
    rw [limited]
    rfl
  | succ room ih =>
    obtain ⟨fuel, rfl⟩ : ∃ k, fuel = k + 1 := ⟨fuel - 1, by omega⟩
    rw [limited_succ, activate_traversal hf]
    apply traverse_pair_of_failed ha
    rw [callerIn_of_takesRoom (by simp [hf, Cell.traversal?, takesRoom, counted])]
    exact ih (by omega)

theorem call_knot (out : Sink σ) (ha : m.store.cell a = .array #[a, f])
    (hf : m.store.cell f = .native (.traversal .sortBy)) (fuel : Nat) :
    call out fuel f none [a, f] m = .exhausted := by
  induction fuel with
  | zero => rfl
  | succ fuel ih =>
    rw [call, activate_traversal hf]
    exact traverse_pair_of_exhausted ha ih

end Run

/-- Whether a value is an array of itself and the function that sorts. -/
def Store.isKnot (s : Store) (r : Ref) : Bool :=
  match r, s.cell r with
  | .cell i, .array items =>
    match items.toList with
    | [.cell j, .cell k] => i == j && (s.cell (.cell k)).traversal? == some .sortBy
    | _ => false
  | _, _ => false

theorem Store.exists_of_isKnot {s : Store} {r : Ref} (h : s.isKnot r) :
    ∃ f, s.cell r = .array #[r, f] ∧ s.cell f = .native (.traversal .sortBy) := by
  unfold isKnot at h
  split at h
  · next i items hc =>
    split at h
    · next j k hi =>
      simp only [Bool.and_eq_true, beq_iff_eq] at h
      obtain ⟨rfl, hk⟩ := h
      refine ⟨.cell k, ?_, Cell.eq_of_traversal? hk⟩
      rw [hc, ← hi, Array.toArray_toList]
    · simp at h
  · simp at h

/-- A machine that has run a source. -/
def Machine.Reached {σ : Type} (out : Sink σ) (m : Machine σ) : Prop :=
  ∃ store strict k fuel source r, Run.source out fuel source (.start store strict k) = .done r m

def Sink.silent : Sink Unit :=
  ⟨fun _ _ _ k => some (.ok (), k)⟩

/-- Scripts can make an array that contains itself. -/
theorem Machine.exists_knot : ∃ (m : Machine Unit) (a f : Ref), m.Reached .silent ∧
    m.store.cell a = .array #[a, f] ∧ m.store.cell f = .native (.traversal .sortBy) := by
  have tied : (match Run.source .silent 60 "var a = [none, std.collections.sort_by]\na[0] = a\na"
      (.start .empty false ()) with
    | .done r m => m.store.isKnot r
    | _ => false) = true := by
    decide +kernel
  split at tied
  · next r m run =>
    obtain ⟨f, ha, hf⟩ := Store.exists_of_isKnot tied
    exact ⟨m, r, f, ⟨_, _, _, _, _, _, run⟩, ha, hf⟩
  · simp at tied

/-- Calls nest without bound, not counting what is left out, unless sorts in sorts are left out. -/
theorem Run.exists_limited_ne (free : Traversal → Traversal → Bool)
    (counted : free .sortBy .sortBy = false) (bound : Nat) :
    ∃ (m : Machine Unit) (deeper : Caller Unit) (fuel : Nat) (f : Ref) (args : List Ref),
      m.Reached .silent ∧ limited .silent free deeper fuel bound f none args m ≠
        call .silent fuel f none args m := by
  obtain ⟨m, a, f, reached, ha, hf⟩ := Machine.exists_knot
  refine ⟨m, fun _ _ _ => fail default, bound + 1, f, [a, f], reached, ?_⟩
  rw [limited_knot counted _ _ ha hf (Nat.lt_succ_self bound), call_knot _ ha hf]
  nofun

/-- Which nested traversals must not be counted for the nesting of calls to be bounded: sorts that
sorts call, and no others. -/
theorem Run.nesting_bounded_iff (free : Traversal → Traversal → Bool) :
    (∃ bound, ∀ (σ : Type) (out : Sink σ) (deeper : Caller σ) (fuel : Nat),
      limited out free deeper fuel bound = call out fuel) ↔ free .sortBy .sortBy = true := by
  constructor
  · rintro ⟨bound, bounded⟩
    cases counted : free .sortBy .sortBy with
    | true => rfl
    | false =>
      obtain ⟨m, deeper, fuel, f, args, _, ne⟩ := exists_limited_ne free counted bound
      rw [bounded] at ne
      exact absurd rfl ne
  · intro sorts
    exact ⟨nestingLimit, fun _ out deeper fuel => limited_eq_call sorts out deeper fuel⟩

/-- No bound holds for the nesting of all calls, on machines that have run a source. -/
theorem Run.nesting_unbounded : ¬ ∃ bound, ∀ m : Machine Unit, m.Reached .silent →
    ∀ (deeper : Caller Unit) (fuel : Nat) (f : Ref) (args : List Ref),
      limited .silent (fun _ _ => false) deeper fuel bound f none args m =
        call .silent fuel f none args m := by
  rintro ⟨bound, bounded⟩
  obtain ⟨m, deeper, fuel, f, args, reached, ne⟩ := exists_limited_ne (fun _ _ => false) rfl bound
  exact ne (bounded m reached deeper fuel f args)

end LayerScript
