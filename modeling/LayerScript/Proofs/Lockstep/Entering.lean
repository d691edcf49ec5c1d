import LayerScript.Proofs.Frames
import LayerScript.Proofs.Lockstep.Machines

/-!
# Entering two frames

Two alike stores in which a new function is called with different arguments. Behind the call the
frame is the seam: the arguments agree on some names only, and the function, which has different
parameters, is not live.
-/

namespace LayerScript

namespace Sharing

variable {W : Sharing} {names : String → Prop} {s t : Store} {f f' : Closure}
  {args args' : Dict Ref}

/-- The sharing behind a call. -/
def behind (W : Sharing) (names : String → Prop) (s t : Store) (f f' : Closure)
    (args args' : Dict Ref) : Sharing where
  live p := p ≠ .value s.nextCell ∧ W.live p
  seam := some s.nextScope
  names := names
  left := s.entered f args
  right := t.entered f' args'

theorem Alike.sizes (h : W.Alike s t) : t.sizes = s.sizes := by
  simp only [Store.sizes, h.counts]

/-- Scopes that were there before the call are apart from the frame. -/
theorem apart_behind (intact : s.Intact) {e : ScopeId} (he : s.Has (.scope e)) :
    (W.behind names s t f f' args args').Apart (s.entered f args) e := by
  rintro _ ⟨⟩ path
  have outer : ∀ e', Relation.ReflTransGen
      (fun e p => ((s.entered f args).scope e).parent = some p) e e' → s.Has (.scope e') := by
    intro e' path
    induction path with
    | refl => exact he
    | @tail p q _ step ih =>
      rw [Store.extends_entered.parent p ih] at step
      exact intact (.scope p) (.scope q) (by simp [Store.held, Scope.places, step])
  exact Store.not_has_nextScope (outer _ path)

theorem live_behind (intact : s.Intact) {p q : Place} (hq : q ∈ s.held p) (live : W.live q) :
    (W.behind names s t f f' args args').Live (s.entered f args) q := by
  have had : s.Has q := intact p q hq
  constructor
  · constructor
    · rintro rfl
      exact Store.not_has_nextCell had
    · exact live
  · cases q with
    | value r => trivial
    | scope e => exact fun _ => Store.has_entered.2 (.inl had)

/-- A live value that was there before fits behind the call: the frame is not where it is closed. -/
theorem Alike.fits_behind (h : W.Alike s t) (seam : W.seam = none) (intact : s.Intact) {r : Ref}
    (live : W.live (.value r)) :
    (W.behind names s t f f' args args').Fits (s.entered f args) (s.cell r) := by
  have fits := h.fits r live
  have held (q : Place) (hq : q ∈ (s.cell r).places) (hl : W.live q) :
      (W.behind names s t f f' args args').Live (s.entered f args) q :=
    live_behind intact (p := .value r) hq hl
  cases hc : s.cell r with
  | closure g =>
    have inside : .scope g.home ∈ s.held (.value r) := by simp [Store.held, hc, Cell.places]
    rw [hc] at fits held
    obtain ⟨home, ⟨present, _⟩ | ⟨_, receiver⟩⟩ := fits
    · simp [seam] at present
    constructor
    · exact held _ (by simp [Cell.places]) home.1
    · refine .inr ⟨apart_behind intact (intact _ _ inside), fun x hx => ?_⟩
      exact (held (.value x) (by simpa [Cell.places] using hx) (receiver x hx)).1
  | _ =>
    rw [hc] at fits held
    exact fun q hq => (held q hq (fits q hq)).1

/-- The frame leads to the home of the function and to the arguments. -/
theorem live_frame (home : W.live (.scope f.home)) (made : s.Has (.scope f.home))
    (lent : ∀ r ∈ args.values, W.live (.value r) ∧ s.Has (.value r)) {q : Place}
    (hq : q ∈ (⟨some f.home, Store.argumentNames args⟩ : Scope).places) :
    (W.behind names s t f f' args args').Live (s.entered f args) q := by
  rcases List.mem_append.1 hq with outer | value
  · simp only [Option.toList_some, List.map_singleton, List.mem_singleton] at outer
    subst outer
    exact ⟨⟨by simp, home⟩, fun _ => Store.has_entered.2 (.inl made)⟩
  · obtain ⟨b, hb, rfl⟩ := List.mem_map.1 value
    obtain ⟨live, had⟩ := lent b.value (Store.value_of_mem_argumentNames hb)
    refine ⟨⟨fun eq => ?_, live⟩, trivial⟩
    exact Store.not_has_nextCell (eq ▸ had)

theorem Alike.enter (h : W.Alike s t) (seam : W.seam = none) (intact : s.Intact)
    (home : W.live (.scope f.home)) (made : s.Has (.scope f.home)) (homes : f'.home = f.home)
    (lent : ∀ r ∈ args.values, W.live (.value r) ∧ s.Has (.value r))
    (agree : ∀ x, names x → args'.find? x = args.find? x) :
    (W.behind names s t f f' args args').Alike (s.entered f args) (t.entered f' args') := by
  have left {r : Ref} (hr : r ≠ s.nextCell) : (s.entered f args).cell r = s.cell r :=
    Store.cell_entered_of_ne hr
  have right {r : Ref} (hr : r ≠ s.nextCell) : (t.entered f' args').cell r = t.cell r :=
    Store.cell_entered_of_ne (Store.nextCell_of_sizes h.sizes ▸ hr)
  have leftScope {e : ScopeId} (he : e ≠ s.nextScope) : (s.entered f args).scope e = s.scope e :=
    Store.scope_entered_of_ne he
  have rightScope {e : ScopeId} (he : e ≠ s.nextScope) :
      (t.entered f' args').scope e = t.scope e :=
    Store.scope_entered_of_ne (Store.nextScope_of_sizes h.sizes ▸ he)
  have frame : (s.entered f args).scope s.nextScope = ⟨some f.home, Store.argumentNames args⟩ :=
    Store.scope_entered_self
  have frame' : (t.entered f' args').scope s.nextScope =
      ⟨some f'.home, Store.argumentNames args'⟩ := by
    rw [← Store.nextScope_of_sizes h.sizes]
    exact Store.scope_entered_self
  have unseamed (e : ScopeId) : W.seam ≠ some e := by simp [seam]
  constructor
  case counts =>
    have sizes : (s.entered f args).sizes = _ := Store.sizes_entered
    have sizes' : (t.entered f' args').sizes = _ := Store.sizes_entered
    simp only [Store.sizes, Prod.mk.injEq] at sizes sizes'
    obtain ⟨cells, scopes, serials⟩ := h.counts
    simp only [sizes, sizes', cells, scopes, serials, and_self]
  case cell =>
    rintro r ⟨new, live⟩
    have hr : r ≠ s.nextCell := fun eq => new (congrArg _ eq)
    rw [left hr, right hr, h.cell r live]
  case fits =>
    rintro r ⟨new, live⟩
    rw [left fun eq => new (congrArg _ eq)]
    exact h.fits_behind seam intact live
  case scope =>
    rintro e ⟨-, live⟩ he
    have he : e ≠ s.nextScope := fun eq => he (congrArg some eq.symm)
    rw [leftScope he, rightScope he, h.scope e live (unseamed e)]
  case parent =>
    rintro e ⟨-, live⟩
    by_cases he : e = s.nextScope
    · rw [he, frame, frame', homes]
    · rw [leftScope he, rightScope he, h.parent e live]
  case lookup =>
    rintro e ⟨⟩ x hx
    rw [frame, frame', Store.find?_argumentNames, Store.find?_argumentNames, agree x hx]
  case held =>
    rintro e ⟨-, live⟩ q hq
    by_cases he : e = s.nextScope
    · rw [he, frame] at hq
      exact live_frame home made lent hq
    · rw [leftScope he] at hq
      exact live_behind intact (p := .scope e) hq (h.held e live q hq).1
  case left => exact fun p _ => .refl p _
  case right => exact fun p _ => .refl p _
  case fresh =>
    intro p new
    rw [Store.has_entered, not_or, not_or] at new
    exact ⟨new.2.1, h.fresh p new.1⟩
  case seam =>
    rintro e ⟨⟩
    exact Store.has_entered.2 (.inr (.inr rfl))

/-- Two machines that are about to run the body of the function that has been called. -/
theorem Related.enter {σ τ : Type} {S S' : σ → τ → Prop} {m : Machine σ} {n : Machine τ}
    (h : W.Related S .guest 0 m n) (globals : m.globals = m.scope)
    (ready : m.store.Ready [.value m.receiver, .scope m.globals])
    (alike : (W.behind names m.store n.store f f' args args').Alike (m.store.entered f args)
      (n.store.entered f' args')) {k : σ} {l : τ} (sinks : S' k l) :
    (W.behind names m.store n.store f f' args args').Related S' .guest 0
      { m with store := m.store.entered f args, sink := k }
      { n with store := n.store.entered f' args', sink := l } := by
  have home : m.store.Has (.scope m.scope) := globals ▸ ready.made _ (by simp)
  have receiver : m.store.Has (.value m.receiver) := ready.made _ (by simp)
  have new : Place.value m.receiver ≠ .value m.store.nextCell :=
    fun eq => Store.not_has_nextCell (eq ▸ receiver)
  exact {
    h with
    stores := alike
    home := ⟨⟨nofun, h.home.1⟩, fun _ => Store.has_entered.2 (.inl home)⟩
    text := nofun
    guest := fun ho => ⟨apart_behind ready.intact home, new, (h.guest ho).2⟩
    sinks := sinks }

/-- Behind a call two stores differ in the places where they differed before, in the function and in
its frame. -/
theorem Alike.sameBut_behind {P : Place → Prop} {u v : Store}
    (h : (W.behind names s t f f' args args').Alike u v) (counts : t.sizes = s.sizes)
    (start : ∀ p, ¬ W.live p → ¬ P p → Store.SameAt p s t) :
    u.SameBut (fun p => P p ∨ p = .value s.nextCell ∨ p = .scope s.nextScope) v := by
  constructor
  case sizes => exact h.sizes
  case same =>
    intro p hp
    simp only [not_or] at hp
    obtain ⟨outside, cell, scope⟩ := hp
    by_cases live : W.live p
    case pos =>
      cases p with
      | value r => exact h.cell r ⟨cell, live⟩
      | scope e =>
        exact h.scope e ⟨cell, live⟩ fun eq => scope (congrArg _ (Option.some.inj eq).symm)
    case neg =>
      have left := h.left p fun inner => live inner.2
      have right := h.right p fun inner => live inner.2
      have called : Store.SameAt p s (s.entered f args) := Store.sameAt_entered cell scope
      have called' : Store.SameAt p t (t.entered f' args') := by
        rw [← Store.nextCell_of_sizes counts] at cell
        rw [← Store.nextScope_of_sizes counts] at scope
        exact Store.sameAt_entered cell scope
      exact (left.symm.trans called.symm).trans ((start p live outside).trans (called'.trans right))

end Sharing

end LayerScript
