import LayerScript.Machine.Eval
import LayerScript.Proofs.Lockstep.Operators

/-!
# Names and patterns on two stores

A name is seen alike from a scope when it is one of those on which the seam agrees, or when the
scope is apart from the seam. Then it has the same nearest declaration in both stores.
-/

namespace LayerScript

namespace Sharing

variable {W : Sharing} {s t : Store}

def Seen (W : Sharing) (s : Store) (e : ScopeId) (x : String) : Prop :=
  W.names x ∨ W.Apart s e

theorem Seen.parent {e p : ScopeId} {x : String} (h : W.Seen s e x)
    (hp : (s.scope e).parent = some p) : W.Seen s p x :=
  h.imp_right fun apart => apart.parent hp

theorem Alike.find? (h : W.Alike s t) {e : ScopeId} {x : String} (he : W.live (.scope e))
    (hx : W.Seen s e x) : (t.scope e).names.find? x = (s.scope e).names.find? x := by
  by_cases seam : W.seam = some e
  · rcases hx with named | apart
    · exact h.lookup e seam x named
    · exact absurd .refl (apart e seam)
  · rw [h.scope e he seam]

theorem Alike.live_binding (h : W.Alike s t) {e : ScopeId} {x : String} {b : Binding}
    (he : W.live (.scope e)) (hb : (s.scope e).names.find? x = some b) :
    W.live (.value b.value) := by
  have : Place.value b.value ∈ (s.scope e).places :=
    List.mem_append_right _ (List.mem_map_of_mem (Dict.mem_values_of_find? hb))
  exact (h.held e he _ this).1

theorem Alike.nearestWithin? (h : W.Alike s t) (count : Nat) {e : ScopeId} {x : String}
    (he : W.live (.scope e)) (hx : W.Seen s e x) :
    t.nearestWithin? (·.names.find? x) count e = s.nearestWithin? (·.names.find? x) count e ∧
      ∀ found, s.nearestWithin? (·.names.find? x) count e = some found →
        W.live (.scope found.1) ∧ W.live (.value found.2.value) := by
  induction count generalizing e with
  | zero => exact ⟨rfl, fun _ hf => absurd hf (Option.not_mem_none _)⟩
  | succ count ih =>
    unfold Store.nearestWithin?
    simp only [h.find? he hx, h.parent e he]
    cases hb : (s.scope e).names.find? x with
    | some b =>
      refine ⟨rfl, fun found hf => ?_⟩
      obtain rfl := Option.some.inj hf
      exact ⟨he, h.live_binding he hb⟩
    | none =>
      cases hp : (s.scope e).parent with
      | none => exact ⟨rfl, fun _ hf => absurd hf (Option.not_mem_none _)⟩
      | some p => exact ih (h.live_parent he hp).1 (hx.parent hp)

theorem Alike.lookup_name (h : W.Alike s t) {e : ScopeId} {x : String} (he : W.live (.scope e))
    (hx : W.Seen s e x) : Shown (fun r => W.live (.value r)) (s.lookup e x) (t.lookup e x) := by
  obtain ⟨same, found⟩ := h.nearestWithin? (e.index + 1) he hx
  unfold Store.lookup Store.declaration?
  rw [same]
  split
  · next hf => exact .ok (found _ hf).2
  · exact .error

theorem Alike.chainWithin (h : W.Alike s t) (count : Nat) {e : ScopeId} (he : W.live (.scope e)) :
    t.chainWithin count e = s.chainWithin count e ∧
      ∀ p ∈ s.chainWithin count e, W.live (.scope p) := by
  induction count generalizing e with
  | zero => exact ⟨rfl, fun _ hp => nomatch hp⟩
  | succ count ih =>
    unfold Store.chainWithin
    rw [h.parent e he]
    cases hp : (s.scope e).parent with
    | none => exact ⟨rfl, fun p hp => List.mem_singleton.1 hp ▸ he⟩
    | some p =>
      obtain ⟨same, live⟩ := ih (h.live_parent he hp).1
      refine ⟨congrArg _ same, fun q hq => ?_⟩
      rcases List.mem_cons.1 hq with rfl | hq
      · exact he
      · exact live q hq

theorem Alike.outermost (h : W.Alike s t) {e : ScopeId} (he : W.live (.scope e)) :
    t.outermost e = s.outermost e ∧ W.live (.scope (s.outermost e)) := by
  obtain ⟨same, live⟩ := h.chainWithin (e.index + 1) he
  unfold Store.outermost Store.chain
  rw [same]
  refine ⟨rfl, ?_⟩
  rw [List.getLastD_eq_getLast?]
  cases hl : (s.chainWithin (e.index + 1) e).getLast? with
  | none => exact he
  | some p => exact live p (List.mem_of_getLast? hl)

theorem Alike.assignee (h : W.Alike s t) {e : ScopeId} {x : String} (he : W.live (.scope e))
    (hx : W.Seen s e x) (refuse : Bool) :
    Shown (fun owner => W.live (.scope owner)) (s.assignee e x refuse) (t.assignee e x refuse) := by
  obtain ⟨same, found⟩ := h.nearestWithin? (e.index + 1) he hx
  obtain ⟨outermost, live⟩ := h.outermost he
  unfold Store.assignee Store.declaration?
  rw [same, outermost]
  split
  · next hf =>
    split
    · exact .ok (found _ hf).1
    · exact .error
  · split
    · exact .error
    · exact .ok live

/-! ## Patterns -/

mutual

theorem Alike.bindings? (h : W.Alike s t) (p : Pattern) {r : Ref} (hr : W.live (.value r)) :
    p.bindings? t r = p.bindings? s r ∧
      ∀ bound, p.bindings? s r = some bound → ∀ b ∈ bound, W.live (.value b.2) := by
  match p with
  | .wildcard =>
    unfold Pattern.bindings?
    exact ⟨rfl, by simp⟩
  | .literal value =>
    unfold Pattern.bindings? Store.equalsLiteral
    rw [h.cell r hr]
    exact ⟨rfl, by simp⟩
  | .name x =>
    unfold Pattern.bindings?
    refine ⟨rfl, fun bound hb => ?_⟩
    obtain rfl := Option.some.inj hb
    intro b mem
    obtain rfl := List.mem_singleton.1 mem
    exact hr
  | .tuple parts =>
    unfold Pattern.bindings?
    rw [h.cell r hr]
    cases hc : s.cell r with
    | array items =>
      simp only
      split
      · exact h.allBindings? parts (h.live_item hr hc)
      · exact ⟨rfl, fun _ hb => nomatch hb⟩
    | _ => exact ⟨rfl, fun _ hb => nomatch hb⟩

theorem Alike.allBindings? (h : W.Alike s t) (ps : List Pattern) {rs : List Ref}
    (hrs : ∀ r ∈ rs, W.live (.value r)) :
    Pattern.allBindings? t ps rs = Pattern.allBindings? s ps rs ∧
      ∀ bound, Pattern.allBindings? s ps rs = some bound → ∀ b ∈ bound, W.live (.value b.2) := by
  match ps, rs with
  | [], [] =>
    unfold Pattern.allBindings?
    exact ⟨rfl, by simp⟩
  | [], _ :: _ | _ :: _, [] =>
    unfold Pattern.allBindings?
    exact ⟨rfl, fun _ hb => nomatch hb⟩
  | p :: ps, r :: rs =>
    obtain ⟨first, live⟩ := h.bindings? p (hrs r List.mem_cons_self)
    obtain ⟨rest, lives⟩ := h.allBindings? ps fun r' hr' => hrs r' (List.mem_cons_of_mem _ hr')
    unfold Pattern.allBindings?
    rw [first, rest]
    refine ⟨rfl, ?_⟩
    cases hb : p.bindings? s r with
    | none => exact fun _ hb => nomatch hb
    | some bound =>
      intro all hall b mem
      obtain ⟨more, hm, rfl⟩ := Option.map_eq_some_iff.1 hall
      rcases List.mem_append.1 mem with mem | mem
      · exact live bound hb b mem
      · exact lives more hm b mem

end

/-- What is found is the body of one of the arms. -/
theorem Alike.firstMatch? (h : W.Alike s t) (arms : List Arm) {r : Ref} (hr : W.live (.value r)) :
    Run.firstMatch? t r arms = Run.firstMatch? s r arms ∧
      ∀ found, Run.firstMatch? s r arms = some found →
        (∀ b ∈ found.1, W.live (.value b.2)) ∧ ∃ arm ∈ arms, ∃ span pattern,
          arm = .mk span pattern found.2 := by
  induction arms with
  | nil => exact ⟨rfl, fun _ hf => nomatch hf⟩
  | cons arm arms ih =>
    obtain ⟨span, pattern, body⟩ := arm
    obtain ⟨same, live⟩ := h.bindings? pattern hr
    unfold Run.firstMatch?
    rw [same]
    cases hb : pattern.bindings? s r with
    | some bound =>
      refine ⟨rfl, fun found hf => ?_⟩
      obtain rfl := Option.some.inj hf
      exact ⟨live bound hb, _, List.mem_cons_self, span, pattern, rfl⟩
    | none =>
      refine ⟨ih.1, fun found hf => ?_⟩
      obtain ⟨lives, arm, mem, eq⟩ := ih.2 found hf
      exact ⟨lives, arm, List.mem_cons_of_mem _ mem, eq⟩

end Sharing

end LayerScript
