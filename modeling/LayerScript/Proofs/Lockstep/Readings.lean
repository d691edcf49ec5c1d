import LayerScript.Machine.Traversal
import LayerScript.Proofs.Contents
import LayerScript.Proofs.Lockstep.Stores
import Mathlib.Logic.Basic

/-!
# What two stores show

Reading live values gives the same in two stores that are alike: their texts, equality, documents,
matches, and the results of operators.
-/

namespace LayerScript

namespace Sharing

variable {W : Sharing} {s t : Store} {α β : Type}

theorem Alike.live_item (h : W.Alike s t) {r : Ref} {items : Array Ref} (hr : W.live (.value r))
    (hc : s.cell r = .array items) : ∀ x ∈ items.toList, W.live (.value x) := by
  have := h.fits r hr
  rw [hc] at this
  exact fits_array.1 this

theorem Alike.live_entry (h : W.Alike s t) {r : Ref} {entries : Dict Ref}
    (hr : W.live (.value r)) (hc : s.cell r = .map entries) :
    ∀ x ∈ entries.values, W.live (.value x) := by
  have := h.fits r hr
  rw [hc] at this
  exact fits_map.1 this

theorem Alike.live_export (h : W.Alike s t) {r : Ref} {path : List String} {exports : Dict Ref}
    (hr : W.live (.value r)) (hc : s.cell r = .module path exports) :
    ∀ x ∈ exports.values, W.live (.value x) := by
  have := h.fits r hr
  rw [hc] at this
  simpa [Fits, Cell.places] using this

theorem mem_values_of_mem_entries {d : Dict Ref} {e : String × Ref} (h : e ∈ d.entries) :
    e.2 ∈ d.values :=
  Dict.mem_values.2 ⟨e.1, h⟩

/-! ## Texts, equality and documents -/

theorem Alike.live_part (h : W.Alike s t) {r q : Ref} (hr : W.live (.value r))
    (hq : q ∈ (s.cell r).parts) : W.live (.value q) := by
  unfold Cell.parts at hq
  split at hq
  · next items hc => exact h.live_item hr hc q hq
  · next entries hc => exact h.live_entry hr hc q hq
  · next exports hc => exact h.live_export hr hc q hq
  · exact nomatch hq

/-- Two stores have the same in all that a live value contains. -/
theorem Alike.sameWithin (h : W.Alike s t) {r : Ref} (hr : W.live (.value r)) :
    s.SameWithin t r := by
  have contained : ∀ q, s.Contains r q → W.live (.value q) := by
    intro q path
    induction path with
    | refl => exact hr
    | tail _ step ih => exact h.live_part ih step
  exact fun q path => h.cell q (contained q path)

theorem Alike.display (h : W.Alike s t) {r : Ref} (hr : W.live (.value r)) :
    t.display r = s.display r :=
  Store.display_congr (h.sameWithin hr)

theorem cellsEqual_congr {same same' : Ref → Ref → Bool} {c d : Cell}
    (h : ∀ a b, .value a ∈ c.places → .value b ∈ d.places → same' a b = same a b) :
    Store.cellsEqual same' c d = Store.cellsEqual same c d := by
  cases c <;> cases d <;> try rfl
  case array a b =>
    simp only [Store.cellsEqual]
    congr 1
    rw [Bool.eq_iff_iff, List.all_eq_true, List.all_eq_true]
    refine forall₂_congr fun p hp => ?_
    obtain ⟨ha, hb⟩ := List.of_mem_zip hp
    rw [h p.1 p.2 (List.mem_map_of_mem ha) (List.mem_map_of_mem hb)]
  case map a b =>
    simp only [Store.cellsEqual]
    congr 1
    rw [Bool.eq_iff_iff, List.all_eq_true, List.all_eq_true]
    refine forall₂_congr fun e he => ?_
    cases hf : b.find? e.1 with
    | none => rfl
    | some other =>
      have ha : Place.value e.2 ∈ (Cell.map a).places :=
        List.mem_map_of_mem (mem_values_of_mem_entries he)
      have hb : Place.value other ∈ (Cell.map b).places :=
        List.mem_map_of_mem (Dict.mem_values_of_find? hf)
      simp only [h e.2 other ha hb]

theorem Alike.live_of_mem_places (h : W.Alike s t) {r : Ref} (hr : W.live (.value r))
    (hc : ∀ f, s.cell r ≠ .closure f) : ∀ q ∈ (s.cell r).places, W.live q := by
  have := h.fits r hr
  cases hs : s.cell r <;> rw [hs] at this
  case closure f => exact absurd hs (hc f)
  all_goals exact this

theorem Alike.equalWithin (h : W.Alike s t) (room : Nat) {a b : Ref} (ha : W.live (.value a))
    (hb : W.live (.value b)) : t.equalWithin room a b = s.equalWithin room a b := by
  induction room generalizing a b with
  | zero => simp only [Store.equalWithin]
  | succ room ih =>
    simp only [Store.equalWithin, h.cell a ha, h.cell b hb]
    congr 1
    by_cases hf : (∀ f, s.cell a ≠ .closure f) ∧ ∀ f, s.cell b ≠ .closure f
    · apply cellsEqual_congr
      intro x y hx hy
      exact ih (h.live_of_mem_places ha hf.1 _ hx) (h.live_of_mem_places hb hf.2 _ hy)
    · -- a function equals nothing but itself
      rw [not_and_or] at hf
      rcases hf with hf | hf
      all_goals
        simp only [ne_eq, not_forall, not_not] at hf
        obtain ⟨f, hf⟩ := hf
        rw [hf]
      · cases s.cell b <;> rfl
      · cases s.cell a <;> rfl

theorem Alike.equal (h : W.Alike s t) {a b : Ref} (ha : W.live (.value a))
    (hb : W.live (.value b)) : t.equal a b = s.equal a b :=
  h.equalWithin comparisonDepth ha hb

theorem mapM_congr {f g : α → Except Fault β} {l : List α} (h : ∀ a ∈ l, f a = g a) :
    l.mapM f = l.mapM g := by
  induction l with
  | nil => rfl
  | cons a l ih =>
    rw [List.mapM_cons, List.mapM_cons, h a List.mem_cons_self,
      ih fun b hb => h b (List.mem_cons_of_mem _ hb)]

theorem Alike.documentWithin (h : W.Alike s t) (room : Nat) {r : Ref} (hr : W.live (.value r)) :
    t.documentWithin room r = s.documentWithin room r := by
  induction room generalizing r with
  | zero => rfl
  | succ room ih =>
    unfold Store.documentWithin
    rw [h.cell r hr]
    cases hc : s.cell r with
    | array items =>
      have : items.toList.mapM (t.documentWithin room) =
          items.toList.mapM (s.documentWithin room) :=
        mapM_congr fun x hx => ih (h.live_item hr hc x hx)
      simp only [this]
    | map entries =>
      have : entries.entries.mapM (fun e => do return (e.1, ← t.documentWithin room e.2)) =
          entries.entries.mapM (fun e => do return (e.1, ← s.documentWithin room e.2)) := by
        apply mapM_congr
        intro e he
        rw [ih (h.live_entry hr hc e.2 (mem_values_of_mem_entries he))]
      simp only [this]
    | _ => rfl

theorem Alike.toDocument (h : W.Alike s t) {r : Ref} (hr : W.live (.value r)) :
    t.toDocument r = s.toDocument r :=
  h.documentWithin (documentLimit + 1) hr

end Sharing

end LayerScript
