import LayerScript.Proofs.Entries
import LayerScript.Value.Display
import Mathlib.Logic.Relation

/-!
# What values contain

An array contains its elements, a map its values and a module its exports. A function contains
nothing: its scope is no value. The text of a value is made of what it contains.
-/

namespace LayerScript

def Cell.parts : Cell → List Ref
  | .array items => items.toList
  | .map entries => entries.values
  | .module _ exports => exports.values
  | _ => []

namespace Store

variable {s t : Store}

def Contains (s : Store) : Ref → Ref → Prop :=
  Relation.ReflTransGen fun r q => q ∈ (s.cell r).parts

/-- The second store has the same as the first in all that a value contains. -/
def SameWithin (s t : Store) (r : Ref) : Prop :=
  ∀ q, s.Contains r q → t.cell q = s.cell q

theorem SameWithin.part {r q : Ref} (h : s.SameWithin t r) (hq : q ∈ (s.cell r).parts) :
    s.SameWithin t q :=
  fun x path => h x (.head hq path)

theorem displayWithin_congr (quoted : Bool) (room : Nat) {r : Ref} (h : s.SameWithin t r) :
    t.displayWithin quoted room r = s.displayWithin quoted room r := by
  induction room generalizing quoted r with
  | zero =>
    unfold displayWithin
    rw [h r .refl]
  | succ room ih =>
    have parts : ∀ q ∈ (s.cell r).parts,
        t.displayWithin true room q = s.displayWithin true room q :=
      fun q hq => ih true (h.part hq)
    unfold displayWithin
    rw [h r .refl]
    cases hc : s.cell r with
    | array items =>
      rw [hc] at parts
      have : items.toList.map (t.displayWithin true room) =
          items.toList.map (s.displayWithin true room) := List.map_congr_left parts
      simp only [this]
    | map entries =>
      rw [hc] at parts
      have : entries.entries.map (fun e => e.1 ++ ": " ++ t.displayWithin true room e.2) =
          entries.entries.map (fun e => e.1 ++ ": " ++ s.displayWithin true room e.2) := by
        apply List.map_congr_left
        intro e he
        rw [parts e.2 (Dict.mem_values.2 ⟨e.1, he⟩)]
      simp only [this]
    | _ => rfl

theorem display_congr {r : Ref} (h : s.SameWithin t r) : t.display r = s.display r :=
  displayWithin_congr false displayDepth h

theorem displayAll_congr {rs : List Ref} (h : ∀ r ∈ rs, s.SameWithin t r) :
    t.displayAll rs = s.displayAll rs := by
  unfold displayAll
  rw [List.map_congr_left fun r hr => display_congr (h r hr)]

end Store

end LayerScript
