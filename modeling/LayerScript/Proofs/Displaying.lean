import LayerScript.Proofs.Equality
import LayerScript.Value.Document
import Mathlib.Logic.Relation

/-!
# Displayable values

Followed from arrays to their elements, a value unfolds to a tree, or to nothing finite when some
array contains itself. A value is displayable when it unfolds to a tree whose leaves are maps with a
GeoJSON type, which has no array without elements, and which is at most 128 levels deep.
-/

namespace LayerScript

/-- A finite tree with values at its leaves. -/
inductive Tree where
  | leaf (value : Ref)
  | node (children : List Tree)
deriving Inhabited

namespace Tree

mutual

/-- The number of steps from the root to the leaf that is farthest away. -/
def depth : Tree → Nat
  | leaf _ => 0
  | node children => depthBelow children

def depthBelow : List Tree → Nat
  | [] => 0
  | t :: ts => max (t.depth + 1) (depthBelow ts)

end

theorem depthBelow_le {n : Nat} {ts : List Tree} :
    depthBelow ts ≤ n ↔ ∀ t ∈ ts, t.depth < n := by
  induction ts with
  | nil => simp [depthBelow]
  | cons t ts ih => rw [depthBelow, Nat.max_le, ih, List.forall_mem_cons, Nat.succ_le_iff]

theorem depth_node_lt {n : Nat} {ts : List Tree} :
    (node ts).depth < n + 1 ↔ ∀ t ∈ ts, t.depth < n := by
  rw [depth, Nat.lt_succ_iff, depthBelow_le]

/-- Every node has children, and `P` holds of the value at every leaf. -/
inductive Bears (P : Ref → Prop) : Tree → Prop
  | leaf {r : Ref} (h : P r) : Bears P (leaf r)
  | node {ts : List Tree} (some : ts ≠ []) (each : ∀ t ∈ ts, Bears P t) : Bears P (node ts)

end Tree

namespace Store

variable {s : Store} {n : Nat} {r q : Ref}

/-- The tree that a value unfolds to. Only arrays are unfolded. -/
inductive Unfolds (s : Store) : Ref → Tree → Prop
  | leaf {r : Ref} (h : ∀ items, s.cell r ≠ .array items) : Unfolds s r (.leaf r)
  | node {r : Ref} {items : Array Ref} {ts : List Tree} (h : s.cell r = .array items)
    (each : List.Forall₂ (Unfolds s) items.toList ts) : Unfolds s r (.node ts)

/-- A value is an element of an array. -/
def Includes (s : Store) (r q : Ref) : Prop :=
  ∃ items, s.cell r = .array items ∧ q ∈ items.toList

/-- A map whose `type` is a string, and one of the GeoJSON types. -/
def NamesGeoJson (s : Store) (r : Ref) : Prop :=
  ∃ entries kind name, s.cell r = .map entries ∧ entries.find? "type" = some kind ∧
    s.cell kind = .text name ∧ name ∈ geoJsonTypes

theorem hasGeoJsonType_iff {entries : Dict Ref} (map : s.cell r = .map entries) :
    s.hasGeoJsonType entries ↔ s.NamesGeoJson r := by
  unfold hasGeoJsonType NamesGeoJson
  cases found : entries.find? "type" with
  | none => simp [map, found]
  | some kind => cases text : s.cell kind <;> simp [map, found, text]

/-! ## Trees of displayable values -/

theorem displayableWithin_array {items : Array Ref} (h : s.cell r = .array items) :
    s.displayableWithin (n + 1) r ↔
      items.toList ≠ [] ∧ ∀ q ∈ items.toList, s.displayableWithin n q := by
  rw [displayableWithin, h]
  simp only [Bool.and_eq_true, Bool.not_eq_true', Array.isEmpty_eq_false_iff, List.all_eq_true,
    ne_eq, Array.toList_eq_nil_iff]

theorem displayableWithin_leaf (h : ∀ items, s.cell r ≠ .array items) :
    s.displayableWithin (n + 1) r ↔ s.NamesGeoJson r := by
  cases hc : s.cell r with
  | array items => exact absurd hc (h items)
  | map entries =>
    rw [← hasGeoJsonType_iff hc]
    simp [displayableWithin, hc]
  | _ => simp [displayableWithin, NamesGeoJson, hc]

/-- What is found within so many levels is a tree of fewer levels. -/
theorem displayableWithin_iff : s.displayableWithin n r ↔
    ∃ t, s.Unfolds r t ∧ t.depth < n ∧ t.Bears s.NamesGeoJson := by
  induction n generalizing r with
  | zero => simp [displayableWithin]
  | succ n ih =>
    by_cases array : ∃ items, s.cell r = .array items
    case neg =>
      have leaf := not_exists.1 array
      rw [displayableWithin_leaf leaf]
      constructor
      · exact fun h => ⟨.leaf r, .leaf leaf, Nat.succ_pos n, .leaf h⟩
      · rintro ⟨t, unfolds, -, bears⟩
        cases unfolds with
        | leaf => cases bears with | leaf h => exact h
        | node h => exact absurd h (leaf _)
    case pos =>
      obtain ⟨items, array⟩ := array
      rw [displayableWithin_array array]
      constructor
      · rintro ⟨some, each⟩
        choose! tree unfolds depth bears using fun q hq => ih.1 (each q hq)
        refine ⟨.node (items.toList.map tree), .node array ?_, ?_, .node ?_ ?_⟩
        · exact List.forall₂_map_right_iff.2 (List.forall₂_same.2 unfolds)
        · exact Tree.depth_node_lt.2 (List.forall_mem_map.2 depth)
        · exact fun h => some (List.map_eq_nil_iff.1 h)
        · exact List.forall_mem_map.2 bears
      · rintro ⟨t, unfolds, depth, bears⟩
        cases unfolds with
        | leaf h => exact absurd array (h items)
        | node h trees =>
          cases array.symm.trans h
          cases bears with
          | node some each =>
            constructor
            · intro none
              rw [none] at trees
              exact some (List.forall₂_nil_left_iff.1 trees)
            · intro q hq
              obtain ⟨t, ht, unfolds⟩ := exists_of_forall₂ trees hq
              exact ih.2 ⟨t, unfolds, Tree.depth_node_lt.1 depth t ht, each t ht⟩

/-! ## What a displayable value cannot reach -/

theorem displayableWithin_includes (h : s.displayableWithin n r) (hq : s.Includes r q) :
    ∃ m < n, s.displayableWithin m q := by
  obtain ⟨items, array, hq⟩ := hq
  cases n with
  | zero => cases h
  | succ n => exact ⟨n, Nat.lt_succ_self n, ((displayableWithin_array array).1 h).2 q hq⟩

theorem displayableWithin_transGen (h : s.displayableWithin n r)
    (path : Relation.TransGen s.Includes r q) : ∃ m < n, s.displayableWithin m q := by
  induction path with
  | single hq => exact displayableWithin_includes h hq
  | tail _ hq ih =>
    obtain ⟨m, less, within⟩ := ih
    obtain ⟨k, less', within'⟩ := displayableWithin_includes within hq
    exact ⟨k, Nat.lt_trans less' less, within'⟩

theorem displayableWithin_reflTransGen (h : s.displayableWithin n r)
    (path : Relation.ReflTransGen s.Includes r q) : ∃ m, s.displayableWithin m q := by
  rcases Relation.reflTransGen_iff_eq_or_transGen.1 path with rfl | path
  · exact ⟨n, h⟩
  · obtain ⟨m, -, within⟩ := displayableWithin_transGen h path
    exact ⟨m, within⟩

/-- On the way around a cycle the levels would become fewer and fewer. -/
theorem not_displayableWithin_of_cycle (cycle : Relation.TransGen s.Includes r r) :
    ¬ s.displayableWithin n r := by
  induction n using Nat.strongRecOn with
  | ind n ih =>
    intro h
    obtain ⟨m, less, within⟩ := displayableWithin_transGen h cycle
    exact ih m less within

/-- What keeps a value from being displayed, wherever it stands below the value: an array that
contains itself, an array without elements, and a leaf without a GeoJSON type. -/
inductive Spoils (s : Store) (q : Ref) : Prop
  | cycle (h : Relation.TransGen s.Includes q q)
  | empty (h : s.cell q = .array #[])
  | leaf (h : ∀ items, s.cell q ≠ .array items) (h' : ¬ s.NamesGeoJson q)

theorem Spoils.not_displayableWithin (h : s.Spoils q) : ¬ s.displayableWithin n q := by
  cases n with
  | zero => simp [displayableWithin]
  | succ n =>
    cases h with
    | cycle h => exact not_displayableWithin_of_cycle h
    | empty h => simp [displayableWithin_array h]
    | leaf h h' => rwa [displayableWithin_leaf h]

/-- A value is displayable exactly when it unfolds to a tree of the right kind; nothing that can be
reached from it through elements of arrays spoils it. -/
theorem displayable_iff_unfolds (s : Store) (r : Ref) :
    (s.isDisplayable r = true ↔
      ∃ t, s.Unfolds r t ∧ t.depth ≤ 128 ∧ t.Bears s.NamesGeoJson) ∧
    ∀ q, Relation.ReflTransGen s.Includes r q → s.Spoils q → s.isDisplayable r = false := by
  constructor
  · simp only [← Nat.lt_succ_iff]
    exact displayableWithin_iff
  · intro q path spoils
    by_contra displayed
    obtain ⟨m, within⟩ := displayableWithin_reflTransGen (Bool.not_eq_false _ ▸ displayed) path
    exact spoils.not_displayableWithin within

/-- A point, an array of the point and of itself, and an array of the point. -/
def pointRing : Store where
  cells := #[.map (.ofList [("type", .scalar 0 (.text "Point"))]), .array #[.cell 0, .cell 1],
    .array #[.cell 0]]
  scopes := #[]
  serials := 1

theorem displayable_iff_unfolds_ring : pointRing.Spoils (.cell 1) ∧
    pointRing.isDisplayable (.cell 1) = false ∧ pointRing.isDisplayable (.cell 2) = true := by
  have spoils : pointRing.Spoils (.cell 1) := .cycle (.single ⟨_, rfl, by simp⟩)
  have point : pointRing.NamesGeoJson (.cell 0) :=
    ⟨_, .scalar 0 (.text "Point"), "Point", rfl, rfl, rfl, by decide⟩
  have unfolds : pointRing.Unfolds (.cell 2) (.node [.leaf (.cell 0)]) :=
    .node rfl (.cons (.leaf fun _ h => nomatch h) .nil)
  refine ⟨spoils, (displayable_iff_unfolds pointRing (.cell 1)).2 _ .refl spoils, ?_⟩
  refine (displayable_iff_unfolds pointRing (.cell 2)).1.2 ⟨_, unfolds, by decide, ?_⟩
  exact .node (by simp) (by simpa using .leaf point)

end Store

end LayerScript
