import LayerScript.Proofs.Entries
import LayerScript.Store
import Mathlib.Tactic.Common

/-!
# How deep values are nested

A step leads from an array to an element or from a map to the value of an entry. Values can be
shared and can contain themselves, so there can be many paths of steps from one value to another,
and paths of any length.
-/

namespace LayerScript

/-- The elements of an array and the values of a map. The exports of a module are no members. -/
def Cell.members : Cell → List Ref
  | .array items => items.toList
  | .map entries => entries.values
  | _ => []

namespace Store

variable {s : Store} {n : Nat} {r q : Ref}

/-- A path of so many steps from one value to another. -/
inductive Path (s : Store) : Nat → Ref → Ref → Prop
  | here (r : Ref) : Path s 0 r r
  | step {n : Nat} {r q p : Ref} (h : q ∈ (s.cell r).members) (rest : Path s n q p) :
    Path s (n + 1) r p

/-- No path from the value has more than so many steps. -/
def NestsWithin (s : Store) (n : Nat) (r : Ref) : Prop :=
  ∀ k q, s.Path k r q → k ≤ n

/-- What holds of the value and of all that some path leads to. -/
def Throughout (s : Store) (P : Ref → Prop) (r : Ref) : Prop :=
  ∀ k q, s.Path k r q → P q

theorem nestsWithin_zero : s.NestsWithin 0 r ↔ (s.cell r).members = [] := by
  constructor
  · intro h
    rw [List.eq_nil_iff_forall_not_mem]
    intro q hq
    exact absurd (h 1 q (.step hq (.here q))) (by decide)
  · intro h k q path
    cases path with
    | here => exact Nat.le_refl 0
    | step hq rest =>
      rw [h] at hq
      cases hq

theorem nestsWithin_succ :
    s.NestsWithin (n + 1) r ↔ ∀ q ∈ (s.cell r).members, s.NestsWithin n q := by
  constructor
  · intro h q hq k p path
    exact Nat.le_of_succ_le_succ (h (k + 1) p (.step hq path))
  · intro h k p path
    cases path with
    | here => exact Nat.zero_le _
    | step hq rest => exact Nat.succ_le_succ (h _ hq _ _ rest)

theorem NestsWithin.mono {m : Nat} (h : s.NestsWithin m r) (le : m ≤ n) : s.NestsWithin n r :=
  fun k q path => Nat.le_trans (h k q path) le

theorem throughout_iff {P : Ref → Prop} :
    s.Throughout P r ↔ P r ∧ ∀ q ∈ (s.cell r).members, s.Throughout P q := by
  constructor
  · intro h
    exact ⟨h 0 r (.here r), fun q hq k p path => h (k + 1) p (.step hq path)⟩
  · rintro ⟨first, rest⟩ k p path
    cases path with
    | here => exact first
    | step hq path => exact rest _ hq _ _ path

theorem Throughout.here {P : Ref → Prop} (h : s.Throughout P r) : P r :=
  (throughout_iff.1 h).1

theorem Throughout.member {P : Ref → Prop} (h : s.Throughout P r)
    (hq : q ∈ (s.cell r).members) : s.Throughout P q :=
  (throughout_iff.1 h).2 q hq

theorem Throughout.imp {P P' : Ref → Prop} (h : s.Throughout P r) (imp : ∀ q, P q → P' q) :
    s.Throughout P' r :=
  fun k q path => imp q (h k q path)

theorem throughout_of_closed {P I : Ref → Prop} (hr : I r) (holds : ∀ q, I q → P q)
    (closed : ∀ q, I q → ∀ p ∈ (s.cell q).members, I p) : s.Throughout P r := by
  intro k q path
  induction path with
  | here r => exact holds r hr
  | step hq rest ih => exact ih (closed _ hr _ hq)

end Store

end LayerScript
