import LayerScript.Proofs.Programs.Spans
import LayerScript.Proofs.Routines.Code
import Mathlib.Data.List.Pairwise
import Mathlib.Data.List.Perm.Basic

/-!
# Declarations around a node

The way down from a statement to a node inside it leads through lambdas and through declarations of
functions. Where nodes do not overlap there is one such way to a node that has none below it, so
that it is a matter of its place whether the declaration of a function is around it.
-/

namespace LayerScript

def Node.declares : Node → Bool
  | .stmt (.fnDecl ..) => true
  | _ => false

/-- A way down from a node to one inside it; it is known whether the declaration of a function is
passed. -/
inductive Node.Down : (enclosed : Bool) → Node → Node → Prop where
  | here {node : Node} : Node.Down false node node
  | step {node child leaf : Node} {enclosed : Bool} : child ∈ node.children →
      Node.Down enclosed child leaf → Node.Down (node.declares || enclosed) node leaf

/-- A node is in the statements; it is known whether the declaration of a function is around it. -/
def Node.In (body : List Stmt) (enclosed : Bool) (node : Node) : Prop :=
  ∃ s ∈ body, Node.Down enclosed (.stmt s) node

variable {node leaf next : Node} {enclosed enclosed' : Bool} {body : List Stmt}

theorem Node.Down.child (h : Node.Down enclosed node leaf) (mem : next ∈ leaf.children) :
    Node.Down (enclosed || leaf.declares) node next := by
  induction h with
  | @here leaf => simpa using Node.Down.step mem .here
  | step first _ ih => simpa [Bool.or_assoc] using Node.Down.step first (ih mem)

theorem Node.In.child (h : leaf.In body enclosed) (mem : next ∈ leaf.children) :
    next.In body (enclosed || leaf.declares) := by
  obtain ⟨s, hs, down⟩ := h
  exact ⟨s, hs, down.child mem⟩

/-- What runs with the body of a function is in the statements if the body is. -/
theorem Code.Runs.inside {outer : List Stmt} (h : Code.Runs body node)
    (inside : ∀ s ∈ body, (Node.stmt s).In outer enclosed) : node.In outer enclosed := by
  induction h with
  | stmt mem => exact inside _ mem
  | @child node child _ plain mem ih =>
    have quiet : node.declares = false := by
      revert plain
      unfold Node.makesFunction Node.declares
      split <;> simp
    simpa [quiet] using ih.child mem

/-! ## One way down -/

section

variable {T : Token → Prop} {lo hi : Nat}

def Span.Apart (a b : Span) : Prop :=
  a.stop ≤ b.start ∨ b.stop ≤ a.start

theorem Node.Nested.apart (h : node.Nested T) :
    node.children.Pairwise fun a b => a.span.Apart b.span := by
  have inner : node.inner.Pairwise Span.Apart := (Laid.pairwise h).imp .inl
  -- the children of a map are its keys and then its values, and parameters are no children
  suffices ∃ spans, (node.children.map (·.span)).Perm spans ∧ spans.Sublist node.inner by
    obtain ⟨spans, perm, sub⟩ := this
    have apart := (perm.pairwise_iff fun h => Or.symm h).2 (inner.sublist sub)
    exact List.pairwise_map.1 apart
  have plain : node.inner = node.children.map (·.span) → ∃ spans,
      (node.children.map (·.span)).Perm spans ∧ spans.Sublist node.inner := fun same =>
    ⟨_, .refl _, same ▸ .refl _⟩
  cases node with
  | arm a => exact plain rfl
  | stmt s =>
    cases s with
    | fnDecl span x params body =>
      refine ⟨_, .refl _, ?_⟩
      simp [Node.children, Stmt.children, Node.inner, Stmt.inner, Function.comp_def, Node.span]
    | _ => exact plain rfl
  | expr e =>
    cases e with
    | lambda span params body yields =>
      refine ⟨_, .refl _, ?_⟩
      simp [Node.children, Expr.children, Node.inner, Expr.inner, Function.comp_def, Node.span]
    | map span entries =>
      refine ⟨_, ?_, .refl _⟩
      have perm := List.map_append_flatMap_perm entries (·.1.span) fun e => [e.2.span]
      rw [← List.map_eq_flatMap] at perm
      simpa [Node.children, Expr.children, Node.inner, Expr.inner, Function.comp_def, Node.span]
        using perm
    | _ => exact plain rfl

/-- Of nodes that do not overlap only one has a given place inside. -/
theorem eq_of_apart {nodes : List Node} {a b : Node} {place : Span}
    (apart : nodes.Pairwise fun a b => a.span.Apart b.span) (mem : a ∈ nodes) (mem' : b ∈ nodes)
    (long : place.start < place.stop) (h : a.span.start ≤ place.start ∧ place.stop ≤ a.span.stop)
    (h' : b.span.start ≤ place.start ∧ place.stop ≤ b.span.stop) : a = b := by
  by_contra ne
  have symm : Std.Symm fun a b : Node => a.span.Apart b.span := ⟨fun _ _ => Or.symm⟩
  have apart := apart.forall mem mem' ne
  unfold Span.Apart at apart
  omega

theorem Node.Down.within (h : Node.Down enclosed node leaf) (nested : node.Each (Node.Nested T)) :
    node.span.start ≤ leaf.span.start ∧ leaf.span.stop ≤ node.span.stop := by
  induction h with
  | here => exact ⟨Nat.le_refl _, Nat.le_refl _⟩
  | step mem _ ih =>
    have lies := Laid.lies_of_mem nested.here (Node.span_mem_inner mem)
    have inside := ih (nested.child mem)
    exact ⟨Nat.le_trans lies.low inside.1, Nat.le_trans inside.2 lies.high⟩

/-- To a node that has none below it there is one way down. -/
theorem Node.Down.unique (nested : node.Each (Node.Nested T)) (last : leaf.children = [])
    (long : leaf.span.start < leaf.span.stop) (h : Node.Down enclosed node leaf)
    (h' : Node.Down enclosed' node leaf) : enclosed = enclosed' := by
  induction h generalizing enclosed' with
  | here =>
    cases h' with
    | here => rfl
    | step mem _ => exact absurd (last ▸ mem) List.not_mem_nil
  | step mem down ih =>
    cases h' with
    | here => exact absurd (last ▸ mem) List.not_mem_nil
    | step mem' down' =>
      -- both ways go on with the child that the leaf is inside of
      obtain rfl := eq_of_apart nested.here.apart mem mem' long (down.within (nested.child mem))
        (down'.within (nested.child mem'))
      rw [ih (nested.child mem) last long down']

theorem Node.Down.lies (h : Node.Down enclosed node leaf) (nested : node.Each (Node.Nested T))
    (lies : node.span.Lies T lo hi) : ∃ lo hi, leaf.span.Lies T lo hi := by
  induction h generalizing lo hi with
  | here => exact ⟨lo, hi, lies⟩
  | step mem _ ih =>
    exact ih (nested.child mem) (Laid.lies_of_mem nested.here (Node.span_mem_inner mem))

theorem Row.lies_of_in (row : Row T lo (body.map .stmt) hi) (h : leaf.In body enclosed) :
    ∃ lo hi, leaf.span.Lies T lo hi := by
  obtain ⟨s, mem, down⟩ := h
  have node : .stmt s ∈ body.map Node.stmt := List.mem_map_of_mem mem
  exact down.lies (row.nested _ node) (row.laid.lies_of_mem (List.mem_map_of_mem node))

theorem Row.unique_in (row : Row T lo (body.map .stmt) hi) (last : leaf.children = [])
    (h : leaf.In body enclosed) (h' : leaf.In body enclosed') : enclosed = enclosed' := by
  obtain ⟨_, _, lies⟩ := row.lies_of_in h
  have long := lies.long
  obtain ⟨s, mem, down⟩ := h
  obtain ⟨s', mem', down'⟩ := h'
  have node (s : Stmt) (mem : s ∈ body) : .stmt s ∈ body.map Node.stmt := List.mem_map_of_mem mem
  have nested (s : Stmt) (mem : s ∈ body) := row.nested _ (node s mem)
  have apart : (body.map Node.stmt).Pairwise fun a b => a.span.Apart b.span :=
    List.pairwise_map.1 (row.laid.pairwise.imp .inl)
  obtain ⟨⟩ := eq_of_apart apart (node s mem) (node s' mem') long (down.within (nested s mem))
    (down'.within (nested s' mem'))
  exact down.unique (nested s mem) last long down'

end

end LayerScript
