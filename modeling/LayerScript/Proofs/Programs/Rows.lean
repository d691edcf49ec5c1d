import LayerScript.Proofs.Programs.Levels
import LayerScript.Token.Basic

/-!
# Nodes in a row

Spans are laid one behind another between two offsets. A node sits between two offsets when its span
does and the spans directly inside each node are laid between the ends of that node.
-/

namespace LayerScript

/-! ## Spans one behind another -/

/-- From the start of a good token to the end of one, between two offsets. -/
structure Span.Lies (T : Token → Prop) (lo hi : Nat) (span : Span) : Prop where
  first : ∃ t, T t ∧ t.span.start = span.start
  last : ∃ t, T t ∧ t.span.stop = span.stop
  low : lo ≤ span.start
  long : span.start < span.stop
  high : span.stop ≤ hi

/-- Spans one behind another, between two offsets. -/
inductive Laid (T : Token → Prop) : (lo : Nat) → (spans : List Span) → (hi : Nat) → Prop where
  | nil {lo hi : Nat} : lo ≤ hi → Laid T lo [] hi
  | cons {lo mid hi : Nat} {span : Span} {spans : List Span} : span.Lies T lo mid →
      Laid T mid spans hi → Laid T lo (span :: spans) hi

variable {T : Token → Prop} {lo mid hi lo' hi' : Nat} {span span' : Span} {spans spans' : List Span}

namespace Span.Lies

theorem widen (h : span.Lies T lo hi) (low : lo' ≤ lo) (high : hi ≤ hi') : span.Lies T lo' hi' :=
  { h with low := Nat.le_trans low h.low, high := Nat.le_trans h.high high }

theorem earlier (h : span.Lies T lo hi) (low : lo' ≤ lo) : span.Lies T lo' hi :=
  h.widen low (Nat.le_refl _)

theorem later (h : span.Lies T lo hi) (high : hi ≤ hi') : span.Lies T lo hi' :=
  h.widen (Nat.le_refl _) high

theorem beyond (h : span.Lies T lo hi) : lo ≤ span.stop :=
  Nat.le_trans h.low (Nat.le_of_lt h.long)

theorem within (h : span.Lies T lo hi) : span.start ≤ hi :=
  Nat.le_trans (Nat.le_of_lt h.long) h.high

theorem le (h : span.Lies T lo hi) : lo < hi :=
  Nat.lt_of_le_of_lt h.low (Nat.lt_of_lt_of_le h.long h.high)

theorem through (h : span.Lies T lo mid) (h' : span'.Lies T mid hi) :
    (span.through span').Lies T lo hi where
  first := h.first
  last := h'.last
  low := h.low
  long := Nat.lt_trans h.long (Nat.lt_of_le_of_lt (Nat.le_trans h.high h'.low) h'.long)
  high := h'.high

end Span.Lies

namespace Laid

theorem le (h : Laid T lo spans hi) : lo ≤ hi := by
  induction h with
  | nil le => exact le
  | cons first _ ih => exact Nat.le_trans (Nat.le_of_lt first.le) ih

theorem widen (h : Laid T lo spans hi) (low : lo' ≤ lo) (high : hi ≤ hi') :
    Laid T lo' spans hi' := by
  induction h generalizing lo' with
  | nil le => exact .nil (by omega)
  | cons first _ ih => exact .cons (first.earlier low) (ih (Nat.le_refl _) high)

theorem earlier (h : Laid T lo spans hi) (low : lo' ≤ lo) : Laid T lo' spans hi :=
  h.widen low (Nat.le_refl _)

theorem later (h : Laid T lo spans hi) (high : hi ≤ hi') : Laid T lo spans hi' :=
  h.widen (Nat.le_refl _) high

theorem append (h : Laid T lo spans mid) (h' : Laid T mid spans' hi) :
    Laid T lo (spans ++ spans') hi := by
  induction h with
  | nil le => exact h'.earlier le
  | cons first _ ih => exact .cons first (ih h')

theorem right (h : Laid T lo (spans ++ spans') hi) : Laid T lo spans' hi := by
  induction spans generalizing lo with
  | nil => exact h
  | cons span spans ih =>
    cases h with
    | cons first rest => exact (ih rest).earlier (Nat.le_of_lt first.le)

theorem one (h : span.Lies T lo hi) : Laid T lo [span] hi :=
  .cons h (.nil (Nat.le_refl _))

theorem lies_of_mem (h : Laid T lo spans hi) (mem : span ∈ spans) : span.Lies T lo hi := by
  induction h with
  | nil => exact nomatch mem
  | cons first rest ih =>
    rcases List.mem_cons.1 mem with rfl | mem
    · exact first.later rest.le
    · exact (ih mem).earlier (Nat.le_of_lt first.le)

theorem pairwise (h : Laid T lo spans hi) : spans.Pairwise fun a b => a.stop ≤ b.start := by
  induction h with
  | nil => exact .nil
  | cons first rest ih =>
    exact .cons (fun b mem => Nat.le_trans first.high (rest.lies_of_mem mem).low) ih

end Laid

/-! ## Nodes one behind another -/

def Expr.inner : Expr → List Span
  | .map _ entries => entries.flatMap fun e => [e.1.span, e.2.span]
  | .lambda _ params body _ => params.map (·.span) ++ body.map (·.span)
  | e => e.children.map (·.span)

def Stmt.inner : Stmt → List Span
  | .fnDecl _ _ params body => params.map (·.span) ++ body.map (·.span)
  | s => s.children.map (·.span)

/-- The spans directly inside a node: those of the parameters of a function and those of the nodes
below. -/
def Node.inner : Node → List Span
  | .expr e => e.inner
  | .stmt s => s.inner
  | node => node.children.map (·.span)

theorem Node.span_mem_inner {node child : Node} (mem : child ∈ node.children) :
    child.span ∈ node.inner := by
  have plain : child.span ∈ node.children.map (·.span) := List.mem_map_of_mem mem
  cases node with
  | arm a => exact plain
  | stmt s =>
    cases s with
    | fnDecl span x params body =>
      refine List.mem_append_right _ ?_
      simpa [Node.children, Stmt.children, Node.span] using plain
    | _ => exact plain
  | expr e =>
    cases e with
    | lambda span params body yields =>
      refine List.mem_append_right _ ?_
      simpa [Node.children, Expr.children, Node.span] using plain
    | map span entries =>
      simp only [Node.children, Expr.children, List.mem_append, List.mem_map] at mem
      refine List.mem_flatMap.2 ?_
      rcases mem with ⟨e, mem, rfl⟩ | ⟨e, mem, rfl⟩
      · exact ⟨e, mem, List.mem_cons_self⟩
      · exact ⟨e, mem, List.mem_cons_of_mem _ List.mem_cons_self⟩
    | _ => exact plain

/-- What is directly inside a node lies between its ends. -/
def Node.Nested (T : Token → Prop) (node : Node) : Prop :=
  Laid T node.span.start node.inner node.span.stop

structure Node.Sits (T : Token → Prop) (lo hi : Nat) (node : Node) : Prop where
  lies : node.span.Lies T lo hi
  nested : node.Each (Node.Nested T)

/-- Nodes one behind another, between two offsets. -/
structure Row (T : Token → Prop) (lo : Nat) (nodes : List Node) (hi : Nat) : Prop where
  laid : Laid T lo (nodes.map (·.span)) hi
  nested : ∀ node ∈ nodes, node.Each (Node.Nested T)

variable {node node' : Node} {nodes nodes' : List Node}

namespace Row

theorem nil (le : lo ≤ hi) : Row T lo [] hi :=
  ⟨.nil le, nofun⟩

theorem cons (h : node.Sits T lo mid) (h' : Row T mid nodes hi) : Row T lo (node :: nodes) hi :=
  ⟨.cons h.lies h'.laid, List.forall_mem_cons.2 ⟨h.nested, h'.nested⟩⟩

theorem widen (h : Row T lo nodes hi) (low : lo' ≤ lo) (high : hi ≤ hi') : Row T lo' nodes hi' :=
  ⟨h.laid.widen low high, h.nested⟩

theorem earlier (h : Row T lo nodes hi) (low : lo' ≤ lo) : Row T lo' nodes hi :=
  h.widen low (Nat.le_refl _)

theorem later (h : Row T lo nodes hi) (high : hi ≤ hi') : Row T lo nodes hi' :=
  h.widen (Nat.le_refl _) high

theorem append (h : Row T lo nodes mid) (h' : Row T mid nodes' hi) :
    Row T lo (nodes ++ nodes') hi :=
  ⟨by simpa using h.laid.append h'.laid, List.forall_mem_append.2 ⟨h.nested, h'.nested⟩⟩

theorem right (h : Row T lo (nodes ++ nodes') hi) : Row T lo nodes' hi := by
  have laid := h.laid
  rw [List.map_append] at laid
  exact ⟨laid.right, fun node mem => h.nested node (List.mem_append_right _ mem)⟩

theorem one (h : node.Sits T lo hi) : Row T lo [node] hi :=
  .cons h (.nil (Nat.le_refl _))

theorem two (h : node.Sits T lo mid) (h' : node'.Sits T mid hi) : Row T lo [node, node'] hi :=
  .cons h (.one h')

end Row

namespace Node.Sits

theorem widen (h : node.Sits T lo hi) (low : lo' ≤ lo) (high : hi ≤ hi') : node.Sits T lo' hi' :=
  ⟨h.lies.widen low high, h.nested⟩

theorem earlier (h : node.Sits T lo hi) (low : lo' ≤ lo) : node.Sits T lo' hi :=
  h.widen low (Nat.le_refl _)

theorem later (h : node.Sits T lo hi) (high : hi ≤ hi') : node.Sits T lo hi' :=
  h.widen (Nat.le_refl _) high

theorem toStop (h : node.Sits T lo hi) : node.Sits T lo node.span.stop :=
  ⟨{ h.lies with high := Nat.le_refl _ }, h.nested⟩

theorem fromStart (h : node.Sits T lo hi) : node.Sits T node.span.start hi :=
  ⟨{ h.lies with low := Nat.le_refl _ }, h.nested⟩

theorem of_row (lies : node.span.Lies T lo hi)
    (row : Row T node.span.start node.children node.span.stop)
    (plain : node.inner = node.children.map (·.span)) : node.Sits T lo hi :=
  ⟨lies, .intro (by rw [Node.Nested, plain]; exact row.laid) row.nested⟩

/-- What stands first may begin, and what stands last may end, where the node does. -/
theorem of_pair (h : node'.Sits T lo mid) (row : Row T mid nodes hi')
    (h' : span.Lies T mid hi) (same : node.span = node'.span.through span)
    (children : node.children = node' :: nodes) (within : hi' ≤ span.stop)
    (plain : node.inner = node.children.map (·.span)) : node.Sits T lo hi := by
  have lies : node.span.Lies T lo hi := same ▸ h.lies.through h'
  refine .of_row lies ?_ plain
  rw [same, children]
  exact .cons h.fromStart (row.later within)

theorem of_opening (h : span.Lies T lo mid) (row : Row T mid node.children hi')
    (h' : span'.Lies T mid hi) (same : node.span = span.through span') (within : hi' ≤ span'.stop)
    (plain : node.inner = node.children.map (·.span)) : node.Sits T lo hi := by
  have lies : node.span.Lies T lo hi := same ▸ h.through h'
  refine .of_row lies ?_ plain
  rw [same]
  exact row.widen h.within within

theorem of_last (h : span.Lies T lo mid) (h' : node'.Sits T mid hi)
    (same : node.span = span.through node'.span) (children : node.children = [node'])
    (plain : node.inner = node.children.map (·.span)) : node.Sits T lo hi :=
  .of_opening h (children ▸ .one h'.toStop) h'.lies same (Nat.le_refl _) plain

/-- A map begins with a token too. Its entries stand in the source as the pairs that they are. -/
theorem of_entries {entries : List (Expr × Expr)} (h : span.Lies T lo mid)
    (row : Row T mid (entries.flatMap fun e => [.expr e.1, .expr e.2]) hi')
    (h' : span'.Lies T mid hi) (within : hi' ≤ span'.stop) :
    (Node.expr (.map (span.through span') entries)).Sits T lo hi := by
  refine ⟨h.through h', .intro ?_ fun child mem => row.nested child ?_⟩
  · have laid := row.laid.widen h.within within
    rw [List.map_flatMap] at laid
    exact laid
  · simp only [Node.children, Expr.children, List.mem_append, List.mem_map] at mem
    refine List.mem_flatMap.2 ?_
    rcases mem with ⟨e, mem, rfl⟩ | ⟨e, mem, rfl⟩
    · exact ⟨e, mem, List.mem_cons_self⟩
    · exact ⟨e, mem, List.mem_cons_of_mem _ List.mem_cons_self⟩

theorem of_function {params : List Param} {body : List Stmt} (lies : node.span.Lies T lo hi)
    (names : Laid T lo' (params.map (·.span)) mid) (within : node.span.start ≤ lo')
    (row : Row T mid (body.map .stmt) node.span.stop) (children : node.children = body.map .stmt)
    (inner : node.inner = params.map (·.span) ++ body.map (·.span)) : node.Sits T lo hi := by
  refine ⟨lies, .intro ?_ (children ▸ row.nested)⟩
  have laid := (names.append row.laid).earlier within
  rw [List.map_map] at laid
  rw [Node.Nested, inner]
  exact laid

end Node.Sits

end LayerScript
