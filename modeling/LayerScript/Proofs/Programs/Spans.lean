import LayerScript.Proofs.Compiling
import LayerScript.Proofs.Programs.Forward

/-!
# Spans nest

Each node of a program goes from the start of a token to the end of one. The nodes directly below a
node, with the parameters of a function, lie inside it, one behind another.
-/

namespace LayerScript

variable {T : Token → Prop} {lo hi lo' : Nat} {span : Span} {node : Node}

/-! ## Tokens of a source -/

theorem Munches.ordered {offset stop : Nat} {cs behind : List Char} {tokens : List Token}
    (m : Munches offset cs tokens stop behind) (good : ∀ t ∈ tokens, T t) :
    Ordered T offset tokens := by
  induction m with
  | nil => exact .nil
  | @cons offset stop gap slice text rest behind kind tokens g h l _ ih =>
    have wide : Text.byteLength slice ≠ 0 := fun none =>
      l.spells.ne_nil (Text.byteLength_eq_zero.1 none)
    refine .cons (good _ List.mem_cons_self) (Nat.le_add_right _ _) ?_ ?_
    · exact Nat.lt_add_of_pos_right (Nat.pos_of_ne_zero wide)
    · exact ih fun t mem => good t (List.mem_cons_of_mem _ mem)

theorem Ordered.lies_of_mem {tokens : List Token} {t : Token} (h : Ordered T lo tokens)
    (mem : t ∈ tokens) : lo ≤ t.span.start ∧ t.span.start < t.span.stop := by
  induction h with
  | nil => exact nomatch mem
  | cons _ start long _ ih =>
    rcases List.mem_cons.1 mem with rfl | mem
    · exact ⟨start, long⟩
    · exact ⟨by have := (ih mem).1; omega, (ih mem).2⟩

theorem Ordered.pairwise {tokens : List Token} (h : Ordered T lo tokens) :
    tokens.Pairwise fun a b => a.span.stop ≤ b.span.start := by
  induction h with
  | nil => exact .nil
  | cons _ _ _ rest ih => exact .cons (fun b mem => (rest.lies_of_mem mem).1) ih

/-- From the start of a token to the end of that token or of a later one. -/
def Span.OfTokens (tokens : List Token) (span : Span) : Prop :=
  ∃ (i j : Nat) (first last : Token), i ≤ j ∧ tokens[i]? = some first ∧
    tokens[j]? = some last ∧ span = first.span.through last.span

theorem Span.Lies.ofTokens {tokens : List Token} (ordered : Ordered T lo' tokens)
    (h : span.Lies (· ∈ tokens) lo hi) : span.OfTokens tokens := by
  obtain ⟨first, mem, start⟩ := h.first
  obtain ⟨last, mem', stop⟩ := h.last
  obtain ⟨i, hi, rfl⟩ := List.getElem_of_mem mem
  obtain ⟨j, hj, rfl⟩ := List.getElem_of_mem mem'
  refine ⟨i, j, tokens[i], tokens[j], ?_, List.getElem?_eq_getElem hi, List.getElem?_eq_getElem hj,
    ?_⟩
  · -- were the last token in front of the first, the span would end before it begins
    refine Nat.le_of_not_lt fun before => ?_
    have apart := List.pairwise_iff_getElem.1 ordered.pairwise j i hj hi before
    have long := h.long
    have first := (ordered.lies_of_mem mem).2
    have last := (ordered.lies_of_mem mem').2
    omega
  · rw [Span.through, start, stop]

/-- What is directly inside a node goes from token to token, inside the node, one behind another. -/
structure Node.Nests (tokens : List Token) (node : Node) : Prop where
  ends : ∀ span ∈ node.inner, span.OfTokens tokens
  inside : ∀ span ∈ node.inner,
    node.span.start ≤ span.start ∧ span.start < span.stop ∧ span.stop ≤ node.span.stop
  order : node.inner.Pairwise fun a b => a.stop ≤ b.start

theorem Node.Nested.nests {tokens : List Token} (ordered : Ordered T lo tokens)
    (h : node.Nested (· ∈ tokens)) : node.Nests tokens where
  ends _ mem := (h.lies_of_mem mem).ofTokens ordered
  inside _ mem := ⟨(h.lies_of_mem mem).low, (h.lies_of_mem mem).long, (h.lies_of_mem mem).high⟩
  order := h.pairwise

namespace Program

variable {source : String}

theorem row_of_statements {body : List Stmt} (h : statements source = .ok body) :
    ∃ tokens hi, scanTokens source = .ok tokens ∧ Ordered (· ∈ tokens) 0 tokens ∧
      Row (· ∈ tokens) 0 (body.map .stmt) hi := by
  obtain ⟨tokens, rest, scanned, parsed⟩ := of_statements h
  obtain ⟨stop, gap, m, -⟩ := munches_of_scanTokens scanned
  have ordered := m.ordered fun t mem => mem
  have comes := Parse.lays_body (· ∈ tokens) (32 * (tokens.length + 1)) 0 tokens ordered
  rw [parsed] at comes
  cases comes with
  | @ok _ hi _ _ row _ => exact ⟨tokens, hi, scanned, ordered, row⟩

theorem row_of_parse {program : Program} (h : parse source = .ok program) :
    ∃ tokens hi, scanTokens source = .ok tokens ∧ Ordered (· ∈ tokens) 0 tokens ∧
      Row (· ∈ tokens) 0 (program.body.map .stmt) hi := by
  rw [parse_eq_statements] at h
  cases read : statements source with
  | error d =>
    rw [read] at h
    exact nomatch h
  | ok body =>
    rw [read] at h
    obtain rfl := Except.ok.inj h
    obtain ⟨tokens, hi, scanned, ordered, row⟩ := row_of_statements read
    -- what is left out in front of the body is a directive, if there is one
    obtain ⟨lead, split, -⟩ := exists_lead body
    rw [split, List.map_append] at row
    exact ⟨tokens, hi, scanned, ordered, row.right⟩

/-- In the tree of a source each node goes from token to token, and what is directly inside a node
lies inside it, one behind another. So do the statements of the whole. -/
theorem spans_nest {program : Program} (h : parse source = .ok program) :
    ∃ tokens, scanTokens source = .ok tokens ∧
      (∀ s ∈ program.body, s.span.OfTokens tokens ∧ (Node.stmt s).Each (Node.Nests tokens)) ∧
      program.body.Pairwise fun a b => a.span.stop ≤ b.span.start := by
  obtain ⟨tokens, hi, scanned, ordered, row⟩ := row_of_parse h
  have laid := row.laid
  rw [List.map_map] at laid
  refine ⟨tokens, scanned, fun s mem => ⟨?_, ?_⟩, List.pairwise_map.1 laid.pairwise⟩
  · exact (laid.lies_of_mem (List.mem_map_of_mem mem)).ofTokens ordered
  · exact (row.nested _ (List.mem_map_of_mem mem)).mono fun node nested => nested.nests ordered

/-- A function with two parameters and a conditional without a last branch. -/
theorem spans_nest_function :
    let source := "fn f(a, b) { if a { return [a, b,]; } else if b { this } } f(1, |x| x);"
    ∃ program, parse source = .ok program ∧ ∃ tokens, scanTokens source = .ok tokens ∧
      (∀ s ∈ program.body, s.span.OfTokens tokens ∧ (Node.stmt s).Each (Node.Nests tokens)) ∧
      program.body.Pairwise fun a b => a.span.stop ≤ b.span.start := by
  intro source
  have read : (parse source).map (fun _ => ()) = .ok () := by decide +kernel
  cases parsed : parse source with
  | error d =>
    rw [parsed] at read
    exact nomatch read
  | ok program => exact ⟨program, rfl, spans_nest parsed⟩

end Program

end LayerScript
