import LayerScript.Proofs.Programs.Enclosing

/-!
# Places in a text

A node of a text covers a part of it, and so does what is reported of a text that cannot be read:
that is a token or the mark of the end, or, where the text falls into no tokens, what is in the way.
-/

namespace LayerScript

variable {source : String} {span span' : Span} {enclosed : Bool} {node leaf : Node}
  {body : List Stmt}

/-! ## From token to token -/

theorem Span.Covers.through {slice slice' : List Char} (h : span.Covers source slice)
    (h' : span'.Covers source slice') (le : span.start ≤ span'.stop) :
    ∃ whole, (span.through span').Covers source whole := by
  obtain ⟨before, after, all, rfl⟩ := h
  obtain ⟨before', after', all', rfl⟩ := h'
  have same : before ++ (slice ++ after) = (before' ++ slice') ++ after' := by
    rw [← all, all', List.append_assoc]
  rcases List.append_eq_append_iff.1 same with ⟨mid, reach, -⟩ | ⟨mid, reach, -⟩
  · refine ⟨mid, before, after', by rw [all', ← List.append_assoc, reach, List.append_assoc], ?_⟩
    have sizes := congrArg Text.byteLength reach
    simp only [Text.byteLength_append] at sizes
    simp only [Span.through, sizes]
  · -- the first part begins where the second one ends
    have sizes := congrArg Text.byteLength reach
    simp only [Text.byteLength_append] at sizes
    have none : Text.byteLength mid = 0 := by
      simp only at le
      omega
    refine ⟨[], before, slice ++ after, all, ?_⟩
    simp only [Span.through, Text.byteLength, Nat.add_zero]
    rw [sizes, none, Nat.add_zero]

theorem Span.OfTokens.covers {tokens : List Token} (scanned : scanTokens source = .ok tokens)
    (h : span.OfTokens tokens) (long : span.start < span.stop) :
    ∃ slice, span.Covers source slice := by
  obtain ⟨stop, gap, m, -⟩ := munches_of_scanTokens scanned
  obtain ⟨i, j, first, last, -, hi, hj, rfl⟩ := h
  obtain ⟨-, slice, -, covers⟩ := m.covers [] rfl rfl first (List.mem_of_getElem? hi)
  obtain ⟨-, slice', -, covers'⟩ := m.covers [] rfl rfl last (List.mem_of_getElem? hj)
  exact covers.through covers' (Nat.le_of_lt long)

/-! ## Nodes of a text -/

/-- The node is in the tree that is read from the source. -/
def Node.Of (source : String) (node : Node) : Prop :=
  ∃ body enclosed, Program.statements source = .ok body ∧ node.In body enclosed

theorem Node.Of.covers (h : node.Of source) : ∃ slice, node.span.Covers source slice := by
  obtain ⟨body, enclosed, read, inside⟩ := h
  obtain ⟨tokens, hi, scanned, ordered, row⟩ := Program.row_of_statements read
  obtain ⟨lo', hi', lies⟩ := row.lies_of_in inside
  exact (lies.ofTokens ordered).covers scanned lies.long

/-! ## A text behind another one -/

def Node.shift (bytes : Nat) : Node → Node
  | .expr e => .expr (e.shift bytes)
  | .stmt s => .stmt (s.shift bytes)
  | .arm a => .arm (a.shift bytes)

theorem Node.span_shift (bytes : Nat) (node : Node) :
    (node.shift bytes).span = node.span.shift bytes := by
  cases node with
  | expr e => rw [Node.shift, Node.span, ← e.place_after, e.span_place]; rfl
  | stmt s => rw [Node.shift, Node.span, ← s.place_after, s.span_place]; rfl
  | arm a => cases a; rfl

theorem Node.declares_shift (bytes : Nat) (node : Node) :
    (node.shift bytes).declares = node.declares := by
  rcases node with _ | ⟨⟨_, _, _ | _⟩ | _ | _ | _ | _ | ⟨_, _, _, _ | _⟩ | _ | _ | _ | _ |
    ⟨_, _ | _⟩ | ⟨_, _ | _⟩ | _⟩ | _ <;> simp only [Node.shift, Stmt.shift] <;> rfl

theorem Node.children_shift (bytes : Nat) (node : Node) :
    (node.shift bytes).children = node.children.map (·.shift bytes) := by
  cases node with
  | expr e =>
    cases e <;> simp [Node.shift, Expr.shift, Node.children, Expr.children, Expr.shiftAll_eq_map,
      Expr.shiftEntries_eq_map, Stmt.shiftAll_eq_map, Function.comp_def]
  | stmt s =>
    rcases s with ⟨_, _, _ | _⟩ | _ | _ | _ | _ | ⟨_, _, _, _ | _⟩ | _ | _ | _ | _ | ⟨_, _ | _⟩ |
      ⟨_, _ | _⟩ | _ <;>
      simp [Node.shift, Stmt.shift, Node.children, Stmt.children, Stmt.shiftAll_eq_map,
        Arm.shiftAll_eq_map, Function.comp_def]
  | arm a =>
    obtain ⟨span, pattern, body⟩ := a
    simp [Node.shift, Arm.shift, Node.children, Stmt.shiftAll_eq_map, Function.comp_def]

theorem Node.Down.unshift {bytes : Nat} {node leaf' : Node}
    (h : Node.Down enclosed (node.shift bytes) leaf') :
    ∃ leaf, leaf' = leaf.shift bytes ∧ Node.Down enclosed node leaf := by
  generalize moved : node.shift bytes = node' at h
  induction h generalizing node with
  | here => exact ⟨node, moved.symm, .here⟩
  | step mem _ ih =>
    subst moved
    rw [Node.children_shift] at mem
    obtain ⟨child, mem', rfl⟩ := List.mem_map.1 mem
    obtain ⟨leaf, rfl, down⟩ := ih rfl
    rw [Node.declares_shift]
    exact ⟨leaf, rfl, .step mem' down⟩

/-- What is read behind the text in front of a script is read from the script, and moved. -/
theorem Node.In.of_script {script : Script} {params : List String}
    (read : Script.compile source params = .ok script) (h : node.In script.body enclosed) :
    ∃ node' : Node, node'.Of source ∧
      node.span.shiftBack strictPrelude.utf8ByteSize = node'.span := by
  obtain ⟨-, program, parsed, rfl⟩ := Script.of_compile read
  obtain ⟨body, own, rfl⟩ := Program.statements_of_prelude parsed
  obtain ⟨s, mem, down⟩ := h
  obtain ⟨s, mem', rfl⟩ := List.mem_map.1 mem
  have down : Node.Down enclosed ((Node.stmt s).shift 14) node := down
  obtain ⟨leaf, rfl, way⟩ := down.unshift
  refine ⟨leaf, ⟨body, enclosed, own, s, mem', way⟩, ?_⟩
  rw [Node.span_shift, utf8ByteSize_strictPrelude]
  simp [Span.shift, Span.shiftBack]

/-! ## Texts that cannot be read -/

/-- A diagnostic of a source has a place there, which is empty only where something is missing at
the end. What the grammar reports is at a token or the mark of the end. -/
structure Diagnostic.Placed (d : Diagnostic) (source : String) (span : Span) (slice : List Char) :
    Prop where
  place : d.span = some span
  covers : span.Covers source slice
  missing : slice = [] → span = (endToken source).span ∧
    ∃ what : Expectation, d.message = s!"{what.message}, found end of input"
  stage : d.stage = .lexer ∧ tokenize source = .error d ∨
    d.stage = .parser ∧ ∃ all token, tokenize source = .ok all ∧ token ∈ all ∧ token.span = span

theorem tokenize_of_scanTokens {tokens : List Token} (h : scanTokens source = .ok tokens) :
    tokenize source = .ok (tokens ++ [endToken source]) := by
  rw [tokenize, h]
  rfl

theorem Parse.blames_of_body {tokens : List Token} {fuel : Nat} {fault : GrammarFault}
    (scanned : scanTokens source = .ok tokens) (broken : Parse.body fuel tokens = .error fault) :
    fault.Blames (· ∈ tokens) := by
  obtain ⟨stop, gap, m, -⟩ := munches_of_scanTokens scanned
  have comes := Parse.lays_body (· ∈ tokens) fuel 0 tokens (m.ordered fun t mem => mem)
  rw [broken] at comes
  cases comes with
  | error blames => exact blames

theorem Diagnostic.placed_token {tokens : List Token} (scanned : scanTokens source = .ok tokens)
    {token : Token} (mem : token ∈ tokens) (message : String) :
    ∃ slice, ((Diagnostic.of .parser message).withSpan token.span).Placed source token.span
      slice := by
  obtain ⟨stop, gap, m, -⟩ := munches_of_scanTokens scanned
  obtain ⟨-, slice, some, covers⟩ := m.covers [] rfl rfl token mem
  exact ⟨slice, rfl, covers, fun none => absurd none some,
    .inr ⟨rfl, _, token, tokenize_of_scanTokens scanned, List.mem_append_left _ mem, rfl⟩⟩

/-- What is found wrong with a text is found somewhere in it. -/
theorem Program.placed_of_statements {d : Diagnostic} (h : statements source = .error d) :
    ∃ span slice, d.Placed source span slice := by
  rcases of_statements_error h with scanned | ⟨tokens, fault, scanned, broken, rfl⟩
  · obtain ⟨fault, span, slice, rfl, covers, some⟩ := exists_fault_of_scanTokens scanned
    refine ⟨span, slice, rfl, covers, fun none => absurd none some, .inl ⟨rfl, ?_⟩⟩
    rw [tokenize, scanned]
    rfl
  · have blames := Parse.blames_of_body scanned broken
    cases fault with
    | expected what found =>
      cases found with
      | none =>
        exact ⟨_, [], rfl, ⟨source.toList, [], by simp, rfl⟩, fun _ => ⟨rfl, what, rfl⟩,
          .inr ⟨rfl, _, _, tokenize_of_scanTokens scanned, List.mem_concat_self, rfl⟩⟩
      | some token => exact ⟨_, Diagnostic.placed_token scanned blames _⟩
    | invalidTarget place =>
      obtain ⟨token, mem, rfl⟩ := blames
      exact ⟨_, Diagnostic.placed_token scanned mem _⟩
    | outOfFuel => exact absurd broken (Parse.body_ne_outOfFuel tokens)

/-- The span covers a part of the source, which is a token or the mark of the end, unless the source
falls into no tokens. -/
structure Span.Reported (source : String) (span : Span) : Prop where
  covers : ∃ slice, span.Covers source slice
  token : ∀ tokens, tokenize source = .ok tokens → ∃ token ∈ tokens, token.span = span

theorem Program.reported_of_statements {d : Diagnostic} (h : statements source = .error d) :
    ∀ span ∈ d.span, span.Reported source := by
  obtain ⟨span, slice, placed⟩ := placed_of_statements h
  rw [placed.place]
  rintro _ ⟨⟩
  refine ⟨⟨slice, placed.covers⟩, fun tokens split => ?_⟩
  obtain ⟨-, broken⟩ | ⟨-, all, token, split', mem, same⟩ := placed.stage
  · exact nomatch broken.symm.trans split
  · obtain rfl := Except.ok.inj (split'.symm.trans split)
    exact ⟨token, mem, same⟩

theorem Script.reported_of_compile {params : List String} {failure : ScriptFailure}
    (h : compile source params = .error failure) :
    ∀ span ∈ failure.diagnostic.span, span.Reported source := by
  obtain ⟨d, rfl, ⟨x, -, -, rfl⟩ | ⟨d', parsed, rfl⟩⟩ := of_compile_error h
  · rintro _ ⟨⟩
  · obtain ⟨own, read, rfl⟩ := Program.error_of_prelude parsed
    rw [utf8ByteSize_strictPrelude, Diagnostic.shiftBack_shift]
    exact fun span mem => Program.reported_of_statements read span mem

end LayerScript
