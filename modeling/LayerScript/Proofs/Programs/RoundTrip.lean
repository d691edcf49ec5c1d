import LayerScript.Proofs.Compiling
import LayerScript.Proofs.Programs.Completeness

/-!
# Programs are read back from their text

The text of a canonical program reads as the program, up to places.
-/

namespace LayerScript

/-! ## Placed trees -/

theorem Param.map_bare_place (params : List Param) (g : Placement) :
    (params.map (·.place g)).map (·.bare) = params.map (·.bare) := by
  rw [List.map_map]
  rfl

mutual

/-- Where a tree stands is a matter of places only. -/
theorem Expr.bare_place (e : Expr) (g : Placement) : (e.place g).bare = e.bare := by
  cases e <;> simp only [Expr.place, Expr.bare, Expr.bare_place, Expr.bareAll_placeAll,
    Expr.bareEntries_placeEntries, Stmt.bareAll_placeAll, Param.map_bare_place]

theorem Expr.bareAll_placeAll (es : List Expr) (g : Placement) :
    Expr.bareAll (Expr.placeAll g es) = Expr.bareAll es := by
  cases es with
  | nil => rfl
  | cons e es => rw [Expr.placeAll, Expr.bareAll, Expr.bareAll, e.bare_place, Expr.bareAll_placeAll]

theorem Expr.bareEntries_placeEntries (es : List (Expr × Expr)) (g : Placement) :
    Expr.bareEntries (Expr.placeEntries g es) = Expr.bareEntries es := by
  cases es with
  | nil => rfl
  | cons e es =>
    obtain ⟨key, value⟩ := e
    rw [Expr.placeEntries, Expr.bareEntries, Expr.bareEntries, key.bare_place, value.bare_place,
      Expr.bareEntries_placeEntries]

theorem Stmt.bare_place (s : Stmt) (g : Placement) : (s.place g).bare = s.bare := by
  rcases s with ⟨_, _, _ | _⟩ | _ | _ | _ | _ | ⟨_, _, _, _ | _⟩ | _ | _ | _ | _ | ⟨_, _ | _⟩ |
    ⟨_, _ | _⟩ | _ <;>
    simp only [Stmt.place, Stmt.bare, Expr.bare_place, Stmt.bareAll_placeAll, Arm.bareAll_placeAll,
      Param.map_bare_place]

theorem Stmt.bareAll_placeAll (body : List Stmt) (g : Placement) :
    Stmt.bareAll (Stmt.placeAll g body) = Stmt.bareAll body := by
  cases body with
  | nil => rfl
  | cons s body =>
    rw [Stmt.placeAll, Stmt.bareAll, Stmt.bareAll, s.bare_place, Stmt.bareAll_placeAll]

theorem Arm.bareAll_placeAll (arms : List Arm) (g : Placement) :
    Arm.bareAll (Arm.placeAll g arms) = Arm.bareAll arms := by
  cases arms with
  | nil => rfl
  | cons arm arms =>
    obtain ⟨span, pattern, body⟩ := arm
    rw [Arm.placeAll, Arm.bareAll, Arm.bareAll, Arm.place, Arm.bare, Arm.bare,
      Stmt.bareAll_placeAll, Arm.bareAll_placeAll]

end

/-! ## A style -/

/-- Quotation marks and backslashes behind a backslash. -/
def escaped (s : String) : List Char :=
  s.toList.flatMap fun c => if c = '"' || c = '\\' then ['\\', c] else [c]

theorem writing_escaped (s : String) : Writing '"' (escaped s) s.toList := by
  unfold escaped
  induction s.toList with
  | nil => exact .nil
  | cons c cs ih =>
    rw [List.flatMap_cons]
    by_cases mark : c = '"'
    · subst mark
      exact .escape ih
    by_cases backslash : c = '\\'
    · subst backslash
      exact .escape ih
    simpa [mark, backslash] using Writing.plain mark backslash ih

/-- Floats with all their decimals, and strings with a backslash where one is needed. -/
def Style.exact : Style where
  float := Decimal.exactNumeral
  numeral _ := Decimal.numeral_exactNumeral _
  reads := Decimal.numberLiteral_exactNumeral
  string := escaped
  writing := writing_escaped

/-! ## Programs -/

theorem Stmt.isDirective_bare (s : Stmt) : s.bare.isDirective = s.isDirective := by
  cases s with
  | expr span e =>
    cases e with
    | literal span value => cases value <;> rfl
    | _ => rfl
  | varDecl span x value => cases value <;> rfl
  | ifElse span condition yes no => cases no <;> rfl
  | «return» span value => cases value <;> rfl
  | «break» span value => cases value <;> rfl
  | _ => rfl

namespace Program

variable {p : Program}

/-- The statements of a program, and the directive in front of them if it is strict. -/
def written (p : Program) : List Stmt :=
  if p.strict then strictStatement :: p.body else p.body

theorem words_eq_wordsAll (style : Style) (p : Program) :
    p.words style = Stmt.wordsAll style p.written := by
  unfold Program.words written
  split <;> rfl

theorem ofStatements_written (h : p.Canonical) : ofStatements p.written = p := by
  obtain ⟨strict, body⟩ := p
  cases strict with
  | true => rfl
  | false =>
    have plain := h.directive rfl
    cases body with
    | nil => rfl
    | cons first rest =>
      have other : ¬ first.isDirective := plain first rfl
      simp [written, ofStatements, other]

theorem each_written (h : p.Canonical) : ∀ s ∈ p.written, (Node.stmt s).Each Node.Canonical := by
  have directive : (Node.stmt strictStatement).Each Node.Canonical := by
    refine .intro (show TokenKind.string ≠ .braceOpen by decide) fun child mem => ?_
    obtain rfl := List.mem_singleton.1 mem
    exact .intro trivial fun child mem => absurd mem List.not_mem_nil
  unfold written
  split
  · exact List.forall_mem_cons.2 ⟨directive, h.nodes⟩
  · exact h.nodes

theorem bare_ofStatements {body body' : List Stmt} (h : Stmt.bareAll body = Stmt.bareAll body') :
    (ofStatements body).bare = (ofStatements body').bare := by
  cases body with
  | nil =>
    cases body' with
    | nil => rfl
    | cons => cases h
  | cons first rest =>
    cases body' with
    | nil => cases h
    | cons first' rest' =>
      obtain ⟨hf, hr⟩ := List.cons.inj h
      have same : first.isDirective = first'.isDirective := by
        rw [← first.isDirective_bare, hf, first'.isDirective_bare]
      simp only [ofStatements, same]
      split
      · rw [bare, hr, bare]
      · rw [bare, h, bare]

/-- The fuel that a source is read with gives what is read with any other fuel that lasts. -/
theorem body_of_enough {tokens : List Token} {body : List Stmt} {n : Nat}
    (h : ∀ fuel, n ≤ fuel → Parse.body fuel tokens = .ok (body, [])) :
    ∃ body' rest, Parse.body (32 * (tokens.length + 1)) tokens = .ok (body', rest) ∧
      Stmt.bareAll body' = Stmt.bareAll body := by
  have still : tokens.map (·.place (.after 0)) = tokens := by
    simp [Token.place, Placement.after, Span.shift]
  have moved := Parse.moves_body (.after 0) n tokens.length (32 * (tokens.length + 1)) (by omega)
    tokens
    (Nat.le_refl _)
  rw [still, h _ (Nat.le_add_right n _)] at moved
  generalize Parse.body (32 * (tokens.length + 1)) tokens = read at moved ⊢
  generalize same : Except.ok (body, []) = read' at moved
  cases moved with
  | error => cases same
  | @ok body' rest =>
    obtain ⟨rfl, -⟩ := Prod.mk.inj (Except.ok.inj same)
    exact ⟨body', rest, rfl, (Stmt.bareAll_placeAll body' _).symm⟩

theorem exists_parse_text (canonical : p.Canonical) (style : Style) :
    ∃ q, parse (p.text style) = .ok q ∧ q.bare = p.bare := by
  obtain ⟨tokens, scanned, words⟩ := style.scanTokens_spaced canonical.allSpelled
  rw [words_eq_wordsAll] at words
  obtain ⟨body, rest, ⟨same, none⟩, n, read⟩ :=
    Parse.gives_body (each_written canonical) tokens words
  obtain rfl := List.map_eq_nil_iff.1 none
  obtain ⟨body', rest, read', same'⟩ := body_of_enough read
  refine ⟨ofStatements body', ?_, ?_⟩
  · rw [text, parse, scanned]
    dsimp only [bind, Except.bind]
    rw [read']
    rfl
  · rw [bare_ofStatements (same'.trans same), ofStatements_written canonical]

/-- The text of a canonical program reads as the program, up to places. So two canonical programs
with the same text differ in places only, in whatever styles they are written. -/
theorem parse_text (canonical : p.Canonical) (style : Style) :
    (∃ q, parse (p.text style) = .ok q ∧ q.bare = p.bare) ∧
    ∀ (p' : Program) (style' : Style), p'.Canonical → p'.text style' = p.text style →
      p'.bare = p.bare := by
  obtain ⟨q, read, same⟩ := exists_parse_text canonical style
  refine ⟨⟨q, read, same⟩, fun p' style' canonical' text => ?_⟩
  obtain ⟨q', read', same'⟩ := exists_parse_text canonical' style'
  rw [text, read] at read'
  rw [← same', ← Except.ok.inj read', same]

/-- A function that doubles a number, in a strict program. -/
theorem parse_text_double : ∃ p : Program, p.Canonical ∧
    p.text .exact = "\"use strict\" ; fn double ( n ) \x7b return n * 2 ; \x7d" ∧
    (∃ q, parse (p.text .exact) = .ok q ∧ q.bare = p.bare) ∧
    ∀ (p' : Program) (style' : Style), p'.Canonical → p'.text style' = p.text .exact →
      p'.bare = p.bare := by
  let product : Expr :=
    .binary default (.arithmetic .mul) (.name default "n") (.literal default (.int 2))
  have leaf {e : Expr} (none : e.children = []) (here : (Node.expr e).Canonical) :
      (Node.expr e).Each Node.Canonical :=
    .intro here fun child mem => absurd (none ▸ mem : child ∈ []) List.not_mem_nil
  have value : (Node.expr product).Each Node.Canonical := by
    refine .intro ⟨by decide, by decide⟩ fun child mem => ?_
    rcases List.mem_pair.1 mem with rfl | rfl
    · exact leaf rfl (show isIdentifier "n" = true by decide)
    · exact leaf rfl (show 0 ≤ (2 : Int64).toInt by decide)
  have returned : (Node.stmt (.return default (some product))).Each Node.Canonical :=
    .intro trivial fun child mem => List.mem_singleton.1 mem ▸ value
  have canonical : Program.Canonical ⟨true, [.fnDecl default "double" [⟨"n", default⟩]
      [.return default (some product)]]⟩ := by
    refine ⟨fun s mem => ?_, nofun⟩
    obtain rfl := List.mem_singleton.1 mem
    refine .intro ⟨by decide, ⟨by decide, by decide⟩⟩ fun child mem => ?_
    exact List.mem_singleton.1 mem ▸ returned
  exact ⟨_, canonical, by decide, parse_text canonical .exact⟩

end Program

end LayerScript
