import LayerScript.Program.Parser
import LayerScript.Proofs.Tokens.Offsets

/-!
# Trees at other places

A placement says where each span of a text goes. What a tree is does not depend on its places, so a
tree is placed by placing all spans in it: behind a text in front of it, for one.
-/

namespace LayerScript

/-- Where spans go. What two parts reach over goes to what the parts reach over then. -/
structure Placement where
  span : Span → Span
  through : ∀ first last, span (first.through last) = (span first).through (span last)

attribute [simp] Placement.through

/-- All spans the same number of bytes further on. -/
def Placement.after (bytes : Nat) : Placement :=
  ⟨(·.shift bytes), fun _ _ => rfl⟩

/-- All spans at the same place. -/
def Placement.blank : Placement :=
  ⟨fun _ => default, fun _ _ => rfl⟩

def Token.place (token : Token) (g : Placement) : Token :=
  { token with span := g.span token.span }

def Param.place (param : Param) (g : Placement) : Param :=
  { param with span := g.span param.span }

mutual

def Expr.place (g : Placement) : Expr → Expr
  | .literal span value => .literal (g.span span) value
  | .name span x => .name (g.span span) x
  | .this span => .this (g.span span)
  | .binary span op left right => .binary (g.span span) op (left.place g) (right.place g)
  | .logical span op left right => .logical (g.span span) op (left.place g) (right.place g)
  | .unary span op operand => .unary (g.span span) op (operand.place g)
  | .assign span target value => .assign (g.span span) (target.place g) (value.place g)
  | .call span callee args => .call (g.span span) (callee.place g) (Expr.placeAll g args)
  | .array span items => .array (g.span span) (Expr.placeAll g items)
  | .map span entries => .map (g.span span) (Expr.placeEntries g entries)
  | .group span inner => .group (g.span span) (inner.place g)
  | .index span target position => .index (g.span span) (target.place g) (position.place g)
  | .field span target x => .field (g.span span) (target.place g) x
  | .lambda span params body yields =>
    .lambda (g.span span) (params.map (·.place g)) (Stmt.placeAll g body) yields

def Expr.placeAll (g : Placement) : List Expr → List Expr
  | [] => []
  | e :: es => e.place g :: Expr.placeAll g es

def Expr.placeEntries (g : Placement) : List (Expr × Expr) → List (Expr × Expr)
  | [] => []
  | (key, value) :: es => (key.place g, value.place g) :: Expr.placeEntries g es

def Stmt.place (g : Placement) : Stmt → Stmt
  | .varDecl span x none => .varDecl (g.span span) x none
  | .varDecl span x (some e) => .varDecl (g.span span) x (some (e.place g))
  | .constDecl span x e => .constDecl (g.span span) x (e.place g)
  | .fnDecl span x params body =>
    .fnDecl (g.span span) x (params.map (·.place g)) (Stmt.placeAll g body)
  | .expr span e => .expr (g.span span) (e.place g)
  | .block span body => .block (g.span span) (Stmt.placeAll g body)
  | .ifElse span condition yes none =>
    .ifElse (g.span span) (condition.place g) (Stmt.placeAll g yes) none
  | .ifElse span condition yes (some no) =>
    .ifElse (g.span span) (condition.place g) (Stmt.placeAll g yes)
      (some (Stmt.placeAll g no))
  | .whileLoop span condition body =>
    .whileLoop (g.span span) (condition.place g) (Stmt.placeAll g body)
  | .loop span body => .loop (g.span span) (Stmt.placeAll g body)
  | .forLoop span x iterable body =>
    .forLoop (g.span span) x (iterable.place g) (Stmt.placeAll g body)
  | .when span subject arms =>
    .when (g.span span) (subject.place g) (Arm.placeAll g arms)
  | .return span none => .return (g.span span) none
  | .return span (some e) => .return (g.span span) (some (e.place g))
  | .break span none => .break (g.span span) none
  | .break span (some e) => .break (g.span span) (some (e.place g))
  | .continue span => .continue (g.span span)

def Stmt.placeAll (g : Placement) : List Stmt → List Stmt
  | [] => []
  | s :: body => s.place g :: Stmt.placeAll g body

def Arm.place (g : Placement) : Arm → Arm
  | .mk span pattern body => .mk (g.span span) pattern (Stmt.placeAll g body)

def Arm.placeAll (g : Placement) : List Arm → List Arm
  | [] => []
  | arm :: arms => arm.place g :: Arm.placeAll g arms

end

@[simp]
theorem Token.span_place (token : Token) (g : Placement) :
    (token.place g).span = g.span token.span :=
  rfl

@[simp]
theorem Token.text_place (token : Token) (g : Placement) : (token.place g).text = token.text :=
  rfl

@[simp]
theorem Expr.span_place (e : Expr) (g : Placement) : (e.place g).span = g.span e.span := by
  cases e <;> rfl

@[simp]
theorem Stmt.span_place (s : Stmt) (g : Placement) : (s.place g).span = g.span s.span := by
  cases s with
  | varDecl span x initial => cases initial <;> simp only [Stmt.place, Stmt.span]
  | ifElse span condition yes no => cases no <;> simp only [Stmt.place, Stmt.span]
  | «return» span value => cases value <;> simp only [Stmt.place, Stmt.span]
  | «break» span value => cases value <;> simp only [Stmt.place, Stmt.span]
  | _ => simp only [Stmt.place, Stmt.span]

theorem Expr.isAssignable_place (e : Expr) (g : Placement) :
    (e.place g).isAssignable = e.isAssignable := by
  cases e <;> rfl

theorem Operator.node_place (op : Operator) (left right : Expr) (g : Placement) :
    (op.node left right).place g = op.node (left.place g) (right.place g) := by
  cases op <;> simp only [Operator.node, Expr.place, Placement.through, Expr.span_place]

/-! ## Behind a text -/

def Param.shift (param : Param) (bytes : Nat) : Param :=
  { param with span := param.span.shift bytes }

mutual

def Expr.shift (bytes : Nat) : Expr → Expr
  | .literal span value => .literal (span.shift bytes) value
  | .name span x => .name (span.shift bytes) x
  | .this span => .this (span.shift bytes)
  | .binary span op left right =>
    .binary (span.shift bytes) op (left.shift bytes) (right.shift bytes)
  | .logical span op left right =>
    .logical (span.shift bytes) op (left.shift bytes) (right.shift bytes)
  | .unary span op operand => .unary (span.shift bytes) op (operand.shift bytes)
  | .assign span target value =>
    .assign (span.shift bytes) (target.shift bytes) (value.shift bytes)
  | .call span callee args =>
    .call (span.shift bytes) (callee.shift bytes) (Expr.shiftAll bytes args)
  | .array span items => .array (span.shift bytes) (Expr.shiftAll bytes items)
  | .map span entries => .map (span.shift bytes) (Expr.shiftEntries bytes entries)
  | .group span inner => .group (span.shift bytes) (inner.shift bytes)
  | .index span target position =>
    .index (span.shift bytes) (target.shift bytes) (position.shift bytes)
  | .field span target x => .field (span.shift bytes) (target.shift bytes) x
  | .lambda span params body yields =>
    .lambda (span.shift bytes) (params.map (·.shift bytes)) (Stmt.shiftAll bytes body) yields

def Expr.shiftAll (bytes : Nat) : List Expr → List Expr
  | [] => []
  | e :: es => e.shift bytes :: Expr.shiftAll bytes es

def Expr.shiftEntries (bytes : Nat) : List (Expr × Expr) → List (Expr × Expr)
  | [] => []
  | (key, value) :: es => (key.shift bytes, value.shift bytes) :: Expr.shiftEntries bytes es

def Stmt.shift (bytes : Nat) : Stmt → Stmt
  | .varDecl span x none => .varDecl (span.shift bytes) x none
  | .varDecl span x (some e) => .varDecl (span.shift bytes) x (some (e.shift bytes))
  | .constDecl span x e => .constDecl (span.shift bytes) x (e.shift bytes)
  | .fnDecl span x params body =>
    .fnDecl (span.shift bytes) x (params.map (·.shift bytes)) (Stmt.shiftAll bytes body)
  | .expr span e => .expr (span.shift bytes) (e.shift bytes)
  | .block span body => .block (span.shift bytes) (Stmt.shiftAll bytes body)
  | .ifElse span condition yes none =>
    .ifElse (span.shift bytes) (condition.shift bytes) (Stmt.shiftAll bytes yes) none
  | .ifElse span condition yes (some no) =>
    .ifElse (span.shift bytes) (condition.shift bytes) (Stmt.shiftAll bytes yes)
      (some (Stmt.shiftAll bytes no))
  | .whileLoop span condition body =>
    .whileLoop (span.shift bytes) (condition.shift bytes) (Stmt.shiftAll bytes body)
  | .loop span body => .loop (span.shift bytes) (Stmt.shiftAll bytes body)
  | .forLoop span x iterable body =>
    .forLoop (span.shift bytes) x (iterable.shift bytes) (Stmt.shiftAll bytes body)
  | .when span subject arms =>
    .when (span.shift bytes) (subject.shift bytes) (Arm.shiftAll bytes arms)
  | .return span none => .return (span.shift bytes) none
  | .return span (some e) => .return (span.shift bytes) (some (e.shift bytes))
  | .break span none => .break (span.shift bytes) none
  | .break span (some e) => .break (span.shift bytes) (some (e.shift bytes))
  | .continue span => .continue (span.shift bytes)

def Stmt.shiftAll (bytes : Nat) : List Stmt → List Stmt
  | [] => []
  | s :: body => s.shift bytes :: Stmt.shiftAll bytes body

def Arm.shift (bytes : Nat) : Arm → Arm
  | .mk span pattern body => .mk (span.shift bytes) pattern (Stmt.shiftAll bytes body)

def Arm.shiftAll (bytes : Nat) : List Arm → List Arm
  | [] => []
  | arm :: arms => arm.shift bytes :: Arm.shiftAll bytes arms

end

theorem Param.map_place_after (params : List Param) (bytes : Nat) :
    params.map (·.place (.after bytes)) = params.map (·.shift bytes) :=
  rfl

mutual

theorem Expr.place_after (e : Expr) (bytes : Nat) : e.place (.after bytes) = e.shift bytes := by
  cases e <;> simp only [Expr.place, Expr.shift, Expr.place_after, Expr.placeAll_after,
    Expr.placeEntries_after, Stmt.placeAll_after, Param.map_place_after] <;> rfl

theorem Expr.placeAll_after (es : List Expr) (bytes : Nat) :
    Expr.placeAll (.after bytes) es = Expr.shiftAll bytes es := by
  cases es with
  | nil => rfl
  | cons e es => rw [Expr.placeAll, Expr.shiftAll, e.place_after, Expr.placeAll_after]

theorem Expr.placeEntries_after (es : List (Expr × Expr)) (bytes : Nat) :
    Expr.placeEntries (.after bytes) es = Expr.shiftEntries bytes es := by
  cases es with
  | nil => rfl
  | cons e es =>
    obtain ⟨key, value⟩ := e
    rw [Expr.placeEntries, Expr.shiftEntries, key.place_after, value.place_after,
      Expr.placeEntries_after]

theorem Stmt.place_after (s : Stmt) (bytes : Nat) : s.place (.after bytes) = s.shift bytes := by
  rcases s with ⟨_, _, _ | _⟩ | _ | _ | _ | _ | ⟨_, _, _, _ | _⟩ | _ | _ | _ | _ | ⟨_, _ | _⟩ |
    ⟨_, _ | _⟩ | _ <;>
    simp only [Stmt.place, Stmt.shift, Expr.place_after, Stmt.placeAll_after, Arm.placeAll_after,
      Param.map_place_after] <;> rfl

theorem Stmt.placeAll_after (body : List Stmt) (bytes : Nat) :
    Stmt.placeAll (.after bytes) body = Stmt.shiftAll bytes body := by
  cases body with
  | nil => rfl
  | cons s body => rw [Stmt.placeAll, Stmt.shiftAll, s.place_after, Stmt.placeAll_after]

theorem Arm.placeAll_after (arms : List Arm) (bytes : Nat) :
    Arm.placeAll (.after bytes) arms = Arm.shiftAll bytes arms := by
  cases arms with
  | nil => rfl
  | cons arm arms =>
    obtain ⟨span, pattern, body⟩ := arm
    rw [Arm.placeAll, Arm.shiftAll, Arm.place, Arm.shift, Stmt.placeAll_after, Arm.placeAll_after]
    rfl

end

theorem Expr.shiftAll_eq_map (bytes : Nat) (es : List Expr) :
    Expr.shiftAll bytes es = es.map (·.shift bytes) := by
  induction es with
  | nil => rfl
  | cons e es ih => rw [Expr.shiftAll, ih, List.map_cons]

theorem Expr.shiftEntries_eq_map (bytes : Nat) (es : List (Expr × Expr)) :
    Expr.shiftEntries bytes es = es.map fun e => (e.1.shift bytes, e.2.shift bytes) := by
  induction es with
  | nil => rfl
  | cons e es ih => rw [Expr.shiftEntries, ih, List.map_cons]

theorem Stmt.shiftAll_eq_map (bytes : Nat) (body : List Stmt) :
    Stmt.shiftAll bytes body = body.map (·.shift bytes) := by
  induction body with
  | nil => rfl
  | cons s body ih => rw [Stmt.shiftAll, ih, List.map_cons]

theorem Arm.shiftAll_eq_map (bytes : Nat) (arms : List Arm) :
    Arm.shiftAll bytes arms = arms.map (·.shift bytes) := by
  induction arms with
  | nil => rfl
  | cons arm arms ih => rw [Arm.shiftAll, ih, List.map_cons]

/-! ## Faults -/

def GrammarFault.place (g : Placement) : GrammarFault → GrammarFault
  | .expected what found => .expected what (found.map (·.place g))
  | .invalidTarget equals => .invalidTarget (g.span equals)
  | .outOfFuel => .outOfFuel

theorem GrammarFault.diagnostic_after (f : GrammarFault) (finish : Span) (bytes : Nat) :
    (f.place (.after bytes)).diagnostic (finish.shift bytes) =
      (f.diagnostic finish).shift bytes := by
  cases f with
  | expected what found => cases found <;> rfl
  | _ => rfl

/-- What a fault says is no matter of places. -/
theorem GrammarFault.diagnostic_place (f : GrammarFault) (g : Placement) (start finish : Span) :
    { (f.place g).diagnostic finish with span := none } =
      { f.diagnostic start with span := none } := by
  cases f with
  | expected what found => cases found <;> rfl
  | _ => rfl

end LayerScript
