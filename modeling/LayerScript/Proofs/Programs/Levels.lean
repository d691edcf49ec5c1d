import LayerScript.Program.Precedence

/-!
# Levels of expressions

A program is a tree of nodes. `Node.Each` says that something holds at each of them, the bodies of
functions included. What an operator asks of its operands is said of one node: `Node.Leveled`.
-/

namespace LayerScript

/-! ## Nodes -/

inductive Node where
  | expr (e : Expr)
  | stmt (s : Stmt)
  | arm (a : Arm)

def Arm.span : Arm → Span
  | .mk span .. => span

def Node.span : Node → Span
  | .expr e => e.span
  | .stmt s => s.span
  | .arm a => a.span

/-- The nodes that are directly below an expression. -/
def Expr.children : Expr → List Node
  | .literal .. | .name .. | .this _ => []
  | .unary _ _ e | .group _ e | .field _ e _ => [.expr e]
  | .binary _ _ a b | .logical _ _ a b | .assign _ a b | .index _ a b => [.expr a, .expr b]
  | .call _ callee args => .expr callee :: args.map .expr
  | .array _ items => items.map .expr
  | .map _ entries => entries.map (.expr ·.1) ++ entries.map (.expr ·.2)
  | .lambda _ _ body _ => body.map .stmt

/-- The nodes that are directly below a statement. -/
def Stmt.children : Stmt → List Node
  | .varDecl _ _ value | .return _ value | .break _ value => value.toList.map .expr
  | .constDecl _ _ e | .expr _ e => [.expr e]
  | .fnDecl _ _ _ body | .block _ body | .loop _ body => body.map .stmt
  | .ifElse _ e yes no => .expr e :: (yes.map .stmt ++ (no.getD []).map .stmt)
  | .whileLoop _ e body | .forLoop _ _ e body => .expr e :: body.map .stmt
  | .when _ e arms => .expr e :: arms.map .arm
  | .continue _ => []

def Node.children : Node → List Node
  | .expr e => e.children
  | .stmt s => s.children
  | .arm (.mk _ _ body) => body.map .stmt

/-- `P` holds at a node and at each node below it. -/
inductive Node.Each (P : Node → Prop) : Node → Prop where
  | intro {node : Node} : P node → (∀ child ∈ node.children, Node.Each P child) → Node.Each P node

theorem Node.Each.here {P : Node → Prop} {node : Node} (h : node.Each P) : P node := by
  cases h with
  | intro here _ => exact here

theorem Node.Each.child {P : Node → Prop} {node child : Node} (h : node.Each P)
    (mem : child ∈ node.children) : child.Each P := by
  cases h with
  | intro _ below => exact below child mem

theorem Node.Each.mono {P Q : Node → Prop} {node : Node} (h : node.Each P)
    (imp : ∀ node, P node → Q node) : node.Each Q := by
  induction h with
  | intro here _ ih => exact .intro (imp _ here) ih

/-! ## Levels -/

def Tier.level : Tier → Nat
  | .disjunction => 1
  | .conjunction => 2
  | .equality => 3
  | .comparison => 4
  | .sum => 5
  | .product => 6

def Operator.tier : Operator → Tier
  | .logical .or => .disjunction
  | .logical .and => .conjunction
  | .binary .equal | .binary .notEqual => .equality
  | .binary (.comparison _) => .comparison
  | .binary (.arithmetic .add) | .binary (.arithmetic .sub) => .sum
  | .binary (.arithmetic _) => .product

/-- How tightly an expression binds: assignments, the six tiers of operators, signs, and all that
needs no operand in front of it. -/
def Expr.level : Expr → Nat
  | .assign .. => 0
  | .logical _ op _ _ => (Operator.logical op).tier.level
  | .binary _ op _ _ => (Operator.binary op).tier.level
  | .unary .. => 7
  | _ => 8

/-- Whether an expression ends in a lambda whose body is an expression. It takes in whatever could
follow it. -/
def Expr.endsOpen : Expr → Bool
  | .lambda _ _ _ yields => yields
  | .binary _ _ _ right | .logical _ _ _ right => right.endsOpen
  | .unary _ _ operand => operand.endsOpen
  | .assign _ _ value => value.endsOpen
  | _ => false

/-- What an infix operator asks of its operands. -/
structure Operator.Fits (op : Operator) (left right : Expr) : Prop where
  first : op.tier.level ≤ left.level
  second : op.tier.level < right.level
  closed : ¬ left.endsOpen

/-- What calls, elements and fields ask of their target. -/
structure Expr.Postfixed (target : Expr) : Prop where
  level : 8 ≤ target.level
  closed : ¬ target.endsOpen

/-- Whether the expressions directly below a node are of the levels that it asks for. -/
def Node.Leveled : Node → Prop
  | .expr (.binary _ op left right) => (Operator.binary op).Fits left right
  | .expr (.logical _ op left right) => (Operator.logical op).Fits left right
  | .expr (.unary _ _ operand) => 7 ≤ operand.level
  | .expr (.assign _ target _) => target.isAssignable
  | .expr (.call _ target _) | .expr (.index _ target _) | .expr (.field _ target _) =>
    target.Postfixed
  | _ => True

theorem Tier.level_tighter {tier tighter : Tier} (h : tier.tighter = some tighter) :
    tighter.level = tier.level + 1 := by
  cases tier <;> cases h <;> rfl

theorem Tier.level_of_tightest {tier : Tier} (h : tier.tighter = none) : tier.level = 6 := by
  cases tier <;> first | rfl | exact absurd h (by decide)

theorem Tier.level_bounds (tier : Tier) : 1 ≤ tier.level ∧ tier.level ≤ 6 := by
  cases tier <;> decide

theorem Tier.tier_of_operator? {tier : Tier} {kind : TokenKind} {op : Operator}
    (h : tier.operator? kind = some op) : op.tier = tier := by
  unfold Tier.operator? at h
  split at h
  all_goals first | (obtain rfl := Option.some.inj h; rfl) | exact absurd h (by simp)

theorem Operator.level_node (op : Operator) (left right : Expr) :
    (op.node left right).level = op.tier.level := by
  cases op <;> rfl

theorem Operator.endsOpen_node (op : Operator) (left right : Expr) :
    (op.node left right).endsOpen = right.endsOpen := by
  cases op <;> simp [Operator.node, Expr.endsOpen]

end LayerScript
