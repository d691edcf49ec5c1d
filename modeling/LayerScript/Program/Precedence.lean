import LayerScript.Program.Basic
import LayerScript.Token.Basic

/-!
# Precedence of operators

The infix operators fall into six tiers, from loosest to tightest. All associate to the left.
-/

namespace LayerScript

inductive Tier where
  | disjunction
  | conjunction
  | equality
  | comparison
  | sum
  | product
deriving DecidableEq, Repr

/-- An infix operator. -/
inductive Operator where
  | logical (op : LogicalOp)
  | binary (op : BinaryOp)
deriving DecidableEq, Repr

namespace Tier

/-- The next tighter tier. -/
def tighter : Tier → Option Tier
  | .disjunction => some .conjunction
  | .conjunction => some .equality
  | .equality => some .comparison
  | .comparison => some .sum
  | .sum => some .product
  | .product => none

/-- The operator of the tier that a token stands for. -/
def operator? : Tier → TokenKind → Option Operator
  | .disjunction, .orOr => some (.logical .or)
  | .conjunction, .andAnd => some (.logical .and)
  | .equality, .equalEqual => some (.binary .equal)
  | .equality, .bangEqual => some (.binary .notEqual)
  | .comparison, .less => some (.binary (.comparison .less))
  | .comparison, .lessEqual => some (.binary (.comparison .lessEqual))
  | .comparison, .greater => some (.binary (.comparison .greater))
  | .comparison, .greaterEqual => some (.binary (.comparison .greaterEqual))
  | .sum, .plus => some (.binary (.arithmetic .add))
  | .sum, .minus => some (.binary (.arithmetic .sub))
  | .product, .star => some (.binary (.arithmetic .mul))
  | .product, .slash => some (.binary (.arithmetic .div))
  | .product, .percent => some (.binary (.arithmetic .mod))
  | _, _ => none

end Tier

/-- The node of an infix operator, which spans both operands. -/
def Operator.node : Operator → Expr → Expr → Expr
  | .logical op, left, right => .logical (left.span.through right.span) op left right
  | .binary op, left, right => .binary (left.span.through right.span) op left right

end LayerScript
