import LayerScript.Text.Position

/-!
# Programs

The tree of a script. Every expression and statement has the span of the source it was read from.
-/

namespace LayerScript

inductive Literal where
  | none
  | bool (b : Bool)
  | int (n : Int64)
  | float (x : Float)
  | text (s : String)

inductive ArithmeticOp where
  | add
  | sub
  | mul
  | div
  | mod
deriving DecidableEq, Repr

inductive ComparisonOp where
  | less
  | lessEqual
  | greater
  | greaterEqual
deriving DecidableEq, Repr

/-- Operators that evaluate both operands. -/
inductive BinaryOp where
  | arithmetic (op : ArithmeticOp)
  | comparison (op : ComparisonOp)
  | equal
  | notEqual
deriving DecidableEq, Repr

/-- Operators that may leave their right operand unevaluated. -/
inductive LogicalOp where
  | and
  | or
deriving DecidableEq, Repr

inductive UnaryOp where
  | negate
  | not
deriving DecidableEq, Repr

structure Param where
  name : String
  span : Span
deriving DecidableEq, Repr

inductive Pattern where
  | wildcard
  | literal (value : Literal)
  | name (x : String)
  | tuple (parts : List Pattern)

mutual

inductive Expr where
  | literal (span : Span) (value : Literal)
  | name (span : Span) (x : String)
  | this (span : Span)
  | binary (span : Span) (op : BinaryOp) (left right : Expr)
  | logical (span : Span) (op : LogicalOp) (left right : Expr)
  | unary (span : Span) (op : UnaryOp) (operand : Expr)
  | assign (span : Span) (target value : Expr)
  | call (span : Span) (callee : Expr) (args : List Expr)
  | array (span : Span) (items : List Expr)
  | map (span : Span) (entries : List (Expr × Expr))
  | group (span : Span) (inner : Expr)
  | index (span : Span) (target position : Expr)
  | field (span : Span) (target : Expr) (name : String)
  /-- With an expression as its body a lambda yields the value of that expression. -/
  | lambda (span : Span) (params : List Param) (body : List Stmt) (yields : Bool)

inductive Stmt where
  | varDecl (span : Span) (name : String) (initial : Option Expr)
  | constDecl (span : Span) (name : String) (value : Expr)
  | fnDecl (span : Span) (name : String) (params : List Param) (body : List Stmt)
  | expr (span : Span) (e : Expr)
  | block (span : Span) (body : List Stmt)
  | ifElse (span : Span) (condition : Expr) (yes : List Stmt) (no : Option (List Stmt))
  | whileLoop (span : Span) (condition : Expr) (body : List Stmt)
  | loop (span : Span) (body : List Stmt)
  | forLoop (span : Span) (name : String) (iterable : Expr) (body : List Stmt)
  | when (span : Span) (subject : Expr) (arms : List Arm)
  | return (span : Span) (value : Option Expr)
  | break (span : Span) (value : Option Expr)
  | continue (span : Span)

/-- The span of an arm is that of its body. -/
inductive Arm where
  | mk (span : Span) (pattern : Pattern) (body : List Stmt)

end

instance : Inhabited Expr := ⟨.this default⟩

instance : Inhabited Stmt := ⟨.continue default⟩

def Expr.span : Expr → Span
  | .literal span _ | .name span _ | .this span | .binary span .. | .logical span ..
  | .unary span .. | .assign span .. | .call span .. | .array span _ | .map span _
  | .group span _ | .index span .. | .field span .. | .lambda span .. => span

def Stmt.span : Stmt → Span
  | .varDecl span .. | .constDecl span .. | .fnDecl span .. | .expr span _ | .block span _
  | .ifElse span .. | .whileLoop span .. | .loop span _ | .forLoop span .. | .when span ..
  | .return span _ | .break span _ | .continue span => span

/-- Whether an expression can stand on the left of an assignment. -/
def Expr.isAssignable : Expr → Bool
  | .name .. | .index .. | .field .. => true
  | _ => false

/-- A script. It is strict when it starts with the directive, which is not part of the body. -/
structure Program where
  strict : Bool
  body : List Stmt

end LayerScript
