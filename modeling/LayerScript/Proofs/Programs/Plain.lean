import LayerScript.Program.Basic

/-!
# Plain code

Code is plain for a set of names when every name that it reads or assigns is in the set and it
never mentions the receiver. What it declares is not restricted.
-/

namespace LayerScript

mutual

inductive Expr.Plain (names : String → Prop) : Expr → Prop
  | literal {span value} : Expr.Plain names (.literal span value)
  | name {span x} : names x → Expr.Plain names (.name span x)
  | binary {span op left right} : Expr.Plain names left → Expr.Plain names right →
      Expr.Plain names (.binary span op left right)
  | logical {span op left right} : Expr.Plain names left → Expr.Plain names right →
      Expr.Plain names (.logical span op left right)
  | unary {span op operand} : Expr.Plain names operand → Expr.Plain names (.unary span op operand)
  | assign {span target value} : Expr.Plain names target → Expr.Plain names value →
      Expr.Plain names (.assign span target value)
  | call {span callee args} : Expr.Plain names callee → (∀ e ∈ args, Expr.Plain names e) →
      Expr.Plain names (.call span callee args)
  | array {span items} : (∀ e ∈ items, Expr.Plain names e) → Expr.Plain names (.array span items)
  | map {span entries} : (∀ e ∈ entries, Expr.Plain names e.1) →
      (∀ e ∈ entries, Expr.Plain names e.2) → Expr.Plain names (.map span entries)
  | group {span inner} : Expr.Plain names inner → Expr.Plain names (.group span inner)
  | index {span target position} : Expr.Plain names target → Expr.Plain names position →
      Expr.Plain names (.index span target position)
  | field {span target x} : Expr.Plain names target → Expr.Plain names (.field span target x)
  | lambda {span params body yields} : (∀ s ∈ body, Stmt.Plain names s) →
      Expr.Plain names (.lambda span params body yields)

inductive Stmt.Plain (names : String → Prop) : Stmt → Prop
  | varDecl {span x initial} : (∀ e ∈ initial, Expr.Plain names e) →
      Stmt.Plain names (.varDecl span x initial)
  | constDecl {span x value} : Expr.Plain names value → Stmt.Plain names (.constDecl span x value)
  | fnDecl {span x params body} : (∀ s ∈ body, Stmt.Plain names s) →
      Stmt.Plain names (.fnDecl span x params body)
  | expr {span e} : Expr.Plain names e → Stmt.Plain names (.expr span e)
  | block {span body} : (∀ s ∈ body, Stmt.Plain names s) → Stmt.Plain names (.block span body)
  | ifElse {span condition yes no} : Expr.Plain names condition →
      (∀ s ∈ yes, Stmt.Plain names s) → (∀ body ∈ no, ∀ s ∈ body, Stmt.Plain names s) →
      Stmt.Plain names (.ifElse span condition yes no)
  | whileLoop {span condition body} : Expr.Plain names condition →
      (∀ s ∈ body, Stmt.Plain names s) → Stmt.Plain names (.whileLoop span condition body)
  | loop {span body} : (∀ s ∈ body, Stmt.Plain names s) → Stmt.Plain names (.loop span body)
  | forLoop {span x iterable body} : Expr.Plain names iterable →
      (∀ s ∈ body, Stmt.Plain names s) → Stmt.Plain names (.forLoop span x iterable body)
  | when {span subject arms} : Expr.Plain names subject → (∀ arm ∈ arms, Arm.Plain names arm) →
      Stmt.Plain names (.when span subject arms)
  | return {span value} : (∀ e ∈ value, Expr.Plain names e) → Stmt.Plain names (.return span value)
  | break {span value} : (∀ e ∈ value, Expr.Plain names e) → Stmt.Plain names (.break span value)
  | continue {span} : Stmt.Plain names (.continue span)

inductive Arm.Plain (names : String → Prop) : Arm → Prop
  | mk {span pattern body} : (∀ s ∈ body, Stmt.Plain names s) →
      Arm.Plain names (.mk span pattern body)

end

end LayerScript
