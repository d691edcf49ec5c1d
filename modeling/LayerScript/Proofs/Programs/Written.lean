import LayerScript.Program.Number
import LayerScript.Program.Precedence

/-!
# How trees are written

Which tokens a tree is written as, from left to right, and which of them its spans go from and to.
A tree is written in several ways: semicolons behind simple statements, a comma behind the last item
of a list and the word `mut` may be left out, and a few constructs have two spellings. Nothing else
is free.
-/

namespace LayerScript

/-- The tokens are one of a kind or none. -/
def Perhaps (kind : TokenKind) (tokens : List Token) : Prop :=
  tokens = [] ∨ ∃ t, t.kind = kind ∧ tokens = [t]

inductive Token.Denotes : Token → Literal → Prop where
  | true {t : Token} : t.kind = .keyword .trueWord → t.Denotes (.bool Bool.true)
  | false {t : Token} : t.kind = .keyword .falseWord → t.Denotes (.bool Bool.false)
  | none {t : Token} : t.kind = .keyword .noneWord → t.Denotes .none
  | number {t : Token} {v : Literal} : t.kind = .number → numberLiteral t.text = .ok v →
      t.Denotes v
  | text {t : Token} : t.kind = .string → t.Denotes (.text t.text)

/-- The key of a map entry that stands without quotation marks. -/
def Token.IsBareKey (t : Token) : Prop :=
  t.kind = .identifier ∨ ∃ k, t.kind = .keyword k

def UnaryOp.kind : UnaryOp → TokenKind
  | .negate => .minus
  | .not => .bang

def Token.param (t : Token) : Param :=
  ⟨t.text, t.span⟩

/-! ## Parameters and patterns -/

inductive Params : List Param → List Token → Prop where
  | nil : Params [] []
  | last {t : Token} : t.kind = .identifier → Params [t.param] [t]
  | cons {t comma : Token} {p : Param} {ps : List Param} {ts : List Token} :
      t.kind = .identifier → comma.kind = .comma → Params (p :: ps) ts →
      Params (t.param :: p :: ps) (t :: comma :: ts)

/-- The bars in front of the body of a lambda, the first of which is `opening`. -/
inductive Bars (opening : Token) : List Param → List Token → Prop where
  | joined : opening.kind = .orOr → Bars opening [] [opening]
  | apart {closing : Token} {ps : List Param} {ts : List Token} : opening.kind = .pipe →
      Params ps ts → closing.kind = .pipe → Bars opening ps (opening :: (ts ++ [closing]))

mutual

inductive Pattern.Written : Pattern → List Token → Prop where
  | wildcard {t : Token} : t.kind = .identifier → t.text = "_" → Pattern.Written .wildcard [t]
  | name {t : Token} : t.kind = .identifier → t.text ≠ "_" → Pattern.Written (.name t.text) [t]
  | literal {t : Token} {v : Literal} : t.Denotes v → Pattern.Written (.literal v) [t]
  | negated {sign t : Token} {v : Literal} : sign.kind = .minus → t.kind = .number →
      numberLiteral t.text = .ok v → Pattern.Written (.literal v.negated) [sign, t]
  | tuple {opening closing : Token} {parts : List Pattern} {ts : List Token} :
      opening.kind = .parenOpen → Pattern.Parts parts ts → closing.kind = .parenClose →
      Pattern.Written (.tuple parts) (opening :: (ts ++ [closing]))

inductive Pattern.Parts : List Pattern → List Token → Prop where
  | nil : Pattern.Parts [] []
  | last {part : Pattern} {ts : List Token} : part.Written ts → Pattern.Parts [part] ts
  | cons {part next : Pattern} {parts : List Pattern} {comma : Token} {ts us : List Token} :
      part.Written ts → comma.kind = .comma → Pattern.Parts (next :: parts) us →
      Pattern.Parts (part :: next :: parts) (ts ++ comma :: us)

end

/-- The pattern of an arm, or the word for the one that matches everything. -/
inductive Arm.Shape : Pattern → List Token → Prop where
  | pattern {pattern : Pattern} {ps : List Token} : pattern.Written ps → Arm.Shape pattern ps
  | otherwise {t : Token} : t.kind = .keyword .elseWord → Arm.Shape .wildcard [t]

/-! ## Expressions and statements -/

mutual

inductive Expr.Written : Expr → List Token → Prop where
  | literal {t : Token} {v : Literal} : t.Denotes v → Expr.Written (.literal t.span v) [t]
  | name {t : Token} : t.kind = .identifier → Expr.Written (.name t.span t.text) [t]
  | this {t : Token} : t.kind = .keyword .thisWord → Expr.Written (.this t.span) [t]
  | operation {tier : Tier} {op : Operator} {left right : Expr} {t : Token} {ls rs : List Token} :
      left.Written ls → tier.operator? t.kind = some op → right.Written rs →
      Expr.Written (op.node left right) (ls ++ t :: rs)
  | unary {op : UnaryOp} {operand : Expr} {t : Token} {ts : List Token} : t.kind = op.kind →
      operand.Written ts → Expr.Written (.unary (t.span.through operand.span) op operand) (t :: ts)
  | assign {target value : Expr} {t : Token} {ts vs : List Token} : target.Written ts →
      t.kind = .assign → value.Written vs →
      Expr.Written (.assign (target.span.through value.span) target value) (ts ++ t :: vs)
  | call {callee : Expr} {args : List Expr} {opening closing : Token} {cs ts : List Token} :
      callee.Written cs → opening.kind = .parenOpen → Expr.Items args ts →
      closing.kind = .parenClose →
      Expr.Written (.call (callee.span.through closing.span) callee args)
        (cs ++ opening :: (ts ++ [closing]))
  | index {target position : Expr} {opening closing : Token} {ts ps : List Token} :
      target.Written ts → opening.kind = .bracketOpen → position.Written ps →
      closing.kind = .bracketClose →
      Expr.Written (.index (target.span.through closing.span) target position)
        (ts ++ opening :: (ps ++ [closing]))
  | field {target : Expr} {dot name : Token} {ts : List Token} : target.Written ts →
      dot.kind = .dot → name.kind = .identifier →
      Expr.Written (.field (target.span.through name.span) target name.text) (ts ++ [dot, name])
  | group {inner : Expr} {opening closing : Token} {ts : List Token} :
      opening.kind = .parenOpen → inner.Written ts → closing.kind = .parenClose →
      Expr.Written (.group (opening.span.through closing.span) inner) (opening :: (ts ++ [closing]))
  | array {items : List Expr} {opening closing : Token} {ts : List Token} :
      opening.kind = .bracketOpen → Expr.Items items ts → closing.kind = .bracketClose →
      Expr.Written (.array (opening.span.through closing.span) items) (opening :: (ts ++ [closing]))
  | map {entries : List (Expr × Expr)} {opening closing : Token} {ts : List Token} :
      opening.kind = .braceOpen → Expr.Entries entries ts → closing.kind = .braceClose →
      Expr.Written (.map (opening.span.through closing.span) entries) (opening :: (ts ++ [closing]))
  | lambda {params : List Param} {body : List Stmt} {span : Span} {opening : Token}
      {bs ts : List Token} : Bars opening params bs → Stmt.Braced body span ts →
      Expr.Written (.lambda (opening.span.through span) params body false) (bs ++ ts)
  | yielding {params : List Param} {result : Expr} {opening : Token} {bs ts : List Token} :
      Bars opening params bs → result.Written ts →
      Expr.Written (.lambda (opening.span.through result.span) params [.expr result.span result]
        true) (bs ++ ts)

/-- Expressions with commas between them, and perhaps one behind the last. -/
inductive Expr.Items : List Expr → List Token → Prop where
  | nil : Expr.Items [] []
  | last {e : Expr} {ts : List Token} : e.Written ts → Expr.Items [e] ts
  | cons {e : Expr} {es : List Expr} {comma : Token} {ts us : List Token} : e.Written ts →
      comma.kind = .comma → Expr.Items es us → Expr.Items (e :: es) (ts ++ comma :: us)

inductive Expr.Key : Expr → List Token → Prop where
  | bare {t : Token} : t.IsBareKey → Expr.Key (.literal t.span (.text t.text)) [t]
  | computed {e : Expr} {ts : List Token} : e.Written ts → Expr.Key e ts

/-- Entries of a map with commas between them, and perhaps one behind the last. -/
inductive Expr.Entries : List (Expr × Expr) → List Token → Prop where
  | nil : Expr.Entries [] []
  | last {key value : Expr} {colon : Token} {ks vs : List Token} : key.Key ks →
      colon.kind = .colon → value.Written vs → Expr.Entries [(key, value)] (ks ++ colon :: vs)
  | cons {key value : Expr} {es : List (Expr × Expr)} {colon comma : Token}
      {ks vs us : List Token} : key.Key ks → colon.kind = .colon → value.Written vs →
      comma.kind = .comma → Expr.Entries es us →
      Expr.Entries ((key, value) :: es) (ks ++ colon :: (vs ++ comma :: us))

inductive Stmt.Written : Stmt → List Token → Prop where
  | varDecl {start name : Token} {ms semi : List Token} : start.kind = .keyword .varWord →
      Perhaps (.keyword .mutWord) ms → name.kind = .identifier → Perhaps .semicolon semi →
      Stmt.Written (.varDecl (start.span.through name.span) name.text none)
        (start :: (ms ++ name :: semi))
  | varInit {start name equals : Token} {value : Expr} {ms vs semi : List Token} :
      start.kind = .keyword .varWord → Perhaps (.keyword .mutWord) ms → name.kind = .identifier →
      equals.kind = .assign → value.Written vs → Perhaps .semicolon semi →
      Stmt.Written (.varDecl (start.span.through value.span) name.text (some value))
        (start :: (ms ++ name :: equals :: (vs ++ semi)))
  | constDecl {start name equals : Token} {value : Expr} {vs semi : List Token} :
      start.kind = .keyword .constWord → name.kind = .identifier → equals.kind = .assign →
      value.Written vs → Perhaps .semicolon semi →
      Stmt.Written (.constDecl (start.span.through value.span) name.text value)
        (start :: name :: equals :: (vs ++ semi))
  | fnDecl {start name opening closing : Token} {params : List Param} {body : List Stmt}
      {span : Span} {ps ts : List Token} : start.kind = .keyword .fnWord →
      name.kind = .identifier → opening.kind = .parenOpen → Params params ps →
      closing.kind = .parenClose → Stmt.Braced body span ts →
      Stmt.Written (.fnDecl (start.span.through span) name.text params body)
        (start :: name :: opening :: (ps ++ closing :: ts))
  | expr {e : Expr} {ts semi : List Token} : e.Written ts → Perhaps .semicolon semi →
      Stmt.Written (.expr e.span e) (ts ++ semi)
  | block {body : List Stmt} {span : Span} {ts : List Token} : Stmt.Braced body span ts →
      Stmt.Written (.block span body) ts
  | ifElse {start : Token} {condition : Expr} {yes : List Stmt} {no : Option (List Stmt)}
      {span last : Span} {cs ys ns : List Token} : start.kind = .keyword .ifWord →
      condition.Written cs → Stmt.Braced yes span ys → Stmt.Otherwise span no last ns →
      Stmt.Written (.ifElse (start.span.through last) condition yes no)
        (start :: (cs ++ (ys ++ ns)))
  | whileLoop {start : Token} {condition : Expr} {body : List Stmt} {span : Span}
      {cs ts : List Token} : start.kind = .keyword .whileWord → condition.Written cs →
      Stmt.Braced body span ts →
      Stmt.Written (.whileLoop (start.span.through span) condition body) (start :: (cs ++ ts))
  | loop {start : Token} {body : List Stmt} {span : Span} {ts : List Token} :
      start.kind = .keyword .loopWord → Stmt.Braced body span ts →
      Stmt.Written (.loop (start.span.through span) body) (start :: ts)
  | forLoop {start name word : Token} {iterable : Expr} {body : List Stmt} {span : Span}
      {es ts : List Token} : start.kind = .keyword .forWord → name.kind = .identifier →
      word.kind = .keyword .inWord → iterable.Written es → Stmt.Braced body span ts →
      Stmt.Written (.forLoop (start.span.through span) name.text iterable body)
        (start :: name :: word :: (es ++ ts))
  | when {start opening closing : Token} {subject : Expr} {arms : List Arm} {es ts : List Token} :
      start.kind = .keyword .whenWord → subject.Written es → opening.kind = .braceOpen →
      Arm.Arms arms ts → closing.kind = .braceClose →
      Stmt.Written (.when (start.span.through closing.span) subject arms)
        (start :: (es ++ opening :: (ts ++ [closing])))
  | returnNone {start : Token} {semi : List Token} : start.kind = .keyword .returnWord →
      Perhaps .semicolon semi → Stmt.Written (.return start.span none) (start :: semi)
  | return {start : Token} {value : Expr} {vs semi : List Token} :
      start.kind = .keyword .returnWord → value.Written vs → Perhaps .semicolon semi →
      Stmt.Written (.return (start.span.through value.span) (some value)) (start :: (vs ++ semi))
  | breakNone {start : Token} {semi : List Token} : start.kind = .keyword .breakWord →
      Perhaps .semicolon semi → Stmt.Written (.break start.span none) (start :: semi)
  | break {start : Token} {value : Expr} {vs semi : List Token} :
      start.kind = .keyword .breakWord → value.Written vs → Perhaps .semicolon semi →
      Stmt.Written (.break (start.span.through value.span) (some value)) (start :: (vs ++ semi))
  | continue {start : Token} {semi : List Token} : start.kind = .keyword .continueWord →
      Perhaps .semicolon semi → Stmt.Written (.continue start.span) (start :: semi)

/-- What stands behind the first block of a conditional, which ends at `span`. The conditional ends
at `last`. -/
inductive Stmt.Otherwise : (span : Span) → Option (List Stmt) → (last : Span) → List Token →
    Prop where
  | none {span : Span} : Stmt.Otherwise span none span []
  | block {word : Token} {no : List Stmt} {span last : Span} {ts : List Token} :
      word.kind = .keyword .elseWord → Stmt.Braced no last ts →
      Stmt.Otherwise span (some no) last (word :: ts)
  | chain {word : Token} {span place : Span} {condition : Expr} {yes : List Stmt}
      {no : Option (List Stmt)} {ts : List Token} : word.kind = .keyword .elseWord →
      Stmt.Written (.ifElse place condition yes no) ts →
      Stmt.Otherwise span (some [.ifElse place condition yes no]) place (word :: ts)

/-- Statements between braces, which are at `span`. -/
inductive Stmt.Braced : List Stmt → (span : Span) → List Token → Prop where
  | intro {opening closing : Token} {body : List Stmt} {ts : List Token} :
      opening.kind = .braceOpen → Stmt.Sequence body ts → closing.kind = .braceClose →
      Stmt.Braced body (opening.span.through closing.span) (opening :: (ts ++ [closing]))

inductive Stmt.Sequence : List Stmt → List Token → Prop where
  | nil : Stmt.Sequence [] []
  | cons {s : Stmt} {body : List Stmt} {ts us : List Token} : s.Written ts →
      Stmt.Sequence body us → Stmt.Sequence (s :: body) (ts ++ us)

inductive Arm.Arms : List Arm → List Token → Prop where
  | nil : Arm.Arms [] []
  | cons {pattern : Pattern} {body : List Stmt} {span : Span} {arms : List Arm} {arrow : Token}
      {ps ts us : List Token} : Arm.Shape pattern ps → arrow.kind = .arrow →
      Stmt.Braced body span ts → Arm.Arms arms us →
      Arm.Arms (.mk span pattern body :: arms) (ps ++ arrow :: (ts ++ us))

end

end LayerScript
