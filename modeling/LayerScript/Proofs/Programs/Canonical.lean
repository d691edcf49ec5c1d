import LayerScript.Program.Parser
import LayerScript.Proofs.Decimal.Exact
import LayerScript.Proofs.Programs.Levels
import LayerScript.Proofs.Programs.Written

/-!
# Canonical programs

A canonical program is one that the grammar can give back: its operands are of the levels that their
places ask for, and nothing in it would be read as something else. `Program.text` writes a program
with one space between tokens. Numerals of floats and escapes in strings can be written in more than
one way, so the text depends on a `Style`.
-/

namespace LayerScript

/-! ## Trees without places -/

/-- A token with its place taken away. -/
def Token.bare (t : Token) : Token :=
  { t with span := default }

def Param.bare (p : Param) : Param :=
  { p with span := default }

mutual

/-- A tree with all places taken away. Two trees with the same bare tree differ in spans only. -/
def Expr.bare : Expr → Expr
  | .literal _ value => .literal default value
  | .name _ x => .name default x
  | .this _ => .this default
  | .binary _ op left right => .binary default op left.bare right.bare
  | .logical _ op left right => .logical default op left.bare right.bare
  | .unary _ op operand => .unary default op operand.bare
  | .assign _ target value => .assign default target.bare value.bare
  | .call _ callee args => .call default callee.bare (Expr.bareAll args)
  | .array _ items => .array default (Expr.bareAll items)
  | .map _ entries => .map default (Expr.bareEntries entries)
  | .group _ inner => .group default inner.bare
  | .index _ target position => .index default target.bare position.bare
  | .field _ target x => .field default target.bare x
  | .lambda _ params body yields => .lambda default (params.map (·.bare)) (Stmt.bareAll body) yields

def Expr.bareAll : List Expr → List Expr
  | [] => []
  | e :: es => e.bare :: Expr.bareAll es

def Expr.bareEntries : List (Expr × Expr) → List (Expr × Expr)
  | [] => []
  | (key, value) :: es => (key.bare, value.bare) :: Expr.bareEntries es

def Stmt.bare : Stmt → Stmt
  | .varDecl _ x none => .varDecl default x none
  | .varDecl _ x (some e) => .varDecl default x (some e.bare)
  | .constDecl _ x e => .constDecl default x e.bare
  | .fnDecl _ x params body => .fnDecl default x (params.map (·.bare)) (Stmt.bareAll body)
  | .expr _ e => .expr default e.bare
  | .block _ body => .block default (Stmt.bareAll body)
  | .ifElse _ condition yes none => .ifElse default condition.bare (Stmt.bareAll yes) none
  | .ifElse _ condition yes (some no) =>
    .ifElse default condition.bare (Stmt.bareAll yes) (some (Stmt.bareAll no))
  | .whileLoop _ condition body => .whileLoop default condition.bare (Stmt.bareAll body)
  | .loop _ body => .loop default (Stmt.bareAll body)
  | .forLoop _ x iterable body => .forLoop default x iterable.bare (Stmt.bareAll body)
  | .when _ subject arms => .when default subject.bare (Arm.bareAll arms)
  | .return _ none => .return default none
  | .return _ (some e) => .return default (some e.bare)
  | .break _ none => .break default none
  | .break _ (some e) => .break default (some e.bare)
  | .continue _ => .continue default

def Stmt.bareAll : List Stmt → List Stmt
  | [] => []
  | s :: body => s.bare :: Stmt.bareAll body

def Arm.bare : Arm → Arm
  | .mk _ pattern body => .mk default pattern (Stmt.bareAll body)

def Arm.bareAll : List Arm → List Arm
  | [] => []
  | arm :: arms => arm.bare :: Arm.bareAll arms

end

attribute [simp] Expr.bare Expr.bareAll Expr.bareEntries Stmt.bare Stmt.bareAll Arm.bare Arm.bareAll

def Program.bare (p : Program) : Program :=
  { p with body := Stmt.bareAll p.body }

/-! ## Words -/

/-- What a token of a fixed spelling is written as. -/
def TokenKind.text (kind : TokenKind) : String :=
  match kind with
  | .keyword k => k.text
  | _ => String.ofList (((marks.find? fun m => m.2 = kind).map (·.1)).getD [])

/-- A token of a fixed spelling, without a place. -/
def Token.mark (kind : TokenKind) : Token :=
  ⟨kind, kind.text, default⟩

def Token.keyword (k : Keyword) : Token :=
  .mark (.keyword k)

def Token.name (x : String) : Token :=
  ⟨.identifier, x, default⟩

def Token.numeral (digits : List Char) : Token :=
  ⟨.number, String.ofList digits, default⟩

def Token.string (s : String) : Token :=
  ⟨.string, s, default⟩

def Operator.kind : Operator → TokenKind
  | .logical .or => .orOr
  | .logical .and => .andAnd
  | .binary .equal => .equalEqual
  | .binary .notEqual => .bangEqual
  | .binary (.comparison .less) => .less
  | .binary (.comparison .lessEqual) => .lessEqual
  | .binary (.comparison .greater) => .greater
  | .binary (.comparison .greaterEqual) => .greaterEqual
  | .binary (.arithmetic .add) => .plus
  | .binary (.arithmetic .sub) => .minus
  | .binary (.arithmetic .mul) => .star
  | .binary (.arithmetic .div) => .slash
  | .binary (.arithmetic .mod) => .percent

/-- How literals of more than one spelling are written: a float without a sign as a numeral that
reads as the float, and a string as characters and escapes that stand for it. -/
structure Style where
  float : Float → List Char
  numeral {x : Float} : Decimal.IsUnsigned x → Numeral (float x)
  reads {x : Float} : Decimal.IsUnsigned x →
    numberLiteral (String.ofList (float x)) = .ok (.float x)
  string : String → List Char
  writing (s : String) : Writing '"' (string s) s.toList

/-- The words of a literal. A number with a sign takes two. -/
def Literal.words (style : Style) : Literal → List Token
  | .none => [.keyword .noneWord]
  | .bool true => [.keyword .trueWord]
  | .bool false => [.keyword .falseWord]
  | .int n =>
    if n.toInt < 0 then [.mark .minus, .numeral (Decimal.natural n.toInt.natAbs)]
    else [.numeral (Decimal.natural n.toInt.natAbs)]
  | .float x =>
    if Decimal.IsUnsigned x then [.numeral (style.float x)]
    else [.mark .minus, .numeral (style.float (-x))]
  | .text s => [.string s]

/-- Items with commas between them. -/
def Token.commas : List (List Token) → List Token
  | [] => []
  | [words] => words
  | words :: items => words ++ .mark .comma :: Token.commas items

def Token.braces (words : List Token) : List Token :=
  .mark .braceOpen :: (words ++ [.mark .braceClose])

mutual

def Pattern.words (style : Style) : Pattern → List Token
  | .wildcard => [.name "_"]
  | .literal value => value.words style
  | .name x => [.name x]
  | .tuple parts =>
    .mark .parenOpen :: (Token.commas (Pattern.wordsOfParts style parts) ++ [.mark .parenClose])

def Pattern.wordsOfParts (style : Style) : List Pattern → List (List Token)
  | [] => []
  | part :: parts => part.words style :: Pattern.wordsOfParts style parts

end

def Param.words (params : List Param) : List Token :=
  Token.commas (params.map fun p => [.name p.name])

/-- The bars around the parameters of a lambda, which are one mark when there are none. -/
def Param.bars (params : List Param) : List Token :=
  if params.isEmpty then [.mark .orOr] else .mark .pipe :: (Param.words params ++ [.mark .pipe])

mutual

/-- The words of an expression from left to right. -/
def Expr.words (style : Style) : Expr → List Token
  | .literal _ value => value.words style
  | .name _ x => [.name x]
  | .this _ => [.keyword .thisWord]
  | .binary _ op left right =>
    left.words style ++ .mark (Operator.binary op).kind :: right.words style
  | .logical _ op left right =>
    left.words style ++ .mark (Operator.logical op).kind :: right.words style
  | .unary _ op operand => .mark op.kind :: operand.words style
  | .assign _ target value => target.words style ++ .mark .assign :: value.words style
  | .call _ callee args =>
    callee.words style ++
      .mark .parenOpen :: (Token.commas (Expr.wordsOfItems style args) ++ [.mark .parenClose])
  | .array _ items =>
    .mark .bracketOpen :: (Token.commas (Expr.wordsOfItems style items) ++ [.mark .bracketClose])
  | .map _ entries => Token.braces (Token.commas (Expr.wordsOfEntries style entries))
  | .group _ inner => .mark .parenOpen :: (inner.words style ++ [.mark .parenClose])
  | .index _ target position =>
    target.words style ++ .mark .bracketOpen :: (position.words style ++ [.mark .bracketClose])
  | .field _ target x => target.words style ++ [.mark .dot, .name x]
  | .lambda _ params body false => Param.bars params ++ Token.braces (Stmt.wordsAll style body)
  | .lambda _ params body true => Param.bars params ++ Stmt.wordsOfResult style body

def Expr.wordsOfItems (style : Style) : List Expr → List (List Token)
  | [] => []
  | e :: es => e.words style :: Expr.wordsOfItems style es

def Expr.wordsOfEntries (style : Style) : List (Expr × Expr) → List (List Token)
  | [] => []
  | (key, value) :: es =>
    (key.words style ++ .mark .colon :: value.words style) :: Expr.wordsOfEntries style es

/-- The body of a lambda that is an expression. -/
def Stmt.wordsOfResult (style : Style) : List Stmt → List Token
  | .expr _ e :: _ => e.words style
  | _ => []

/-- The words of a statement, with a semicolon behind those that may have one. -/
def Stmt.words (style : Style) : Stmt → List Token
  | .varDecl _ x none => [.keyword .varWord, .name x, .mark .semicolon]
  | .varDecl _ x (some e) =>
    .keyword .varWord :: .name x :: .mark .assign :: (e.words style ++ [.mark .semicolon])
  | .constDecl _ x e =>
    .keyword .constWord :: .name x :: .mark .assign :: (e.words style ++ [.mark .semicolon])
  | .fnDecl _ x params body => .keyword .fnWord :: .name x :: .mark .parenOpen ::
    (Param.words params ++ .mark .parenClose :: Token.braces (Stmt.wordsAll style body))
  | .expr _ e => e.words style ++ [.mark .semicolon]
  | .block _ body => Token.braces (Stmt.wordsAll style body)
  | .ifElse _ condition yes none =>
    .keyword .ifWord :: (condition.words style ++ Token.braces (Stmt.wordsAll style yes))
  | .ifElse _ condition yes (some no) =>
    .keyword .ifWord :: (condition.words style ++ (Token.braces (Stmt.wordsAll style yes) ++
      .keyword .elseWord :: Token.braces (Stmt.wordsAll style no)))
  | .whileLoop _ condition body =>
    .keyword .whileWord :: (condition.words style ++ Token.braces (Stmt.wordsAll style body))
  | .loop _ body => .keyword .loopWord :: Token.braces (Stmt.wordsAll style body)
  | .forLoop _ x iterable body => .keyword .forWord :: .name x :: .keyword .inWord ::
    (iterable.words style ++ Token.braces (Stmt.wordsAll style body))
  | .when _ subject arms =>
    .keyword .whenWord :: (subject.words style ++ Token.braces (Arm.wordsAll style arms))
  | .return _ none => [.keyword .returnWord, .mark .semicolon]
  | .return _ (some e) => .keyword .returnWord :: (e.words style ++ [.mark .semicolon])
  | .break _ none => [.keyword .breakWord, .mark .semicolon]
  | .break _ (some e) => .keyword .breakWord :: (e.words style ++ [.mark .semicolon])
  | .continue _ => [.keyword .continueWord, .mark .semicolon]

def Stmt.wordsAll (style : Style) : List Stmt → List Token
  | [] => []
  | s :: body => s.words style ++ Stmt.wordsAll style body

def Arm.words (style : Style) : Arm → List Token
  | .mk _ pattern body =>
    pattern.words style ++ .mark .arrow :: Token.braces (Stmt.wordsAll style body)

def Arm.wordsAll (style : Style) : List Arm → List Token
  | [] => []
  | arm :: arms => arm.words style ++ Arm.wordsAll style arms

end

def Program.words (style : Style) (p : Program) : List Token :=
  (if p.strict then [.string strictDirective, .mark .semicolon] else []) ++
    Stmt.wordsAll style p.body

/-! ## Text -/

/-- The characters of a word. -/
def Style.slice (style : Style) (word : Token) : List Char :=
  if word.kind = .string then '"' :: (style.string word.text ++ ['"']) else word.text.toList

/-- Words with one space between them. -/
def Style.spaced (style : Style) : List Token → List Char
  | [] => []
  | word :: words => style.slice word ++ words.flatMap fun word => ' ' :: style.slice word

/-- The text of a program. -/
def Program.text (style : Style) (p : Program) : String :=
  String.ofList (style.spaced (p.words style))

/-! ## What makes a program canonical -/

/-- The level of an expression as an operand. A lambda is no operand without a group around it. -/
def Expr.rank : Expr → Nat
  | .lambda .. => 0
  | e => e.level

/-- The kind of the first token. -/
def Expr.opener : Expr → TokenKind
  | .literal _ .none => .keyword .noneWord
  | .literal _ (.bool true) => .keyword .trueWord
  | .literal _ (.bool false) => .keyword .falseWord
  | .literal _ (.int _) | .literal _ (.float _) => .number
  | .literal _ (.text _) => .string
  | .name .. => .identifier
  | .this _ => .keyword .thisWord
  | .binary _ _ e _ | .logical _ _ e _ | .assign _ e _ | .call _ e _ | .index _ e _
  | .field _ e _ => e.opener
  | .unary _ op _ => op.kind
  | .array .. => .bracketOpen
  | .map .. => .braceOpen
  | .group .. => .parenOpen
  | .lambda _ params _ _ => if params.isEmpty then .orOr else .pipe

/-- Whether an expression is one word, which in front of a colon is read as text. -/
def Expr.isWord : Expr → Bool
  | .name .. | .this _ | .literal _ .none | .literal _ (.bool _) => true
  | _ => false

/-- A literal that can stand in an expression. -/
def Literal.Plain : Literal → Prop
  | .int n => 0 ≤ n.toInt
  | .float x => Decimal.IsUnsigned x
  | _ => True

mutual

/-- Names are identifiers besides the wildcard. The smallest integer has no literal, and nothing but
a number has one. -/
def Pattern.Canonical : Pattern → Prop
  | .wildcard => True
  | .literal (.int n) => n ≠ Int64.minValue
  | .literal (.float x) => ¬ x.isNaN
  | .literal _ => True
  | .name x => isIdentifier x ∧ x ≠ "_"
  | .tuple parts => Pattern.AllCanonical parts

def Pattern.AllCanonical : List Pattern → Prop
  | [] => True
  | part :: parts => part.Canonical ∧ Pattern.AllCanonical parts

end

structure Param.Canonical (params : List Param) : Prop where
  named : ∀ p ∈ params, isIdentifier p.name
  distinct : (params.map (·.name)).Nodup

structure Operator.Canonical (op : Operator) (left right : Expr) : Prop where
  first : op.tier.level ≤ left.rank
  second : op.tier.level < right.rank

/-- What is asked of one node of a canonical program. -/
def Node.Canonical : Node → Prop
  | .expr (.literal _ value) => value.Plain
  | .expr (.name _ x) => isIdentifier x
  | .expr (.binary _ op left right) => (Operator.binary op).Canonical left right
  | .expr (.logical _ op left right) => (Operator.logical op).Canonical left right
  | .expr (.unary _ _ operand) => 7 ≤ operand.rank
  | .expr (.assign _ target _) => target.isAssignable
  | .expr (.call _ target _) | .expr (.index _ target _) => 8 ≤ target.rank
  | .expr (.field _ target x) => 8 ≤ target.rank ∧ isIdentifier x
  | .expr (.map _ entries) => ∀ entry ∈ entries, ¬ entry.1.isWord
  | .expr (.lambda _ params body yields) =>
    Param.Canonical params ∧ (yields → ∃ span e, body = [.expr span e])
  | .stmt (.varDecl _ x _) | .stmt (.constDecl _ x _) | .stmt (.forLoop _ x _ _) => isIdentifier x
  | .stmt (.fnDecl _ x params _) => isIdentifier x ∧ Param.Canonical params
  | .stmt (.expr _ e) => e.opener ≠ .braceOpen
  | .arm (.mk _ pattern _) => pattern.Canonical
  | _ => True

/-- A program whose nodes are canonical and that is strict if it begins with the directive. -/
structure Program.Canonical (p : Program) : Prop where
  nodes : ∀ s ∈ p.body, (Node.stmt s).Each Node.Canonical
  directive : p.strict = false → ∀ s ∈ p.body.head?, ¬ s.isDirective

end LayerScript
