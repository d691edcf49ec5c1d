import LayerScript.Program.Fault
import LayerScript.Program.Number
import LayerScript.Program.Precedence
import LayerScript.Token.Lexer

/-!
# Reading programs

`Program.parse` reads a whole source. The functions for the parts of the grammar take the tokens
that are left and return those behind the part. They call one another on less fuel; thirty-two calls
for each token are enough.
-/

namespace LayerScript

/-- Reads from the tokens that are left. -/
abbrev Parse := StateT (List Token) (Except GrammarFault)

namespace Parse

def fault {α : Type} (f : GrammarFault) : Parse α :=
  fun _ => .error f

/-- Asks for something that is not there. -/
def expected {α : Type} (what : Expectation) : Parse α :=
  fun tokens => .error (.expected what tokens.head?)

/-- The kind of the next token. -/
def nextKind : Parse (Option TokenKind) :=
  fun tokens => .ok (tokens.head?.map (·.kind), tokens)

/-- Whether the next token is of a kind. -/
def sees (kind : TokenKind) : Parse Bool := do
  return (← nextKind) = some kind

/-- Takes the next token if it is of a kind. -/
def accept (kind : TokenKind) : Parse (Option Token)
  | token :: rest =>
    if token.kind = kind then .ok (some token, rest) else .ok (none, token :: rest)
  | [] => .ok (none, [])

/-- Takes the next token, which has to be of a kind. -/
def expect (kind : TokenKind) (what : Expectation) : Parse Token
  | token :: rest =>
    if token.kind = kind then .ok (token, rest) else .error (.expected what (some token))
  | [] => .error (.expected what none)

def optionalSemicolon : Parse Unit := do
  discard (accept .semicolon)

def identifier (what : Expectation) : Parse Token :=
  expect .identifier what

/-! ## Parts without recursion -/

/-- The literal that a number token stands for. -/
def number (token : Token) : Parse Literal :=
  match numberLiteral token.text with
  | .ok value => pure value
  | .error .float => fault (.expected .floatLiteral (some token))
  | .error .integer => fault (.expected .integerLiteral (some token))

/-- Parameters behind those already read, separated by commas. -/
def paramsFrom : (fuel : Nat) → (read : List Param) → Parse (List Param)
  | 0, _ => fault .outOfFuel
  | fuel + 1, read => do
    let token ← identifier .parameterName
    if read.any (·.name = token.text) then
      fault (.expected (.newParameterName token.text) (some token))
    let read := read ++ [⟨token.text, token.span⟩]
    match ← accept .comma with
    | some _ => paramsFrom fuel read
    | none => return read

/-- Parameters up to a closing token, which stays. -/
def params (fuel : Nat) (closing : TokenKind) : Parse (List Param) := do
  if ← sees closing then return [] else paramsFrom fuel []

/-! ## Patterns -/

mutual

def pattern : (fuel : Nat) → Parse Pattern
  | 0 => fault .outOfFuel
  | fuel + 1 => fun tokens =>
    match tokens with
    | [] => .error (.expected .pattern none)
    | token :: rest =>
      match token.kind with
      | .identifier =>
        if token.text = "_" then .ok (.wildcard, rest) else .ok (.name token.text, rest)
      | .parenOpen => tuple fuel rest
      | .keyword .trueWord => .ok (.literal (.bool true), rest)
      | .keyword .falseWord => .ok (.literal (.bool false), rest)
      | .keyword .noneWord => .ok (.literal .none, rest)
      | .number => (.literal <$> number token) rest
      | .minus => (negated >>= fun value => pure (.literal value)) rest
      | .string => .ok (.literal (.text token.text), rest)
      | _ => .error (.expected .pattern (some token))
where
  negated : Parse Literal := do
    let value ← number (← expect .number .negatedNumber)
    return value.negated

/-- A tuple behind its opening parenthesis. -/
def tuple : (fuel : Nat) → Parse Pattern
  | 0 => fault .outOfFuel
  | fuel + 1 => do
    let parts ← if ← sees .parenClose then pure [] else patternsFrom fuel
    discard (expect .parenClose .tupleEnd)
    return .tuple parts

def patternsFrom : (fuel : Nat) → Parse (List Pattern)
  | 0 => fault .outOfFuel
  | fuel + 1 => do
    let part ← pattern fuel
    match ← accept .comma with
    | some _ => return part :: (← patternsFrom fuel)
    | none => return [part]

end

/-! ## Expressions and statements -/

/-- A name or keyword in front of a colon is a key. -/
def bareKey : Parse (Option Token)
  | token :: colon :: rest =>
    let isWord := match token.kind with
      | .identifier | .keyword _ => true
      | _ => false
    if isWord && colon.kind = .colon then .ok (some token, colon :: rest)
    else .ok (none, token :: colon :: rest)
  | tokens => .ok (none, tokens)

/-- Takes the operator of a tier. -/
def operator (tier : Tier) : Parse (Option Operator)
  | token :: rest =>
    match tier.operator? token.kind with
    | some op => .ok (some op, rest)
    | none => .ok (none, token :: rest)
  | [] => .ok (none, [])

mutual

/-- An assignment or an expression without one. The target is judged after the value is read. -/
def expression : (fuel : Nat) → Parse Expr
  | 0 => fault .outOfFuel
  | fuel + 1 => do
    let target ← infixChain fuel .disjunction
    match ← accept .assign with
    | none => return target
    | some equals =>
      let value ← expression fuel
      if target.isAssignable then return .assign (target.span.through value.span) target value
      else fault (.invalidTarget equals.span)

/-- Operands of the next tighter tier joined by operators of a tier. -/
def infixChain (fuel : Nat) (tier : Tier) : Parse Expr :=
  match fuel with
  | 0 => fault .outOfFuel
  | fuel + 1 => do
    let first ← operand fuel tier
    infixRest fuel tier first

def operand (fuel : Nat) (tier : Tier) : Parse Expr :=
  match fuel with
  | 0 => fault .outOfFuel
  | fuel + 1 =>
    match tier.tighter with
    | some tighter => infixChain fuel tighter
    | none => unary fuel

/-- Further operands of a tier, taken into the left operand one by one. -/
def infixRest (fuel : Nat) (tier : Tier) (left : Expr) : Parse Expr :=
  match fuel with
  | 0 => fault .outOfFuel
  | fuel + 1 => do
    match ← operator tier with
    | none => return left
    | some op =>
      let right ← operand fuel tier
      infixRest fuel tier (op.node left right)

def unary : (fuel : Nat) → Parse Expr
  | 0 => fault .outOfFuel
  | fuel + 1 => do
    match ← accept .minus with
    | some sign =>
      let operand ← unary fuel
      return .unary (sign.span.through operand.span) .negate operand
    | none =>
      match ← accept .bang with
      | some sign =>
        let operand ← unary fuel
        return .unary (sign.span.through operand.span) .not operand
      | none =>
        let target ← primary fuel
        postfixRest fuel target

/-- Calls, elements and fields of what is already read. -/
def postfixRest (fuel : Nat) (target : Expr) : Parse Expr :=
  match fuel with
  | 0 => fault .outOfFuel
  | fuel + 1 => do
    match ← accept .parenOpen with
    | some _ =>
      let args ← list fuel .parenClose
      let closing ← expect .parenClose .argumentsEnd
      postfixRest fuel (.call (target.span.through closing.span) target args)
    | none =>
      match ← accept .bracketOpen with
      | some _ =>
        let position ← expression fuel
        let closing ← expect .bracketClose .indexEnd
        postfixRest fuel (.index (target.span.through closing.span) target position)
      | none =>
        match ← accept .dot with
        | some _ =>
          let name ← identifier .fieldName
          postfixRest fuel (.field (target.span.through name.span) target name.text)
        | none => return target

/-- Expressions separated by commas up to a closing token, which stays. A comma may end them. -/
def list (fuel : Nat) (closing : TokenKind) : Parse (List Expr) :=
  match fuel with
  | 0 => fault .outOfFuel
  | fuel + 1 => do
    if ← sees closing then return []
    else
      let item ← expression fuel
      match ← accept .comma with
      | some _ => return item :: (← list fuel closing)
      | none => return [item]

/-- Entries of a map up to the closing brace, which stays. -/
def entries : (fuel : Nat) → Parse (List (Expr × Expr))
  | 0 => fault .outOfFuel
  | fuel + 1 => do
    if ← sees .braceClose then return []
    else
      let key ← match ← bareKey with
        | some word => pure (.literal word.span (.text word.text))
        | none => expression fuel
      discard (expect .colon .mapColon)
      let value ← expression fuel
      match ← accept .comma with
      | some _ => return (key, value) :: (← entries fuel)
      | none => return [(key, value)]

def primary : (fuel : Nat) → Parse Expr
  | 0 => fault .outOfFuel
  | fuel + 1 => fun tokens =>
    match tokens with
    | [] => .error (.expected .expression none)
    | token :: rest =>
      match token.kind with
      | .keyword .trueWord => .ok (.literal token.span (.bool true), rest)
      | .keyword .falseWord => .ok (.literal token.span (.bool false), rest)
      | .keyword .noneWord => .ok (.literal token.span .none, rest)
      | .keyword .thisWord => .ok (.this token.span, rest)
      | .number => (.literal token.span <$> number token) rest
      | .string => .ok (.literal token.span (.text token.text), rest)
      | .identifier => .ok (.name token.span token.text, rest)
      | .parenOpen => group fuel token rest
      | .bracketOpen => array fuel token rest
      | .braceOpen => mapLiteral fuel token rest
      | .pipe => lambda fuel token rest
      | .orOr => lambdaBody fuel token [] rest
      | _ => .error (.expected .expression (some token))

/-- A parenthesised expression behind its opening token. -/
def group (fuel : Nat) (opening : Token) : Parse Expr :=
  match fuel with
  | 0 => fault .outOfFuel
  | fuel + 1 => do
    let inner ← expression fuel
    let closing ← expect .parenClose .groupEnd
    return .group (opening.span.through closing.span) inner

def array (fuel : Nat) (opening : Token) : Parse Expr :=
  match fuel with
  | 0 => fault .outOfFuel
  | fuel + 1 => do
    let items ← list fuel .bracketClose
    let closing ← expect .bracketClose .arrayEnd
    return .array (opening.span.through closing.span) items

def mapLiteral (fuel : Nat) (opening : Token) : Parse Expr :=
  match fuel with
  | 0 => fault .outOfFuel
  | fuel + 1 => do
    let items ← entries fuel
    let closing ← expect .braceClose .mapEnd
    return .map (opening.span.through closing.span) items

/-- A lambda behind its first bar. -/
def lambda (fuel : Nat) (opening : Token) : Parse Expr :=
  match fuel with
  | 0 => fault .outOfFuel
  | fuel + 1 => do
    let names ← params fuel .pipe
    discard (expect .pipe .lambdaEnd)
    lambdaBody fuel opening names

/-- A lambda behind its parameters: a block, or an expression whose value it yields. -/
def lambdaBody (fuel : Nat) (opening : Token) (names : List Param) : Parse Expr :=
  match fuel with
  | 0 => fault .outOfFuel
  | fuel + 1 => do
    if ← sees .braceOpen then
      let (body, span) ← block fuel
      return .lambda (opening.span.through span) names body false
    else
      let result ← expression fuel
      return .lambda (opening.span.through result.span) names [.expr result.span result] true

/-- Statements between braces, and the span of the braces. -/
def block : (fuel : Nat) → Parse (List Stmt × Span)
  | 0 => fault .outOfFuel
  | fuel + 1 => do
    let opening ← expect .braceOpen .blockStart
    let body ← statements fuel
    let closing ← expect .braceClose .blockEnd
    return (body, opening.span.through closing.span)

/-- Statements up to a closing brace or the end of the text. -/
def statements : (fuel : Nat) → Parse (List Stmt)
  | 0 => fault .outOfFuel
  | fuel + 1 => do
    match ← nextKind with
    | none | some .braceClose => return []
    | some _ =>
      let first ← statement fuel
      return first :: (← statements fuel)

def statement : (fuel : Nat) → Parse Stmt
  | 0 => fault .outOfFuel
  | fuel + 1 => fun tokens =>
    match tokens with
    | [] => expressionStatement fuel []
    | token :: rest =>
      match token.kind with
      | .keyword .varWord => varStatement fuel token rest
      | .keyword .constWord => constStatement fuel token rest
      | .keyword .fnWord => fnStatement fuel token rest
      | .keyword .ifWord => ifStatement fuel token rest
      | .keyword .whileWord => whileStatement fuel token rest
      | .keyword .loopWord => loopStatement fuel token rest
      | .keyword .forWord => forStatement fuel token rest
      | .keyword .whenWord => whenStatement fuel token rest
      | .keyword .returnWord => returnStatement fuel token rest
      | .keyword .breakWord => breakStatement fuel token rest
      | .keyword .continueWord => continueStatement token rest
      | .braceOpen => blockStatement fuel tokens
      | _ => expressionStatement fuel tokens
where
  continueStatement (start : Token) : Parse Stmt := do
    optionalSemicolon
    return .continue start.span

def blockStatement : (fuel : Nat) → Parse Stmt
  | 0 => fault .outOfFuel
  | fuel + 1 => do
    let (body, span) ← block fuel
    return .block span body

def expressionStatement : (fuel : Nat) → Parse Stmt
  | 0 => fault .outOfFuel
  | fuel + 1 => do
    let e ← expression fuel
    optionalSemicolon
    return .expr e.span e

/-- A declaration behind its keyword, like the statements below. -/
def varStatement (fuel : Nat) (start : Token) : Parse Stmt :=
  match fuel with
  | 0 => fault .outOfFuel
  | fuel + 1 => do
    discard (accept (.keyword .mutWord))
    let name ← identifier .variableName
    match ← accept .assign with
    | none =>
      optionalSemicolon
      return .varDecl (start.span.through name.span) name.text none
    | some _ =>
      let value ← expression fuel
      optionalSemicolon
      return .varDecl (start.span.through value.span) name.text (some value)

def constStatement (fuel : Nat) (start : Token) : Parse Stmt :=
  match fuel with
  | 0 => fault .outOfFuel
  | fuel + 1 => do
    let name ← identifier .constantName
    discard (expect .assign .constantValue)
    let value ← expression fuel
    optionalSemicolon
    return .constDecl (start.span.through value.span) name.text value

def fnStatement (fuel : Nat) (start : Token) : Parse Stmt :=
  match fuel with
  | 0 => fault .outOfFuel
  | fuel + 1 => do
    let name ← identifier .functionName
    discard (expect .parenOpen .parametersStart)
    let names ← params fuel .parenClose
    discard (expect .parenClose .parametersEnd)
    let (body, span) ← block fuel
    return .fnDecl (start.span.through span) name.text names body

/-- The other branch may be another conditional without braces around it. -/
def ifStatement (fuel : Nat) (start : Token) : Parse Stmt :=
  match fuel with
  | 0 => fault .outOfFuel
  | fuel + 1 => do
    let condition ← expression fuel
    let (yes, span) ← block fuel
    match ← accept (.keyword .elseWord) with
    | none => return .ifElse (start.span.through span) condition yes none
    | some _ =>
      match ← accept (.keyword .ifWord) with
      | some next =>
        let nested ← ifStatement fuel next
        return .ifElse (start.span.through nested.span) condition yes (some [nested])
      | none =>
        let (no, span) ← block fuel
        return .ifElse (start.span.through span) condition yes (some no)

def whileStatement (fuel : Nat) (start : Token) : Parse Stmt :=
  match fuel with
  | 0 => fault .outOfFuel
  | fuel + 1 => do
    let condition ← expression fuel
    let (body, span) ← block fuel
    return .whileLoop (start.span.through span) condition body

def loopStatement (fuel : Nat) (start : Token) : Parse Stmt :=
  match fuel with
  | 0 => fault .outOfFuel
  | fuel + 1 => do
    let (body, span) ← block fuel
    return .loop (start.span.through span) body

def forStatement (fuel : Nat) (start : Token) : Parse Stmt :=
  match fuel with
  | 0 => fault .outOfFuel
  | fuel + 1 => do
    let name ← identifier .loopBinding
    discard (expect (.keyword .inWord) .inWord)
    let iterable ← expression fuel
    let (body, span) ← block fuel
    return .forLoop (start.span.through span) name.text iterable body

def whenStatement (fuel : Nat) (start : Token) : Parse Stmt :=
  match fuel with
  | 0 => fault .outOfFuel
  | fuel + 1 => do
    let subject ← expression fuel
    discard (expect .braceOpen .armsStart)
    let arms ← arms fuel
    let closing ← expect .braceClose .armsEnd
    return .when (start.span.through closing.span) subject arms

/-- Arms up to a closing brace or the end of the text. The word `else` matches everything. -/
def arms : (fuel : Nat) → Parse (List Arm)
  | 0 => fault .outOfFuel
  | fuel + 1 => do
    match ← nextKind with
    | none | some .braceClose => return []
    | some _ =>
      let shape ← match ← accept (.keyword .elseWord) with
        | some _ => pure .wildcard
        | none => pattern fuel
      discard (expect .arrow .armArrow)
      let (body, span) ← block fuel
      return .mk span shape body :: (← arms fuel)

def returnStatement (fuel : Nat) (start : Token) : Parse Stmt :=
  match fuel with
  | 0 => fault .outOfFuel
  | fuel + 1 => do
    let value ← trailingValue fuel
    return .return (spanWith start value) value

def breakStatement (fuel : Nat) (start : Token) : Parse Stmt :=
  match fuel with
  | 0 => fault .outOfFuel
  | fuel + 1 => do
    let value ← trailingValue fuel
    return .break (spanWith start value) value

/-- The value behind `return` or `break`. It is absent in front of a semicolon, a closing brace or
the end of the text. -/
def trailingValue : (fuel : Nat) → Parse (Option Expr)
  | 0 => fault .outOfFuel
  | fuel + 1 => do
    let value ← match ← nextKind with
      | none | some .semicolon | some .braceClose => pure none
      | some _ => some <$> expression fuel
    optionalSemicolon
    return value

/-- From a keyword to the end of its value. -/
def spanWith (start : Token) : Option Expr → Span
  | none => start.span
  | some value => start.span.through value.span

end

/-- Statements up to the end of the text. -/
def body : (fuel : Nat) → Parse (List Stmt)
  | 0 => fault .outOfFuel
  | fuel + 1 => do
    match ← nextKind with
    | none => return []
    | some _ =>
      let first ← statement fuel
      return first :: (← body fuel)

end Parse

/-- The text that makes a program strict. -/
def strictDirective : String := "use strict"

/-- Whether a statement is the directive. -/
def Stmt.isDirective : Stmt → Bool
  | .expr _ (.literal _ (.text s)) => s = strictDirective
  | _ => false

/-- Takes the directive off the front of the statements. -/
def Program.ofStatements : List Stmt → Program
  | first :: rest => if first.isDirective then ⟨true, rest⟩ else ⟨false, first :: rest⟩
  | [] => ⟨false, []⟩

/-- The program of a source, or the first fault in it. -/
def Program.parse (source : String) : Except Diagnostic Program := do
  let tokens ← scanTokens source
  match Parse.body (32 * (tokens.length + 1)) tokens with
  | .ok (body, _) => return .ofStatements body
  | .error fault => throw (fault.diagnostic (endToken source).span)

end LayerScript
