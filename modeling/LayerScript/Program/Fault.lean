import LayerScript.Token.Basic
import LayerScript.Diagnostic

/-!
# Grammatical faults

What the grammar asked for and which token stood there instead.
-/

namespace LayerScript

inductive Expectation where
  | blockStart
  | blockEnd
  | variableName
  | constantName
  | constantValue
  | functionName
  | parametersStart
  | parametersEnd
  | parameterName
  | newParameterName (taken : String)
  | loopBinding
  | inWord
  | armsStart
  | armArrow
  | armsEnd
  | pattern
  | tupleEnd
  | negatedNumber
  | argumentsEnd
  | indexEnd
  | fieldName
  | expression
  | groupEnd
  | arrayEnd
  | floatLiteral
  | integerLiteral
  | mapColon
  | mapEnd
  | lambdaStart
  | lambdaEnd
deriving DecidableEq, Repr

def Expectation.message : Expectation → String
  | .blockStart => "expected `\x7b` to start block"
  | .blockEnd => "expected block terminator"
  | .variableName => "expected variable name"
  | .constantName => "expected constant name"
  | .constantValue => "expected `=` in constant declaration"
  | .functionName => "expected function name"
  | .parametersStart => "expected `(` after function name"
  | .parametersEnd => "expected `)` after parameters"
  | .parameterName => "expected parameter name"
  | .newParameterName taken => s!"duplicate parameter name `{taken}`"
  | .loopBinding => "expected loop binding"
  | .inWord => "expected keyword `In`"
  | .armsStart => "expected `\x7b` after when expression"
  | .armArrow => "expected `->` in when arm"
  | .armsEnd => "expected `\x7d` after when arms"
  | .pattern => "unexpected token in pattern"
  | .tupleEnd => "expected `)` to close tuple pattern"
  | .negatedNumber => "expected number after `-`"
  | .argumentsEnd => "expected `)` after arguments"
  | .indexEnd => "expected `]` after index"
  | .fieldName => "expected field after `.`"
  | .expression => "unexpected token in expression"
  | .groupEnd => "expected `)` after expression"
  | .arrayEnd => "expected `]` after array literal"
  | .floatLiteral => "invalid float literal"
  | .integerLiteral => "integer literal out of range"
  | .mapColon => "expected `:` in map literal"
  | .mapEnd => "expected `\x7d` after map literal"
  | .lambdaStart => "expected `|` to start lambda"
  | .lambdaEnd => "expected closing `|` in lambda"

inductive GrammarFault where
  /-- The token found is missing at the end of the text. -/
  | expected (what : Expectation) (found : Option Token)
  /-- An assignment to something that is no name, field or element. -/
  | invalidTarget (equals : Span)
  /-- The fuel did not last. -/
  | outOfFuel
deriving DecidableEq, Repr

/-- The diagnostic of a fault in a text that ends at `finish`. -/
def GrammarFault.diagnostic (finish : Span) : GrammarFault → Diagnostic
  | .expected what none =>
    (Diagnostic.of .parser s!"{what.message}, found end of input").withSpan finish
  | .expected what (some token) =>
    (Diagnostic.of .parser s!"{what.message}, found `{token.text}`").withSpan token.span
  | .invalidTarget equals => (Diagnostic.of .parser "invalid assignment target").withSpan equals
  | .outOfFuel => Diagnostic.of .parser "program is too long"

end LayerScript
