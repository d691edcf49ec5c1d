/-!
# What is wrong with a JSON text

A `Flaw` is the reason a text is not JSON. An `Error` adds the line, counted from one, and the
number of bytes read on it.
-/

namespace LayerScript.Json

inductive Flaw where
  | endInValue
  | endInList
  | endInObject
  | endInString
  | expectedColon
  | expectedListComma
  | expectedObjectComma
  | expectedIdent
  | expectedValue
  | keyNotString
  | trailingComma
  | trailingCharacters
  | invalidNumber
  | numberOutOfRange
  | invalidEscape
  | controlCharacter
  | loneSurrogate
  | endOfHexEscape
  | tooDeep
deriving DecidableEq, Repr

def Flaw.message : Flaw → String
  | .endInValue => "EOF while parsing a value"
  | .endInList => "EOF while parsing a list"
  | .endInObject => "EOF while parsing an object"
  | .endInString => "EOF while parsing a string"
  | .expectedColon => "expected `:`"
  | .expectedListComma => "expected `,` or `]`"
  | .expectedObjectComma => "expected `,` or `\x7d`"
  | .expectedIdent => "expected ident"
  | .expectedValue => "expected value"
  | .keyNotString => "key must be a string"
  | .trailingComma => "trailing comma"
  | .trailingCharacters => "trailing characters"
  | .invalidNumber => "invalid number"
  | .numberOutOfRange => "number out of range"
  | .invalidEscape => "invalid escape"
  | .controlCharacter => "control character (\\u0000-\\u001F) found while parsing a string"
  | .loneSurrogate => "lone leading surrogate in hex escape"
  | .endOfHexEscape => "unexpected end of hex escape"
  | .tooDeep => "recursion limit exceeded"

structure Error where
  flaw : Flaw
  line : Nat
  column : Nat
deriving DecidableEq, Repr

def Error.message (e : Error) : String :=
  e.flaw.message ++ " at line " ++ toString e.line ++ " column " ++ toString e.column

/-- Line and column after `bytes` bytes of a text. The bytes may end inside a character. -/
def locate : (bytes line column : Nat) → List Char → Nat × Nat
  | _, line, column, [] => (line, column)
  | bytes, line, column, c :: cs =>
    if bytes = 0 then (line, column)
    else if c = '\n' then locate (bytes - 1) (line + 1) 0 cs
    else locate (bytes - c.utf8Size) line (column + min bytes c.utf8Size) cs

end LayerScript.Json
