import LayerScript.Text.Alphanumeric
import LayerScript.Text.Position

/-!
# Tokens

The words and marks of the script language.
-/

namespace LayerScript

inductive Keyword where
  | varWord
  | mutWord
  | constWord
  | fnWord
  | ifWord
  | elseWord
  | whenWord
  | loopWord
  | whileWord
  | forWord
  | inWord
  | breakWord
  | continueWord
  | returnWord
  | trueWord
  | falseWord
  | noneWord
  | thisWord
deriving DecidableEq, Repr

namespace Keyword

def all : List Keyword :=
  [.varWord, .mutWord, .constWord, .fnWord, .ifWord, .elseWord, .whenWord, .loopWord, .whileWord,
    .forWord, .inWord, .breakWord, .continueWord, .returnWord, .trueWord, .falseWord, .noneWord,
    .thisWord]

def text : Keyword → String
  | .varWord => "var"
  | .mutWord => "mut"
  | .constWord => "const"
  | .fnWord => "fn"
  | .ifWord => "if"
  | .elseWord => "else"
  | .whenWord => "when"
  | .loopWord => "loop"
  | .whileWord => "while"
  | .forWord => "for"
  | .inWord => "in"
  | .breakWord => "break"
  | .continueWord => "continue"
  | .returnWord => "return"
  | .trueWord => "true"
  | .falseWord => "false"
  | .noneWord => "none"
  | .thisWord => "this"

/-- The word with a capital first letter. -/
def title (k : Keyword) : String :=
  k.text.capitalize

def ofText? (word : String) : Option Keyword :=
  all.find? fun k => k.text = word

end Keyword

inductive TokenKind where
  | identifier
  | number
  | string
  | keyword (k : Keyword)
  | parenOpen
  | parenClose
  | braceOpen
  | braceClose
  | bracketOpen
  | bracketClose
  | comma
  | dot
  | colon
  | semicolon
  | arrow
  | assign
  | plus
  | minus
  | star
  | slash
  | percent
  | pipe
  | andAnd
  | orOr
  | bang
  | bangEqual
  | equalEqual
  | less
  | lessEqual
  | greater
  | greaterEqual
  | endOfText
deriving DecidableEq, Repr

/-- For a string the text is its contents, for every other token the part of the source it
covers. -/
structure Token where
  kind : TokenKind
  text : String
  span : Span
deriving DecidableEq, Repr

/-! ## Words -/

def isDigit (c : Char) : Bool :=
  '0' ≤ c && c ≤ '9'

def startsWord (c : Char) : Bool :=
  c.isAlpha || c = '_'

def continuesWord (c : Char) : Bool :=
  Text.isAlphanumeric c || c = '_'

/-- Whether a text can name a binding: it is a word and no keyword. -/
def isIdentifier (name : String) : Bool :=
  match name.toList with
  | [] => false
  | c :: cs => startsWord c && cs.all continuesWord && (Keyword.ofText? name).isNone

end LayerScript
