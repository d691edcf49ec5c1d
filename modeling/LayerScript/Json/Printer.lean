import LayerScript.Json.Basic
import LayerScript.Decimal.Numeral

/-!
# Writing JSON

`Json.compact` writes a document without blanks, `Json.pretty` with two blanks of indentation and
one line for each item. Floats have the fewest digits that read back; NaN and the infinities are
written as `null`.
-/

namespace LayerScript.Json

/-- The lower case hexadecimal digit of a number below sixteen. -/
def hexDigit (n : Nat) : Char :=
  Nat.digitChar n

/-- Only the quotation mark, the backslash and control characters are escaped. -/
def escape (c : Char) : List Char :=
  if c = '\"' then ['\\', '\"']
  else if c = '\\' then ['\\', '\\']
  else if c = '\n' then ['\\', 'n']
  else if c = '\r' then ['\\', 'r']
  else if c = '\t' then ['\\', 't']
  else if c.toNat = 0x08 then ['\\', 'b']
  else if c.toNat = 0x0C then ['\\', 'f']
  else if c.toNat < 0x20 then
    ['\\', 'u', '0', '0', hexDigit (c.toNat / 16), hexDigit (c.toNat % 16)]
  else [c]

def quote (s : String) : List Char :=
  '\"' :: (s.toList.flatMap escape ++ ['\"'])

/-- Positional while the first digit is at most five places behind the point or fifteen before
its last digit; whole numbers then get a fraction of zero. -/
def floatNumeral (x : Float) : List Char :=
  match Decimal.Binary64.ofFloat x with
  | .nan | .infinite _ => ['n', 'u', 'l', 'l']
  | .finite negative significand exponent =>
    let size :=
      if significand = 0 then ['0', '.', '0']
      else
        let d := Decimal.shortest .even significand exponent
        if -5 ≤ d.magnitude ∧ d.magnitude ≤ 15 then
          if 0 ≤ d.exponent then d.positional ++ ['.', '0'] else d.positional
        else d.scientific
    if negative then '-' :: size else size

mutual

def compactChars : Json → List Char
  | .null => ['n', 'u', 'l', 'l']
  | .bool true => ['t', 'r', 'u', 'e']
  | .bool false => ['f', 'a', 'l', 's', 'e']
  | .int n => Decimal.integer n.toInt
  | .float x => floatNumeral x
  | .string s => quote s
  | .array [] => ['[', ']']
  | .array (j :: js) => '[' :: (compactChars j ++ compactItems js)
  | .object [] => ['\x7b', '\x7d']
  | .object (e :: es) => '\x7b' :: (compactEntry e ++ compactEntries es)

/-- The items after the first one, and the closing bracket. -/
def compactItems : List Json → List Char
  | [] => [']']
  | j :: js => ',' :: (compactChars j ++ compactItems js)

def compactEntry : String × Json → List Char
  | (key, j) => quote key ++ ':' :: compactChars j

/-- The entries after the first one, and the closing brace. -/
def compactEntries : List (String × Json) → List Char
  | [] => ['\x7d']
  | e :: es => ',' :: (compactEntry e ++ compactEntries es)

end

/-- A line break and the indentation of the given depth. -/
def newline (depth : Nat) : List Char :=
  '\n' :: List.replicate (2 * depth) ' '

mutual

/-- The document as it stands `depth` containers deep. -/
def prettyChars (depth : Nat) : Json → List Char
  | .null => ['n', 'u', 'l', 'l']
  | .bool true => ['t', 'r', 'u', 'e']
  | .bool false => ['f', 'a', 'l', 's', 'e']
  | .int n => Decimal.integer n.toInt
  | .float x => floatNumeral x
  | .string s => quote s
  | .array [] => ['[', ']']
  | .array (j :: js) =>
    '[' :: (newline (depth + 1) ++ prettyChars (depth + 1) j ++ prettyItems depth js)
  | .object [] => ['\x7b', '\x7d']
  | .object (e :: es) =>
    '\x7b' :: (newline (depth + 1) ++ prettyEntry depth e ++ prettyEntries depth es)

def prettyItems (depth : Nat) : List Json → List Char
  | [] => newline depth ++ [']']
  | j :: js => ',' :: (newline (depth + 1) ++ prettyChars (depth + 1) j ++ prettyItems depth js)

def prettyEntry (depth : Nat) : String × Json → List Char
  | (key, j) => quote key ++ ':' :: ' ' :: prettyChars (depth + 1) j

def prettyEntries (depth : Nat) : List (String × Json) → List Char
  | [] => newline depth ++ ['\x7d']
  | e :: es => ',' :: (newline (depth + 1) ++ prettyEntry depth e ++ prettyEntries depth es)

end

def compact (j : Json) : String :=
  String.ofList (compactChars j)

def pretty (j : Json) : String :=
  String.ofList (prettyChars 0 j)

end LayerScript.Json
