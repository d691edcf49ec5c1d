import LayerScript.Program.Basic
import LayerScript.Token.Basic
import LayerScript.Decimal.Numeral

/-!
# Number literals

A number with a point or an exponent is a float, rounded to nearest; any other is an integer of 64
bits. Underscores between digits are ignored.
-/

namespace LayerScript

inductive NumberFault where
  | float
  | integer
deriving DecidableEq, Repr

/-- The digits of an exponent and its sign; `none` without digits. -/
def exponentValue? : List Char → Option Int
  | '+' :: c :: cs => some (Decimal.value (c :: cs))
  | '-' :: c :: cs => some (-(Decimal.value (c :: cs) : Int))
  | ['+'] | ['-'] | [] => none
  | cs => some (Decimal.value cs)

/-- Decimal places beyond this make a float zero or infinite whatever its digits. -/
def exponentLimit : Int := Nat.pow 2 62

def clampExponent (e : Int) : Int :=
  max (-exponentLimit) (min exponentLimit e)

/-- A float literal without underscores. -/
def floatValue? (digits : List Char) : Option Float := do
  let isMark (c : Char) : Bool := c = 'e' || c = 'E'
  let mantissa := digits.takeWhile fun c => !isMark c
  let exponent ← match digits.dropWhile fun c => !isMark c with
    | [] => some 0
    | _ :: cs => exponentValue? cs
  let whole := mantissa.takeWhile (· ≠ '.')
  let fraction := (mantissa.dropWhile (· ≠ '.')).drop 1
  let scaled : Decimal.Scaled :=
    ⟨Decimal.value (whole ++ fraction), clampExponent exponent - fraction.length⟩
  return scaled.toFloat

/-- The literal of a number token. -/
def numberLiteral (text : String) : Except NumberFault Literal :=
  let digits := text.toList.filter (· ≠ '_')
  if digits.any fun c => c = '.' || c = 'e' || c = 'E' then
    match floatValue? digits with
    | some x => .ok (.float x)
    | none => .error .float
  else
    let n := Decimal.value digits
    if n < Nat.pow 2 63 then .ok (.int (Int64.ofNat n)) else .error .integer

/-- The literal of a number behind a minus sign. -/
def Literal.negated : Literal → Literal
  | .int n => .int (-n)
  | .float x => .float (-x)
  | other => other

end LayerScript
