import LayerScript.Decimal.Shortest

/-!
# Numerals

Decimal text of whole numbers and of scaled decimals, and the float nearest to a decimal.
-/

namespace LayerScript.Decimal

def zeros (n : Nat) : List Char :=
  List.replicate n '0'

def natural (n : Nat) : List Char :=
  Nat.toDigits 10 n

theorem natural_injective {m n : Nat} (h : natural m = natural n) : m = n := by
  have number := congrArg (Nat.ofDigitChars 10 · 0) h
  simpa only [natural, Nat.ofDigitChars_ten_toDigits] using number

def integer (n : Int) : List Char :=
  if n < 0 then '-' :: natural n.natAbs else natural n.natAbs

/-- All digits, without an exponent. -/
def Scaled.positional (d : Scaled) : List Char :=
  let digits := natural d.digits
  let places := (-d.exponent).toNat
  if places = 0 then digits ++ zeros d.exponent.toNat
  else if places < digits.length then
    digits.take (digits.length - places) ++ '.' :: digits.drop (digits.length - places)
  else '0' :: '.' :: (zeros (places - digits.length) ++ digits)

/-- The exponent of the first digit. -/
def Scaled.magnitude (d : Scaled) : Int :=
  ((natural d.digits).length : Int) - 1 + d.exponent

/-- One digit before the point and an exponent with its sign. -/
def Scaled.scientific (d : Scaled) : List Char :=
  let mantissa := match natural d.digits with
    | first :: second :: more => first :: '.' :: second :: more
    | short => short
  let sign := if d.magnitude < 0 then '-' else '+'
  mantissa ++ 'e' :: sign :: natural d.magnitude.natAbs

/-- All digits of a float and no exponent; whole numbers have no fraction. Of two equally near
decimals the larger is taken. -/
def floatText (x : Float) : List Char :=
  match Binary64.ofFloat x with
  | .nan => ['N', 'a', 'N']
  | .infinite negative => if negative then ['-', 'i', 'n', 'f'] else ['i', 'n', 'f']
  | .finite negative significand exponent =>
    let size :=
      if significand = 0 then ['0'] else (shortest .larger significand exponent).positional
    if negative then '-' :: size else size

/-- The float nearest to `digits * 10 ^ exponent`; very large and very small decimals are settled
by their size. -/
def Scaled.toFloat (d : Scaled) : Float :=
  let size := tenExponent (Nat.log2 d.digits) + d.exponent
  if d.digits = 0 || size < -400 then 0
  else if 400 < size then 1 / 0
  else Float.ofScientific d.digits (d.exponent < 0) d.exponent.natAbs

/-- The value of a list of decimal digits. -/
def value (digits : List Char) : Nat :=
  digits.foldl (fun n c => 10 * n + (c.toNat - '0'.toNat)) 0

end LayerScript.Decimal
