/-!
# Floats as whole numbers

A finite float is a sign, a whole significand and a power of two. Everything below that has to be
exact works on those whole numbers.
-/

namespace LayerScript.Decimal

inductive Binary64 where
  | nan
  | infinite (negative : Bool)
  | finite (negative : Bool) (significand : Nat) (exponent : Int)
deriving DecidableEq, Repr

/-- Splits the 64 bits into sign, exponent field and fraction field. -/
def Binary64.ofFloat (x : Float) : Binary64 :=
  let bits := x.toBits.toNat
  let negative := Nat.pow 2 63 ≤ bits
  let field : Nat := bits / Nat.pow 2 52 % Nat.pow 2 11
  let fraction := bits % Nat.pow 2 52
  if field = 2047 then
    if fraction = 0 then .infinite negative else .nan
  else if field = 0 then .finite negative fraction (-1074)
  else .finite negative (Nat.pow 2 52 + fraction) ((field : Int) - 1075)

/-- The float `significand * 2 ^ exponent`, for a value that a float holds exactly. -/
def Binary64.assemble (negative : Bool) (significand : Nat) (exponent : Int) : Float :=
  let size := (Float.ofNat significand).scaleB exponent
  if negative then -size else size

/-- The remainder of a division that rounds towards zero. It has the sign of the dividend and is
exact. -/
def remainder (x y : Float) : Float :=
  match Binary64.ofFloat x, Binary64.ofFloat y with
  | .finite negative m e, .finite _ n f =>
    if n = 0 then 0 / 0
    else
      let base := min e f
      let dividend := m * Nat.pow 2 (e - base).toNat
      let divisor := n * Nat.pow 2 (f - base).toNat
      Binary64.assemble negative (dividend % divisor) base
  | .finite .., .infinite _ => x
  | _, _ => 0 / 0

end LayerScript.Decimal
