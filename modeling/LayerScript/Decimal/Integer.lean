/-!
# Integers and floats

An integer becomes the float nearest to it, and a float becomes the integer before its fraction.
Both go by the size of the number, which has no sign.
-/

namespace LayerScript.Decimal

/-- The float nearest to an integer; of two that are equally near, the one whose significand is
even. -/
def ofInteger (n : Int64) : Float :=
  if n < 0 then -(-n).toUInt64.toFloat else n.toUInt64.toFloat

/-- A float without its fraction. Floats beyond the integers give the last integer on their side,
and NaN gives zero. -/
def toInteger (x : Float) : Int64 :=
  Int64.ofIntClamp (if x < 0 then -(-x).toUInt64.toNat else x.toUInt64.toNat)

/-- Whether a float has no fraction. From `2 ^ 52` on, none has one. -/
def isWhole (x : Float) : Bool :=
  let size := x.abs
  size.isFinite && (0x10000000000000 ≤ size.toUInt64 || size.toUInt64.toFloat == size)

end LayerScript.Decimal
