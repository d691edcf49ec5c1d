import LayerScript.Decimal.Binary64

/-!
# Shortest decimals

`shortest` finds the decimal with the fewest digits among those that round to a given float, and
of those with that many digits the nearest.
-/

namespace LayerScript.Decimal

/-- The number `digits * 10 ^ exponent`. -/
structure Scaled where
  digits : Nat
  exponent : Int
deriving DecidableEq, Repr

/-- Which of two equally near decimals is taken: the larger one or the even one. -/
inductive Tie where
  | larger
  | even
deriving DecidableEq, Repr

/-- The reals that round to one float, as fractions over a common denominator: the two ends, the
float itself, and whether the ends belong to them. -/
structure Interval where
  low : Nat
  middle : Nat
  high : Nat
  denominator : Nat
  closed : Bool

/-- Half a unit on both sides, or a quarter below a power of two, where floats are denser. -/
def Interval.around (significand : Nat) (exponent : Int) : Interval :=
  let scale := Nat.pow 2 (exponent - 2).toNat
  let gap := if significand = Nat.pow 2 52 ∧ -1074 < exponent then 1 else 2
  { low := (4 * significand - gap) * scale
    middle := 4 * significand * scale
    high := (4 * significand + 2) * scale
    denominator := Nat.pow 2 (2 - exponent).toNat
    closed := significand % 2 = 0 }

def Interval.contains (i : Interval) (low high : Nat) : Bool :=
  if i.closed then low ≤ high else low < high

/-- The multiple of `10 ^ exponent` in the interval that is nearest to its middle. Only the two
neighbours of the middle need to be tried. -/
def Interval.nearest? (i : Interval) (tie : Tie) (exponent : Int) : Option Nat :=
  let refine := Nat.pow 10 (-exponent).toNat
  let unit := i.denominator * Nat.pow 10 exponent.toNat
  let middle := i.middle * refine
  let below := middle / unit
  let belowIn := i.contains (i.low * refine) (below * unit)
  let aboveIn := i.contains ((below + 1) * unit) (i.high * refine)
  match belowIn, aboveIn with
  | false, false => none
  | true, false => some below
  | false, true => some (below + 1)
  | true, true =>
    let half := (2 * below + 1) * unit
    if 2 * middle < half then some below
    else if half < 2 * middle then some (below + 1)
    else match tie with
      | .larger => some (below + 1)
      | .even => some (below + below % 2)

/-- The power of ten that makes about as much as a power of two. -/
def tenExponent (twoExponent : Int) : Int :=
  twoExponent * 30103 / 100000

/-- An exponent so great that `10 ^ (exponent + 1)` is above the interval. -/
def Interval.startExponent (i : Interval) : Int :=
  tenExponent (Nat.log2 i.middle - Nat.log2 i.denominator + 1) + 1

/-- The nearest multiple of the greatest power of ten, from `10 ^ exponent` downwards, of which a
multiple is in the interval. -/
def Interval.search (i : Interval) (tie : Tie) (exponent : Int) : Nat → Scaled
  | 0 => ⟨i.middle / i.denominator, 0⟩
  | more + 1 =>
    match i.nearest? tie exponent with
    | some digits => ⟨digits, exponent⟩
    | none => i.search tie (exponent - 1) more

/-- Seventeen digits are always enough, and the first digit is at most two places below the start.
Multiples of a greater power have fewer digits. -/
def shortest (tie : Tie) (significand : Nat) (exponent : Int) : Scaled :=
  let interval := Interval.around significand exponent
  interval.search tie interval.startExponent 20

end LayerScript.Decimal
