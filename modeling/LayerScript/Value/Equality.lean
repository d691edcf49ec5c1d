import LayerScript.Store

/-!
# Equality of values

A value equals itself. Apart from that, numbers are equal when they are closer than the precision
of one, arrays and maps when their parts are, and functions and modules never. Nesting beyond the
limit counts as different.
-/

namespace LayerScript

def comparisonDepth : Nat := 129

/-- The distance from one to the next float. -/
def precision : Float :=
  1 / Float.ofNat (Nat.pow 2 52)

def closeTo (x y : Float) : Bool :=
  (x - y).abs < precision

namespace Store

/-- Equality of cells whose parts are compared by `same`. -/
def cellsEqual (same : Ref → Ref → Bool) : Cell → Cell → Bool
  | .none, .none => true
  | .bool a, .bool b => a == b
  | .int a, .int b => a == b
  | .float x, .float y => closeTo x y
  | .int a, .float y => closeTo (Decimal.ofInteger a) y
  | .float x, .int b => closeTo (Decimal.ofInteger b) x
  | .text a, .text b => a == b
  | .array a, .array b =>
    a.size == b.size && (a.toList.zip b.toList).all fun p => same p.1 p.2
  | .map a, .map b =>
    a.size == b.size && a.entries.all fun e =>
      match b.find? e.1 with
      | some other => same e.2 other
      | none => false
  | _, _ => false

/-- Equality that looks `room` levels deep. -/
def equalWithin (s : Store) (room : Nat) (a b : Ref) : Bool :=
  a.same b ||
    match room with
    | 0 => false
    | room + 1 => cellsEqual (s.equalWithin room) (s.cell a) (s.cell b)
termination_by structural room

def equal (s : Store) (a b : Ref) : Bool :=
  s.equalWithin comparisonDepth a b

/-- Whether a value equals a literal. -/
def equalsLiteral (s : Store) (literal : Literal) (r : Ref) : Bool :=
  cellsEqual (fun _ _ => false) (.ofLiteral literal) (s.cell r)

end Store

end LayerScript
