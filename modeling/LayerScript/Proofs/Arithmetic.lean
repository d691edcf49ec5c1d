import LayerScript.Proofs.Decimal.Integers
import LayerScript.Proofs.Guarded

/-!
# Arithmetic on integers

The sum, the difference and the product of integers are computed with floats. What comes out is an
integer in any case: the operands are replaced by the nearest floats, the result as well, and a
result beyond the integers by the last one. It is exact as long as the operands and the exact result
have 53 digits, and cannot be exact when the exact result does not fit. The negation and the
absolute value of an integer are exact; when no integer is large enough, they are floats.
-/

namespace LayerScript

namespace Decimal

/-- What becomes of a function of integers that is computed with floats. -/
def throughFloats (f : Int → Int → Int) (k n : Int) : Int :=
  saturated (nearest (f (nearest k) (nearest n)))

theorem saturated_of_fits {z : Int} (h : Fits z) : saturated z = z := by
  unfold Fits at h
  unfold saturated
  omega

theorem fits_saturated (z : Int) : Fits (saturated z) := by
  unfold Fits saturated
  omega

theorem throughFloats_of_small {f : Int → Int → Int} {k n : Int} (hk : k.natAbs ≤ 2 ^ 53)
    (hn : n.natAbs ≤ 2 ^ 53) (hf : (f k n).natAbs ≤ 2 ^ 53) : throughFloats f k n = f k n := by
  rw [throughFloats, nearest_of_natAbs_le hk, nearest_of_natAbs_le hn, nearest_of_natAbs_le hf]
  exact saturated_of_fits ⟨by omega, by omega⟩

theorem nearest_two_pow_63 : nearest (2 ^ 63) = 2 ^ 63 := by
  decide

/-- What comes out is exact when a float holds it, and when it is the last integer: the float next
to that is larger and is cut off. -/
theorem saturated_nearest_iff {z : Int} :
    saturated (nearest z) = z ↔ Fits z ∧ (nearest z = z ∨ z = 2 ^ 63 - 1) := by
  constructor
  · intro h
    refine ⟨h ▸ fits_saturated _, ?_⟩
    have first : nearest (-2 ^ 63) = -2 ^ 63 := by rw [nearest_neg, nearest_two_pow_63]
    rcases eq_or_ne z (-2 ^ 63) with rfl | inner
    · exact .inl first
    · unfold saturated at h
      omega
  · rintro ⟨fits, same | rfl⟩
    · rw [same, saturated_of_fits fits]
    · decide

theorem natAbs_nearest_le (n : Int64) : (nearest n.toInt).natAbs ≤ 2 ^ 63 := by
  have low := n.le_toInt
  have high := n.toInt_lt
  have top := nearestSize_mono (show n.toInt.natAbs ≤ 2 ^ 63 by omega)
  have full : nearestSize (2 ^ 63) = 2 ^ 63 := by decide
  rwa [natAbs_nearest, ← full]

end Decimal

open Decimal

/-- The operators whose exact results are integers. -/
inductive ArithmeticOp.Means : ArithmeticOp → (Int → Int → Int) → Prop
  | add : Means .add (· + ·)
  | sub : Means .sub (· - ·)
  | mul : Means .mul (· * ·)

theorem ArithmeticOp.Means.holds {op : ArithmeticOp} {f : Int → Int → Int} (h : op.Means f)
    {x y : Float} {k n : Int} (hx : Holds x k) (hy : Holds y n) (hk : k.natAbs ≤ 2 ^ 63)
    (hn : n.natAbs ≤ 2 ^ 63) : Holds (op.apply x y) (nearest (f k n)) := by
  cases h with
  | add => exact hx.add hy (by omega)
  | sub => exact hx.sub hy (by omega)
  | mul =>
    refine hx.mul hy ?_
    rw [Int.natAbs_mul]
    exact Nat.lt_of_le_of_lt (Nat.mul_le_mul hk hn) (by decide)

/-- The result for two integers is an integer. -/
theorem arithmetic_integers {op : ArithmeticOp} {f : Int → Int → Int} (h : op.Means f)
    (k n : Int64) : ∃ r : Int64, arithmetic op (.int k) (.int n) = .ok (.int r) ∧
      r.toInt = throughFloats f k.toInt n.toInt := by
  have held := h.holds (holds_ofInteger k) (holds_ofInteger n) (natAbs_nearest_le k)
    (natAbs_nearest_le n)
  refine ⟨toInteger (op.apply (ofInteger k) (ofInteger n)), ?_, held.toInt_toInteger⟩
  simp [arithmetic, numberOperand, Cell.number?, Cell.isInt, held.isWhole, bind, Except.bind, pure,
    Except.pure]

/-- Without the least integer, the opposite of an integer is an integer. -/
theorem toInt_neg_of_ne {k : Int64} (h : k ≠ Int64.minValue) : (-k).toInt = -k.toInt := by
  have low := k.le_toInt
  have high := k.toInt_lt
  have least : k.toInt ≠ -2 ^ 63 := fun eq => h (Int64.toInt_inj.1 eq)
  rw [Int64.toInt_neg, Int.bmod_def]
  omega

theorem holds_ofInteger_minValue : Holds (ofInteger Int64.minValue) (-2 ^ 63) := by
  have held := holds_ofInteger Int64.minValue
  have low : Int64.minValue.toInt = -2 ^ 63 := rfl
  rwa [low, nearest_neg, nearest_two_pow_63] at held

namespace Run

variable {σ : Type} {m : Machine σ} {a b : Ref}

/-- What an operation comes to, when its operands have come to `a` and `b` and the machine is
`m`. -/
def Combines (m : Machine σ) (op : BinaryOp) (a b : Ref) (o : Span → Outcome σ Ref) : Prop :=
  ∀ call fuel span left right m₀ m₁, evaluate call fuel left m₀ = .done a m₁ →
    evaluate call fuel right m₁ = .done b m →
    evaluate call (fuel + 1) (.binary span op left right) m₀ = o span

/-- What an operation with one operand comes to. -/
def Changes (m : Machine σ) (op : UnaryOp) (a : Ref) (o : Span → Outcome σ Ref) : Prop :=
  ∀ call fuel span operand m₀, evaluate call fuel operand m₀ = .done a m →
    evaluate call (fuel + 1) (.unary span op operand) m₀ = o span

theorem operator_of_ok {f : Store → Except Fault Cell} {c : Cell} (h : f m.store = .ok c)
    (span : Span) : operator span f m = alloc c m := by
  simp only [operator, bind, Run.bind, check, h]

theorem combines_of_ok {op : BinaryOp} {c : Cell}
    (h : m.store.binary m.strict op a b = .ok c) : Combines m op a b fun _ => alloc c m := by
  intro call fuel span left right m₀ m₁ first second
  simp only [evaluate, bind, Run.bind, first, second]
  exact operator_of_ok h span

theorem changes_of_ok {op : UnaryOp} {c : Cell} (h : m.store.unary op a = .ok c) :
    Changes m op a fun _ => alloc c m := by
  intro call fuel span operand m₀ evaluated
  simp only [evaluate, bind, Run.bind, evaluated]
  exact operator_of_ok h span

theorem combines_integers {k n : Int64} {op : ArithmeticOp} {f : Int → Int → Int}
    (ha : m.store.cell a = .int k) (hb : m.store.cell b = .int n) (means : op.Means f) :
    ∃ r : Int64, Combines m (.arithmetic op) a b (fun _ => alloc (.int r) m) ∧
      r.toInt = throughFloats f k.toInt n.toInt := by
  obtain ⟨r, computed, value⟩ := arithmetic_integers means k n
  refine ⟨r, combines_of_ok ?_, value⟩
  cases means <;> simpa [Store.binary, Store.addition, ha, hb] using computed

theorem negates_integer {k : Int64} (ha : m.store.cell a = .int k) (h : k ≠ Int64.minValue) :
    Changes m .negate a fun _ => alloc (.int (-k)) m :=
  changes_of_ok (by simp [Store.unary, negate, ha, h])

theorem negates_minValue (ha : m.store.cell a = .int Int64.minValue) :
    Changes m .negate a fun _ => alloc (.float (-ofInteger Int64.minValue)) m :=
  changes_of_ok (by simp [Store.unary, negate, ha])

theorem abs_integer (out : Sink σ) {k : Int64} (ha : m.store.cell a = .int k)
    (h : k ≠ Int64.minValue) :
    Gives out m .abs [a] (alloc (.int (if k < 0 then -k else k)) m) := by
  refine gives_of_ok (·.alloc (.int (if k < 0 then -k else k))) ?_
  simp [Plain.run, Plain.runAbs, ha, h]

theorem abs_minValue (out : Sink σ) (ha : m.store.cell a = .int Int64.minValue) :
    Gives out m .abs [a] (alloc (.float (ofInteger Int64.minValue).abs) m) := by
  refine gives_of_ok (Plain.newFloat (ofInteger Int64.minValue).abs) ?_
  simp [Plain.run, Plain.runAbs, ha]

theorem toInt_size {k : Int64} (h : k ≠ Int64.minValue) :
    (if k < 0 then -k else k).toInt = k.toInt.natAbs := by
  split
  · next neg =>
    rw [lt_zero_iff] at neg
    rw [toInt_neg_of_ne h]
    omega
  · next nonneg =>
    rw [lt_zero_iff] at nonneg
    omega

/-- Sums, differences and products of integers are those of the nearest floats, as integers again;
so they are exact on small integers, and elsewhere only by chance. Negations and absolute values are
exact, the opposite of the least integer being a float. -/
theorem integer_arithmetic (out : Sink σ) (m : Machine σ) {a : Ref} {k : Int64}
    (ha : m.store.cell a = .int k) :
    (∀ b n op f, m.store.cell b = .int n → ArithmeticOp.Means op f → ∃ r : Int64,
      Combines m (.arithmetic op) a b (fun _ => alloc (.int r) m) ∧
      r.toInt = throughFloats f k.toInt n.toInt ∧
      (k.toInt.natAbs ≤ 2 ^ 53 → n.toInt.natAbs ≤ 2 ^ 53 →
        (f k.toInt n.toInt).natAbs ≤ 2 ^ 53 → r.toInt = f k.toInt n.toInt) ∧
      (nearest k.toInt = k.toInt → nearest n.toInt = n.toInt →
        (r.toInt = f k.toInt n.toInt ↔ Fits (f k.toInt n.toInt) ∧
          (nearest (f k.toInt n.toInt) = f k.toInt n.toInt ∨ f k.toInt n.toInt = 2 ^ 63 - 1))) ∧
      (¬ Fits (f k.toInt n.toInt) → r.toInt ≠ f k.toInt n.toInt)) ∧
    (k ≠ Int64.minValue → ∃ r r' : Int64, r.toInt = -k.toInt ∧ r'.toInt = k.toInt.natAbs ∧
      Changes m .negate a (fun _ => alloc (.int r) m) ∧
      Gives out m .abs [a] (alloc (.int r') m)) ∧
    (k = Int64.minValue → ∃ x y : Float, Holds x (2 ^ 63) ∧ Holds y (2 ^ 63) ∧
      Changes m .negate a (fun _ => alloc (.float x) m) ∧
      Gives out m .abs [a] (alloc (.float y) m)) := by
  refine ⟨?combined, ?opposite, ?least⟩
  case combined =>
    intro b n op f hb means
    obtain ⟨r, combines, value⟩ := combines_integers ha hb means
    refine ⟨r, combines, value, ?_, ?_, ?_⟩
    · intro hk hn hf
      exact value.trans (throughFloats_of_small hk hn hf)
    · intro hk hn
      rw [value, throughFloats, hk, hn]
      exact saturated_nearest_iff
    · intro outside same
      exact outside (same ▸ fits_toInt r)
  case opposite =>
    intro h
    exact ⟨-k, _, toInt_neg_of_ne h, toInt_size h, negates_integer ha h, abs_integer out ha h⟩
  case least =>
    rintro rfl
    exact ⟨_, _, holds_ofInteger_minValue.neg, holds_ofInteger_minValue.abs, negates_minValue ha,
      abs_minValue out ha⟩

/-- The function for absolute values. -/
def gauge : Machine Unit where
  store := ⟨#[.native (.plain .abs)], #[], 2⟩
  scope := ⟨0⟩
  globals := ⟨0⟩
  receiver := .cell 0
  strict := false
  depth := 0
  callSite := none
  sink := ()

theorem integer_arithmetic_two_pow :
    let out : Sink Unit := ⟨fun _ _ _ k => some (.ok (), k)⟩
    let a := Ref.scalar 0 (.int 4611686018427387904)
    let b := Ref.scalar 1 (.int Int64.minValue)
    (∃ r : Int64, Combines gauge (.arithmetic .sub) a a (fun _ => alloc (.int r) gauge) ∧
      r.toInt = 0) ∧
    (∃ r : Int64, Combines gauge (.arithmetic .mul) a a (fun _ => alloc (.int r) gauge) ∧
      r.toInt ≠ 4611686018427387904 * 4611686018427387904) ∧
    ∃ x, Holds x (2 ^ 63) ∧ call out 1 (.cell 0) none [b] gauge = alloc (.float x) gauge := by
  intro out a b
  have computed := (integer_arithmetic (a := a) out gauge rfl).1 a 4611686018427387904
  have opposite := (integer_arithmetic (a := b) out gauge rfl).2.2 rfl
  obtain ⟨r, combines, -, -, exact, -⟩ := computed .sub _ rfl .sub
  obtain ⟨q, combines', -, -, -, outside⟩ := computed .mul _ rfl .mul
  obtain ⟨-, y, -, held, -, gives⟩ := opposite
  refine ⟨⟨r, combines, ?_⟩, ⟨q, combines', outside (by decide)⟩, y, held, gives 0 _ none rfl⟩
  exact (exact (by decide) (by decide)).2 (by decide)

/-- A sum that is too large comes out as the last integer. -/
theorem sum_cut_off : ∃ (r : Int64) (c : Ref) (m : Machine Unit),
    evaluate (call ⟨fun _ _ _ k => some (.ok (), k)⟩ 1) 2
      (.binary default (.arithmetic .add) (.literal default (.int 4611686018427387904))
        (.literal default (.int 4611686018427387904))) gauge = .done c m ∧
      m.store.cell c = .int r ∧ r.toInt ≠ 4611686018427387904 + 4611686018427387904 := by
  let k : Int64 := 4611686018427387904
  let after : Machine Unit := { gauge with store := { gauge.store with serials := 4 } }
  obtain ⟨r, combines, value⟩ := combines_integers (m := after) (a := .scalar 2 (.int k))
    (b := .scalar 3 (.int k)) rfl rfl .add
  have sum := combines (call ⟨fun _ _ _ k => some (.ok (), k)⟩ 1) 1 default
    (.literal default (.int k)) (.literal default (.int k)) gauge _ rfl rfl
  exact ⟨r, _, _, sum, rfl, by rw [value]; decide⟩

end Run

end LayerScript
