import LayerScript.Proofs.Arithmetic
import LayerScript.Proofs.Equality

/-!
# The order of integers

Integers are ordered as the floats nearest to them, but they are equal only when they are the same.
So two integers that have one float are in no order without being equal. Among all others the
comparisons agree with each other and with the order of the integers; those with 53 digits have
floats of their own.
-/

namespace LayerScript

open Decimal

/-- A comparison as it is among the integers. -/
def ComparisonOp.integers : ComparisonOp → Int → Int → Bool
  | .less, x, y => x < y
  | .lessEqual, x, y => x ≤ y
  | .greater, x, y => y < x
  | .greaterEqual, x, y => y ≤ x

/-- The answer of a comparison of integers, which are compared as floats. -/
def ComparisonOp.verdict (op : ComparisonOp) (k n : Int64) : Bool :=
  op.integers (nearest k.toInt) (nearest n.toInt)

/-- Two integers that have one float. -/
def Decimal.Merge (k n : Int64) : Prop :=
  k ≠ n ∧ nearest k.toInt = nearest n.toInt

theorem Decimal.Holds.floats_eq {x y : Float} {k n : Int} (hx : Holds x k) (hy : Holds y n)
    (op : ComparisonOp) : op.floats x y = op.integers k n := by
  cases op with
  | less => exact decide_eq_decide.2 (hx.lt_iff hy)
  | lessEqual => exact decide_eq_decide.2 (hx.le_iff hy)
  | greater => exact decide_eq_decide.2 (hy.lt_iff hx)
  | greaterEqual => exact decide_eq_decide.2 (hy.le_iff hx)

theorem comparison_integers (op : ComparisonOp) (k n : Int64) :
    comparison op (.int k) (.int n) = .ok (.bool (op.verdict k n)) := by
  have answer := (holds_ofInteger k).floats_eq (holds_ofInteger n) op
  simp [comparison, numberOperand, Cell.number?, answer, ComparisonOp.verdict, bind, Except.bind,
    pure, Except.pure]

namespace Decimal

variable {k n : Int64}

/-- The order of the floats is never against that of the integers. -/
theorem toInt_lt_of_nearest_lt (h : nearest k.toInt < nearest n.toInt) : k.toInt < n.toInt := by
  by_contra ge
  have := nearest_mono (Int.not_lt.1 ge)
  omega

theorem Merge.symm (h : Merge k n) : Merge n k :=
  ⟨h.1.symm, h.2.symm⟩

/-- Only large integers share a float. -/
theorem Merge.large (h : Merge k n) : 2 ^ 53 < k.toInt.natAbs ∨ 2 ^ 53 < n.toInt.natAbs := by
  by_contra small
  rw [not_or, Nat.not_lt, Nat.not_lt] at small
  have eq := h.2
  rw [nearest_of_natAbs_le small.1, nearest_of_natAbs_le small.2] at eq
  exact h.1 (Int64.toInt_inj.1 eq)

theorem nearest_lt_iff (apart : ¬ Merge k n) :
    nearest k.toInt < nearest n.toInt ↔ k.toInt < n.toInt := by
  refine ⟨toInt_lt_of_nearest_lt, fun less => ?_⟩
  refine lt_of_le_of_ne (nearest_mono less.le) fun eq => apart ⟨?_, eq⟩
  rintro rfl
  exact Int.lt_irrefl _ less

theorem nearest_le_iff (apart : ¬ Merge k n) :
    nearest k.toInt ≤ nearest n.toInt ↔ k.toInt ≤ n.toInt := by
  rw [← Int.not_lt, nearest_lt_iff fun h => apart h.symm, Int.not_lt]

end Decimal

/-! ## Laws -/

namespace ComparisonOp

variable {k n l : Int64}

theorem less_verdict : less.verdict k n ↔ nearest k.toInt < nearest n.toInt := by
  simp only [verdict, integers, decide_eq_true_eq]

theorem greater_verdict : greater.verdict k n ↔ nearest n.toInt < nearest k.toInt := by
  simp only [verdict, integers, decide_eq_true_eq]

theorem lessEqual_verdict : lessEqual.verdict k n ↔ nearest k.toInt ≤ nearest n.toInt := by
  simp only [verdict, integers, decide_eq_true_eq]

theorem greaterEqual_verdict : greaterEqual.verdict k n ↔ nearest n.toInt ≤ nearest k.toInt := by
  simp only [verdict, integers, decide_eq_true_eq]

theorem less_trans (h : less.verdict k n) (h' : less.verdict n l) : less.verdict k l := by
  rw [less_verdict] at *
  exact Int.lt_trans h h'

theorem less_excludes (h : less.verdict k n) : k ≠ n ∧ ¬ greater.verdict k n := by
  have less := toInt_lt_of_nearest_lt (less_verdict.1 h)
  constructor
  · rintro rfl
    exact Int.lt_irrefl _ less
  · intro greater
    exact Int.lt_asymm less (toInt_lt_of_nearest_lt (greater_verdict.1 greater))

/-- Apart from integers with one float, the comparisons are those of the integers. -/
theorem verdict_eq_iff :
    (∀ op : ComparisonOp, op.verdict k n = op.integers k.toInt n.toInt) ↔ ¬ Merge k n := by
  constructor
  · rintro same ⟨ne, eq⟩
    have le : k.toInt ≤ n.toInt := by
      have answer := (same .lessEqual).symm.trans (decide_eq_true eq.le)
      exact of_decide_eq_true answer
    have ge : n.toInt ≤ k.toInt := by
      have answer := (same .greaterEqual).symm.trans (decide_eq_true eq.ge)
      exact of_decide_eq_true answer
    exact ne (Int64.toInt_inj.1 (Int.le_antisymm le ge))
  · intro apart op
    cases op with
    | less => exact decide_eq_decide.2 (nearest_lt_iff apart)
    | lessEqual => exact decide_eq_decide.2 (nearest_le_iff apart)
    | greater => exact decide_eq_decide.2 (nearest_lt_iff fun h => apart h.symm)
    | greaterEqual => exact decide_eq_decide.2 (nearest_le_iff fun h => apart h.symm)

/-- The order is total exactly where no float is shared. -/
theorem trichotomy_iff : (less.verdict k n ∨ k = n ∨ greater.verdict k n) ↔ ¬ Merge k n := by
  constructor
  · rintro (less | same | greater) ⟨ne, eq⟩
    · exact Int.ne_of_lt (less_verdict.1 less) eq
    · exact ne same
    · exact Int.ne_of_gt (greater_verdict.1 greater) eq
  · intro apart
    by_cases same : k = n
    · exact .inr (.inl same)
    · have ne : nearest k.toInt ≠ nearest n.toInt := fun eq => apart ⟨same, eq⟩
      exact (Int.lt_or_gt_of_ne ne).imp less_verdict.2 fun h => .inr (greater_verdict.2 h)

theorem lessEqual_iff : (lessEqual.verdict k n ↔ less.verdict k n ∨ k = n) ↔ ¬ Merge k n := by
  rw [less_verdict, lessEqual_verdict]
  constructor
  · rintro agree ⟨ne, eq⟩
    rcases agree.1 eq.le with less | same
    · exact Int.ne_of_lt less eq
    · exact ne same
  · intro apart
    rw [nearest_le_iff apart, nearest_lt_iff apart, ← Int64.toInt_inj]
    exact Int.le_iff_lt_or_eq

theorem greaterEqual_iff :
    (greaterEqual.verdict k n ↔ greater.verdict k n ∨ k = n) ↔ ¬ Merge k n := by
  have swapped := lessEqual_iff (k := n) (n := k)
  rw [lessEqual_verdict, less_verdict, eq_comm, not_congr ⟨Merge.symm, Merge.symm⟩] at swapped
  rwa [greaterEqual_verdict, greater_verdict]

end ComparisonOp

namespace Store

/-- Handles of integers are equal when the integers are. -/
theorem equal_integers {s : Store} {scalars : Nat → Literal} {a b : Ref} {k n : Int64}
    (ha : s.cell a = .int k) (hb : s.cell b = .int n) (ga : a.Genuine scalars)
    (gb : b.Genuine scalars) : s.equal a b = decide (k = n) := by
  unfold equal comparisonDepth equalWithin
  cases same : a.same b with
  | true =>
    obtain rfl := ga.eq_of_same gb same
    have : k = n := by simpa using ha.symm.trans hb
    simp [this]
  | false => simp [ha, hb, cellsEqual, BEq.beq]

end Store

namespace Run

variable {σ : Type}

theorem combines_comparison {m : Machine σ} {a b : Ref} {k n : Int64}
    (ha : m.store.cell a = .int k) (hb : m.store.cell b = .int n) (op : ComparisonOp) :
    Combines m (.comparison op) a b fun _ => alloc (.bool (op.verdict k n)) m :=
  combines_of_ok (by rw [Store.binary, ha, hb, comparison_integers])

theorem combines_equal {m : Machine σ} {scalars : Nat → Literal} {a b : Ref} {k n : Int64}
    (ha : m.store.cell a = .int k) (hb : m.store.cell b = .int n) (ga : a.Genuine scalars)
    (gb : b.Genuine scalars) :
    Combines m .equal a b fun _ => alloc (.bool (decide (k = n))) m :=
  combines_of_ok (by rw [Store.binary, Store.equal_integers ha hb ga gb])

/-- Comparisons of integers answer as the floats nearest to them are ordered, while equality tells
all integers apart. What is less is not equal and not greater, and less than what comes after. But
one of the three holds, and the weak comparisons agree with them, exactly when the integers do not
share a float; then all answers are those of the integers. Small integers share none. -/
theorem integer_order (m : Machine σ) (scalars : Nat → Literal) :
    (∀ a b k n, m.store.cell a = .int k → m.store.cell b = .int n →
      (∀ op, Combines m (.comparison op) a b fun _ =>
        alloc (.bool (ComparisonOp.verdict op k n)) m) ∧
      (a.Genuine scalars → b.Genuine scalars →
        Combines m .equal a b fun _ => alloc (.bool (decide (k = n))) m)) ∧
    (∀ k n, ComparisonOp.less.verdict k n → k ≠ n ∧ ¬ ComparisonOp.greater.verdict k n) ∧
    (∀ k n, ComparisonOp.greater.verdict k n ↔ ComparisonOp.less.verdict n k) ∧
    (∀ k n l, ComparisonOp.less.verdict k n → ComparisonOp.less.verdict n l →
      ComparisonOp.less.verdict k l) ∧
    (∀ k n, (ComparisonOp.less.verdict k n ∨ k = n ∨ ComparisonOp.greater.verdict k n) ↔
      ¬ Merge k n) ∧
    (∀ k n, (ComparisonOp.lessEqual.verdict k n ↔ ComparisonOp.less.verdict k n ∨ k = n) ↔
      ¬ Merge k n) ∧
    (∀ k n, (ComparisonOp.greaterEqual.verdict k n ↔ ComparisonOp.greater.verdict k n ∨ k = n) ↔
      ¬ Merge k n) ∧
    (∀ k n, (∀ op, ComparisonOp.verdict op k n = op.integers k.toInt n.toInt) ↔ ¬ Merge k n) ∧
    ∀ k n, Merge k n → 2 ^ 53 < k.toInt.natAbs ∨ 2 ^ 53 < n.toInt.natAbs := by
  refine ⟨fun a b k n ha hb => ⟨fun op => combines_comparison ha hb op,
    fun ga gb => combines_equal ha hb ga gb⟩, ?_, ?_, ?_, ?_, ?_, ?_, ?_, ?_⟩
  · exact fun k n => ComparisonOp.less_excludes
  · exact fun k n => ComparisonOp.greater_verdict.trans ComparisonOp.less_verdict.symm
  · exact fun k n l => ComparisonOp.less_trans
  · exact fun k n => ComparisonOp.trichotomy_iff
  · exact fun k n => ComparisonOp.lessEqual_iff
  · exact fun k n => ComparisonOp.greaterEqual_iff
  · exact fun k n => ComparisonOp.verdict_eq_iff
  · exact fun k n => Merge.large

theorem integer_order_small :
    let a := Ref.scalar 0 (.int 3)
    let b := Ref.scalar 1 (.int 4)
    ¬ Merge 3 4 ∧ (Combines gauge (.comparison .less) a b fun _ => alloc (.bool true) gauge) ∧
      Combines gauge .equal a b fun _ => alloc (.bool false) gauge := by
  intro a b
  obtain ⟨answers, -, -, -, -, -, -, -, large⟩ :=
    integer_order gauge fun serial => .int (if serial = 0 then 3 else 4)
  have apart : ¬ Merge 3 4 := fun h => absurd (large 3 4 h) (by decide)
  exact ⟨apart, (answers a b 3 4 rfl rfl).1 .less, (answers a b 3 4 rfl rfl).2 rfl rfl⟩

/-- An operation on two neighbouring integers that share a float. -/
def neighbours (op : BinaryOp) : Expr :=
  .binary default op (.literal default (.int 9007199254740992))
    (.literal default (.int 9007199254740993))

/-- What the operation on neighbours answers. -/
def Says (op : BinaryOp) (v : Bool) : Prop :=
  ∃ (c : Ref) (m : Machine Unit), evaluate (call ⟨fun _ _ _ k => some (.ok (), k)⟩ 1) 2
    (neighbours op) gauge = .done c m ∧ m.store.cell c = .bool v

/-- Neighbours that share a float are neither equal nor in an order, and less or equal. -/
theorem neighbours_unordered : Says (.comparison .less) false ∧ Says .equal false ∧
    Says (.comparison .greater) false ∧ Says (.comparison .lessEqual) true := by
  let k : Int64 := 9007199254740992
  let n : Int64 := 9007199254740993
  let after : Machine Unit := { gauge with store := { gauge.store with serials := 4 } }
  let scalars (serial : Nat) : Literal := .int (if serial = 2 then k else n)
  have shown {op : BinaryOp} {v : Bool}
      (h : Combines after op (.scalar 2 (.int k)) (.scalar 3 (.int n)) fun _ =>
        alloc (.bool v) after) : Says op v :=
    ⟨_, _, h _ 1 default _ _ gauge _ rfl rfl, rfl⟩
  have compared {op : ComparisonOp} {v : Bool} (h : op.verdict k n = v) :
      Combines after (.comparison op) (.scalar 2 (.int k)) (.scalar 3 (.int n)) fun _ =>
        alloc (.bool v) after :=
    h ▸ combines_comparison rfl rfl op
  have first : (Ref.scalar 2 (.int k)).Genuine scalars := rfl
  have second : (Ref.scalar 3 (.int n)).Genuine scalars := rfl
  have equal := combines_equal (m := after) (k := k) (n := n) rfl rfl first second
  exact ⟨shown (compared (by decide)), shown equal, shown (compared (by decide)),
    shown (compared (by decide))⟩

end Run

end LayerScript
