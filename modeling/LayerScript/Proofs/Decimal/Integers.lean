import LayerScript.Decimal.Integer
import LayerScript.Proofs.Decimal.Rounding

/-!
# Floats that hold integers

The integers of 64 bits, their sums, differences and products are far from the largest floats. So
the float of an integer holds the nearest integer that a float can hold, and an operation on floats
that hold integers gives the float of the nearest integer to the exact result.
-/

namespace LayerScript.Decimal

open Float.Model Float.Model.UnpackedFloat

/-- The integer of 64 bits that is closest to an integer. -/
def saturated (z : Int) : Int :=
  max (-2 ^ 63) (min z (2 ^ 63 - 1))

/-- The float stands for the integer. -/
def Holds (x : Float) (z : Int) : Prop :=
  Whole z x.toModel.unpack

/-- A significand with all its digits comes back from the bits of a float. -/
theorem Fitting.unpack_pack {m : Nat} {e : Int} (f : Fitting m e) (s : Sign) (normal : -1074 < e) :
    UnpackedFloat.unpack format (UnpackedFloat.pack format (.finite s m e f.pos)) =
      .finite s m e f.pos := by
  have small := f.small
  have high := f.high
  have full := f.full normal
  have exponent : (BitVec.ofNat 11 (e + 1075).toNat).toNat = (e + 1075).toNat := by
    rw [BitVec.toNat_ofNat]
    omega
  have fraction : (BitVec.ofNat 52 m).toNat = m - 2 ^ 52 := by
    rw [BitVec.toNat_ofNat]
    omega
  have apart {c : BitVec 11} (h : c.toNat ≠ (e + 1075).toNat) :
      BitVec.ofNat 11 (e + 1075).toNat ≠ c :=
    fun same => h (by rw [← same, exponent])
  have top := apart (c := -1#11) (by change 2047 ≠ _; omega)
  have same : fields s (BitVec.ofNat 52 m) (BitVec.ofNat 11 (e + 1075).toNat) =
      .finite s m e f.pos := by
    rw [fields, if_neg (apart (c := 0#11) (by change 0 ≠ _; omega))]
    congr 1 <;> omega
  rw [← same, pack_fields s _ top, unpack_packComponents s _ top]

theorem Whole.isFinite {z : Int} {u : UnpackedFloat} (h : Whole z u) : u.isFinite := by
  cases h <;> rfl

theorem Whole.unpack_pack {z : Int} {u : UnpackedFloat} (h : Whole z u) :
    UnpackedFloat.unpack format (UnpackedFloat.pack format u) = u := by
  cases h with
  | zero s => exact unpack_pack_zero s
  | finite f worth =>
    have := f.low_of_worth worth
    exact f.unpack_pack _ (by omega)

theorem Holds.ofModel {z : Int} {u : UnpackedFloat} (h : Whole z u) :
    Holds (.ofModel (.pack u)) z := by
  rw [Holds, unpack_ofModel, h.unpack_pack]
  exact h

/-! ## Operations -/

namespace Holds

variable {x y : Float} {k n : Int}

theorem isFinite (h : Holds x k) : x.isFinite :=
  Whole.isFinite h

theorem neg (h : Holds x k) : Holds (-x) (-k) :=
  .ofModel (Whole.neg h)

theorem abs (h : Holds x k) : Holds x.abs k.natAbs :=
  .ofModel (Whole.abs h)

theorem add (hx : Holds x k) (hy : Holds y n) (small : (k + n).natAbs < 2 ^ 128) :
    Holds (x + y) (nearest (k + n)) :=
  .ofModel (Whole.add hx hy small)

theorem sub (hx : Holds x k) (hy : Holds y n) (small : (k - n).natAbs < 2 ^ 128) :
    Holds (x - y) (nearest (k - n)) :=
  .ofModel (Whole.sub hx hy small)

theorem mul (hx : Holds x k) (hy : Holds y n) (small : (k * n).natAbs < 2 ^ 128) :
    Holds (x * y) (nearest (k * n)) :=
  .ofModel (Whole.mul hx hy small)

/-! ## Comparisons -/

theorem lt_iff (hx : Holds x k) (hy : Holds y n) : x < y ↔ k < n := by
  change decide (UnpackedFloat.lt x.toModel.unpack y.toModel.unpack = true) = true ↔ _
  rw [decide_eq_true_iff, UnpackedFloat.lt, Whole.compare_eq hx hy, beq_iff_eq, Option.some_inj,
    compare_lt_iff_lt]

theorem le_iff (hx : Holds x k) (hy : Holds y n) : x ≤ y ↔ k ≤ n := by
  change decide (UnpackedFloat.le x.toModel.unpack y.toModel.unpack = true) = true ↔ _
  rw [decide_eq_true_iff, UnpackedFloat.le, Whole.compare_eq hx hy, Option.any_some,
    Ordering.isLE_iff_ne_gt]
  exact Int.compare_ne_gt

theorem beq_iff (hx : Holds x k) (hy : Holds y n) : (x == y) = true ↔ k = n := by
  change (UnpackedFloat.compare x.toModel.unpack y.toModel.unpack == some .eq) = true ↔ _
  rw [Whole.compare_eq hx hy, beq_iff_eq, Option.some_inj, compare_eq_iff_eq]

theorem toNat_toUInt64_eq (h : Holds x k) : x.toUInt64.toNat = min k.toNat (2 ^ 64 - 1) := by
  change (UInt64.ofNatClamp (x.toModel.unpack.toInt 0 (UInt64.size - 1)).toNat).toNat = _
  rw [Whole.toInt_eq h, UInt64.ofNatClamp]
  split
  · next small =>
    have : k.toNat < 2 ^ 64 := small
    rw [UInt64.toNat_ofNatLT]
    omega
  · next large =>
    have : ¬ k.toNat < 2 ^ 64 := large
    rw [UInt64.toNat_ofNatLT]
    change 2 ^ 64 - 1 = _
    omega

end Holds

theorem holds_zero : Holds 0 0 := by
  rw [zero_eq, Holds, unpack_ofFields _ _ (by decide)]
  exact .zero .positive

theorem holds_toFloat (n : UInt64) : Holds n.toFloat (nearest n.toNat) := by
  have small := n.toNat_lt
  refine .ofModel (Whole.normalize .positive (e := 0) (by simp) (by decide) ?_)
  rw [Int.natAbs_natCast]
  omega

theorem toNat_toUInt64 (n : Int64) :
    (n.toUInt64.toNat : Int) = if 0 ≤ n.toInt then n.toInt else n.toInt + 2 ^ 64 := by
  have bits : n.toInt = if 2 * n.toUInt64.toNat < 2 ^ 64 then (n.toUInt64.toNat : Int)
      else (n.toUInt64.toNat : Int) - (2 ^ 64 : Nat) :=
    BitVec.toInt_eq_toNat_cond n.toBitVec
  have := n.toUInt64.toNat_lt
  omega

/-- The opposite of the least integer has the same bits, and these stand for its size. -/
theorem toNat_toUInt64_neg {n : Int64} (neg : n.toInt < 0) :
    ((-n).toUInt64.toNat : Int) = -n.toInt := by
  have least := n.le_toInt
  rw [toNat_toUInt64, Int64.toInt_neg, Int.bmod_def]
  omega

theorem lt_zero_iff {n : Int64} : n < 0 ↔ n.toInt < 0 :=
  Int64.lt_iff_toInt_lt

/-- The float of an integer holds the integer nearest to it. -/
theorem holds_ofInteger (n : Int64) : Holds (ofInteger n) (nearest n.toInt) := by
  unfold ofInteger
  split
  next neg =>
    rw [lt_zero_iff] at neg
    have held := (holds_toFloat (-n).toUInt64).neg
    rwa [toNat_toUInt64_neg neg, nearest_neg, Int.neg_neg] at held
  next nonneg =>
    rw [lt_zero_iff, Int.not_lt] at nonneg
    have held := holds_toFloat n.toUInt64
    rwa [toNat_toUInt64, if_pos nonneg] at held

theorem toInt_ofIntClamp (z : Int) : (Int64.ofIntClamp z).toInt = saturated z := by
  have least : Int64.minValue.toInt = -2 ^ 63 := rfl
  have greatest : Int64.maxValue.toInt = 2 ^ 63 - 1 := rfl
  unfold Int64.ofIntClamp saturated
  split
  · split
    · rw [Int64.toInt_ofIntLE]
      omega
    · omega
  · omega

/-- A float that holds an integer becomes the integer again, or the last one on its side. -/
theorem Holds.toInt_toInteger {x : Float} {z : Int} (h : Holds x z) :
    (toInteger x).toInt = saturated z := by
  unfold toInteger
  rw [toInt_ofIntClamp]
  split
  next neg =>
    rw [h.lt_iff holds_zero] at neg
    rw [h.neg.toNat_toUInt64_eq]
    unfold saturated
    omega
  next nonneg =>
    rw [h.lt_iff holds_zero] at nonneg
    rw [h.toNat_toUInt64_eq]
    unfold saturated
    omega

theorem Holds.isWhole {x : Float} {z : Int} (h : Holds x z) : isWhole x := by
  have cut := h.abs.toNat_toUInt64_eq
  rw [Int.toNat_natCast] at cut
  have size : 0x10000000000000 ≤ x.abs.toUInt64 ∨ (x.abs.toUInt64.toFloat == x.abs) = true := by
    by_cases large : 2 ^ 52 ≤ z.natAbs
    · left
      rw [UInt64.le_iff_toNat_le, cut]
      change 2 ^ 52 ≤ _
      omega
    · right
      have same : x.abs.toUInt64.toNat = z.natAbs := by omega
      have held := holds_toFloat x.abs.toUInt64
      rw [same, nearest_of_natAbs_le (by omega)] at held
      exact (held.beq_iff h.abs).2 rfl
  simpa [Decimal.isWhole, h.abs.isFinite] using size

end LayerScript.Decimal
