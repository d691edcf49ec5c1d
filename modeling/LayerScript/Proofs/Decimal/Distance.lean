import LayerScript.Proofs.Decimal.Exact
import LayerScript.Value.Equality

/-!
# Distances between floats

The distance from one float to another is the distance back. A difference and the opposite one are
rounded alike, since rounding does not look at the sign, and what they are packed into differs in
the sign alone.
-/

namespace LayerScript.Decimal

open Float.Model

theorem abs_roundWithAccuracy (f : Format) (s : UnpackedFloat.Sign) (m : Nat) (e : Int)
    (a : UnpackedFloat.Accuracy) :
    (UnpackedFloat.roundWithAccuracy f s m e a).abs =
      UnpackedFloat.roundWithAccuracy f .positive m e a := by
  unfold UnpackedFloat.roundWithAccuracy
  dsimp only
  split <;> rfl

theorem abs_round (f : Format) (s : UnpackedFloat.Sign) (m : Nat) (e : Int) :
    (UnpackedFloat.round f s m e).abs = UnpackedFloat.round f .positive m e := by
  unfold UnpackedFloat.round
  exact abs_roundWithAccuracy ..

/-- The size of a rounded number is that of the number without its sign, rounded. -/
theorem abs_normalize (f : Format) (k e : Int) :
    (UnpackedFloat.normalize f k e .positive).abs =
      if k = 0 then .zero .positive else UnpackedFloat.round f .positive k.natAbs e := by
  unfold UnpackedFloat.normalize
  split
  next lt =>
    have lt : k < 0 := by simpa [compare_lt_iff_lt] using lt
    rw [abs_round, if_neg (by omega), show (-k).toNat = k.natAbs by omega]
  next eq =>
    have eq : k = 0 := by simpa using eq
    rw [if_pos eq]
    rfl
  next gt =>
    have gt : 0 < k := by simpa [compare_gt_iff_gt] using gt
    rw [abs_round, if_neg (by omega), show k.toNat = k.natAbs by omega]

theorem abs_sub_comm (f : Format) (u v : UnpackedFloat) :
    (UnpackedFloat.sub f u v).abs = (UnpackedFloat.sub f v u).abs := by
  cases u with
  | notANumber => cases v <;> rfl
  | infinity s =>
    cases v with
    | infinity t => cases s <;> cases t <;> rfl
    | _ => rfl
  | zero s =>
    cases v with
    | zero t => cases s <;> cases t <;> rfl
    | _ => rfl
  | finite s m e =>
    cases v with
    | finite t n d =>
      simp only [UnpackedFloat.sub, abs_normalize, min_comm d e]
      rw [← Int.neg_sub, Int.natAbs_neg]
      simp only [Int.neg_eq_zero]
    | _ => rfl

theorem abs_unpack_packComponents (s : UnpackedFloat.Sign) (e : BitVec 11) (m : BitVec 52) :
    (UnpackedFloat.unpack format (UnpackedFloat.packComponents format s e m)).abs =
      UnpackedFloat.unpack format (UnpackedFloat.packComponents format .positive e m) := by
  delta UnpackedFloat.unpack
  simp only [UnpackedFloat.unpackMantissa_packComponents,
    UnpackedFloat.unpackExponent_packComponents, unpackSign_packComponents, ofBitVec_toBitVec]
  split
  · split <;> rfl
  · split
    · split <;> rfl
    · rfl

theorem abs_unpack_pack (u : UnpackedFloat) :
    (UnpackedFloat.unpack format (UnpackedFloat.pack format u)).abs =
      UnpackedFloat.unpack format (UnpackedFloat.pack format u.abs) := by
  cases u with
  | notANumber => rfl
  | infinity s => exact abs_unpack_packComponents s _ _
  | zero s => exact abs_unpack_packComponents s _ _
  | finite s m e pos =>
    change _ = UnpackedFloat.unpack format (UnpackedFloat.pack format (.finite .positive m e pos))
    delta UnpackedFloat.pack
    dsimp only
    split
    · exact abs_unpack_packComponents s _ _
    · split <;> exact abs_unpack_packComponents s _ _

theorem abs_sub (x y : Float) : (x - y).abs = (y - x).abs := by
  have size (x y : Float) : (x - y).abs = .ofModel (.pack (UnpackedFloat.unpack format
      (UnpackedFloat.pack format
        (UnpackedFloat.sub format x.toModel.unpack y.toModel.unpack).abs))) := by
    rw [← abs_unpack_pack]
    rfl
  rw [size, size, abs_sub_comm]

end LayerScript.Decimal

namespace LayerScript

theorem closeTo_comm (x y : Float) : closeTo x y = closeTo y x := by
  rw [closeTo, closeTo, Decimal.abs_sub]

end LayerScript
