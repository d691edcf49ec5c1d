import LayerScript.Proofs.Decimal.Exact

/-!
# Sizes of floats

Rounding does not raise an exponent above that of the number rounded. So a quotient of numbers that
are not too far apart is finite, and a product of finite numbers is finite unless it is infinite: it
is a number in any case.
-/

namespace LayerScript.Decimal

open Float.Model Float.Model.UnpackedFloat

/-- Zero, or a number with at most the exponent `k`. -/
inductive Rounded (k : Int) : UnpackedFloat → Prop
  | zero (s : Sign) : Rounded k (.zero s)
  | finite {s : Sign} {m : Nat} {e : Int} {pos : 0 < m} (high : e ≤ k) :
    Rounded k (.finite s m e pos)

/-- Zero, or a number with at most 53 bits and at most the exponent `k`. -/
inductive Bounded (k : Int) : UnpackedFloat → Prop
  | zero (s : Sign) : Bounded k (.zero s)
  | finite {s : Sign} {m : Nat} {e : Int} {pos : 0 < m} (small : m < 2 ^ 53) (high : e ≤ k) :
    Bounded k (.finite s m e pos)

/-- A number with 53 bits and an exponent from `j` to `k`. -/
inductive Full (j k : Int) : UnpackedFloat → Prop
  | finite {s : Sign} {m : Nat} {e : Int} {pos : 0 < m} (large : 2 ^ 52 ≤ m) (small : m < 2 ^ 53)
    (low : j ≤ e) (high : e ≤ k) : Full j k (.finite s m e pos)

instance (j k : Int) : DecidablePred (Full j k) := fun u =>
  match u with
  | .finite _ m e _ =>
    decidable_of_iff (2 ^ 52 ≤ m ∧ m < 2 ^ 53 ∧ j ≤ e ∧ e ≤ k)
      ⟨fun h => .finite h.1 h.2.1 h.2.2.1 h.2.2.2, fun | .finite a b c d => ⟨a, b, c, d⟩⟩
  | .zero _ | .infinity _ | .notANumber => isFalse nofun

theorem Rounded.mono {k l : Int} {u : UnpackedFloat} (h : Rounded k u) (le : k ≤ l) :
    Rounded l u := by
  cases h with
  | zero s => exact .zero s
  | finite high => exact .finite (Int.le_trans high le)

theorem Bounded.mono {k l : Int} {u : UnpackedFloat} (h : Bounded k u) (le : k ≤ l) :
    Bounded l u := by
  cases h with
  | zero s => exact .zero s
  | finite small high => exact .finite small (Int.le_trans high le)

theorem Full.mono {i j k l : Int} {u : UnpackedFloat} (h : Full j k u) (le : i ≤ j)
    (le' : k ≤ l) : Full i l u := by
  cases h with
  | finite large small low high =>
    exact .finite large small (Int.le_trans le low) (Int.le_trans high le')

/-! ## Rounding -/

theorem mantissa_shiftRight (em : ExtendedMantissa) (k : Nat) :
    (em >>> k).mantissa = em.mantissa / 2 ^ k := by
  change (Nat.repeat ExtendedMantissa.shiftRightOne k em).mantissa = _
  induction k with
  | zero => simp [Nat.repeat]
  | succ k ih =>
    change (Nat.repeat ExtendedMantissa.shiftRightOne k em).mantissa / 2 = _
    rw [ih, Nat.div_div_eq_div_mul, Nat.pow_succ]

theorem mantissa_ofMantissaAndAccuracy (m : Nat) (acc : Accuracy) :
    (ExtendedMantissa.ofMantissaAndAccuracy m acc).mantissa = m := by
  rcases acc with _ | order
  · rfl
  · cases order <;> rfl

theorem roundedMantissa_le (em : ExtendedMantissa) : em.roundedMantissa ≤ em.mantissa + 1 := by
  obtain ⟨m, round, sticky⟩ := em
  cases round <;> cases sticky <;>
    simp only [ExtendedMantissa.roundedMantissa, ExtendedMantissa.accuracy,
      Accuracy.roundToNearestEven] <;> omega

theorem log2_le_log2 {m n : Nat} (h : m ≤ n) : m.log2 ≤ n.log2 := by
  rcases Nat.eq_zero_or_pos m with rfl | pos
  · exact Nat.zero_le _
  · exact (Nat.le_log2 (by omega)).2 (Nat.le_trans (Nat.log2_self_le pos.ne') h)

theorem log2_succ_le (m : Nat) : (m + 1).log2 ≤ m.log2 + 1 := by
  rw [← Nat.lt_succ_iff, Nat.log2_lt (Nat.succ_ne_zero m)]
  have := Nat.lt_log2_self (n := m)
  rw [Nat.succ_eq_add_one, Nat.pow_succ]
  omega

/-- What is left of a number when it is shifted, and its exponent. -/
theorem log2_div_two_pow (m k : Nat) : (m / 2 ^ k).log2 = 0 ∨ (m / 2 ^ k).log2 + k ≤ m.log2 := by
  rcases Nat.eq_zero_or_pos (m / 2 ^ k) with none | some
  · rw [none]
    exact .inl rfl
  · rw [← log2_mul_two_pow some]
    exact .inr (log2_le_log2 (Nat.div_mul_le_self m (2 ^ k)))

theorem targetExponent_format (t : Int) : format.targetExponent t = max (t - 53) (-1074) :=
  rfl

/-- Rounding gives zero or a number whose exponent is no greater than that of the whole. -/
theorem rounded_round (s : Sign) (m : Nat) (e : Int) (acc : Accuracy) :
    Rounded (max (totalExponent m e) (-1074)) (roundWithAccuracy format s m e acc) := by
  have exponent (n : Nat) (x : Int) (acc : Accuracy) :
      (shiftToTargetExponent format n x acc).2 =
        max x (max (totalExponent n x - 53) (-1074)) := by
    simp only [shiftToTargetExponent, shiftToExponent, targetExponent_format]
    omega
  have first := roundedMantissa_le (shiftToTargetExponent format m e acc).1
  simp only [shiftToTargetExponent, shiftToExponent, mantissa_shiftRight,
    mantissa_ofMantissaAndAccuracy] at first
  have size := Nat.le_trans (log2_le_log2 first) (log2_succ_le _)
  have kept := log2_div_two_pow m
    (format.targetExponent (totalExponent m e) - e).toNat
  have bound : (shiftToTargetExponent format
      (shiftToTargetExponent format m e acc).1.roundedMantissa
      (shiftToTargetExponent format m e acc).2 .exact).2 ≤
      max (totalExponent m e) (-1074) := by
    rw [exponent, exponent]
    simp only [totalExponent, targetExponent_format, shiftToTargetExponent, shiftToExponent] at *
    omega
  unfold roundWithAccuracy
  dsimp only
  split
  · exact .zero s
  · exact .finite bound

theorem rounded_mul (s s' : Sign) {m n : Nat} (e f : Int) (pos : 0 < m) (pos' : 0 < n) :
    Rounded (max (m.log2 + n.log2 + 2 + (e + f)) (-1074))
      (UnpackedFloat.mul format (.finite s m e pos) (.finite s' n f pos')) := by
  refine (rounded_round (s * s') (m * n) (e + f) .exact).mono ?_
  have := (log2_mul pos pos').2
  simp only [totalExponent]
  omega

theorem rounded_div (s s' : Sign) {m n : Nat} (e f : Int) (pos : 0 < m) (pos' : 0 < n) :
    Rounded (max (m.log2 + 1 + (e - f)) (-1074))
      (UnpackedFloat.div format (.finite s m e pos) (.finite s' n f pos')) := by
  refine (rounded_round (s / s') (divCore format m e n f).1 (divCore format m e n f).2.1
    (divCore format m e n f).2.2).mono ?_
  simp only [divCore]
  generalize reached : min (e - f) (format.targetExponent (totalExponent m e - totalExponent n f)) =
    t
  have low : t ≤ e - f := reached ▸ Int.min_le_left _ _
  have quotient := log2_le_log2 (Nat.div_le_self (m <<< (e - f - t).toNat) n)
  rw [Nat.shiftLeft_eq, log2_mul_two_pow pos] at quotient
  simp only [totalExponent]
  rw [← Nat.shiftLeft_eq] at quotient
  omega

/-! ## Packing -/

theorem Bounded.isFinite {k : Int} {u : UnpackedFloat} (h : Bounded k u) : u.isFinite := by
  cases h <;> rfl

theorem unpack_pack_zero (s : Sign) :
    UnpackedFloat.unpack format (UnpackedFloat.pack format (.zero s)) = .zero s := by
  cases s <;> rfl

theorem bounded_fields (s : Sign) (m : BitVec 52) {e : BitVec 11} {k : Int} (low : -1074 ≤ k)
    (h : (e.toNat : Int) - 1075 ≤ k) : Bounded k (fields s m e) := by
  have small := m.isLt
  unfold fields
  split
  · split
    · exact .zero s
    · exact .finite (by omega) low
  · exact .finite (by omega) h

/-- A number whose exponent is not too great is finite when it is packed. It keeps its exponent or
takes the least one. -/
theorem bounded_unpack_pack {k : Int} {u : UnpackedFloat} (h : Rounded k u) (low : -1074 ≤ k)
    (high : k ≤ 971) : Bounded k (UnpackedFloat.unpack format (UnpackedFloat.pack format u)) := by
  cases h with
  | zero s =>
    rw [unpack_pack_zero]
    exact .zero s
  | @finite s m e pos le =>
    have fits : ¬ 2 ^ 11 ≤ (e + 1023 + 52).toNat + 1 := by omega
    have packed (c : BitVec 11) (hc : c.toNat = (e + 1023 + 52).toNat ∨ c.toNat = 0)
        (f : BitVec 52) :
        Bounded k (UnpackedFloat.unpack format (packComponents format s c f)) := by
      have top : c ≠ -1#11 := by
        rintro rfl
        have : (-1#11).toNat = 2047 := rfl
        omega
      rw [unpack_packComponents s f top]
      exact bounded_fields s f low (by omega)
    change Bounded k (UnpackedFloat.unpack format (if 2 ^ 11 ≤ (e + 1023 + 52).toNat + 1 then _
      else if m.log2 + 1 = 53 then packComponents format s (BitVec.ofNat 11 (e + 1023 + 52).toNat) _
        else packComponents format s 0#11 _))
    rw [if_neg fits]
    split
    · refine packed _ (.inl ?_) _
      rw [BitVec.toNat_ofNat]
      omega
    · exact packed _ (.inr rfl) _

/-- What is rounded is no infinity and no number before it is packed, and afterwards it is finite or
infinite. -/
theorem isFinite_or_isInf {k : Int} {u : UnpackedFloat} (h : Rounded k u) :
    (UnpackedFloat.unpack format (UnpackedFloat.pack format u)).isFinite ∨
      (UnpackedFloat.unpack format (UnpackedFloat.pack format u)).isInf := by
  cases h with
  | zero s =>
    rw [unpack_pack_zero]
    exact .inl rfl
  | @finite s m e pos _ =>
    by_cases high : e ≤ 971
    · have rounded : Rounded (max e (-1074)) (.finite s m e pos) := .finite (by omega)
      exact .inl (bounded_unpack_pack rounded (by omega) (by omega)).isFinite
    · right
      have overflow : 2 ^ 11 ≤ (e + 1023 + 52).toNat + 1 := by omega
      change (UnpackedFloat.unpack format (if 2 ^ 11 ≤ (e + 1023 + 52).toNat + 1 then
        packedInfinity format s else _)).isInf
      rw [if_pos overflow]
      cases s <;> rfl

/-! ## Numbers with all their bits -/

theorem le_roundedMantissa (em : ExtendedMantissa) : em.mantissa ≤ em.roundedMantissa := by
  obtain ⟨m, round, sticky⟩ := em
  cases round <;> cases sticky <;>
    simp only [ExtendedMantissa.roundedMantissa, ExtendedMantissa.accuracy,
      Accuracy.roundToNearestEven] <;> omega

/-- A shift by the number of places that rounding asks for. -/
theorem shiftToTargetExponent_eq {m k : Nat} {e : Int} {acc : Accuracy}
    (h : (format.targetExponent (totalExponent m e) - e).toNat = k) :
    shiftToTargetExponent format m e acc =
      (ExtendedMantissa.ofMantissaAndAccuracy m acc >>> k, e + k) := by
  subst h
  rfl

/-- A number with 53 bits or more is rounded to one with 53 bits. -/
theorem full_round (s : Sign) {m : Nat} {e : Int} (bits : 52 ≤ m.log2) (low : -1074 ≤ e) :
    Full e (totalExponent m e - 52) (roundWithAccuracy format s m e .exact) := by
  obtain ⟨k, size⟩ := Nat.exists_eq_add_of_le bits
  have some : m ≠ 0 := by
    rintro rfl
    simp at bits
  have amount : (format.targetExponent (totalExponent m e) - e).toNat = k := by
    simp only [targetExponent_format, totalExponent]
    omega
  generalize shifted : ExtendedMantissa.ofMantissaAndAccuracy m .exact >>> k = em
  have quotient : em.mantissa = m / 2 ^ k := by
    rw [← shifted, mantissa_shiftRight, mantissa_ofMantissaAndAccuracy]
  have atLeast : 2 ^ 52 ≤ em.mantissa := by
    rw [quotient, Nat.le_div_iff_mul_le (Nat.two_pow_pos k), ← Nat.pow_add, ← size]
    exact Nat.log2_self_le some
  have below : em.mantissa < 2 ^ 53 := by
    have := Nat.lt_log2_self (n := m)
    rw [size, show 52 + k + 1 = 53 + k by omega, Nat.pow_add] at this
    rwa [quotient, Nat.div_lt_iff_lt_mul (Nat.two_pow_pos k)]
  have up := le_roundedMantissa em
  have down := roundedMantissa_le em
  -- When all 53 bits are ones, the rounded mantissa has one bit more and is shifted again.
  have again : ∃ j : Nat, j ≤ 1 ∧
      (format.targetExponent (totalExponent em.roundedMantissa (e + k)) - (e + k)).toNat = j ∧
      2 ^ 52 ≤ em.roundedMantissa / 2 ^ j ∧ em.roundedMantissa / 2 ^ j < 2 ^ 53 := by
    by_cases carry : em.roundedMantissa < 2 ^ 53
    · have log : em.roundedMantissa.log2 = 52 := (Nat.log2_eq_iff (by omega)).2 (by omega)
      refine ⟨0, by omega, ?_, by omega, by omega⟩
      simp only [targetExponent_format, totalExponent, log]
      omega
    · have log : em.roundedMantissa.log2 = 53 := (Nat.log2_eq_iff (by omega)).2 (by omega)
      refine ⟨1, by omega, ?_, by omega, by omega⟩
      simp only [targetExponent_format, totalExponent, log]
      omega
  obtain ⟨j, few, amount', atLeast', below'⟩ := again
  unfold roundWithAccuracy
  rw [shiftToTargetExponent_eq amount, shifted]
  dsimp only
  rw [shiftToTargetExponent_eq amount']
  have final : (ExtendedMantissa.ofMantissaAndAccuracy em.roundedMantissa .exact >>> j).mantissa =
      em.roundedMantissa / 2 ^ j := by
    rw [mantissa_shiftRight, mantissa_ofMantissaAndAccuracy]
  rw [← final] at atLeast' below'
  have nonzero : (ExtendedMantissa.ofMantissaAndAccuracy em.roundedMantissa .exact >>> j).mantissa ≠
      0 := by
    omega
  rw [dif_neg nonzero]
  refine .finite atLeast' below' ?_ ?_
  · change e ≤ e + k + j
    omega
  · change e + k + j ≤ m.log2 + 1 + e - 52
    omega

theorem full_unpack_pack {j k : Int} {u : UnpackedFloat} (h : Full j k u) (low : -1074 ≤ j)
    (high : k ≤ 971) : Full j k (UnpackedFloat.unpack format (UnpackedFloat.pack format u)) := by
  cases h with
  | @finite s m e pos atLeast below first last =>
    have log : m.log2 = 52 := (Nat.log2_eq_iff (by omega)).2 (by omega)
    have biased : (BitVec.ofNat 11 (e + 1023 + 52).toNat).toNat = (e + 1023 + 52).toNat := by
      rw [BitVec.toNat_ofNat]
      omega
    have top : BitVec.ofNat 11 (e + 1023 + 52).toNat ≠ -1#11 := by
      intro same
      have value : (-1#11).toNat = 2047 := rfl
      rw [same, value] at biased
      omega
    have normal : BitVec.ofNat 11 (e + 1023 + 52).toNat ≠ 0#11 := by
      intro same
      have value : (0#11).toNat = 0 := rfl
      rw [same, value] at biased
      omega
    change Full j k (UnpackedFloat.unpack format (if 2 ^ 11 ≤ (e + 1023 + 52).toNat + 1 then _
      else if m.log2 + 1 = 53 then packComponents format s (BitVec.ofNat 11 (e + 1023 + 52).toNat)
        (BitVec.ofNat 52 m) else _))
    rw [if_neg (by omega), if_pos (by omega), unpack_packComponents s _ top, fields,
      if_neg normal]
    have small := (BitVec.ofNat 52 m).isLt
    exact .finite (by omega) (by omega) (by omega) (by omega)

/-! ## Floats -/

theorem unpack_ofModel (u : UnpackedFloat) : (Float.ofModel (.pack u)).toModel.unpack =
    UnpackedFloat.unpack format (UnpackedFloat.pack format u) :=
  rfl

theorem isFinite_neg {x : Float} (h : x.isFinite) : (-x).isFinite := by
  obtain ⟨s, m, e, he, rfl⟩ := exists_fields h
  rw [neg_ofFields s m he]
  change (ofFields (-s) m e).toModel.unpack.isFinite = true
  rw [unpack_ofFields (-s) m he]
  unfold fields
  split
  · split <;> rfl
  · rfl

theorem log2_lt_of_lt {m : Nat} (pos : 0 < m) (h : m < 2 ^ 53) : m.log2 ≤ 52 :=
  Nat.lt_succ_iff.1 ((Nat.log2_lt pos.ne').2 h)

/-- The product of a bounded number and a number with all its bits, before it is packed. -/
theorem rounded_product {j k l : Int} {u v : UnpackedFloat} (hu : Bounded k u) (hv : Full j l v) :
    Rounded (max (106 + (k + l)) (-1074)) (UnpackedFloat.mul format u v) := by
  cases hv with
  | @finite s' n f pos' _ small' _ high' =>
    cases hu with
    | zero s => exact .zero _
    | @finite s m e pos small high =>
      have := log2_lt_of_lt pos small
      have := log2_lt_of_lt pos' small'
      exact (rounded_mul s s' e f pos pos').mono (by omega)

theorem rounded_quotient {j k l : Int} {u v : UnpackedFloat} (hu : Bounded k u)
    (hv : Full j l v) :
    Rounded (max (53 + (k - j)) (-1074)) (UnpackedFloat.div format u v) := by
  cases hv with
  | @finite s' n f pos' _ _ low' _ =>
    cases hu with
    | zero s => exact .zero _
    | @finite s m e pos small high =>
      have := log2_lt_of_lt pos small
      exact (rounded_div s s' e f pos pos').mono (by omega)

/-- The product of finite numbers is finite or infinite. -/
theorem isFinite_mul {j k l : Int} {x y : Float} (hx : Bounded k x.toModel.unpack)
    (hy : Full j l y.toModel.unpack) (h : ¬ (x * y).isInf) : (x * y).isFinite :=
  (isFinite_or_isInf (rounded_product hx hy)).resolve_right h

theorem bounded_mul {j k l : Int} {x y : Float} (hx : Bounded k x.toModel.unpack)
    (hy : Full j l y.toModel.unpack) (low : -1074 ≤ 106 + (k + l)) (high : 106 + (k + l) ≤ 971) :
    Bounded (106 + (k + l)) (x * y).toModel.unpack :=
  bounded_unpack_pack ((rounded_product hx hy).mono (by omega)) low high

theorem bounded_div {j k l : Int} {x y : Float} (hx : Bounded k x.toModel.unpack)
    (hy : Full j l y.toModel.unpack) (low : -1074 ≤ 53 + (k - j)) (high : 53 + (k - j) ≤ 971) :
    Bounded (53 + (k - j)) (x / y).toModel.unpack :=
  bounded_unpack_pack ((rounded_quotient hx hy).mono (by omega)) low high

end LayerScript.Decimal
