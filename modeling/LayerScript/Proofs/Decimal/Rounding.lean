import LayerScript.Proofs.Decimal.Nearest

/-!
# Rounding whole numbers

What a float of a sign, a significand and an exponent stands for is a rational number. Rounding a
number that is whole and not too large gives the integer nearest to it, however the number is
written. So sums, differences and products of whole floats are rounded to the nearest integer as
well, and whole floats compare as integers do.
-/

namespace LayerScript.Decimal

open Float.Model Float.Model.UnpackedFloat

/-- A float that holds an integer. -/
inductive Whole : Int → UnpackedFloat → Prop
  | zero (s : Sign) : Whole 0 (.zero s)
  | finite {s : Sign} {m n : Nat} {e : Int} (f : Fitting m e) (worth : (m : ℚ) * 2 ^ e = n) :
    Whole (s.apply n) (.finite s m e f.pos)

/-! ## Shifts -/

/-- The state of a shift by `k` places: the quotient, the first digit of what is left over and
whether there are others. -/
structure Shifted (m k : Nat) (em : ExtendedMantissa) : Prop where
  mantissa : em.mantissa = m / 2 ^ k
  rest : ∃ low < 2 ^ k, (em.stickyBit ↔ low ≠ 0) ∧
    2 * (m % 2 ^ k) = (if em.roundBit then 2 ^ k else 0) + low

theorem Shifted.shiftRightOne {m k : Nat} {em : ExtendedMantissa} (h : Shifted m k em) :
    Shifted m (k + 1) em.shiftRightOne := by
  obtain ⟨quotient, low, small, sticky, rest⟩ := h
  have left : m % 2 ^ (k + 1) = 2 ^ k * (m / 2 ^ k % 2) + m % 2 ^ k := by
    rw [Nat.mod_pow_succ, Nat.add_comm]
  have small' := Nat.mod_lt m (Nat.two_pow_pos k)
  refine ⟨by rw [Nat.pow_succ, ← Nat.div_div_eq_div_mul, ← quotient]; rfl,
    2 * (m % 2 ^ k), by rw [Nat.pow_succ]; omega, ?_, ?_⟩
  · change (em.roundBit || em.stickyBit) = true ↔ _
    rw [Bool.or_eq_true, sticky, rest]
    cases em.roundBit <;> simp
  · change _ = (if (em.mantissa % 2 != 0) = true then _ else _) + _
    rw [left, quotient]
    rcases Nat.mod_two_eq_zero_or_one (m / 2 ^ k) with even | odd
    · simp [even]
    · simp [odd, Nat.pow_succ]
      omega

theorem shifted_shiftRight (m k : Nat) :
    Shifted m k (ExtendedMantissa.mk m false false >>> k) := by
  induction k with
  | zero =>
    exact ⟨(Nat.div_one m).symm, 0, Nat.one_pos, ⟨nofun, nofun⟩, by rw [pow_zero, Nat.mod_one]; rfl⟩
  | succ k ih => exact ih.shiftRightOne

theorem Shifted.roundedMantissa {m k : Nat} {em : ExtendedMantissa} (h : Shifted m k em) :
    em.roundedMantissa = roundedQuotient k m := by
  obtain ⟨quotient, low, small, sticky, rest⟩ := h
  obtain ⟨n, round, more⟩ := em
  dsimp only at quotient sticky rest
  subst quotient
  unfold roundedQuotient
  rw [rest]
  cases round with
  | false =>
    rw [if_pos (by simpa using small)]
    cases more <;> rfl
  | true =>
    rw [if_neg (by simp)]
    cases more with
    | false =>
      have none : low = 0 := by simpa using sticky
      rw [if_pos (by simp [none])]
      rfl
    | true =>
      have some : low ≠ 0 := by simpa using sticky
      rw [if_neg (by simpa using some)]
      rfl

/-! ## Significands -/

/-- A whole number ends with zeros, or the significand does. -/
theorem zeros_of_worth {m n : Nat} {e : Int} (worth : (m : ℚ) * 2 ^ e = n) :
    ∃ j : Nat, (e = j ∧ n = m * 2 ^ j) ∨ (e = -j ∧ m = n * 2 ^ j) := by
  obtain ⟨j, rfl | rfl⟩ := e.eq_nat_or_neg
  · refine ⟨j, .inl ⟨rfl, ?_⟩⟩
    rw [zpow_natCast] at worth
    exact_mod_cast worth.symm
  · have pos : (2 : ℚ) ^ j ≠ 0 := by positivity
    refine ⟨j, .inr ⟨rfl, ?_⟩⟩
    rw [zpow_neg, zpow_natCast, ← div_eq_mul_inv, div_eq_iff pos] at worth
    exact_mod_cast worth

/-- Where the point stands makes no difference. -/
theorem nearestSize_mul_zpow {m n : Nat} {e : Int} (worth : (m : ℚ) * 2 ^ e = n) :
    (nearestSize m : ℚ) * 2 ^ e = nearestSize n := by
  obtain ⟨j, ⟨rfl, rfl⟩ | ⟨rfl, rfl⟩⟩ := zeros_of_worth worth
  · rw [nearestSize_mul_two_pow, zpow_natCast, Nat.cast_mul, Nat.cast_pow, Nat.cast_ofNat]
  · rw [nearestSize_mul_two_pow, zpow_neg, zpow_natCast, Nat.cast_mul, Nat.cast_pow,
      Nat.cast_ofNat]
    exact mul_inv_cancel_right₀ (by positivity) _

/-- The place of the first digit of a number that is not too large. -/
theorem log2_add_lt {m n : Nat} {e : Int} {k : Nat} (pos : 0 < m) (worth : (m : ℚ) * 2 ^ e = n)
    (small : n < 2 ^ k) : m.log2 + e < k := by
  have first : (2 : ℚ) ^ m.log2 ≤ m := by exact_mod_cast Nat.log2_self_le pos.ne'
  have bound : (2 : ℚ) ^ ((m.log2 : Int) + e) < 2 ^ (k : Int) :=
    calc (2 : ℚ) ^ ((m.log2 : Int) + e) = 2 ^ m.log2 * 2 ^ e := by
          rw [zpow_add₀ two_ne_zero, zpow_natCast]
      _ ≤ m * 2 ^ e := by gcongr
      _ = n := worth
      _ < 2 ^ (k : Int) := by
        rw [zpow_natCast]
        exact_mod_cast small
  exact (zpow_lt_zpow_iff_right₀ one_lt_two).1 bound

/-- When all 53 digits are ones, rounding up adds a digit, which is then shifted away. -/
theorem exists_fitting {q : Nat} {e : Int} (atLeast : 2 ^ 52 ≤ q) (atMost : q ≤ 2 ^ 53)
    (low : -1074 ≤ e) (high : e ≤ 970) : ∃ n j : Nat, q = n * 2 ^ j ∧ Fitting n (e + j) := by
  by_cases carry : q < 2 ^ 53
  · exact ⟨q, 0, (Nat.mul_one q).symm, by omega, carry, by omega, by omega, fun _ => atLeast⟩
  · exact ⟨2 ^ 52, 1, by omega, by decide, by decide, by omega, by omega, fun _ => Nat.le_refl _⟩

/-- A number with 53 digits or more is rounded to the nearest number with 53 digits. -/
theorem roundWithAccuracy_nearest (s : Sign) {m : Nat} {e : Int} (bits : 52 ≤ m.log2)
    (low : -1074 ≤ e) (high : m.log2 + e ≤ 1022) :
    ∃ n k, ∃ f : Fitting n k, roundWithAccuracy format s m e .exact = .finite s n k f.pos ∧
      (n : ℚ) * 2 ^ k = nearestSize m * 2 ^ e := by
  obtain ⟨k, size⟩ := Nat.exists_eq_add_of_le bits
  have amount : (format.targetExponent (totalExponent m e) - e).toNat = k := by
    simp only [targetExponent_format, totalExponent]
    omega
  have first : shiftToTargetExponent format m e .exact =
      (ExtendedMantissa.mk m false false >>> k, e + k) :=
    shiftToTargetExponent_eq amount
  have rounded := (shifted_shiftRight m k).roundedMantissa
  have bounds := roundedQuotient_bounds size
  obtain ⟨n, j, same, f⟩ := exists_fitting (e := e + k) bounds.1 bounds.2 (by omega) (by omega)
  have again := f.shift j
  rw [← same, Int.add_sub_cancel] at again
  refine ⟨n, e + k + j, f, ?_, ?_⟩
  · simp only [roundWithAccuracy, first, rounded, again]
    rw [dif_neg f.pos.ne']
  · rw [nearestSize_eq size, same, zpow_add₀ two_ne_zero, zpow_add₀ two_ne_zero]
    push_cast
    rw [zpow_natCast, zpow_natCast]
    ring

theorem round_nearest (s : Sign) {m : Nat} {e : Int} (pos : 0 < m) (low : -1022 ≤ e)
    (high : m.log2 + e ≤ 1022) :
    ∃ n k, ∃ f : Fitting n k, UnpackedFloat.round format s m e = .finite s n k f.pos ∧
      (n : ℚ) * 2 ^ k = nearestSize m * 2 ^ e := by
  generalize shift : (e - format.targetExponent (totalExponent m e)).toNat = j
  have bits := log2_mul_two_pow pos j
  simp only [targetExponent_format, totalExponent] at shift
  obtain ⟨n, k, f, rounded, worth⟩ :=
    roundWithAccuracy_nearest s (m := m * 2 ^ j) (e := e - j) (by omega) (by omega) (by omega)
  refine ⟨n, k, f, ?_, ?_⟩
  · simp only [UnpackedFloat.round, decreaseExponent, targetExponent_format, totalExponent, shift,
      Nat.shiftLeft_eq]
    exact rounded
  · rw [worth, nearestSize_mul_two_pow, zpow_sub₀ two_ne_zero, zpow_natCast]
    push_cast
    field_simp

/-! ## Whole numbers -/

theorem natAbs_apply (s : Sign) (n : Nat) : (s.apply n).natAbs = n := by
  cases s
  · exact (Int.natAbs_neg n).trans (Int.natAbs_natCast n)
  · exact Int.natAbs_natCast n

theorem nearest_apply (s : Sign) (n : Nat) : nearest (s.apply n) = s.apply (nearestSize n) := by
  cases s with
  | positive => exact nearest_natCast n
  | negative => exact (nearest_neg n).trans (congrArg _ (nearest_natCast n))

theorem apply_neg (s : Sign) (z : Int) : (-s).apply z = -s.apply z := by
  cases s
  · exact (Int.neg_neg z).symm
  · rfl

namespace Whole

theorem of_rounded {s : Sign} {m n : Nat} {e : Int} {u : UnpackedFloat}
    (worth : (m : ℚ) * 2 ^ e = n)
    (h : ∃ q k, ∃ f : Fitting q k, u = .finite s q k f.pos ∧
      (q : ℚ) * 2 ^ k = nearestSize m * 2 ^ e) :
    Whole (nearest (s.apply n)) u := by
  obtain ⟨q, k, f, rfl, same⟩ := h
  rw [nearest_apply]
  exact .finite f (same.trans (nearestSize_mul_zpow worth))

/-- What a float holds is not rounded. -/
theorem nearest_eq {z : Int} {u : UnpackedFloat} (h : Whole z u) : nearest z = z := by
  cases h with
  | zero s => decide
  | @finite s m n e f worth =>
    have digits := nearestSize_mul_zpow worth
    rw [nearestSize_of_le f.small.le, worth] at digits
    rw [nearest_apply, ← Nat.cast_inj.1 digits]

theorem neg {z : Int} {u : UnpackedFloat} (h : Whole z u) : Whole (-z) (UnpackedFloat.neg u) := by
  cases h with
  | zero s => exact .zero (-s)
  | @finite s m n e f worth =>
    rw [← apply_neg]
    exact .finite f worth

theorem abs {z : Int} {u : UnpackedFloat} (h : Whole z u) : Whole z.natAbs u.abs := by
  cases h with
  | zero s => exact .zero .positive
  | @finite s m n e f worth =>
    rw [natAbs_apply]
    exact .finite (s := .positive) f worth

end Whole

/-- The significand of an integer has its sign. -/
theorem exists_apply {s : Sign} {m : Nat} {z e : Int}
    (worth : ((s.apply m : Int) : ℚ) * 2 ^ e = z) :
    ∃ n : Nat, z = s.apply n ∧ (m : ℚ) * 2 ^ e = n := by
  have size {y : Int} (worth : (m : ℚ) * 2 ^ e = y) : ∃ n : Nat, y = n ∧ (m : ℚ) * 2 ^ e = n := by
    have nonneg : (0 : ℚ) ≤ y := by
      rw [← worth]
      positivity
    obtain ⟨n, rfl⟩ := Int.eq_ofNat_of_zero_le (Int.cast_nonneg_iff.1 nonneg)
    exact ⟨n, rfl, worth⟩
  cases s with
  | positive => exact size worth
  | negative =>
    obtain ⟨n, opposite, same⟩ := size (y := -z) (by
      rw [Int.cast_neg, ← worth]
      simp [Sign.apply])
    exact ⟨n, by rw [← Int.neg_neg z, opposite]; rfl, same⟩

namespace Whole

theorem round {s : Sign} {m : Nat} {z e : Int} (pos : 0 < m)
    (worth : ((s.apply m : Int) : ℚ) * 2 ^ e = z) (low : -1022 ≤ e) (small : z.natAbs < 2 ^ 128) :
    Whole (nearest z) (UnpackedFloat.round format s m e) := by
  obtain ⟨n, rfl, size⟩ := exists_apply worth
  rw [natAbs_apply] at small
  have := log2_add_lt pos size small
  exact of_rounded size (round_nearest s pos low (by omega))

theorem normalize {y z e : Int} (s : Sign) (worth : (y : ℚ) * 2 ^ e = z) (low : -1022 ≤ e)
    (small : z.natAbs < 2 ^ 128) : Whole (nearest z) (UnpackedFloat.normalize format y e s) := by
  unfold UnpackedFloat.normalize
  split
  next lt =>
    have lt : y < 0 := by simpa [compare_lt_iff_lt] using lt
    have negative : y = Sign.negative.apply (-y).toNat := by
      simp only [Sign.apply]
      omega
    rw [negative] at worth
    exact round (by omega) worth low small
  next eq =>
    have eq : y = 0 := by simpa using eq
    subst eq
    have none : z = 0 := by
      simpa using worth.symm
    rw [none]
    exact .zero s
  next gt =>
    have gt : 0 < y := by simpa [compare_gt_iff_gt] using gt
    have positive : y = Sign.positive.apply y.toNat := by
      simp only [Sign.apply]
      omega
    rw [positive] at worth
    exact round (by omega) worth low small

end Whole

/-! ## Operations -/

theorem Fitting.pos_of_worth {m n : Nat} {e : Int} (f : Fitting m e) (worth : (m : ℚ) * 2 ^ e = n) :
    0 < n := by
  have pos : (0 : ℚ) < n := by
    have := f.pos
    rw [← worth]
    positivity
  exact_mod_cast pos

/-- The last digit of a whole number is at most 52 places behind the point. -/
theorem Fitting.low_of_worth {m n : Nat} {e : Int} (f : Fitting m e) (worth : (m : ℚ) * 2 ^ e = n) :
    -52 ≤ e := by
  have some : (1 : ℚ) ≤ n := by exact_mod_cast f.pos_of_worth worth
  have bound : (2 : ℚ) ^ (0 : Int) < 2 ^ (53 + e) :=
    calc (2 : ℚ) ^ (0 : Int) ≤ n := by simpa using some
      _ = m * 2 ^ e := worth.symm
      _ < 2 ^ 53 * 2 ^ e := by
        have small : (m : ℚ) < 2 ^ 53 := by exact_mod_cast f.small
        gcongr
      _ = 2 ^ (53 + e) := by rw [zpow_add₀ two_ne_zero]; rfl
  have := (zpow_lt_zpow_iff_right₀ one_lt_two).1 bound
  omega

theorem apply_mul (s t : Sign) (y z : Int) : (s * t).apply (y * z) = s.apply y * t.apply z := by
  cases s <;> cases t
  · exact (Int.neg_mul_neg y z).symm
  · exact (Int.neg_mul y z).symm
  · exact (Int.mul_neg y z).symm
  · rfl

/-- A number written with a lower exponent. -/
theorem worth_shiftLeft {s : Sign} {m n : Nat} {d e : Int} (le : d ≤ e)
    (worth : (m : ℚ) * 2 ^ e = n) :
    ((s.apply (m <<< (e - d).toNat : Nat) : Int) : ℚ) * 2 ^ d = (s.apply n : Int) := by
  have size : ((m <<< (e - d).toNat : Nat) : ℚ) * 2 ^ d = n := by
    rw [← worth, Nat.shiftLeft_eq]
    push_cast
    rw [mul_assoc, ← zpow_natCast, ← zpow_add₀ two_ne_zero]
    congr 2
    omega
  cases s with
  | positive => exact size
  | negative =>
    change ((-((m <<< (e - d).toNat : Nat) : Int) : Int) : ℚ) * 2 ^ d = (-(n : Int) : Int)
    rw [Int.cast_neg, Int.cast_neg, neg_mul]
    exact congrArg _ size

theorem sub_eq_add_neg (f : Format) (u v : UnpackedFloat) :
    UnpackedFloat.sub f u v = UnpackedFloat.add f u (UnpackedFloat.neg v) := by
  cases u <;> cases v <;> try rfl
  next s m e pos t n d pos' =>
    simp only [UnpackedFloat.sub, UnpackedFloat.add, UnpackedFloat.neg]
    rw [Int.sub_eq_add_neg, apply_neg]

namespace Whole

variable {y z : Int} {u v : UnpackedFloat}

theorem add (hu : Whole y u) (hv : Whole z v) (small : (y + z).natAbs < 2 ^ 128) :
    Whole (nearest (y + z)) (UnpackedFloat.add format u v) := by
  cases hu with
  | zero s =>
    rw [Int.zero_add, hv.nearest_eq]
    cases hv with
    | zero t =>
      simp only [UnpackedFloat.add]
      split <;> exact .zero _
    | finite f worth => exact .finite f worth
  | @finite s m n e f worth =>
    cases hv with
    | zero t =>
      rw [Int.add_zero, (Whole.finite f worth).nearest_eq]
      exact .finite f worth
    | @finite t m' n' e' f' worth' =>
      have low := f.low_of_worth worth
      have low' := f'.low_of_worth worth'
      refine normalize _ ?_ (by omega) small
      rw [Int.cast_add, add_mul, worth_shiftLeft (Int.min_le_left e e') worth,
        worth_shiftLeft (Int.min_le_right e e') worth', ← Int.cast_add]

theorem sub (hu : Whole y u) (hv : Whole z v) (small : (y - z).natAbs < 2 ^ 128) :
    Whole (nearest (y - z)) (UnpackedFloat.sub format u v) := by
  rw [sub_eq_add_neg]
  exact hu.add hv.neg small

theorem mul (hu : Whole y u) (hv : Whole z v) (small : (y * z).natAbs < 2 ^ 128) :
    Whole (nearest (y * z)) (UnpackedFloat.mul format u v) := by
  cases hu with
  | zero s =>
    rw [Int.zero_mul]
    cases hv <;> exact .zero _
  | @finite s m n e f worth =>
    cases hv with
    | zero t =>
      rw [Int.mul_zero]
      exact .zero _
    | @finite t m' n' e' f' worth' =>
      have low := f.low_of_worth worth
      have low' := f'.low_of_worth worth'
      have bits := (Nat.le_log2 f.pos.ne').2 (f.full (by omega))
      have bits' := (Nat.le_log2 f'.pos.ne').2 (f'.full (by omega))
      have digits := (log2_mul f.pos f'.pos).1
      have product : ((m * m' : Nat) : ℚ) * 2 ^ (e + e') = (n * n' : Nat) := by
        push_cast
        rw [← worth, ← worth', zpow_add₀ two_ne_zero]
        ring
      rw [Int.natAbs_mul, natAbs_apply, natAbs_apply] at small
      have := log2_add_lt (Nat.mul_pos f.pos f'.pos) product small
      rw [← apply_mul, ← Int.natCast_mul]
      exact of_rounded product (roundWithAccuracy_nearest _ (by omega) (by omega) (by omega))

end Whole

/-! ## Comparing and truncating -/

theorem Fitting.worth_lt {m m' : Nat} {e e' : Int} (f : Fitting m e) (f' : Fitting m' e')
    (lt : e < e') : (m : ℚ) * 2 ^ e < m' * 2 ^ e' := by
  have small : (m : ℚ) < 2 ^ 53 := by exact_mod_cast f.small
  have full : (2 : ℚ) ^ 52 ≤ m' := by exact_mod_cast f'.full (Int.lt_of_le_of_lt f.low lt)
  calc (m : ℚ) * 2 ^ e < 2 ^ 53 * 2 ^ e := by gcongr
    _ = 2 ^ 52 * 2 ^ (e + 1) := by rw [zpow_add_one₀ two_ne_zero]; ring
    _ ≤ m' * 2 ^ e' := by
      have step : (2 : ℚ) ^ (e + 1) ≤ 2 ^ e' := zpow_le_zpow_right₀ one_le_two lt
      gcongr

/-- Significands of 53 digits compare by their exponents first. -/
theorem Fitting.compare_eq {m m' n n' : Nat} {e e' : Int} (f : Fitting m e) (f' : Fitting m' e')
    (worth : (m : ℚ) * 2 ^ e = n) (worth' : (m' : ℚ) * 2 ^ e' = n') :
    (compare e e').then (compare m m') = compare (n : Int) n' := by
  rcases Int.lt_trichotomy e e' with less | rfl | greater
  · have lt := f.worth_lt f' less
    rw [worth, worth', Nat.cast_lt] at lt
    rw [compare_lt_iff_lt.2 less, compare_lt_iff_lt.2 (Int.ofNat_lt.2 lt)]
    rfl
  · have pos : (0 : ℚ) < 2 ^ e := by positivity
    rw [Std.compare_self]
    calc compare m m' = cmp m m' := (cmp_eq_compare m m').symm
      _ = cmp (m : ℚ) m' := ((Nat.strictMono_cast (α := ℚ)).cmp_map_eq m m').symm
      _ = cmp (n : ℚ) n' := by rw [← worth, ← worth', cmp_mul_pos_right pos]
      _ = cmp n n' := (Nat.strictMono_cast (α := ℚ)).cmp_map_eq n n'
      _ = cmp (n : Int) n' := ((Nat.strictMono_cast (α := ℤ)).cmp_map_eq n n').symm
      _ = compare (n : Int) n' := cmp_eq_compare _ _
  · have lt := f'.worth_lt f greater
    rw [worth, worth', Nat.cast_lt] at lt
    rw [compare_gt_iff_gt.2 greater, compare_gt_iff_gt.2 (Int.ofNat_lt.2 lt)]
    rfl

namespace Whole

variable {y z : Int} {u v : UnpackedFloat}

/-- Floats that hold integers compare as these do. -/
theorem compare_eq (hu : Whole y u) (hv : Whole z v) :
    UnpackedFloat.compare u v = some (compare y z) := by
  cases hu with
  | zero s =>
    cases hv with
    | zero t => rfl
    | @finite t m n e f worth =>
      have := f.pos_of_worth worth
      cases t with
      | positive => exact congrArg some (compare_lt_iff_lt.2 (show (0 : Int) < n by omega)).symm
      | negative => exact congrArg some (compare_gt_iff_gt.2 (show -(n : Int) < 0 by omega)).symm
  | @finite s m n e f worth =>
    have := f.pos_of_worth worth
    cases hv with
    | zero t =>
      cases s with
      | positive => exact congrArg some (compare_gt_iff_gt.2 (show (0 : Int) < n by omega)).symm
      | negative => exact congrArg some (compare_lt_iff_lt.2 (show -(n : Int) < 0 by omega)).symm
    | @finite t m' n' e' f' worth' =>
      have := f'.pos_of_worth worth'
      have order := f.compare_eq f' worth worth'
      cases s <;> cases t <;> refine congrArg some ?_
      · change ((compare e e').then (compare m m')).swap = compare (-(n : Int)) (-n')
        rw [order, Int.compare_swap, Int.compare_eq_ite_lt, Int.compare_eq_ite_lt]
        simp only [Int.neg_lt_neg_iff]
      · exact (compare_lt_iff_lt.2 (show -(n : Int) < n' by omega)).symm
      · exact (compare_gt_iff_gt.2 (show -(n' : Int) < n by omega)).symm
      · exact order

/-- A float that holds an integer loses nothing when it is truncated. -/
theorem toInt_eq (hu : Whole y u) (a b : Int) : u.toInt a b = y := by
  cases hu with
  | zero s => rfl
  | @finite s m n e f worth =>
    refine congrArg s.apply ?_
    simp only [mantissa_shiftRight, mantissa_ofMantissaAndAccuracy]
    rw [Nat.shiftLeft_eq, Int.sub_zero, Nat.cast_inj]
    obtain ⟨j, ⟨rfl, rfl⟩ | ⟨rfl, rfl⟩⟩ := zeros_of_worth worth <;> simp

end Whole

end LayerScript.Decimal
