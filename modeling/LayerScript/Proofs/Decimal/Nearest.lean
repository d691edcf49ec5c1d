import LayerScript.Proofs.Decimal.Sizes

/-!
# The nearest number with 53 digits

An integer is rounded to 53 binary digits in units of a power of two that depends on its size. What
comes out has 53 digits, and nothing that has is closer. The rounding keeps the order, and it does
not depend on the place of the binary point.
-/

namespace LayerScript.Decimal

/-- A number in units of `2 ^ k`, rounded to the nearest unit; of two that are equally near, to the
even one. -/
def roundedQuotient (k n : Nat) : Nat :=
  if 2 * (n % 2 ^ k) < 2 ^ k then n / 2 ^ k
  else if 2 * (n % 2 ^ k) = 2 ^ k then n / 2 ^ k + n / 2 ^ k % 2
  else n / 2 ^ k + 1

/-- The number nearest to a number that has at most 53 binary digits before its zeros. -/
def nearestSize (n : Nat) : Nat :=
  roundedQuotient (n.log2 - 52) n * 2 ^ (n.log2 - 52)

/-- The integer nearest to an integer that has at most 53 binary digits before its zeros. -/
def nearest (z : Int) : Int :=
  if z < 0 then -nearestSize z.natAbs else nearestSize z.natAbs

/-- A number with at most 53 binary digits before its zeros. The first one with 54 digits ends with
a zero. -/
def Short (n : Nat) : Prop :=
  ∃ q j, q ≤ 2 ^ 53 ∧ n = q * 2 ^ j

/-! ## Quotients -/

theorem roundedQuotient_mul_two_pow (k j n : Nat) :
    roundedQuotient (k + j) (n * 2 ^ j) = roundedQuotient k n := by
  have pos := Nat.two_pow_pos j
  have quotient : n * 2 ^ j / 2 ^ (k + j) = n / 2 ^ k := by
    rw [Nat.pow_add, Nat.mul_div_mul_right _ _ pos]
  have remainder : n * 2 ^ j % 2 ^ (k + j) = n % 2 ^ k * 2 ^ j := by
    rw [Nat.pow_add, Nat.mul_mod_mul_right]
  unfold roundedQuotient
  rw [quotient, remainder, Nat.pow_add, ← Nat.mul_assoc]
  simp only [Nat.mul_lt_mul_right pos, Nat.mul_left_inj pos.ne']

@[simp] theorem roundedQuotient_zero (n : Nat) : roundedQuotient 0 n = n := by
  simp [roundedQuotient, Nat.mod_one]

theorem roundedQuotient_exact (k n : Nat) : roundedQuotient k (n * 2 ^ k) = n := by
  simpa using roundedQuotient_mul_two_pow 0 k n

theorem le_roundedQuotient (k n : Nat) : n / 2 ^ k ≤ roundedQuotient k n := by
  unfold roundedQuotient
  split
  · exact Nat.le_refl _
  · split <;> omega

theorem roundedQuotient_le (k n : Nat) : roundedQuotient k n ≤ n / 2 ^ k + 1 := by
  unfold roundedQuotient
  split
  · omega
  · split <;> omega

theorem roundedQuotient_mono (k : Nat) {a b : Nat} (h : a ≤ b) :
    roundedQuotient k a ≤ roundedQuotient k b := by
  rcases (Nat.div_le_div_right h : a / 2 ^ k ≤ b / 2 ^ k).lt_or_eq with less | same
  · have := roundedQuotient_le k a
    have := le_roundedQuotient k b
    omega
  · have remainders : a % 2 ^ k ≤ b % 2 ^ k := by
      have ha := Nat.div_add_mod a (2 ^ k)
      have hb := Nat.div_add_mod b (2 ^ k)
      rw [same] at ha
      omega
    unfold roundedQuotient
    rw [same]
    split_ifs <;> omega

/-- No multiple of the unit is closer to the number. -/
theorem roundedQuotient_closest (k n m : Nat) :
    ((roundedQuotient k n * 2 ^ k : Nat) - n : Int).natAbs ≤
      ((m * 2 ^ k : Nat) - n : Int).natAbs := by
  have whole := Nat.div_add_mod n (2 ^ k)
  have small := Nat.mod_lt n (Nat.two_pow_pos k)
  have below : m ≤ n / 2 ^ k → m * 2 ^ k ≤ n / 2 ^ k * 2 ^ k := Nat.mul_le_mul_right _
  have above : n / 2 ^ k + 1 ≤ m → (n / 2 ^ k + 1) * 2 ^ k ≤ m * 2 ^ k := Nat.mul_le_mul_right _
  rw [Nat.mul_comm] at whole
  rw [Nat.add_mul, Nat.one_mul] at above
  have floor : roundedQuotient k n = n / 2 ^ k ∧ 2 * (n % 2 ^ k) ≤ 2 ^ k ∨
      roundedQuotient k n = n / 2 ^ k + 1 ∧ 2 ^ k ≤ 2 * (n % 2 ^ k) := by
    unfold roundedQuotient
    split_ifs <;> omega
  rcases floor with ⟨eq, near⟩ | ⟨eq, near⟩
  · rw [eq]
    omega
  · rw [eq, Nat.add_mul, Nat.one_mul]
    omega

/-! ## Sizes -/

@[simp] theorem nearestSize_zero : nearestSize 0 = 0 := by
  decide

theorem nearestSize_mul_two_pow (n j : Nat) : nearestSize (n * 2 ^ j) = nearestSize n * 2 ^ j := by
  rcases Nat.eq_zero_or_pos n with rfl | pos
  · simp
  unfold nearestSize
  rw [log2_mul_two_pow pos]
  by_cases long : 52 ≤ n.log2
  · rw [show n.log2 + j - 52 = n.log2 - 52 + j by omega, roundedQuotient_mul_two_pow, Nat.pow_add,
      Nat.mul_assoc]
  · -- The digits that are too many are zeros.
    obtain ⟨i, hi⟩ : ∃ i, j = i + (n.log2 + j - 52) := ⟨j - (n.log2 + j - 52), by omega⟩
    generalize n.log2 + j - 52 = k at hi
    subst hi
    rw [show n.log2 - 52 = 0 by omega, Nat.pow_add, ← Nat.mul_assoc, roundedQuotient_exact]
    simp [Nat.mul_assoc]

theorem nearestSize_le_two_pow (n : Nat) : nearestSize n ≤ 2 ^ (n.log2 + 1) := by
  have split : 2 ^ (n.log2 + 1 - (n.log2 - 52)) * 2 ^ (n.log2 - 52) = 2 ^ (n.log2 + 1) := by
    rw [← Nat.pow_add]
    congr 1
    omega
  have less := roundedQuotient_mono (n.log2 - 52) (Nat.lt_log2_self (n := n)).le
  rw [← split, roundedQuotient_exact] at less
  rw [← split]
  exact Nat.mul_le_mul_right _ less

theorem two_pow_le_nearestSize {n : Nat} (pos : 0 < n) : 2 ^ n.log2 ≤ nearestSize n := by
  have split : 2 ^ (n.log2 - (n.log2 - 52)) * 2 ^ (n.log2 - 52) = 2 ^ n.log2 := by
    rw [← Nat.pow_add]
    congr 1
    omega
  have less := roundedQuotient_mono (n.log2 - 52) (Nat.log2_self_le pos.ne')
  rw [← split, roundedQuotient_exact] at less
  rw [← split]
  exact Nat.mul_le_mul_right _ less

theorem nearestSize_eq {n k : Nat} (size : n.log2 = 52 + k) :
    nearestSize n = roundedQuotient k n * 2 ^ k := by
  rw [nearestSize, size, Nat.add_sub_cancel_left]

theorem pos_of_log2 {n k : Nat} (size : n.log2 = 52 + k) : 0 < n := by
  rcases Nat.eq_zero_or_pos n with rfl | pos
  · rw [Nat.log2_zero] at size
    omega
  · exact pos

/-- A quotient with 53 digits is rounded to one with 53 digits, or to the first one with more. -/
theorem roundedQuotient_bounds {n k : Nat} (size : n.log2 = 52 + k) :
    2 ^ 52 ≤ roundedQuotient k n ∧ roundedQuotient k n ≤ 2 ^ 53 := by
  have low := two_pow_le_nearestSize (pos_of_log2 size)
  have high := nearestSize_le_two_pow n
  rw [nearestSize_eq size, size] at low high
  rw [Nat.pow_add] at low
  rw [show 52 + k + 1 = 53 + k by omega, Nat.pow_add] at high
  exact ⟨Nat.le_of_mul_le_mul_right low (Nat.two_pow_pos k),
    Nat.le_of_mul_le_mul_right high (Nat.two_pow_pos k)⟩

/-- The nearest number has 53 digits, and none that has is closer. -/
theorem nearestSize_nearest (n : Nat) : Short (nearestSize n) ∧ ∀ v, Short v →
    ((nearestSize n : Int) - n).natAbs ≤ ((v : Int) - n).natAbs := by
  constructor
  · by_cases long : 52 ≤ n.log2
    · obtain ⟨k, size⟩ := Nat.exists_eq_add_of_le long
      exact ⟨_, k, (roundedQuotient_bounds size).2, nearestSize_eq size⟩
    · have few : n < 2 ^ 53 := Nat.lt_of_lt_of_le Nat.lt_log2_self
        (Nat.pow_le_pow_right (by decide) (by omega))
      exact ⟨n, 0, few.le, by rw [nearestSize, Nat.sub_eq_zero_of_le (by omega),
        roundedQuotient_zero]⟩
  · rintro v ⟨q, j, digits, rfl⟩
    by_cases coarse : n.log2 - 52 ≤ j
    · obtain ⟨i, rfl⟩ := Nat.exists_eq_add_of_le' coarse
      rw [Nat.pow_add, ← Nat.mul_assoc]
      exact roundedQuotient_closest (n.log2 - 52) n (q * 2 ^ i)
    · -- A number in smaller units is below the first one with as many digits, which is in these.
      obtain ⟨k, size⟩ : ∃ k, n.log2 = 52 + k := ⟨n.log2 - 52, by omega⟩
      have first := roundedQuotient_closest k n (2 ^ 52)
      have low : q * 2 ^ j ≤ 2 ^ 52 * 2 ^ k :=
        calc q * 2 ^ j ≤ 2 ^ 53 * 2 ^ j := Nat.mul_le_mul_right _ digits
          _ = 2 ^ (53 + j) := (Nat.pow_add 2 53 j).symm
          _ ≤ 2 ^ (52 + k) := Nat.pow_le_pow_right (by decide) (by omega)
          _ = 2 ^ 52 * 2 ^ k := Nat.pow_add 2 52 k
      have high := Nat.log2_self_le (pos_of_log2 size).ne'
      rw [size, Nat.pow_add] at high
      rw [nearestSize_eq size]
      omega

theorem nearestSize_of_le {n : Nat} (h : n ≤ 2 ^ 53) : nearestSize n = n := by
  have close := (nearestSize_nearest n).2 n ⟨n, 0, h, (Nat.mul_one n).symm⟩
  omega

theorem nearestSize_mono {a b : Nat} (h : a ≤ b) : nearestSize a ≤ nearestSize b := by
  rcases Nat.eq_zero_or_pos a with rfl | pos
  · simp
  rcases (log2_le_log2 h).lt_or_eq with less | same
  · calc nearestSize a ≤ 2 ^ (a.log2 + 1) := nearestSize_le_two_pow a
      _ ≤ 2 ^ b.log2 := Nat.pow_le_pow_right (by decide) less
      _ ≤ nearestSize b := two_pow_le_nearestSize (Nat.lt_of_lt_of_le pos h)
  · unfold nearestSize
    rw [same]
    exact Nat.mul_le_mul_right _ (roundedQuotient_mono _ h)

/-! ## Integers -/

theorem natAbs_nearest (z : Int) : (nearest z).natAbs = nearestSize z.natAbs := by
  unfold nearest
  split <;> simp

theorem nearest_natCast (n : Nat) : nearest n = nearestSize n := by
  simp [nearest]

theorem nearest_neg (z : Int) : nearest (-z) = -nearest z := by
  rcases Int.lt_trichotomy z 0 with neg | rfl | pos
  · simp [nearest, neg, Int.not_lt.2 neg.le]
  · simp [nearest]
  · simp [nearest, pos, Int.not_lt.2 pos.le]

theorem nearest_of_natAbs_le {z : Int} (h : z.natAbs ≤ 2 ^ 53) : nearest z = z := by
  unfold nearest
  rw [nearestSize_of_le h]
  split <;> omega

theorem nearest_mono {y z : Int} (h : y ≤ z) : nearest y ≤ nearest z := by
  unfold nearest
  split_ifs with hy hz hz
  · have := nearestSize_mono (show z.natAbs ≤ y.natAbs by omega)
    omega
  · omega
  · omega
  · have := nearestSize_mono (show y.natAbs ≤ z.natAbs by omega)
    omega

end LayerScript.Decimal
