import LayerScript.Program.Number
import LayerScript.Proofs.Tokens.Spelling
import Mathlib

/-!
# Exact decimals of floats

A finite float is a whole number of units in the 1074th decimal place. Written with that many places
it is a number literal, and the rounding that reads the literal back has nothing to round. The
infinity is what a numeral that is too large reads as. So every float without a sign has a numeral,
unless it is not a number.
-/

namespace LayerScript.Decimal

open Float.Model Float.Model.UnpackedFloat

/-- A number without a sign. The negative zero has a sign. -/
structure IsUnsigned (x : Float) : Prop where
  number : ¬ x.isNaN
  unsigned : x.toBits.toNat < 2 ^ 63

instance : DecidablePred IsUnsigned := fun x =>
  decidable_of_iff (¬ x.isNaN ∧ x.toBits.toNat < 2 ^ 63)
    ⟨fun h => ⟨h.1, h.2⟩, fun h => ⟨h.number, h.unsigned⟩⟩

abbrev format : Format := Format.binary64

/-! ## Fields -/

section Fields

variable (s : Sign) {e : BitVec 11} (m : BitVec 52)

theorem ofBitVec_toBitVec : Sign.ofBitVec s.toBitVec = s := by
  cases s <;> rfl

theorem toBitVec_ofBitVec (b : BitVec 1) : (Sign.ofBitVec b).toBitVec = b := by
  revert b
  decide

theorem toNat_packComponents (e : BitVec 11) : (packComponents format s e m).toNat =
    s.toBitVec.toNat * 2 ^ 63 + e.toNat * 2 ^ 52 + m.toNat := by
  simp only [packComponents, BitVec.toNat_append]
  rw [← Nat.shiftLeft_add_eq_or_of_lt m.isLt, ← Nat.shiftLeft_add_eq_or_of_lt e.isLt,
    Nat.shiftLeft_eq, Nat.shiftLeft_eq]
  omega

theorem unpackSign_packComponents (e : BitVec 11) :
    unpackSign (packComponents format s e m) = s.toBitVec := by
  apply BitVec.eq_of_toNat_eq
  have he := e.isLt
  have hm := m.isLt
  have hs := s.toBitVec.isLt
  delta unpackSign
  simp only [BitVec.toNat_cast, BitVec.extractLsb_toNat, toNat_packComponents,
    Nat.shiftRight_eq_div_pow]
  omega

theorem packComponents_unpack (b : BitVec format.numBits) :
    packComponents format (Sign.ofBitVec (unpackSign b)) (unpackExponent b) (unpackMantissa b) =
      b := by
  apply BitVec.eq_of_toNat_eq
  have : b.toNat < 2 ^ 64 := b.isLt
  delta unpackSign
  simp only [toNat_packComponents, toBitVec_ofBitVec, unpackExponent, unpackMantissa,
    BitVec.toNat_cast, BitVec.extractLsb_toNat, Nat.shiftRight_eq_div_pow]
  omega

/-- The number of a sign, an exponent field below the greatest one and a fraction field. -/
def fields (e : BitVec 11) : UnpackedFloat :=
  if e = 0#11 then
    if h : m = 0#52 then .zero s
    else .finite s m.toNat (-1074) (by simpa [BitVec.toNat_pos, BitVec.pos_iff_ne_zero] using h)
  else .finite s (2 ^ 52 + m.toNat) (e.toNat - 1075) (by omega)

theorem unpack_packComponents (h : e ≠ -1#11) :
    UnpackedFloat.unpack format (packComponents format s e m) = fields s m e := by
  delta UnpackedFloat.unpack
  simp only [unpackMantissa_packComponents, unpackExponent_packComponents,
    unpackSign_packComponents, ofBitVec_toBitVec]
  rw [if_neg h]
  unfold fields
  split
  · next zero =>
    subst zero
    rfl
  · have whole : (1#1 ++ m).toNat = 2 ^ 52 + m.toNat := by
      rw [BitVec.toNat_append, ← Nat.shiftLeft_add_eq_or_of_lt m.isLt]
      rfl
    simp only [whole]
    rfl

theorem pack_fields (h : e ≠ -1#11) :
    UnpackedFloat.pack format (fields s m e) = packComponents format s e m := by
  have hm := m.isLt
  have he := e.isLt
  have top : e.toNat ≠ 2047 := fun eq => h (BitVec.eq_of_toNat_eq eq)
  unfold fields
  split
  · next zero =>
    subst zero
    split
    · next none =>
      subst none
      rfl
    · next some =>
      have short : ¬ m.toNat.log2 + 1 = format.mantissaBits := by
        have := (Nat.log2_lt fun eq => some (BitVec.eq_of_toNat_eq eq)).2 hm
        change m.toNat.log2 + 1 ≠ 53
        omega
      delta UnpackedFloat.pack
      dsimp only
      rw [if_neg (by decide), if_neg short]
      congr 1
      simp
  · have log : (2 ^ 52 + m.toNat).log2 = 52 := by
      rw [Nat.log2_eq_iff (by omega)]
      omega
    have biased : ((e.toNat : Int) - 1075 + format.exponentBias +
        format.mantissaBitsWithoutImplicit).toNat = e.toNat := by
      change ((e.toNat : Int) - 1075 + 1023 + 52).toNat = _
      omega
    delta UnpackedFloat.pack
    dsimp only
    rw [biased, if_neg (show ¬ 2 ^ 11 ≤ e.toNat + 1 by omega), if_pos (by rw [log]; rfl)]
    congr 1
    · exact BitVec.eq_of_toNat_eq (by simp)
    · apply BitVec.eq_of_toNat_eq
      simp only [BitVec.toNat_ofNat]
      omega

theorem neg_fields (e : BitVec 11) : UnpackedFloat.neg (fields s m e) = fields (-s) m e := by
  unfold fields
  split
  · split <;> rfl
  · rfl

theorem fields_cases (e : BitVec 11) :
    (e = 0#11 ∧ m = 0#52) ∨ ∃ n k pos, fields s m e = .finite s n k pos := by
  unfold fields
  split
  · next low =>
    split
    · next none => exact .inl ⟨low, none⟩
    · next some =>
      exact .inr ⟨_, _, Nat.pos_of_ne_zero fun eq => some (BitVec.eq_of_toNat_eq eq), rfl⟩
  · exact .inr ⟨_, _, Nat.add_pos_left (by decide) _, rfl⟩

/-! ### Floats from their fields -/

def ofFields (e : BitVec 11) : Float :=
  .ofModel (.pack (fields s m e))

theorem ext {x y : Float} (h : x.toBits = y.toBits) : x = y := by
  obtain ⟨⟨bits, valid⟩⟩ := x
  obtain ⟨⟨bits', valid'⟩⟩ := y
  cases h
  rfl

theorem unpack_ofFields (h : e ≠ -1#11) : (ofFields s m e).toModel.unpack = fields s m e := by
  change UnpackedFloat.unpack format
    (UInt64.ofBitVec (UnpackedFloat.pack format (fields s m e))).toBitVec = _
  rw [pack_fields s m h]
  exact unpack_packComponents s m h

theorem toNat_toBits_ofFields (h : e ≠ -1#11) : (ofFields s m e).toBits.toNat =
    s.toBitVec.toNat * 2 ^ 63 + e.toNat * 2 ^ 52 + m.toNat := by
  rw [← toNat_packComponents, ← pack_fields s m h]
  rfl

theorem neg_ofFields (h : e ≠ -1#11) : -ofFields s m e = ofFields (-s) m e := by
  change Float.ofModel (.pack (UnpackedFloat.neg (ofFields s m e).toModel.unpack)) = _
  rw [unpack_ofFields s m h, neg_fields]
  rfl

theorem not_isNaN_ofFields (h : e ≠ -1#11) : ¬ (ofFields s m e).isNaN := by
  change (ofFields s m e).toModel.unpack.isNaN ≠ true
  rw [unpack_ofFields s m h]
  unfold fields
  split
  · split <;> exact Bool.false_ne_true
  · exact Bool.false_ne_true

end Fields

theorem zero_eq : (0 : Float) = ofFields .positive 0#52 0#11 := by
  apply ext
  decide

def infinite (s : Sign) : Float :=
  .ofModel (.pack (.infinity s))

theorem isFinite_infinite (s : Sign) : ¬ (infinite s).isFinite := by
  cases s <;> decide

/-- A float that is a number is finite and has fields, or it is infinite. -/
theorem fields_or_infinite {x : Float} (number : ¬ x.isNaN) :
    (∃ s m e, e ≠ -1#11 ∧ x = ofFields s m e) ∨ ∃ s, x = infinite s := by
  have whole := packComponents_unpack x.toBits.toBitVec
  by_cases top : @unpackExponent format x.toBits.toBitVec = -1#11
  · have none : @unpackMantissa format x.toBits.toBitVec = 0#52 := by
      by_contra some
      change (UnpackedFloat.unpack format x.toBits.toBitVec).isNaN ≠ true at number
      delta UnpackedFloat.unpack at number
      dsimp only at number
      rw [if_pos top, if_neg some] at number
      exact number rfl
    rw [top, none] at whole
    exact .inr ⟨_, ext (congrArg UInt64.ofBitVec whole.symm)⟩
  · refine .inl ⟨.ofBitVec (@unpackSign format x.toBits.toBitVec),
      @unpackMantissa format x.toBits.toBitVec, _, top, ext ?_⟩
    change _ = UInt64.ofBitVec (UnpackedFloat.pack format (fields _ _ _))
    rw [pack_fields _ _ top, whole]

theorem exists_fields {x : Float} (finite : x.isFinite) :
    ∃ s m e, e ≠ -1#11 ∧ x = ofFields s m e := by
  have number : ¬ x.isNaN := by
    change x.toModel.unpack.isNaN ≠ true
    change x.toModel.unpack.isFinite = true at finite
    intro nan
    cases value : x.toModel.unpack with
    | notANumber =>
      rw [value] at finite
      cases finite
    | _ =>
      rw [value] at nan
      cases nan
  obtain fields | ⟨s, rfl⟩ := fields_or_infinite number
  · exact fields
  · exact absurd finite (isFinite_infinite s)

theorem neg_neg {x : Float} (number : ¬ x.isNaN) : - -x = x := by
  obtain ⟨s, m, e, h, rfl⟩ | ⟨s, rfl⟩ := fields_or_infinite number
  · rw [neg_ofFields s m h, neg_ofFields _ m h]
    cases s <;> rfl
  · cases s <;> exact ext (by decide)

/-- A float with a sign has none when it is negated. -/
theorem IsUnsigned.neg {x : Float} (number : ¬ x.isNaN) (h : ¬ IsUnsigned x) :
    IsUnsigned (-x) := by
  obtain ⟨s, m, e, he, rfl⟩ | ⟨s, rfl⟩ := fields_or_infinite number
  · have hm := m.isLt
    have := e.isLt
    have signed : ¬ (ofFields s m e).toBits.toNat < 2 ^ 63 := fun small => h ⟨number, small⟩
    rw [toNat_toBits_ofFields s m he] at signed
    rw [neg_ofFields s m he]
    refine ⟨not_isNaN_ofFields _ _ he, ?_⟩
    rw [toNat_toBits_ofFields _ m he]
    cases s with
    | positive =>
      change ¬ 0 * 2 ^ 63 + e.toNat * 2 ^ 52 + m.toNat < 2 ^ 63 at signed
      omega
    | negative =>
      change 0 * 2 ^ 63 + e.toNat * 2 ^ 52 + m.toNat < 2 ^ 63
      omega
  · cases s with
    | positive => exact absurd (by decide) h
    | negative => decide

/-! ## Rounding what is exact -/

/-- A significand and an exponent as they stand in a float. -/
structure Fitting (m : Nat) (e : Int) : Prop where
  pos : 0 < m
  small : m < 2 ^ 53
  low : -1074 ≤ e
  high : e ≤ 971
  full : -1074 < e → 2 ^ 52 ≤ m

theorem log2_mul_two_pow {m : Nat} (pos : 0 < m) (j : Nat) : (m * 2 ^ j).log2 = m.log2 + j := by
  rw [Nat.log2_eq_iff (Nat.mul_ne_zero pos.ne' (Nat.two_pow_pos j).ne')]
  constructor
  · rw [Nat.pow_add]
    exact Nat.mul_le_mul_right _ (Nat.log2_self_le pos.ne')
  · rw [show m.log2 + j + 1 = m.log2 + 1 + j by omega, Nat.pow_add]
    exact Nat.mul_lt_mul_of_pos_right Nat.lt_log2_self (Nat.two_pow_pos j)

theorem log2_mul {a b : Nat} (ha : 0 < a) (hb : 0 < b) :
    a.log2 + b.log2 ≤ (a * b).log2 ∧ (a * b).log2 ≤ a.log2 + b.log2 + 1 := by
  have some : a * b ≠ 0 := Nat.mul_ne_zero ha.ne' hb.ne'
  constructor
  · rw [Nat.le_log2 some, Nat.pow_add]
    exact Nat.mul_le_mul (Nat.log2_self_le ha.ne') (Nat.log2_self_le hb.ne')
  · rw [← Nat.lt_succ_iff, Nat.log2_lt some,
      show (a.log2 + b.log2 + 1).succ = a.log2 + 1 + (b.log2 + 1) by omega, Nat.pow_add]
    exact Nat.mul_lt_mul'' Nat.lt_log2_self Nat.lt_log2_self

theorem log2_ten_pow (p : Nat) : (10 ^ p).log2 = (5 ^ p).log2 + p := by
  rw [show 10 = 5 * 2 from rfl, Nat.mul_pow, log2_mul_two_pow (Nat.pow_pos (by decide))]

theorem shiftRight_exact (m j : Nat) :
    ExtendedMantissa.mk (m * 2 ^ j) false false >>> j = ⟨m, false, false⟩ := by
  change Nat.repeat _ _ _ = _
  induction j generalizing m with
  | zero => simp [Nat.repeat]
  | succ j ih =>
    rw [Nat.repeat, Nat.pow_succ', ← Nat.mul_assoc, ih (m * 2)]
    simp [ExtendedMantissa.shiftRightOne]

namespace Fitting

variable {p m : Nat} {e : Int} (f : Fitting m e)

include f

theorem log2_lt : m.log2 < 53 :=
  (Nat.log2_lt f.pos.ne').2 f.small

/-- A fitting number has the exponent that rounding aims at, however it is written. -/
theorem target (j : Nat) :
    format.targetExponent (totalExponent (m * 2 ^ j) (e - j)) = e := by
  rw [totalExponent, log2_mul_two_pow f.pos]
  have bits := f.log2_lt
  have low := f.low
  change max ((m.log2 + j : Nat) + 1 + (e - j) - 53 : Int) (-1074) = e
  by_cases least : e = -1074
  · omega
  · have := (Nat.le_log2 f.pos.ne').2 (f.full (by omega))
    omega

theorem shift (j : Nat) :
    shiftToTargetExponent format (m * 2 ^ j) (e - j) .exact = (⟨m, false, false⟩, e) := by
  have amount : (e - (e - j)).toNat = j := by omega
  rw [shiftToTargetExponent, f.target, shiftToExponent]
  simp only [amount, ExtendedMantissa.ofMantissaAndAccuracy, shiftRight_exact]
  congr 1
  omega

theorem round (s : Sign) (j : Nat) :
    roundWithAccuracy format s (m * 2 ^ j) (e - j) .exact = .finite s m e f.pos := by
  have again := f.shift 0
  rw [Nat.pow_zero, Nat.mul_one, Int.natCast_zero, Int.sub_zero] at again
  simp only [roundWithAccuracy, f.shift, ExtendedMantissa.roundedMantissa,
    ExtendedMantissa.accuracy, Accuracy.roundToNearestEven, again]
  rw [dif_neg f.pos.ne']

end Fitting

/-- A decimal of a moderate size with many places is read by a division. -/
theorem Scaled.toFloat_of_size {digits places : Nat} (some : digits ≠ 0) (many : 22 < places)
    (low : -400 ≤ tenExponent digits.log2 + -(places : Int))
    (high : tenExponent digits.log2 + -(places : Int) ≤ 400) :
    (Scaled.mk digits (-places)).toFloat = .ofModel (.ofScientific digits (-places)) := by
  have sign : decide (-(places : Int) < 0) = true := decide_eq_true (by omega)
  unfold Scaled.toFloat
  rw [if_neg (by simpa [some] using low), if_neg (Int.not_lt.2 high), Float.ofScientific,
    dif_neg (by rw [Int.natAbs_neg, Int.natAbs_natCast]; omega)]
  dsimp only
  rw [sign, if_pos rfl, Int.natAbs_neg, Int.natAbs_natCast, Int.negOfNat_eq]
  rfl

/-- The digits of a float, the last of which is `p` places behind the point. -/
def exactDigits (p m : Nat) (e : Int) : Nat :=
  m * 2 ^ (e + p).toNat * 5 ^ p

namespace Fitting

variable {p m : Nat} {e : Int} (f : Fitting m e)

include f

theorem exactDigits_pos : 0 < exactDigits p m e :=
  Nat.mul_pos (Nat.mul_pos f.pos (Nat.two_pow_pos _)) (Nat.pow_pos (by decide))

theorem log2_exactDigits : m.log2 + (e + p).toNat + (5 ^ p).log2 ≤ (exactDigits p m e).log2 ∧
    (exactDigits p m e).log2 ≤ m.log2 + (e + p).toNat + (5 ^ p).log2 + 1 := by
  have bounds := log2_mul (Nat.mul_pos f.pos (Nat.two_pow_pos (e + p).toNat))
    (Nat.pow_pos (n := p) (show 0 < 5 by decide))
  rwa [log2_mul_two_pow f.pos] at bounds

/-- The quotient of the digits is computed with a place to spare at least, so nothing is lost. -/
theorem divCore (room : 0 ≤ e + p) : ∃ j : Nat,
    divCore format (exactDigits p m e) 0 (10 ^ p) 0 = (m * 2 ^ j, e - j, .exact) := by
  let t := min (0 - 0) (format.targetExponent
    (totalExponent (exactDigits p m e) 0 - totalExponent (10 ^ p) 0))
  have low : t ≤ 0 := Int.min_le_left _ _
  have below : t ≤ e := by
    have digits := (f.log2_exactDigits (p := p)).2
    have bits := f.log2_lt
    have least := f.low
    have bound : t ≤ max (((exactDigits p m e).log2 : Int) + 1 + 0 - (((10 ^ p).log2 : Nat) + 1 + 0)
        - 53) (-1074) :=
      Int.min_le_right _ _
    rw [log2_ten_pow] at bound
    by_cases full : e = -1074
    · omega
    · have := (Nat.le_log2 f.pos.ne').2 (f.full (by omega))
      omega
  have split : exactDigits p m e <<< (0 - 0 - t).toNat = m * 2 ^ (e - t).toNat * 10 ^ p := by
    have place : (e + p).toNat + (0 - 0 - t).toNat = (e - t).toNat + p := by omega
    rw [exactDigits, Nat.shiftLeft_eq, Nat.mul_right_comm, Nat.mul_assoc m, ← Nat.pow_add, place,
      Nat.pow_add, show 10 = 2 * 5 from rfl, Nat.mul_pow]
    simp only [Nat.mul_assoc]
  refine ⟨(e - t).toNat, ?_⟩
  change (exactDigits p m e <<< (0 - 0 - t).toNat / 10 ^ p, t,
    accuracyOfFraction (exactDigits p m e <<< (0 - 0 - t).toNat % 10 ^ p) (10 ^ p)) = _
  rw [split, Nat.mul_div_cancel _ (Nat.pow_pos (by decide)), Nat.mul_mod_left, accuracyOfFraction,
    if_pos rfl]
  congr 2
  omega

theorem ofScientific (room : 0 ≤ e + p) (some : 0 < p) (few : p ≤ 2048) :
    UnpackedFloat.ofScientific format (exactDigits p m e) (-p) = .finite .positive m e f.pos := by
  obtain ⟨j, div⟩ := f.divCore room
  have top : (2 : Int) ^ format.exponentBits = 2048 := rfl
  have places : (- -(p : Int)).toNat = p := by omega
  rw [UnpackedFloat.ofScientific, dif_neg f.exactDigits_pos.ne', top, if_neg (by omega),
    if_neg (by omega), if_neg (by omega)]
  simp only [UnpackedFloat.div, places, div]
  exact f.round _ j

theorem toFloat : (Scaled.mk (exactDigits 1074 m e) (-1074)).toFloat =
    .ofModel (.pack (.finite .positive m e f.pos)) := by
  have five : (5 ^ 1074).log2 = 2493 := by
    rw [Nat.log2_eq_iff (Nat.pow_pos (by decide)).ne']
    decide +kernel
  have digits := f.log2_exactDigits (p := 1074)
  rw [five] at digits
  have bits := f.log2_lt
  have low := f.low
  have high := f.high
  have some := (f.exactDigits_pos (p := 1074)).ne'
  have exact := f.ofScientific (p := 1074) (by omega) (by decide) (by decide)
  generalize exactDigits 1074 m e = d at digits some exact
  change (Scaled.mk d (-(1074 : Nat))).toFloat = _
  rw [Scaled.toFloat_of_size some (by decide) (by unfold tenExponent; omega)
    (by unfold tenExponent; omega)]
  exact congrArg (fun u => Float.ofModel (.pack u)) exact

end Fitting

/-! ## Numerals -/

/-- A numeral of a float without a sign. -/
def exactNumeral (x : Float) : List Char :=
  match x.toModel.unpack with
  | .finite _ m e _ => natural (exactDigits 1074 m e) ++ ['e', '-', '1', '0', '7', '4']
  | .infinity _ => ['1', 'e', '9', '9', '9']
  | _ => ['0', '.', '0']

theorem value_natural (n : Nat) : value (natural n) = n :=
  Nat.ofDigitChars_ten_toDigits

theorem isDigit_of_mem_natural {n : Nat} {c : Char} (h : c ∈ natural n) : isDigit c := by
  have digit := Nat.isDigit_of_mem_toDigits (by decide) (by decide) h
  simp only [Char.isDigit, Bool.and_eq_true, decide_eq_true_eq] at digit
  simpa [isDigit, Char.le_def] using digit

theorem natural_ne_nil (n : Nat) : natural n ≠ [] := by
  unfold natural
  exact Nat.toDigits_ne_nil

/-- A digit is none of the characters that a number has besides its digits. -/
theorem mark_ne_of_mem_natural {n : Nat} {c : Char} (h : c ∈ natural n) :
    c ≠ '_' ∧ c ≠ '.' ∧ c ≠ 'e' ∧ c ≠ 'E' := by
  have digit := isDigit_of_mem_natural h
  refine ⟨?_, ?_, ?_, ?_⟩
  all_goals
    rintro rfl
    exact absurd digit (by decide)

theorem numberLiteral_natural {n : Nat} (small : n < 2 ^ 63) :
    numberLiteral (String.ofList (natural n)) = .ok (.int (Int64.ofNat n)) := by
  have digits : (natural n).filter (· ≠ '_') = natural n :=
    List.filter_eq_self.2 fun c h => by simpa using (mark_ne_of_mem_natural h).1
  have whole : ((natural n).any fun c => c = '.' || c = 'e' || c = 'E') = false := by
    rw [List.any_eq_false]
    intro c h
    simpa [and_assoc] using (mark_ne_of_mem_natural h).2
  unfold numberLiteral
  rw [String.toList_ofList, digits]
  dsimp only
  rw [whole, value_natural, if_neg (by decide)]
  exact if_pos small

theorem fitting_of_unpack {x : Float} {s : Sign} {m : Nat} {e : Int} {pos : 0 < m}
    (h : x.toModel.unpack = .finite s m e pos) : Fitting m e := by
  have finite : x.isFinite := by
    change x.toModel.unpack.isFinite = true
    rw [h]
    rfl
  obtain ⟨s', m', e', he, rfl⟩ := exists_fields finite
  rw [unpack_ofFields s' m' he] at h
  have hm := m'.isLt
  have hl := e'.isLt
  have top : e'.toNat ≠ 2047 := fun eq => he (BitVec.eq_of_toNat_eq eq)
  unfold fields at h
  split at h
  · split at h
    · cases h
    · cases h
      exact ⟨pos, by omega, by omega, by omega, by omega⟩
  · next some =>
    have : e'.toNat ≠ 0 := fun eq => some (BitVec.eq_of_toNat_eq eq)
    cases h
    exact ⟨pos, by omega, by omega, by omega, by omega⟩

theorem numberLiteral_places (digits : Nat) :
    numberLiteral (String.ofList (natural digits ++ ['e', '-', '1', '0', '7', '4'])) =
      .ok (.float (Scaled.mk digits (-1074)).toFloat) := by
  have kept : (natural digits ++ ['e', '-', '1', '0', '7', '4']).filter (· ≠ '_') =
      natural digits ++ ['e', '-', '1', '0', '7', '4'] := by
    rw [List.filter_append, List.filter_eq_self.2 fun c h => by
      simpa using (mark_ne_of_mem_natural h).1]
    rfl
  have plain : ∀ c ∈ natural digits, (!(decide (c = 'e') || decide (c = 'E'))) = true :=
    fun c h => by simpa using (mark_ne_of_mem_natural h).2.2
  have whole : ∀ c ∈ natural digits, decide (c ≠ '.') = true :=
    fun c h => by simpa using (mark_ne_of_mem_natural h).2.1
  have mantissa := run_eq _ _ [] whole (by simp)
  rw [List.append_nil] at mantissa
  have read : floatValue? (natural digits ++ ['e', '-', '1', '0', '7', '4']) =
      some (Scaled.mk digits (-1074)).toFloat := by
    unfold floatValue?
    dsimp only
    rw [List.takeWhile_append_of_pos plain, List.dropWhile_append_of_pos plain]
    simp only [List.takeWhile_cons, List.dropWhile_cons, decide_true, Bool.true_or, Bool.not_true,
      Bool.false_eq_true, if_false, List.append_nil, mantissa]
    rw [List.drop_nil, List.append_nil, value_natural]
    rfl
  unfold numberLiteral
  rw [String.toList_ofList, kept]
  dsimp only
  rw [if_pos (by simp), read]

theorem numberLiteral_ofFields (m : BitVec 52) {e : BitVec 11} (he : e ≠ -1#11) :
    numberLiteral (String.ofList (exactNumeral (ofFields .positive m e))) =
      .ok (.float (ofFields .positive m e)) := by
  have unpacked := unpack_ofFields .positive m he
  obtain ⟨rfl, rfl⟩ | ⟨n, k, pos, shape⟩ := fields_cases .positive m e
  · have numeral : exactNumeral (ofFields .positive 0#52 0#11) = ['0', '.', '0'] := by
      unfold exactNumeral
      rw [unpacked]
      rfl
    rw [numeral, ← zero_eq]
    rfl
  · rw [shape] at unpacked
    have numeral : exactNumeral (ofFields .positive m e) =
        natural (exactDigits 1074 n k) ++ ['e', '-', '1', '0', '7', '4'] := by
      unfold exactNumeral
      rw [unpacked]
    have fit : Fitting n k := fitting_of_unpack unpacked
    have meant := fit.toFloat
    rw [← shape] at meant
    rw [numeral, numberLiteral_places]
    exact congrArg (fun y => Except.ok (Literal.float y)) meant

theorem numberLiteral_infinite : numberLiteral (String.ofList ['1', 'e', '9', '9', '9']) =
    .ok (.float (infinite .positive)) := by
  have large : (1 / 0 : Float) = infinite .positive := ext (by decide)
  rw [← large]
  rfl

/-- The numeral of a float without a sign reads as the float. -/
theorem numberLiteral_exactNumeral {x : Float} (h : IsUnsigned x) :
    numberLiteral (String.ofList (exactNumeral x)) = .ok (.float x) := by
  have small := h.unsigned
  obtain ⟨s, m, e, he, rfl⟩ | ⟨s, rfl⟩ := fields_or_infinite h.number
  · rw [toNat_toBits_ofFields s m he] at small
    cases s with
    | negative =>
      change 1 * 2 ^ 63 + e.toNat * 2 ^ 52 + m.toNat < 2 ^ 63 at small
      omega
    | positive => exact numberLiteral_ofFields m he
  · cases s with
    | negative => exact absurd small (by decide)
    | positive =>
      have numeral : exactNumeral (infinite .positive) = ['1', 'e', '9', '9', '9'] := by
        decide
      rw [numeral, numberLiteral_infinite]

theorem numeral_natural_append (n : Nat) {exponent : List Char} (h : Exponent exponent) :
    Numeral (natural n ++ exponent) := by
  obtain ⟨c, cs, split⟩ := List.exists_cons_of_ne_nil (natural_ne_nil n)
  have digits : ∀ d ∈ c :: cs, isDigit d := fun d h => isDigit_of_mem_natural (split ▸ h)
  refine ⟨c, cs, [], exponent, digits c List.mem_cons_self, fun d h => ?_, .inl rfl, h, ?_⟩
  · simp [isDigitOrGap, digits d (List.mem_cons_of_mem c h)]
  · rw [split]
    rfl

theorem numeral_natural (n : Nat) : Numeral (natural n) := by
  simpa using numeral_natural_append n (.inl rfl)

theorem numeral_exactNumeral (x : Float) : Numeral (exactNumeral x) := by
  unfold exactNumeral
  split
  · exact numeral_natural_append _
      (.inr ⟨'e', ['-'], ['1', '0', '7', '4'], .inl rfl, by simp, by simp [isDigit], rfl⟩)
  · exact ⟨'1', [], [], ['e', '9', '9', '9'], by decide, by simp, .inl rfl,
      .inr ⟨'e', [], ['9', '9', '9'], .inl rfl, by simp, by simp [isDigit], rfl⟩, rfl⟩
  · exact ⟨'0', [], ['.', '0'], [], by decide, by simp, .inr ⟨'0', [], by decide, by simp, rfl⟩,
      .inl rfl, rfl⟩

end LayerScript.Decimal
