import LayerScript.Proofs.Decimal.Sizes
import LayerScript.Proofs.Json.RoundTrip

/-!
# What the reader gives

A document that has been read has only finite floats and no object with a key twice, and is nested
no deeper than the reader goes.
-/

namespace LayerScript.Json

open LayerScript.Decimal
open Float.Model Float.Model.UnpackedFloat

/-! ## Numbers -/

/-- A number that is not written with a short significand is a product of two numbers. -/
theorem ofScientific_large {m e : Nat} (h : ¬ (m < 2 ^ 53 ∧ e ≤ 22)) (some : m ≠ 0)
    (small : e ≤ 2048) : (OfScientific.ofScientific m false e : Float) =
      .ofModel (.pack (UnpackedFloat.mul format
        (.finite .positive (m <<< 53) (-53) (Nat.shiftLeft_pos_iff.2 (Nat.pos_of_ne_zero some)))
        (.finite .positive (10 ^ e) 0 (Nat.pow_pos (by decide))))) := by
  change Float.ofScientific m false e = _
  rw [Float.ofScientific, dif_neg h]
  change Float.ofModel (.pack (UnpackedFloat.ofScientific format m e)) = _
  rw [UnpackedFloat.ofScientific, dif_neg some, if_neg (by change ¬ 2048 < (e : Int); omega),
    if_neg (by change ¬ (e : Int) < -(2048 + m.log2); omega), if_pos (Int.natCast_nonneg e)]
  rfl

theorem log2_ten_pow_le (p : Nat) : 3 * (10 ^ p).log2 ≤ 10 * p := by
  have some : 10 ^ p ≠ 0 := (Nat.pow_pos (by decide)).ne'
  have cube : 2 ^ (3 * (10 ^ p).log2) ≤ 2 ^ (10 * p) :=
    calc 2 ^ (3 * (10 ^ p).log2) = (2 ^ (10 ^ p).log2) ^ 3 := by rw [Nat.mul_comm, Nat.pow_mul]
      _ ≤ (10 ^ p) ^ 3 := Nat.pow_le_pow_left (Nat.log2_self_le some) 3
      _ = (10 ^ 3) ^ p := by rw [← Nat.pow_mul, ← Nat.pow_mul, Nat.mul_comm]
      _ ≤ (2 ^ 10) ^ p := Nat.pow_le_pow_left (by decide) p
      _ = 2 ^ (10 * p) := (Nat.pow_mul ..).symm
  exact (Nat.pow_le_pow_iff_right (by decide)).1 cube

/-- A power of ten as large as the reader uses has all its bits. -/
theorem full_tenTo {p : Nat} (h : p ≤ 308) : Full (-53) 971 (tenTo p).toModel.unpack := by
  have ends : ∀ q ∈ 307 :: 308 :: List.range 23, Full (-53) 971 (tenTo q).toModel.unpack := by
    decide +kernel
  by_cases special : p = 307 ∨ p = 308 ∨ p < 23
  · apply ends p
    simpa using special
  have size := log2_ten_pow_le p
  have digits : (1 <<< 53 * 10 ^ p).log2 = 53 + (10 ^ p).log2 := by
    rw [Nat.shiftLeft_eq, Nat.one_mul, Nat.mul_comm,
      log2_mul_two_pow (Nat.pow_pos (by decide)), Nat.add_comm]
  change Full (-53) 971 (OfScientific.ofScientific 1 false p : Float).toModel.unpack
  rw [ofScientific_large (by omega) (by decide) (by omega), unpack_ofModel]
  have full := full_round .positive (m := 1 <<< 53 * 10 ^ p) (e := -53 + 0) (by omega) (by decide)
  exact full_unpack_pack (full.mono (by decide) (by rw [totalExponent]; omega)) (by decide)
    (by decide)

/-- A whole number is rounded to one that is no larger than its bits allow. -/
theorem rounded_ofNat {n : Nat} (h : n < 2 ^ 64) : Rounded 64 (UnpackedFloat.ofNat format n) := by
  rcases Nat.eq_zero_or_pos n with rfl | pos
  · exact .zero _
  have size : n.log2 < 64 := (Nat.log2_lt pos.ne').2 h
  unfold UnpackedFloat.ofNat UnpackedFloat.ofInt UnpackedFloat.normalize
  rw [Int.compare_eq_gt.2 (by omega)]
  simp only [Int.toNat_natCast, UnpackedFloat.round, decreaseExponent]
  refine (rounded_round ..).mono ?_
  rw [totalExponent, Nat.shiftLeft_eq, log2_mul_two_pow pos]
  omega

theorem bounded_ofNat {n : Nat} (h : n < 2 ^ 64) : Bounded 200 (Float.ofNat n).toModel.unpack := by
  by_cases short : n < 2 ^ 53
  · have one : Full (-52) (-52) (Float.ofBits 4607182418800017408).toModel.unpack := by
      decide +kernel
    have product : Float.ofNat n =
        Float.ofModel (.pack (UnpackedFloat.ofNat format n.toUInt64.toNat)) *
          Float.ofBits 4607182418800017408 := by
      change Float.ofScientific n false 0 = _
      rw [Float.ofScientific, dif_pos ⟨short, by decide⟩]
      rfl
    have whole : Bounded 64 (Float.ofModel
        (.pack (UnpackedFloat.ofNat format n.toUInt64.toNat))).toModel.unpack := by
      rw [unpack_ofModel]
      exact bounded_unpack_pack (rounded_ofNat n.toUInt64.toNat_lt) (by decide) (by decide)
    rw [product]
    exact (bounded_mul whole one (by decide) (by decide)).mono (by decide)
  · have some : n ≠ 0 := by omega
    change Bounded 200 (OfScientific.ofScientific n false 0 : Float).toModel.unpack
    rw [ofScientific_large (by omega) some (by decide), unpack_ofModel]
    have size : n.log2 < 64 := (Nat.log2_lt some).2 h
    have shifted : (n <<< 53).log2 = n.log2 + 53 := by
      rw [Nat.shiftLeft_eq, log2_mul_two_pow (Nat.pos_of_ne_zero some)]
    have one : (10 ^ 0).log2 = 0 := by decide
    have rounded := rounded_mul .positive .positive (-53) 0
      (Nat.shiftLeft_pos_iff.2 (Nat.pos_of_ne_zero some) : 0 < n <<< 53)
      (Nat.pow_pos (by decide) : 0 < 10 ^ 0)
    rw [shifted, one] at rounded
    exact bounded_unpack_pack (rounded.mono (by omega)) (by decide) (by decide)

theorem isFinite_ofNat {n : Nat} (h : n < 2 ^ 64) : (Float.ofNat n).isFinite :=
  (bounded_ofNat h).isFinite

theorem isFinite_divideByPower {n : Nat} (h : n < 2 ^ 64) (p : Nat) :
    (divideByPower (Float.ofNat n) p).isFinite := by
  have whole := bounded_ofNat h
  have most := full_tenTo (Nat.le_refl 308)
  unfold divideByPower
  generalize tenTo 308 = largest at most
  split
  · next small =>
    exact (bounded_div whole (full_tenTo small) (by decide) (by decide)).isFinite
  · split
    · have once := bounded_div whole most (by decide) (by decide)
      exact (bounded_div once (full_tenTo (p := p - 308) (by omega)) (by decide)
        (by decide)).isFinite
    · decide

theorem isFinite_of_scale? {n : Nat} (h : n < 2 ^ 64) {e : Int} {x : Float}
    (scaled : scale? n e = some x) : x.isFinite := by
  unfold scale? at scaled
  dsimp only at scaled
  split at scaled
  · obtain rfl := Option.some.inj scaled
    exact isFinite_divideByPower h _
  · split at scaled
    · next small =>
      split at scaled
      · cases scaled
      · next number =>
        obtain rfl := Option.some.inj scaled
        exact isFinite_mul (bounded_ofNat h) (full_tenTo (by omega)) number
    · split at scaled
      · obtain rfl := Option.some.inj scaled
        exact isFinite_ofNat h
      · cases scaled

/-! ## Documents -/

/-- Only finite floats, and no object with a key twice. -/
inductive Proper : Json → Prop
  | null : Proper .null
  | bool (b : Bool) : Proper (.bool b)
  | int (n : Int64) : Proper (.int n)
  | float {x : Float} (finite : x.isFinite) : Proper (.float x)
  | string (s : String) : Proper (.string s)
  | array {js : List Json} (items : ∀ j ∈ js, Proper j) : Proper (.array js)
  | object {es : List (String × Json)} (keys : (es.map Prod.fst).Nodup)
      (entries : ∀ e ∈ es, Proper e.2) : Proper (.object es)

/-- What is read with fewer than `room` containers in one another. -/
structure Fits (room : Nat) (j : Json) : Prop where
  proper : j.Proper
  nesting : j.nesting < room

theorem Fits.mono {room more : Nat} {j : Json} (h : Fits room j) (le : room ≤ more) :
    Fits more j :=
  ⟨h.proper, Nat.lt_of_lt_of_le h.nesting le⟩

/-- The reader gives nothing else than documents that fit. -/
def Gives (room : Nat) (answer : Except Fault (Json × Cursor)) : Prop :=
  ∀ j behind, answer = .ok (j, behind) → Fits room j

section Gives

variable {room : Nat} {answer : Except Fault (Json × Cursor)}

theorem Gives.ok {j : Json} (h : Fits room j) (behind : Cursor) : Gives room (.ok (j, behind)) := by
  rintro _ _ same
  cases same
  exact h

theorem Gives.error (fault : Fault) : Gives room (.error fault) :=
  nofun

theorem Gives.bind {α : Type} {x : Except Fault α} {f : α → Except Fault (Json × Cursor)}
    (h : ∀ a, x = .ok a → Gives room (f a)) : Gives room (x >>= f) := by
  cases x with
  | ok a => exact h a rfl
  | error fault => exact .error fault

theorem Gives.map {α : Type} {x : Except Fault α} {f : α → Json × Cursor}
    (h : ∀ a, Fits room (f a).1) : Gives room (x.map f) := by
  cases x with
  | ok a => exact .ok (h a) _
  | error fault => exact .error fault

/-- A scalar fits wherever a value can be read. -/
theorem Fits.scalar {j : Json} (proper : j.Proper) (flat : j.nesting = 0) (some : 0 < room) :
    Fits room j :=
  ⟨proper, flat ▸ some⟩

theorem Fits.float {x : Float} (finite : x.isFinite) (some : 0 < room) :
    Fits room (.float x) :=
  .scalar (.float finite) rfl some

theorem Fits.array {js : List Json} (some : 0 < room) (h : ∀ j ∈ js, Fits room j) :
    Fits (room + 1) (.array js) where
  proper := .array fun j hj => (h j hj).proper
  nesting := Nat.succ_lt_succ ((nestingOfItems_lt some).2 fun j hj => (h j hj).nesting)

theorem Fits.object {es : List (String × Json)} (some : 0 < room) (keys : (es.map Prod.fst).Nodup)
    (h : ∀ e ∈ es, Fits room e.2) : Fits (room + 1) (.object es) where
  proper := .object keys fun e he => (h e he).proper
  nesting := Nat.succ_lt_succ ((nestingOfEntries_lt some).2 fun e he => (h e he).nesting)

/-- A container that fits was read with room for one level less. -/
theorem Fits.items {js : List Json} (h : Fits (room + 1) (.array js)) : ∀ j ∈ js, Fits room j := by
  obtain ⟨proper, nesting⟩ := h
  have inner := Nat.succ_lt_succ_iff.1 nesting
  have some := Nat.lt_of_le_of_lt (Nat.zero_le _) inner
  cases proper with
  | array items =>
    exact fun j hj => ⟨items j hj, (nestingOfItems_lt some).1 inner j hj⟩

theorem Fits.entries {es : List (String × Json)} (h : Fits (room + 1) (.object es)) :
    ∀ e ∈ es, Fits room e.2 := by
  obtain ⟨proper, nesting⟩ := h
  have inner := Nat.succ_lt_succ_iff.1 nesting
  have some := Nat.lt_of_le_of_lt (Nat.zero_le _) inner
  cases proper with
  | object keys entries =>
    exact fun e he => ⟨entries e he, (nestingOfEntries_lt some).1 inner e he⟩

end Gives

/-! ### Words and numbers -/

theorem gives_word {room : Nat} {result : Json} (fits : Fits room result) (expected : List Char)
    (cur : Cursor) : Gives room (word result expected cur) := by
  induction expected generalizing cur with
  | nil => exact .ok fits cur
  | cons e more ih =>
    unfold word
    split
    · exact .error _
    · split
      · exact ih _
      · exact .error _

section Numbers

variable {room : Nat} (some : 0 < room) {negative : Bool} {n : Nat} (h : n < 2 ^ 64)

include some

theorem fits_signed {x : Float} (finite : x.isFinite) : Fits room (signed negative x) := by
  unfold signed
  split
  · exact .float (isFinite_neg finite) some
  · exact .float finite some

include h

theorem gives_scaled (e : Int) (cur : Cursor) : Gives room (scaled negative n e cur) := by
  unfold scaled
  split
  · next scaled => exact .ok (fits_signed some (isFinite_of_scale? h scaled)) cur
  · exact .error _

theorem gives_exponentDigits (e : Int) (down : Bool) (size : Nat) (cs : List Char)
    (offset : Nat) : Gives room (exponentDigits negative n e down size cs offset) := by
  induction cs generalizing size offset with
  | nil => exact gives_scaled some h _ _
  | cons c cs ih =>
    unfold exponentDigits
    dsimp only
    split
    · split
      · exact ih _ _
      · split
        · exact .ok (fits_signed some (by decide)) _
        · exact .error _
    · exact gives_scaled some h _ _

theorem gives_exponentPart (e : Int) (cur : Cursor) :
    Gives room (exponentPart negative n e cur) := by
  unfold exponentPart
  split
  split
  · exact .error _
  · split
    · exact gives_exponentDigits some h _ _ _ _ _
    · exact .error _

theorem gives_afterDigits (e : Int) (cur : Cursor) :
    Gives room (afterDigits negative n e cur) := by
  unfold afterDigits
  split
  · exact gives_exponentPart some h _ _
  · exact gives_exponentPart some h _ _
  · exact gives_scaled some h _ _

omit some in
/-- Digits are taken as long as the significand has room for them. -/
theorem takeDigits_lt (cs : List Char) : (takeDigits n cs).1 < 2 ^ 64 := by
  induction cs generalizing n with
  | nil => exact h
  | cons c cs ih =>
    unfold takeDigits
    dsimp only
    split
    · next more =>
      rw [Bool.and_eq_true, decide_eq_true_eq] at more
      exact ih more.2
    · exact h

theorem gives_fractionPart (e : Int) (cur : Cursor) :
    Gives room (fractionPart negative n e cur) := by
  have small := takeDigits_lt h cur.rest
  unfold fractionPart
  generalize takeDigits n cur.rest = taken at small
  obtain ⟨m, count, rest⟩ := taken
  dsimp only
  split
  · exact .error _
  · exact gives_afterDigits some small _ _

theorem fits_integerJson : Fits room (integerJson negative n) := by
  unfold integerJson
  split
  · split
    · exact .float (isFinite_neg (isFinite_ofNat h)) some
    · exact .scalar (.int _) rfl some
  · split
    · exact .scalar (.int _) rfl some
    · exact .float (isFinite_ofNat h) some

omit h

theorem gives_number (cur : Cursor) : Gives room (number negative cur) := by
  have none : 0 < 2 ^ 64 := Nat.two_pow_pos 64
  unfold number
  split
  · exact .error _
  · next c cs _ =>
    split
    · dsimp only
      split
      · exact gives_fractionPart some none _ _
      · exact gives_exponentPart some none _ _
      · exact gives_exponentPart some none _ _
      · split
        · exact .error _
        · exact .ok (fits_integerJson some none) _
      · exact .ok (fits_integerJson some none) _
    · split
      · have small := takeDigits_lt none (c :: cs)
        generalize takeDigits 0 (c :: cs) = taken at small
        obtain ⟨m, count, rest⟩ := taken
        dsimp only
        split
        · exact gives_fractionPart some small _ _
        · exact gives_exponentPart some small _ _
        · exact gives_exponentPart some small _ _
        · split
          · exact .ok (fits_integerJson some small) _
          · exact gives_scaled some small _ _
      · exact .error _

end Numbers

/-! ### Containers -/

/-- What the functions of the reader give on the same fuel. -/
structure GivesAll (fuel : Nat) : Prop where
  value {room : Nat} (some : 0 < room) (cur : Cursor) : Gives room (value fuel room cur)
  firstItem {room : Nat} (some : 0 < room) (cur : Cursor) :
    Gives (room + 1) (firstItem fuel room cur)
  moreItems {room : Nat} (some : 0 < room) {read : List Json} (before : ∀ j ∈ read, Fits room j)
    (cur : Cursor) : Gives (room + 1) (moreItems fuel room read cur)
  firstEntry {room : Nat} (some : 0 < room) (cur : Cursor) :
    Gives (room + 1) (firstEntry fuel room cur)
  moreEntries {room : Nat} (some : 0 < room) {read : Dict Json}
    (before : ∀ j ∈ read.values, Fits room j) (cur : Cursor) :
    Gives (room + 1) (moreEntries fuel room read cur)

section Steps

variable {fuel room : Nat} (h : GivesAll fuel) (some : 0 < room)

include h some

theorem value_step (cur : Cursor) : Gives room (value (fuel + 1) room cur) := by
  unfold value
  dsimp only
  split
  · exact .error _
  split
  · exact gives_word (.scalar .null rfl some) _ _
  split
  · exact gives_word (.scalar (.bool true) rfl some) _ _
  split
  · exact gives_word (.scalar (.bool false) rfl some) _ _
  split
  · exact gives_number some _
  split
  · exact gives_number some _
  split
  · exact .map fun _ => .scalar (.string _) rfl some
  -- A container is read with room for one level less.
  have inner (deep : ¬ room ≤ 1) : 0 < room - 1 ∧ room - 1 + 1 = room := by omega
  split
  · split
    · exact .error _
    · next deep => exact (inner deep).2 ▸ h.firstItem (inner deep).1 _
  split
  · split
    · exact .error _
    · next deep => exact (inner deep).2 ▸ h.firstEntry (inner deep).1 _
  · exact .error _

theorem firstItem_step (cur : Cursor) : Gives (room + 1) (firstItem (fuel + 1) room cur) := by
  unfold firstItem
  dsimp only
  split
  · exact .error _
  split
  · exact .ok (.array some fun _ hj => absurd hj List.not_mem_nil) _
  · refine .bind fun answer read => ?_
    exact h.moreItems some (List.forall_mem_singleton.2 (h.value some _ _ _ read)) answer.2

theorem moreItems_step {read : List Json} (before : ∀ j ∈ read, Fits room j) (cur : Cursor) :
    Gives (room + 1) (moreItems (fuel + 1) room read cur) := by
  unfold moreItems
  dsimp only
  split
  · exact .error _
  split
  · exact .ok (.array some fun j hj => before j (List.mem_reverse.1 hj)) _
  split
  · split
    · exact .error _
    split
    · exact .error _
    · refine .bind fun answer found => ?_
      exact h.moreItems some (List.forall_mem_cons.2 ⟨h.value some _ _ _ found, before⟩) answer.2
  · exact .error _

theorem firstEntry_step (cur : Cursor) : Gives (room + 1) (firstEntry (fuel + 1) room cur) := by
  unfold firstEntry
  dsimp only
  split
  · exact .error _
  split
  · have keys : (([] : List (String × Json)).map Prod.fst).Nodup := List.nodup_nil
    exact .ok (.object some keys fun _ he => absurd he List.not_mem_nil) _
  · refine .bind fun name _ => .bind fun answer found => ?_
    refine h.moreEntries some (fun j hj => ?_) answer.2
    rcases Dict.mem_values_insert hj with rfl | hj
    · exact h.value some _ _ _ found
    · exact absurd hj List.not_mem_nil

theorem moreEntries_step {read : Dict Json} (before : ∀ j ∈ read.values, Fits room j)
    (cur : Cursor) : Gives (room + 1) (moreEntries (fuel + 1) room read cur) := by
  unfold moreEntries
  dsimp only
  split
  · exact .error _
  split
  · exact .ok (.object some read.nodup_keys fun e he =>
      before e.2 (List.mem_map_of_mem he)) _
  split
  · refine .bind fun name _ => .bind fun answer found => ?_
    refine h.moreEntries some (fun j hj => ?_) answer.2
    rcases Dict.mem_values_insert hj with rfl | hj
    · exact h.value some _ _ _ found
    · exact before j hj
  · exact .error _

end Steps

theorem givesAll (fuel : Nat) : GivesAll fuel := by
  induction fuel with
  | zero =>
    constructor
    all_goals
      intros
      simp only [value, firstItem, moreItems, firstEntry, moreEntries]
      exact .error _
  | succ fuel ih =>
    exact ⟨value_step ih, firstItem_step ih, moreItems_step ih, firstEntry_step ih,
      moreEntries_step ih⟩

/-- What has been read is proper and nested no deeper than the reader goes. -/
theorem fits_of_read {text : String} {j : Json} (h : read text = .ok j) : Fits 128 j := by
  unfold read at h
  split at h
  · next read =>
    cases h
    unfold document at read
    cases found : value (2 * text.toList.length + 2) 128 ⟨0, text.toList⟩ with
    | error fault =>
      rw [found] at read
      cases read
    | ok answer =>
      rw [found] at read
      change ite _ _ _ = _ at read
      split at read
      · cases read
        exact (givesAll _).value (by decide) _ _ _ found
      · cases read
  · cases h

/-- What has been read can be printed and read again, if its floats can. -/
theorem Proper.readable {j : Json} (h : j.Proper)
    (legible : ∀ x ∈ j.floats, x.isFinite → Legible x) : j.Readable := by
  induction h with
  | null => exact .null
  | bool b => exact .bool b
  | int n => exact .int n
  | float finite => exact .float (legible _ (by simp [floats]) finite)
  | string s => exact .string s
  | array items ih =>
    exact .array fun j hj => ih j hj fun x hx => legible x (mem_floatsOfItems.2 ⟨j, hj, hx⟩)
  | object keys entries ih =>
    exact .object keys fun e he => ih e he fun x hx =>
      legible x (mem_floatsOfEntries.2 ⟨e, he, hx⟩)

end LayerScript.Json
