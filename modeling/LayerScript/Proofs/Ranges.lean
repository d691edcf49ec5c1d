import LayerScript.Proofs.Guarded

/-!
# Ranges

A range is what a counter goes through before it has come to its end. The numbers are computed
without a counter, from how many of them there are; here they are those of the counter, which adds
the step to itself and never leaves the integers. A counter with another step than one can leave
them when it comes to its end, and then nothing is said.
-/

namespace LayerScript

variable {σ : Type}

/-! ## The numbers of a range -/

/-- The counter stays an integer until it has come to its end. -/
def Stays (start stop step : Int) : Prop :=
  ∀ k : Nat, Before stop step (start + k * step) → Fits (start + (k + 1) * step)

section

variable {start stop step : Int}

/-- There are as many numbers as lie before the end. -/
theorem lt_length_stepsBetween (nonzero : step ≠ 0) (k : Nat) :
    k < (stepsBetween start stop step).length ↔ Before stop step (start + k * step) := by
  simp only [stepsBetween, Before, List.length_map, List.length_range]
  have size : 0 < (step.natAbs : Int) := by omega
  have few (span : Int) : k < ((span + step.natAbs - 1) / step.natAbs).toNat ↔
      k * (step.natAbs : Int) < span := by
    rw [Int.lt_toNat, ← Int.add_one_le_iff, Int.le_ediv_iff_mul_le size, Int.add_mul]
    omega
  rw [few]
  obtain up | down := Int.lt_or_gt_of_ne nonzero.symm
  · rw [if_pos (Int.le_of_lt up), Int.natAbs_of_nonneg (Int.le_of_lt up)]
    omega
  · rw [if_neg (by omega), Int.ofNat_natAbs_of_nonpos (by omega), Int.mul_neg]
    omega

theorem getElem?_stepsBetween (start stop step : Int) {k : Nat} {n : Int}
    (h : (stepsBetween start stop step)[k]? = some n) : n = start + k * step := by
  obtain ⟨bound, rfl⟩ := List.getElem?_eq_some_iff.1 h
  simp [stepsBetween]

/-- A counter that goes on from the last number before the end stays an integer. -/
theorem fits_counterEnd (nonzero : step ≠ 0) (within : Fits start)
    (stays : Stays start stop step) : Fits (counterEnd start stop step) := by
  unfold counterEnd
  cases length : (stepsBetween start stop step).length with
  | zero => simpa using within
  | succ k =>
    have inside : k < (stepsBetween start stop step).length := by omega
    exact_mod_cast stays k ((lt_length_stepsBetween nonzero k).1 inside)

end

/-- The numbers of a range, which are all integers. -/
theorem toInt_of_getElem? {start stop step : Int64} (nonzero : step.toInt ≠ 0) {k : Nat}
    {n : Int64}
    (h : ((stepsBetween start.toInt stop.toInt step.toInt).map Int64.ofInt)[k]? = some n) :
    n.toInt = start.toInt + k * step.toInt := by
  rw [List.getElem?_map] at h
  obtain ⟨i, found, rfl⟩ := Option.map_eq_some_iff.1 h
  have bound := (List.getElem?_eq_some_iff.1 found).1
  obtain rfl := getElem?_stepsBetween _ _ _ found
  -- it lies between the start and the end, which are integers
  have before := (lt_length_stepsBetween nonzero k).1 bound
  refine toInt_ofInt_of_fits ?_
  have := fits_toInt start
  have := fits_toInt stop
  have sign : 0 ≤ (k : Int) := Int.natCast_nonneg k
  unfold Before at before
  unfold Fits at *
  obtain ⟨up, below⟩ | ⟨down, above⟩ := before
  · have := Int.mul_nonneg sign (Int.le_of_lt up)
    omega
  · have := Int.mul_nonpos_of_nonneg_of_nonpos sign (Int.le_of_lt down)
    omega

/-- A counter that stays an integer comes to its end after these numbers. -/
theorem exists_counted {start stop step : Int64} (nonzero : step.toInt ≠ 0)
    (fits : Fits (counterEnd start.toInt stop.toInt step.toInt)) :
    ∃ room, counted stop step room start =
      some ((stepsBetween start.toInt stop.toInt step.toInt).map Int64.ofInt) :=
  ⟨_, (Plain.counted_start nonzero).trans (if_pos fits)⟩

/-- A new array of new integers, and nothing else is different. -/
structure Store.Counts (s : Store) (r : Ref) (ns : List Int64) (t : Store) : Prop where
  grows : s.Grows t
  array : ∃ items, s.MadeFrom t (.array items) r ∧
    List.Forall₂ (fun n q => s.MadeFrom t (.int n) q) ns items.toList

theorem Store.counts_newInts (s : Store) (ns : List Int) :
    s.Counts (Plain.newInts ns s).1 (ns.map Int64.ofInt) (Plain.newInts ns s).2 := by
  obtain ⟨grown, items, array, made⟩ := s.newArray_made (ns.map fun n => .int (Int64.ofInt n))
  rw [List.forall₂_map_left_iff] at made
  exact ⟨grown, items, array, List.forall₂_map_left_iff.2 made⟩

/-! ## Native functions -/

namespace Run

variable {out : Sink σ} {m : Machine σ} {a b c : Ref} {start stop step : Int64}

theorem range_answers (first : m.store.cell a = .int start) (last : m.store.cell b = .int stop) :
    let numbers := Plain.newInts
      (stepsBetween start.toInt stop.toInt (if start ≤ stop then 1 else -1)) m.store
    Gives out m .range [a, b] (.done numbers.1 { m with store := numbers.2 }) := by
  refine gives_of_ok (Plain.newInts _) ?_
  simp [Plain.run, Plain.runRange, Store.intOf, first, last, bind, Except.bind, pure, Except.pure]

theorem rangeStep_answers (first : m.store.cell a = .int start)
    (last : m.store.cell b = .int stop) (size : m.store.cell c = .int step) (nonzero : step ≠ 0) :
    let numbers := Plain.newInts (stepsBetween start.toInt stop.toInt step.toInt) m.store
    Gives out m .rangeStep [a, b, c] (.done numbers.1 { m with store := numbers.2 }) := by
  refine gives_of_ok (Plain.newInts _) ?_
  have numbers := Plain.runRangeStep_of_ok (Plain.intOf_eq_ok_iff.2 first)
    (Plain.intOf_eq_ok_iff.2 last) (Plain.intOf_eq_ok_iff.2 size)
  rw [if_neg nonzero] at numbers
  exact numbers

/-- A range holds what a counter goes through before it has come to its end. With a step of one in
the direction of the end there are as many numbers as the ends are apart, and the counter always
stays an integer. With another step there are as many as lie before the end. -/
theorem ranges_count (out : Sink σ) (m : Machine σ) (first : m.store.cell a = .int start)
    (last : m.store.cell b = .int stop) :
    (∃ ns r t, Gives out m .range [a, b] (.done r { m with store := t }) ∧
      m.store.Counts r ns t ∧
      (∃ room, counted stop (if start ≤ stop then 1 else -1) room start = some ns) ∧
      ns.length = (stop.toInt - start.toInt).natAbs ∧
      ∀ (k : Nat) n, ns[k]? = some n →
        n.toInt = if start ≤ stop then start.toInt + k else start.toInt - k) ∧
    ∀ c step, m.store.cell c = .int step → step ≠ 0 → Stays start.toInt stop.toInt step.toInt →
      ∃ ns r t, Gives out m .rangeStep [a, b, c] (.done r { m with store := t }) ∧
        m.store.Counts r ns t ∧
        (∃ room, counted stop step room start = some ns) ∧
        (∀ k : Nat, k < ns.length ↔
          Before stop.toInt step.toInt (start.toInt + k * step.toInt)) ∧
        (∀ (k : Nat) n, ns[k]? = some n → n.toInt = start.toInt + k * step.toInt) ∧
        (¬ Before stop.toInt step.toInt start.toInt → ns = []) := by
  constructor
  · have direction : (if start ≤ stop then 1 else -1 : Int64).toInt =
        if start ≤ stop then 1 else -1 := by
      split <;> rfl
    have nonzero : (if start ≤ stop then 1 else -1 : Int64).toInt ≠ 0 := by
      split <;> decide
    have fits := fits_counterEnd_range start stop
    rw [← direction] at fits
    have answer : Gives out m .range [a, b] _ := range_answers first last
    rw [← direction] at answer
    refine ⟨_, _, _, answer, m.store.counts_newInts _, exists_counted nonzero fits, ?_, ?_⟩
    · rw [List.length_map, direction, length_stepsBetween_range]
    · intro k n found
      rw [toInt_of_getElem? nonzero found, direction]
      split <;> omega
  · intro c step size nonzero stays
    have some : step.toInt ≠ 0 := fun zero => nonzero (Int64.toInt_inj.1 zero)
    refine ⟨_, _, _, rangeStep_answers first last size nonzero, m.store.counts_newInts _,
      exists_counted some (fits_counterEnd some (fits_toInt start) stays), fun k => ?_,
      fun k n => toInt_of_getElem? some, fun ended => ?_⟩
    · rw [List.length_map]
      exact lt_length_stepsBetween some k
    · rw [stepsBetween_of_not_before some ended, List.map_nil]

/-- The functions that count. -/
def abacus : Machine Unit where
  store := ⟨#[.native (.plain .range), .native (.plain .rangeStep)], #[], 2⟩
  scope := ⟨0⟩
  globals := ⟨0⟩
  receiver := .cell 0
  strict := false
  depth := 0
  callSite := none
  sink := ()

/-- Three numbers down, and three from the least integer on, the last of them next to the end. -/
theorem ranges_count_abacus :
    let out : Sink Unit := ⟨fun _ _ _ k => some (.ok (), k)⟩
    let far := Int64.ofInt (2 ^ 62)
    let a := Ref.scalar 0 (.int 3)
    let b := Ref.scalar 1 (.int 0)
    let c := Ref.scalar 2 (.int Int64.minValue)
    let d := Ref.scalar 3 (.int far)
    (∃ ns r t, call out 1 (.cell 0) none [a, b] abacus = .done r { abacus with store := t } ∧
      abacus.store.Counts r ns t ∧ ns.length = 3 ∧ ∀ n, ns[2]? = some n → n = 1) ∧
    far ≠ 0 ∧ Stays Int64.minValue.toInt far.toInt far.toInt ∧
    ∃ ns r t, call out 1 (.cell 1) none [c, d, d] abacus = .done r { abacus with store := t } ∧
      abacus.store.Counts r ns t ∧ ns.length = 3 ∧ ∀ n, ns[2]? = some n → n = 0 := by
  intro out far a b c d
  have size : far.toInt = 2 ^ 62 := toInt_ofInt_of_fits (by unfold Fits; omega)
  have nonzero : far ≠ 0 := fun zero => by rw [zero, Int64.toInt_zero] at size; omega
  have stays : Stays Int64.minValue.toInt far.toInt far.toInt := by
    rw [size, Int64.toInt_minValue]
    intro k before
    unfold Before at before
    unfold Fits
    omega
  obtain ⟨⟨ns, r, t, answer, counts, -, length, numbers⟩, -⟩ :=
    ranges_count (a := a) (b := b) out abacus rfl rfl
  obtain ⟨-, steps⟩ := ranges_count (a := c) (b := d) out abacus rfl rfl
  obtain ⟨ns', r', t', answer', counts', -, length', numbers', -⟩ := steps d far rfl nonzero stays
  rw [size, Int64.toInt_minValue] at length' numbers'
  refine ⟨⟨ns, r, t, answer 0 _ none rfl, counts, length, fun n third => ?_⟩, nonzero, stays,
    ns', r', t', answer' 0 _ none rfl, counts', ?_, fun n third => ?_⟩
  · exact Int64.toInt_inj.1 (numbers 2 n third)
  · have more := (length' 2).2 (by unfold Before; omega)
    have ended := mt (length' 3).1 (by unfold Before; omega)
    omega
  · exact Int64.toInt_inj.1 (numbers' 2 n third)

end Run

end LayerScript
