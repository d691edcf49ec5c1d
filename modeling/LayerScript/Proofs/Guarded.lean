import LayerScript.Proofs.Indexing
import Mathlib.Tactic.Choose

/-!
# Native functions with guarded steps

The native functions read their arguments by index, cut and extend arrays at computed positions and
count with integers. Here each such step is guarded: it has no answer if the argument, the position
or the integer does not exist. The checks that the functions make first leave no step without an
answer, apart from the counter of `range_step`.
-/

namespace LayerScript

/-! ## Guards -/

section

variable {μ : Type → Type} [Monad μ]

/-- What has to be there. -/
def demand {α : Type} (o : Option α) : OptionT μ α :=
  OptionT.mk (pure o)

/-- The argument at a position. -/
def argument (args : List Ref) (i : Nat) : OptionT μ Ref :=
  demand args[i]?

@[simp] theorem demand_some {α : Type} (a : α) : (demand (some a) : OptionT μ α) = pure a :=
  rfl

@[simp] theorem demand_guard {p : Prop} [Decidable p] (h : p) :
    (demand (guard p) : OptionT μ Unit) = pure () := by
  rw [guard, if_pos h]
  rfl

end

/-- Fails with a fault, and not for want of an answer. -/
def refuse {α : Type} (fault : Fault) : OptionT (Except Fault) α :=
  liftM (Except.error fault : Except Fault α)

theorem ok_bind {α β : Type} (a : α) (f : α → Except Fault β) :
    (Except.ok a : Except Fault α) >>= f = f a :=
  rfl

section

variable {α β : Type} (f : α → OptionT (Except Fault) β)

@[simp] theorem lift_ok (a : α) :
    (liftM (Except.ok a : Except Fault α) : OptionT (Except Fault) α) = pure a :=
  rfl

@[simp] theorem lift_error (fault : Fault) :
    (liftM (Except.error fault : Except Fault α) : OptionT (Except Fault) α) = refuse fault :=
  rfl

@[simp] theorem refuse_bind (fault : Fault) : refuse fault >>= f = refuse fault :=
  rfl

end

/-- The integers that 64 bits have room for. -/
def Fits (n : Int) : Prop :=
  -2 ^ 63 ≤ n ∧ n < 2 ^ 63

instance (n : Int) : Decidable (Fits n) :=
  inferInstanceAs (Decidable (_ ∧ _))

theorem fits_toInt (n : Int64) : Fits n.toInt :=
  ⟨n.le_toInt, n.toInt_lt⟩

/-- The sum of two integers, if it is one. -/
def sum? (a b : Int64) : Option Int64 :=
  if Fits (a.toInt + b.toInt) then some (Int64.ofInt (a.toInt + b.toInt)) else none

theorem toInt_ofInt_of_fits {n : Int} (h : Fits n) : (Int64.ofInt n).toInt = n :=
  Int64.toInt_ofInt_of_le h.1 h.2

/-- No array is longer than an integer can tell. Memory has no room for a longer one. -/
def Store.Countable (s : Store) : Prop :=
  ∀ r items, s.cell r = .array items → items.size < 2 ^ 63

/-! ## Slices -/

/-- An end of a slice of `length` elements, moved to the least or the greatest one. -/
def guardedEnd (length n : Int64) : Option Nat :=
  (if n < 0 then sum? length n else some n).bind fun resolved => do
    -- the least end may not lie behind the greatest
    guard (0 ≤ length)
    if resolved < 0 then some 0
    else if length < resolved then some length.toInt.toNat
    else some resolved.toInt.toNat

theorem guardedEnd_eq {size : Nat} (h : size < 2 ^ 63) (n : Int64) :
    guardedEnd (Int64.ofNat size) n = some (sliceBound size n) := by
  have length : (Int64.ofNat size).toInt = size := Int64.toInt_ofNat_of_lt h
  have positive : 0 ≤ Int64.ofNat size := by
    rw [Int64.le_iff_toInt_le, length, Int64.toInt_zero]
    omega
  obtain ⟨resolved, found, eq⟩ : ∃ resolved,
      (if n < 0 then sum? (Int64.ofNat size) n else some n) = some resolved ∧
      resolved.toInt = if n.toInt < 0 then size + n.toInt else n.toInt := by
    by_cases negative : n.toInt < 0
    · have fits : Fits (size + n.toInt) := ⟨by have := n.le_toInt; omega, by omega⟩
      refine ⟨_, ?_, (toInt_ofInt_of_fits fits).trans (if_pos negative).symm⟩
      rw [if_pos (Int64.lt_iff_toInt_lt.2 negative), sum?, length, if_pos fits]
    · refine ⟨n, if_neg ?_, (if_neg negative).symm⟩
      rwa [Int64.lt_iff_toInt_lt]
  rw [guardedEnd, found, Option.bind_some, guard, if_pos positive]
  simp only [sliceBound, ← eq, Int64.lt_iff_toInt_lt, length, Int64.toInt_zero, bind,
    Option.bind_some, pure]
  split
  · congr 1
    omega
  · split <;> congr 1 <;> omega

/-! ## Counters -/

/-- Whether a counter has not yet come to its end. -/
def Before (stop step current : Int) : Prop :=
  (0 < step ∧ current < stop) ∨ (step < 0 ∧ stop < current)

instance (stop step current : Int) : Decidable (Before stop step current) :=
  inferInstanceAs (Decidable (_ ∨ _))

/-- The integers that a counter takes on before it has come to its end, in at most `room` steps. -/
def counted (stop step : Int64) : (room : Nat) → Int64 → Option (List Int64)
  | 0, _ => none
  | room + 1, current =>
    if Before stop.toInt step.toInt current.toInt then do
      let next ← sum? current step
      let rest ← counted stop step room next
      return current :: rest
    else some []

/-- Where a counter comes to its end. -/
def counterEnd (start stop step : Int) : Int :=
  start + (stepsBetween start stop step).length * step

theorem stepsBetween_of_not_before {start stop step : Int} (nonzero : step ≠ 0)
    (h : ¬ Before stop step start) : stepsBetween start stop step = [] := by
  simp only [stepsBetween, Before] at h ⊢
  generalize hs : (if 0 ≤ step then stop - start else start - stop) = span
  have behind : span ≤ 0 := by split at hs <;> omega
  have few : (span + step.natAbs - 1) / step.natAbs < 1 :=
    Int.ediv_lt_of_lt_mul (by omega) (by omega)
  rw [show ((span + step.natAbs - 1) / step.natAbs).toNat = 0 by omega]
  rfl

theorem stepsBetween_of_before {start stop step : Int} (h : Before stop step start) :
    stepsBetween start stop step = start :: stepsBetween (start + step) stop step := by
  simp only [stepsBetween, Before] at h ⊢
  generalize hs : (if 0 ≤ step then stop - start else start - stop) = span
  have ahead : 0 < span := by split at hs <;> omega
  have next : (if 0 ≤ step then stop - (start + step) else start + step - stop) =
      span - step.natAbs := by
    split at hs <;> split <;> omega
  have count : (span + step.natAbs - 1) / step.natAbs =
      (span - step.natAbs + step.natAbs - 1) / step.natAbs + 1 := by
    rw [← Int.add_mul_ediv_right _ _ (by omega : (step.natAbs : Int) ≠ 0)]
    congr 1
    omega
  have more : 0 ≤ (span - step.natAbs + step.natAbs - 1) / step.natAbs :=
    Int.ediv_nonneg (by omega) (by omega)
  rw [next, count, Int.toNat_add more Int.one_nonneg]
  simp only [Int.toNat_one, List.range_succ_eq_map, List.map_cons, List.map_map]
  refine congrArg₂ _ (by simp) (List.map_congr_left fun k _ => ?_)
  simp only [Function.comp_apply, Nat.cast_succ]
  ring

theorem counterEnd_of_before {start stop step : Int} (h : Before stop step start) :
    counterEnd start stop step = counterEnd (start + step) stop step := by
  rw [counterEnd, counterEnd, stepsBetween_of_before h, List.length_cons, Nat.cast_succ]
  ring

/-- A counter comes to its end if it stays an integer until then. -/
theorem counted_eq {stop step current : Int64} (nonzero : step.toInt ≠ 0) {room : Nat}
    (bound : (if 0 < step.toInt then stop.toInt - current.toInt else current.toInt - stop.toInt) ≤
      room) : counted stop step (room + 1) current =
      if Fits (counterEnd current.toInt stop.toInt step.toInt) then
        some ((stepsBetween current.toInt stop.toInt step.toInt).map Int64.ofInt)
      else none := by
  induction room generalizing current with
  | zero =>
    have ended : ¬ Before stop.toInt step.toInt current.toInt := by
      unfold Before
      split at bound <;> omega
    rw [counted, if_neg ended, counterEnd, stepsBetween_of_not_before nonzero ended]
    simp [fits_toInt]
  | succ room ih =>
    rw [counted]
    by_cases before : Before stop.toInt step.toInt current.toInt
    · rw [if_pos before, sum?, counterEnd_of_before before, stepsBetween_of_before before]
      by_cases fits : Fits (current.toInt + step.toInt)
      · have next := toInt_ofInt_of_fits fits
        have more := @ih (Int64.ofInt (current.toInt + step.toInt)) (by
          rw [next]
          unfold Before at before
          split at bound <;> split <;> omega)
        rw [next] at more
        rw [if_pos fits]
        change (counted stop step (room + 1) _ >>= fun rest => some (current :: rest)) = _
        rw [more]
        split
        · simp
        · rfl
      · have ended : ¬ Before stop.toInt step.toInt (current.toInt + step.toInt) := by
          have low := stop.le_toInt
          have high := stop.toInt_lt
          have low' := current.le_toInt
          have high' := current.toInt_lt
          unfold Fits at fits
          unfold Before at before ⊢
          omega
        rw [if_neg fits, counterEnd, stepsBetween_of_not_before nonzero ended]
        simp [fits]
    · rw [if_neg before, counterEnd, stepsBetween_of_not_before nonzero before]
      simp [fits_toInt]

/-- A whole range has as many numbers as its ends are apart. -/
theorem length_stepsBetween_range (start stop : Int64) :
    (stepsBetween start.toInt stop.toInt (if start ≤ stop then 1 else -1)).length =
      (stop.toInt - start.toInt).natAbs := by
  simp only [stepsBetween, List.length_map, List.length_range]
  split
  · next up =>
    rw [Int64.le_iff_toInt_le] at up
    simp
    omega
  · next down =>
    rw [Int64.le_iff_toInt_le] at down
    simp
    omega

/-- The counter of a whole range stays between its ends. -/
theorem fits_counterEnd_range (start stop : Int64) :
    Fits (counterEnd start.toInt stop.toInt (if start ≤ stop then 1 else -1)) := by
  have ended : counterEnd start.toInt stop.toInt (if start ≤ stop then 1 else -1) =
      stop.toInt := by
    rw [counterEnd, length_stepsBetween_range]
    split
    · next up =>
      rw [Int64.le_iff_toInt_le] at up
      omega
    · next down =>
      rw [Int64.le_iff_toInt_le] at down
      omega
  rw [ended]
  exact fits_toInt stop

/-! ## Plain functions -/

theorem lt_of_indexIn? {n : Int64} {length i : Nat} (h : indexIn? n length = some i) :
    i < length := by
  unfold indexIn? at h
  split at h
  · cases h
    omega
  · cases h

namespace Plain

open Store (Effect)

variable (s : Store)

def guardedInsert (a position value : Ref) : OptionT (Except Fault) (Effect Ref) :=
  match s.cell a with
  | .map _ => do
    let key ← s.textOf "std.collections.insert" position
    return onMap a (·.insert key value) a
  | .array items => do
    let n ← s.intOf "std.collections.insert" position
    match indexIn? n (items.size + 1) with
    | some i =>
      demand (guard (i ≤ items.size))
      return onArray a (·.insertIdxIfInBounds i value) a
    | none => refuse (.insertBounds n items.size)
  | _ => refuse .insertTarget

def guardedRemove (a position : Ref) : OptionT (Except Fault) (Effect Ref) :=
  match s.cell a with
  | .map entries => do
    let key ← s.textOf "std.collections.remove" position
    match entries.find? key with
    | some value => return onMap a (·.erase key) value
    | none => return orNothing none
  | .array items => do
    let n ← s.intOf "std.collections.remove" position
    match indexIn? n items.size with
    | some i => return onArray a (·.eraseIdxIfInBounds i) (← demand items[i]?)
    | none => return orNothing none
  | _ => refuse .removeTarget

def guardedRange (a b : Ref) : OptionT (Except Fault) (Effect Ref) := do
  let start ← s.intOf "std.collections.range" a
  let stop ← s.intOf "std.collections.range" b
  let step := if start ≤ stop then 1 else -1
  let room := (stop.toInt - start.toInt).natAbs + 1
  return newArray ((← demand (counted stop step room start)).map .int)

def guardedRangeStep (a b c : Ref) : OptionT (Except Fault) (Effect Ref) := do
  let start ← s.intOf "std.collections.range" a
  let stop ← s.intOf "std.collections.range" b
  let step ← s.intOf "std.collections.range_step" c
  if step = 0 then refuse .zeroStep
  let room := (stop.toInt - start.toInt).natAbs + 1
  return newArray ((← demand (counted stop step room start)).map .int)

def guardedSlice (a b c : Ref) : OptionT (Except Fault) (Effect Ref) := do
  let items ← s.itemsOf "std.collections.slice" a
  let length := Int64.ofNat items.size
  let first ← demand (guardedEnd length (← s.intOf "std.collections.slice" b))
  let last ← demand (guardedEnd length (← s.intOf "std.collections.slice" c))
  if last ≤ first then return (·.alloc (.array #[]))
  else
    demand (guard (last ≤ items.size))
    return (·.alloc (.array (items.extract first last)))

/-- Applies a native function. It reads its arguments one by one after it has counted them. -/
def guarded (op : Plain) (args : List Ref) : OptionT (Except Fault) (Effect Ref) :=
  if args.length < op.arity.1 ∨ op.arity.2 < args.length then refuse (op.arityFault args.length)
  else
    match op with
    | .insert => do
      guardedInsert s (← argument args 0) (← argument args 1) (← argument args 2)
    | .remove => do guardedRemove s (← argument args 0) (← argument args 1)
    | .range => do guardedRange s (← argument args 0) (← argument args 1)
    | .rangeStep => do
      guardedRangeStep s (← argument args 0) (← argument args 1) (← argument args 2)
    | .slice => do guardedSlice s (← argument args 0) (← argument args 1) (← argument args 2)
    | .get => do runGet s (← argument args 0) (← argument args 1) args[2]?
    | .stringify => do
      runStringify s (← argument args 0) (args[1]?.elim false fun b => (s.cell b).truthy)
    | op => do op.run (← (List.range op.arity.1).mapM (argument args)) s

variable {s}

theorem guardedInsert_eq (a position value : Ref) :
    guardedInsert s a position value = liftM (runInsert s a position value) := by
  unfold guardedInsert runInsert
  cases s.cell a with
  | map entries => cases s.textOf "std.collections.insert" position <;> rfl
  | array items =>
    cases s.intOf "std.collections.insert" position with
    | error => rfl
    | ok n =>
      simp only [lift_ok, pure_bind, ok_bind]
      cases found : indexIn? n (items.size + 1) with
      | none => rfl
      | some i =>
        simp only [demand_guard (Nat.le_of_lt_succ (lt_of_indexIn? found)), pure_bind]
        rfl
  | _ => rfl

theorem guardedRemove_eq (a position : Ref) :
    guardedRemove s a position = liftM (runRemove s a position) := by
  unfold guardedRemove runRemove
  cases s.cell a with
  | map entries =>
    cases s.textOf "std.collections.remove" position with
    | error => rfl
    | ok key =>
      simp only [lift_ok, pure_bind, ok_bind]
      cases entries.find? key <;> rfl
  | array items =>
    cases s.intOf "std.collections.remove" position with
    | error => rfl
    | ok n =>
      simp only [lift_ok, pure_bind, ok_bind]
      cases found : indexIn? n items.size with
      | none => rfl
      | some i =>
        simp only [Option.bind_some, Array.getElem?_eq_getElem (lt_of_indexIn? found), demand_some,
          pure_bind, Option.map_some]
        rfl
  | _ => rfl

/-- A counter that starts with enough room. -/
theorem counted_start {start stop step : Int64} (nonzero : step.toInt ≠ 0) :
    counted stop step ((stop.toInt - start.toInt).natAbs + 1) start =
      if Fits (counterEnd start.toInt stop.toInt step.toInt) then
        some ((stepsBetween start.toInt stop.toInt step.toInt).map Int64.ofInt)
      else none :=
  counted_eq nonzero (by split <;> omega)

theorem guardedRange_eq (a b : Ref) : guardedRange s a b = liftM (runRange s a b) := by
  unfold guardedRange runRange
  cases s.intOf "std.collections.range" a with
  | error => rfl
  | ok start =>
    cases s.intOf "std.collections.range" b with
    | error => rfl
    | ok stop =>
      simp only [lift_ok, pure_bind]
      have step : (if start ≤ stop then 1 else -1 : Int64).toInt =
          if start ≤ stop then 1 else -1 := by
        split <;> rfl
      have nonzero : (if start ≤ stop then 1 else -1 : Int64).toInt ≠ 0 := by
        split <;> decide
      rw [counted_start nonzero, step, if_pos (fits_counterEnd_range start stop), demand_some,
        pure_bind, List.map_map]
      rfl

/-- A counter that has to go beyond the integers to come to its end. -/
def Overflows (op : Plain) (args : List Ref) (s : Store) : Prop :=
  op = .rangeStep ∧ ∃ a b c start stop step, args = [a, b, c] ∧ s.cell a = .int start ∧
    s.cell b = .int stop ∧ s.cell c = .int step ∧ step ≠ 0 ∧
    ¬ Fits (counterEnd start.toInt stop.toInt step.toInt)

theorem intOf_eq_ok_iff {function : String} {r : Ref} {n : Int64} :
    s.intOf function r = .ok n ↔ s.cell r = .int n := by
  unfold Store.intOf
  cases s.cell r <;> simp

section

variable {a b c : Ref} {start stop step : Int64}
  (first : s.intOf "std.collections.range" a = .ok start)
  (second : s.intOf "std.collections.range" b = .ok stop)
  (third : s.intOf "std.collections.range_step" c = .ok step)

include first second third

theorem runRangeStep_of_ok : runRangeStep s a b c = if step = 0 then .error .zeroStep
    else .ok (newInts (stepsBetween start.toInt stop.toInt step.toInt)) := by
  unfold runRangeStep
  rw [first, second, third]
  by_cases zero : step = 0
  · subst zero
    rfl
  · rw [if_neg zero]
    simp only [bind, Except.bind, if_neg zero, pure, Except.pure]

theorem guardedRangeStep_of_ok : guardedRangeStep s a b c = if step = 0 then refuse .zeroStep
    else if Fits (counterEnd start.toInt stop.toInt step.toInt) then
      pure (newInts (stepsBetween start.toInt stop.toInt step.toInt))
    else demand none := by
  unfold guardedRangeStep
  rw [first, second, third]
  by_cases zero : step = 0
  · subst zero
    rfl
  · have nonzero : step.toInt ≠ 0 := fun eq => zero (Int64.toInt_inj.1 eq)
    simp only [lift_ok, pure_bind, if_neg zero, counted_start nonzero]
    split
    · rw [demand_some, pure_bind, List.map_map]
      rfl
    · rfl

end

theorem guardedRangeStep_eq {a b c : Ref} (h : ¬ Overflows .rangeStep [a, b, c] s) :
    guardedRangeStep s a b c = liftM (runRangeStep s a b c) := by
  cases first : s.intOf "std.collections.range" a with
  | error =>
    unfold guardedRangeStep runRangeStep
    rw [first]
    rfl
  | ok start =>
    cases second : s.intOf "std.collections.range" b with
    | error =>
      unfold guardedRangeStep runRangeStep
      rw [first, second]
      rfl
    | ok stop =>
      cases third : s.intOf "std.collections.range_step" c with
      | error =>
        unfold guardedRangeStep runRangeStep
        rw [first, second, third]
        rfl
      | ok step =>
        rw [guardedRangeStep_of_ok first second third, runRangeStep_of_ok first second third]
        split
        · rfl
        · next nonzero =>
          rw [if_pos]
          · rfl
          · by_contra far
            exact h ⟨rfl, a, b, c, start, stop, step, rfl, intOf_eq_ok_iff.1 first,
              intOf_eq_ok_iff.1 second, intOf_eq_ok_iff.1 third, nonzero, far⟩

theorem guardedSlice_eq (small : s.Countable) (a b c : Ref) :
    guardedSlice s a b c = liftM (runSlice s a b c) := by
  unfold guardedSlice runSlice
  cases array : s.itemsOf "std.collections.slice" a with
  | error => rfl
  | ok items =>
    have size : items.size < 2 ^ 63 := by
      unfold Store.itemsOf at array
      split at array
      · next found =>
        cases array
        exact small a items found
      · cases array
    cases s.intOf "std.collections.slice" b with
    | error => rfl
    | ok start =>
      cases s.intOf "std.collections.slice" c with
      | error =>
        simp only [lift_ok, lift_error, pure_bind, refuse_bind, guardedEnd_eq size, demand_some]
        rfl
      | ok stop =>
        simp only [lift_ok, pure_bind, guardedEnd_eq size, demand_some]
        have last := (marks_sliceBound items.size stop).le
        split
        · next empty =>
          have nothing : items.extract (sliceBound items.size start) (sliceBound items.size stop) =
              #[] := Array.extract_empty_of_stop_le_start empty
          change _ = pure fun t : Store => t.alloc (.array (items.extract _ _))
          rw [nothing]
        · rw [demand_guard last, pure_bind]
          rfl

theorem run_of_arity {op : Plain} {args : List Ref}
    (h : args.length < op.arity.1 ∨ op.arity.2 < args.length) :
    op.run args s = .error (op.arityFault args.length) := by
  unfold run
  split <;> first | rfl | simp [arity] at h

theorem mapM_demand {f : Nat → Option Ref} {g : Nat → Ref} {is : List Nat}
    (h : ∀ i ∈ is, f i = some (g i)) :
    is.mapM (fun i => (demand (f i) : OptionT (Except Fault) Ref)) = pure (is.map g) := by
  induction is with
  | nil => rfl
  | cons i is ih =>
    rw [List.forall_mem_cons] at h
    rw [List.mapM_cons, h.1, demand_some, pure_bind, ih h.2, pure_bind, List.map_cons]

/-- All arguments, read one by one. -/
theorem mapM_argument (args : List Ref) :
    (List.range args.length).mapM (argument args) =
      (pure args : OptionT (Except Fault) (List Ref)) := by
  have each : ∀ i ∈ List.range args.length, args[i]? = some (args.getD i default) := by
    intro i mem
    simp [List.mem_range.1 mem]
  refine (mapM_demand each).trans (congrArg pure (List.ext_getElem (by simp) fun i _ h => ?_))
  simp [h]

theorem arity_fixed {op : Plain} (get : op ≠ .get) (stringify : op ≠ .stringify) :
    op.arity.2 = op.arity.1 := by
  cases op <;> first | rfl | contradiction

/-- No step goes without an answer, unless it is that of a counter that overflows. -/
theorem guarded_eq {op : Plain} {args : List Ref} (small : s.Countable)
    (within : ¬ op.Overflows args s) : guarded s op args = liftM (op.run args s) := by
  unfold guarded
  by_cases wrong : args.length < op.arity.1 ∨ op.arity.2 < args.length
  · rw [if_pos wrong, run_of_arity wrong]
    rfl
  · rw [if_neg wrong]
    rw [not_or, Nat.not_lt, Nat.not_lt] at wrong
    obtain ⟨enough, most⟩ := wrong
    split
    case h_1 =>
      obtain ⟨a, b, c, rfl⟩ := List.length_eq_three.1 (Nat.le_antisymm most enough)
      exact guardedInsert_eq a b c
    case h_2 =>
      obtain ⟨a, b, rfl⟩ := List.length_eq_two.1 (Nat.le_antisymm most enough)
      exact guardedRemove_eq a b
    case h_3 =>
      obtain ⟨a, b, rfl⟩ := List.length_eq_two.1 (Nat.le_antisymm most enough)
      exact guardedRange_eq a b
    case h_4 =>
      obtain ⟨a, b, c, rfl⟩ := List.length_eq_three.1 (Nat.le_antisymm most enough)
      exact guardedRangeStep_eq within
    case h_5 =>
      obtain ⟨a, b, c, rfl⟩ := List.length_eq_three.1 (Nat.le_antisymm most enough)
      exact guardedSlice_eq small a b c
    case h_6 =>
      match args with
      | [a, b] | [a, b, c] => rfl
    case h_7 =>
      match args with
      | [a] | [a, b] => rfl
    case h_8 get stringify =>
      have fixed : op.arity.2 = op.arity.1 := arity_fixed get stringify
      have whole : op.arity.1 = args.length := by omega
      rw [whole, mapM_argument, pure_bind]

theorem guarded_of_overflows {op : Plain} {args : List Ref} (h : op.Overflows args s) :
    guarded s op args = demand none := by
  obtain ⟨rfl, a, b, c, start, stop, step, rfl, first, second, third, nonzero, far⟩ := h
  have stepped := guardedRangeStep_of_ok (intOf_eq_ok_iff.2 first) (intOf_eq_ok_iff.2 second)
    (intOf_eq_ok_iff.2 third)
  rw [if_neg nonzero, if_neg far] at stepped
  exact stepped

end Plain

/-! ## Traversals -/

namespace Run

variable {σ : Type}

instance : LawfulMonad (Run σ) := by
  refine .mk' _ (fun x => ?_) (fun _ _ => rfl) fun x f g => ?_
  · funext m
    change (x m).bind _ = x m
    cases x m <;> rfl
  · funext m
    exact Outcome.bind_assoc (x m) f g

variable (call : Caller σ) (f item : Ref)

/-- The place for an item among the first sorted ones, behind the last that does not come after
it. -/
def guardedPlace (sorted : Array Ref) : Nat → OptionT (Run σ) Nat
  | 0 => pure 0
  | place + 1 => do
    let last ← demand sorted[place]?
    let verdict ← call f none [last, item]
    let order ← (orderNumber verdict : Run σ Float)
    if order ≤ 0 then return place + 1 else guardedPlace sorted place

def guardedSort (sorted : Array Ref) : List Ref → OptionT (Run σ) (Array Ref)
  | [] => pure sorted
  | item :: items => do
    let place ← guardedPlace call f item sorted sorted.size
    demand (guard (place ≤ sorted.size))
    guardedSort (sorted.insertIdxIfInBounds place item) items

def guardedSortBy (a f : Ref) : OptionT (Run σ) Ref := do
  match ← (cell a : Run σ Cell) with
  | .array items =>
    let sorted ← guardedSort call f #[] items.toList
    (onStore fun s => (a, s.modifyArray a fun _ => sorted) : Run σ Ref)
  | _ => liftM (raise .sortTarget : Run σ Ref)

def guardedTraverse (op : Traversal) (args : List Ref) : OptionT (Run σ) Ref :=
  if args.length ≠ op.arity then
    liftM (raise (.arity op.name op.arity args.length) : Run σ Ref)
  else do
    let a ← argument args 0
    let f ← argument args 1
    match op with
    | .reduce => traverse call .reduce [a, f, ← argument args 2]
    | .sortBy => guardedSortBy call a f
    | op => traverse call op [a, f]

variable {call f item}

theorem bind_congr_done {α β : Type} {x : Run σ α} {g h : α → Run σ β}
    (same : ∀ m a m', x m = .done a m' → g a = h a) : x >>= g = x >>= h := by
  funext m
  change (x m).bind g = (x m).bind h
  cases ended : x m with
  | done a m' => exact congrFun (same m a m' ended) m'
  | failed | exhausted => rfl

/-- The search for a place makes the comparisons of an insertion into the items in reverse. -/
theorem exists_guardedPlace (call : Caller σ) (f item : Ref) {sorted : Array Ref} {place : Nat}
    (h : place ≤ sorted.size) : ∃ x : Run σ Nat, guardedPlace call f item sorted place = liftM x ∧
      insertItem call f item (sorted.toList.take place).reverse = (do
        let k ← x
        return (sorted.toList.take k ++ item :: (sorted.toList.take place).drop k).reverse) ∧
      ∀ m k m', x m = .done k m' → k ≤ place := by
  induction place with
  | zero => exact ⟨pure 0, rfl, rfl, fun m k m' ended => by cases ended; exact Nat.le_refl 0⟩
  | succ place ih =>
    obtain ⟨x, eq, inserts, bound⟩ := ih (by omega)
    have split : sorted.toList.take (place + 1) = sorted.toList.take place ++ [sorted[place]] := by
      simp [List.take_succ_eq_append_getElem (by simpa using h : place < sorted.toList.length)]
    have length : (sorted.toList.take place).length = place := by
      simp
      omega
    refine ⟨do
      let verdict ← call f none [sorted[place], item]
      let order ← orderNumber verdict
      if order ≤ 0 then return place + 1 else x, ?guards, ?inserts, ?bound⟩
    case guards =>
      rw [guardedPlace, Array.getElem?_eq_getElem (by omega), demand_some, pure_bind, eq]
      simp only [liftM_bind]
      refine bind_congr fun verdict => bind_congr fun order => ?_
      split <;> rfl
    case inserts =>
      have last : (sorted.toList.take (place + 1)).reverse =
          sorted[place] :: (sorted.toList.take place).reverse := by simp [split]
      rw [last, insertItem]
      simp only [bind_assoc]
      refine bind_congr fun verdict => bind_congr fun order => ?_
      by_cases behind : order ≤ 0
      · rw [if_pos behind, if_pos behind, pure_bind, List.drop_of_length_le (by simp)]
        simp [split]
      · rw [if_neg behind, if_neg behind, inserts, bind_assoc]
        refine bind_congr_done fun m k m' ended => ?_
        have within := bound m k m' ended
        rw [pure_bind, split, List.drop_append_of_le_length (by omega)]
        simp
    case bound =>
      intro m k m' ended
      obtain ⟨verdict, mid, -, ended⟩ := Outcome.exists_of_bind ended
      obtain ⟨order, mid, -, ended⟩ := Outcome.exists_of_bind ended
      by_cases behind : order ≤ 0
      · rw [if_pos behind] at ended
        cases ended
        exact Nat.le_refl _
      · rw [if_neg behind] at ended
        exact Nat.le_succ_of_le (bound _ _ _ ended)

theorem lift_bind_congr {α β : Type} {x : Run σ α} {g h : α → OptionT (Run σ) β}
    (same : ∀ m a m', x m = .done a m' → g a = h a) :
    (liftM x : OptionT (Run σ) α) >>= g = liftM x >>= h := by
  refine OptionT.ext (funext fun m => ?_)
  change ((x m).bind _).bind _ = ((x m).bind _).bind _
  cases ended : x m with
  | done a m' => exact congrArg (·.run m') (same m a m' ended)
  | failed | exhausted => rfl

theorem insertIdx_append {α : Type} (front behind : List α) (a : α) :
    (front ++ behind).insertIdx front.length a = front ++ a :: behind := by
  induction front with
  | nil => rfl
  | cons b front ih => rw [List.cons_append, List.length_cons, List.insertIdx_succ_cons, ih]; rfl

/-- Sorting makes the comparisons of the sorting of the items in reverse. -/
theorem exists_guardedSort (call : Caller σ) (f : Ref) (sorted : Array Ref) (items : List Ref) :
    ∃ x : Run σ (Array Ref), guardedSort call f sorted items = liftM x ∧
      sortItems call f sorted.toList.reverse items = (do return (← x).toList.reverse) := by
  induction items generalizing sorted with
  | nil => exact ⟨pure sorted, rfl, rfl⟩
  | cons item items ih =>
    obtain ⟨x, eq, inserts, bound⟩ :=
      exists_guardedPlace call f item (Nat.le_refl sorted.size)
    choose next guarded sorts using fun k => ih (sorted.insertIdxIfInBounds k item)
    refine ⟨x >>= next, ?_, ?_⟩
    · rw [guardedSort, eq, liftM_bind]
      refine lift_bind_congr fun m k m' ended => ?_
      rw [demand_guard (bound m k m' ended), pure_bind, guarded]
    · have whole : sorted.toList.take sorted.size = sorted.toList := by simp
      rw [whole] at inserts
      rw [sortItems, inserts, bind_assoc, bind_assoc]
      refine bind_congr_done fun m k m' ended => ?_
      have within := bound m k m' ended
      have placed : sorted.toList.take k ++ item :: sorted.toList.drop k =
          (sorted.insertIdxIfInBounds k item).toList := by
        rw [← insertIdx_append, List.take_append_drop]
        simp [Array.insertIdxIfInBounds, within]
      rw [pure_bind, placed, sorts]

theorem guardedSortBy_eq (a f : Ref) :
    guardedSortBy call a f = liftM (traverse call .sortBy [a, f]) := by
  rw [guardedSortBy, traverse, liftM_bind]
  refine bind_congr fun c => ?_
  cases c with
  | array items =>
    obtain ⟨x, guarded, sorts⟩ := exists_guardedSort call f #[] items.toList
    rw [List.reverse_nil] at sorts
    dsimp only
    rw [guarded, sorts, bind_assoc, liftM_bind]
    refine bind_congr fun sorted => ?_
    rw [pure_bind, List.reverse_reverse]
  | _ => rfl

/-- The functions that call functions have no step that goes without an answer. -/
theorem guardedTraverse_eq (op : Traversal) (args : List Ref) :
    guardedTraverse call op args = liftM (traverse call op args) := by
  unfold guardedTraverse
  by_cases right : args.length = op.arity
  · rw [if_neg (not_not.2 right)]
    cases op with
    | map | filter | find =>
      obtain ⟨a, f, rfl⟩ := List.length_eq_two.1 right
      rfl
    | reduce =>
      obtain ⟨a, f, start, rfl⟩ := List.length_eq_three.1 right
      rfl
    | sortBy =>
      obtain ⟨a, f, rfl⟩ := List.length_eq_two.1 right
      exact guardedSortBy_eq a f
  · rw [if_pos right]
    unfold traverse
    split <;> first | rfl | simp [Traversal.arity] at right

/-! ## All native functions -/

variable {m : Machine σ}

def guardedAttempt {α : Type} (f : Store → OptionT (Except Fault) (Store.Effect α)) :
    OptionT (Run σ) α := do
  let effect ← OptionT.mk (check Fault.diagnostic fun s => (f s).run)
  (onStore effect : Run σ α)

/-- Carries out a call of a native function. -/
def guardedNative (out : Sink σ) (call : Caller σ) (f : Native) (args : List Ref) :
    OptionT (Run σ) Ref :=
  match f with
  | .plain op => guardedAttempt fun s => op.guarded s args
  | .traversal op => guardedTraverse call op args
  | .console level => liftM (do write out level args; alloc .none : Run σ Ref)

theorem run_liftM {α : Type} (x : Run σ α) (m : Machine σ) :
    (liftM x : OptionT (Run σ) α).run m = (x m).bind fun a => pure (some a) :=
  rfl

theorem guardedAttempt_of_lift {α : Type} {f : Store → OptionT (Except Fault) (Store.Effect α)}
    {g : Store → Except Fault (Store.Effect α)} (h : f m.store = liftM (g m.store)) :
    (guardedAttempt f).run m = (attempt Fault.diagnostic g m).bind fun a => pure (some a) := by
  have looked : check Fault.diagnostic (fun s => (f s).run) m =
      (check Fault.diagnostic g m).bind fun effect => pure (some effect) := by
    rw [check, h]
    cases ended : g m.store <;> simp only [check, ended] <;> rfl
  change (check Fault.diagnostic (fun s => (f s).run) m).bind _ = _
  rw [looked, attempt]
  change _ = ((check Fault.diagnostic g m).bind onStore).bind _
  cases check Fault.diagnostic g m <;> rfl

/-- A call of a native function never goes without an answer, unless a counter overflows. -/
theorem guardedNative_eq {f : Native} {g : Ref} (native : m.store.cell g = .native f)
    (small : m.store.Countable) {args : List Ref}
    (within : ∀ op, f = .plain op → ¬ op.Overflows args m.store) (out : Sink σ) (fuel : Nat)
    (receiver : Option Ref) : (guardedNative out (Run.call out fuel) f args).run m =
      (Run.call out (fuel + 1) g receiver args m).bind fun r => pure (some r) := by
  have called : Run.call out (fuel + 1) g receiver args m =
      activate out (Run.call out fuel) fuel g receiver args m := rfl
  cases f with
  | plain op =>
    rw [call_plain native]
    exact guardedAttempt_of_lift (Plain.guarded_eq small (within op rfl))
  | traversal op =>
    rw [called, activate_traversal native, guardedNative, guardedTraverse_eq, run_liftM]
  | console level =>
    rw [called, guardedNative, run_liftM]
    simp only [activate, bind, Run.bind, cell, native]

theorem guardedNative_of_overflows {op : Plain} {args : List Ref}
    (h : op.Overflows args m.store) (out : Sink σ) (call : Caller σ) :
    (guardedNative out call (.plain op) args).run m = .done none m := by
  change (check Fault.diagnostic (fun s => (op.guarded s args).run) m).bind _ = _
  rw [check, Plain.guarded_of_overflows h]
  rfl

end Run

end LayerScript
