import LayerScript.Proofs.Equality
import LayerScript.Proofs.Snapshots

/-!
# Indexed access

The elements of an array are read, assigned to, looked up, removed and inserted by index, and each
operation checks the index by itself. All agree on the indices that there are. A slice moves its
ends into the array instead. The characters of a string are read by index as well.
-/

namespace LayerScript

variable {σ : Type}

/-! ## Positions -/

theorem indexIn?_of_lt {n : Int64} {k length : Nat} (eq : n.toInt = k) (h : k < length) :
    indexIn? n length = some k := by
  simp [indexIn?, eq, h]

theorem indexIn?_eq_none {n : Int64} {length : Nat}
    (h : ¬ (0 ≤ n.toInt ∧ n.toInt < length)) : indexIn? n length = none :=
  if_neg h

/-- The number of elements before an end of a slice. A negative end is counted from the end of the
array, and an end that lies outside of the array is moved to it. -/
inductive Marks (length : Nat) (n : Int64) : Nat → Prop
  | inside {k : Nat} (eq : n.toInt = k) (bound : k ≤ length) : Marks length n k
  | behind (h : length < n.toInt) : Marks length n length
  | fromEnd {k : Nat} (negative : n.toInt < 0) (eq : n.toInt + length = k) : Marks length n k
  | before (h : n.toInt + length < 0) : Marks length n 0

theorem marks_sliceBound (length : Nat) (n : Int64) : Marks length n (sliceBound length n) := by
  simp only [sliceBound]
  generalize resolved : (if n.toInt < 0 then length + n.toInt else n.toInt) = k
  split at resolved
  case isTrue negative =>
    by_cases h : n.toInt + length < 0
    · rw [show (max 0 (min k length)).toNat = 0 by omega]
      exact .before h
    · exact .fromEnd negative (by omega)
  case isFalse positive =>
    by_cases h : length < n.toInt
    · rw [show (max 0 (min k length)).toNat = length by omega]
      exact .behind h
    · exact .inside (k := (max 0 (min k length)).toNat) (by omega) (by omega)

theorem Marks.le {length k : Nat} {n : Int64} (h : Marks length n k) : k ≤ length := by
  cases h <;> omega

theorem sliceBound_eq {length k : Nat} {n : Int64} (h : Marks length n k) :
    sliceBound length n = k := by
  simp only [sliceBound]
  cases h <;> split <;> omega

/-! ## Changed arrays -/

namespace Store

variable {s t : Store} {a : Ref} {items : Array Ref}

/-- An array contains other items, and nothing else is different. -/
structure Refills (s : Store) (a : Ref) (items : List Ref) (t : Store) : Prop where
  items : t.cell a = .array items.toArray
  rest : s.SameBut (· = .value a) t

theorem sizes_modify (r : Ref) (f : Cell → Cell) : (s.modify r f).sizes = s.sizes := by
  cases r <;> simp [sizes, modify]

theorem refills_modifyArray (array : s.cell a = .array items) {f : Array Ref → Array Ref}
    {filled : List Ref} (h : (f items).toList = filled) :
    s.Refills a filled (s.modifyArray a f) where
  items := by rw [cell_modifyArray_self array, ← h]
  rest := by
    refine ⟨sizes_modify .., fun p other => ?_⟩
    cases p with
    | value r => exact cell_modify_of_ne (fun eq => other (congrArg _ eq)) _
    | scope e => exact scope_modify ..

theorem SameBut.cell {P : Place → Prop} (h : s.SameBut P t) {r : Ref} (other : ¬ P (.value r)) :
    t.cell r = s.cell r :=
  h.same (.value r) other

/-- A change that is undone. -/
theorem modifyArray_undo (array : s.cell a = .array items) {f g : Array Ref → Array Ref}
    (h : g (f items) = items) : (s.modifyArray a f).modifyArray a g = s := by
  have sizes : ((s.modifyArray a f).modifyArray a g).sizes = s.sizes :=
    (sizes_modify ..).trans (sizes_modify ..)
  simp only [Store.sizes, Prod.mk.injEq] at sizes
  refine eq_of_same sizes.1 sizes.2.1 sizes.2.2 fun p => ?_
  cases p with
  | value r =>
    change ((s.modifyArray a f).modifyArray a g).cell r = s.cell r
    by_cases hr : r = a
    · rw [hr, cell_modifyArray_self (cell_modifyArray_self array f), h, array]
    · exact (cell_modify_of_ne hr _).trans (cell_modify_of_ne hr _)
  | scope e => exact (scope_modify ..).trans (scope_modify ..)

/-- A value is what it was after a new value has been made. -/
theorem cell_alloc_of_eq {r : Ref} {d : Cell} (found : s.cell r = d) (made : d ≠ .none) (c : Cell) :
    (s.alloc c).2.cell r = d := by
  subst found
  by_cases hr : r = (s.alloc c).1
  · cases r with
    | scalar => rfl
    | cell index =>
      have new := hr ▸ not_has_alloc (s := s) c
      have nothing : s.cell (.cell index) = .none := by
        simp only [Has, Nat.not_lt] at new
        simp [Store.cell, new]
      exact absurd nothing made
  · exact cell_alloc_of_ne hr

theorem equal_of_items {c : Ref} (left : s.cell c = .array items)
    (right : s.cell a = .array items) : s.equal c a = true := by
  have room : comparisonDepth = 128 + 1 := rfl
  rw [equal, room, equalWithin, left, right, Bool.or_eq_true, cellsEqual_array]
  refine .inr (List.forall₂_same.2 fun r _ => ?_)
  unfold equalWithin
  rw [Ref.same_self, Bool.true_or]

end Store

/-! ## Operations with an index -/

namespace Run

variable {m m' : Machine σ} {α : Type}

theorem attempt_of_ok {explain : Fault → Diagnostic} {f : Store → Except Fault (Store.Effect α)}
    {effect : Store.Effect α} (h : f m.store = .ok effect) :
    attempt explain f m = .done (effect m.store).1 { m with store := (effect m.store).2 } := by
  rw [attempt, Run.bind, check, h]
  rfl

theorem attempt_of_error {explain : Fault → Diagnostic} {f : Store → Except Fault (Store.Effect α)}
    {fault : Fault} (h : f m.store = .error fault) :
    attempt explain f m = .failed (explain fault) m := by
  rw [attempt, Run.bind, check, h]

theorem call_plain {g : Ref} {op : Plain} (native : m.store.cell g = .native (.plain op))
    (out : Sink σ) (fuel : Nat) (receiver : Option Ref) (args : List Ref) :
    call out (fuel + 1) g receiver args m = attempt Fault.diagnostic (op.run args) m := by
  simp only [call, activate, bind, Run.bind, cell, native]

/-- What an expression with an index comes to, when its operands have come to `a` and `i` and the
machine is `m`. -/
def Reads (m : Machine σ) (a i : Ref) (o : Span → Outcome σ Ref) : Prop :=
  ∀ call fuel span target position m₀ m₁, evaluate call fuel target m₀ = .done a m₁ →
    evaluate call fuel position m₁ = .done i m →
    evaluate call (fuel + 1) (.index span target position) m₀ = o span

/-- What the assignment of `v` to an element comes to. The second place is that of the index. -/
def Writes (m : Machine σ) (a i v : Ref) (o : Span → Span → Outcome σ Ref) : Prop :=
  ∀ call fuel span span' target position value m₀ m₁ m₂,
    evaluate call (fuel + 1) value m₀ = .done v m₁ → evaluate call fuel target m₁ = .done a m₂ →
    evaluate call fuel position m₂ = .done i m →
    evaluate call (fuel + 2) (.assign span (.index span' target position) value) m₀ =
      o span' position.span

/-- What a call of a native function comes to. -/
def Gives (out : Sink σ) (m : Machine σ) (op : Plain) (args : List Ref) (o : Outcome σ Ref) :
    Prop :=
  ∀ fuel g receiver, m.store.cell g = .native (.plain op) →
    call out (fuel + 1) g receiver args m = o

section

variable {a i v : Ref} {items : Array Ref} {n : Int64} {k : Nat} {element : Ref} {t : Store}

theorem reads_of_ok (effect : Store.Effect Ref) (h : m.store.element a i = .ok effect) :
    Reads m a i fun _ =>
      .done (effect m.store).1 { m with store := (effect m.store).2 } := by
  intro call fuel span target position m₀ m₁ first second
  simp only [evaluate, bind, Run.bind, first, second]
  exact attempt_of_ok h

theorem reads_of_error (fault : Fault) (h : m.store.element a i = .error fault) :
    Reads m a i fun span => .failed (fault.locatedAt span) m := by
  intro call fuel span target position m₀ m₁ first second
  simp only [evaluate, bind, Run.bind, first, second]
  exact attempt_of_error h

theorem writes_assignElement : Writes m a i v fun span place =>
    (assignElement span place a i v m).bind fun _ => pure v := by
  intro call fuel span span' target position value m₀ m₁ m₂ first second third
  rw [evaluate, bind_eq, first]
  change (assign call (fuel + 1) (.index span' target position) v m₁).bind _ = _
  rw [assign, bind_eq, second]
  change ((evaluate call fuel position >>= _) m₂).bind _ = _
  rw [bind_eq, third]
  rfl

theorem writes_of_ok (effect : Store.Effect Unit) (h : m.store.assignElement a i v = .ok effect) :
    Writes m a i v fun _ _ => .done v { m with store := (effect m.store).2 } := by
  have assigned := writes_assignElement (m := m) (a := a) (i := i) (v := v)
  simp only [assignElement, attempt_of_ok (f := (·.assignElement a i v)) h] at assigned
  exact assigned

theorem writes_of_error (fault : Fault) (h : m.store.assignElement a i v = .error fault) :
    Writes m a i v fun span place =>
      .failed (assignElement.explain span place fault) m := by
  have refused := writes_assignElement (m := m) (a := a) (i := i) (v := v)
  simp only [assignElement, attempt_of_error (f := (·.assignElement a i v)) h] at refused
  exact refused

theorem gives_of_ok {out : Sink σ} {op : Plain} {args : List Ref} (effect : Store.Effect Ref)
    (h : op.run args m.store = .ok effect) :
    Gives out m op args (.done (effect m.store).1 { m with store := (effect m.store).2 }) :=
  fun _ _ _ native => (call_plain native ..).trans (attempt_of_ok h)

theorem gives_of_error {out : Sink σ} {op : Plain} {args : List Ref} (fault : Fault)
    (h : op.run args m.store = .error fault) : Gives out m op args (.failed fault.diagnostic m) :=
  fun _ _ _ native => (call_plain native ..).trans (attempt_of_error h)

end

section

variable {out : Sink σ} {a i v : Ref} {items : Array Ref} {n : Int64} {k : Nat} {element : Ref}
  (array : m.store.cell a = .array items) (index : m.store.cell i = .int n)

include array index

theorem reads_inside (eq : n.toInt = k) (item : items[k]? = some element) :
    Reads m a i fun _ => .done element m := by
  have bound := (Array.getElem?_eq_some_iff.1 item).1
  refine reads_of_ok (.keep element) ?_
  simp [Store.element, array, index, indexIn?_of_lt eq bound, item]

theorem reads_outside (outside : ¬ (0 ≤ n.toInt ∧ n.toInt < items.size)) :
    Reads m a i fun span => .failed ((Fault.elementBounds n items.size).locatedAt span) m := by
  refine reads_of_error (.elementBounds n items.size) ?_
  simp [Store.element, array, index, indexIn?_eq_none outside]

theorem writes_inside (eq : n.toInt = k) (bound : k < items.size) (v : Ref) : ∃ t,
    m.store.Refills a (items.toList.set k v) t ∧
    Writes m a i v fun _ _ => .done v { m with store := t } := by
  refine ⟨_, Store.refills_modifyArray array (f := (·.setIfInBounds k v)) (by simp), ?_⟩
  refine writes_of_ok (fun s => ((), s.modifyArray a (·.setIfInBounds k v))) ?_
  simp [Store.assignElement, array, index, indexIn?_of_lt eq bound]

theorem writes_outside (outside : ¬ (0 ≤ n.toInt ∧ n.toInt < items.size)) (v : Ref) :
    Writes m a i v fun _ place =>
      .failed ((Fault.elementBounds n items.size).locatedAt place) m := by
  refine writes_of_error (.elementBounds n items.size) ?_
  simp [Store.assignElement, array, index, indexIn?_eq_none outside]

theorem get_inside (eq : n.toInt = k) (item : items[k]? = some element) (d : Option Ref) :
    Gives out m .get (a :: i :: d.toList) (.done element m) := by
  have bound := (Array.getElem?_eq_some_iff.1 item).1
  refine gives_of_ok (.keep element) ?_
  cases d <;>
    simp [Plain.run, Plain.runGet, Plain.element?, array, index, indexIn?_of_lt eq bound, item,
      bind, Except.bind, pure, Except.pure, Plain.orNothing]

theorem get_outside (outside : ¬ (0 ≤ n.toInt ∧ n.toInt < items.size)) :
    (∀ d, Gives out m .get [a, i, d] (.done d m)) ∧ Gives out m .get [a, i] (alloc .none m) := by
  constructor
  · intro d
    refine gives_of_ok (Plain.orNothing (some d)) ?_
    simp [Plain.run, Plain.runGet, Plain.element?, array, index, indexIn?_eq_none outside,
      bind, Except.bind, pure, Except.pure]
  · refine gives_of_ok (Plain.orNothing none) ?_
    simp [Plain.run, Plain.runGet, Plain.element?, array, index, indexIn?_eq_none outside,
      bind, Except.bind, pure, Except.pure]

theorem remove_inside (eq : n.toInt = k) (item : items[k]? = some element) :
    Gives out m .remove [a, i]
      (.done element { m with store := m.store.modifyArray a (·.eraseIdxIfInBounds k) }) := by
  have bound := (Array.getElem?_eq_some_iff.1 item).1
  refine gives_of_ok (Plain.onArray a (·.eraseIdxIfInBounds k) element) ?_
  simp [Plain.run, Plain.runRemove, Store.intOf, array, index, indexIn?_of_lt eq bound, item,
    bind, Except.bind, pure, Except.pure]

theorem remove_outside (outside : ¬ (0 ≤ n.toInt ∧ n.toInt < items.size)) :
    Gives out m .remove [a, i] (alloc .none m) := by
  refine gives_of_ok (Plain.orNothing none) ?_
  simp [Plain.run, Plain.runRemove, Store.intOf, array, index, indexIn?_eq_none outside,
    bind, Except.bind, pure, Except.pure]

theorem insert_inside (eq : n.toInt = k) (bound : k ≤ items.size) (v : Ref) :
    Gives out m .insert [a, i, v]
      (.done a { m with store := m.store.modifyArray a (·.insertIdxIfInBounds k v) }) := by
  refine gives_of_ok (Plain.onArray a (·.insertIdxIfInBounds k v) a) ?_
  simp [Plain.run, Plain.runInsert, Store.intOf, array, index,
    indexIn?_of_lt eq (Nat.lt_succ_of_le bound), bind, Except.bind, pure, Except.pure]

/-- Removing what has been inserted leads back to the machine before. -/
theorem remove_inserted (eq : n.toInt = k) (bound : k ≤ items.size) (v : Ref) :
    Gives out { m with store := m.store.modifyArray a (·.insertIdxIfInBounds k v) } .remove [a, i]
      (.done v m) := by
  have other : i ≠ a := by
    rintro rfl
    cases array.symm.trans index
  have undone : (m.store.modifyArray a (·.insertIdxIfInBounds k v)).modifyArray a
      (·.eraseIdxIfInBounds k) = m.store :=
    Store.modifyArray_undo array (Array.ext' (by
      simp [Array.insertIdxIfInBounds, Array.eraseIdxIfInBounds, bound, Nat.lt_succ_of_le bound,
        List.eraseIdx_insertIdx_self]))
  have removed : Gives out { m with store := m.store.modifyArray a (·.insertIdxIfInBounds k v) }
      .remove [a, i] (.done v _) :=
    remove_inside (Store.cell_modifyArray_self array _)
      ((Store.cell_modify_of_ne other _).trans index) eq
      (by simp [Array.insertIdxIfInBounds, bound, Array.getElem_insertIdx_self])
  rw [undone] at removed
  exact removed

theorem insert_outside (outside : ¬ (0 ≤ n.toInt ∧ n.toInt ≤ items.size)) (v : Ref) :
    Gives out m .insert [a, i, v] (.failed (Fault.insertBounds n items.size).diagnostic m) := by
  refine gives_of_error (.insertBounds n items.size) ?_
  have none : indexIn? n (items.size + 1) = none := indexIn?_eq_none (by omega)
  simp [Plain.run, Plain.runInsert, Store.intOf, array, index, none, bind, Except.bind, throw,
    throwThe, MonadExceptOf.throw]

end

/-! ## Slices -/

section

variable {out : Sink σ} {a b c : Ref} {items items' : Array Ref} {start stop : Int64}
  {first last : Nat}

theorem slice_between (array : m.store.cell a = .array items) (hb : m.store.cell b = .int start)
    (hc : m.store.cell c = .int stop) (hfirst : Marks items.size start first)
    (hlast : Marks items.size stop last) :
    Gives out m .slice [a, b, c]
      (alloc (.array ((items.toList.drop first).take (last - first)).toArray) m) := by
  have same : ((items.toList.drop first).take (last - first)).toArray = items.extract first last :=
    Array.ext' (by simp)
  rw [same]
  refine gives_of_ok (·.alloc (.array (items.extract first last))) ?_
  simp [Plain.run, Plain.runSlice, Store.itemsOf, Store.intOf, array, hb, hc, sliceBound_eq hfirst,
    sliceBound_eq hlast, bind, Except.bind, pure, Except.pure]

theorem concat_joins (array : m.store.cell a = .array items) (hb : m.store.cell b = .array items') :
    Gives out m .concat [a, b] (alloc (.array (items ++ items')) m) := by
  refine gives_of_ok (·.alloc (.array (items ++ items'))) ?_
  simp [Plain.run, Plain.runConcat, Store.itemsOf, array, hb, bind, Except.bind, pure, Except.pure]

/-- The two parts of an array, put together again. -/
theorem concat_slices {zero middle size : Ref} {k n : Int64} (array : m.store.cell a = .array items)
    (hzero : m.store.cell zero = .int 0) (hmiddle : m.store.cell middle = .int k)
    (hsize : m.store.cell size = .int n) (whole : n.toInt = items.size) :
    ∃ left m₁ right m₂ c m₃,
      Gives out m .slice [a, zero, middle] (.done left m₁) ∧
      Gives out m₁ .slice [a, middle, size] (.done right m₂) ∧
      Gives out m₂ .concat [left, right] (.done c m₃) ∧
      m₃.store.cell c = .array items ∧ m₃.store.equal c a = true := by
  have marks := marks_sliceBound items.size k
  have begins : Marks items.size 0 0 := .inside rfl (Nat.zero_le _)
  have ends : Marks items.size n items.size := .inside whole (Nat.le_refl _)
  generalize sliceBound items.size k = mid at marks
  have first : Gives out m .slice _ _ := slice_between array hzero hmiddle begins marks
  generalize hl : ((items.toList.drop 0).take (mid - 0)).toArray = l at first
  let m₁ : Machine σ := { m with store := (m.store.alloc (.array l)).2 }
  have array₁ : m₁.store.cell a = .array items := Store.cell_alloc_of_eq array nofun _
  have second : Gives out m₁ .slice _ _ := slice_between array₁
    (Store.cell_alloc_of_eq hmiddle nofun _) (Store.cell_alloc_of_eq hsize nofun _) marks ends
  generalize hr : ((items.toList.drop mid).take (items.size - mid)).toArray = r at second
  let m₂ : Machine σ := { m₁ with store := (m₁.store.alloc (.array r)).2 }
  have left : m₂.store.cell (m.store.alloc (.array l)).1 = .array l :=
    Store.cell_alloc_of_eq (d := .array l) (Store.cell_alloc_self _) nofun _
  have third : Gives out m₂ .concat _ _ := concat_joins left (Store.cell_alloc_self _)
  have joined : l ++ r = items := by
    subst hl hr
    apply Array.ext'
    have rest : (items.toList.drop mid).take (items.size - mid) = items.toList.drop mid :=
      List.take_of_length_le (by simp)
    simp [rest]
  rw [joined] at third
  have array₃ : (m₂.store.alloc (.array items)).2.cell a = .array items :=
    Store.cell_alloc_of_eq (Store.cell_alloc_of_eq array₁ nofun _) nofun _
  exact ⟨_, m₁, _, m₂, _, { m₂ with store := (m₂.store.alloc (.array items)).2 }, first, second,
    third, Store.cell_alloc_self _, Store.equal_of_items (Store.cell_alloc_self _) array₃⟩

end

/-! ## Characters -/

section

variable {out : Sink σ} {a i : Ref} {t : String} {n : Int64} {k : Nat}

theorem len_counts (text : m.store.cell a = .text t) :
    Gives out m .len [a] (alloc (.int (Int64.ofNat t.toList.length)) m) := by
  refine gives_of_ok (Plain.newLength t.toList.length) ?_
  simp [Plain.run, Plain.runLen, text, String.length_toList]

theorem reads_character {c : Char} (text : m.store.cell a = .text t)
    (index : m.store.cell i = .int n) (eq : n.toInt = k) (item : t.toList[k]? = some c) :
    Reads m a i fun _ => alloc (.text (String.singleton c)) m := by
  have bound : k < t.length := String.length_toList ▸ (List.getElem?_eq_some_iff.1 item).1
  refine reads_of_ok (·.alloc (.text (String.singleton c))) ?_
  simp [Store.element, text, index, indexIn?_of_lt eq bound, Text.charAt?_eq, item]

theorem reads_no_character (text : m.store.cell a = .text t) (index : m.store.cell i = .int n)
    (outside : ¬ (0 ≤ n.toInt ∧ n.toInt < t.toList.length)) :
    Reads m a i fun span => .failed ((Fault.characterBounds n).locatedAt span) m := by
  rw [String.length_toList] at outside
  refine reads_of_error (.characterBounds n) ?_
  simp [Store.element, text, index, indexIn?_eq_none outside]

theorem for_characters {call : Caller σ} {fuel : Nat} {m₀ : Machine σ} {iterable : Expr}
    (text : m.store.cell a = .text t) (evaluated : evaluate call fuel iterable m₀ = .done a m)
    (span : Span) (x : String) (body : List Stmt) : ∃ items store vs o, m.store.Grows store ∧
      List.Forall₂ (fun c q => ¬ m.store.Has (.value q) ∧
        store.cell q = .text (String.singleton c)) t.toList items ∧
      Iterates (round call fuel x body) (·.afterRound.isSome) items { m with store := store }
        vs o ∧
      execute call (fuel + 1) (.forLoop span x iterable body) m₀ =
        o.bind fun flows => pure (lastFlow flows) := by
  obtain ⟨items, store, vs, o, presents, iterates, eq⟩ :=
    for_iterates evaluated (by simp [text, Cell.kind])
  cases presents with
  | array h | map h => cases text.symm.trans h
  | text h grown each =>
    cases text.symm.trans h
    exact ⟨items, store, vs, o, grown, each, iterates, eq⟩

end

/-- All operations with an index agree on the indices that there are. -/
theorem indexed_access_agrees (out : Sink σ) (m : Machine σ) (a : Ref) :
    (∀ items, m.store.cell a = .array items →
      (∀ i n, m.store.cell i = .int n →
        (∀ (k : Nat) element, n.toInt = k → items[k]? = some element →
          Reads m a i (fun _ => .done element m) ∧
          (∀ v, ∃ t, m.store.Refills a (items.toList.set k v) t ∧
            Writes m a i v fun _ _ => .done v { m with store := t }) ∧
          (∀ d, Gives out m .get (a :: i :: Option.toList d) (.done element m)) ∧
          ∃ t, m.store.Refills a (items.toList.eraseIdx k) t ∧
            Gives out m .remove [a, i] (.done element { m with store := t })) ∧
        (¬ (0 ≤ n.toInt ∧ n.toInt < items.size) →
          Reads m a i
            (fun span => .failed ((Fault.elementBounds n items.size).locatedAt span) m) ∧
          (∀ v, Writes m a i v fun _ place =>
            .failed ((Fault.elementBounds n items.size).locatedAt place) m) ∧
          (∀ d, Gives out m .get [a, i, d] (.done d m)) ∧
          Gives out m .get [a, i] (alloc .none m) ∧
          Gives out m .remove [a, i] (alloc .none m)) ∧
        ∀ v,
          (∀ k : Nat, n.toInt = k → k ≤ items.size → ∃ t,
            m.store.Refills a (items.toList.insertIdx k v) t ∧
            Gives out m .insert [a, i, v] (.done a { m with store := t }) ∧
            Gives out { m with store := t } .remove [a, i] (.done v m)) ∧
          (¬ (0 ≤ n.toInt ∧ n.toInt ≤ items.size) →
            Gives out m .insert [a, i, v]
              (.failed (Fault.insertBounds n items.size).diagnostic m))) ∧
      (∀ b e start stop, m.store.cell b = .int start → m.store.cell e = .int stop →
        ∃ first last, Marks items.size start first ∧ Marks items.size stop last ∧
          Gives out m .slice [a, b, e]
            (alloc (.array ((items.toList.drop first).take (last - first)).toArray) m)) ∧
      ∀ zero middle size k n, m.store.cell zero = .int 0 → m.store.cell middle = .int k →
        m.store.cell size = .int n → n.toInt = items.size → ∃ left m₁ right m₂ c m₃,
          Gives out m .slice [a, zero, middle] (.done left m₁) ∧
          Gives out m₁ .slice [a, middle, size] (.done right m₂) ∧
          Gives out m₂ .concat [left, right] (.done c m₃) ∧
          m₃.store.cell c = .array items ∧ m₃.store.equal c a = true) ∧
    ∀ t, m.store.cell a = .text t →
      Gives out m .len [a] (alloc (.int (Int64.ofNat t.toList.length)) m) ∧
      (∀ i n, m.store.cell i = .int n →
        (∀ (k : Nat) c, n.toInt = k → t.toList[k]? = some c →
          Reads m a i fun _ => alloc (.text (String.singleton c)) m) ∧
        (¬ (0 ≤ n.toInt ∧ n.toInt < t.toList.length) →
          Reads m a i fun span => .failed ((Fault.characterBounds n).locatedAt span) m)) ∧
      ∀ call fuel span x iterable body m₀, evaluate call fuel iterable m₀ = .done a m →
        ∃ items store vs o, m.store.Grows store ∧
          List.Forall₂ (fun c q => ¬ m.store.Has (.value q) ∧
            store.cell q = .text (String.singleton c)) t.toList items ∧
          Iterates (round call fuel x body) (·.afterRound.isSome) items { m with store := store }
            vs o ∧
          execute call (fuel + 1) (.forLoop span x iterable body) m₀ =
            o.bind fun flows => pure (lastFlow flows) := by
  constructor
  · intro items array
    refine ⟨fun i n index => ⟨?inside, ?outside, fun v => ⟨?inserted, ?refused⟩⟩, ?sliced, ?joined⟩
    case inside =>
      intro k element eq item
      have bound := (Array.getElem?_eq_some_iff.1 item).1
      refine ⟨reads_inside array index eq item, writes_inside array index eq bound,
        get_inside array index eq item, _, ?_, remove_inside array index eq item⟩
      exact Store.refills_modifyArray array (by simp [Array.eraseIdxIfInBounds, bound])
    case outside =>
      intro outside
      exact ⟨reads_outside array index outside, writes_outside array index outside,
        (get_outside array index outside).1, (get_outside array index outside).2,
        remove_outside array index outside⟩
    case inserted =>
      intro k eq bound
      have refills : m.store.Refills a (items.toList.insertIdx k v) _ :=
        Store.refills_modifyArray array (f := (·.insertIdxIfInBounds k v))
          (by simp [Array.insertIdxIfInBounds, bound])
      refine ⟨_, refills, insert_inside array index eq bound v, ?_⟩
      exact remove_inserted array index eq bound v
    case refused => exact fun outside => insert_outside array index outside v
    case sliced =>
      intro b e start stop hb he
      exact ⟨_, _, marks_sliceBound .., marks_sliceBound .., slice_between array hb he
        (marks_sliceBound ..) (marks_sliceBound ..)⟩
    case joined =>
      intro zero middle size k n hzero hmiddle hsize whole
      exact concat_slices array hzero hmiddle hsize whole
  · intro t text
    refine ⟨len_counts text, fun i n index => ⟨fun k c eq item => ?_, fun outside => ?_⟩, ?_⟩
    · exact reads_character text index eq item
    · exact reads_no_character text index outside
    · intro call fuel span x iterable body m₀ evaluated
      exact for_characters text evaluated span x body

/-- An array of two numbers and the functions that change it. -/
def shelf : Machine Unit where
  store := ⟨#[.array #[.scalar 0 (.int 1), .scalar 1 (.int 2)], .native (.plain .insert),
    .native (.plain .remove), .native (.plain .len)], #[], 2⟩
  scope := ⟨0⟩
  globals := ⟨0⟩
  receiver := .cell 0
  strict := false
  depth := 0
  callSite := none
  sink := ()

theorem indexed_access_agrees_shelf :
    let out : Sink Unit := ⟨fun _ _ _ k => some (.ok (), k)⟩
    (∃ t, t.cell (.cell 0) =
        .array #[.scalar 0 (.int 1), .scalar 0 (.int 1), .scalar 1 (.int 2)] ∧
      call out 1 (.cell 1) none [.cell 0, .scalar 0 (.int 1), .scalar 0 (.int 1)] shelf =
        .done (.cell 0) { shelf with store := t } ∧
      call out 1 (.cell 2) none [.cell 0, .scalar 0 (.int 1)] { shelf with store := t } =
        .done (.scalar 0 (.int 1)) shelf) ∧
    call out 1 (.cell 3) none [.scalar 2 (.text "añb")] shelf = alloc (.int 3) shelf := by
  intro out
  constructor
  · have inserts := ((indexed_access_agrees out shelf (.cell 0)).1 _ rfl).1 (.scalar 0 (.int 1)) 1
      rfl
    obtain ⟨t, refills, inserted, removed⟩ :=
      (inserts.2.2 (.scalar 0 (.int 1))).1 1 rfl (by decide)
    refine ⟨t, refills.items, inserted 0 _ none rfl, removed 0 _ none ?_⟩
    exact (refills.rest.cell (by simp)).trans rfl
  · exact ((indexed_access_agrees out shelf (.scalar 2 (.text "añb"))).2 _ rfl).1 0 _ none rfl

end Run

end LayerScript
