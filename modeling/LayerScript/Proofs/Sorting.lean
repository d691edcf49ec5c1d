import LayerScript.Proofs.Stopping
import LayerScript.Proofs.Traces.Origins

/-!
# Sorting

A sorting compares elements through calls of a function that may do anything meanwhile. Whatever it
answers, the elements are rearranged; where its answers follow an order, the elements end up in that
order, and those that tie keep theirs. The array is written once, when all comparisons have gone
well.
-/

namespace LayerScript

/-! ## Stable sortings -/

section

variable {α : Type} {le : α → α → Bool} {items sorted s t : List α}

/-- Any two of the items are ordered, or they tie. -/
structure Ranks (le : α → α → Bool) (items : List α) : Prop where
  total : ∀ x ∈ items, ∀ y ∈ items, le x y ∨ le y x
  trans : ∀ x ∈ items, ∀ y ∈ items, ∀ z ∈ items, le x y → le y z → le x z

theorem Ranks.refl (h : Ranks le items) {x : α} (mem : x ∈ items) : le x x :=
  (h.total x mem x mem).elim id id

theorem Ranks.subset (h : Ranks le items) (sub : s ⊆ items) : Ranks le s where
  total x hx y hy := h.total x (sub hx) y (sub hy)
  trans x hx y hy z hz := h.trans x (sub hx) y (sub hy) z (sub hz)

/-- The items in order. Those that tie with one another, whichever are picked, keep theirs. -/
structure StablySorts (le : α → α → Bool) (items sorted : List α) : Prop where
  perm : sorted.Perm items
  ordered : sorted.Pairwise (le · ·)
  ties : ∀ pick : α → Bool, (∀ x ∈ items, ∀ y ∈ items, pick x → pick y → le x y) →
    sorted.filter pick = items.filter pick

/-- Two sorted lists of the same items are one when they agree on those that tie. -/
theorem eq_of_ties (ranks : Ranks le s) (hs : s.Pairwise (le · ·)) (ht : t.Pairwise (le · ·))
    (perm : s.Perm t)
    (ties : ∀ x ∈ s, s.filter (fun y => le x y && le y x) = t.filter fun y => le x y && le y x) :
    s = t := by
  induction s generalizing t with
  | nil => exact (List.nil_perm.1 perm).symm
  | cons x s ih =>
    cases t with
    | nil => exact absurd perm.length_eq (by simp)
    | cons y t =>
      have mem : y ∈ x :: s := perm.mem_iff.2 List.mem_cons_self
      have mem' : x ∈ y :: t := perm.mem_iff.1 List.mem_cons_self
      have xx : le x x := ranks.refl List.mem_cons_self
      have yy : le y y := ranks.refl mem
      have xy : le x y := by
        rcases List.mem_cons.1 mem with rfl | mem
        · exact xx
        · exact List.rel_of_pairwise_cons hs mem
      have yx : le y x := by
        rcases List.mem_cons.1 mem' with rfl | mem'
        · exact xx
        · exact List.rel_of_pairwise_cons ht mem'
      obtain rfl : x = y := by
        have same := ties x List.mem_cons_self
        rw [List.filter_cons_of_pos (by simp [xx]), List.filter_cons_of_pos (by simp [xy, yx])]
          at same
        exact (List.cons.inj same).1
      refine congrArg _ (ih (ranks.subset (List.subset_cons_self x s)) hs.of_cons ht.of_cons
        ((List.perm_cons x).1 perm) fun z mem => ?_)
      have same := ties z (List.mem_cons_of_mem _ mem)
      by_cases tie : (le z x && le x z) = true
      · simp only [List.filter_cons, if_pos tie] at same
        exact (List.cons.inj same).2
      · simpa only [List.filter_cons, if_neg tie] using same

theorem StablySorts.unique (ranks : Ranks le items) (hs : StablySorts le items s)
    (ht : StablySorts le items t) : s = t := by
  refine eq_of_ties (ranks.subset hs.perm.subset) hs.ordered ht.ordered
    (hs.perm.trans ht.perm.symm) fun x mem => ?_
  have hx := hs.perm.subset mem
  have tied : ∀ y ∈ items, ∀ z ∈ items, (le x y && le y x) → (le x z && le z x) → le y z := by
    intro y hy z hz first second
    simp only [Bool.and_eq_true] at first second
    exact ranks.trans y hy x hx z hz first.2 second.1
  rw [hs.ties _ tied, ht.ties _ tied]

/-- An item is inserted behind the last one that does not come after it. -/
theorem StablySorts.insert {x : α} {front behind : List α} (ranks : Ranks le (items ++ [x]))
    (h : StablySorts le items (front ++ behind)) (last : ∀ y ∈ front.getLast?, le y x)
    (after : ∀ y ∈ behind, ¬ le y x) : StablySorts le (items ++ [x]) (front ++ x :: behind) := by
  have new : x ∈ items ++ [x] := List.mem_append_right _ List.mem_cons_self
  have old {y : α} (mem : y ∈ front ++ behind) : y ∈ items ++ [x] :=
    List.mem_append_left _ (h.perm.subset mem)
  obtain ⟨sortedFront, sortedBehind, apart⟩ := List.pairwise_append.1 h.ordered
  have before : ∀ y ∈ front, le y x := by
    cases ended : front.getLast? with
    | none => simp [List.getLast?_eq_none_iff.1 ended]
    | some z =>
      have placed : le z x := last z ended
      obtain ⟨initial, rfl⟩ := List.getLast?_eq_some_iff.1 ended
      intro y mem
      rcases List.mem_append.1 mem with earlier | mem
      · have ahead : le y z :=
          (List.pairwise_append.1 sortedFront).2.2 y earlier z List.mem_cons_self
        exact ranks.trans y (old (by simp [earlier])) z (old (by simp)) x new ahead placed
      · obtain rfl := List.mem_singleton.1 mem
        exact placed
  constructor
  case perm =>
    exact List.perm_middle.trans ((h.perm.cons x).trans (List.perm_append_singleton x items).symm)
  case ordered =>
    refine List.pairwise_append.2 ⟨sortedFront, ?_, ?_⟩
    · refine List.pairwise_cons.2 ⟨fun y mem => ?_, sortedBehind⟩
      have ranked := ranks.total x new y (old (List.mem_append_right _ mem))
      exact ranked.resolve_right (after y mem)
    · intro y hy z hz
      rcases List.mem_cons.1 hz with rfl | hz
      · exact before y hy
      · exact apart y hy z hz
  case ties =>
    intro pick tied
    have kept : (front ++ behind).filter pick = items.filter pick := by
      refine h.ties pick fun y hy z hz => tied y ?_ z ?_
      · exact List.mem_append_left _ hy
      · exact List.mem_append_left _ hz
    rw [List.filter_append] at kept
    rw [List.filter_append, List.filter_append, ← kept]
    by_cases picked : pick x
    · -- what ties with the new item does not stand behind it
      have nothing : behind.filter pick = [] := by
        refine List.filter_eq_nil_iff.2 fun y mem hy => after y mem ?_
        exact tied y (old (List.mem_append_right _ mem)) x new hy picked
      simp [picked, nothing]
    · simp [picked]

end

/-! ## The calls of a routine -/

/-- A call that a routine makes, and the machine it is made on. -/
structure Invocation (σ : Type) where
  function : Ref
  receiver : Option Ref
  args : List Ref
  machine : Machine σ

namespace Routine

variable {σ α β : Type} {p : Part}

/-- The calls that a routine makes, one after the other, without those inside them. -/
def invocations (out : Sink σ) (call : Caller σ) :
    {p : Part} → {α : Type} → Routine σ p α → Machine σ → List (Invocation σ)
  | _, _, .pure _, _ => []
  | _, _, .bind x f, m =>
    x.invocations out call m ++ (x.run out call m).andThen fun a m => (f a).invocations out call m
  | _, _, .exhausted, _ | _, _, .read _, _ | _, _, .onStore _, _ => []
  | _, _, .raise _, _ | _, _, .raiseAt .., _ => []
  | _, _, .inScope scope x, m => x.invocations out call { m with scope := scope }
  | _, _, .atCall _ x, m => x.invocations out call m
  | _, _, .call f receiver args, m => [⟨f, receiver, args, m⟩]
  | _, _, .activation _ _ ready body, m =>
    if callLimit ≤ m.depth then []
    else
      ready.invocations out call m ++ (ready.run out call m).andThen fun frame m =>
        body.invocations out call (m.entering frame)
  | _, _, .write .., _ => []

variable {out : Sink σ} {call : Caller σ} {m m' : Machine σ}

theorem invocations_bind (x : Routine σ p α) (f : α → Routine σ p β) :
    (x >>= f).invocations out call m = x.invocations out call m ++
      (x.run out call m).andThen fun a m => (f a).invocations out call m :=
  rfl

@[simp] theorem invocations_check (f : Store → Except Fault α) :
    (check f).invocations out call m = [] := by
  rw [check, invocations_bind]
  simp only [run_read, Run.read, Outcome.andThen]
  cases f m.store <;> rfl

end Routine

/-! ## Comparisons -/

section

variable {σ α β : Type} {out : Sink σ} {call : Caller σ} {f : Ref} {items : List Ref}
  {m m' : Machine σ} {made rest : List (Invocation σ)}

namespace Invocation

variable (q : Invocation σ)

/-- Two of the items are given to the function. -/
structure Compares (f : Ref) (items : List Ref) : Prop where
  function : q.function = f
  receiver : q.receiver = none
  args : ∃ x ∈ items, ∃ y ∈ items, q.args = [x, y]

/-- The call returns a number. -/
def Finds (call : Caller σ) (order : Float) (after : Machine σ) : Prop :=
  ∃ verdict, call q.function q.receiver q.args q.machine = .done verdict after ∧
    after.store.numberOf "std.collections.sort_by" verdict = .ok order

/-- The call fails, or returns something else than a number. -/
inductive Breaks (call : Caller σ) : Diagnostic → Machine σ → Prop
  | failed {d : Diagnostic} {after : Machine σ}
    (ended : call q.function q.receiver q.args q.machine = .failed d after) : Breaks call d after
  | verdict {verdict : Ref} {fault : Fault} {after : Machine σ}
    (ended : call q.function q.receiver q.args q.machine = .done verdict after)
    (other : after.store.numberOf "std.collections.sort_by" verdict = .error fault) :
    Breaks call fault.diagnostic after

/-- If the call returns a number, then it tells whether the first item may come first. -/
def Follows (call : Caller σ) (le : Ref → Ref → Bool) : Prop :=
  ∀ x y order after, q.args = [x, y] → q.Finds call order after → (order ≤ 0 ↔ le x y)

end Invocation

/-- Comparisons of items, one after the other. Each begins where the one before it has ended, and
gives a number. -/
def Compared (call : Caller σ) (f : Ref) (items : List Ref) :
    Machine σ → List (Invocation σ) → Machine σ → Prop
  | m, [], m' => m' = m
  | m, q :: made, m' => q.machine = m ∧ q.Compares f items ∧
      ∃ order next, q.Finds call order next ∧ Compared call f items next made m'

theorem Compared.append {m'' : Machine σ} (h : Compared call f items m made m')
    (h' : Compared call f items m' rest m'') : Compared call f items m (made ++ rest) m'' := by
  induction made generalizing m with
  | nil =>
    obtain rfl : m' = m := h
    exact h'
  | cons q made ih =>
    obtain ⟨same, compares, order, next, finds, more⟩ := h
    exact ⟨same, compares, order, next, finds, ih more⟩

/-- A run that compares items ends as its comparisons do: its result is as `P` says if all have gone
well, and otherwise it ends with the last one. -/
inductive Settles (call : Caller σ) (f : Ref) (items : List Ref)
    (P : List (Invocation σ) → α → Prop) (m : Machine σ) : List (Invocation σ) → Outcome σ α → Prop
  | done {made : List (Invocation σ)} {a : α} {m' : Machine σ}
    (compared : Compared call f items m made m') (holds : P made a) :
    Settles call f items P m made (.done a m')
  | failed {earlier : List (Invocation σ)} {last : Invocation σ} {d : Diagnostic} {m' : Machine σ}
    (compared : Compared call f items m earlier last.machine) (compares : last.Compares f items)
    (breaks : last.Breaks call d m') :
    Settles call f items P m (earlier ++ [last]) (.failed d m')
  | exhausted {earlier : List (Invocation σ)} {last : Invocation σ}
    (compared : Compared call f items m earlier last.machine) (compares : last.Compares f items)
    (endless : call last.function last.receiver last.args last.machine = .exhausted) :
    Settles call f items P m (earlier ++ [last]) .exhausted

namespace Settles

variable {P : List (Invocation σ) → α → Prop} {Q : List (Invocation σ) → β → Prop}

theorem mono {P' : List (Invocation σ) → α → Prop} {o : Outcome σ α}
    (h : Settles call f items P m made o) (imp : ∀ made a, P made a → P' made a) :
    Settles call f items P' m made o := by
  cases h with
  | done compared holds => exact .done compared (imp _ _ holds)
  | failed compared compares breaks => exact .failed compared compares breaks
  | exhausted compared compares endless => exact .exhausted compared compares endless

theorem prepend (earlier : List (Invocation σ)) {m₀ : Machine σ} {o : Outcome σ α}
    (first : Compared call f items m₀ earlier m)
    (h : Settles call f items (fun made => P (earlier ++ made)) m made o) :
    Settles call f items P m₀ (earlier ++ made) o := by
  cases h with
  | done compared holds => exact .done (first.append compared) holds
  | failed compared compares breaks =>
    rw [← List.append_assoc]
    exact .failed (first.append compared) compares breaks
  | exhausted compared compares endless =>
    rw [← List.append_assoc]
    exact .exhausted (first.append compared) compares endless

theorem bind {x : Run σ α} {g : α → Run σ β} {more : α → Machine σ → List (Invocation σ)}
    (h : Settles call f items P m made (x m))
    (next : ∀ a m', P made a →
      Settles call f items (fun rest => Q (made ++ rest)) m' (more a m') (g a m')) :
    Settles call f items Q m (made ++ (x m).andThen more) (x.bind g m) := by
  unfold Run.bind
  cases ended : x m with
  | done a m' =>
    rw [ended] at h
    cases h with
    | done compared holds => exact (next a m' holds).prepend made compared
  | failed d m' =>
    rw [ended] at h
    cases h with
    | failed compared compares breaks =>
      rw [Outcome.andThen, List.append_nil]
      exact .failed compared compares breaks
  | exhausted =>
    rw [ended] at h
    cases h with
    | exhausted compared compares endless =>
      rw [Outcome.andThen, List.append_nil]
      exact .exhausted compared compares endless

theorem compare {x y : Ref} {g : Float → Routine σ .call β} (hx : x ∈ items) (hy : y ∈ items)
    (next : ∀ order m', (⟨f, none, [x, y], m⟩ : Invocation σ).Finds call order m' →
      Settles call f items (fun rest => Q (⟨f, none, [x, y], m⟩ :: rest)) m'
        ((g order).invocations out call m') ((g order).run out call m')) :
    Settles call f items Q m
      ((Routine.call f none [x, y] >>= fun r => Routine.orderNumber r >>= g).invocations out call m)
      ((Routine.call f none [x, y] >>= fun r => Routine.orderNumber r >>= g).run out call m) := by
  let q : Invocation σ := ⟨f, none, [x, y], m⟩
  have compares : q.Compares f items := ⟨rfl, rfl, x, hx, y, hy, rfl⟩
  have begun : Compared call f items m [] q.machine := rfl
  rw [Routine.invocations_bind, Routine.run_bind]
  show Settles call f items Q m ([q] ++ (call f none [x, y] m).andThen _)
    ((call f none [x, y]).bind _ m)
  unfold Run.bind
  cases ended : call f none [x, y] m with
  | done verdict m' =>
    have number : (Routine.orderNumber verdict : Routine σ .call Float).run out call m' =
        Run.orderNumber verdict m' := congrFun (Routine.run_orderNumber out call verdict) m'
    simp only [Outcome.andThen, Routine.invocations_bind, Routine.run_bind, Routine.orderNumber,
      Routine.invocations_check, List.nil_append]
    show Settles call f items Q m ([q] ++ ((Routine.orderNumber verdict).run out call m').andThen _)
      (((Routine.orderNumber verdict).run out call).bind _ m')
    unfold Run.bind
    rw [number, Run.orderNumber, Run.check]
    cases found : m'.store.numberOf "std.collections.sort_by" verdict with
    | ok order =>
      have finds : q.Finds call order m' := ⟨verdict, ended, found⟩
      exact (next order m' finds).prepend [q] ⟨rfl, compares, order, m', finds, rfl⟩
    | error fault => exact .failed begun compares (.verdict ended found)
  | failed d m' => exact .failed begun compares (.failed ended)
  | exhausted => exact .exhausted begun compares ended

end Settles

/-- The item is put in its place behind `before`. -/
structure Placed (call : Caller σ) (item : Ref) (sorted : List Ref) (made : List (Invocation σ))
    (placed after before : List Ref) : Prop where
  split : sorted = after ++ before
  joined : placed = after ++ item :: before
  ranked : ∀ le, (∀ q ∈ made, q.Follows call le) →
    (∀ y ∈ after, ¬ le y item) ∧ ∀ y ∈ before.head?, le y item

theorem insertItem_settles {item : Ref} {sorted : List Ref} (mem : item ∈ items)
    (sub : sorted ⊆ items) (m : Machine σ) :
    Settles call f items (fun made placed => ∃ after before,
      Placed call item sorted made placed after before) m
      ((Routine.insertItem f item sorted).invocations out call m)
      ((Routine.insertItem f item sorted).run out call m) := by
  induction sorted generalizing m with
  | nil => exact .done rfl ⟨[], [], rfl, rfl, by simp⟩
  | cons last before ih =>
    rw [List.cons_subset] at sub
    refine .compare sub.1 mem fun order m' finds => ?_
    by_cases behind : order ≤ 0
    · rw [if_pos behind]
      refine .done rfl ⟨[], last :: before, rfl, rfl, fun le follows => ⟨by simp, ?_⟩⟩
      rintro _ ⟨⟩
      exact (follows _ List.mem_cons_self last item order m' rfl finds).1 behind
    · rw [if_neg behind]
      rw [Routine.invocations_bind, Routine.run_bind]
      refine (ih sub.2 m').bind fun placed m'' h => ?_
      obtain ⟨after, earlier, placed⟩ := h
      refine .done rfl ⟨last :: after, earlier, ?_, ?_, fun le follows => ?_⟩
      · rw [placed.split, List.cons_append]
      · rw [placed.joined, List.cons_append]
      · have ranked := placed.ranked le fun q mem => follows q (by simp [mem])
        refine ⟨List.forall_mem_cons.2 ⟨fun le_item => behind ?_, ranked.1⟩, ranked.2⟩
        exact (follows _ List.mem_cons_self last item order m' rfl finds).2 le_item

/-- The items are rearranged, and they are in order if the comparisons follow one. -/
structure Arranged (call : Caller σ) (items sorted : List Ref) (made : List (Invocation σ))
    (arranged : List Ref) : Prop where
  perm : arranged.Perm (items ++ sorted)
  stable : ∀ le, (∀ q ∈ made, q.Follows call le) → ∀ seen, Ranks le (seen ++ items) →
    StablySorts le seen sorted.reverse → StablySorts le (seen ++ items) arranged.reverse

theorem sortItems_settles {more sorted : List Ref} (sub : more ⊆ items) (sub' : sorted ⊆ items)
    (m : Machine σ) :
    Settles call f items (Arranged call more sorted) m
      ((Routine.sortItems f sorted more).invocations out call m)
      ((Routine.sortItems f sorted more).run out call m) := by
  induction more generalizing sorted m with
  | nil => exact .done rfl ⟨.refl _, fun le follows seen ranks h => by simpa using h⟩
  | cons item more ih =>
    rw [List.cons_subset] at sub
    rw [Routine.sortItems, Routine.invocations_bind, Routine.run_bind]
    refine (insertItem_settles sub.1 sub' m).bind fun placed m' h => ?_
    obtain ⟨after, before, h⟩ := h
    have perm : placed.Perm (item :: sorted) := by
      rw [h.joined, h.split]
      exact List.perm_middle
    have within : placed ⊆ items := fun r mem => by
      rcases List.mem_cons.1 (perm.subset mem) with rfl | mem
      · exact sub.1
      · exact sub' mem
    refine (ih sub.2 within m').mono fun rest arranged h' => ?_
    constructor
    case perm =>
      exact h'.perm.trans ((perm.append_left more).trans List.perm_middle)
    case stable =>
      -- the items seen so far are sorted, from the last to the first
      intro le follows seen ranks stable
      have ranked := h.ranked le fun q mem => follows q (List.mem_append_left _ mem)
      have shift : seen ++ item :: more = (seen ++ [item]) ++ more := by simp
      rw [shift] at ranks ⊢
      refine h'.stable le (fun q mem => follows q (List.mem_append_right _ mem)) _ ranks ?_
      rw [h.split, List.reverse_append] at stable
      have inserted := stable.insert (ranks.subset (List.subset_append_left ..)) (x := item) ?_ ?_
      · simpa [h.joined] using inserted
      · simpa using ranked.2
      · simpa using ranked.1

/-! ## Sorting an array -/

theorem Compared.finds (h : Compared call f items m made m') :
    ∀ q ∈ made, q.Compares f items ∧ ∃ order after, q.Finds call order after := by
  induction made generalizing m with
  | nil => exact fun _ mem => nomatch mem
  | cons q made ih =>
    obtain ⟨-, compares, order, next, finds, more⟩ := h
    exact List.forall_mem_cons.2 ⟨⟨compares, order, next, finds⟩, ih more⟩

theorem Invocation.Finds.not_breaks {q : Invocation σ} {order : Float} {d : Diagnostic}
    {after : Machine σ} (h : q.Finds call order after) : ¬ q.Breaks call d m' := by
  obtain ⟨verdict, ended, found⟩ := h
  intro breaks
  cases breaks with
  | failed ended' => cases ended.symm.trans ended'
  | verdict ended' other =>
    cases ended.symm.trans ended'
    cases found.symm.trans other

theorem Invocation.Breaks.unique {q : Invocation σ} {d d' : Diagnostic} {after after' : Machine σ}
    (h : q.Breaks call d after) (h' : q.Breaks call d' after') : d = d' ∧ after = after' := by
  cases h with
  | failed ended =>
    cases h' with
    | failed ended' =>
      cases ended.symm.trans ended'
      exact ⟨rfl, rfl⟩
    | verdict ended' _ => cases ended.symm.trans ended'
  | verdict ended other =>
    cases h' with
    | failed ended' => cases ended.symm.trans ended'
    | verdict ended' other' =>
      cases ended.symm.trans ended'
      cases other.symm.trans other'
      exact ⟨rfl, rfl⟩

namespace Settles

variable {P : List (Invocation σ) → α → Prop} {o : Outcome σ α}

theorem compares (h : Settles call f items P m made o) : ∀ q ∈ made, q.Compares f items := by
  intro q mem
  cases h with
  | done compared => exact (compared.finds q mem).1
  | failed compared compares | exhausted compared compares =>
    rcases List.mem_append.1 mem with mem | mem
    · exact (compared.finds q mem).1
    · exact List.mem_singleton.1 mem ▸ compares

theorem failed_of_breaks {q : Invocation σ} {d : Diagnostic} (h : Settles call f items P m made o)
    (mem : q ∈ made) (breaks : q.Breaks call d m') : o = .failed d m' := by
  -- only the last comparison can break
  have whole {earlier : List (Invocation σ)} {mid : Machine σ}
      (compared : Compared call f items m earlier mid) (mem : q ∈ earlier) : False := by
    obtain ⟨order, after, finds⟩ := (compared.finds q mem).2
    exact finds.not_breaks breaks
  cases h with
  | done compared => exact (whole compared mem).elim
  | failed compared _ breaks' =>
    rcases List.mem_append.1 mem with mem | mem
    · exact (whole compared mem).elim
    · obtain rfl := List.mem_singleton.1 mem
      obtain ⟨rfl, rfl⟩ := breaks'.unique breaks
      rfl
  | exhausted compared _ endless =>
    rcases List.mem_append.1 mem with mem | mem
    · exact (whole compared mem).elim
    · obtain rfl := List.mem_singleton.1 mem
      cases breaks with
      | failed ended | verdict ended _ => cases endless.symm.trans ended

end Settles

/-- What comes of sorting the array `a` of these items with the function `f`. -/
structure SortsBy (call : Caller σ) (a f : Ref) (items : Array Ref) (m : Machine σ)
    (made : List (Invocation σ)) (o : Outcome σ Ref) : Prop where
  compares : ∀ q ∈ made, q.Compares f items.toList
  returns : ∀ r m', o = .done r m' → r = a ∧ ∃ mid sorted,
    Compared call f items.toList m made mid ∧
    m' = { mid with store := mid.store.modifyArray a fun _ => sorted } ∧
    m'.store.cell a = .array sorted ∧ sorted.toList.Perm items.toList ∧
    ∀ le, Ranks le items.toList → (∀ q ∈ made, q.Follows call le) →
      StablySorts le items.toList sorted.toList ∧
      ∀ other, StablySorts le items.toList other → other = sorted.toList
  breaks : ∀ q ∈ made, ∀ d m', q.Breaks call d m' → o = .failed d m'
  fails : ∀ d m', o = .failed d m' → ∃ earlier last, made = earlier ++ [last] ∧
    Compared call f items.toList m earlier last.machine ∧ last.Breaks call d m'

theorem Leads.lasts {c c' : Store × σ} {ms : List (Moment σ)} (h : Leads c ms c')
    (lasts : ∀ now ∈ ms, ∀ store, now.deed = .change store → now.machine.store.Lasts store) :
    c.1.Lasts c'.1 := by
  induction ms generalizing c with
  | nil =>
    obtain rfl : c' = c := h
    exact .refl _
  | cons now ms ih =>
    obtain ⟨rfl, more⟩ := h
    rw [List.forall_mem_cons] at lasts
    refine Store.Lasts.trans ?_ (ih more lasts.2)
    unfold Moment.after
    split
    · exact .refl _
    · exact .refl _
    · next store deed => exact lasts.1 store deed
    · exact .refl _

theorem Routine.Enacts.lasts {fuel : Nat} {x : Routine σ .call α} {a : α} (h : x.Enacts .none)
    (ended : x.run out (Run.call out fuel) m = .done a m') : m.store.Lasts m'.store := by
  have account := (watched_call out fuel).routine out x [] m
  rw [ended] at account
  refine (account.leads m' rfl).lasts fun now mem => ?_
  obtain ⟨inner, lexical⟩ := h.lexicalAt (Caller.keeps_call out fuel)
    (Watcher.lexical_callMoments out fuel) (Code.none_within []) m now mem
  exact lexical.lasts

theorem Settles.sortsBy {a : Ref} {items : Array Ref} {x : Run σ (List Ref)}
    (h : Settles call f items.toList (Arranged call items.toList []) m made (x m))
    (lasts : ∀ sorted mid, x m = .done sorted mid → ∃ before, mid.store.cell a = .array before) :
    SortsBy call a f items m made ((x.bind fun sorted => Run.onStore fun s =>
      (a, s.modifyArray a fun _ => sorted.reverse.toArray)) m) := by
  unfold Run.bind
  generalize ended : x m = o at h
  refine ⟨h.compares, ?returns, fun q mem d m' breaks => ?breaks, ?fails⟩
  case breaks => rw [h.failed_of_breaks mem breaks]
  case returns =>
    cases h with
    | @done _ sorted mid compared arranged =>
      rintro _ _ ⟨⟩
      obtain ⟨before, found⟩ := lasts sorted mid ended
      refine ⟨rfl, mid, _, compared, rfl, Store.cell_modifyArray_self found _, ?_, ?_⟩
      · exact (List.reverse_perm sorted).trans (by simpa using arranged.perm)
      · intro le ranks follows
        have empty : StablySorts le [] ([] : List Ref).reverse := ⟨.refl _, .nil, fun _ _ => rfl⟩
        have stable := arranged.stable le follows [] ranks empty
        exact ⟨stable, fun other sorts => sorts.unique ranks stable⟩
    | failed | exhausted => exact nofun
  case fails =>
    cases h with
    | @failed earlier last _ _ compared _ breaks =>
      rintro _ _ ⟨⟩
      exact ⟨earlier, last, rfl, compared, breaks⟩
    | done | exhausted => exact nofun

theorem Run.call_sortBy (out : Sink σ) (fuel : Nat) (g a f : Ref) (receiver : Option Ref)
    (m : Machine σ) (items : Array Ref) (hg : m.store.cell g = .native (.traversal .sortBy))
    (ha : m.store.cell a = .array items) :
    SortsBy (Run.call out fuel) a f items m
      ((Routine.traverse .sortBy [a, f]).invocations out (Run.call out fuel) m)
      (Run.call out (fuel + 1) g receiver [a, f] m) := by
  let sort : Routine σ .call (List Ref) := .sortItems f [] items.toList
  have invocations : (Routine.traverse .sortBy [a, f]).invocations out (Run.call out fuel) m =
      sort.invocations out (Run.call out fuel) m := by
    have looked :
        (Routine.cell a : Routine σ .call Cell).invocations out (Run.call out fuel) m = [] := rfl
    simp only [Routine.traverse, Routine.invocations_bind, Routine.run_cell, Run.cell,
      Outcome.andThen, ha, looked, List.nil_append]
    cases sort.run out (Run.call out fuel) m <;> exact List.append_nil _
  have run : Run.call out (fuel + 1) g receiver [a, f] m =
      ((sort.run out (Run.call out fuel)).bind fun sorted => Run.onStore fun s =>
        (a, s.modifyArray a fun _ => sorted.reverse.toArray)) m := by
    show Run.activate out (Run.call out fuel) fuel g receiver [a, f] m = _
    simp only [Run.activate, bind, Run.bind, Run.cell, hg, Run.traverse, ha, sort,
      Routine.run_sortItems]
  rw [invocations, run]
  refine (sortItems_settles (List.Subset.refl _) (List.nil_subset _) m).sortsBy ?_
  intro sorted mid ended
  exact (Routine.Enacts.sortItems f [] items.toList).lasts ended |>.array ha

/-- What cannot be called fails at the first two elements, and the array is as it was. One element
alone is not compared. -/
theorem Run.call_sortBy_uncompared :
    let out : Sink Unit := ⟨fun _ _ _ k => some (.ok (), k)⟩
    let machine (items : Array Ref) : Machine Unit :=
      ⟨⟨#[.native (.traversal .sortBy), .array items, .none], #[], 0⟩, ⟨0⟩, ⟨0⟩, .cell 2, false, 0,
        none, ()⟩
    let sort (items : Array Ref) : Outcome Unit Ref :=
      Run.call out 2 (.cell 0) none [.cell 1, .cell 2] (machine items)
    (machine #[.cell 0, .cell 2]).store.cell (.cell 0) = .native (.traversal .sortBy) ∧
      (machine #[.cell 0, .cell 2]).store.cell (.cell 1) = .array #[.cell 0, .cell 2] ∧
      sort #[.cell 0, .cell 2] =
        .failed (Fault.notCallable .unit).diagnostic (machine #[.cell 0, .cell 2]) ∧
      ∃ m', sort #[.cell 0] = .done (.cell 1) m' ∧ m'.store.cell (.cell 1) = .array #[.cell 0] := by
  intro out machine sort
  have two := Run.call_sortBy out 1 (.cell 0) (.cell 1) (.cell 2) none
    (machine #[.cell 0, .cell 2]) #[.cell 0, .cell 2] rfl rfl
  have one := Run.call_sortBy out 1 (.cell 0) (.cell 1) (.cell 2) none
    (machine #[.cell 0]) #[.cell 0] rfl rfl
  refine ⟨rfl, rfl, ?_, ?_⟩
  · exact two.breaks ⟨.cell 2, none, [.cell 0, .cell 2], machine #[.cell 0, .cell 2]⟩
      List.mem_cons_self _ _ (.failed rfl)
  · obtain ⟨m', ended⟩ : ∃ m', sort #[.cell 0] = .done (.cell 1) m' := ⟨_, rfl⟩
    obtain ⟨-, mid, sorted, -, -, holds, perm, -⟩ := one.returns _ m' ended
    obtain rfl : sorted = #[.cell 0] := Array.toList_inj.1 (List.perm_singleton.1 perm)
    exact ⟨m', ended, holds⟩

end

end LayerScript
