import LayerScript.Machine.Basic
import Mathlib.Data.List.Infix

/-!
# Iterations over fixed items

An iteration takes its items when it begins. What runs during the visits may change the collection
that the items come from as it likes: which items are visited, in which order and with which numbers
does not depend on it, and there are no more visits than items.
-/

namespace LayerScript

variable {σ α β γ : Type}

namespace Outcome

/-- What comes of a run that goes on after an outcome. -/
def bind (o : Outcome σ α) (f : α → Run σ β) : Outcome σ β :=
  match o with
  | .done a m => f a m
  | .failed d m => .failed d m
  | .exhausted => .exhausted

theorem bind_assoc (o : Outcome σ α) (f : α → Run σ β) (g : β → Run σ γ) :
    (o.bind f).bind g = o.bind fun a m => (f a m).bind g := by
  cases o <;> rfl

theorem bind_congr {o : Outcome σ α} {f g : α → Run σ β} (h : ∀ a m, f a m = g a m) :
    o.bind f = o.bind g := by
  cases o with
  | done a m => exact h a m
  | failed d m => rfl
  | exhausted => rfl

theorem exists_of_bind {o : Outcome σ α} {f : α → Run σ β} {b : β} {m' : Machine σ}
    (h : o.bind f = .done b m') : ∃ a m, o = .done a m ∧ f a m = .done b m' := by
  cases o with
  | done a m => exact ⟨a, m, rfl, h⟩
  | failed d m => cases h
  | exhausted => cases h

end Outcome

theorem Run.bind_eq (x : Run σ α) (f : α → Run σ β) (m : Machine σ) :
    (x >>= f) m = (x m).bind f :=
  rfl

/-- A visit to an item: the number of the item, the machine that the visit begins on, and what comes
of it. -/
structure Visit (σ β : Type) where
  number : Nat
  item : Ref
  machine : Machine σ
  outcome : Outcome σ β

section

variable (visit : List β → Ref → Run σ β) (stops : β → Bool)

/-- Visits items one after the other until an answer stops it. A visit is given the answers of those
before it, and so the number of its item. -/
def Run.visiting (earlier : List β) : List Ref → Run σ (List β)
  | [] => pure []
  | item :: items => do
    let answer ← visit earlier item
    if stops answer then pure [answer]
    else do
      let answers ← visiting (earlier ++ [answer]) items
      pure (answer :: answers)

/-- The visits that an iteration makes, and how it ends. Each begins on the machine that the one
before it has left. The iteration ends with the last item, with an answer that stops it, or with a
visit that fails or does not end. -/
inductive Visits : List β → List Ref → Machine σ → List (Visit σ β) → Outcome σ (List β) → Prop
  | finished (earlier : List β) (m : Machine σ) : Visits earlier [] m [] (.done [] m)
  | next {earlier : List β} {item : Ref} {items : List Ref} {m m' : Machine σ} {answer : β}
    {vs : List (Visit σ β)} {o : Outcome σ (List β)}
    (answered : visit earlier item m = .done answer m') (goes : ¬ stops answer)
    (rest : Visits (earlier ++ [answer]) items m' vs o) :
    Visits earlier (item :: items) m (⟨earlier.length, item, m, .done answer m'⟩ :: vs)
      (o.bind fun answers => pure (answer :: answers))
  | stopped {earlier : List β} {item : Ref} {items : List Ref} {m m' : Machine σ} {answer : β}
    (answered : visit earlier item m = .done answer m') (stop : stops answer) :
    Visits earlier (item :: items) m [⟨earlier.length, item, m, .done answer m'⟩]
      (.done [answer] m')
  | failed {earlier : List β} {item : Ref} {items : List Ref} {m m' : Machine σ} {d : Diagnostic}
    (broke : visit earlier item m = .failed d m') :
    Visits earlier (item :: items) m [⟨earlier.length, item, m, .failed d m'⟩] (.failed d m')
  | exhausted {earlier : List β} {item : Ref} {items : List Ref} {m : Machine σ}
    (endless : visit earlier item m = .exhausted) :
    Visits earlier (item :: items) m [⟨earlier.length, item, m, .exhausted⟩] .exhausted

end

section

variable {visit : List β → Ref → Run σ β} {stops : β → Bool} {earlier : List β}
  {items : List Ref} {m : Machine σ} {vs : List (Visit σ β)} {o : Outcome σ (List β)}

theorem Run.visiting_cons (item : Ref) : Run.visiting visit stops earlier (item :: items) m =
    (visit earlier item m).bind fun answer =>
      if stops answer then pure [answer]
      else Run.visiting visit stops (earlier ++ [answer]) items >>= fun answers =>
        pure (answer :: answers) :=
  rfl

theorem exists_visits (visit : List β → Ref → Run σ β) (stops : β → Bool) (earlier : List β)
    (items : List Ref) (m : Machine σ) :
    ∃ vs, Visits visit stops earlier items m vs (Run.visiting visit stops earlier items m) := by
  induction items generalizing earlier m with
  | nil => exact ⟨[], .finished earlier m⟩
  | cons item items ih =>
    rw [Run.visiting_cons]
    cases answered : visit earlier item m with
    | done answer m' =>
      dsimp only [Outcome.bind]
      split
      next stop => exact ⟨_, .stopped answered stop⟩
      next goes =>
        obtain ⟨vs, rest⟩ := ih (earlier ++ [answer]) m'
        exact ⟨_, .next answered goes rest⟩
    | failed d m' => exact ⟨_, .failed answered⟩
    | exhausted => exact ⟨_, .exhausted answered⟩

theorem Visits.in_order (h : Visits visit stops earlier items m vs o) :
    vs.map (·.item) <+: items := by
  induction h with
  | finished => exact List.nil_prefix
  | next _ _ _ ih => exact List.cons_prefix_cons.2 ⟨rfl, ih⟩
  | stopped | failed | exhausted => exact List.cons_prefix_cons.2 ⟨rfl, List.nil_prefix⟩

theorem Visits.numbered (h : Visits visit stops earlier items m vs o) :
    vs.map (·.number) = List.range' earlier.length vs.length := by
  induction h with
  | finished => rfl
  | next _ _ _ ih => simpa [List.range'_succ] using ih
  | stopped | failed | exhausted => rfl

/-- When an iteration has come to its end, each visit has an answer, and all items have been visited
unless the last answer stopped it. -/
theorem Visits.answered (h : Visits visit stops earlier items m vs o) {answers : List β}
    {m' : Machine σ} (done : o = .done answers m') : answers.length = vs.length ∧
      (vs.length = items.length ∨ ∃ answer, answers.getLast? = some answer ∧ stops answer) := by
  induction h generalizing answers with
  | finished =>
    cases done
    exact ⟨rfl, .inl rfl⟩
  | next _ _ _ ih =>
    obtain ⟨answers, m, done, eq⟩ := Outcome.exists_of_bind done
    cases eq
    obtain ⟨size, whole⟩ := ih done
    refine ⟨congrArg (· + 1) size, whole.imp (congrArg (· + 1)) ?_⟩
    rintro ⟨answer, last, stop⟩
    exact ⟨answer, by simp [List.getLast?_cons, last], stop⟩
  | stopped answered stop =>
    cases done
    exact ⟨rfl, .inr ⟨_, rfl, stop⟩⟩
  | failed | exhausted => cases done

theorem Visits.endless (h : Visits visit stops earlier items m vs o) (endless : o = .exhausted) :
    ∃ v ∈ vs, v.outcome = .exhausted := by
  induction h with
  | finished | stopped | failed => cases endless
  | @next _ _ _ _ _ _ _ o _ _ _ ih =>
    cases o with
    | done | failed => cases endless
    | exhausted =>
      obtain ⟨v, mem, h⟩ := ih rfl
      exact ⟨v, List.mem_cons_of_mem _ mem, h⟩
  | exhausted => exact ⟨_, List.mem_cons_self, rfl⟩

/-- An iteration over the items, from first to last and each once: the visits that it makes, what
they say about the items, and how it ends. -/
structure Iterates (visit : List β → Ref → Run σ β) (stops : β → Bool) (items : List Ref)
    (m : Machine σ) (vs : List (Visit σ β)) (o : Outcome σ (List β)) : Prop where
  visits : Visits visit stops [] items m vs o
  in_order : vs.map (·.item) <+: items
  numbered : vs.map (·.number) = List.range vs.length
  answered : ∀ answers m', o = .done answers m' → answers.length = vs.length ∧
    (vs.length = items.length ∨ ∃ answer, answers.getLast? = some answer ∧ stops answer)
  endless : o = .exhausted → ∃ v ∈ vs, v.outcome = .exhausted

theorem exists_iterates (visit : List β → Ref → Run σ β) (stops : β → Bool) (items : List Ref)
    (m : Machine σ) :
    ∃ vs, Iterates visit stops items m vs (Run.visiting visit stops [] items m) := by
  obtain ⟨vs, visits⟩ := exists_visits visit stops [] items m
  refine ⟨vs, visits, visits.in_order, ?_, fun _ _ => visits.answered, visits.endless⟩
  rw [visits.numbered, List.range_eq_range', List.length_nil]

/-- Without an answer that stops it, an iteration visits all items. -/
theorem Iterates.complete (h : Iterates visit stops items m vs o) (never : ∀ answer, ¬ stops answer)
    {answers : List β} {m' : Machine σ} (done : o = .done answers m') :
    vs.map (·.item) = items ∧ answers.length = items.length := by
  obtain ⟨size, whole⟩ := h.answered answers m' done
  have whole : vs.length = items.length :=
    whole.resolve_right fun ⟨answer, _, stop⟩ => never answer stop
  exact ⟨h.in_order.eq_of_length (by rw [List.length_map, whole]), size.trans whole⟩

end

end LayerScript
