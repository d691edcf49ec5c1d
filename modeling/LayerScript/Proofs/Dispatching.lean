import LayerScript.Proofs.Watching

/-!
# Dispatch

The outlet takes every event once and before the observers. The observers called after it are the
first ones of the registry as it was then, and all of them unless one fails. This holds of nested
events as well, which may add observers while others are called.
-/

namespace LayerScript.Console

variable {η : Type} {store : Store} {level : Level} {payload : List Ref}
variable {write : Write η} {write' : Write (η × Watch)} {c after : Console η} {answer : Answer}

/-! ## Watched consoles -/

def places (c : Console η) : List Nat :=
  List.range c.observers.length

theorem places_register (c : Console η) (observer : Observer η) :
    (c.register observer).places = c.places ++ [c.observers.length] := by
  simp [places, register, List.range_succ]

/-! ## The law of a dispatch -/

/-- What holds of every dispatch. The calls are complete unless an observer has failed that is not
the last of the registry. -/
structure Dispatch.Lawful (d : Dispatch) : Prop where
  refused : ∀ why, d.taken = .error why → d.called = [] ∧ d.answer = .error why
  in_order : d.called.map Prod.fst <+: d.registry
  once : (d.called.map Prod.fst).Nodup
  stopped : ∀ call ∈ d.called.dropLast, call.2 = .ok ()
  complete : d.taken = .ok () → (d.called.map Prod.fst = d.registry ↔
    ∀ call ∈ d.called, call.2 ≠ .ok () → d.registry.getLast? = some call.1)
  answered : d.taken = .ok () → d.answer = (d.called.getLast?.map Prod.snd).getD (.ok ())
  missed : ∀ observer ∈ d.late, observer ∉ d.called.map Prod.fst

/-- The observers at these places have been called in turn, and the last of them has answered. -/
inductive Passed : List Nat → List (Nat × Answer) → Answer → Prop where
  | done : Passed [] [] (.ok ())
  | failed {place : Nat} {places : List Nat} {why : SinkError} :
      Passed (place :: places) [(place, .error why)] (.error why)
  | next {place : Nat} {places : List Nat} {calls : List (Nat × Answer)} {answer : Answer} :
      Passed places calls answer → Passed (place :: places) ((place, .ok ()) :: calls) answer

namespace Passed

variable {places : List Nat} {calls : List (Nat × Answer)}

theorem in_order (h : Passed places calls answer) : calls.map Prod.fst <+: places := by
  induction h with
  | done => exact List.nil_prefix
  | failed => simp
  | next _ ih => simpa using ih

theorem stopped (h : Passed places calls answer) : ∀ call ∈ calls.dropLast, call.2 = .ok () := by
  induction h with
  | done => simp
  | failed => simp
  | @next place places calls answer h ih =>
    cases calls with
    | nil => simp
    | cons call calls =>
      intro call' hc
      rw [List.dropLast_cons_cons] at hc
      rcases List.mem_cons.mp hc with rfl | hc
      · rfl
      · exact ih call' hc

/-- A failure cuts the calls short, except at the last place. -/
theorem complete (h : Passed places calls answer) (once : places.Nodup) :
    calls.map Prod.fst = places ↔
      ∀ call ∈ calls, call.2 ≠ .ok () → places.getLast? = some call.1 := by
  induction h with
  | done => simp
  | @failed place places why =>
    cases places with
    | nil => simp
    | cons place' places =>
      have other : place ∉ place' :: places := (List.nodup_cons.mp once).1
      constructor
      · simp
      · intro last
        have hl := last (place, .error why) (List.mem_singleton_self _) (by simp)
        rw [List.getLast?_cons_cons] at hl
        exact absurd (List.mem_of_getLast? hl) other
  | @next place places calls answer h ih =>
    cases places with
    | nil => cases h; simp
    | cons place' places =>
      rw [List.getLast?_cons_cons, List.map_cons, List.cons.injEq, List.forall_mem_cons]
      simpa using ih (List.nodup_cons.mp once).2

theorem answered (h : Passed places calls answer) :
    answer = (calls.getLast?.map Prod.snd).getD (.ok ()) := by
  induction h with
  | done => rfl
  | failed => rfl
  | @next place places calls answer h ih =>
    cases calls with
    | nil => exact ih
    | cons call calls => rw [List.getLast?_cons_cons]; exact ih

end Passed

/-! ## What a watched run leaves -/

/-- On the way from `c` to `after` these places have been added at the end of the registry, and all
dispatches have been lawful. -/
structure Grown (c after : Console η) (added : List Nat) (dispatches : List Dispatch) : Prop where
  kept : c.observers <+: after.observers
  places : after.places = c.places ++ added
  lawful : ∀ d ∈ dispatches, d.Lawful

namespace Grown

variable {between : Console η} {added added' : List Nat} {dispatches dispatches' : List Dispatch}

theorem refl (c : Console η) : Grown c c [] [] where
  kept := List.prefix_rfl
  places := (List.append_nil _).symm
  lawful := by simp

theorem register (c : Console η) (observer : Observer η) :
    Grown c (c.register observer) [c.observers.length] [] where
  kept := List.prefix_append _ _
  places := places_register c observer
  lawful := by simp

theorem trans (h : Grown c between added dispatches) (h' : Grown between after added' dispatches') :
    Grown c after (added ++ added') (dispatches ++ dispatches') where
  kept := h.kept.trans h'.kept
  places := by rw [h'.places, h.places, List.append_assoc]
  lawful := by
    intro d hd
    rcases List.mem_append.mp hd with hd | hd
    · exact h.lawful d hd
    · exact h'.lawful d hd

end Grown

/-- The watched run goes as the run from `c` to `after` and leaves these marks. -/
structure Recorded (run : Console (η × Watch) → Option (Answer × Console (η × Watch)))
    (c after : Console η) (answer : Answer) (marks : List Mark) (added : List Nat)
    (dispatches : List Dispatch) : Prop where
  runs : ∀ noted, run (c.watched noted) = some (answer, after.watched (noted ++ marks))
  grown : Grown c after added dispatches

/-- The watched writes go as the writes themselves. -/
def Follows (store : Store) (write : Write η) (write' : Write (η × Watch)) : Prop :=
  ∀ level payload (c : Console η) answer after, write level payload c = some (answer, after) →
    ∃ taken calls, Recorded (write' level payload) c after answer
      (.taken ⟨store, level, payload⟩ taken :: Calls.marks ⟨store, level, payload⟩ calls)
      calls.enlisted
      (calls.dispatch c.places ⟨store, level, payload⟩ taken answer :: calls.dispatches c.places)

/-- These marks tell that each of the events was sent once and taken once, in this order. -/
structure Delivered (marks : List Mark) (events : List ConsoleWrite) : Prop where
  sent : marks.filterMap Mark.sent? = events
  taken : marks.filterMap Mark.taken? = events

theorem Delivered.append {marks marks' : List Mark} {events events' : List ConsoleWrite}
    (h : Delivered marks events) (h' : Delivered marks' events') :
    Delivered (marks ++ marks') (events ++ events') :=
  ⟨by rw [List.filterMap_append, h.sent, h'.sent], by rw [List.filterMap_append, h.taken, h'.taken]⟩

mutual

theorem Trace.delivered (registry : List Nat) : ∀ trace : Trace,
    Delivered trace.marks ((trace.dispatches registry).map Dispatch.event)
  | .answered _ => ⟨rfl, rfl⟩
  | .registered observer next =>
    have hn := Trace.delivered (registry ++ [observer]) next
    ⟨hn.sent, hn.taken⟩
  | .wrote event taken calls answer next => by
    have hc := Calls.delivered registry event calls
    have hn := Trace.delivered (registry ++ calls.enlisted) next
    have returned : Delivered (.returned answer :: next.marks)
        ((next.dispatches (registry ++ calls.enlisted)).map Dispatch.event) := ⟨hn.sent, hn.taken⟩
    have both := hc.append returned
    constructor
    · simpa [Trace.marks, Trace.dispatches, Calls.dispatch, List.filterMap_cons, Mark.sent?]
        using both.sent
    · simpa [Trace.marks, Trace.dispatches, Calls.dispatch, List.filterMap_cons, Mark.taken?]
        using both.taken

theorem Calls.delivered (registry : List Nat) (event : ConsoleWrite) : ∀ calls : Calls,
    Delivered (calls.marks event) ((calls.dispatches registry).map Dispatch.event)
  | .done => ⟨rfl, rfl⟩
  | .called observer trace more => by
    have both := (Trace.delivered registry trace).append
      (Calls.delivered (registry ++ trace.enlisted) event more)
    rw [← List.map_append] at both
    exact ⟨both.sent, both.taken⟩

end

end LayerScript.Console
