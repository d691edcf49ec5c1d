import LayerScript.Proofs.Frames
import LayerScript.Proofs.Isolation
import LayerScript.Proofs.Nesting
import LayerScript.Proofs.Survival

/-!
# The function of a script is called once

Nothing that a script can get at leads to the function that it is. So all goes on as before when
that function cannot be called any more, and it is called once.
-/

namespace LayerScript

theorem Ref.same_cell {index : Nat} {r : Ref} : r.same (.cell index) ↔ r = .cell index := by
  cases r <;> simp [same]

namespace Run

variable {σ : Type}

/-- Makes calls, but fails with a message instead of calling `unit`. -/
def avoiding (out : Sink σ) (unit : Ref) (message : String) : Nat → Caller σ
  | 0 => fun _ _ _ => exhausted
  | fuel + 1 => fun f receiver args =>
    if f.same unit then fail (.of .runtime message)
    else activate out (avoiding out unit message fuel) fuel f receiver args

/-- The moments of calls, but none of `unit`. -/
def avoidingMoments (out : Sink σ) (unit : Ref) (message : String) : Nat → Watcher σ
  | 0 => fun _ _ _ _ _ => []
  | fuel + 1 => fun f receiver args active m =>
    if f.same unit then []
    else (Routine.activate fuel f receiver args).moments out (avoiding out unit message fuel)
      (avoidingMoments out unit message fuel) active m

end Run

variable {σ α β : Type} {call call' : Caller σ} {inside inside' : Watcher σ} {message : String}

/-- The run has failed with this message. -/
def Outcome.Refused (message : String) (o : Outcome σ α) : Prop :=
  ∃ d m, o = .failed d m ∧ d.message = message

/-- Two runs and their moments are the same unless the second one fails with this message. -/
def SameUnless (message : String) (o o' : Outcome σ α) (ms ms' : List (Moment σ)) : Prop :=
  o'.Refused message ∨ o = o' ∧ ms = ms'

theorem SameUnless.refl (message : String) (o : Outcome σ α) (ms : List (Moment σ)) :
    SameUnless message o o ms ms :=
  .inr ⟨rfl, rfl⟩

theorem SameUnless.bind {x x' : Run σ α} {f f' : α → Run σ β} {ms ms' : List (Moment σ)}
    {rest rest' : α → Machine σ → List (Moment σ)} {m : Machine σ}
    (first : SameUnless message (x m) (x' m) ms ms')
    (next : ∀ a m', SameUnless message (f a m') (f' a m') (rest a m') (rest' a m')) :
    SameUnless message (x.bind f m) (x'.bind f' m) (ms ++ (x m).andThen rest)
      (ms' ++ (x' m).andThen rest') := by
  unfold Run.bind
  rcases first with ⟨d, m', refused, same⟩ | ⟨run, rfl⟩
  · rw [refused]
    exact .inl ⟨d, m', rfl, same⟩
  · rw [run]
    cases x' m with
    | done a m' =>
      exact (next a m').imp_right fun ⟨run, moments⟩ => ⟨run, congrArg (ms ++ ·) moments⟩
    | failed d m' => exact .refl ..
    | exhausted => exact .refl ..

section

variable {x x' : Run σ α} {ms ms' : List (Moment σ)} {m : Machine σ}

theorem SameUnless.inScope {scope : ScopeId}
    (h : SameUnless message (x { m with scope := scope }) (x' { m with scope := scope }) ms ms') :
    SameUnless message (Run.inScope scope x m) (Run.inScope scope x' m) ms ms' := by
  rcases h with ⟨d, m', refused, same⟩ | ⟨run, moments⟩
  · exact .inl ⟨d, { m' with scope := m.scope }, by simp only [Run.inScope, refused], same⟩
  · exact .inr ⟨by simp only [Run.inScope, run], moments⟩

theorem SameUnless.atCall {span : Span} (h : SameUnless message (x m) (x' m) ms ms') :
    SameUnless message (Run.atCall span x m) (Run.atCall span x' m) ms ms' := by
  rcases h with ⟨d, m', refused, same⟩ | ⟨run, moments⟩
  · exact .inl ⟨d.orSpan span, { m' with callSite := some span },
      by simp only [Run.atCall, refused], same⟩
  · exact .inr ⟨by simp only [Run.atCall, run], moments⟩

theorem SameUnless.inFrame {name : String} {frame : ScopeId × Ref}
    (h : SameUnless message (x (m.entering frame)) (x' (m.entering frame)) ms ms') :
    SameUnless message (Run.inFrame name frame.1 frame.2 x m)
      (Run.inFrame name frame.1 frame.2 x' m) ms ms' := by
  rcases h with ⟨d, m', refused, same⟩ | ⟨run, moments⟩
  · exact .inl ⟨d.pushFrame name (m'.callSite <|> d.span), { m.leaving m' with callSite := none },
      by rw [Run.inFrame_eq, refused], same⟩
  · exact .inr ⟨by rw [Run.inFrame_eq, Run.inFrame_eq, run], moments⟩

end

/-- The calls made by `call` are those made by `call'`, unless these fail with this message. -/
def Follows (message : String) (call call' : Caller σ) (inside inside' : Watcher σ) : Prop :=
  ∀ f receiver args active m, SameUnless message (call f receiver args m) (call' f receiver args m)
    (inside f receiver args active m) (inside' f receiver args active m)

theorem Follows.routine (h : Follows message call call' inside inside') (out : Sink σ) {p : Part}
    (x : Routine σ p α) (active : List Activation) (m : Machine σ) :
    SameUnless message (x.run out call m) (x.run out call' m) (x.moments out call inside active m)
      (x.moments out call' inside' active m) := by
  -- the two runs differ in the calls alone, and for these it is given
  induction x generalizing active m with
  | bind x f ihx ihf => exact (ihx active m).bind fun a m' => ihf a active m'
  | inScope scope x ih => exact (ih active _).inScope
  | atCall span x ih => exact (ih (waitingAt span active) m).atCall
  | call f receiver args => exact h f receiver args active m
  | activation f c ready body ihr ihb =>
    by_cases limit : callLimit ≤ m.depth
    · rw [Routine.run, Routine.run, Run.enter_of_limit limit, Run.enter_of_limit limit,
        Routine.moments_activation_of_limit limit, Routine.moments_activation_of_limit limit]
      exact .refl ..
    · rw [Routine.run, Routine.run, Run.enter_of_room limit, Run.enter_of_room limit,
        Routine.moments_activation_of_room limit, Routine.moments_activation_of_room limit]
      exact (ihr active m).bind fun frame m' => (ihb _ _).inFrame
  | _ => exact .refl ..

theorem follows_avoiding (out : Sink σ) (unit : Ref) (message : String) (fuel : Nat) :
    Follows message (Run.call out fuel) (Run.avoiding out unit message fuel)
      (Run.callMoments out fuel) (Run.avoidingMoments out unit message fuel) := by
  induction fuel with
  | zero => exact fun _ _ _ _ _ => .refl ..
  | succ fuel ih =>
    intro f receiver args active m
    have same := ih.routine out (Routine.activate fuel f receiver args) active m
    rw [Routine.run_activate, Routine.run_activate] at same
    unfold Run.call Run.avoiding Run.callMoments Run.avoidingMoments
    split
    · exact .inl ⟨_, m, rfl, rfl⟩
    · exact same

/-- At the moments of such calls `unit` is not called once more. -/
theorem counts_avoidingMoments (out : Sink σ) {unit : Nat} (message : String)
    {P : Activation → Prop} (others : ∀ f c, f ≠ .cell unit → P ⟨some (f, c), none⟩)
    (pending : ∀ g span, P ⟨g, some span⟩) (fuel : Nat) :
    Caller.Keeps (Run.avoiding out (.cell unit) message fuel) ∧
      Watcher.Counts P (Run.avoidingMoments out (.cell unit) message fuel) := by
  induction fuel with
  | zero => exact ⟨fun _ _ _ _ => .exhausted, fun _ _ _ _ _ _ mem => nomatch mem⟩
  | succ fuel ih =>
    obtain ⟨keeps, counts⟩ := ih
    constructor
    · intro f receiver args m
      have kept := keeps.routine out (Routine.activate fuel f receiver args) m
      rw [Routine.run_activate] at kept
      unfold Run.avoiding
      split
      · exact .failed (.refl m)
      · exact kept
    · intro f receiver args active m
      unfold Run.avoidingMoments
      split
      · exact fun _ mem => nomatch mem
      · next other =>
        rw [Ref.same_cell] at other
        have adds : (Routine.activate fuel f receiver args : Routine σ .call Ref).Adds P none :=
          Routine.adds_activate fuel (fun c => others f c other)
            (fun c s _ span _ => pending _ span) receiver args
        exact counts.routine keeps out adds active m

namespace Sharing

/-- One store beside itself, where everything but one value is live. -/
def except (s : Store) (unit : Nat) : Sharing :=
  ⟨fun p => p ≠ .value (.cell unit), none, fun _ => True, s, s⟩

variable {s : Store} {unit : Nat}

theorem alike_except (apart : ∀ p, p ≠ .value (.cell unit) → .value (.cell unit) ∉ s.held p)
    (had : s.Has (.value (.cell unit))) : (except s unit).Alike s s := by
  apply alike_start ⟨rfl, rfl, rfl⟩ (fun p _ => .refl p s)
  · intro p hp q hq
    rintro rfl
    exact apart p hp hq
  · rintro p new rfl
    exact new had

theorem answers_except (s : Store) (unit : Nat) (out : Sink σ) :
    (except s unit).Answers Eq out out := by
  rintro u v alike level payload - k _ rfl
  obtain rfl : v = u := alike.eq rfl rfl
  cases out.write v level payload k with
  | none => exact .none
  | some answer => exact .some rfl

theorem Matched.failed_of {σ τ α : Type} {W : Sharing} {S : σ → τ → Prop} {o : Origin} {d : Nat}
    {A : α → Prop} {x : Outcome σ α} {y : Outcome τ α} {why : Diagnostic} {n : Machine τ}
    (h : W.Matched S o d A s x y) (failed : y = .failed why n) : ∃ m, x = .failed why m := by
  cases h with
  | failed =>
    cases failed
    exact ⟨_, rfl⟩
  | done => exact nomatch failed
  | exhausted => exact nomatch failed

/-- Calls of anything else never come to call the value that is left out. -/
theorem calls_avoiding (s : Store) (unit : Nat) (out : Sink σ) (message : String) (fuel d : Nat) :
    (except s unit).Calls Eq d (Run.call out fuel)
      (Run.avoiding out (.cell unit) message fuel) := by
  induction fuel generalizing d with
  | zero => exact fun _ _ _ _ _ _ _ => .exhausted
  | succ fuel ih =>
    intro o f receiver args hf hr live m n related
    have other : ¬ f.same (.cell unit) := fun same => hf (congrArg _ (Ref.same_cell.1 same))
    have avoided : Run.avoiding out (.cell unit) message (fuel + 1) f receiver args =
        Run.activate out (Run.avoiding out (.cell unit) message fuel) fuel f receiver args :=
      if_neg other
    rw [Run.call, avoided]
    refine related.activate (answers_except s unit out) (fun _ => ih (d + 1)) fuel hf hr live
      fun op _ => ?_
    refine Lockstep.traverse live (fun g hg args' _ live' => ?_) m n related
    exact ih d o g none args' (live g (List.mem_of_getElem? hg)) (by simp) live'

end Sharing

/-! ## Behind the call of a script -/

/-- Nothing but the new function itself leads to a function that has just been called. -/
theorem Store.apart_entered {s : Store} {f : Closure} {args : Dict Ref} (intact : s.Intact)
    (lent : ∀ r ∈ args.values, s.Has (.value r)) {p : Place}
    (other : p ≠ .value s.nextCell) : .value s.nextCell ∉ (s.entered f args).held p := by
  intro held
  cases p with
  | value r =>
    rw [Store.held, Store.cell_entered_of_ne fun eq => other (congrArg _ eq)] at held
    exact Store.not_has_nextCell (intact (.value r) _ held)
  | scope e =>
    by_cases frame : e = s.nextScope
    · rw [frame, Store.held, Store.scope_entered_self] at held
      rcases List.mem_append.1 held with outer | value
      · simp at outer
      · obtain ⟨b, hb, eq⟩ := List.mem_map.1 value
        have had := lent b.value (Store.value_of_mem_argumentNames hb)
        rw [eq] at had
        exact Store.not_has_nextCell had
    · rw [Store.held, Store.scope_entered_of_ne frame] at held
      exact Store.not_has_nextCell (intact (.scope e) _ held)

/-- What is called, or waits for a call, is not the function in the cell `unit`. -/
def Activation.Other (unit : Ref) (a : Activation) : Prop :=
  a.pending = none → ∀ g ∈ a.function, g.1 ≠ unit

namespace Script

/-- The machine in the body of a script. -/
def inBody (script : Script) (receiver : Ref) (args : Dict Ref) (m : Machine σ) : Machine σ :=
  { m with store := m.store.entered (script.main m.globals) args }.entering
    (m.store.nextScope, receiver)

variable {script : Script} {b : Bindings} {s : Store} {k : σ}

theorem related_inBody (script : Script) (k : σ) (ready : s.Ready [.value b.map]) :
    let m := Machine.start s script.strict k
    let n := script.inBody b.map (b.entries s) m
    (Sharing.except n.store m.store.cells.size).Related Eq .guest 1 n n := by
  intro m n
  have started := Machine.ready_start ready.intact script.strict k
  have whole : (Sharing.whole s).Alike s s :=
    Sharing.alike_start ⟨rfl, rfl, rfl⟩ (fun p _ => .refl p s) (fun _ _ _ _ => trivial)
      fun _ _ => trivial
  have grows : s.Extends m.store :=
    (Sharing.related_start (S := Eq) (k := k) rfl whole script.strict rfl).2
  have lent : ∀ r ∈ (b.entries s).values, m.store.Has (.value r) := fun r hr =>
    grows.has _ (ready.intact _ _ (Bindings.value_mem_held hr))
  have apart : ∀ p, p ≠ .value m.store.nextCell → .value m.store.nextCell ∉ n.store.held p :=
    fun p other => Store.apart_entered started.intact lent other
  have made : n.store.Has (.value m.store.nextCell) := Store.has_entered.2 (.inr (.inl rfl))
  have receiver : b.map ≠ m.store.nextCell := by
    intro eq
    have had : m.store.Has (.value b.map) := grows.has _ (ready.made _ (by simp))
    exact Store.not_has_nextCell (eq ▸ had)
  constructor
  case stores => exact Sharing.alike_except apart made
  case home => exact ⟨nofun, nofun⟩
  case guest => exact fun _ => ⟨nofun, fun eq => receiver (Place.value.inj eq)⟩
  case text => exact nofun
  case depths => exact ⟨rfl, rfl⟩
  all_goals rfl

/-- At the moments of the body of a script the function of the script is not called once more. -/
theorem counts_body (ready : s.Ready [.value b.map]) (out : Sink σ) (fuel : Nat)
    (active : List Activation) :
    let m := Machine.start s script.strict k
    ∀ now ∈ (Routine.functionBody fuel (script.main m.globals)).moments out (Run.call out fuel)
        (Run.callMoments out fuel) active (script.inBody b.map (b.entries s) m),
      ∃ inner, Counts (Activation.Other m.store.nextCell) active
        (script.inBody b.map (b.entries s) m) now inner := by
  intro m
  let unit := m.store.cells.size
  let body : Routine σ .body Ref := Routine.functionBody fuel (script.main m.globals)
  let start := script.inBody b.map (b.entries s) m
  -- a message that the run does not fail with
  obtain ⟨message, other⟩ : ∃ message,
      ¬ (body.run out (Run.call out fuel) start).Refused message := by
    cases body.run out (Run.call out fuel) start with
    | failed d m' =>
      by_cases silent : d.message = ""
      · exact ⟨"refused", by simp [Outcome.Refused, silent]⟩
      · exact ⟨"", by simp [Outcome.Refused, silent]⟩
    | done r m' => exact ⟨"", by simp [Outcome.Refused]⟩
    | exhausted => exact ⟨"", by simp [Outcome.Refused]⟩
  have calls := Sharing.calls_avoiding start.store unit out message fuel 1
  have sequence := (calls.evaluates (o := .guest) fuel).sequence script.body .next nofun trivial
  have lockstep := sequence.bind fun left live =>
    Sharing.Lockstep.bodyResult (script.main m.globals) live
  have matched := lockstep _ _ (related_inBody script k ready)
  -- the run cannot reach the function, so that its call is not refused
  have allowed : ¬ (body.run out (Run.avoiding out (.cell unit) message fuel) start).Refused
      message := by
    rintro ⟨d, m', failed, same⟩
    rw [Routine.run_functionBody] at failed other
    obtain ⟨m'', failed'⟩ := matched.failed_of failed
    exact other ⟨d, m'', failed', same⟩
  have follows := (follows_avoiding out (.cell unit) message fuel).routine out body active start
  have same := (follows.resolve_left allowed).2
  have others (f : Ref) (c : Closure) (h : f ≠ .cell unit) :
      Activation.Other (.cell unit) ⟨some (f, c), none⟩ := by
    rintro - _ ⟨⟩
    exact h
  obtain ⟨keeps, counts⟩ :=
    counts_avoidingMoments out message others (fun g span h => nomatch h) fuel
  have adds : body.Adds (Activation.Other (.cell unit)) none :=
    Routine.adds_functionBody fuel _ fun st _ span _ h => nomatch h
  rw [same]
  exact counts.routine keeps out adds active _

end Script

end LayerScript
