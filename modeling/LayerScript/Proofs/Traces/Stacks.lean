import LayerScript.Proofs.Routines.Moments

/-!
# What a stack says

A failure collects a frame from every function that it leaves. The frames are those of the functions
that were being called at the moment of the failure: each has the place of the call that its code
was making, and where the innermost one was making none, the place of the failure.
-/

namespace LayerScript

variable {σ α β : Type}

/-- The place of a failure: its own, or that of the call in which it happens. -/
def Moment.span? (now : Moment σ) : Option Span :=
  now.place? <|> now.active.head?.bind (·.pending)

/-- The frame of a function; `own` is its place when no call is pending. -/
def Activation.frame? (own : Option Span) (a : Activation) : Option Frame :=
  a.function.map fun f => ⟨f.2.name.getD "<anonymous>", a.pending <|> own⟩

/-- The frames of what is being called when something fails at `own`. -/
def framesOf (own : Option Span) : List Activation → List Frame
  | [] => []
  | a :: outer => (a.frame? own).toList ++ outer.filterMap (·.frame? none)

theorem framesOf_append_cons (own : Option Span) (a : Activation) (inner outer : List Activation) :
    framesOf own (a :: inner ++ outer) =
      framesOf own (a :: inner) ++ outer.filterMap (·.frame? none) := by
  simp [framesOf, List.filterMap_append]

/-- What is known of a failure when it leaves a part that began in `active`. The functions called
inside have left their frames. A call leaves no trace of its own place, which is not known there; a
body leaves the place of its own call, if any, to the function around it. -/
def Part.Tells (active : List Activation) (now : Moment σ) (d : Diagnostic) (m : Machine σ) :
    Part → Prop
  | .body => ∃ fn inner outer, active = ⟨fn, none⟩ :: outer ∧
      now.active = inner ++ ⟨fn, m.callSite⟩ :: outer ∧ (m.callSite = none → inner = []) ∧
      d.span = now.span? ∧ d.span.isSome ∧ d.stack = framesOf now.span? inner
  | .call => ∃ inner, now.active = inner ++ active ∧ m.callSite = none ∧
      d.stack = framesOf now.span? inner ∧
      (inner = [] → d.span = none ∧ now.place? = none) ∧
      (inner ≠ [] → d.span = now.span? ∧ d.span.isSome)

theorem Part.Tells.raised {active : List Activation} {m : Machine σ} {deed : Deed σ} {fault : Fault}
    {m' : Machine σ} (quiet : m'.callSite = none)
    (own : Moment.place? ⟨active, m, deed⟩ = none) :
    Part.call.Tells active ⟨active, m, deed⟩ fault.diagnostic m' :=
  ⟨[], rfl, quiet, rfl, fun _ => ⟨rfl, own⟩, fun h => absurd rfl h⟩

/-- The frames of the functions that a call has entered are on the stack once the call is left. -/
theorem Part.Tells.atCall {fn : Option (Ref × Closure)} {span : Span} {outer : List Activation}
    {now : Moment σ} {d : Diagnostic} {m : Machine σ}
    (h : Part.call.Tells (⟨fn, some span⟩ :: outer) now d m) :
    Part.body.Tells (⟨fn, none⟩ :: outer) now (d.orSpan span)
      { m with callSite := some span } := by
  obtain ⟨inner, active, -, stack, direct, deep⟩ := h
  refine ⟨fn, inner, outer, rfl, active, nofun, ?_⟩
  cases inner with
  | nil =>
    obtain ⟨spanless, own⟩ := direct rfl
    have place : now.span? = some span := by simp [Moment.span?, own, active]
    exact ⟨by simp [Diagnostic.orSpan, spanless, place], by simp [Diagnostic.orSpan, spanless],
      stack⟩
  | cons a inner =>
    obtain ⟨same, located⟩ := deep (by simp)
    obtain ⟨place, known⟩ := Option.isSome_iff_exists.1 located
    have unchanged : (d.orSpan span).span = d.span := by simp [Diagnostic.orSpan, known]
    exact ⟨unchanged.trans same, by rw [unchanged, known]; rfl, stack⟩

/-- The body of a function leaves the frame of the function. -/
theorem Part.Tells.leave {f : Ref} {c : Closure} {active : List Activation} {now : Moment σ}
    {d : Diagnostic} {m m' : Machine σ} (quiet : m'.callSite = none)
    (h : Part.body.Tells (⟨some (f, c), none⟩ :: active) now d m) :
    Part.call.Tells active now
      (d.pushFrame (c.name.getD "<anonymous>") (m.callSite <|> d.span)) m' := by
  obtain ⟨fn, inner, outer, eq, calls, site, same, located, stack⟩ := h
  obtain ⟨head, rfl⟩ := List.cons.inj eq
  obtain rfl : some (f, c) = fn := congrArg Activation.function head
  let a : Activation := ⟨some (f, c), m.callSite⟩
  refine ⟨inner ++ [a], by simp [calls, a], quiet, ?_, by simp, fun _ => ⟨same, located⟩⟩
  have frame (own : Option Span) :
      a.frame? own = some ⟨c.name.getD "<anonymous>", m.callSite <|> own⟩ := rfl
  show d.stack ++ [_] = _
  cases inner with
  | nil => simp [stack, framesOf, frame, same]
  | cons b inner =>
    have pending : m.callSite.isSome := by
      rw [Option.isSome_iff_ne_none]
      exact fun none => nomatch site none
    obtain ⟨span, known⟩ := Option.isSome_iff_exists.1 pending
    rw [framesOf_append_cons, stack]
    simp [frame, known]

/-- How a part that began in `active` ends, and what its last moment has to do with it. -/
structure Traced (p : Part) (active : List Activation) (ms : List (Moment σ)) (o : Outcome σ α) :
    Prop where
  quiet : ∀ a m, o = .done a m → m.callSite = none
  fails : ∀ d m, o = .failed d m → ∃ now, ms.getLast? = some now ∧ p.Tells active now d m

namespace Traced

variable {p : Part} {active : List Activation} {ms : List (Moment σ)} {m : Machine σ}

theorem done {a : α} (quiet : m.callSite = none) : Traced p active ms (.done a m) :=
  ⟨by rintro _ _ ⟨⟩; exact quiet, nofun⟩

theorem failed {d : Diagnostic} {now : Moment σ} (last : ms.getLast? = some now)
    (tells : p.Tells active now d m) : Traced (α := α) p active ms (.failed d m) :=
  ⟨nofun, by rintro _ _ ⟨⟩; exact ⟨now, last, tells⟩⟩

theorem exhausted : Traced (α := α) p active ms .exhausted :=
  ⟨nofun, nofun⟩

theorem prepend {o : Outcome σ α} {later : List (Moment σ)} (h : Traced p active later o) :
    Traced p active (ms ++ later) o := by
  refine ⟨h.quiet, fun d m failed => ?_⟩
  obtain ⟨now, last, tells⟩ := h.fails d m failed
  exact ⟨now, by rw [List.getLast?_append, last]; rfl, tells⟩

theorem bind {x : Run σ α} {f : α → Run σ β} {rest : α → Machine σ → List (Moment σ)}
    (first : Traced p active ms (x m))
    (next : ∀ a m', m'.callSite = none → Traced p active (rest a m') (f a m')) :
    Traced p active (ms ++ (x m).andThen rest) (x.bind f m) := by
  unfold Run.bind
  cases hx : x m with
  | done a m' => exact (next a m' (first.quiet a m' hx)).prepend
  | failed d m' =>
    obtain ⟨now, last, tells⟩ := first.fails d m' hx
    show Traced p active (ms ++ []) (.failed d m')
    rw [List.append_nil]
    exact .failed last tells
  | exhausted => exact .exhausted

variable {x : Run σ α}

theorem inScope {scope : ScopeId} (h : Traced p active ms (x { m with scope := scope })) :
    Traced p active ms (Run.inScope scope x m) := by
  unfold Run.inScope
  cases hx : x { m with scope := scope } with
  | done a m' => exact .done (h.quiet a m' hx)
  | failed d m' =>
    obtain ⟨now, last, tells⟩ := h.fails d m' hx
    cases p with
    | body => exact .failed last tells
    | call => exact .failed last tells
  | exhausted => exact .exhausted

theorem atCall {fn : Option (Ref × Closure)} {span : Span} {outer : List Activation}
    (h : Traced .call (⟨fn, some span⟩ :: outer) ms (x m)) :
    Traced .body (⟨fn, none⟩ :: outer) ms (Run.atCall span x m) := by
  unfold Run.atCall
  cases hx : x m with
  | done a m' => exact .done (h.quiet a m' hx)
  | failed d m' =>
    obtain ⟨now, last, tells⟩ := h.fails d m' hx
    exact .failed last tells.atCall
  | exhausted => exact .exhausted

theorem inFrame {x : Run σ Ref} {f : Ref} {c : Closure} {frame : ScopeId × Ref}
    (h : Traced .body (⟨some (f, c), none⟩ :: active) ms (x (m.entering frame))) :
    Traced .call active ms
      (Run.inFrame (c.name.getD "<anonymous>") frame.1 frame.2 x m) := by
  rw [Run.inFrame_eq]
  cases hx : x (m.entering frame) with
  | done a m' => exact .done (h.quiet a m' hx)
  | failed d m' =>
    obtain ⟨now, last, tells⟩ := h.fails d m' hx
    exact .failed last (tells.leave rfl)
  | exhausted => exact .exhausted

end Traced

/-- Where a part can begin. -/
def Part.CanBegin : Part → List Activation → Prop
  | .body, active => ∃ fn outer, active = ⟨fn, none⟩ :: outer
  | .call, _ => True

/-- The moments of calls explain their failures. -/
def Watcher.Traces (call : Caller σ) (inside : Watcher σ) : Prop :=
  ∀ f receiver args active m, m.callSite = none →
    Traced .call active (inside f receiver args active m) (call f receiver args m)

theorem Watcher.Traces.routine {call : Caller σ} {inside : Watcher σ}
    (h : Watcher.Traces call inside) (out : Sink σ) {p : Part} (x : Routine σ p α)
    (active : List Activation) (m : Machine σ) (begins : p.CanBegin active)
    (quiet : m.callSite = none) :
    Traced p active (x.moments out call inside active m) (x.run out call m) := by
  -- a part that ends well leaves no call site behind, so the next one begins without one too
  induction x generalizing active m with
  | pure a => exact .done quiet
  | bind x f ihx ihf =>
    exact (ihx active m begins quiet).bind fun a m' quiet' => ihf a active m' begins quiet'
  | exhausted => exact .exhausted
  | read f => exact .done quiet
  | onStore f => exact .done quiet
  | raise fault => exact .failed rfl (.raised quiet rfl)
  | raiseAt span fault =>
    obtain ⟨fn, outer, rfl⟩ := begins
    refine .failed rfl ⟨fn, [], outer, rfl, ?_, fun _ => rfl, rfl, rfl, rfl⟩
    rw [quiet]
    rfl
  | inScope scope x ih =>
    have traced := ih active { m with scope := scope } begins quiet
    exact traced.inScope
  | atCall span x ih =>
    obtain ⟨fn, outer, rfl⟩ := begins
    have traced := ih (⟨fn, some span⟩ :: outer) m trivial quiet
    exact traced.atCall
  | call f receiver args => exact h f receiver args active m quiet
  | activation f c ready body ihr ihb =>
    by_cases limit : callLimit ≤ m.depth
    · rw [Routine.moments_activation_of_limit limit, Routine.run, Run.enter_of_limit limit]
      exact .failed rfl (.raised quiet rfl)
    · rw [Routine.moments_activation_of_room limit, Routine.run, Run.enter_of_room limit]
      refine (ihr active m trivial quiet).bind fun frame m' quiet' => ?_
      have traced := ihb (⟨some (f, c), none⟩ :: active) (m'.entering frame) ⟨_, _, rfl⟩ quiet'
      exact traced.inFrame
  | write level payload =>
    rw [Routine.moments_write, Routine.run]
    rcases Run.write_cases out level payload m with
      ⟨silent, run⟩ | ⟨sink, taken, run⟩ | ⟨e, sink, refused, run⟩
    · rw [silent, run]
      exact .exhausted
    · rw [taken, run]
      exact .done quiet
    · rw [refused, run]
      exact .failed rfl (.raised quiet rfl)

theorem Watcher.traces_call (out : Sink σ) (fuel : Nat) :
    Watcher.Traces (Run.call out fuel) (Run.callMoments out fuel) := by
  induction fuel with
  | zero => exact fun _ _ _ _ _ _ => .exhausted
  | succ fuel ih =>
    intro f receiver args active m quiet
    have traced := ih.routine out (Routine.activate fuel f receiver args) active m trivial quiet
    rw [Routine.run_activate] at traced
    exact traced

end LayerScript
