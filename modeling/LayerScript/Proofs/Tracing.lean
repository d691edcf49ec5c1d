import LayerScript.Proofs.Stopping
import LayerScript.Proofs.Traces.Once
import LayerScript.Proofs.Traces.Stacks

/-!
# Stack traces

The stack of a failure is read off its moment: one frame for each function of a script that was
being called, innermost first. The last frame of a script that is run with bindings is that of the
script.
-/

namespace LayerScript

variable {σ : Type}

theorem functions_framesOf (own : Option Span) (active : List Activation) :
    (framesOf own active).map (·.function) =
      (called active).map fun f => f.2.name.getD "<anonymous>" := by
  have names (own : Option Span) (outer : List Activation) :
      (outer.filterMap (·.frame? own)).map (·.function) =
        (called outer).map fun f => f.2.name.getD "<anonymous>" := by
    simp [called, List.map_filterMap, Activation.frame?, Function.comp_def]
  cases active with
  | nil => rfl
  | cons a outer =>
    obtain ⟨function, pending⟩ := a
    rw [framesOf, List.map_append, names]
    cases function <;> rfl

theorem framesOf_base (own pending : Option Span) (inner : List Activation) :
    framesOf own (inner ++ [⟨none, pending⟩]) = framesOf own inner := by
  cases inner with
  | nil => rfl
  | cons a inner =>
    rw [framesOf_append_cons]
    simp [Activation.frame?]

/-- The statements of what is being called. The code of a program is given. -/
def Activation.code (program : List Stmt) (a : Activation) : List Stmt :=
  match a.function with
  | some (_, c) => c.body
  | none => program

/-- The call that is pending, if any, is one of the calls in the code. -/
def Activation.Own (program : List Stmt) (a : Activation) : Prop :=
  ∀ span ∈ a.pending, ∃ s ∈ a.code program, s.HasCall span

/-- A diagnostic tells what was going on when a run failed: what went wrong at that moment and
where, and what was being called. -/
structure Explains (program : List Stmt) (now : Moment σ) (d : Diagnostic) : Prop where
  fault : ∃ fault, now.fault? = some fault ∧ d.Reports fault
  span : d.span = now.span?
  located : d.span.isSome
  stack : d.stack = framesOf now.span? now.active
  functions : d.stack.map (·.function) =
    (called now.active).map fun f => f.2.name.getD "<anonymous>"
  waiting : ∀ a ∈ now.active.tail, a.pending.isSome
  own : ∀ a ∈ now.active, a.Own program
  limit : d.stack.length ≤ callLimit

theorem own_of_pending (program : List Stmt) (g : Option (Ref × Closure)) :
    ∀ s ∈ (⟨g, none⟩ : Activation).code program,
      Stmt.CallsAt (fun span => (⟨g, some span⟩ : Activation).Own program) s := by
  rintro s mem span has _ ⟨⟩
  exact ⟨s, mem, has⟩

theorem orderly_own (out : Sink σ) (program : List Stmt) (fuel : Nat) :
    Watcher.Orderly (Activation.Own program) (Run.callMoments out fuel) :=
  Watcher.orderly_callMoments out (fun _ _ _ h => nomatch h)
    (fun f c => own_of_pending program (some (f, c))) fuel

/-- What is known of the moment at which the code of `fn` fails when nothing else is being
called. -/
structure Fatal (program : List Stmt) (fn : Option (Ref × Closure)) (m : Machine σ)
    (ms : List (Moment σ)) (d : Diagnostic) (m' : Machine σ) (earlier : List (Moment σ))
    (now : Moment σ) (inner : List (Ref × Closure)) : Prop where
  split : ms = earlier ++ [now]
  fault : ∃ fault, now.fault? = some fault ∧ d.Reports fault
  tells : Part.body.Tells [⟨fn, none⟩] now d m'
  orderly : Orderly (Activation.Own program) now.active
  counts : Counts (fun _ => True) [⟨fn, none⟩] m now inner

theorem exists_fatal {out : Sink σ} {fuel : Nat} {x : Routine σ .body Ref} {program : List Stmt}
    {fn : Option (Ref × Closure)} (own : x.Adds (Activation.Own program) fn) {m m' : Machine σ}
    (quiet : m.callSite = none) {d : Diagnostic}
    (h : x.run out (Run.call out fuel) m = .failed d m') :
    ∃ earlier now inner, Fatal program fn m
      (x.moments out (Run.call out fuel) (Run.callMoments out fuel) [⟨fn, none⟩] m) d m'
      earlier now inner := by
  have account := (watched_call out fuel).routine out x [⟨fn, none⟩] m
  have traced := (Watcher.traces_call out fuel).routine out x [⟨fn, none⟩] m ⟨fn, [], rfl⟩ quiet
  rw [h] at account
  obtain ⟨earlier, now, fault, split, -, fails, reports⟩ := account.blames
  obtain ⟨last, found, tells⟩ := traced.fails d m' h
  obtain rfl : now = last := by simpa [split] using found
  have mem : now ∈ x.moments out (Run.call out fuel) (Run.callMoments out fuel) [⟨fn, none⟩] m := by
    simp [split]
  have begun : Orderly (Activation.Own program) [⟨fn, none⟩] :=
    ⟨by simp [Activation.Own], by simp⟩
  have orderly := (orderly_own out program fuel).routine out (Run.call out fuel) own begun
    ⟨_, [], rfl, rfl⟩ m now mem
  obtain ⟨inner, counts⟩ := (Watcher.counts_callMoments out fuel).routine
    (Caller.keeps_call out fuel) out (x.adds_true none) [⟨fn, none⟩] m now mem
  exact ⟨earlier, now, inner, split, ⟨fault, fails, reports⟩, tells, orderly, counts⟩

/-- The number of functions that are being called stays within the limit. -/
theorem Fatal.limit {program : List Stmt} {fn : Option (Ref × Closure)} {m m' : Machine σ}
    {ms earlier : List (Moment σ)} {d : Diagnostic} {now : Moment σ} {inner : List (Ref × Closure)}
    (h : Fatal program fn m ms d m' earlier now inner) (base : fn.toList.length ≤ m.depth) :
    (called now.active).length ≤ callLimit := by
  have functions : called now.active = inner ++ called [⟨fn, none⟩] :=
    called_of_functions h.counts.functions
  have length : (called [⟨fn, none⟩]).length = fn.toList.length := by
    cases fn <;> rfl
  have one : fn.toList.length ≤ 1 := by
    cases fn <;> simp
  have depth := h.counts.depth
  have limit := h.counts.limit
  have room : callLimit = 200 := rfl
  rw [functions, List.length_append, length]
  omega

theorem Fatal.explains {program : List Stmt} {fn : Option (Ref × Closure)} {m m' : Machine σ}
    {ms earlier : List (Moment σ)} {d d' : Diagnostic} {now : Moment σ}
    {inner : List (Ref × Closure)} (h : Fatal program fn m ms d m' earlier now inner)
    (base : fn.toList.length ≤ m.depth) (reports : ∀ fault, d.Reports fault → d'.Reports fault)
    (span : d'.span = now.span?) (located : d'.span.isSome)
    (stack : d'.stack = framesOf now.span? now.active) : Explains program now d' := by
  have names := stack ▸ functions_framesOf now.span? now.active
  constructor
  case fault =>
    obtain ⟨fault, fails, reported⟩ := h.fault
    exact ⟨fault, fails, reports fault reported⟩
  case span => exact span
  case located => exact located
  case stack => exact stack
  case functions => exact names
  case waiting => exact h.orderly.waiting
  case own => exact h.orderly.sound
  case limit =>
    have lengths := congrArg List.length names
    rw [List.length_map, List.length_map] at lengths
    rw [lengths]
    exact h.limit base

/-! ## Programs -/

/-- The moment at which a program fails explains the failure. -/
theorem Run.program_explained (out : Sink σ) (fuel : Nat) (p : Program) (m : Machine σ)
    {d : Diagnostic} {m' : Machine σ} (h : program out fuel p m = .failed d m') :
    ∃ earlier now, ∃ inner : List (Ref × Closure),
      programMoments out fuel p m = earlier ++ [now] ∧
      now.active.map (·.function) = inner.map some ++ [none] ∧ Explains p.body now d := by
  rw [program_eq] at h
  have own : (Routine.programBody fuel p : Routine σ .body Ref).Adds
      (Activation.Own p.body) none := Routine.adds_programBody fuel p (own_of_pending p.body none)
  obtain ⟨earlier, now, inner, fatal⟩ := exists_fatal own rfl h
  obtain ⟨fn, inside, outer, base, active, -, span, located, stack⟩ := fatal.tells
  obtain ⟨rfl, rfl⟩ : none = fn ∧ [] = outer := by simpa using base
  have whole : d.stack = framesOf now.span? now.active := by rw [stack, active, framesOf_base]
  exact ⟨earlier, now, inner, fatal.split, fatal.counts.functions,
    fatal.explains (Nat.zero_le _) (fun _ reports => reports) span located whole⟩

/-! ## Scripts -/

namespace Routine

variable {out : Sink σ} {call : Caller σ} {inside : Watcher σ} {m : Machine σ} {f : Ref}
  {c : Closure}

theorem moments_cell_bind (r : Ref) {p : Part} (f : Cell → Routine σ p α)
    (active : List Activation) :
    (cell r >>= f).moments out call inside active m =
      ⟨active, m, .look⟩ :: (f (m.store.cell r)).moments out call inside active m :=
  rfl

theorem moments_activate_closure (h : m.store.cell f = .closure c) (fuel : Nat)
    (receiver : Option Ref) (args : List Ref) (active : List Activation) :
    (activate fuel f receiver args).moments out call inside active m =
      ⟨active, m, .look⟩ :: (activation f c (readyBody c receiver args)
        (functionBody fuel c)).moments out call inside active m := by
  unfold activate
  rw [moments_cell_bind, h]

/-- The moments before the body of a function that has a receiver, and those of the body. -/
theorem moments_activation_own (own : c.receiver = none) (room : m.depth < callLimit) (f : Ref)
    (receiver : Ref) (args : List Ref) (body : Routine σ .body Ref) (active : List Activation) :
    (activation f c (readyBody c (some receiver) args) body).moments out call inside active m =
      let store :=
        (m.store.newScope (some c.home)).2.declareParams m.store.nextScope c.params args
      ⟨active, m, .change store⟩ :: body.moments out call inside (⟨some (f, c), none⟩ :: active)
        ({ m with store := store }.entering (m.store.nextScope, receiver)) := by
  rw [moments_activation_of_room (Nat.not_le_of_lt room)]
  simp only [readyBody, own]
  rfl

end Routine

namespace Script

variable {out : Sink σ} {fuel : Nat}

/-- The moments of a script end with those of its body. Before them nothing is being called. -/
theorem moments_script_succ (out : Sink σ) (fuel : Nat) (script : Script) (receiver : Ref)
    (args : Dict Ref) (params : script.params = args.keys) (m : Machine σ)
    (room : m.depth < callLimit) :
    ∃ earlier, (∀ now ∈ earlier, now.active = []) ∧
      (Routine.script script receiver args.values).moments out (Run.call out (fuel + 1))
        (Run.callMoments out (fuel + 1)) [] m =
      earlier ++ (Routine.functionBody fuel (script.main m.globals)).moments out
        (Run.call out fuel) (Run.callMoments out fuel)
        [⟨some (m.store.nextCell, script.main m.globals), none⟩]
        (script.inBody receiver args m) := by
  let f := script.main m.globals
  let after : Machine σ := { m with store := (m.store.alloc (.closure f)).2 }
  have made : after.store.cell m.store.nextCell = .closure f := Store.cell_alloc_self (.closure f)
  have start : (Routine.script script receiver args.values).moments out
      (Run.call out (fuel + 1)) (Run.callMoments out (fuel + 1)) [] m =
    [⟨[], m, .look⟩, ⟨[], m, .change after.store⟩] ++
      (Routine.activate fuel m.store.nextCell (some receiver) args.values).moments out
        (Run.call out fuel) (Run.callMoments out fuel) [] after := rfl
  rw [start, Routine.moments_activate_closure made,
    Routine.moments_activation_own (m := after) rfl room, inBody,
    m.store.entered_eq (f := f) params]
  exact ⟨[_, _, _, _], by simp, rfl⟩

/-- The moment at which the body of a function fails explains the failure that leaves the function,
when nothing else is being called. -/
theorem body_explained {f : Ref} {c : Closure} {m m' : Machine σ} {d : Diagnostic}
    (quiet : m.callSite = none) (depth : m.depth = 1)
    (h : (Routine.functionBody fuel c).run out (Run.call out fuel) m = .failed d m') :
    ∃ earlier now, ∃ inner : List (Ref × Closure),
      (Routine.functionBody fuel c).moments out (Run.call out fuel) (Run.callMoments out fuel)
        [⟨some (f, c), none⟩] m = earlier ++ [now] ∧
      now.active.map (·.function) = inner.map some ++ [some (f, c)] ∧
      Explains [] now (d.pushFrame (c.name.getD "<anonymous>") (m'.callSite <|> d.span)) := by
  have own : (Routine.functionBody fuel c : Routine σ .body Ref).Adds (Activation.Own [])
      (some (f, c)) := Routine.adds_functionBody fuel c (own_of_pending [] (some (f, c)))
  obtain ⟨earlier, now, inner, fatal⟩ := exists_fatal own quiet h
  have left : Part.call.Tells [] now
      (d.pushFrame (c.name.getD "<anonymous>") (m'.callSite <|> d.span))
      { m' with callSite := none } := fatal.tells.leave rfl
  obtain ⟨active, eq, -, stack, -, place⟩ := left
  obtain rfl : now.active = active := by simpa using eq
  have functions := fatal.counts.functions
  have running : now.active ≠ [] := by
    intro none
    simp [none] at functions
  exact ⟨earlier, now, inner, fatal.split, functions,
    fatal.explains (by simp [depth]) (fun _ reports => reports.pushFrame _ _)
      (place running).1 (place running).2 stack⟩

theorem params_of_compile {source : String} {params : List String} {script : Script}
    (h : compile source params = .ok script) : script.params = params := by
  obtain ⟨-, program, -, rfl⟩ := of_compile h
  rfl

/-- When a script fails, its body has failed. -/
theorem body_failed_of_invoke {script : Script} {receiver : Ref} {args : Dict Ref}
    (params : script.params = args.keys) {m m' : Machine σ} (room : m.depth < callLimit)
    {d : Diagnostic} (h : script.invoke out (fuel + 1) receiver args.values m = .failed d m') :
    ∃ d₀ m₀, (Routine.functionBody fuel (script.main m.globals)).run out (Run.call out fuel)
        (script.inBody receiver args m) = .failed d₀ m₀ ∧
      d = d₀.pushFrame scriptFrame (m₀.callSite <|> d₀.span) := by
  have invoked : script.invoke out (fuel + 1) receiver args.values m = _ :=
    (invoke_succ out fuel script receiver args params m room).trans
      (Run.inFrame_eq scriptFrame (m.store.nextScope, receiver) _ _)
  rw [invoked] at h
  rw [Routine.run_functionBody]
  split at h
  · exact nomatch h
  · next d₀ m₀ failed =>
    cases h
    exact ⟨d₀, m₀, failed, rfl⟩
  · exact nomatch h

theorem failed_of_ofOutcome {source : String} {o : Outcome σ Ref} {failure : ScriptFailure}
    {s : Store} {k : σ}
    (h : Execution.ofOutcome source o = some ⟨.error failure, s, k⟩) :
    ∃ d m, o = .failed d m ∧
      failure.diagnostic = d.shiftBack strictPrelude.utf8ByteSize := by
  cases o with
  | done r m => exact nomatch h
  | failed d m =>
    cases h
    exact ⟨d, m, rfl, rfl⟩
  | exhausted => exact nomatch h

/-- The moment at which a script fails explains the failure. -/
theorem execute_explained (out : Sink σ) (fuel : Nat) (source : String) (b : Bindings) (s : Store)
    (k : σ) {failure : ScriptFailure} {s' : Store} {k' : σ}
    (h : execute out fuel source b s k = some ⟨.error failure, s', k'⟩)
    (running : failure.phase = .run) :
    ∃ script earlier now d, ∃ inner : List (Ref × Closure),
      let m := Machine.start s script.strict k
      compile source (b.names s) = .ok script ∧
      moments out fuel source b s k = earlier ++ [now] ∧
      now.active.map (·.function) =
        inner.map some ++ [some (m.store.nextCell, script.main m.globals)] ∧
      Explains [] now d ∧ failure.diagnostic = d.shiftBack strictPrelude.utf8ByteSize ∧
      d.stack.getLast?.map (·.function) = some scriptFrame ∧
      (s.Ready [.value b.map] → ∀ g ∈ inner, g.1 ≠ m.store.nextCell) := by
  cases read : compile source (b.names s) with
  | error failed =>
    rw [execute_of_error read] at h
    cases h
    exact absurd (phase_of_compile read) (by simp [running])
  | ok script =>
    rw [execute_of_compile read] at h
    rw [moments_of_compile read]
    cases fuel with
    | zero =>
      rw [invoke_zero] at h
      cases h
    | succ fuel =>
      generalize start : Machine.start s script.strict k = m at h
      have room : m.depth < callLimit := start ▸ (by decide : 0 < callLimit)
      have params : script.params = (b.entries s).keys := params_of_compile read
      obtain ⟨d, m', invoked, same⟩ := failed_of_ofOutcome h
      obtain ⟨d₀, m₀, failed, rfl⟩ := body_failed_of_invoke params room invoked
      obtain ⟨before, -, split⟩ :=
        moments_script_succ out fuel script b.map (b.entries s) params m room
      obtain ⟨earlier, now, inner, last, functions, explains⟩ :=
        body_explained (f := m.store.nextCell) (start ▸ rfl) (start ▸ rfl) failed
      subst start
      refine ⟨script, before ++ earlier, now, _, inner, rfl, ?_, functions, explains, same, ?_, ?_⟩
      · rw [Bindings.values, split, last, List.append_assoc]
      · simp [Diagnostic.pushFrame, main]
      · intro ready g mem
        obtain ⟨others, counts⟩ := counts_body ready out fuel _ now (by rw [last]; simp)
        have same : others = inner := by
          have functions' := counts.functions.symm.trans functions
          exact List.map_injective_iff.2 (fun _ _ => Option.some.inj)
            (List.append_cancel_right functions')
        exact counts.entered g (same ▸ mem) rfl _ rfl

end Script

/-- The stack of a failure lists what was being called when it was raised: of a program its
functions, and of a script its functions and the script itself, which is called once. -/
theorem failure_traces (out : Sink σ) (fuel : Nat) :
    (∀ p m d m', Run.program out fuel p m = .failed d m' →
      ∃ earlier now, ∃ inner : List (Ref × Closure),
        Run.programMoments out fuel p m = earlier ++ [now] ∧
        now.active.map (·.function) = inner.map some ++ [none] ∧ Explains p.body now d) ∧
    (∀ source b s k failure s' k',
      Script.execute out fuel source b s k = some ⟨.error failure, s', k'⟩ →
      failure.phase = .run → ∃ script earlier now d, ∃ inner : List (Ref × Closure),
        let m := Machine.start s script.strict k
        Script.compile source (b.names s) = .ok script ∧
        Script.moments out fuel source b s k = earlier ++ [now] ∧
        now.active.map (·.function) =
          inner.map some ++ [some (m.store.nextCell, script.main m.globals)] ∧
        Explains [] now d ∧ failure.diagnostic = d.shiftBack strictPrelude.utf8ByteSize ∧
        d.stack.getLast?.map (·.function) = some scriptFrame ∧
        (s.Ready [.value b.map] → ∀ g ∈ inner, g.1 ≠ m.store.nextCell)) :=
  ⟨fun p m _ _ h => Run.program_explained out fuel p m h,
    fun source b s k _ _ _ h running => Script.execute_explained out fuel source b s k h running⟩

/-- A script whose function fails in a native function that it calls. -/
theorem failure_traces_nested :
    let source := "fn f(x) \x7b\n  fail(x)\n\x7d\nf(\"no\")"
    let s : Store := ⟨#[.map .empty], #[], 0⟩
    s.Ready [.value (.cell 0)] ∧
    ∃ (failure : ScriptFailure) (s' : Store) (earlier : List (Moment Unit)) (now : Moment Unit)
      (d : Diagnostic) (inner : List (Ref × Closure)) (unit : Ref × Closure),
      Script.execute .silent 60 source ⟨.cell 0⟩ s () = some ⟨.error failure, s', ()⟩ ∧
      failure.diagnostic.stack = [⟨"f", some ⟨12, 19⟩⟩, ⟨"<script>", some ⟨22, 29⟩⟩] ∧
      Script.moments .silent 60 source ⟨.cell 0⟩ s () = earlier ++ [now] ∧
      now.active.map (·.function) = inner.map some ++ [some unit] ∧
      (∀ g ∈ inner, g.1 ≠ unit.1) ∧
      Explains [] now d ∧ failure.diagnostic = d.shiftBack strictPrelude.utf8ByteSize := by
  intro source s
  have ready : s.Ready [.value (.cell 0)] := Store.ready_alloc (c := .map .empty) rfl
  have failed : (Script.execute .silent 60 source ⟨.cell 0⟩ s ()).map (fun e =>
      e.failure?.map fun failure => (failure.phase, failure.diagnostic.stack)) =
      some (some (.run, [⟨"f", some ⟨12, 19⟩⟩, ⟨"<script>", some ⟨22, 29⟩⟩])) := by
    decide +kernel
  obtain ⟨e, run, fails⟩ := Option.map_eq_some_iff.1 failed
  obtain ⟨failure, found, same⟩ := Option.map_eq_some_iff.1 fails
  obtain ⟨running, stack⟩ := Prod.mk.inj same
  rw [Execution.eq_of_failure? found] at run
  obtain ⟨script, earlier, now, d, inner, -, split, functions, explains, moved, -, once⟩ :=
    (failure_traces .silent 60).2 _ _ _ _ _ _ _ run running
  exact ⟨ready, failure, e.store, earlier, now, d, inner, _, run, stack, split, functions,
    once ready, explains, moved⟩

end LayerScript
