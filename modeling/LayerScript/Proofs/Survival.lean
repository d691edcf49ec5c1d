import LayerScript.Proofs.Traces.Sites

/-!
# The interpreter after a run

Whatever is run, and however it ends, afterwards the machine is in the scope it was in and has the
receiver, the depth and the strictness it had. At each moment in between its depth counts the
functions that are being called.
-/

namespace LayerScript

variable {σ α β : Type}

/-- What a run does not change, seen from outside. -/
structure Machine.Resumes (m m' : Machine σ) : Prop where
  scope : m'.scope = m.scope
  globals : m'.globals = m.globals
  receiver : m'.receiver = m.receiver
  depth : m'.depth = m.depth
  strict : m'.strict = m.strict

namespace Machine.Resumes

variable {m m' m'' : Machine σ}

theorem refl (m : Machine σ) : m.Resumes m :=
  ⟨rfl, rfl, rfl, rfl, rfl⟩

theorem trans (h : m.Resumes m') (h' : m'.Resumes m'') : m.Resumes m'' where
  scope := h'.scope.trans h.scope
  globals := h'.globals.trans h.globals
  receiver := h'.receiver.trans h.receiver
  depth := h'.depth.trans h.depth
  strict := h'.strict.trans h.strict

end Machine.Resumes

/-- A run after which the machine goes on as before. -/
def Outcome.Keeps (m : Machine σ) (o : Outcome σ α) : Prop :=
  ∀ m' ∈ o.after?, m.Resumes m'

namespace Outcome.Keeps

variable {m : Machine σ}

theorem done {m' : Machine σ} {a : α} (h : m.Resumes m') : Keeps m (.done a m') := by
  rintro _ ⟨⟩
  exact h

theorem failed {m' : Machine σ} {d : Diagnostic} (h : m.Resumes m') :
    Keeps (α := α) m (.failed d m') := by
  rintro _ ⟨⟩
  exact h

theorem exhausted : Keeps (α := α) m .exhausted :=
  nofun

theorem bind {x : Run σ α} {f : α → Run σ β} (first : Keeps m (x m))
    (next : ∀ a m', Keeps m' (f a m')) : Keeps m (x.bind f m) := by
  unfold Run.bind
  cases hx : x m with
  | done a m' =>
    rw [hx] at first
    exact fun m'' h => (first m' rfl).trans (next a m' m'' h)
  | failed d m' =>
    rw [hx] at first
    exact .failed (first m' rfl)
  | exhausted => exact .exhausted

variable {x : Run σ α}

theorem inScope {scope : ScopeId}
    (h : Keeps { m with scope := scope } (x { m with scope := scope })) :
    Keeps m (Run.inScope scope x m) := by
  unfold Run.inScope
  cases hx : x { m with scope := scope } with
  | done a m' =>
    rw [hx] at h
    exact .done { h m' rfl with scope := rfl }
  | failed d m' =>
    rw [hx] at h
    exact .failed { h m' rfl with scope := rfl }
  | exhausted => exact .exhausted

theorem atCall {span : Span} (h : Keeps m (x m)) : Keeps m (Run.atCall span x m) := by
  unfold Run.atCall
  cases hx : x m with
  | done a m' =>
    rw [hx] at h
    exact .done (h m' rfl)
  | failed d m' =>
    rw [hx] at h
    exact .failed { h m' rfl with }
  | exhausted => exact .exhausted

theorem inFrame {name : String} {frame : ScopeId × Ref}
    (h : Keeps (m.entering frame) (x (m.entering frame))) :
    Keeps m (Run.inFrame name frame.1 frame.2 x m) := by
  rw [Run.inFrame_eq]
  cases hx : x (m.entering frame) with
  | done a m' =>
    rw [hx] at h
    exact .done { h m' rfl with scope := rfl, receiver := rfl, depth := rfl }
  | failed d m' =>
    rw [hx] at h
    exact .failed { h m' rfl with scope := rfl, receiver := rfl, depth := rfl }
  | exhausted => exact .exhausted

end Outcome.Keeps

/-- Calls after which the machine goes on as before. -/
def Caller.Keeps (call : Caller σ) : Prop :=
  ∀ f receiver args m, Outcome.Keeps m (call f receiver args m)

theorem Caller.Keeps.routine {call : Caller σ} (h : call.Keeps) (out : Sink σ) {p : Part}
    (x : Routine σ p α) (m : Machine σ) : (x.run out call m).Keeps m := by
  induction x generalizing m with
  | pure a => exact .done (.refl m)
  | bind x f ihx ihf => exact (ihx m).bind ihf
  | exhausted => exact .exhausted
  | read f => exact .done (.refl m)
  | onStore f => exact .done ⟨rfl, rfl, rfl, rfl, rfl⟩
  | raise fault => exact .failed (.refl m)
  | raiseAt span fault => exact .failed (.refl m)
  | inScope scope x ih => exact (ih _).inScope
  | atCall span x ih => exact (ih m).atCall
  | call f receiver args => exact h f receiver args m
  | activation f c ready body ihr ihb =>
    by_cases limit : callLimit ≤ m.depth
    · rw [Routine.run, Run.enter_of_limit limit]
      exact .failed (.refl m)
    · rw [Routine.run, Run.enter_of_room limit]
      exact (ihr m).bind fun frame m' => (ihb _).inFrame
  | write level payload =>
    rw [Routine.run]
    rcases Run.write_cases out level payload m with
      ⟨-, run⟩ | ⟨sink, -, run⟩ | ⟨e, sink, -, run⟩
    · rw [run]
      exact .exhausted
    · rw [run]
      exact .done ⟨rfl, rfl, rfl, rfl, rfl⟩
    · rw [run]
      exact .failed ⟨rfl, rfl, rfl, rfl, rfl⟩

theorem Caller.keeps_call (out : Sink σ) (fuel : Nat) : Caller.Keeps (Run.call out fuel) := by
  induction fuel with
  | zero => exact fun _ _ _ _ => .exhausted
  | succ fuel ih =>
    intro f receiver args m
    have kept := ih.routine out (Routine.activate fuel f receiver args) m
    rw [Routine.run_activate] at kept
    exact kept

/-! ## The depth -/

/-- At a moment of a run that began in `active` on `m`, some more functions are being called, which
are as `P` says. The depth counts them and stays within the limit. -/
structure Counts (P : Activation → Prop) (active : List Activation) (m : Machine σ)
    (now : Moment σ) (inner : List (Ref × Closure)) : Prop where
  functions : now.active.map (·.function) = inner.map some ++ active.map (·.function)
  entered : ∀ g ∈ inner, P ⟨some g, none⟩
  depth : now.machine.depth = m.depth + inner.length
  limit : now.machine.depth ≤ max m.depth callLimit

theorem Counts.start (P : Activation → Prop) (active : List Activation) (m : Machine σ)
    (deed : Deed σ) : Counts P active m ⟨active, m, deed⟩ [] :=
  ⟨rfl, nofun, rfl, Nat.le_max_left ..⟩

/-- In the body of a function one more function is being called. -/
theorem Counts.entering {P : Activation → Prop} {active : List Activation} {m : Machine σ}
    {now : Moment σ} {inner : List (Ref × Closure)} {f : Ref × Closure} {frame : ScopeId × Ref}
    (h : Counts P (⟨some f, none⟩ :: active) (m.entering frame) now inner)
    (room : ¬ callLimit ≤ m.depth) (entered : P ⟨some f, none⟩) :
    Counts P active m now (inner ++ [f]) := by
  have within : now.machine.depth ≤ max (m.depth + 1) callLimit := h.limit
  have deeper : now.machine.depth = m.depth + 1 + inner.length := h.depth
  constructor
  case functions =>
    rw [h.functions]
    simp
  case entered =>
    intro g mem
    rcases List.mem_append.1 mem with mem | mem
    · exact h.entered g mem
    · obtain rfl := List.mem_singleton.1 mem
      exact entered
  case depth =>
    rw [List.length_append, List.length_singleton]
    omega
  case limit => omega

/-- A run goes on from a machine of the same depth. -/
theorem Counts.after {P : Activation → Prop} {active : List Activation} {m m' : Machine σ}
    {now : Moment σ} {inner : List (Ref × Closure)} (h : Counts P active m' now inner)
    (depth : m'.depth = m.depth) : Counts P active m now inner :=
  ⟨h.functions, h.entered, depth ▸ h.depth, depth ▸ h.limit⟩

/-- The moments of calls count the functions. -/
def Watcher.Counts (P : Activation → Prop) (inside : Watcher σ) : Prop :=
  ∀ f receiver args active m, ∀ now ∈ inside f receiver args active m,
    ∃ inner, LayerScript.Counts P active m now inner

theorem Watcher.Counts.routine {P : Activation → Prop} {call : Caller σ} {inside : Watcher σ}
    (h : inside.Counts P) (hc : call.Keeps) (out : Sink σ) {p : Part} {x : Routine σ p α}
    {fn : Option (Ref × Closure)} (adds : x.Adds P fn) (active : List Activation)
    (m : Machine σ) : ∀ now ∈ x.moments out call inside active m,
      ∃ inner, LayerScript.Counts P active m now inner := by
  intro now mem
  -- what ends in between leaves the depth as it was, so the second part counts from there
  induction x generalizing fn active m with
  | pure a => exact nomatch mem
  | bind x f ihx ihf =>
    rcases List.mem_append.1 mem with first | next
    · exact ihx adds.1 active m first
    · obtain ⟨a, m', ended, next⟩ := Outcome.mem_andThen.1 next
      have depth : m'.depth = m.depth := (hc.routine out x m m' (by rw [ended]; rfl)).depth
      obtain ⟨inner, counts⟩ := ihf a (adds.2 a ⟨out, call, m, m', ended⟩) active m' next
      exact ⟨inner, counts.after depth⟩
  | exhausted => exact nomatch mem
  | read f | onStore f | raise fault | raiseAt span fault =>
    obtain rfl := List.mem_singleton.1 mem
    exact ⟨[], .start ..⟩
  | inScope scope x ih =>
    obtain ⟨inner, counts⟩ := ih adds active _ mem
    exact ⟨inner, counts.after rfl⟩
  | atCall span x ih =>
    obtain ⟨inner, counts⟩ := ih adds.2 (waitingAt span active) m mem
    refine ⟨inner, ?_, counts.entered, counts.depth, counts.limit⟩
    rw [counts.functions, map_function_waitingAt]
  | call f receiver args => exact h f receiver args active m now mem
  | activation f c ready body ihr ihb =>
    by_cases limit : callLimit ≤ m.depth
    · rw [Routine.moments_activation_of_limit limit] at mem
      obtain rfl := List.mem_singleton.1 mem
      exact ⟨[], .start ..⟩
    · rw [Routine.moments_activation_of_room limit] at mem
      rcases List.mem_append.1 mem with first | next
      · exact ihr adds.2.1 active m first
      · obtain ⟨frame, m', ended, next⟩ := Outcome.mem_andThen.1 next
        have depth : m'.depth = m.depth := (hc.routine out ready m m' (by rw [ended]; rfl)).depth
        obtain ⟨inner, counts⟩ := ihb adds.2.2 _ _ next
        exact ⟨inner ++ [(f, c)], (counts.entering (depth ▸ limit) adds.1).after depth⟩
  | write level payload =>
    rw [Routine.moments_write] at mem
    simp only [Option.mem_toList, Option.map_eq_some_iff] at mem
    obtain ⟨answer, _, rfl⟩ := mem
    exact ⟨[], .start ..⟩

theorem Watcher.counts_callMoments (out : Sink σ) (fuel : Nat) :
    Watcher.Counts (fun _ => True) (Run.callMoments out fuel) := by
  induction fuel with
  | zero => exact fun _ _ _ _ _ _ mem => nomatch mem
  | succ fuel ih =>
    intro f receiver args active m
    have calls : Caller.Keeps (Run.call out fuel) := Caller.keeps_call out fuel
    exact ih.routine calls out (Routine.adds_true _ none) active m

theorem called_of_functions {active now : List Activation} {inner : List (Ref × Closure)}
    (h : now.map (·.function) = inner.map some ++ active.map (·.function)) :
    called now = inner ++ called active := by
  have same := congrArg (List.filterMap id) h
  simpa [called, List.filterMap_map, Function.comp_def] using same

/-! ## The interpreter -/

/-- The interpreter survives a run that ends in `o`: the machine goes on as before, and at each
moment the depth counts the functions that are being called. -/
structure Survives (out : Sink σ) (fuel : Nat) {p : Part} (x : Routine σ p α) (m : Machine σ)
    (o : Outcome σ α) : Prop where
  runs : x.run out (Run.call out fuel) m = o
  keeps : o.Keeps m
  depth : ∀ active, ∀ now ∈ x.moments out (Run.call out fuel) (Run.callMoments out fuel) active m,
    now.machine.depth + (called active).length = m.depth + (called now.active).length ∧
      now.machine.depth ≤ max m.depth callLimit

theorem Survives.of_run {out : Sink σ} {fuel : Nat} {p : Part} {x : Routine σ p α} {m : Machine σ}
    {o : Outcome σ α} (h : x.run out (Run.call out fuel) m = o) : Survives out fuel x m o := by
  have calls : Caller.Keeps (Run.call out fuel) := Caller.keeps_call out fuel
  refine ⟨h, h ▸ calls.routine out x m, fun active now mem => ?_⟩
  obtain ⟨inner, counts⟩ :=
    (Watcher.counts_callMoments out fuel).routine calls out (x.adds_true none) active m now mem
  refine ⟨?_, counts.limit⟩
  rw [counts.depth, called_of_functions counts.functions, List.length_append]
  omega

namespace Run

/-- Expressions, statements, blocks, calls, programs and sources leave the interpreter as it was,
but that a program with the directive makes it strict. -/
theorem interpreter_survives (out : Sink σ) (fuel : Nat) (m : Machine σ) :
    (∀ n e, Survives out fuel (Routine.evaluate n e) m (evaluate (call out fuel) n e m)) ∧
    (∀ n s, Survives out fuel (Routine.execute n s) m (execute (call out fuel) n s m)) ∧
    (∀ n body, Survives out fuel (Routine.block n body) m (block (call out fuel) n body m)) ∧
    (∀ f receiver args,
      Survives out fuel (.call f receiver args) m (call out fuel f receiver args m)) ∧
    (∀ p, Survives out fuel (Routine.programBody fuel p)
      { m with strict := m.strict || p.strict, callSite := none } (program out fuel p m)) ∧
    (∀ text, source out fuel text m =
      match Program.parse text with
      | .ok p => program out fuel p m
      | .error d => .failed d m) := by
  have runs := Routine.runsAs out (call out fuel)
  refine ⟨fun n e => .of_run ?_, fun n s => .of_run ?_, fun n body => .of_run ?_,
    fun f receiver args => .of_run rfl, fun p => .of_run ?_, fun text => ?_⟩
  · rw [(runs n).evaluate]
  · rw [(runs n).execute]
  · rw [(runs n).block]
  · exact (program_eq out fuel p m).symm
  · unfold source
    cases Program.parse text <;> rfl

end Run

end LayerScript
