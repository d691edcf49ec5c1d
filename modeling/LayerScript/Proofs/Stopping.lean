import LayerScript.Proofs.Frames
import LayerScript.Proofs.Routines.Moments

/-!
# A failure ends the run

The moments of a run account for it. Each of them finds the store and the sink as the one before it
has left them, a failing moment is the last one, and the run then fails with the message of that
failure.
-/

namespace LayerScript

/-- A diagnostic says what a fault says. Its place and its stack are left open. -/
structure Diagnostic.Reports (d : Diagnostic) (fault : Fault) : Prop where
  stage : d.stage = .runtime
  message : d.message = fault.message
  notes : d.notes = fault.notes

namespace Diagnostic.Reports

variable {d : Diagnostic} {fault : Fault}

theorem diagnostic (fault : Fault) : fault.diagnostic.Reports fault :=
  ⟨rfl, rfl, rfl⟩

theorem locatedAt (fault : Fault) (span : Span) : (fault.locatedAt span).Reports fault :=
  ⟨rfl, rfl, rfl⟩

theorem orSpan (h : d.Reports fault) (span : Span) : (d.orSpan span).Reports fault :=
  ⟨h.stage, h.message, h.notes⟩

theorem pushFrame (h : d.Reports fault) (function : String) (span : Option Span) :
    (d.pushFrame function span).Reports fault :=
  ⟨h.stage, h.message, h.notes⟩

theorem shiftBack (h : d.Reports fault) (bytes : Nat) : (d.shiftBack bytes).Reports fault :=
  ⟨h.stage, h.message, h.notes⟩

end Diagnostic.Reports

variable {σ α β : Type} {c c' c'' : Store × σ} {ms later : List (Moment σ)}

/-- From what is left by one moment the next one goes on. -/
def Leads (c : Store × σ) : List (Moment σ) → Store × σ → Prop
  | [], c' => c' = c
  | now :: later, c' => now.machine.contents = c ∧ Leads now.after later c'

theorem Leads.append (h : Leads c ms c') (h' : Leads c' later c'') : Leads c (ms ++ later) c'' := by
  induction ms generalizing c with
  | nil =>
    obtain rfl : c' = c := h
    exact h'
  | cons now ms ih => exact ⟨h.1, ih h.2⟩

theorem Leads.after_last {now : Moment σ} (h : Leads c (ms ++ [now]) c') : c' = now.after := by
  induction ms generalizing c with
  | nil => exact h.2
  | cons first ms ih => exact ih h.2

/-- Nothing goes wrong at any of the moments. -/
def Calm (ms : List (Moment σ)) : Prop :=
  ∀ now ∈ ms, now.fault? = none

theorem calm_nil : Calm ([] : List (Moment σ)) :=
  fun _ mem => nomatch mem

theorem Calm.append (h : Calm ms) (h' : Calm later) : Calm (ms ++ later) :=
  fun now mem => (List.mem_append.1 mem).elim (h now) (h' now)

/-- What goes wrong at the last of the moments, and only there, is what a diagnostic reports. -/
def Blames (ms : List (Moment σ)) : Option Diagnostic → Prop
  | none => Calm ms
  | some d => ∃ earlier now fault, ms = earlier ++ [now] ∧ Calm earlier ∧
      now.fault? = some fault ∧ d.Reports fault

theorem Blames.one {now : Moment σ} {d : Diagnostic} {fault : Fault}
    (fails : now.fault? = some fault) (reports : d.Reports fault) : Blames [now] (some d) :=
  ⟨[], now, fault, rfl, calm_nil, fails, reports⟩

theorem Blames.append {d : Option Diagnostic} (h : Calm ms) (h' : Blames later d) :
    Blames (ms ++ later) d := by
  cases d with
  | none => exact h.append h'
  | some d =>
    obtain ⟨earlier, now, fault, rfl, calm, blame⟩ := h'
    exact ⟨ms ++ earlier, now, fault, (List.append_assoc ..).symm, h.append calm, blame⟩

theorem Blames.mono {d d' : Diagnostic} (h : Blames ms (some d))
    (reports : ∀ fault, d.Reports fault → d'.Reports fault) : Blames ms (some d') := by
  obtain ⟨earlier, now, fault, split, calm, fails, same⟩ := h
  exact ⟨earlier, now, fault, split, calm, fails, reports fault same⟩

/-- The moments of a run tell how it ends. -/
structure Accounts (c : Store × σ) (ms : List (Moment σ)) (o : Outcome σ α) : Prop where
  leads : ∀ m ∈ o.after?, Leads c ms m.contents
  blames : Blames ms o.diagnostic?

namespace Accounts

theorem done {a : α} {m : Machine σ} (calm : Calm ms) (leads : Leads c ms m.contents) :
    Accounts c ms (.done a m) := by
  refine ⟨?_, calm⟩
  rintro _ ⟨⟩
  exact leads

theorem failed {d : Diagnostic} {m : Machine σ} (blames : Blames ms (some d))
    (leads : Leads c ms m.contents) : Accounts (α := α) c ms (.failed d m) := by
  refine ⟨?_, blames⟩
  rintro _ ⟨⟩
  exact leads

theorem exhausted (calm : Calm ms) : Accounts (α := α) c ms .exhausted :=
  ⟨nofun, calm⟩

theorem bind {x : Run σ α} {f : α → Run σ β} {rest : α → Machine σ → List (Moment σ)}
    {m : Machine σ} (first : Accounts c ms (x m))
    (next : ∀ a m', Accounts m'.contents (rest a m') (f a m')) :
    Accounts c (ms ++ (x m).andThen rest) (x.bind f m) := by
  unfold Run.bind
  cases hx : x m with
  | done a m' =>
    rw [hx] at first
    have calm : Calm ms := first.blames
    have leads : Leads c ms m'.contents := first.leads m' rfl
    have second := next a m'
    exact ⟨fun m'' hm => leads.append (second.leads m'' hm), second.blames.append calm⟩
  | failed d m' =>
    rw [hx] at first
    show Accounts c (ms ++ []) (.failed d m')
    rw [List.append_nil]
    exact .failed first.blames (first.leads m' rfl)
  | exhausted =>
    rw [hx] at first
    show Accounts c (ms ++ []) .exhausted
    rw [List.append_nil]
    exact .exhausted first.blames

variable {x : Run σ α} {m : Machine σ}

theorem inScope {scope : ScopeId} (h : Accounts c ms (x { m with scope := scope })) :
    Accounts c ms (Run.inScope scope x m) := by
  unfold Run.inScope
  cases hx : x { m with scope := scope } with
  | done a m' =>
    rw [hx] at h
    exact .done h.blames (h.leads m' rfl)
  | failed d m' =>
    rw [hx] at h
    exact .failed h.blames (h.leads m' rfl)
  | exhausted =>
    rw [hx] at h
    exact .exhausted h.blames

theorem atCall {span : Span} (h : Accounts c ms (x m)) :
    Accounts c ms (Run.atCall span x m) := by
  unfold Run.atCall
  cases hx : x m with
  | done a m' =>
    rw [hx] at h
    exact .done h.blames (h.leads m' rfl)
  | failed d m' =>
    rw [hx] at h
    have blames : Blames ms (some d) := h.blames
    exact .failed (blames.mono fun _ reports => reports.orSpan span) (h.leads m' rfl)
  | exhausted =>
    rw [hx] at h
    exact .exhausted h.blames

theorem inFrame {name : String} {frame : ScopeId × Ref}
    (h : Accounts c ms (x (m.entering frame))) :
    Accounts c ms (Run.inFrame name frame.1 frame.2 x m) := by
  rw [Run.inFrame_eq]
  cases hx : x (m.entering frame) with
  | done a m' =>
    rw [hx] at h
    exact .done h.blames (h.leads m' rfl)
  | failed d m' =>
    rw [hx] at h
    have blames : Blames ms (some d) := h.blames
    exact .failed (blames.mono fun _ reports => reports.pushFrame name _) (h.leads m' rfl)
  | exhausted =>
    rw [hx] at h
    exact .exhausted h.blames

end Accounts

/-- The moments of calls tell how the calls end. -/
def Watched (call : Caller σ) (inside : Watcher σ) : Prop :=
  ∀ f receiver args active m,
    Accounts m.contents (inside f receiver args active m) (call f receiver args m)

theorem Watched.routine {call : Caller σ} {inside : Watcher σ} (h : Watched call inside)
    (out : Sink σ) {p : Part} (x : Routine σ p α) (active : List Activation) (m : Machine σ) :
    Accounts m.contents (x.moments out call inside active m) (x.run out call m) := by
  -- a step is one moment; what is put together adds none of its own
  induction x generalizing active m with
  | pure a => exact .done calm_nil rfl
  | bind x f ihx ihf => exact (ihx active m).bind fun a m' => ihf a active m'
  | exhausted => exact .exhausted calm_nil
  | read f => exact .done (by simp [Calm, Routine.moments, Moment.fault?]) ⟨rfl, rfl⟩
  | onStore f => exact .done (by simp [Calm, Routine.moments, Moment.fault?]) ⟨rfl, rfl⟩
  | raise fault => exact .failed (.one rfl (.diagnostic fault)) ⟨rfl, rfl⟩
  | raiseAt span fault => exact .failed (.one rfl (.locatedAt fault span)) ⟨rfl, rfl⟩
  | inScope scope x ih => exact (ih active { m with scope := scope }).inScope
  | atCall span x ih => exact (ih (waitingAt span active) m).atCall
  | call f receiver args => exact h f receiver args active m
  | activation f c ready body ihr ihb =>
    by_cases limit : callLimit ≤ m.depth
    · rw [Routine.moments_activation_of_limit limit, Routine.run, Run.enter_of_limit limit]
      exact .failed (.one rfl (.diagnostic _)) ⟨rfl, rfl⟩
    · rw [Routine.moments_activation_of_room limit, Routine.run, Run.enter_of_room limit]
      exact (ihr active m).bind fun frame m' => (ihb _ (m'.entering frame)).inFrame
  | write level payload =>
    rw [Routine.moments_write, Routine.run]
    rcases Run.write_cases out level payload m with
      ⟨silent, run⟩ | ⟨sink, taken, run⟩ | ⟨e, sink, refused, run⟩
    · rw [silent, run]
      exact .exhausted calm_nil
    · rw [taken, run]
      exact .done (by simp [Calm, Moment.fault?]) ⟨rfl, rfl⟩
    · rw [refused, run]
      exact .failed (.one rfl (.diagnostic _)) ⟨rfl, rfl⟩

theorem watched_call (out : Sink σ) (fuel : Nat) :
    Watched (Run.call out fuel) (Run.callMoments out fuel) := by
  induction fuel with
  | zero => exact fun _ _ _ _ _ => .exhausted calm_nil
  | succ fuel ih =>
    intro f receiver args active m
    have account := ih.routine out (Routine.activate fuel f receiver args) active m
    rw [Routine.run_activate] at account
    exact account

/-! ## Scripts -/

/-- Why a script has failed. -/
def Execution.failure? (e : Execution σ) : Option ScriptFailure :=
  match e.result with
  | .ok _ => none
  | .error failure => some failure

theorem Execution.eq_of_failure? {e : Execution σ} {failure : ScriptFailure}
    (h : e.failure? = some failure) : e = ⟨.error failure, e.store, e.sink⟩ := by
  obtain ⟨result, store, sink⟩ := e
  cases result with
  | ok r => cases h
  | error f =>
    obtain rfl : f = failure := Option.some.inj h
    rfl

/-- A run of a script, told by its moments, ends where something goes wrong. -/
structure Stops (ms : List (Moment σ)) (result : Option (Execution σ)) : Prop where
  /-- A failing moment is the last one, and its failure is the result. -/
  failing : ∀ earlier now later fault, ms = earlier ++ now :: later → now.fault? = some fault →
    later = [] ∧ ∃ failure, result = some ⟨.error failure, now.after.1, now.after.2⟩ ∧
      failure.phase = .run ∧ failure.diagnostic.Reports fault
  /-- So it is when the console does not take a line. -/
  writing : ∀ earlier now later level payload e sink, ms = earlier ++ now :: later →
    now.deed = .write level payload (.error e) sink →
      later = [] ∧ ∃ failure, result = some ⟨.error failure, now.machine.store, sink⟩ ∧
        failure.phase = .run ∧
        failure.diagnostic.message = s!"console.{level.method} failed: {e.message}"
  /-- Nothing else makes a script fail while it runs. -/
  failed : ∀ failure s k, result = some ⟨.error failure, s, k⟩ → failure.phase = .run →
    ∃ earlier now, ms = earlier ++ [now] ∧ now.fault?.isSome

theorem Calm.not_fails {earlier : List (Moment σ)} {now : Moment σ} {fault : Fault}
    (h : Calm (earlier ++ now :: later)) : now.fault? ≠ some fault := by
  have calm : now.fault? = none := h now (by simp)
  simp [calm]

/-- Where only the last moment fails, a failing moment is the last. -/
theorem Calm.eq_last {before earlier : List (Moment σ)} {last now : Moment σ} {fault : Fault}
    (h : Calm before) (split : before ++ [last] = earlier ++ now :: later)
    (fails : now.fault? = some fault) : before = earlier ∧ last = now ∧ later = [] := by
  rcases List.append_eq_append_iff.1 split with ⟨more, rfl, rest⟩ | ⟨more, rfl, rest⟩
  · cases more with
    | nil => simp_all
    | cons first more => simp at rest
  · cases more with
    | nil => simp_all
    | cons first more =>
      obtain ⟨rfl, -⟩ := List.cons.inj rest
      have calm : now.fault? = none := h now (by simp)
      simp [calm] at fails

theorem Stops.of_calm {result : Option (Execution σ)} (calm : Calm ms)
    (h : ∀ failure s k, result = some ⟨.error failure, s, k⟩ → failure.phase ≠ .run) :
    Stops ms result := by
  constructor
  case failing =>
    rintro earlier now later fault rfl fails
    exact absurd fails calm.not_fails
  case writing =>
    rintro earlier now later level payload e sink rfl deed
    have fails : now.fault? = some (.console level e) := by simp [Moment.fault?, deed]
    exact absurd fails calm.not_fails
  case failed =>
    intro failure s k result phase
    exact absurd phase (h failure s k result)

theorem Stops.of_failing {before : List (Moment σ)} {last : Moment σ} {fault : Fault}
    (failure : ScriptFailure) (calm : Calm before) (fails : last.fault? = some fault)
    (phase : failure.phase = .run) (reports : failure.diagnostic.Reports fault) :
    Stops (before ++ [last]) (some ⟨.error failure, last.after.1, last.after.2⟩) := by
  constructor
  case failing =>
    intro earlier now later fault' split fails'
    obtain ⟨rfl, rfl, rfl⟩ := calm.eq_last split fails'
    obtain rfl : fault = fault' := Option.some.inj (fails.symm.trans fails')
    exact ⟨rfl, failure, rfl, phase, reports⟩
  case writing =>
    intro earlier now later level payload e sink split deed
    have fails' : now.fault? = some (.console level e) := by simp [Moment.fault?, deed]
    obtain ⟨rfl, rfl, rfl⟩ := calm.eq_last split fails'
    obtain rfl : fault = .console level e := Option.some.inj (fails.symm.trans fails')
    refine ⟨rfl, failure, ?_, phase, reports.message⟩
    simp [Moment.after, deed]
  case failed =>
    intro _ _ _ _ _
    exact ⟨before, last, rfl, by simp [fails]⟩

namespace Script

theorem phase_of_compile {source : String} {params : List String} {failure : ScriptFailure}
    (h : compile source params = .error failure) : failure.phase = .compile := by
  obtain ⟨d, rfl, -⟩ := of_compile_error h
  rfl

variable {out : Sink σ} {fuel : Nat} {source : String} {b : Bindings} {s : Store} {k : σ}

theorem moments_of_error {failure : ScriptFailure}
    (h : compile source (b.names s) = .error failure) : moments out fuel source b s k = [] := by
  simp only [moments, h]

theorem moments_of_compile {script : Script} (h : compile source (b.names s) = .ok script) :
    moments out fuel source b s k =
      (Routine.script script b.map (b.values s)).moments out (Run.call out fuel)
        (Run.callMoments out fuel) [] (.start s script.strict k) := by
  simp only [moments, h]

/-- When something goes wrong in a script, nothing is done any more, and the script fails with that.
All that a script does to the store and to the sink is done at its moments. -/
theorem execute_stops (out : Sink σ) (fuel : Nat) (source : String) (b : Bindings) (s : Store)
    (k : σ) : Stops (moments out fuel source b s k) (execute out fuel source b s k) ∧
      ∀ script, compile source (b.names s) = .ok script →
        ∀ e ∈ execute out fuel source b s k,
          Leads (Machine.start s script.strict k).contents (moments out fuel source b s k)
            (e.store, e.sink) := by
  cases read : compile source (b.names s) with
  | error failure =>
    rw [execute_of_error read, moments_of_error read]
    refine ⟨.of_calm calm_nil ?_, fun _ h => nomatch h⟩
    rintro _ _ _ ⟨⟩ running
    exact absurd (phase_of_compile read) (by simp [running])
  | ok script =>
    rw [execute_of_compile read, moments_of_compile read]
    have account := (watched_call out fuel).routine out
      (Routine.script script b.map (b.values s)) [] (.start s script.strict k)
    rw [Routine.run_script] at account
    cases run : script.invoke out fuel b.map (b.values s) (.start s script.strict k) with
    | done r m =>
      rw [run] at account
      refine ⟨.of_calm account.blames nofun, ?_⟩
      rintro _ ⟨⟩ e ⟨⟩
      exact account.leads m rfl
    | failed d m =>
      rw [run] at account
      have leads := account.leads m rfl
      obtain ⟨earlier, now, fault, split, calm, fails, reports⟩ := account.blames
      have left : m.contents = now.after := Leads.after_last (split ▸ leads)
      constructor
      · have stops := Stops.of_failing (.ofRun source
          (d.shiftBack strictPrelude.utf8ByteSize)) calm fails rfl (reports.shiftBack _)
        rw [← split, ← left] at stops
        exact stops
      · rintro _ ⟨⟩ e ⟨⟩
        exact leads
    | exhausted =>
      rw [run] at account
      exact ⟨.of_calm account.blames nofun, fun _ _ _ h => nomatch h⟩

/-- A console that takes two lines stops a script that writes one for each of four items. -/
theorem execute_stops_refused :
    let out : Sink (List String) := ⟨fun s _ payload k =>
      if k.length < 2 then some (.ok (), k ++ [s.displayAll payload])
      else some (.error (.io "full"), k)⟩
    let source := "std.collections.map([1, 2, 3, 4], |x| console.log(x))"
    ∃ (failure : ScriptFailure) (s' : Store) (earlier : List (Moment (List String)))
      (now : Moment (List String)),
      execute out 80 source ⟨.cell 0⟩ ⟨#[.map .empty], #[], 0⟩ [] =
        some ⟨.error failure, s', ["1", "2"]⟩ ∧
      failure.diagnostic.message = "console.log failed: failed to write log output: full" ∧
      moments out 80 source ⟨.cell 0⟩ ⟨#[.map .empty], #[], 0⟩ [] = earlier ++ [now] ∧
      now.fault?.isSome := by
  intro out source
  have refused : (execute out 80 source ⟨.cell 0⟩ ⟨#[.map .empty], #[], 0⟩ []).map (fun e =>
      (e.failure?.map fun failure => (failure.phase, failure.diagnostic.message), e.sink)) =
      some (some (.run, "console.log failed: failed to write log output: full"), ["1", "2"]) := by
    decide +kernel
  obtain ⟨e, run, ends⟩ := Option.map_eq_some_iff.1 refused
  obtain ⟨fails, sink⟩ := Prod.mk.inj ends
  obtain ⟨failure, found, same⟩ := Option.map_eq_some_iff.1 fails
  obtain ⟨running, message⟩ := Prod.mk.inj same
  rw [Execution.eq_of_failure? found, sink] at run
  obtain ⟨earlier, now, split, last⟩ := (execute_stops out 80 source ⟨.cell 0⟩
    ⟨#[.map .empty], #[], 0⟩ []).1.failed failure e.store _ run running
  exact ⟨failure, e.store, earlier, now, run, message, split, last⟩

end Script

end LayerScript
