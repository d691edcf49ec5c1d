import LayerScript.Proofs.Frames
import LayerScript.Proofs.Routines.Regular

/-!
# Runs that are repeated

What a run does depends on a sink only through its answers. Where another sink gives the same
answers to the same lines, the run is repeated: it ends with the same result and the same store.
-/

namespace LayerScript

variable {σ α β : Type} {p : Part}

instance : DecidableEq (Except SinkError Unit)
  | .ok (), .ok () => isTrue rfl
  | .error d, .error e => decidable_of_iff (d = e) (by simp)
  | .ok _, .error _ => isFalse (by simp)
  | .error _, .ok _ => isFalse (by simp)

namespace Sink

/-- Writes once more what was written at some moments. As long as each line is answered as it was
then, this ends with the sink after the last of them. -/
def replay? (out : Sink σ) (k : σ) : List (Moment σ) → Option σ
  | [] => some k
  | now :: later =>
    match now.deed with
    | .write level payload answer _ =>
      match out.write now.machine.store level payload k with
      | some (again, k) => if again = answer then out.replay? k later else none
      | none => none
    | _ => out.replay? k later

theorem replay?_append (out : Sink σ) (k : σ) (ms later : List (Moment σ)) :
    out.replay? k (ms ++ later) = (out.replay? k ms).bind (out.replay? · later) := by
  induction ms generalizing k with
  | nil => rfl
  | cons now ms ih =>
    obtain ⟨active, m, deed⟩ := now
    cases deed with
    | write level payload answer sink =>
      simp only [List.cons_append, replay?]
      cases out.write m.store level payload k with
      | none => rfl
      | some taken =>
        obtain ⟨again, k'⟩ := taken
        by_cases same : again = answer
        · simp only [same, if_true]
          exact ih k'
        · simp only [same, if_false, Option.bind_none]
    | _ => exact ih k

theorem write_of_replay? {out : Sink σ} {k l sink : σ} {active : List Activation} {m : Machine σ}
    {level : Level} {payload : List Ref} {answer : Except SinkError Unit}
    (h : out.replay? k [⟨active, m, .write level payload answer sink⟩] = some l) :
    out.write m.store level payload k = some (answer, l) := by
  unfold replay? at h
  cases answered : out.write m.store level payload k with
  | none => simp [answered] at h
  | some taken =>
    obtain ⟨again, k'⟩ := taken
    by_cases same : again = answer
    · simp only [answered, same, if_true, replay?, Option.some.injEq] at h
      rw [same, h]
    · simp [answered, same] at h

end Sink

namespace Machine

def withSink (m : Machine σ) (k : σ) : Machine σ :=
  { m with sink := k }

end Machine

def Outcome.withSink (k : σ) : Outcome σ α → Outcome σ α
  | .done a m => .done a (m.withSink k)
  | .failed d m => .failed d (m.withSink k)
  | .exhausted => .exhausted

/-- Where a sink answers as before, a run that ended in `o` with the moments `ms` is repeated. -/
def Repeated (out : Sink σ) (ms : List (Moment σ)) (m : Machine σ) (o : Outcome σ α)
    (again : Run σ α) : Prop :=
  ∀ k l, out.replay? k ms = some l → o ≠ .exhausted → again (m.withSink k) = o.withSink l

namespace Repeated

variable {out : Sink σ} {ms : List (Moment σ)} {m : Machine σ}

theorem bind {x x' : Run σ α} {f f' : α → Run σ β} {rest : α → Machine σ → List (Moment σ)}
    (first : Repeated out ms m (x m) x')
    (next : ∀ a m', x m = .done a m' → Repeated out (rest a m') m' (f a m') (f' a)) :
    Repeated out (ms ++ (x m).andThen rest) m (x.bind f m) (x'.bind f') := by
  intro k l replays ends
  rw [Sink.replay?_append] at replays
  obtain ⟨j, before, after⟩ := Option.bind_eq_some_iff.1 replays
  unfold Run.bind at ends ⊢
  cases ended : x m with
  | done a m' =>
    rw [ended] at first after ends
    rw [first k j before (by simp)]
    exact next a m' ended j l after ends
  | failed d m' =>
    rw [ended] at first after
    obtain rfl : j = l := Option.some.inj after
    rw [first k j before (by simp)]
    rfl
  | exhausted =>
    rw [ended] at ends
    exact absurd rfl ends

variable {x x' : Run σ α}

theorem inScope {scope : ScopeId}
    (h : Repeated out ms { m with scope := scope } (x { m with scope := scope }) x') :
    Repeated out ms m (Run.inScope scope x m) (Run.inScope scope x') := by
  intro k l replays ends
  unfold Run.inScope at ends ⊢
  cases hx : x { m with scope := scope } with
  | exhausted =>
    rw [hx] at ends
    exact absurd rfl ends
  | _ =>
    have again := h k l replays (by simp [hx])
    rw [hx] at again
    simp only [Machine.withSink] at again
    simp only [Machine.withSink, again]
    rfl

theorem atCall {span : Span} (h : Repeated out ms m (x m) x') :
    Repeated out ms m (Run.atCall span x m) (Run.atCall span x') := by
  intro k l replays ends
  unfold Run.atCall at ends ⊢
  cases hx : x m with
  | exhausted =>
    rw [hx] at ends
    exact absurd rfl ends
  | _ =>
    have again := h k l replays (by simp [hx])
    rw [hx] at again
    rw [again]
    rfl

theorem inFrame {name : String} {frame : ScopeId × Ref}
    (h : Repeated out ms (m.entering frame) (x (m.entering frame)) x') :
    Repeated out ms m (Run.inFrame name frame.1 frame.2 x m)
      (Run.inFrame name frame.1 frame.2 x') := by
  intro k l replays ends
  rw [Run.inFrame_eq] at ends ⊢
  rw [Run.inFrame_eq]
  have entered : (m.withSink k).entering frame = (m.entering frame).withSink k := rfl
  cases hx : x (m.entering frame) with
  | exhausted =>
    rw [hx] at ends
    exact absurd rfl ends
  | _ =>
    have again := h k l replays (by simp [hx])
    rw [hx] at again
    rw [entered, again]
    rfl

end Repeated

/-- Calls that are repeated by other calls. -/
def Caller.Repeats (call : Caller σ) (inside : Watcher σ) (out : Sink σ) (again : Caller σ) :
    Prop :=
  ∀ f receiver args active m,
    Repeated out (inside f receiver args active m) m (call f receiver args m)
      (again f receiver args)

namespace Routine

/-- Other calls and another sink that answers as before repeat what the routine does. -/
def Repeats (out : Sink σ) (call : Caller σ) (inside : Watcher σ) (out' : Sink σ)
    (call' : Caller σ) (x : Routine σ p α) : Prop :=
  ∀ active m, Repeated out' (x.moments out call inside active m) m (x.run out call m)
    (x.run out' call')

namespace Repeats

variable {out out' : Sink σ} {call call' : Caller σ} {inside : Watcher σ}

theorem bind {x : Routine σ p α} {f : α → Routine σ p β} (hx : x.Repeats out call inside out' call')
    (hf : ∀ a, x.Gives a → (f a).Repeats out call inside out' call') :
    (x >>= f).Repeats out call inside out' call' :=
  fun active m => (hx active m).bind fun a m' ended => hf a ⟨out, call, m, m', ended⟩ active m'

theorem pure (a : α) : (pure a : Routine σ p α).Repeats out call inside out' call' := by
  rintro active m k _ ⟨⟩ _
  rfl

theorem read {f : Machine σ → α} (blind : ∀ m k, f (m.withSink k) = f m) :
    (read f : Routine σ p α).Repeats out call inside out' call' := by
  rintro active m k _ ⟨⟩ _
  exact congrArg (Outcome.done · (m.withSink k)) (blind m k)

theorem onStore (f : Store → α × Store) :
    (onStore f : Routine σ p α).Repeats out call inside out' call' := by
  rintro active m k _ ⟨⟩ _
  rfl

theorem raise (fault : Fault) :
    (raise fault : Routine σ .call α).Repeats out call inside out' call' := by
  rintro active m k _ ⟨⟩ _
  rfl

theorem raiseAt (span : Span) (fault : Fault) :
    (raiseAt span fault : Routine σ .body α).Repeats out call inside out' call' := by
  rintro active m k _ ⟨⟩ _
  rfl

theorem checkAt (place : Fault → Span) (f : Store → Except Fault α) :
    (checkAt place f).Repeats out call inside out' call' := by
  refine (read fun _ _ => rfl).bind fun found _ => ?_
  cases found with
  | ok a => exact pure a
  | error fault => exact raiseAt _ fault

theorem inNewScope {x : Routine σ .body α} (hx : x.Repeats out call inside out' call') :
    (inNewScope x).Repeats out call inside out' call' := by
  refine (read fun _ _ => rfl).bind fun outer _ => (onStore _).bind fun inner _ => ?_
  exact fun active m => (hx active { m with scope := inner }).inScope

theorem readyBody (c : Closure) (receiver : Option Ref) (args : List Ref) :
    (readyBody c receiver args).Repeats out call inside out' call' := by
  refine (onStore _).bind fun frame _ => ?_
  cases c.receiver <|> receiver with
  | some r => exact (pure r).bind fun this _ => pure _
  | none => exact (onStore _).bind fun this _ => pure _

theorem activation {f : Ref} {c : Closure} {ready : Routine σ .call (ScopeId × Ref)}
    {body : Routine σ .body Ref} (hr : ready.Repeats out call inside out' call')
    (hb : body.Repeats out call inside out' call') :
    (activation f c ready body).Repeats out call inside out' call' := by
  intro active m
  by_cases limit : callLimit ≤ m.depth
  · rw [moments_activation_of_limit limit, Routine.run, Routine.run, Run.enter_of_limit limit]
    rintro k _ ⟨⟩ _
    exact Run.enter_of_limit (m := m.withSink k) limit ..
  · rw [moments_activation_of_room limit, Routine.run, Routine.run, Run.enter_of_room limit]
    intro k l replays ends
    rw [Run.enter_of_room (m := m.withSink k) limit]
    refine Repeated.bind (hr active m) (fun frame m' _ => ?_) k l replays ends
    exact (hb _ (m'.entering frame)).inFrame

theorem write (level : Level) (payload : List Ref) :
    (write level payload).Repeats out call inside out' call' := by
  intro active m k l replays ends
  rw [moments_write] at replays
  rw [run_write] at ends ⊢
  rw [run_write]
  rcases Run.write_cases out level payload m with
    ⟨-, run⟩ | ⟨sink, taken, run⟩ | ⟨e, sink, refused, run⟩
  · exact absurd run ends
  · rw [taken] at replays
    have answered := Sink.write_of_replay? replays
    rw [run]
    simp only [Run.write, Machine.withSink, answered]
    rfl
  · rw [refused] at replays
    have answered := Sink.write_of_replay? replays
    rw [run]
    simp only [Run.write, Machine.withSink, answered]
    rfl

end Repeats

variable {out out' : Sink σ} {call call' : Caller σ} {inside : Watcher σ}

theorem Regular.repeats (out : Sink σ) (h : call.Repeats inside out' call')
    {x : Routine σ p α} (regular : x.Regular) : x.Repeats out call inside out' call' := by
  -- Only `write` asks the sink; all else is the same whatever the sink has become.
  induction regular with
  | pure a => exact .pure a
  | bind hx hf ihx ihf => exact ihx.bind ihf
  | exhausted => exact fun _ _ _ _ _ ends => absurd rfl ends
  | scope => exact .read fun _ _ => rfl
  | receiver => exact .read fun _ _ => rfl
  | look f => exact .read fun _ _ => rfl
  | effect inert => exact .onStore _
  | declare x value isMutable => exact (Repeats.read fun _ _ => rfl).bind fun _ _ => .onStore _
  | assignName span x value =>
    refine (Repeats.read fun _ _ => rfl).bind fun scope _ => ?_
    refine (Repeats.read fun _ _ => rfl).bind fun strict _ => ?_
    exact (Repeats.checkAt _ _).bind fun owner _ => .onStore _
  | operation span op a b =>
    refine (Repeats.read fun _ _ => rfl).bind fun strict _ => ?_
    exact (Repeats.checkAt _ _).bind fun c _ => .onStore _
  | closure name params body yields receiver =>
    exact (Repeats.read fun _ _ => rfl).bind fun _ _ => .onStore _
  | raise fault => exact .raise fault
  | raiseAt span fault => exact .raiseAt span fault
  | inNewScope hx ih => exact ih.inNewScope
  | inArm bound hx ih =>
    exact ((Repeats.read fun _ _ => rfl).bind fun _ _ =>
      (Repeats.onStore _).bind fun _ _ => ih).inNewScope
  | atCall span hx ih => exact fun active m => (ih (waitingAt span active) m).atCall
  | call f receiver args => exact h f receiver args
  | enter receiver args function hb other ihb iho =>
    refine (Repeats.read fun _ _ => rfl).bind fun c _ => ?_
    by_cases code : ∃ k, c = .closure k
    · obtain ⟨k, rfl⟩ := code
      rw [function k]
      exact (Repeats.readyBody k receiver args).activation (ihb k)
    · exact iho c fun k eq => code ⟨k, eq⟩
  | script s receiver args =>
    refine (Repeats.read fun _ _ => rfl).bind fun home _ => ?_
    exact (Repeats.onStore _).bind fun f _ => h f (some receiver) args
  | write level payload => exact .write level payload

end Routine

theorem Caller.repeats_call (out out' : Sink σ) (fuel : Nat) :
    Caller.Repeats (Run.call out fuel) (Run.callMoments out fuel) out' (Run.call out' fuel) := by
  induction fuel with
  | zero => exact fun _ _ _ _ _ _ _ _ ends => absurd rfl ends
  | succ fuel ih =>
    intro f receiver args active m
    have repeated := (Routine.Regular.activate fuel f receiver args).repeats out ih active m
    rw [Routine.run_activate, Routine.run_activate] at repeated
    exact repeated

/-! ## Scripts -/

namespace Script

/-- With a sink that answers as another one did, a script has the same result and leaves the same
store. -/
theorem execute_repeated {out out' : Sink σ} {fuel : Nat} {source : String} {b : Bindings}
    {s : Store} {k k' l' : σ} {ended : Execution σ}
    (h : execute out fuel source b s k = some ended)
    (replays : out'.replay? k' (moments out fuel source b s k) = some l') :
    execute out' fuel source b s k' = some { ended with sink := l' } := by
  cases read : compile source (b.names s) with
  | error failure =>
    rw [moments, read] at replays
    obtain rfl : k' = l' := Option.some.inj replays
    rw [execute_of_error read] at h ⊢
    cases h
    rfl
  | ok script =>
    rw [moments, read] at replays
    rw [execute_of_compile read] at h ⊢
    have regular : (Routine.script script b.map (b.values s) : Routine σ .call Ref).Regular :=
      .script ..
    have repeated := regular.repeats out (Caller.repeats_call out out' fuel) []
      (.start s script.strict k) k' l' replays
    rw [Routine.run_script, Routine.run_script] at repeated
    have begun : (Machine.start s script.strict k).withSink k' = .start s script.strict k' := rfl
    rw [begun] at repeated
    generalize script.invoke out fuel b.map (b.values s) (.start s script.strict k) = o
      at h repeated
    cases o with
    | done r m =>
      cases h
      rw [repeated (by simp)]
      rfl
    | failed d m =>
      cases h
      rw [repeated (by simp)]
      rfl
    | exhausted => cases h

end Script

end LayerScript
