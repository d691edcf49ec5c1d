import LayerScript.Proofs.Routines.Regular
import LayerScript.Proofs.Stopping

/-!
# Strictness only adds failures

Strict code makes two checks that other code does not: that a name is declared before it is assigned
to, and that strings are only added to strings. As long as neither of them fails, a run on a strict
machine and the run on the same machine with the flag off go through the same moments and end alike.
-/

namespace LayerScript

/-- Only strict code fails like this. -/
def Fault.isStrict : Fault → Bool
  | .undeclared _ | .strictAddition .. => true
  | _ => false

variable {σ α β : Type} {p : Part}

namespace Machine

/-- The machine with the flag off. -/
def loose (m : Machine σ) : Machine σ :=
  { m with strict := false }

end Machine

namespace Moment

def loose (now : Moment σ) : Moment σ :=
  { now with machine := now.machine.loose }

/-- One of the strict checks fails. -/
def Refuses (now : Moment σ) : Prop :=
  ∃ fault, now.fault? = some fault ∧ fault.isStrict

end Moment

namespace Outcome

def loose : Outcome σ α → Outcome σ α
  | .done a m => .done a m.loose
  | .failed d m => .failed d m.loose
  | .exhausted => .exhausted

end Outcome

/-- What comes of a run, told by its moments, with the flag off: the same, unless a strict check has
failed. -/
def Relaxed (ms : List (Moment σ)) (o : Outcome σ α) (ms' : List (Moment σ)) (o' : Outcome σ α) :
    Prop :=
  (∃ now ∈ ms, now.Refuses) ∨ (ms' = ms.map Moment.loose ∧ o' = o.loose)

namespace Relaxed

variable {ms ms' : List (Moment σ)} {m : Machine σ}

theorem same {o o' : Outcome σ α} (moments : ms' = ms.map Moment.loose) (run : o' = o.loose) :
    Relaxed ms o ms' o' :=
  .inr ⟨moments, run⟩

theorem bind {x : Run σ α} {f : α → Run σ β} {rest : α → Machine σ → List (Moment σ)}
    (first : Relaxed ms (x m) ms' (x m.loose))
    (next : ∀ a m', x m = .done a m' →
      Relaxed (rest a m') (f a m') (rest a m'.loose) (f a m'.loose)) :
    Relaxed (ms ++ (x m).andThen rest) (x.bind f m) (ms' ++ (x m.loose).andThen rest)
      (x.bind f m.loose) := by
  rcases first with ⟨now, mem, refuses⟩ | ⟨rfl, run⟩
  · exact .inl ⟨now, List.mem_append_left _ mem, refuses⟩
  unfold Run.bind
  rw [run]
  cases ended : x m with
  | done a m' =>
    rcases next a m' ended with ⟨now, mem, refuses⟩ | ⟨later, ends⟩
    · exact .inl ⟨now, List.mem_append_right _ mem, refuses⟩
    · exact same (by simp [Outcome.loose, Outcome.andThen, later]) ends
  | failed d m' => exact same (by simp [Outcome.loose, Outcome.andThen]) rfl
  | exhausted => exact same (by simp [Outcome.loose, Outcome.andThen]) rfl

theorem after {o o' : Outcome σ α} (h : Relaxed ms o ms' o') (earlier : List (Moment σ))
    {earlier' : List (Moment σ)} (he : earlier' = earlier.map Moment.loose) :
    Relaxed (earlier ++ ms) o (earlier' ++ ms') o' := by
  rcases h with ⟨now, mem, refuses⟩ | ⟨rfl, run⟩
  · exact .inl ⟨now, List.mem_append_right _ mem, refuses⟩
  · exact same (by rw [he, List.map_append]) run

variable {x : Run σ α}

theorem inScope {scope : ScopeId}
    (h : Relaxed ms (x { m with scope := scope }) ms' (x { m.loose with scope := scope })) :
    Relaxed ms (Run.inScope scope x m) ms' (Run.inScope scope x m.loose) := by
  rcases h with refused | ⟨moments, run⟩
  · exact .inl refused
  · refine same moments ?_
    unfold Run.inScope
    rw [run]
    cases x { m with scope := scope } <;> rfl

theorem atCall {span : Span} (h : Relaxed ms (x m) ms' (x m.loose)) :
    Relaxed ms (Run.atCall span x m) ms' (Run.atCall span x m.loose) := by
  rcases h with refused | ⟨moments, run⟩
  · exact .inl refused
  · refine same moments ?_
    unfold Run.atCall
    rw [run]
    cases x m <;> rfl

theorem inFrame {name : String} {frame : ScopeId × Ref}
    (h : Relaxed ms (x (m.entering frame)) ms' (x (m.loose.entering frame))) :
    Relaxed ms (Run.inFrame name frame.1 frame.2 x m) ms'
      (Run.inFrame name frame.1 frame.2 x m.loose) := by
  rcases h with refused | ⟨moments, run⟩
  · exact .inl refused
  · refine same moments ?_
    rw [Run.inFrame_eq, Run.inFrame_eq, run]
    cases x (m.entering frame) <;> rfl

end Relaxed

/-! ## The two checks -/

namespace Store

theorem assignee_loose (s : Store) (e : ScopeId) (x : String) (strict : Bool) :
    s.assignee e x strict = .error (.undeclared x) ∨
      s.assignee e x strict = s.assignee e x false := by
  unfold assignee
  cases s.declaration? e x with
  | some found => exact .inr rfl
  | none => cases strict <;> simp

theorem addition_loose (s : Store) (strict : Bool) (a b : Ref) :
    (∃ left right, s.addition strict a b = .error (.strictAddition left right)) ∨
      s.addition strict a b = s.addition false a b := by
  cases strict
  case false => exact .inr rfl
  unfold addition
  split
  · exact .inr rfl
  · exact .inl ⟨_, _, rfl⟩
  · exact .inl ⟨_, _, rfl⟩
  · exact .inr rfl

theorem binary_loose (s : Store) (strict : Bool) (op : BinaryOp) (a b : Ref) :
    (∃ left right, s.binary strict op a b = .error (.strictAddition left right)) ∨
      s.binary strict op a b = s.binary false op a b := by
  unfold binary
  split
  · exact addition_loose ..
  all_goals exact .inr rfl

end Store

/-- A caller, told by the moments of its calls, that does the same with the flag off unless a strict
check fails. -/
def Caller.Relaxes (call : Caller σ) (inside : Watcher σ) : Prop :=
  ∀ f receiver args active m, Relaxed (inside f receiver args active m) (call f receiver args m)
    (inside f receiver args active m.loose) (call f receiver args m.loose)

namespace Routine

/-- With the flag off the routine does the same, unless a strict check fails. -/
def Relaxes (out : Sink σ) (call : Caller σ) (inside : Watcher σ) (x : Routine σ p α) : Prop :=
  ∀ active m, Relaxed (x.moments out call inside active m) (x.run out call m)
    (x.moments out call inside active m.loose) (x.run out call m.loose)

namespace Relaxes

variable {out : Sink σ} {call : Caller σ} {inside : Watcher σ}

theorem bind {x : Routine σ p α} {f : α → Routine σ p β} (hx : x.Relaxes out call inside)
    (hf : ∀ a, x.Gives a → (f a).Relaxes out call inside) : (x >>= f).Relaxes out call inside :=
  fun active m => (hx active m).bind fun a m' ended => hf a ⟨out, call, m, m', ended⟩ active m'

theorem pure (a : α) : (pure a : Routine σ p α).Relaxes out call inside :=
  fun _ _ => .same rfl rfl

theorem read {f : Machine σ → α} (blind : ∀ m, f m.loose = f m) :
    (read f : Routine σ p α).Relaxes out call inside :=
  fun _ m => .same rfl (congrArg (Outcome.done · m.loose) (blind m))

theorem onStore (f : Store → α × Store) : (onStore f : Routine σ p α).Relaxes out call inside :=
  fun _ _ => .same rfl rfl

theorem raise (fault : Fault) : (raise fault : Routine σ .call α).Relaxes out call inside :=
  fun _ _ => .same rfl rfl

theorem raiseAt (span : Span) (fault : Fault) :
    (raiseAt span fault : Routine σ .body α).Relaxes out call inside :=
  fun _ _ => .same rfl rfl

theorem inScope {x : Routine σ .body α} (scope : ScopeId) (hx : x.Relaxes out call inside) :
    (inScope scope x).Relaxes out call inside :=
  fun active m => (hx active { m with scope := scope }).inScope

theorem inNewScope {x : Routine σ .body α} (hx : x.Relaxes out call inside) :
    (inNewScope x).Relaxes out call inside :=
  (read fun _ => rfl).bind fun _ _ => (onStore _).bind fun inner _ => hx.inScope inner

theorem activation {f : Ref} {c : Closure} {ready : Routine σ .call (ScopeId × Ref)}
    {body : Routine σ .body Ref} (hr : ready.Relaxes out call inside)
    (hb : body.Relaxes out call inside) :
    (activation f c ready body).Relaxes out call inside := by
  intro active m
  by_cases limit : callLimit ≤ m.depth
  · have limit' : callLimit ≤ m.loose.depth := limit
    rw [moments_activation_of_limit limit, moments_activation_of_limit limit', Routine.run,
      Run.enter_of_limit limit, Run.enter_of_limit limit']
    exact .same rfl rfl
  · have room' : ¬ callLimit ≤ m.loose.depth := limit
    rw [moments_activation_of_room limit, moments_activation_of_room room', Routine.run,
      Run.enter_of_room limit, Run.enter_of_room room']
    exact (hr active m).bind fun frame m' _ => (hb _ (m'.entering frame)).inFrame

theorem readyBody (c : Closure) (receiver : Option Ref) (args : List Ref) :
    (readyBody c receiver args : Routine σ .call _).Relaxes out call inside := by
  refine (onStore _).bind fun frame _ => ?_
  cases c.receiver <|> receiver with
  | some r => exact (pure r).bind fun this _ => pure _
  | none => exact (onStore _).bind fun this _ => pure _

theorem write (level : Level) (payload : List Ref) :
    (write level payload : Routine σ .call Unit).Relaxes out call inside := by
  intro active m
  have answered : m.loose.store = m.store ∧ m.loose.sink = m.sink := ⟨rfl, rfl⟩
  rw [moments_write, moments_write, run_write]
  rcases Run.write_cases out level payload m with
    ⟨silent, run⟩ | ⟨sink, taken, run⟩ | ⟨e, sink, refused, run⟩
  · rw [run, answered.1, answered.2, silent]
    exact .same rfl (by simp only [Run.write, Machine.loose, silent, Outcome.loose])
  · rw [run, answered.1, answered.2, taken]
    exact .same rfl (by simp only [Run.write, Machine.loose, taken, Outcome.loose])
  · rw [run, answered.1, answered.2, refused]
    exact .same rfl (by simp only [Run.write, Machine.loose, refused, Outcome.loose])

theorem checkAt (place : Fault → Span) (f : Store → Except Fault α) :
    (checkAt place f : Routine σ .body α).Relaxes out call inside := by
  refine (read fun _ => rfl).bind fun found _ => ?_
  cases found with
  | ok a => exact pure a
  | error fault => exact raiseAt _ fault

/-- A check that strict code alone may fail, and what follows when it passes. -/
theorem strictly {f : Bool → Store → Except Fault α} {g : α → Routine σ .body β} (span : Span)
    (loosened : ∀ strict s, (∃ fault, f strict s = .error fault ∧ fault.isStrict) ∨
      f strict s = f false s) (hg : ∀ a, (g a).Relaxes out call inside) :
    (do
      let strict ← Routine.read (·.strict)
      let a ← Routine.checkAt (fun _ => span) (f strict)
      g a : Routine σ .body β).Relaxes out call inside := by
  intro active m
  let rest (strict : Bool) : Routine σ .body β := Routine.checkAt (fun _ => span) (f strict) >>= g
  have loose : Relaxed ((rest false).moments out call inside active m) _ _ _ :=
    (checkAt _ (f false)).bind (fun a _ => hg a) active m
  rcases loosened m.strict m.store with ⟨fault, fails, strict⟩ | passes
  · refine .inl ⟨⟨active, m, .fail fault (some span)⟩, ?_, fault, rfl, strict⟩
    refine List.mem_append_right _ (List.mem_append_left _ ?_)
    rw [moments_checkAt, fails]
    exact List.mem_cons_of_mem _ (List.mem_singleton.2 rfl)
  · have moments : (rest m.strict).moments out call inside active m =
        (rest false).moments out call inside active m := by
      rw [moments_bind, moments_bind, moments_checkAt, moments_checkAt, run_checkAt, run_checkAt,
        Run.check, Run.check, passes]
    have ends : (rest m.strict).run out call m = (rest false).run out call m := by
      show Run.bind _ _ m = Run.bind _ _ m
      unfold Run.bind
      rw [run_checkAt, run_checkAt, Run.check, Run.check, passes]
    rw [← moments, ← ends] at loose
    exact loose.after [⟨active, m, .look⟩] rfl

end Relaxes

theorem Regular.relaxes (out : Sink σ) {call : Caller σ} {inside : Watcher σ}
    (h : call.Relaxes inside) {x : Routine σ p α} (regular : x.Regular) :
    x.Relaxes out call inside := by
  -- The flag is read before an assignment and before a binary operator, and nowhere else.
  induction regular with
  | pure a => exact .pure a
  | bind hx hf ihx ihf => exact ihx.bind ihf
  | exhausted => exact fun _ _ => .same rfl rfl
  | scope => exact .read fun _ => rfl
  | receiver => exact .read fun _ => rfl
  | look f => exact .read fun _ => rfl
  | effect inert => exact .onStore _
  | declare x value isMutable => exact (Relaxes.read fun _ => rfl).bind fun _ _ => .onStore _
  | assignName span x value =>
    refine (Relaxes.read fun _ => rfl).bind fun scope _ => .strictly span (fun strict s => ?_) ?_
    · rcases s.assignee_loose scope x strict with fails | same
      · exact .inl ⟨_, fails, rfl⟩
      · exact .inr same
    · exact fun _ => .onStore _
  | operation span op a b =>
    refine .strictly span (f := fun strict s => s.binary strict op a b) (fun strict s => ?_) ?_
    · rcases s.binary_loose strict op a b with ⟨left, right, fails⟩ | same
      · exact .inl ⟨_, fails, rfl⟩
      · exact .inr same
    · exact fun _ => .onStore _
  | closure name params body yields receiver =>
    exact (Relaxes.read fun _ => rfl).bind fun _ _ => .onStore _
  | raise fault => exact .raise fault
  | raiseAt span fault => exact .raiseAt span fault
  | inNewScope hx ih => exact ih.inNewScope
  | inArm bound hx ih =>
    exact ((Relaxes.read fun _ => rfl).bind fun _ _ =>
      (Relaxes.onStore _).bind fun _ _ => ih).inNewScope
  | atCall span hx ih => exact fun active m => (ih (waitingAt span active) m).atCall
  | call f receiver args => exact h f receiver args
  | enter receiver args function hb other ihb iho =>
    refine (Relaxes.read fun _ => rfl).bind fun c _ => ?_
    by_cases code : ∃ k, c = .closure k
    · obtain ⟨k, rfl⟩ := code
      rw [function k]
      exact (Relaxes.readyBody k receiver args).activation (ihb k)
    · exact iho c fun k eq => code ⟨k, eq⟩
  | script s receiver args =>
    exact (Relaxes.read fun _ => rfl).bind fun _ _ => (Relaxes.onStore _).bind fun f _ =>
      h f (some receiver) args
  | write level payload => exact .write level payload

end Routine

theorem Caller.relaxes_call (out : Sink σ) (fuel : Nat) :
    Caller.Relaxes (Run.call out fuel) (Run.callMoments out fuel) := by
  induction fuel with
  | zero => exact fun _ _ _ _ _ => .same rfl rfl
  | succ fuel ih =>
    intro f receiver args active m
    have relaxed := (Routine.Regular.activate fuel f receiver args).relaxes out ih active m
    rw [Routine.run_activate] at relaxed
    exact relaxed

/-! ## Programs -/

/-- A strict check that fails is what makes the run fail. -/
theorem Blames.refusal {ms : List (Moment σ)} {d : Option Diagnostic} (h : Blames ms d)
    {now : Moment σ} (mem : now ∈ ms) (refuses : now.Refuses) :
    d.isSome ∧ now ∈ ms.getLast? := by
  obtain ⟨fault, fails, -⟩ := refuses
  cases d with
  | none =>
    have calm : now.fault? = none := h now mem
    simp [calm] at fails
  | some d =>
    obtain ⟨earlier, last, _, rfl, calm, -, -⟩ := h
    refine ⟨rfl, ?_⟩
    rcases List.mem_append.1 mem with mem | mem
    · simp [calm now mem] at fails
    · simp [List.mem_singleton.1 mem]

namespace Run

theorem program_relaxed (out : Sink σ) (fuel : Nat) {p : Program} (plain : p.strict = false)
    (m : Machine σ) : Relaxed (programMoments out fuel p m) (program out fuel p m)
      (programMoments out fuel p m.loose) (program out fuel p m.loose) := by
  have begin : atProgram p m.loose = (atProgram p m).loose := by
    simp [atProgram, Machine.loose, plain]
  rw [program_eq, program_eq, programMoments, programMoments, begin]
  exact (Routine.Regular.programBody fuel p).relaxes out (Caller.relaxes_call out fuel) _ _

/-- A program without the directive that ends with a value on a strict machine ends with the same
value when the flag is off; one that fails, and not by a strict check, fails alike. Either way all
moments of the two runs are the same. -/
theorem program_loosened (out : Sink σ) (fuel : Nat) {p : Program} (plain : p.strict = false)
    (m : Machine σ) :
    (∀ r m', program out fuel p m = .done r m' →
      program out fuel p m.loose = .done r m'.loose ∧
        programMoments out fuel p m.loose = (programMoments out fuel p m).map Moment.loose) ∧
    (∀ d m', program out fuel p m = .failed d m' →
      (∀ now ∈ (programMoments out fuel p m).getLast?, ¬ now.Refuses) →
      program out fuel p m.loose = .failed d m'.loose ∧
        programMoments out fuel p m.loose = (programMoments out fuel p m).map Moment.loose) := by
  have account : Accounts m.contents (programMoments out fuel p m) (program out fuel p m) := by
    rw [program_eq]
    exact (watched_call out fuel).routine out (Routine.programBody fuel p) [⟨none, none⟩]
      (atProgram p m)
  rcases program_relaxed out fuel plain m with ⟨now, mem, refuses⟩ | ⟨moments, ends⟩
  · have last := account.blames.refusal mem refuses
    constructor
    · intro r m' run
      rw [run] at last
      exact absurd last.1 (by simp [Outcome.diagnostic?])
    · intro d m' run other
      exact absurd refuses (other now last.2)
  · rw [ends, moments]
    exact ⟨fun r m' run => ⟨run ▸ rfl, rfl⟩, fun d m' run _ => ⟨run ▸ rfl, rfl⟩⟩

/-- A program that assigns to a name from a function that a native one calls, and a program that
fails at an unknown name. -/
theorem program_loosened_callback :
    let out : Sink (List String) :=
      ⟨fun s _ payload k => some (.ok (), k ++ [s.displayAll payload])⟩
    let strict : Machine (List String) := .start .empty true []
    let source := "var last = none
std.collections.map([1, 2], |x| { console.log(last); last = x })"
    let failing : Program := ⟨false, [.expr ⟨0, 7⟩ (.name ⟨0, 7⟩ "missing")]⟩
    (∃ p r m', Program.parse source = .ok p ∧ p.strict = false ∧
      program out 80 p strict = .done r m' ∧ m'.sink = ["none", "1"] ∧
      program out 80 p strict.loose = .done r m'.loose) ∧
    ∃ d m', program out 80 failing strict = .failed d m' ∧
      program out 80 failing strict.loose = .failed d m'.loose := by
  intro out strict source failing
  constructor
  · have ran : (Program.parse source).toOption.map (fun p => (p.strict,
        (program out 80 p strict).diagnostic?,
        (program out 80 p strict).after?.map (·.sink))) =
        some (false, none, some ["none", "1"]) := by
      decide +kernel
    obtain ⟨p, parsed, ends⟩ := Option.map_eq_some_iff.1 ran
    obtain ⟨plain, ends⟩ := Prod.mk.inj ends
    obtain ⟨fine, after⟩ := Prod.mk.inj ends
    have read : Program.parse source = .ok p := by
      cases h : Program.parse source with
      | ok q =>
        rw [h] at parsed
        exact congrArg Except.ok (Option.some.inj parsed)
      | error d =>
        rw [h] at parsed
        cases parsed
    cases run : program out 80 p strict with
    | done r m' =>
      rw [run] at after
      have same := (program_loosened out 80 plain strict).1 r m' run
      exact ⟨p, r, m', read, plain, run, Option.some.inj after, same.1⟩
    | failed d m' =>
      rw [run] at fine
      cases fine
    | exhausted =>
      rw [run] at after
      cases after
  · have last : (programMoments out 80 failing strict).getLast?.map (·.fault?) =
        some (some (.undefined "missing")) := by
      decide +kernel
    obtain ⟨now, ends, fails⟩ := Option.map_eq_some_iff.1 last
    have run : program out 80 failing strict =
        .failed (Fault.locatedAt (.undefined "missing") ⟨0, 7⟩) strict := rfl
    have same := (program_loosened out 80 (p := failing) rfl strict).2 _ _ run
    refine ⟨_, _, run, (same ?_).1⟩
    rw [ends]
    rintro _ ⟨⟩ ⟨fault, found, refused⟩
    rw [fails] at found
    cases found
    cases refused

end Run

end LayerScript
