import LayerScript.Proofs.Programs.Enclosing
import LayerScript.Proofs.Traces.Once
import LayerScript.Proofs.Traces.Origins
import LayerScript.Proofs.Tracing

/-!
# The receiver of a script

A script is called with the map of its bindings as `this`. Its lambdas keep what `this` is where
they are made, its declared functions keep nothing. So what `this` is in the text of a script can be
read off the text: nothing where the declaration of a function is around it, and the map elsewhere.
-/

namespace LayerScript

variable {σ : Type} {out : Sink σ} {fuel : Nat} {source : String} {b : Bindings} {s : Store} {k : σ}
  {script : Script} {now : Moment σ} {ms : List (Moment σ)}

/-- A function of a script: the script itself, or one that a function of the script has made. -/
inductive Script.Owns (ms : List (Moment σ)) (main : Ref × Closure) : Ref × Closure → Prop where
  | main : Script.Owns ms main main
  | made {now : Moment σ} {g : Ref × Closure} {store : Store} {r : Ref} {c : Closure} :
    now ∈ ms → now.running? = some g → Script.Owns ms main g → now.deed = .change store →
      ¬ now.machine.store.Has (.value r) → store.cell r = .closure c → Script.Owns ms main (r, c)

namespace Script

/-- Without fuel the function of a script is made, and not called. -/
theorem moments_script_zero (out : Sink σ) (script : Script) (receiver : Ref) (args : List Ref)
    (m : Machine σ) :
    ∀ now ∈ (Routine.script script receiver args).moments out (Run.call out 0)
      (Run.callMoments out 0) [] m, now.active = [] := by
  have made : (Routine.script script receiver args).moments out (Run.call out 0)
      (Run.callMoments out 0) [] m =
    [⟨[], m, .look⟩, ⟨[], m, .change (m.store.alloc (.closure (script.main m.globals))).2⟩] := rfl
  simp [made]

/-- Where code is at work, the body of the script is being run. -/
theorem mem_body_of_running (read : compile source (b.names s) = .ok script) {g : Ref × Closure}
    (mem : now ∈ moments out fuel source b s k) (running : now.running? = some g) :
    let m := Machine.start s script.strict k
    ∃ fuel', fuel = fuel' + 1 ∧
      now ∈ (Routine.functionBody fuel' (script.main m.globals)).moments out (Run.call out fuel')
        (Run.callMoments out fuel') [⟨some (m.store.nextCell, script.main m.globals), none⟩]
        (script.inBody b.map (b.entries s) m) := by
  have quiet (none : now.active = []) : False := by simp [Moment.running?, none] at running
  rw [moments_of_compile read] at mem
  have depth : (Machine.start s script.strict k).depth = 0 := rfl
  generalize Machine.start s script.strict k = m at mem depth ⊢
  cases fuel with
  | zero => exact (quiet (moments_script_zero out script b.map (b.values s) m now mem)).elim
  | succ fuel =>
    have params : script.params = (b.entries s).keys := params_of_compile read
    have room : m.depth < callLimit := depth ▸ (by decide : 0 < callLimit)
    obtain ⟨earlier, calm, split⟩ :=
      moments_script_succ out fuel script b.map (b.entries s) params m room
    rw [Bindings.values, split] at mem
    rcases List.mem_append.1 mem with first | mem
    · exact (quiet (calm now first)).elim
    · exact ⟨fuel, rfl, mem⟩

theorem lexical_body (out : Sink σ) (fuel : Nat) (f : Ref) (c : Closure) (m : Machine σ) :
    (Routine.functionBody fuel c : Routine σ .body Ref).LexicalAt out (Run.call out fuel)
      (Run.callMoments out fuel) [⟨some (f, c), none⟩] m := by
  have enacts : (Routine.functionBody fuel c : Routine σ .body Ref).Enacts (.of c.body) :=
    .functionBody fuel c fun _ => .stmt
  have own : (Code.of c.body).Within [⟨some (f, c), none⟩] := by
    rintro _ ⟨⟩ node has
    exact has
  exact enacts.lexicalAt (Caller.keeps_call out fuel) (Watcher.lexical_callMoments out fuel) own m

theorem enacts_of_running (read : compile source (b.names s) = .ok script) {g : Ref × Closure}
    (mem : now ∈ moments out fuel source b s k) (running : now.running? = some g) :
    now.Enacts (.of g.2.body) := by
  obtain ⟨fuel, -, here⟩ := mem_body_of_running read mem running
  obtain ⟨inner, lexical⟩ := lexical_body out fuel _ _ _ now here
  exact lexical.enacts g running

/-- While a script runs, the code at work is that of the script, which is given the map, or that of
another function, which binds what `this` is. -/
theorem running_cases (read : compile source (b.names s) = .ok script)
    (ready : s.Ready [.value b.map]) {g : Ref × Closure}
    (mem : now ∈ moments out fuel source b s k) (running : now.running? = some g) :
    let m := Machine.start s script.strict k
    g = (m.store.nextCell, script.main m.globals) ∧ now.machine.receiver = b.map ∨
      g.1 ≠ m.store.nextCell ∧ g.2.Binds now.machine.receiver := by
  intro m
  obtain ⟨fuel, -, here⟩ := mem_body_of_running read mem running
  obtain ⟨inner, lexical⟩ := lexical_body out fuel _ _ _ now here
  obtain ⟨others, counts⟩ := counts_body ready out fuel _ now here
  have functions := lexical.functions
  have receiver := lexical.receiver
  have head : (now.active.map (·.function)).head? = some (some g) := by
    unfold Moment.running? at running
    cases active : now.active with
    | nil => simp [active] at running
    | cons a outer => simpa [active] using running
  cases inner with
  | nil =>
    rw [functions] at head
    simp only [List.map_nil, List.nil_append, List.map_cons, List.head?_cons] at head
    exact .inl ⟨(Option.some.inj (Option.some.inj head)).symm, receiver⟩
  | cons h inner =>
    rw [functions] at head
    obtain rfl : h = g := by simpa using head
    refine .inr ⟨?_, receiver⟩
    have mem : h ∈ others := by
      have same := counts.functions.symm.trans functions
      have same := List.map_injective_iff.2 (fun _ _ => Option.some.inj)
        (List.append_cancel_right same)
      simp [same]
    exact counts.entered h mem rfl h rfl

/-- What `this` is: nothing where the declaration of a function is around, and the map elsewhere. -/
def ThisIs (map : Ref) (enclosed : Bool) (this : Ref) : Prop :=
  if enclosed then ∃ serial, this = .scalar serial .none else this = map

/-- The code of a function of a script is in the text of the script, and `this` is what its place
says. -/
theorem Owns.inside (read : compile source (b.names s) = .ok script) {g : Ref × Closure} :
    let m := Machine.start s script.strict k
    Owns (moments out fuel source b s k) (m.store.nextCell, script.main m.globals) g →
    ∃ enclosed, (∀ st ∈ g.2.body, (Node.stmt st).In script.body enclosed) ∧
      (s.Ready [.value b.map] → ∀ now ∈ moments out fuel source b s k, now.running? = some g →
        ThisIs b.map enclosed now.machine.receiver) := by
  intro m owns
  have whole : ∃ enclosed, (∀ st ∈ script.body, (Node.stmt st).In script.body enclosed) ∧
      (s.Ready [.value b.map] → ∀ now ∈ moments out fuel source b s k,
        now.running? = some (m.store.nextCell, script.main m.globals) →
        ThisIs b.map enclosed now.machine.receiver) := by
    refine ⟨false, fun st mem => ⟨st, mem, .here⟩, fun ready now mem running => ?_⟩
    obtain ⟨-, receiver⟩ | ⟨other, -⟩ := running_cases read ready mem running
    · exact receiver
    · exact absurd rfl other
  -- the induction is on how a function has come to be made
  induction owns with
  | main => exact whole
  | @made before g' store r c mem' running' owns' changed new found ih =>
    by_cases main : (r, c) = (m.store.nextCell, script.main m.globals)
    · obtain ⟨rfl, rfl⟩ := Prod.mk.inj main
      exact whole
    obtain ⟨enclosed, inside, this⟩ := ih
    have binds (ready : s.Ready [.value b.map]) {now : Moment σ}
        (mem : now ∈ moments out fuel source b s k) (running : now.running? = some (r, c)) :
        c.Binds now.machine.receiver :=
      ((running_cases read ready mem running).resolve_left fun same => main same.1).2
    cases (enacts_of_running read mem' running').makes store r c changed new found with
    | lambda home has =>
      refine ⟨enclosed, fun st mem => ?_, fun ready now mem running => ?_⟩
      · have child := (has.inside inside).child (List.mem_map_of_mem mem)
        simpa [Node.declares] using child
      · have same : now.machine.receiver = before.machine.receiver := binds ready mem running
        rw [same]
        exact this ready before mem' running'
    | function home has =>
      refine ⟨true, fun st mem => ?_, fun ready now mem running => binds ready mem running⟩
      have child := (has.inside inside).child (List.mem_map_of_mem mem)
      simpa [Node.declares] using child

/-- `this` is lexical: in the text of a script it gives the map of the bindings where no declaration
of a function is around it, and nothing elsewhere. -/
theorem this_lexical (out : Sink σ) (fuel : Nat) (source : String) (b : Bindings) (s : Store)
    (k : σ) {script : Script} (read : compile source (b.names s) = .ok script)
    (ready : s.Ready [.value b.map]) :
    let m := Machine.start s script.strict k
    ∀ now ∈ moments out fuel source b s k, ∀ g, now.running? = some g →
      Owns (moments out fuel source b s k) (m.store.nextCell, script.main m.globals) g →
      ∀ span, (Code.of g.2.body).has (.expr (.this span)) →
        (∃ enclosed, (Node.expr (.this span)).In script.body enclosed) ∧
        ∀ enclosed, (Node.expr (.this span)).In script.body enclosed →
          ∃ r, (∀ call fuel, Run.evaluate call (fuel + 1) (.this span) now.machine =
            .done r now.machine) ∧
            if enclosed then now.machine.store.cell r = .none else r = b.map := by
  intro m now mem g running owns span has
  obtain ⟨enclosed, inside, receiver⟩ := owns.inside read
  have this := receiver ready now mem running
  have place := Code.Runs.inside has inside
  obtain ⟨-, program, parsed, rfl⟩ := of_compile read
  obtain ⟨tokens, hi, -, -, row⟩ := Program.row_of_parse parsed
  refine ⟨⟨enclosed, place⟩, fun enclosed' place' => ?_⟩
  obtain rfl := row.unique_in rfl place place'
  refine ⟨now.machine.receiver, fun _ _ => rfl, ?_⟩
  unfold ThisIs at this
  split
  · next declared =>
    rw [if_pos declared] at this
    obtain ⟨serial, same⟩ := this
    rw [same]
    rfl
  · next free => rwa [if_neg free] at this

/-- The whole script is `this`, which is the map. -/
theorem this_lexical_whole :
    let b : Bindings := ⟨.cell 0⟩
    let s : Store := ⟨#[.map .empty], #[], 0⟩
    s.Ready [.value b.map] ∧
    ∃ script span, compile "this" (b.names s) = .ok script ∧
      (Node.expr (.this span)).In script.body false ∧
      ∃ now ∈ moments Sink.silent 10 "this" b s (),
        Run.evaluate (Run.call .silent 0) 1 (.this span) now.machine =
          .done (.cell 0) now.machine := by
  intro b s
  have ready : s.Ready [.value b.map] := Store.ready_alloc (c := .map .empty) rfl
  have scanned : scanTokens "this" = .ok [⟨.keyword .thisWord, "this", ⟨0, 4⟩⟩] := by
    decide +kernel
  have read : Program.statements "this" = .ok [.expr ⟨0, 4⟩ (.this ⟨0, 4⟩)] := by
    rw [Program.statements, scanned]
    rfl
  have compiled : compile "this" (b.names s) =
      .ok ⟨b.names s, [.expr ⟨14, 18⟩ (.this ⟨14, 18⟩)], true⟩ := by
    rw [compile_of_valid (by decide +kernel), Program.parse_prelude, read]
    rfl
  have ran : (moments Sink.silent 10 "this" b s ()).any (fun now => now.running?.any fun g =>
      g.1.same (Machine.start s true ()).store.nextCell) = true := by
    decide +kernel
  obtain ⟨now, mem, started⟩ := List.any_eq_true.1 ran
  obtain ⟨g, running, same⟩ := (Option.any_eq_true ..).1 started
  have main := (running_cases compiled ready mem running).resolve_right fun other =>
    other.1 (Ref.same_cell.1 same)
  obtain ⟨rfl, -⟩ := main
  have has : Code.Runs [.expr ⟨14, 18⟩ (.this ⟨14, 18⟩)] (.expr (.this ⟨14, 18⟩)) :=
    .child (.stmt List.mem_cons_self) rfl List.mem_cons_self
  have inside : (Node.expr (.this ⟨14, 18⟩)).In [.expr ⟨14, 18⟩ (.this ⟨14, 18⟩)] false :=
    has.inside fun st mem => ⟨st, mem, .here⟩
  obtain ⟨-, this⟩ := this_lexical .silent 10 "this" b s () compiled ready now mem _ running .main
    ⟨14, 18⟩ has
  obtain ⟨r, evaluated, rfl⟩ := this false inside
  exact ⟨ready, _, ⟨14, 18⟩, compiled, inside, now, mem, evaluated _ 0⟩

end Script

end LayerScript
