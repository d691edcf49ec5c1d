import LayerScript.Proofs.Compiling
import LayerScript.Proofs.Routines.Regular
import LayerScript.Proofs.Scopes
import LayerScript.Proofs.Survival

/-!
# Nested code and the declarations around it

Blocks and functions declare names in scopes of their own. What they do to the scopes there were
before is to assign to names that may be assigned to; code that is not strict may also add names to
an outermost scope.
-/

namespace LayerScript

/-! ## Machines -/

variable {σ α β : Type}

/-- The scopes of a machine are as those of scripts are: each is newer than the one around it. -/
structure Machine.Housed (m : Machine σ) : Prop where
  store : m.store.Housed
  scope : m.store.Has (.scope m.scope)
  globals : m.store.Has (.scope m.globals)

/-- What a part of a run does to a machine. It spares the scopes there were before it, but for its
own ones. -/
structure Machine.Tidy (own : ScopeId → Prop) (m m' : Machine σ) : Prop where
  resumes : m.Resumes m'
  has : ∀ e, m.store.Has (.scope e) → m'.store.Has (.scope e)
  housed : m.Housed → m'.store.Housed
  spared : (m.strict = true ∨ m.Housed) → ∀ e, m.store.Has (.scope e) → ¬ own e →
    (m.store.scope e).Spared m.strict (m'.store.scope e)

namespace Machine.Tidy

variable {own own' : ScopeId → Prop} {m m' m'' : Machine σ}

theorem keeps (h : m.Tidy own m') (housed : m.Housed) : m'.Housed where
  store := h.housed housed
  scope := h.resumes.scope ▸ h.has _ housed.scope
  globals := h.resumes.globals ▸ h.has _ housed.globals

theorem refl (own : ScopeId → Prop) (m : Machine σ) : m.Tidy own m where
  resumes := .refl m
  has _ h := h
  housed h := h.store
  spared _ _ _ _ := .refl ..

/-- What is done next may have scopes of its own that were not there before. -/
theorem trans (h : m.Tidy own m') (h' : m'.Tidy own' m'')
    (le : ∀ e, m.store.Has (.scope e) → own' e → own e) : m.Tidy own m'' where
  resumes := h.resumes.trans h'.resumes
  has e he := h'.has e (h.has e he)
  housed hm := h'.housed (h.keeps hm)
  spared hm e he foreign := by
    have strict : m'.strict = m.strict := h.resumes.strict
    have hm' : m'.strict = true ∨ m'.Housed := hm.imp (strict.trans ·) h.keeps
    have next := h'.spared hm' e (h.has e he) fun hown => foreign (le e he hown)
    exact (h.spared hm e he foreign).trans (strict ▸ next)

theorem mono (h : m.Tidy own m') (le : ∀ e, own e → own' e) : m.Tidy own' m' :=
  ⟨h.resumes, h.has, h.housed, fun hm e he foreign => h.spared hm e he (foreign ∘ le e)⟩

/-- A step of the store that changes no scope but its own ones. -/
theorem step {t : Store} (has : ∀ e, m.store.Has (.scope e) → t.Has (.scope e))
    (housed : m.Housed → t.Housed)
    (same : ∀ e, m.store.Has (.scope e) → ¬ own e → t.scope e = m.store.scope e) :
    m.Tidy own { m with store := t } where
  resumes := ⟨rfl, rfl, rfl, rfl, rfl⟩
  has := has
  housed := housed
  spared _ e he foreign := same e he foreign ▸ .refl ..

/-- What is done in another scope. -/
theorem inScope {scope : ScopeId} (made : m.Housed → m.store.Has (.scope scope))
    (h : Tidy own { m with scope := scope } m') : m.Tidy own { m' with scope := m.scope } where
  resumes := { h.resumes with scope := rfl }
  has := h.has
  housed hm := h.housed ⟨hm.store, made hm, hm.globals⟩
  spared hm := h.spared (hm.imp_right fun hm => ⟨hm.store, made hm, hm.globals⟩)

theorem leaving {frame : ScopeId × Ref} (made : m.Housed → m.store.Has (.scope frame.1))
    (h : (m.entering frame).Tidy own m') (callSite : Option Span) :
    m.Tidy own { m.leaving m' with callSite := callSite } where
  resumes := { h.resumes with scope := rfl, receiver := rfl, depth := rfl }
  has := h.has
  housed hm := h.housed ⟨hm.store, made hm, hm.globals⟩
  spared hm := h.spared (hm.imp_right fun hm => ⟨hm.store, made hm, hm.globals⟩)

end Machine.Tidy

/-- A run that is tidy, told by its moments. -/
structure Tidies (own : ScopeId → Prop) (m : Machine σ) (ms : List (Moment σ)) (o : Outcome σ α) :
    Prop where
  after : ∀ m' ∈ o.after?, m.Tidy own m'
  along : m.Housed → ∀ now ∈ ms, now.machine.Housed

namespace Tidies

variable {own : ScopeId → Prop} {m : Machine σ} {ms : List (Moment σ)}

theorem done {a : α} {m' : Machine σ} (h : m.Tidy own m')
    (along : m.Housed → ∀ now ∈ ms, now.machine.Housed) : Tidies own m ms (.done a m') := by
  refine ⟨?_, along⟩
  rintro _ ⟨⟩
  exact h

theorem failed {d : Diagnostic} {m' : Machine σ} (h : m.Tidy own m')
    (along : m.Housed → ∀ now ∈ ms, now.machine.Housed) :
    Tidies (α := α) own m ms (.failed d m') := by
  refine ⟨?_, along⟩
  rintro _ ⟨⟩
  exact h

theorem exhausted (along : m.Housed → ∀ now ∈ ms, now.machine.Housed) :
    Tidies (α := α) own m ms .exhausted :=
  ⟨nofun, along⟩

theorem mono {own' : ScopeId → Prop} {o : Outcome σ α} (h : Tidies own m ms o)
    (le : ∀ e, own e → own' e) : Tidies own' m ms o :=
  ⟨fun m' hm' => (h.after m' hm').mono le, h.along⟩

theorem bind {x : Run σ α} {f : α → Run σ β} {rest : α → Machine σ → List (Moment σ)}
    (first : Tidies own m ms (x m))
    (next : ∀ a m', x m = .done a m' → m.Tidy own m' →
      ∃ own' : ScopeId → Prop, (∀ e, m.store.Has (.scope e) → own' e → own e) ∧
        Tidies own' m' (rest a m') (f a m')) :
    Tidies own m (ms ++ (x m).andThen rest) (x.bind f m) := by
  unfold Run.bind
  cases ended : x m with
  | done a m' =>
    rw [ended] at first
    have tidy := first.after m' rfl
    obtain ⟨own', le, second⟩ := next a m' ended tidy
    refine ⟨fun m'' h => tidy.trans (second.after m'' h) le, fun hm now mem => ?_⟩
    rcases List.mem_append.1 mem with mem | mem
    · exact first.along hm now mem
    · exact second.along (tidy.keeps hm) now mem
  | failed d m' =>
    rw [ended] at first
    exact .failed (first.after m' rfl) (by simpa [Outcome.andThen] using first.along)
  | exhausted =>
    rw [ended] at first
    exact .exhausted (by simpa [Outcome.andThen] using first.along)

variable {x : Run σ α}

theorem inScope {scope : ScopeId} (made : m.Housed → m.store.Has (.scope scope))
    (h : Tidies own { m with scope := scope } ms (x { m with scope := scope })) :
    Tidies own m ms (Run.inScope scope x m) := by
  have along (hm : m.Housed) : ∀ now ∈ ms, now.machine.Housed :=
    h.along ⟨hm.store, made hm, hm.globals⟩
  unfold Run.inScope
  cases hx : x { m with scope := scope } with
  | done a m' =>
    rw [hx] at h
    exact .done ((h.after m' rfl).inScope made) along
  | failed d m' =>
    rw [hx] at h
    exact .failed ((h.after m' rfl).inScope made) along
  | exhausted => exact .exhausted along

theorem atCall {span : Span} (h : Tidies own m ms (x m)) :
    Tidies own m ms (Run.atCall span x m) := by
  unfold Run.atCall
  cases hx : x m with
  | done a m' =>
    rw [hx] at h
    exact .done (h.after m' rfl) h.along
  | failed d m' =>
    rw [hx] at h
    have tidy := h.after m' rfl
    exact .failed ⟨{ tidy.resumes with }, tidy.has, tidy.housed, tidy.spared⟩ h.along
  | exhausted =>
    rw [hx] at h
    exact .exhausted h.along

theorem inFrame {name : String} {frame : ScopeId × Ref}
    (made : m.Housed → m.store.Has (.scope frame.1))
    (h : Tidies own (m.entering frame) ms (x (m.entering frame))) :
    Tidies own m ms (Run.inFrame name frame.1 frame.2 x m) := by
  have along (hm : m.Housed) : ∀ now ∈ ms, now.machine.Housed :=
    h.along ⟨hm.store, made hm, hm.globals⟩
  rw [Run.inFrame_eq]
  cases hx : x (m.entering frame) with
  | done a m' =>
    rw [hx] at h
    exact .done ((h.after m' rfl).leaving made m'.callSite) along
  | failed d m' =>
    rw [hx] at h
    exact .failed ((h.after m' rfl).leaving made none) along
  | exhausted => exact .exhausted along

end Tidies


theorem Machine.Tidy.inert {f : Store.Effect α} (hf : Store.Inert f) (own : ScopeId → Prop)
    (m : Machine σ) : m.Tidy own { m with store := (f m.store).2 } :=
  .step (fun _ => hf.has.2) (fun hm => hm.store.inert hf) fun e _ _ => hf.scope e

theorem Machine.Tidy.alloc {m : Machine σ} {c : Cell}
    (home : m.Housed → ∀ k, c = .closure k → m.store.Has (.scope k.home)) (own : ScopeId → Prop) :
    m.Tidy own { m with store := (m.store.alloc c).2 } :=
  .step (fun _ => Store.has_alloc) (fun hm => hm.store.alloc (home hm))
    fun e _ _ => Store.scope_alloc c e

/-! ## Routines -/

/-- The scopes that a part of a run may declare names in: a body has the present one. -/
def Part.own : Part → Machine σ → ScopeId → Prop
  | .body, m, e => e = m.scope
  | .call, _, _ => False

/-- Calls that have no scopes of their own among those there were. -/
def Caller.Tidies (call : Caller σ) (inside : Watcher σ) : Prop :=
  ∀ f receiver args active m,
    LayerScript.Tidies (fun _ => False) m (inside f receiver args active m) (call f receiver args m)

namespace Routine

def TidyAt {p : Part} (out : Sink σ) (call : Caller σ) (inside : Watcher σ) (own : ScopeId → Prop)
    (m : Machine σ) (x : Routine σ p α) : Prop :=
  ∀ active, Tidies own m (x.moments out call inside active m) (x.run out call m)

namespace TidyAt

variable {p : Part} {out : Sink σ} {call : Caller σ} {inside : Watcher σ} {own : ScopeId → Prop}
  {m : Machine σ}

theorem stay {ms : List (Moment σ)} (h : ∀ now ∈ ms, now.machine = m) (hm : m.Housed) :
    ∀ now ∈ ms, now.machine.Housed :=
  fun now mem => h now mem ▸ hm

theorem pure (a : α) : (pure a : Routine σ p α).TidyAt out call inside own m :=
  fun _ => .done (.refl own m) fun _ _ mem => absurd mem List.not_mem_nil

theorem read (f : Machine σ → α) : (read f : Routine σ p α).TidyAt out call inside own m :=
  fun _ => .done (.refl own m) (stay (by simp [moments]))

theorem onStore {f : Store → α × Store} (h : m.Tidy own { m with store := (f m.store).2 }) :
    (onStore f : Routine σ p α).TidyAt out call inside own m :=
  fun _ => .done h (stay (by simp [moments]))

theorem checkAt (place : Fault → Span) (f : Store → Except Fault α) :
    (checkAt place f).TidyAt out call inside own m := by
  intro active
  rw [moments_checkAt, run_checkAt, Run.check]
  cases f m.store with
  | ok a => exact .done (.refl own m) (stay (by simp))
  | error fault => exact .failed (.refl own m) (stay (by simp))

theorem bind {x : Routine σ p α} {f : α → Routine σ p β} (hx : x.TidyAt out call inside own m)
    (own' : ScopeId → Prop)
    (hf : ∀ a m', x.run out call m = .done a m' → m.Tidy own m' →
      (∀ e, m.store.Has (.scope e) → own' e → own e) ∧ (f a).TidyAt out call inside own' m') :
    (x >>= f).TidyAt out call inside own m :=
  fun active => (hx active).bind fun a m' ended tidy =>
    ⟨own', (hf a m' ended tidy).1, (hf a m' ended tidy).2 active⟩

theorem read_bind {f : Machine σ → α} {g : α → Routine σ p β}
    (hg : (g (f m)).TidyAt out call inside own m) :
    (Routine.read f >>= g).TidyAt out call inside own m := by
  refine (read f).bind own fun a m' ended _ => ⟨fun _ _ => id, ?_⟩
  cases ended
  exact hg

theorem checkAt_bind {place : Fault → Span} {f : Store → Except Fault α}
    {g : α → Routine σ .body β}
    (hg : ∀ a, f m.store = .ok a → (g a).TidyAt out call inside own m) :
    (Routine.checkAt place f >>= g).TidyAt out call inside own m := by
  refine (checkAt place f).bind own fun a m' ended _ => ⟨fun _ _ => id, ?_⟩
  obtain ⟨found, rfl⟩ := done_of_checkAt ended
  exact hg a found

theorem onStore_bind {f : Store → α × Store} {g : α → Routine σ p β}
    (h : m.Tidy own { m with store := (f m.store).2 }) (own' : ScopeId → Prop)
    (le : ∀ e, m.store.Has (.scope e) → own' e → own e)
    (hg : (g (f m.store).1).TidyAt out call inside own' { m with store := (f m.store).2 }) :
    (Routine.onStore f >>= g).TidyAt out call inside own m := by
  refine (onStore h).bind own' fun a m' ended _ => ⟨le, ?_⟩
  cases ended
  exact hg

/-- What is done in a new scope has no scope of its own among those there were. -/
theorem inNewScope {x : Routine σ .body α}
    (hx : ∀ m, x.TidyAt out call inside (· = m.scope) m) (m : Machine σ) :
    (inNewScope x).TidyAt out call inside (fun _ => False) m := by
  have fresh (e : ScopeId) (he : m.store.Has (.scope e)) :
      e ≠ (m.store.newScope (some m.scope)).1 := by
    rintro rfl
    exact Store.not_has_newScope _ he
  refine .read_bind (.onStore_bind ?_ (· = (m.store.newScope (some m.scope)).1) fresh ?_)
  · refine .step (fun _ => Store.has_newScope) (fun hm => hm.store.newScope ?_) fun e he _ =>
      Store.scope_newScope_of_ne (fresh e he)
    rintro _ ⟨⟩
    exact hm.scope
  · intro active
    have inner := hx { m with
      store := (m.store.newScope (some m.scope)).2
      scope := (m.store.newScope (some m.scope)).1 } active
    exact inner.inScope fun _ => Store.has_newScope_self _

theorem inArm {x : Routine σ .body α} (hx : ∀ m, x.TidyAt out call inside (· = m.scope) m)
    (bound : List (String × Ref)) (m : Machine σ) :
    (inArm bound x).TidyAt out call inside (fun _ => False) m := by
  refine inNewScope (fun m => .read_bind ?_) m
  have declared := Store.DeclaresIn.declareAll m.scope m.store bound
  refine .onStore_bind ?_ (· = m.scope) (fun _ _ => id)
    (hx { m with store := m.store.declareAll m.scope bound })
  exact .step declared.has (fun hm => declared.housed hm.store) fun e _ foreign =>
    declared.same e foreign

theorem readyBody {c : Closure} (home : m.Housed → m.store.Has (.scope c.home))
    (receiver : Option Ref) (args : List Ref) :
    (readyBody c receiver args).TidyAt out call inside (fun _ => False) m ∧
      ∀ frame m', (Routine.readyBody c receiver args).run out call m = .done frame m' →
        ¬ m.store.Has (.scope frame.1) ∧ m'.store.Has (.scope frame.1) := by
  let frame := m.store.newScope (some c.home)
  have fresh : ¬ m.store.Has (.scope frame.1) := Store.not_has_newScope _
  have declared : Store.DeclaresIn frame.1 frame.2
      (frame.2.declareParams frame.1 c.params args) := .declareParams ..
  have made := declared.has _ (Store.has_newScope_self (s := m.store) (some c.home))
  have first : m.Tidy (fun _ => False)
      { m with store := frame.2.declareParams frame.1 c.params args } := by
    refine .step (fun e he => declared.has e (Store.has_newScope he)) (fun hm => ?_)
      fun e he _ => ?_
    · refine declared.housed (hm.store.newScope ?_)
      rintro _ ⟨⟩
      exact home hm
    · have ne : e ≠ frame.1 := by
        rintro rfl
        exact fresh he
      rw [declared.same e ne, Store.scope_newScope_of_ne ne]
  unfold Routine.readyBody
  cases c.receiver <|> receiver with
  | some r =>
    refine ⟨.onStore_bind first _ (fun _ _ => id) ((pure r).bind _ fun this m' _ _ =>
      ⟨fun _ _ => id, pure _⟩), ?_⟩
    rintro _ _ ⟨⟩
    exact ⟨fresh, made⟩
  | none =>
    have nothing : Store.Inert (·.alloc .none) := Store.inert_alloc (by simp [Cell.Codeless])
    refine ⟨.onStore_bind first _ (fun _ _ => id) ((onStore (.inert nothing _ _)).bind _
      fun this m' _ _ => ⟨fun _ _ => id, pure _⟩), ?_⟩
    rintro _ _ ⟨⟩
    exact ⟨fresh, nothing.has.2 made⟩

theorem activation {f : Ref} {c : Closure} (home : m.Housed → m.store.Has (.scope c.home))
    (receiver : Option Ref) (args : List Ref) {body : Routine σ .body Ref}
    (hb : ∀ m, body.TidyAt out call inside (· = m.scope) m) :
    (activation f c (Routine.readyBody c receiver args) body).TidyAt out call inside
      (fun _ => False) m := by
  intro active
  by_cases limit : callLimit ≤ m.depth
  · rw [moments_activation_of_limit limit, Routine.run, Run.enter_of_limit limit]
    exact .failed (.refl _ m) (stay (by simp))
  · rw [moments_activation_of_room limit, Routine.run, Run.enter_of_room limit]
    have ready : (Routine.readyBody c receiver args).TidyAt out call inside
        (fun _ => False) m ∧ _ :=
      readyBody home receiver args
    refine (ready.1 active).bind fun frame m' ended _ => ?_
    obtain ⟨fresh, made⟩ := ready.2 frame m' ended
    refine ⟨(· = frame.1), ?_, (hb (m'.entering frame) _).inFrame fun _ => made⟩
    rintro _ he rfl
    exact fresh he

theorem declare (x : String) (value : Ref) (isMutable : Bool) :
    (Routine.declare x value isMutable : Routine σ .body Unit).TidyAt out call inside
      (· = m.scope) m := by
  have declared := Store.DeclaresIn.declare m.scope m.store x value isMutable
  exact .read_bind (.onStore (.step declared.has (fun hm => declared.housed hm.store)
    fun e _ foreign => declared.same e foreign))

/-- An assignment changes a declaration that is there already, except for unknown names. -/
theorem assignName (span : Span) (x : String) (value : Ref) :
    (Routine.assignName span x value).TidyAt out call inside own m := by
  refine .read_bind (.read_bind (.checkAt_bind fun owner found => .onStore ?_))
  have declared := Store.DeclaresIn.declare owner m.store x value true
  constructor
  case resumes => exact ⟨rfl, rfl, rfl, rfl, rfl⟩
  case has => exact declared.has
  case housed => exact fun hm => declared.housed hm.store
  case spared =>
    intro hm e he _
    exact Store.spared_assign found (hm.imp_right fun hm => ⟨hm.store, hm.scope⟩) value he

theorem operation (span : Span) (op : BinaryOp) (a b : Ref) :
    (Routine.operation span op a b).TidyAt out call inside own m := by
  refine .read_bind (.checkAt_bind fun c found => .onStore ?_)
  have codeless : c.Codeless := (found ▸ Store.codeless_binary ..).holds
  exact .inert (Store.inert_alloc codeless) _ _

theorem write (level : Level) (payload : List Ref) :
    (Routine.write level payload).TidyAt out call inside own m := by
  intro active
  rw [moments_write, run_write]
  have along : m.Housed → ∀ now ∈ ((out.write m.store level payload m.sink).map fun answer =>
      (⟨active, m, .write level payload answer.1 answer.2⟩ : Moment σ)).toList,
      now.machine.Housed := by
    refine stay fun now mem => ?_
    simp only [Option.mem_toList, Option.map_eq_some_iff] at mem
    obtain ⟨_, _, rfl⟩ := mem
    rfl
  have written (sink : σ) : m.Tidy own { m with sink := sink } :=
    ⟨⟨rfl, rfl, rfl, rfl, rfl⟩, fun _ he => he, fun hm => hm.store, fun _ _ _ _ => .refl ..⟩
  rcases Run.write_cases out level payload m with
    ⟨-, run⟩ | ⟨sink, -, run⟩ | ⟨e, sink, -, run⟩
  · rw [run]
    exact .exhausted along
  · rw [run]
    exact .done (written sink) along
  · rw [run]
    exact .failed (written sink) along

end TidyAt

variable {p : Part} {out : Sink σ} {call : Caller σ} {inside : Watcher σ}

theorem Regular.tidyAt (out : Sink σ) (h : call.Tidies inside) {x : Routine σ p α}
    (regular : x.Regular) (m : Machine σ) : x.TidyAt out call inside (p.own m) m := by
  induction regular generalizing m with
  | pure a => exact .pure a
  | @bind p α β x f hx hf ihx ihf =>
    -- The scope that a body may declare in is still the current one when its first part has ended.
    refine (ihx m).bind (p.own m) fun a m' ended tidy => ⟨fun _ _ => id, ?_⟩
    have own : p.own m' = p.own m := by
      cases p with
      | body =>
        funext e
        simp only [Part.own, tidy.resumes.scope]
      | call => rfl
    exact own ▸ ihf a ⟨out, call, m, m', ended⟩ m'
  | exhausted => exact fun _ => .exhausted fun _ _ mem => absurd mem List.not_mem_nil
  | scope => exact .read _
  | receiver => exact .read _
  | look f => exact .read _
  | effect inert => exact .onStore (.inert inert _ m)
  | declare x value isMutable => exact .declare x value isMutable
  | assignName span x value => exact .assignName span x value
  | operation span op a b => exact .operation span op a b
  | closure name params body yields receiver =>
    refine .read_bind (.onStore (.alloc (fun hm => ?_) _))
    rintro _ ⟨⟩
    exact hm.scope
  | raise fault => exact fun _ => .failed (.refl _ m) (TidyAt.stay (by simp [moments]))
  | raiseAt span fault => exact fun _ => .failed (.refl _ m) (TidyAt.stay (by simp [moments]))
  | inNewScope hx ih => exact fun active => (TidyAt.inNewScope ih m active).mono fun _ => False.elim
  | inArm bound hx ih =>
    exact fun active => (TidyAt.inArm ih bound m active).mono fun _ => False.elim
  | atCall span hx ih => exact fun active => ((ih m _).mono fun _ => False.elim).atCall
  | call f receiver args => exact fun active => h f receiver args active m
  | @enter f g body receiver args function hb other ihb iho =>
    refine .read_bind ?_
    by_cases code : ∃ k, m.store.cell f = .closure k
    · obtain ⟨k, found⟩ := code
      rw [found, function k]
      exact .activation (fun hm => hm.store.home _ k found) receiver args (ihb k)
    · exact iho _ (fun k eq => code ⟨k, eq⟩) m
  | script s receiver args =>
    refine .read_bind (.onStore_bind (.alloc (fun hm => ?_) _) _ (fun _ _ => id) fun active =>
      h _ (some receiver) args active _)
    rintro _ ⟨⟩
    exact hm.globals
  | write level payload => exact .write level payload

end Routine

theorem Caller.tidies_call (out : Sink σ) (fuel : Nat) :
    Caller.Tidies (Run.call out fuel) (Run.callMoments out fuel) := by
  induction fuel with
  | zero => exact fun _ _ _ _ _ => .exhausted fun _ _ mem => absurd mem List.not_mem_nil
  | succ fuel ih =>
    intro f receiver args active m
    have tidy := (Routine.Regular.activate fuel f receiver args).tidyAt out ih m active
    rw [Routine.run_activate] at tidy
    exact tidy

/-! ## New machines -/

namespace Machine

theorem start_eq (s : Store) (strict : Bool) (k : σ) : start s strict k =
    ⟨(s.newPrelude.2.alloc .none).2, s.newPrelude.1, s.newPrelude.1, (s.newPrelude.2.alloc .none).1,
      strict, 0, none, k⟩ :=
  rfl

theorem housed_start {s : Store} (h : s.Housed) (strict : Bool) (k : σ) :
    (start s strict k).Housed := by
  obtain ⟨housed, made, -⟩ := s.newPrelude_spec
  have nothing : Store.Inert (·.alloc .none) := Store.inert_alloc (by simp [Cell.Codeless])
  rw [start_eq]
  generalize s.newPrelude = prelude at housed made
  exact ⟨(housed h).inert nothing, nothing.has.2 made, nothing.has.2 made⟩

theorem constant_start (s : Store) (strict : Bool) (k : σ) :
    (start s strict k).store.Has (.scope (start s strict k).globals) ∧
      (start s strict k).store.Constant (start s strict k).globals := by
  obtain ⟨-, made, constant⟩ := s.newPrelude_spec
  have nothing : Store.Inert (·.alloc .none) := Store.inert_alloc (by simp [Cell.Codeless])
  rw [start_eq]
  generalize s.newPrelude = prelude at made constant
  refine ⟨nothing.has.2 made, fun x b found => constant x b ?_⟩
  rwa [nothing.scope] at found

end Machine

theorem Script.strict_of_compile {source : String} {params : List String} {script : Script}
    (h : compile source params = .ok script) : script.strict = true := by
  obtain ⟨-, program, parsed, rfl⟩ := of_compile h
  obtain ⟨body, -, rfl⟩ := Program.statements_of_prelude parsed
  rfl

/-! ## Blocks, calls and scripts -/

namespace Run

variable {out : Sink σ} {fuel : Nat} {m m' : Machine σ}

theorem tidy_block {n : Nat} {body : List Stmt}
    (h : m' ∈ (block (call out fuel) n body m).after?) : m.Tidy (fun _ => False) m' := by
  have calls := Caller.tidies_call out fuel
  cases n with
  | zero => cases h
  | succ n =>
    rw [← (Routine.runsAs out (call out fuel) (n + 1)).block] at h
    have sequence : (Prod.fst <$> Routine.sequence n body .next : Routine σ .body Flow).Regular :=
      (Routine.Regular.sequence n body .next).bind fun left _ => .pure left.1
    exact (Routine.TidyAt.inNewScope (fun m => sequence.tidyAt out calls m) m []).after m' h

theorem tidy_call {f : Ref} {receiver : Option Ref} {args : List Ref}
    (h : m' ∈ (call out fuel f receiver args m).after?) : m.Tidy (fun _ => False) m' :=
  (Caller.tidies_call out fuel f receiver args [] m).after m' h

/-- A script finds the prelude as it was, and leaves it so. -/
theorem prelude_after_script {script : Script} {b : Bindings} {s : Store} {k : σ}
    (strict : script.strict = true)
    (h : m' ∈ (script.invoke out fuel b.map (b.values s) (.start s script.strict k)).after?) :
    m'.store.scope (Machine.start s script.strict k).globals =
      (Machine.start s script.strict k).store.scope (Machine.start s script.strict k).globals := by
  rw [← Routine.run_script] at h
  have regular : (Routine.script script b.map (b.values s) : Routine σ .call Ref).Regular :=
    .script ..
  have tidy := (regular.tidyAt out (Caller.tidies_call out fuel) _ []).after m' h
  obtain ⟨made, constant⟩ := Machine.constant_start s script.strict k
  have spared := tidy.spared (.inl strict) _ made id
  exact spared.fixed (fun loose => absurd (strict.symm.trans loose) (by simp)) constant

/-- The scopes are right at each moment of a program, and when it ends. -/
theorem housed_program (out : Sink σ) (fuel : Nat) (p : Program) (hm : m.Housed) :
    (∀ now ∈ programMoments out fuel p m, now.machine.Housed) ∧
      ∀ m' ∈ (program out fuel p m).after?, m'.Housed := by
  have begun : (atProgram p m).Housed := ⟨hm.store, hm.scope, hm.globals⟩
  have tidy := (Routine.Regular.programBody fuel p).tidyAt out (Caller.tidies_call out fuel)
    (atProgram p m) [⟨none, none⟩]
  refine ⟨tidy.along begun, fun m' h => (tidy.after m' ?_).keeps begun⟩
  rwa [← program_eq]

/-- Blocks and calls spare all scopes there were before, however they end. So no script changes the
prelude that it runs in. -/
theorem scopes_spared (out : Sink σ) (fuel : Nat) :
    (∀ m : Machine σ, m.strict = true ∨ m.Housed → ∀ e, m.store.Has (.scope e) →
      (∀ n body, ∀ m' ∈ (block (call out fuel) n body m).after?,
        (m.store.scope e).Spared m.strict (m'.store.scope e)) ∧
      ∀ f receiver args, ∀ m' ∈ (call out fuel f receiver args m).after?,
        (m.store.scope e).Spared m.strict (m'.store.scope e)) ∧
    ∀ source b s k script, Script.compile source (b.names s) = .ok script →
      ∀ ended, Script.execute out fuel source b s k = some ended →
        ended.store.scope (Machine.start s script.strict k).globals =
          (Machine.start s script.strict k).store.scope
            (Machine.start s script.strict k).globals := by
  refine ⟨fun m hm e he => ⟨fun n body m' ends => ?_, fun f receiver args m' ends => ?_⟩, ?_⟩
  · exact (tidy_block ends).spared hm e he id
  · exact (tidy_call ends).spared hm e he id
  · intro source b s k script read ended run
    have strict : script.strict = true := Script.strict_of_compile read
    rw [Script.execute_of_compile read] at run
    have after : ∀ m' ∈ (script.invoke out fuel b.map (b.values s)
        (.start s script.strict k)).after?, m'.store.scope _ = _ :=
      fun _ => prelude_after_script strict
    generalize script.invoke out fuel b.map (b.values s) (.start s script.strict k) = o at run after
    cases o with
    | done r m' =>
      cases run
      exact after m' rfl
    | failed d m' =>
      cases run
      exact after m' rfl
    | exhausted => cases run

/-- A block on a machine that is not strict assigns to an unknown name, and a script assigns to a
name of its own. -/
theorem scopes_spared_undeclared :
    let out : Sink Unit := ⟨fun _ _ _ k => some (.ok (), k)⟩
    let m : Machine Unit := .start .empty false ()
    let assignment : Expr := .assign ⟨0, 8⟩ (.name ⟨0, 1⟩ "x") (.literal ⟨4, 8⟩ .none)
    let body : List Stmt := [.expr ⟨0, 8⟩ assignment]
    let source := "var x = 1; { x = 2 } return x"
    (∃ m' ∈ (block (call out 9) 9 body m).after?,
      (m.store.scope m.globals).Spared false (m'.store.scope m.globals) ∧
      (m.store.scope m.globals).names.keys = ["len", "type_of", "fail", "console", "std"] ∧
      (m'.store.scope m.globals).names.keys =
        ["len", "type_of", "fail", "console", "std", "x"]) ∧
    ∃ script ended, Script.compile source [] = .ok script ∧
      Script.execute out 40 source ⟨.cell 0⟩ .empty () = some ended ∧
      ended.result.isOk ∧
      ended.store.scope (Machine.start .empty script.strict ()).globals =
        (Machine.start .empty script.strict ()).store.scope
          (Machine.start .empty script.strict ()).globals := by
  intro out m assignment body source
  refine ⟨?_, ?_⟩
  · have housed : m.Housed := Machine.housed_start Store.housed_empty false ()
    have names : (m.store.scope m.globals).names.keys =
        ["len", "type_of", "fail", "console", "std"] := by
      decide +kernel
    have grown : (block (call out 9) 9 body m).after?.map
        (fun m' => (m'.store.scope m.globals).names.keys) =
        some ["len", "type_of", "fail", "console", "std", "x"] := by
      decide +kernel
    obtain ⟨m', ends, names'⟩ := Option.map_eq_some_iff.1 grown
    have spared := (scopes_spared out 9).1 m (.inr housed) m.globals housed.globals
    exact ⟨m', ends, spared.1 9 body m' ends, names, names'⟩
  · have ran : (Script.execute out 40 source ⟨.cell 0⟩ .empty ()).map (·.result.isOk) =
        some true := by
      decide +kernel
    obtain ⟨ended, run, fine⟩ := Option.map_eq_some_iff.1 ran
    cases read : Script.compile source [] with
    | error failure =>
      rw [Script.execute_of_error (b := ⟨.cell 0⟩) (s := .empty) read] at run
      cases run
      cases fine
    | ok script =>
      have same := (scopes_spared out 40).2 source ⟨.cell 0⟩ .empty () script read ended run
      exact ⟨script, ended, rfl, run, fine, same⟩

end Run

end LayerScript
