import LayerScript.Proofs.Frames
import LayerScript.Proofs.Survival

/-!
# Where functions come from

At each moment of a run the code of the innermost function that is being called is at work. The
functions that are new in the store are those of its lambdas and declarations, and what fails at a
place of its own is one of its nodes. A lambda keeps the receiver that is there when it is made, a
declared function has none. The receiver that is there is the one that the function keeps, and for a
function that keeps none it is a new `none`.
-/

namespace LayerScript

variable {σ α β : Type}

namespace Store

/-- The functions of scripts that are in `t` were in `s` already, and values last. -/
structure Recalls (s t : Store) : Prop where
  code : ∀ r c, t.cell r = .closure c → s.cell r = .closure c
  lasts : s.Lasts t

variable {s t u : Store}

theorem Recalls.refl (s : Store) : s.Recalls s :=
  ⟨fun _ _ => id, .refl s⟩

theorem Recalls.trans (h : s.Recalls t) (h' : t.Recalls u) : s.Recalls u :=
  ⟨fun r c same => h.code r c (h'.code r c same), h.lasts.trans h'.lasts⟩

theorem Recalls.of_cells (h : ∀ r, t.cell r = s.cell r) : s.Recalls t :=
  ⟨fun r _ same => h r ▸ same, .of_cells h⟩

theorem recalls_alloc {c : Cell} (hc : c.Codeless) : s.Recalls (s.alloc c).2 :=
  ⟨(inert_alloc hc).code s, s.lasts_alloc c⟩

theorem recalls_newScope (parent : Option ScopeId) : s.Recalls (s.newScope parent).2 :=
  .of_cells fun r => cell_newScope parent r

theorem recalls_declare (e : ScopeId) (x : String) (r : Ref) (isMutable : Bool) :
    s.Recalls (s.declare e x r isMutable) :=
  .of_cells fun r' => cell_declare e x r r' isMutable

theorem recalls_declareParams (e : ScopeId) (params : List String) (args : List Ref) :
    s.Recalls (s.declareParams e params args) := by
  induction params generalizing s args with
  | nil => exact .refl s
  | cons x params ih =>
    cases args with
    | nil =>
      have made : s.Recalls (s.alloc .none).2 := recalls_alloc (by simp [Cell.Codeless])
      exact (made.trans (recalls_declare ..)).trans (ih [])
    | cons r args => exact (recalls_declare ..).trans (ih args)

/-- A function that is new is the one that has just been made. -/
theorem eq_of_alloc_closure {f : Closure} {r : Ref} {c : Closure} (new : ¬ s.Has (.value r))
    (found : (s.alloc (.closure f)).2.cell r = .closure c) : c = f := by
  by_cases made : r = (s.alloc (.closure f)).1
  · rw [made, cell_alloc_self] at found
    exact (Cell.closure.inj found).symm
  · rw [cell_alloc_of_ne made] at found
    exact absurd (has_of_function (by rw [found]; rfl)) new

end Store

/-! ## Functions and receivers -/

/-- A function that code makes where `receiver` is the value of `this`. -/
inductive Closure.MadeBy (code : Code) (receiver : Ref) : Closure → Prop where
  | lambda {span : Span} {params : List Param} {body : List Stmt} {yields : Bool}
      (home : ScopeId) : code.has (.expr (.lambda span params body yields)) →
      Closure.MadeBy code receiver
        ⟨none, params.map (·.name), body, home, yields, some receiver⟩
  | function {span : Span} {x : String} {params : List Param} {body : List Stmt}
      (home : ScopeId) : code.has (.stmt (.fnDecl span x params body)) →
      Closure.MadeBy code receiver ⟨some x, params.map (·.name), body, home, false, none⟩

/-- The value of `this` in a function: the one it keeps, or else nothing. -/
def Closure.Binds (c : Closure) (this : Ref) : Prop :=
  match c.receiver with
  | some r => this = r
  | none => ∃ serial, this = .scalar serial .none

/-- The function whose code is at work. -/
def Moment.running? (now : Moment σ) : Option (Ref × Closure) :=
  now.active.head?.bind (·.function)

/-- At this moment code is at work: what fails at a place of its own is one of its nodes, it has
made the functions that are new, and values last. -/
structure Moment.Enacts (now : Moment σ) (code : Code) : Prop where
  fails : ∀ fault span, now.deed = .fail fault (some span) → code.Place span
  makes : ∀ store r c, now.deed = .change store → ¬ now.machine.store.Has (.value r) →
    store.cell r = .closure c → c.MadeBy code now.machine.receiver
  lasts : ∀ store, now.deed = .change store → now.machine.store.Lasts store

theorem Moment.Enacts.mono {now : Moment σ} {code code' : Code} (h : now.Enacts code)
    (le : ∀ node, code.has node → code'.has node) : now.Enacts code' where
  fails fault span failed := by
    obtain ⟨node, has, same⟩ := h.fails fault span failed
    exact ⟨node, le node has, same⟩
  makes store r c changed new found := by
    cases h.makes store r c changed new found with
    | lambda home has => exact .lambda home (le _ has)
    | function home has => exact .function home (le _ has)
  lasts := h.lasts

namespace Moment.Enacts

variable {active : List Activation} {m : Machine σ} {code : Code}

theorem look : Moment.Enacts ⟨active, m, .look⟩ code :=
  ⟨nofun, nofun, nofun⟩

theorem write {level : Level} {payload : List Ref} {answer : Except SinkError Unit} {sink : σ} :
    Moment.Enacts ⟨active, m, .write level payload answer sink⟩ code :=
  ⟨nofun, nofun, nofun⟩

theorem raise {fault : Fault} : Moment.Enacts ⟨active, m, .fail fault none⟩ code :=
  ⟨nofun, nofun, nofun⟩

theorem raiseAt {fault : Fault} {span : Span} (place : code.Place span) :
    Moment.Enacts ⟨active, m, .fail fault (some span)⟩ code := by
  refine ⟨?_, nofun, nofun⟩
  rintro _ _ ⟨⟩
  exact place

theorem recalls {store : Store} (h : m.store.Recalls store) :
    Moment.Enacts ⟨active, m, .change store⟩ code := by
  refine ⟨nofun, ?_, ?_⟩
  · rintro _ r c ⟨⟩ new found
    exact absurd (Store.has_of_function (by rw [h.code r c found]; rfl)) new
  · rintro _ ⟨⟩
    exact h.lasts

theorem closure {c : Closure} (made : c.MadeBy code m.receiver) :
    Moment.Enacts ⟨active, m, .change (m.store.alloc (.closure c)).2⟩ code := by
  refine ⟨nofun, ?_, ?_⟩
  · rintro _ r c' ⟨⟩ new found
    exact Store.eq_of_alloc_closure new found ▸ made
  · rintro _ ⟨⟩
    exact m.store.lasts_alloc (.closure c)

end Moment.Enacts

/-- What `this` can be when some more functions are being called than at the machine `m`: the same
as there, or what the innermost of them binds. -/
def Machine.Shows (m : Machine σ) (this : Ref) : (inner : List (Ref × Closure)) → Prop
  | [] => this = m.receiver
  | g :: _ => g.2.Binds this

/-- A moment of a run that began in `active` on `m`. The code at work is enacted, and `this` is as
it was at the beginning or, where some more functions are being called, as the innermost of them
binds it. -/
structure Lexical (active : List Activation) (m : Machine σ) (now : Moment σ)
    (inner : List (Ref × Closure)) : Prop where
  functions : now.active.map (·.function) = inner.map some ++ active.map (·.function)
  receiver : m.Shows now.machine.receiver inner
  enacts : ∀ g, now.running? = some g → now.Enacts (.of g.2.body)
  lasts : ∀ store, now.deed = .change store → now.machine.store.Lasts store

/-- The code belongs to the function whose code is at work. -/
def Code.Within (code : Code) (active : List Activation) : Prop :=
  ∀ g, active.head?.bind (·.function) = some g → ∀ node, code.has node → Code.Runs g.2.body node

theorem Code.Within.waitingAt {code : Code} {active : List Activation} (h : code.Within active)
    (span : Span) : code.Within (waitingAt span active) := by
  cases active with
  | nil => exact h
  | cons a outer => exact h

theorem Code.none_within (active : List Activation) : Code.none.Within active :=
  fun _ _ _ => False.elim

namespace Lexical

variable {active : List Activation} {m m' : Machine σ} {now : Moment σ}
  {inner : List (Ref × Closure)}

theorem start {deed : Deed σ} {code : Code} (within : code.Within active)
    (enacts : Moment.Enacts ⟨active, m, deed⟩ code) : Lexical active m ⟨active, m, deed⟩ [] :=
  ⟨rfl, rfl, fun g running => enacts.mono (within g running), enacts.lasts⟩

/-- A run goes on where `this` is the same. -/
theorem after (h : Lexical active m' now inner) (same : m'.receiver = m.receiver) :
    Lexical active m now inner := by
  refine ⟨h.functions, ?_, h.enacts, h.lasts⟩
  have receiver := h.receiver
  cases inner with
  | nil => exact receiver.trans same
  | cons g inner => exact receiver

/-- In the body of a function one more function is being called, and it binds `this`. -/
theorem entering {g : Ref × Closure} {frame : ScopeId × Ref} (binds : g.2.Binds frame.2)
    (h : Lexical (⟨some g, none⟩ :: active) (m.entering frame) now inner) :
    Lexical active m now (inner ++ [g]) := by
  refine ⟨by simp [h.functions], ?_, h.enacts, h.lasts⟩
  have receiver := h.receiver
  cases inner with
  | nil =>
    have same : now.machine.receiver = frame.2 := receiver
    exact same ▸ binds
  | cons g' inner => exact receiver

end Lexical

/-! ## Runs -/

/-- The moments of calls are lexical. -/
def Watcher.Lexical (inside : Watcher σ) : Prop :=
  ∀ f args active m, ∀ now ∈ inside f none args active m, ∃ inner,
    LayerScript.Lexical active m now inner

namespace Routine

def LexicalAt {p : Part} (out : Sink σ) (call : Caller σ) (inside : Watcher σ)
    (active : List Activation) (m : Machine σ) (x : Routine σ p α) : Prop :=
  ∀ now ∈ x.moments out call inside active m, ∃ inner, Lexical active m now inner

variable {p : Part} {out : Sink σ} {call : Caller σ} {inside : Watcher σ}
  {active : List Activation} {m : Machine σ} {code : Code}

namespace LexicalAt

theorem pure (a : α) : (pure a : Routine σ p α).LexicalAt out call inside active m :=
  fun _ mem => absurd mem List.not_mem_nil

theorem read (within : code.Within active) (f : Machine σ → α) :
    (read f : Routine σ p α).LexicalAt out call inside active m := by
  intro now mem
  obtain rfl := List.mem_singleton.1 mem
  exact ⟨[], .start within .look⟩

theorem onStore (within : code.Within active) {f : Store → α × Store}
    (h : m.store.Recalls (f m.store).2) :
    (onStore f : Routine σ p α).LexicalAt out call inside active m := by
  intro now mem
  obtain rfl := List.mem_singleton.1 mem
  exact ⟨[], .start within (.recalls h)⟩

/-- What is done first leaves `this` as it was. -/
theorem bind (hc : call.Keeps) {x : Routine σ p α} {f : α → Routine σ p β}
    (hx : x.LexicalAt out call inside active m)
    (hf : ∀ a m', x.run out call m = .done a m' →
      (f a).LexicalAt out call inside active m') :
    (x >>= f).LexicalAt out call inside active m := by
  intro now mem
  rcases List.mem_append.1 mem with first | next
  · exact hx now first
  · obtain ⟨a, m', ended, next⟩ := Outcome.mem_andThen.1 next
    have same : m'.receiver = m.receiver := (hc.routine out x m m' (by rw [ended]; rfl)).receiver
    obtain ⟨inner, lexical⟩ := hf a m' ended now next
    exact ⟨inner, lexical.after same⟩

theorem read_bind (within : code.Within active) {f : Machine σ → α} {g : α → Routine σ p β}
    (hg : (g (f m)).LexicalAt out call inside active m) :
    (Routine.read f >>= g).LexicalAt out call inside active m := by
  intro now mem
  rcases List.mem_cons.1 mem with rfl | next
  · exact ⟨[], .start within .look⟩
  · exact hg now next

theorem onStore_bind (within : code.Within active) {f : Store → α × Store}
    {g : α → Routine σ p β} (h : m.store.Recalls (f m.store).2)
    (hg : (g (f m.store).1).LexicalAt out call inside active { m with store := (f m.store).2 }) :
    (Routine.onStore f >>= g).LexicalAt out call inside active m := by
  intro now mem
  rcases List.mem_cons.1 mem with rfl | next
  · exact ⟨[], .start within (.recalls h)⟩
  · obtain ⟨inner, lexical⟩ := hg now next
    exact ⟨inner, lexical.after rfl⟩

theorem checkAt (within : code.Within active) {place : Fault → Span}
    (places : ∀ fault, code.Place (place fault)) (f : Store → Except Fault α) :
    (checkAt place f).LexicalAt out call inside active m := by
  intro now mem
  rw [moments_checkAt] at mem
  rcases List.mem_cons.1 mem with rfl | failing
  · exact ⟨[], .start within .look⟩
  · split at failing
    · exact nomatch failing
    · obtain rfl := List.mem_singleton.1 failing
      exact ⟨[], .start within (.raiseAt (places _))⟩

theorem checkAt_bind (within : code.Within active) {place : Fault → Span}
    (places : ∀ fault, code.Place (place fault)) {f : Store → Except Fault α}
    {g : α → Routine σ .body β}
    (hg : ∀ a, f m.store = .ok a → (g a).LexicalAt out call inside active m) :
    (Routine.checkAt place f >>= g).LexicalAt out call inside active m := by
  intro now mem
  rcases List.mem_append.1 mem with first | next
  · exact checkAt within places f now first
  · obtain ⟨a, m', ended, behind⟩ := Outcome.mem_andThen.1 next
    obtain ⟨found, same⟩ := done_of_checkAt ended
    exact hg a found now (same ▸ behind)

theorem declare (within : code.Within active) (x : String) (value : Ref) (isMutable : Bool) :
    (declare x value isMutable : Routine σ .body Unit).LexicalAt out call inside active m :=
  .read_bind within (.onStore within (Store.recalls_declare ..))

theorem assignName (within : code.Within active) {span : Span} (place : code.Place span)
    (x : String) (value : Ref) :
    (assignName span x value : Routine σ .body Unit).LexicalAt out call inside active m := by
  refine .read_bind within (.read_bind within (.checkAt_bind within (fun _ => place) ?_))
  exact fun owner _ => .onStore within (Store.recalls_declare ..)

theorem operation (within : code.Within active) {span : Span} (place : code.Place span)
    (op : BinaryOp) (a b : Ref) :
    (operation span op a b : Routine σ .body Ref).LexicalAt out call inside active m := by
  refine .read_bind within (.checkAt_bind within (fun _ => place) fun c found => ?_)
  have codeless : c.Codeless := (found ▸ m.store.codeless_binary m.strict op a b).holds
  exact .onStore within (Store.recalls_alloc codeless)

theorem closure (within : code.Within active) {name : Option String} {params : List Param}
    {body : List Stmt} {yields : Bool} {receiver : Option Ref}
    (made : ∀ home, Closure.MadeBy code m.receiver
      ⟨name, params.map (·.name), body, home, yields, receiver⟩) :
    (closure name params body yields receiver : Routine σ .body Ref).LexicalAt out call inside
      active m := by
  refine .read_bind within fun now mem => ?_
  obtain rfl := List.mem_singleton.1 mem
  exact ⟨[], .start within (.closure (made m.scope))⟩

theorem inScope {scope : ScopeId} {x : Routine σ .body α}
    (h : x.LexicalAt out call inside active { m with scope := scope }) :
    (inScope scope x).LexicalAt out call inside active m := by
  intro now mem
  obtain ⟨inner, lexical⟩ := h now mem
  exact ⟨inner, lexical.after rfl⟩

theorem inNewScope (within : code.Within active) {x : Routine σ .body α}
    (h : ∀ m, x.LexicalAt out call inside active m) (m : Machine σ) :
    (inNewScope x).LexicalAt out call inside active m :=
  .read_bind within (.onStore_bind within (Store.recalls_newScope _) (.inScope (h _)))

theorem atCall {span : Span} {x : Routine σ .call α}
    (h : x.LexicalAt out call inside (waitingAt span active) m) :
    (atCall span x).LexicalAt out call inside active m := by
  intro now mem
  obtain ⟨inner, lexical⟩ := h now mem
  refine ⟨inner, ?_, lexical.receiver, lexical.enacts, lexical.lasts⟩
  rw [lexical.functions, map_function_waitingAt]

end LexicalAt

theorem Enacts.lexicalAt (hc : call.Keeps) (h : inside.Lexical) {x : Routine σ p α}
    (enacts : x.Enacts code) (within : code.Within active) (m : Machine σ) :
    x.LexicalAt out call inside active m := by
  induction enacts generalizing active m with
  | pure a => exact .pure a
  | bind _ gives ihx ihf =>
    exact .bind hc (ihx within m) fun a m' ended => ihf a ⟨out, call, m, m', ended⟩ within m'
  | exhausted => exact fun _ mem => absurd mem List.not_mem_nil
  | scope | receiver | look => exact .read within _
  | effect inert => exact .onStore within ⟨inert.code m.store, inert.lasts m.store⟩
  | declare x value isMutable => exact .declare within x value isMutable
  | assignName place x value => exact .assignName within place x value
  | operation place op a b => exact .operation within place op a b
  | lambda has => exact .read_bind within (.closure within fun home => .lambda home has)
  | function has => exact .closure within fun home => .function home has
  | raise fault =>
    intro now mem
    obtain rfl := List.mem_singleton.1 mem
    exact ⟨[], .start within .raise⟩
  | raiseAt place fault =>
    intro now mem
    obtain rfl := List.mem_singleton.1 mem
    exact ⟨[], .start within (.raiseAt place)⟩
  | inNewScope _ ih => exact .inNewScope within (ih within) m
  | inArm bound _ ih =>
    refine .inNewScope within (fun m => .read_bind within (.onStore_bind within ?_ (ih within _))) m
    exact .of_cells fun r => Store.cell_declareAll bound r
  | atCall has _ ih => exact .atCall (ih (within.waitingAt _) m)
  | call f args => exact fun now mem => h f args active m now mem
  | write level payload =>
    intro now mem
    rw [moments_write] at mem
    simp only [Option.mem_toList, Option.map_eq_some_iff] at mem
    obtain ⟨answer, _, rfl⟩ := mem
    exact ⟨[], .start within .write⟩

/-- A function binds the receiver that is made ready for its body. -/
theorem binds_of_readyBody {c : Closure} {args : List Ref} {frame : ScopeId × Ref} {m' : Machine σ}
    (ended : (readyBody c none args).run out call m = .done frame m') : c.Binds frame.2 := by
  unfold readyBody at ended
  unfold Closure.Binds
  cases receiver : c.receiver with
  | some r =>
    simp only [receiver] at ended
    cases ended
    rfl
  | none =>
    simp only [receiver] at ended
    cases ended
    exact ⟨_, rfl⟩

theorem lexicalAt_activate (hc : call.Keeps) (h : inside.Lexical) (fuel : Nat) (f : Ref)
    (args : List Ref) (active : List Activation) (m : Machine σ) :
    (activate fuel f none args).LexicalAt out call inside active m := by
  have within := Code.none_within active
  rw [activate_eq]
  refine .read_bind within ?_
  by_cases function : ∃ c, m.store.cell f = .closure c
  · obtain ⟨c, found⟩ := function
    rw [found]
    intro now mem
    by_cases limit : callLimit ≤ m.depth
    · rw [apply, moments_activation_of_limit limit] at mem
      obtain rfl := List.mem_singleton.1 mem
      exact ⟨[], .start within .raise⟩
    · rw [apply, moments_activation_of_room limit] at mem
      have ready : (readyBody c none args).LexicalAt out call inside active m := by
        have made : m.store.Recalls ((m.store.newScope (some c.home)).2.declareParams
            (m.store.newScope (some c.home)).1 c.params args) :=
          (Store.recalls_newScope _).trans (Store.recalls_declareParams ..)
        have nothing : Cell.none.Codeless := by simp [Cell.Codeless]
        unfold readyBody
        cases c.receiver <|> none with
        | some r => exact .onStore_bind within made (.bind hc (.pure r) fun this _ _ => .pure _)
        | none =>
          refine .onStore_bind within made (.bind hc ?_ fun this _ _ => .pure _)
          exact .onStore within (Store.recalls_alloc nothing)
      rcases List.mem_append.1 mem with first | next
      · exact ready now first
      · obtain ⟨frame, m', ended, next⟩ := Outcome.mem_andThen.1 next
        have same : m'.receiver = m.receiver :=
          (hc.routine out (readyBody c none args) m m' (by rw [ended]; rfl)).receiver
        have body : (functionBody fuel c : Routine σ .body Ref).Enacts (.of c.body) :=
          .functionBody fuel c fun _ => .stmt
        have own : (Code.of c.body).Within (⟨some (f, c), none⟩ :: active) := by
          rintro _ ⟨⟩ node has
          exact has
        obtain ⟨inner, lexical⟩ := body.lexicalAt hc h own _ now next
        exact ⟨inner ++ [(f, c)], (lexical.entering (binds_of_readyBody ended)).after same⟩
  · have codeless : (m.store.cell f).Codeless := fun c same => function ⟨c, same⟩
    have enacts : (apply fuel f none args (m.store.cell f) : Routine σ .call Ref).Enacts .none :=
      .apply codeless fuel f none args
    exact enacts.lexicalAt hc h within m

end Routine

theorem Watcher.lexical_callMoments (out : Sink σ) (fuel : Nat) :
    Watcher.Lexical (Run.callMoments out fuel) := by
  induction fuel with
  | zero => exact fun _ _ _ _ _ mem => nomatch mem
  | succ fuel ih =>
    intro f args active m
    exact Routine.lexicalAt_activate (Caller.keeps_call out fuel) ih fuel f args active m

end LayerScript
