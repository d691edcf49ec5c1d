import LayerScript.Proofs.Lockstep.Calls
import LayerScript.Proofs.Lockstep.Entering
import LayerScript.Proofs.Lockstep.Preludes
import LayerScript.Proofs.Programs.Reading
import LayerScript.Proofs.Recording
import LayerScript.Proofs.Tokens.Offsets
import Mathlib.Data.List.Forall2

/-!
# A script depends on the names it mentions

A script that never mentions `this` runs alike with any two bindings that agree on the names among
its tokens. What else the bindings have neither changes its result and its output nor is changed.
The two runs are compared in two steps: up to the call of the script, where the stores differ in the
map alone, and behind the call, where they also differ in the frame.
-/

namespace LayerScript

/-- A cell with other names for the parameters if it is a function. -/
def Cell.withParams (c : Cell) (params : List String) : Cell :=
  match c with
  | .closure f => .closure { f with params := params }
  | c => c

/-! ## What a compiled script mentions -/

namespace Script

variable {source : String} {params : List String}

theorem compile_of_valid (valid : ∀ x ∈ params, isIdentifier x) :
    compile source params =
      ((Program.parse (strictPrelude ++ source)).mapError fun d =>
        .ofCompile source (d.shiftBack strictPrelude.utf8ByteSize)).map fun program =>
          ⟨params, program.body, program.strict⟩ := by
  have found : params.find? (!isIdentifier ·) = none := by
    simpa using valid
  simp only [compile, found]
  cases Program.parse (strictPrelude ++ source) <;> rfl

/-- The names among the tokens of a source. -/
def Mentions (source : String) (x : String) : Prop :=
  ∃ tokens, scanTokens source = .ok tokens ∧ ∃ w ∈ tokens, w.kind = .identifier ∧ w.text = x

theorem plain_of_parse {program : Program}
    (h : Program.parse (strictPrelude ++ source) = .ok program)
    (this : ∀ tokens, scanTokens source = .ok tokens → ∀ w ∈ tokens, w.kind ≠ .keyword .thisWord) :
    ∀ st ∈ program.body, st.Plain (Mentions source) := by
  cases ht : scanTokens (strictPrelude ++ source) with
  | error d =>
    unfold Program.parse at h
    simp [ht, bind, Except.bind] at h
  | ok tokens =>
    obtain ⟨base, hb, rfl⟩ := scanTokens_prelude ht
    have plain := Program.plain_of_parse ht h (by
      simp only [List.forall_mem_cons, List.forall_mem_map, Token.shift]
      exact ⟨by simp, by simp, this base hb⟩)
    have names : Mentions source = fun x => ∃ t ∈ (⟨.string, strictDirective, ⟨0, 12⟩⟩ ::
        ⟨.semicolon, ";", ⟨12, 13⟩⟩ :: base.map (·.shift 14) : List Token),
        t.kind = .identifier ∧ t.text = x := by
      funext x
      simp [Mentions, hb, Token.shift]
    rwa [names]

end Script

/-! ## Bindings that agree -/

namespace Bindings

/-- What can be reached from the values bound in a store, and what the store does not have yet. -/
def Lends (b : Bindings) (s : Store) (p : Place) : Prop :=
  (∃ r ∈ b.values s, s.Reaches (.value r) p) ∨ ¬ s.Has p

/-- Two stores that differ in the map of the bindings only, where the bindings agree on the names
that a source mentions. The map cannot be reached from the values it binds, and the source does not
mention `this`. -/
structure Agree (b : Bindings) (source : String) (s t : Store) : Prop where
  intact : s.Intact
  had : s.Has (.value b.map)
  same : s.SameBut (· = .value b.map) t
  apart : ∀ r ∈ b.values s, ¬ s.Reaches (.value r) (.value b.map)
  valid : ∀ x ∈ b.names s, isIdentifier x
  valid' : ∀ x ∈ b.names t, isIdentifier x
  this : ∀ tokens, scanTokens source = .ok tokens → ∀ w ∈ tokens, w.kind ≠ .keyword .thisWord
  bound : ∀ x, Script.Mentions source x → b.find? t x = b.find? s x

def script (b : Bindings) (s : Store) (p : Program) : Script :=
  ⟨b.names s, p.body, p.strict⟩

variable {b : Bindings} {source : String} {s t : Store}

theorem Lends.held {p q : Place} (h : b.Lends s p) (hq : q ∈ s.held p) : b.Lends s q := by
  rcases h with ⟨r, hr, path⟩ | new
  · exact .inl ⟨r, hr, path.tail hq⟩
  · rw [Store.held_eq_nil new] at hq
    exact absurd hq List.not_mem_nil

theorem Agree.not_lends (h : b.Agree source s t) : ¬ b.Lends s (.value b.map) := by
  rintro (⟨r, hr, path⟩ | new)
  · exact h.apart r hr path
  · exact new h.had

theorem agree_insert (intact : s.Intact) (had : s.Has (.value b.map)) {entries : Dict Ref}
    (map : s.cell b.map = .map entries)
    (apart : ∀ r ∈ b.values s, ¬ s.Reaches (.value r) (.value b.map))
    (valid : ∀ x ∈ b.names s, isIdentifier x) {x : String} (hx : isIdentifier x) (value : Ref)
    (this : ∀ tokens, scanTokens source = .ok tokens → ∀ w ∈ tokens, w.kind ≠ .keyword .thisWord)
    (unmentioned : ¬ Script.Mentions source x) : b.Agree source s (b.insert s x value) := by
  have before : b.entries s = entries := by
    simp only [Bindings.entries, map]
  have after : b.entries (b.insert s x value) = entries.insert x value := by
    have cell : (b.insert s x value).cell b.map = .map (entries.insert x value) := by
      rw [insert, Store.modifyMap, Store.cell_modify_self (by rintro (_ | _) <;> rfl), map]
    simp only [Bindings.entries, cell]
  constructor
  case intact => exact intact
  case had => exact had
  case apart => exact apart
  case valid => exact valid
  case this => exact this
  case same =>
    constructor
    · unfold insert Store.modifyMap Store.modify
      split <;> simp [Store.sizes]
    · intro p hp
      cases p with
      | value r => exact Store.cell_modify_of_ne (fun eq => hp (congrArg _ eq)) _
      | scope e => exact Store.scope_modify ..
  case valid' =>
    rw [names, after, Dict.keys_insert]
    rw [names, before] at valid
    intro y hy
    split at hy
    · exact valid y hy
    · rcases List.mem_append.1 hy with hy | hy
      · exact valid y hy
      · rwa [List.mem_singleton.1 hy]
  case bound =>
    intro y hy
    have ne : x ≠ y := by
      rintro rfl
      exact unmentioned hy
    rw [find?, find?, after, before, Dict.find?_insert, if_neg ne]

theorem value_mem_held {r : Ref} (h : r ∈ b.values s) : .value r ∈ s.held (.value b.map) := by
  unfold values entries at h
  simp only [Store.held]
  cases hc : s.cell b.map with
  | map entries =>
    rw [hc] at h
    exact List.mem_map_of_mem h
  | _ =>
    rw [hc] at h
    exact absurd h List.not_mem_nil

end Bindings

namespace Sharing

variable {b : Bindings} {source : String} {s t : Store}

/-- What two runs share before the call of the script. -/
def lent (b : Bindings) (s t : Store) : Sharing :=
  ⟨b.Lends s, none, fun _ => True, s, t⟩

theorem alike_lent (h : b.Agree source s t) : (lent b s t).Alike s t := by
  have sizes := h.same.sizes
  simp only [Store.sizes, Prod.mk.injEq] at sizes
  apply alike_start sizes
  · intro p hp
    apply h.same.same
    rintro rfl
    exact h.not_lends hp
  · exact fun p hp q hq => hp.held hq
  · exact fun p new => .inr new

/-- Two writes in stores that differ in some places only. -/
structure SameWrite (P : Place → Prop) (w w' : ConsoleWrite) : Prop where
  stores : w.store.SameBut P w'.store
  level : w'.level = w.level
  payload : w'.payload = w.payload

def SameWrites {σ : Type} (P : Place → Prop) (k l : σ × List ConsoleWrite) : Prop :=
  l.1 = k.1 ∧ List.Forall₂ (SameWrite P) k.2 l.2

theorem answers_discreet {σ : Type} {W : Sharing} {P : Place → Prop} {out : Sink σ}
    (discreet : out.Discreet) (apart : ∀ u v, W.Alike u v → u.SameBut P v) :
    W.Answers (SameWrites P) out.recording out.recording := by
  rintro u v alike level payload live ⟨k, writes⟩ ⟨l, writes'⟩ ⟨eq, same⟩
  obtain rfl : l = k := eq
  have answer := discreet u v level payload l fun r hr => alike.sameWithin (live r hr)
  simp only [Sink.recording, answer]
  cases out.write u level payload l with
  | none => exact .none
  | some answer =>
    apply Answered.some
    constructor
    · rfl
    · exact List.rel_append same (.cons ⟨apart u v alike, rfl, rfl⟩ .nil)

/-! ## Behind the call -/

section

variable {σ : Type} {m n : Machine (σ × List ConsoleWrite)} {p : Program}

def Unwritten (k l : σ × List ConsoleWrite) : Prop :=
  l = k ∧ k.2 = []

/-- Two machines on which a script is about to be called. -/
structure Poised (b : Bindings) (s t : Store) (m n : Machine (σ × List ConsoleWrite)) : Prop where
  related : (lent b s t).Related Unwritten .guest 0 m n
  grows : s.Extends m.store
  globals : m.globals = m.scope
  ready : m.store.Ready [.value m.receiver, .scope m.globals]

theorem poised_start (h : b.Agree source s t) (strict : Bool) (k : σ) :
    Poised b s t (.start s strict (k, [])) (.start t strict (k, [])) := by
  have unwritten : Unwritten (k, []) (k, []) := ⟨rfl, rfl⟩
  have start := related_start rfl (alike_lent h) strict unwritten
  constructor
  case related => exact start.1
  case grows => exact start.2
  case globals => rfl
  case ready => exact Machine.ready_start h.intact strict (k, [])

/-- What two runs of a program share behind the call. -/
def running (b : Bindings) (source : String) (s t : Store) (p : Program) (m n : Machine σ) :
    Sharing :=
  (lent b s t).behind (Script.Mentions source) m.store n.store ((b.script s p).main m.globals)
    ((b.script t p).main n.globals) (b.entries s) (b.entries t)

theorem alike_running (h : b.Agree source s t) (poised : Poised b s t m n) :
    (running b source s t p m n).Alike
      (m.store.entered ((b.script s p).main m.globals) (b.entries s))
      (n.store.entered ((b.script t p).main n.globals) (b.entries t)) := by
  obtain ⟨related, grows, globals, ready⟩ := poised
  have home : (lent b s t).live (.scope m.globals) := globals ▸ related.home.1
  have made : m.store.Has (.scope m.globals) := ready.made _ (by simp)
  apply related.stores.enter rfl ready.intact home made
  · exact related.globals
  · intro r hr
    have bound : .value r ∈ s.held (.value b.map) := Bindings.value_mem_held hr
    exact ⟨.inl ⟨r, hr, .refl⟩, grows.has _ (h.intact _ _ bound)⟩
  · exact h.bound

/-- The places in which two runs may differ: the map of the bindings, the function that the script
is, and its frame. -/
def Own (b : Bindings) (f : Ref) (frame : ScopeId) (p : Place) : Prop :=
  p = .value b.map ∨ p = .value f ∨ p = .scope frame

theorem sameBut_running (h : b.Agree source s t) (poised : Poised b s t m n) {u v : Store}
    (alike : (running b source s t p m n).Alike u v) :
    u.SameBut (Own b m.store.nextCell m.store.nextScope) v := by
  refine alike.sameBut_behind poised.related.stores.sizes fun p apart other => ?_
  have left : Store.SameAt p s m.store := poised.related.stores.left p apart
  have right : Store.SameAt p t n.store := poised.related.stores.right p apart
  exact left.symm.trans ((h.same.same p other).trans right)

theorem bodyResult_congr {f g : Closure} (yields : g.yields = f.yields) :
    (Run.bodyResult g : Flow × Span → Run σ Ref) = Run.bodyResult f := by
  unfold Run.bodyResult
  rw [yields]

theorem matched_running (h : b.Agree source s t) {out : Sink σ} (discreet : out.Discreet)
    (plain : ∀ st ∈ p.body, st.Plain (Script.Mentions source)) (poised : Poised b s t m n)
    (fuel : Nat) : (running b source s t p m n).Matched
      (SameWrites (Own b m.store.nextCell m.store.nextScope)) .guest 0
      (fun r => (running b source s t p m n).live (.value r))
      (m.store.entered ((b.script s p).main m.globals) (b.entries s))
      ((b.script s p).invoke out.recording (fuel + 1) b.map (b.values s) m)
      ((b.script t p).invoke out.recording (fuel + 1) b.map (b.values t) n) := by
  obtain ⟨sinks, unwritten⟩ := poised.related.sinks
  have written : SameWrites (Own b m.store.nextCell m.store.nextScope) m.sink n.sink :=
    ⟨congrArg _ sinks, by simp [sinks, unwritten]⟩
  have inner := poised.related.enter poised.globals poised.ready
    (alike_running (p := p) h poised) written
  have answers : (running b source s t p m n).Answers
      (SameWrites (Own b m.store.nextCell m.store.nextScope)) out.recording out.recording :=
    answers_discreet discreet fun u v => sameBut_running h poised
  have frame : (running b source s t p m n).Live
      (m.store.entered ((b.script s p).main m.globals) (b.entries s))
      (.scope m.store.nextScope) := by
    constructor
    · exact ⟨nofun, poised.related.stores.fresh _ Store.not_has_nextScope⟩
    · exact fun _ => Store.has_entered.2 (.inr (.inr rfl))
  have evaluates := (answers.calls fuel 1).evaluates (o := .text) fuel
  have body := (evaluates.sequence p.body .next (fun _ => plain) trivial).bind fun _ live =>
    Lockstep.bodyResult ((b.script s p).main m.globals) live
  have called := inner.inFrame (p := .text) scriptFrame (r := b.map) frame (fun _ => rfl) nofun body
  have left := Script.invoke_succ out.recording fuel (b.script s p) b.map (b.entries s) rfl m
    (by simp [poised.related.depths.1, callLimit])
  have right := Script.invoke_succ out.recording fuel (b.script t p) b.map (b.entries t) rfl n
    (by simp [poised.related.depths.2, callLimit])
  have scope : n.store.nextScope = m.store.nextScope :=
    Store.nextScope_of_sizes poised.related.stores.sizes
  have result : (Run.bodyResult ((b.script t p).main n.globals) :
      Flow × Span → Run (σ × List ConsoleWrite) Ref) =
        Run.bodyResult ((b.script s p).main m.globals) := bodyResult_congr rfl
  rw [Bindings.values, Bindings.values, left, right, scope, result]
  exact called

end

end Sharing

namespace Script

variable {σ : Type}

open Sharing (Own SameWrites)

/-- Two runs that end alike: their results and their writes are the same, and so is all that they
leave, except for the map of the bindings, which is as it was, the frame of the script, and the
parameters of the function that the script is. -/
structure EndsAlike (b : Bindings) (s t : Store) (e e' : Execution (σ × List ConsoleWrite)) :
    Prop where
  result : e'.result = e.result
  rest : ∃ f frame, ¬ s.Has (.value f) ∧ ¬ s.Has (.scope frame) ∧
    e.store.SameBut (Own b f frame) e'.store ∧ SameWrites (Own b f frame) e.sink e'.sink ∧
    ∃ params, e'.store.cell f = (e.store.cell f).withParams params
  kept : e.store.cell b.map = s.cell b.map
  kept' : e'.store.cell b.map = t.cell b.map

variable {b : Bindings} {source : String} {s t : Store} {m n u v : Machine (σ × List ConsoleWrite)}
  {p : Program}

theorem endsAlike_of_related (h : b.Agree source s t) (poised : Sharing.Poised b s t m n)
    (ended : (Sharing.running b source s t p m n).Related
      (SameWrites (Own b m.store.nextCell m.store.nextScope)) .guest 0 u v)
    (result : Except ScriptFailure Ref) :
    EndsAlike b s t ⟨result, u.store, u.sink⟩ ⟨result, v.store, v.sink⟩ := by
  have cells : n.store.nextCell = m.store.nextCell :=
    Store.nextCell_of_sizes poised.related.stores.sizes
  have lends : ¬ b.Lends s (.value b.map) := h.not_lends
  have unlent : ¬ (Sharing.running b source s t p m n).live (.value b.map) :=
    fun live => lends live.2
  have other : b.map ≠ m.store.nextCell := by
    intro eq
    exact Store.not_has_nextCell (eq ▸ poised.grows.has _ h.had)
  have uncalled : ¬ (Sharing.running b source s t p m n).live (.value m.store.nextCell) :=
    fun live => live.1 rfl
  constructor
  case result => rfl
  case rest =>
    refine ⟨m.store.nextCell, m.store.nextScope, ?_, ?_, ?_, ended.sinks, b.names t, ?_⟩
    · exact fun had => Store.not_has_nextCell (poised.grows.has _ had)
    · exact fun had => Store.not_has_nextScope (poised.grows.has _ had)
    · exact Sharing.sameBut_running h poised ended.stores
    · have left : u.store.cell m.store.nextCell =
          .closure ((b.script s p).main m.globals) := by
        rw [← Store.cell_entered_self (s := m.store)]
        exact ended.stores.left _ uncalled
      have right : v.store.cell m.store.nextCell =
          .closure ((b.script t p).main n.globals) := by
        rw [← Store.cell_entered_self (s := n.store), cells]
        exact ended.stores.right _ uncalled
      rw [left, right, poised.related.globals]
      rfl
  case kept =>
    have started : u.store.cell b.map =
        (m.store.entered ((b.script s p).main m.globals) (b.entries s)).cell b.map :=
      ended.stores.left _ unlent
    rw [started, Store.cell_entered_of_ne other]
    exact poised.related.stores.left _ lends
  case kept' =>
    have started : v.store.cell b.map =
        (n.store.entered ((b.script t p).main n.globals) (b.entries t)).cell b.map :=
      ended.stores.right _ unlent
    rw [started, Store.cell_entered_of_ne (cells ▸ other)]
    exact poised.related.stores.right _ lends

theorem endsAlike_of_matched (h : b.Agree source s t) (poised : Sharing.Poised b s t m n)
    {A : Ref → Prop} {u : Store} {x y : Outcome (σ × List ConsoleWrite) Ref}
    (matched : (Sharing.running b source s t p m n).Matched
      (SameWrites (Own b m.store.nextCell m.store.nextScope)) .guest 0 A u x y) :
    Option.Rel (EndsAlike b s t) (Execution.ofOutcome source x) (Execution.ofOutcome source y) := by
  cases matched with
  | done good ended grows => exact .some (endsAlike_of_related h poised ended _)
  | failed ended grows => exact .some (endsAlike_of_related h poised ended _)
  | exhausted => exact .none

theorem endsAlike_of_error (h : b.Agree source s t) (result : Except ScriptFailure Ref) (k : σ) :
    EndsAlike b s t ⟨result, s, (k, [])⟩ ⟨result, t, (k, [])⟩ := by
  constructor
  case result => rfl
  case rest =>
    refine ⟨s.nextCell, s.nextScope, Store.not_has_nextCell, Store.not_has_nextScope, ?_, ?_, [],
      ?_⟩
    · exact ⟨h.same.sizes, fun p hp => h.same.same p fun eq => hp (.inl eq)⟩
    · exact ⟨rfl, .nil⟩
    · have same : t.cell s.nextCell = s.cell s.nextCell := by
        apply h.same.same (.value s.nextCell)
        intro eq
        exact Store.not_has_nextCell (eq ▸ h.had)
      rw [same]
      simp [Store.cell, Store.nextCell, Cell.withParams]
  case kept => rfl
  case kept' => rfl

/-- A script that does not mention `this` runs alike with bindings that agree on the names that it
mentions. -/
theorem execute_isolated {out : Sink σ} (discreet : out.Discreet) (h : b.Agree source s t)
    (fuel : Nat) (k : σ) : Option.Rel (EndsAlike b s t)
      (execute out.recording fuel source b s (k, []))
      (execute out.recording fuel source b t (k, [])) := by
  cases hp : Program.parse (strictPrelude ++ source) with
  | error d =>
    have unread (params : List String) (valid : ∀ x ∈ params, isIdentifier x) :
        compile source params =
          .error (.ofCompile source (d.shiftBack strictPrelude.utf8ByteSize)) := by
      rw [compile_of_valid valid, hp]
      rfl
    rw [execute_of_error (unread _ h.valid), execute_of_error (unread _ h.valid')]
    exact .some (endsAlike_of_error h _ k)
  | ok p =>
    have read : compile source (b.names s) = .ok (b.script s p) := by
      rw [compile_of_valid h.valid, hp]
      rfl
    have read' : compile source (b.names t) = .ok (b.script t p) := by
      rw [compile_of_valid h.valid', hp]
      rfl
    rw [execute_of_compile read, execute_of_compile read']
    cases fuel with
    | zero =>
      rw [invoke_zero, invoke_zero]
      exact .none
    | succ fuel =>
      have poised := Sharing.poised_start h p.strict k
      have plain := plain_of_parse hp h.this
      exact endsAlike_of_matched h poised (Sharing.matched_running h discreet plain poised fuel)

/-- Binding one more name shows neither in the output nor in the result of a script that does not
mention it. -/
theorem execute_isolated_log :
    let out : Sink (List String) :=
      ⟨fun s _ payload k => some (.ok (), k ++ [s.displayAll payload])⟩
    let s : Store := ⟨#[.array #[], .map (.ofList [("a", .cell 0)])], #[], 0⟩
    let t : Store := Bindings.insert ⟨.cell 1⟩ s "z" (.cell 0)
    (execute out 60 "console.log(a)\nreturn [a]" ⟨.cell 1⟩ s []).isSome ∧
      Option.Rel (EndsAlike ⟨.cell 1⟩ s t)
        (execute out.recording 60 "console.log(a)\nreturn [a]" ⟨.cell 1⟩ s ([], []))
        (execute out.recording 60 "console.log(a)\nreturn [a]" ⟨.cell 1⟩ t ([], [])) := by
  intro out s t
  have tokens : (scanTokens "console.log(a)\nreturn [a]").toOption.all (·.all fun w =>
      w.kind ≠ .keyword .thisWord && (w.kind ≠ .identifier || w.text ≠ "z")) := by
    decide +kernel
  have discreet : out.Discreet :=
    Sink.discreet_of_texts fun _ text k => some (.ok (), k ++ [text])
  have array : (Store.empty.alloc (.array #[])).2.Intact :=
    Store.intact_empty.alloc (by simp [Cell.places])
  have intact : s.Intact := array.alloc (c := .map (.ofList [("a", .cell 0)])) (by
    simp only [Cell.places, List.forall_mem_map]
    intro r hr
    obtain rfl : r = .cell 0 := by simpa using Dict.mem_values_ofList hr
    exact (by decide : 0 < 1))
  have had : s.Has (.value (.cell 1)) := (by decide : 1 < 2)
  have apart : ∀ r ∈ Bindings.values ⟨.cell 1⟩ s, ¬ s.Reaches (.value r) (.value (.cell 1)) := by
    intro r hr path
    obtain rfl : r = .cell 0 := by simpa using Dict.mem_values_ofList hr
    rcases Relation.ReflTransGen.cases_head path with eq | ⟨q, hq, _⟩
    · simp at eq
    · exact absurd hq List.not_mem_nil
  have words : ∀ ws, scanTokens "console.log(a)\nreturn [a]" = .ok ws → ∀ w ∈ ws,
      w.kind ≠ .keyword .thisWord ∧ (w.kind = .identifier → w.text ≠ "z") := by
    intro ws hs w hw
    rw [hs] at tokens
    simp only [Except.toOption, Option.all_some, List.all_eq_true] at tokens
    simpa [imp_iff_not_or] using tokens w hw
  have agree : Bindings.Agree ⟨.cell 1⟩ "console.log(a)\nreturn [a]" s t := by
    apply Bindings.agree_insert intact had rfl apart (by decide) (by decide)
    · exact fun ws hs w hw => (words ws hs w hw).1
    · rintro ⟨ws, hs, w, hw, kind, text⟩
      exact (words ws hs w hw).2 kind text
  exact ⟨by decide +kernel, execute_isolated discreet agree 60 []⟩

end Script

end LayerScript
