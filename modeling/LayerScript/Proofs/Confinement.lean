import LayerScript.Proofs.Frames
import LayerScript.Proofs.Lockstep.Calls
import LayerScript.Proofs.Lockstep.Preludes
import LayerScript.Proofs.Recording

/-!
# Scripts have no ambient access

A script gets at what can be reached from the map of its bindings and at what it makes itself.
Everything else stays as it was, and is neither returned nor shown to the console.
-/

namespace LayerScript

/-- What can be reached from the bindings in a store, and what the store does not have yet. -/
def Bindings.Grants (b : Bindings) (s : Store) (p : Place) : Prop :=
  s.Reaches (.value b.map) p ∨ ¬ s.Has p

theorem Bindings.Grants.held {b : Bindings} {s : Store} {p q : Place} (h : b.Grants s p)
    (hq : q ∈ s.held p) : b.Grants s q := by
  rcases h with reached | new
  · exact .inl (reached.tail hq)
  · rw [Store.held_eq_nil new] at hq
    exact absurd hq List.not_mem_nil

namespace Sharing

variable {W : Sharing} {s t : Store} {σ τ : Type}

/-- One store taken twice, where what is granted is live. -/
def granted (b : Bindings) (s : Store) : Sharing :=
  ⟨b.Grants s, none, fun _ => True, s, s⟩

theorem alike_granted (b : Bindings) (s : Store) : (granted b s).Alike s s :=
  alike_start ⟨rfl, rfl, rfl⟩ (fun p _ => .refl p s) (fun _ hp _ hq => hp.held hq)
    fun _ hp => .inr hp

theorem Alike.live_reaches (h : W.Alike s t) (seam : W.seam = none) {p q : Place} (hp : W.live p)
    (path : s.Reaches p q) : W.live q := by
  induction path with
  | refl => exact hp
  | @tail p q _ step ih =>
    cases p with
    | scope e => exact (h.held e ih q step).1
    | value r =>
      have fits := h.fits r ih
      simp only [Store.held] at step
      cases hc : s.cell r with
      | closure f =>
        rw [hc] at fits step
        obtain ⟨home, ⟨present, _⟩ | ⟨_, receiver⟩⟩ := fits
        · simp [seam] at present
        · rcases List.mem_cons.1 step with rfl | step
          · exact home.1
          · obtain ⟨x, hx, rfl⟩ := List.mem_map.1 step
            exact receiver x (by simpa using hx)
      | _ =>
        rw [hc] at fits step
        exact fits q step

/-! ## Running a script -/

theorem granted_live_values (b : Bindings) (s : Store) :
    ∀ r ∈ b.values s, (granted b s).live (.value r) := by
  intro r hr
  refine .inl (.single ?_)
  unfold Bindings.values Bindings.entries at hr
  simp only [Store.held]
  cases hc : s.cell b.map with
  | map entries =>
    rw [hc] at hr
    exact List.mem_map_of_mem hr
  | _ =>
    rw [hc] at hr
    exact absurd hr List.not_mem_nil

/-- A sink and the one that records for it, as long as only what is granted has been written. -/
def Recorded (b : Bindings) (s : Store) (k : σ) (l : σ × List ConsoleWrite) : Prop :=
  l.1 = k ∧ ∀ w ∈ l.2, ∀ r ∈ w.payload, ∀ q, w.store.Reaches (.value r) q → b.Grants s q

theorem answers_recording (out : Sink σ) (b : Bindings) (s : Store) :
    (granted b s).Answers (Recorded b s) out out.recording := by
  rintro u v alike level payload live k ⟨k', writes⟩ ⟨rfl, recorded⟩
  obtain rfl := alike.eq rfl rfl
  simp only [Sink.recording]
  cases out.write v level payload k' with
  | none => exact .none
  | some answer =>
    refine .some ⟨rfl, fun w hw r hr q path => ?_⟩
    rcases List.mem_append.1 hw with hw | hw
    · exact recorded w hw r hr q path
    · obtain rfl := List.mem_singleton.1 hw
      exact alike.live_reaches rfl (live r hr) path

theorem Related.invoke {S : σ → τ → Prop} {out : Sink σ} {out' : Sink τ} {m : Machine σ}
    {n : Machine τ} (h : W.Related S .guest 0 m n) (answers : W.Answers S out out')
    (globals : m.globals = m.scope) (fuel : Nat) (script : Script) {receiver : Ref}
    {args : List Ref} (hr : W.live (.value receiver)) (live : ∀ a ∈ args, W.live (.value a)) :
    W.Matched S .guest 0 (fun r => W.live (.value r)) m.store
      (script.invoke out fuel receiver args m) (script.invoke out' fuel receiver args n) := by
  have fits : W.Fits m.store
      (.closure ⟨some scriptFrame, script.params, script.body, m.globals, false, none⟩) := by
    rw [globals]
    exact ⟨h.home, .inr ⟨(h.guest rfl).1, fun _ hr => nomatch hr⟩⟩
  have made : W.Matched S .guest 0 (fun f => W.live (.value f)) m.store (Run.alloc _ m)
    (Run.alloc _ n) := h.onStore (h.stores.alloc fits)
  show W.Matched S .guest 0 _ m.store
    ((Run.alloc (.closure ⟨some scriptFrame, script.params, script.body, m.globals, false, none⟩)
      >>= fun f => Run.call out fuel f (some receiver) args) m)
    ((Run.alloc (.closure ⟨some scriptFrame, script.params, script.body, n.globals, false, none⟩)
      >>= fun f => Run.call out' fuel f (some receiver) args) n)
  rw [h.globals]
  refine made.bind fun f hf => answers.calls fuel 0 .guest f (some receiver) args hf ?_ live
  rintro _ ⟨⟩
  exact hr

theorem granted_invoke (out : Sink σ) (fuel : Nat) (script : Script) (b : Bindings) (s : Store)
    (k : σ) : (granted b s).Matched (Recorded b s) .guest 0 (fun r => b.Grants s (.value r))
      (Machine.start s script.strict k).store
      (script.invoke out fuel b.map (b.values s) (.start s script.strict k))
      (script.invoke out.recording fuel b.map (b.values s) (.start s script.strict (k, []))) := by
  obtain ⟨start, -⟩ := related_start (S := Recorded b s) (k := k) (l := (k, [])) rfl
    (alike_granted b s) script.strict ⟨rfl, by simp⟩
  exact start.invoke (answers_recording out b s) rfl fuel script (.inl .refl)
    (granted_live_values b s)

theorem confined_of_matched {b : Bindings} {s t : Store} {source : String} {e : Execution σ}
    {x : Outcome σ Ref} {y : Outcome (σ × List ConsoleWrite) Ref}
    (matched : (granted b s).Matched (Recorded b s) .guest 0 (fun r => b.Grants s (.value r)) t x y)
    (ends : Execution.ofOutcome source x = some e) :
    (∀ p, s.Has p → ¬ s.Reaches (.value b.map) p → Store.SameAt p s e.store) ∧
      (∀ r, e.result = .ok r → ∀ q, e.store.Reaches (.value r) q → b.Grants s q) ∧
      ∃ writes, Execution.ofOutcome source y = some ⟨e.result, e.store, (e.sink, writes)⟩ ∧
        ∀ w ∈ writes, ∀ r ∈ w.payload, ∀ q, w.store.Reaches (.value r) q → b.Grants s q := by
  have unreached {m : Machine σ} {n : Machine (σ × List ConsoleWrite)}
      (related : (granted b s).Related (Recorded b s) .guest 0 m n) (p : Place) (had : s.Has p)
      (apart : ¬ s.Reaches (.value b.map) p) : Store.SameAt p s m.store :=
    related.stores.left p fun granted => granted.elim apart fun new => new had
  cases matched with
  | exhausted => exact nomatch ends
  | @done r m n good related _ =>
    obtain rfl := Option.some.inj ends
    have store : n.store = m.store := related.stores.eq rfl rfl
    have sink : n.sink = (m.sink, n.sink.2) := Prod.ext related.sinks.1 rfl
    refine ⟨unreached related, ?_, n.sink.2, ?_, related.sinks.2⟩
    · rintro _ ⟨⟩ q path
      exact related.stores.live_reaches rfl good path
    · rw [Execution.ofOutcome, store, ← sink]
  | @failed why m n related _ =>
    obtain rfl := Option.some.inj ends
    have store : n.store = m.store := related.stores.eq rfl rfl
    have sink : n.sink = (m.sink, n.sink.2) := Prod.ext related.sinks.1 rfl
    refine ⟨unreached related, fun r hr => (nomatch hr), n.sink.2, ?_, related.sinks.2⟩
    rw [Execution.ofOutcome, store, ← sink]

end Sharing

namespace Script

variable {σ : Type}

/-- What a run leaves alone, returns and writes. Its writes are those that a recording sink sees,
which changes nothing else about the run. -/
structure Confined (out : Sink σ) (fuel : Nat) (source : String) (b : Bindings) (s : Store) (k : σ)
    (e : Execution σ) : Prop where
  unreached : ∀ p, s.Has p → ¬ s.Reaches (.value b.map) p → Store.SameAt p s e.store
  result : ∀ r, e.result = .ok r → ∀ q, e.store.Reaches (.value r) q → b.Grants s q
  written : ∃ writes, execute out.recording fuel source b s (k, []) =
      some ⟨e.result, e.store, (e.sink, writes)⟩ ∧
    ∀ w ∈ writes, ∀ r ∈ w.payload, ∀ q, w.store.Reaches (.value r) q → b.Grants s q

theorem execute_confined (out : Sink σ) (fuel : Nat) (source : String) (b : Bindings) (s : Store)
    (k : σ) {e : Execution σ} (h : execute out fuel source b s k = some e) :
    Confined out fuel source b s k e := by
  cases hc : compile source (b.names s) with
  | error failure =>
    rw [execute_of_error hc] at h
    obtain rfl := Option.some.inj h
    constructor
    · exact fun p _ _ => .refl p s
    · exact fun r hr => nomatch hr
    · exact ⟨[], execute_of_error hc, by simp⟩
  | ok script =>
    rw [execute_of_compile hc] at h
    obtain ⟨left, granted, writes, run, written⟩ :=
      Sharing.confined_of_matched (Sharing.granted_invoke out fuel script b s k) h
    exact ⟨left, granted, writes, by rw [execute_of_compile hc, run], written⟩

/-- An array that the bindings do not lead to is left alone by a script that logs, makes and returns
an array. -/
theorem execute_confined_log : ∃ e,
    execute (σ := Unit) ⟨fun _ _ _ k => some (.ok (), k)⟩ 60
      "console.log(a)\nvar c = [a]\nreturn c" ⟨.cell 1⟩
      ⟨#[.array #[], .map (.ofList [("a", .cell 0)]), .array #[.cell 0]], #[], 0⟩ () = some e ∧
    e.result.toOption.isSome ∧ e.store.cell (.cell 2) = .array #[.cell 0] := by
  have ended : (execute (σ := Unit) ⟨fun _ _ _ k => some (.ok (), k)⟩ 60
      "console.log(a)\nvar c = [a]\nreturn c" ⟨.cell 1⟩
      ⟨#[.array #[], .map (.ofList [("a", .cell 0)]), .array #[.cell 0]], #[], 0⟩ ()).any
        (·.result.toOption.isSome) := by decide +kernel
  obtain ⟨e, he, hr⟩ := (Option.any_eq_true _ _).1 ended
  refine ⟨e, he, hr, ?_⟩
  refine (execute_confined _ _ _ _ _ _ he).unreached (.value (.cell 2)) (by decide : 2 < 3) ?_
  intro path
  have inside : ∀ q, Store.Reaches ⟨#[.array #[], .map (.ofList [("a", .cell 0)]),
      .array #[.cell 0]], #[], 0⟩ (.value (.cell 1)) q →
      q = .value (.cell 1) ∨ q = .value (.cell 0) := by
    intro q path
    induction path with
    | refl => exact .inl rfl
    | tail _ step ih =>
      rcases ih with rfl | rfl
      · obtain ⟨r, hr, rfl⟩ := List.mem_map.1 step
        have := Dict.mem_values_ofList hr
        simp_all
      · exact absurd step List.not_mem_nil
  simpa using inside _ path

end Script

end LayerScript
