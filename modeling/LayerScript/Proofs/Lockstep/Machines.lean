import LayerScript.Machine.Basic
import LayerScript.Proofs.Lockstep.Operators

/-!
# Two machines in lockstep

Two machines are related when their stores are alike and everything else is the same, apart from
their sinks. Two runs are in lockstep when from related machines they end alike: with one good
value, with one diagnostic or without fuel, and on machines that are related again.
-/

namespace LayerScript

namespace Sharing

variable {W : Sharing} {σ τ α β : Type} {S : σ → τ → Prop} {o : Origin} {d : Nat}

/-- Code from outside runs in scopes that are apart from the seam and has a live receiver. -/
structure Related (W : Sharing) (S : σ → τ → Prop) (o : Origin) (d : Nat) (m : Machine σ)
    (n : Machine τ) : Prop where
  stores : W.Alike m.store n.store
  scope : n.scope = m.scope
  globals : n.globals = m.globals
  receiver : n.receiver = m.receiver
  strict : n.strict = m.strict
  callSite : n.callSite = m.callSite
  depths : m.depth = d ∧ n.depth = d
  home : W.Live m.store (.scope m.scope)
  text : o = .text → W.seam.isSome
  guest : o = .guest → W.Apart m.store m.scope ∧ W.live (.value m.receiver)
  sinks : S m.sink n.sink

/-- Two outcomes of runs that started with a store `s` on the left. -/
inductive Matched (W : Sharing) (S : σ → τ → Prop) (o : Origin) (d : Nat) (A : α → Prop)
    (s : Store) : Outcome σ α → Outcome τ α → Prop
  | done {a m n} : A a → W.Related S o d m n → s.Extends m.store →
      Matched W S o d A s (.done a m) (.done a n)
  | failed {why m n} : W.Related S o d m n → s.Extends m.store →
      Matched W S o d A s (.failed why m) (.failed why n)
  | exhausted : Matched W S o d A s .exhausted .exhausted

def Lockstep (W : Sharing) (S : σ → τ → Prop) (o : Origin) (d : Nat) (A : α → Prop) (x : Run σ α)
    (y : Run τ α) : Prop :=
  ∀ m n, W.Related S o d m n → W.Matched S o d A m.store (x m) (y n)

theorem Matched.extends {A : α → Prop} {s t : Store} {x : Outcome σ α} {y : Outcome τ α}
    (h : W.Matched S o d A t x y) (hs : s.Extends t) : W.Matched S o d A s x y := by
  cases h with
  | done good related grows => exact .done good related (hs.trans grows)
  | failed related grows => exact .failed related (hs.trans grows)
  | exhausted => exact .exhausted

/-! ## Sequences -/

theorem Matched.next {A : α → Prop} {B : β → Prop} {s : Store} {m : Machine σ} {n : Machine τ}
    {x : Run σ α} {y : Run τ α} {f : α → Run σ β} {g : α → Run τ β}
    (h : W.Matched S o d A s (x m) (y n)) (hf : ∀ a m' n', A a → W.Related S o d m' n' →
      s.Extends m'.store → W.Matched S o d B m'.store (f a m') (g a n')) :
    W.Matched S o d B s ((x >>= f) m) ((y >>= g) n) := by
  show W.Matched S o d B s (Run.bind x f m) (Run.bind y g n)
  unfold Run.bind
  revert h
  generalize x m = outcome, y n = outcome'
  intro h
  cases h with
  | done good related grows => exact (hf _ _ _ good related grows).extends grows
  | failed related grows => exact .failed related grows
  | exhausted => exact .exhausted

theorem Matched.bind {A : α → Prop} {B : β → Prop} {s : Store} {m : Machine σ} {n : Machine τ}
    {x : Run σ α} {y : Run τ α} {f : α → Run σ β} {g : α → Run τ β}
    (h : W.Matched S o d A s (x m) (y n)) (hf : ∀ a, A a → W.Lockstep S o d B (f a) (g a)) :
    W.Matched S o d B s ((x >>= f) m) ((y >>= g) n) :=
  h.next fun a _ _ ha related _ => hf a ha _ _ related

theorem Lockstep.bind {A : α → Prop} {B : β → Prop} {x : Run σ α} {y : Run τ α}
    {f : α → Run σ β} {g : α → Run τ β} (h : W.Lockstep S o d A x y)
    (hf : ∀ a, A a → W.Lockstep S o d B (f a) (g a)) : W.Lockstep S o d B (x >>= f) (y >>= g) :=
  fun m n related => (h m n related).bind hf

theorem Lockstep.pure {A : α → Prop} {a : α} (ha : A a) :
    W.Lockstep S o d A (Pure.pure a) (Pure.pure a) :=
  fun _ _ related => .done ha related (.refl _)

theorem Lockstep.map {A : α → Prop} {B : β → Prop} {x : Run σ α} {y : Run τ α} {f : α → β}
    (h : W.Lockstep S o d A x y) (hf : ∀ a, A a → B (f a)) :
    W.Lockstep S o d B (f <$> x) (f <$> y) :=
  h.bind fun a ha => .pure (hf a ha)

theorem Lockstep.exhausted {A : α → Prop} :
    W.Lockstep S o d A (Run.exhausted : Run σ α) (Run.exhausted : Run τ α) :=
  fun _ _ _ => .exhausted

theorem Lockstep.fail {A : α → Prop} (why : Diagnostic) :
    W.Lockstep S o d A (Run.fail why : Run σ α) (Run.fail why : Run τ α) :=
  fun _ _ related => .failed related (.refl _)

theorem Lockstep.raise {A : α → Prop} (fault : Fault) :
    W.Lockstep S o d A (Run.raise fault : Run σ α) (Run.raise fault : Run τ α) :=
  .fail _

theorem Lockstep.raiseAt {A : α → Prop} (span : Span) (fault : Fault) :
    W.Lockstep S o d A (Run.raiseAt span fault : Run σ α) (Run.raiseAt span fault : Run τ α) :=
  .fail _

/-! ## Reading and stepping -/

section

variable {m : Machine σ} {n : Machine τ} {A : α → Prop}

theorem Related.done (h : W.Related S o d m n) {a : α} (ha : A a) :
    W.Matched S o d A m.store (.done a m) (.done a n) :=
  .done ha h (.refl _)

theorem Related.check (h : W.Related S o d m n) {explain : Fault → Diagnostic}
    {f g : Store → Except Fault α} (hf : Shown A (f m.store) (g n.store)) :
    W.Matched S o d A m.store (Run.check explain f m) (Run.check explain g n) := by
  unfold Run.check
  rw [hf.value]
  cases hx : f m.store with
  | ok a => exact h.done (hf.good a hx)
  | error fault => exact .failed h (.refl _)

theorem Related.stepped (h : W.Related S o d m n) {s t : Store} (alike : W.Alike s t)
    (grows : m.store.Extends s) : W.Related S o d { m with store := s } { n with store := t } :=
  { h with
    stores := alike
    home := h.home.mono grows
    guest := fun ho => ⟨(h.guest ho).1.mono h.stores h.home grows, (h.guest ho).2⟩ }

theorem Related.onStore (h : W.Related S o d m n) {f g : Store → α × Store}
    (hf : W.Moved A m.store (f m.store) (g n.store)) :
    W.Matched S o d A m.store (Run.onStore f m) (Run.onStore g n) := by
  obtain ⟨value, good, alike, grows⟩ := hf
  simp only [Run.onStore]
  rw [value]
  exact .done good (h.stepped alike grows) grows

/-- A step of the store and what follows on the stores after it. -/
theorem Related.stepThen {B : β → Prop} (h : W.Related S o d m n) {f g : Store → α × Store}
    {k : α → Run σ β} {k' : α → Run τ β} (hf : W.Moved A m.store (f m.store) (g n.store))
    (hk : W.Related S o d { m with store := (f m.store).2 } { n with store := (g n.store).2 } →
      W.Matched S o d B (f m.store).2 (k (f m.store).1 { m with store := (f m.store).2 })
        (k' (f m.store).1 { n with store := (g n.store).2 })) :
    W.Matched S o d B m.store ((Run.onStore f >>= k) m) ((Run.onStore g >>= k') n) := by
  obtain ⟨value, -, alike, grows⟩ := hf
  show W.Matched S o d B m.store (k (f m.store).1 { m with store := (f m.store).2 })
    (k' (g n.store).1 { n with store := (g n.store).2 })
  rw [value]
  exact (hk (h.stepped alike grows)).extends grows

end

theorem Lockstep.read {A : α → Prop} {f : Machine σ → α} {g : Machine τ → α}
    (h : ∀ m n, W.Related S o d m n → g n = f m ∧ A (f m)) :
    W.Lockstep S o d A (Run.read f) (Run.read g) := by
  intro m n related
  obtain ⟨same, good⟩ := h m n related
  unfold Run.read
  rw [same]
  exact related.done good

theorem Lockstep.check {A : α → Prop} {explain : Fault → Diagnostic}
    {f : Store → Except Fault α} (h : ∀ s t, W.Alike s t → Shown A (f s) (f t)) :
    W.Lockstep S o d A (Run.check explain f) (Run.check explain f) :=
  fun _ _ related => related.check (h _ _ related.stores)

theorem Lockstep.onStore {A : α → Prop} {f : Store.Effect α} (h : W.Respects A f) :
    W.Lockstep S o d A (Run.onStore f) (Run.onStore f) :=
  fun _ _ related => related.onStore (h _ _ related.stores)

theorem Lockstep.attempt {A : α → Prop} {explain : Fault → Diagnostic}
    {f : Store → Except Fault (Store.Effect α)}
    (h : ∀ s t, W.Alike s t → Shown (W.Respects A) (f s) (f t)) :
    W.Lockstep S o d A (Run.attempt explain f) (Run.attempt explain f) :=
  Lockstep.bind (x := Run.check explain f) (.check h) fun _ effect => .onStore effect

theorem Lockstep.alloc {c : Cell} (hc : ∀ s, W.Fits s c) :
    W.Lockstep S o d (fun r => W.live (.value r)) (Run.alloc c) (Run.alloc c) :=
  .onStore (respects_alloc hc)

theorem Lockstep.bare {c : Cell} (hc : Bare c) :
    W.Lockstep S o d (fun r => W.live (.value r)) (Run.alloc c) (Run.alloc c) :=
  .alloc fun _ => hc.fits

theorem Lockstep.onCell {B : β → Prop} {r : Ref} {f : Cell → Run σ β} {g : Cell → Run τ β}
    (hr : W.live (.value r)) (h : ∀ m n, W.Related S o d m n →
      W.Matched S o d B m.store (f (m.store.cell r) m) (g (m.store.cell r) n)) :
    W.Lockstep S o d B (Run.cell r >>= f) (Run.cell r >>= g) := by
  intro m n related
  show W.Matched S o d B m.store (f (m.store.cell r) m) (g (n.store.cell r) n)
  rw [related.stores.cell r hr]
  exact h m n related

theorem Lockstep.cell {r : Ref} (hr : W.live (.value r)) :
    W.Lockstep S o d (fun _ => True) (Run.cell r) (Run.cell r) :=
  .read fun _ _ related => ⟨related.stores.cell r hr, trivial⟩

theorem Lockstep.declare {r : Ref} (hr : W.live (.value r)) (x : String) (isMutable : Bool) :
    W.Lockstep S o d (fun _ => True) (Run.declare x r isMutable) (Run.declare x r isMutable) := by
  intro m n related
  have grows : m.store.Extends (m.store.declare m.scope x r isMutable) := Store.extends_declare ..
  unfold Run.declare
  rw [related.scope]
  refine .done trivial ?_ grows
  exact {
    related with
    stores := related.stores.declare related.home.1 hr x isMutable
    scope := rfl
    home := related.home.mono grows
    guest := fun ho =>
      ⟨(related.guest ho).1.mono related.stores related.home grows, (related.guest ho).2⟩ }

/-! ## Scopes, calls and frames -/

section

variable {A : α → Prop} {x : Run σ α} {y : Run τ α}

/-- A machine that has come back to the scope of an earlier one. -/
theorem Related.backTo {m m' : Machine σ} {n n' : Machine τ} (h : W.Related S o d m n)
    (h' : W.Related S o d m' n') (grows : m.store.Extends m'.store) :
    W.Related S o d { m' with scope := m.scope } { n' with scope := n.scope } :=
  { h' with
    scope := h.scope
    home := h.home.mono grows
    guest := fun ho => ⟨(h.guest ho).1.mono h.stores h.home grows, (h'.guest ho).2⟩ }

theorem Lockstep.inNewScope (h : W.Lockstep S o d A x y) :
    W.Lockstep S o d A (Run.inNewScope x) (Run.inNewScope y) := by
  intro m n related
  have moved := related.stores.newScope (some m.scope) (by
    rintro p ⟨⟩
    exact related.home)
  have inner : W.Related S o d
      { m with store := (m.store.newScope m.scope).2, scope := (m.store.newScope m.scope).1 }
      { n with store := (n.store.newScope n.scope).2, scope := (n.store.newScope n.scope).1 } := by
    rw [related.scope]
    exact {
      related with
      stores := moved.alike
      scope := moved.value
      home := ⟨moved.good, fun _ => Store.has_newScope_self _⟩
      guest := fun ho =>
        ⟨related.stores.apart_newScope related.home (related.guest ho).1, (related.guest ho).2⟩ }
  have run := h _ _ inner
  simp only [Run.inNewScope, Run.inScope]
  revert run
  generalize x _ = outcome, y _ = outcome'
  intro run
  cases run with
  | done good after grows =>
    have grows := moved.grows.trans grows
    exact .done good (related.backTo after grows) grows
  | failed after grows =>
    have grows := moved.grows.trans grows
    exact .failed (related.backTo after grows) grows
  | exhausted => exact .exhausted

theorem Lockstep.atCall (span : Span) (h : W.Lockstep S o d A x y) :
    W.Lockstep S o d A (Run.atCall span x) (Run.atCall span y) := by
  intro m n related
  have run := h m n related
  unfold Run.atCall
  revert run
  generalize x m = outcome, y n = outcome'
  intro run
  cases run with
  | done good after grows => exact .done good after grows
  | failed after grows => exact .failed { after with callSite := rfl } grows
  | exhausted => exact .exhausted

/-- The body of a function in its own frame. Its code may come from elsewhere than that around
the call. -/
theorem Related.inFrame {m : Machine σ} {n : Machine τ} {p : Origin} (related : W.Related S o d m n)
    (name : String) {e : ScopeId} {r : Ref} (he : W.Live m.store (.scope e))
    (text : p = .text → W.seam.isSome)
    (guest : p = .guest → W.Apart m.store e ∧ W.live (.value r))
    (h : W.Lockstep S p (d + 1) A x y) :
    W.Matched S o d A m.store (Run.inFrame name e r x m) (Run.inFrame name e r y n) := by
  have inner : W.Related S p (d + 1)
      { m with scope := e, receiver := r, depth := m.depth + 1 }
      { n with scope := e, receiver := r, depth := n.depth + 1 } :=
    { related with
      scope := rfl
      receiver := rfl
      depths := ⟨by rw [related.depths.1], by rw [related.depths.2]⟩
      home := he
      text := text
      guest := guest }
  have run := h _ _ inner
  simp only [Run.inFrame]
  revert run
  generalize x _ = outcome, y _ = outcome'
  intro run
  cases run with
  | @done a m' n' good after grows =>
    refine .done good ?_ grows
    exact {
      after with
      scope := related.scope
      receiver := related.receiver
      depths := related.depths
      home := related.home.mono grows
      text := related.text
      guest := fun ho =>
        ⟨(related.guest ho).1.mono related.stores related.home grows, (related.guest ho).2⟩ }
  | @failed why m' n' after grows =>
    simp only [after.callSite]
    refine .failed ?_ grows
    exact {
      after with
      scope := related.scope
      receiver := related.receiver
      callSite := rfl
      depths := related.depths
      home := related.home.mono grows
      text := related.text
      guest := fun ho =>
        ⟨(related.guest ho).1.mono related.stores related.home grows, (related.guest ho).2⟩ }
  | exhausted => exact .exhausted

end

/-! ## The console -/

inductive Answered (S : σ → τ → Prop) : Option (Except SinkError Unit × σ) →
    Option (Except SinkError Unit × τ) → Prop
  | some {result k l} : S k l → Answered S (some (result, k)) (some (result, l))
  | none : Answered S none none

/-- Two sinks that answer alike when they are shown live values of alike stores. -/
def Answers (W : Sharing) (S : σ → τ → Prop) (out : Sink σ) (out' : Sink τ) : Prop :=
  ∀ s t, W.Alike s t → ∀ level payload, (∀ r ∈ payload, W.live (.value r)) → ∀ k l, S k l →
    Answered S (out.write s level payload k) (out'.write t level payload l)

theorem Lockstep.write {out : Sink σ} {out' : Sink τ} (h : W.Answers S out out') (level : Level)
    {payload : List Ref} (live : ∀ r ∈ payload, W.live (.value r)) :
    W.Lockstep S o d (fun _ => True) (Run.write out level payload)
      (Run.write out' level payload) := by
  intro m n related
  have answered := h _ _ related.stores level payload live _ _ related.sinks
  simp only [Run.write]
  revert answered
  generalize out.write m.store level payload m.sink = answer,
    out'.write n.store level payload n.sink = answer'
  intro answered
  cases answered with
  | none => exact .exhausted
  | @some result k l sinks =>
    cases result with
    | ok _ => exact .done trivial { related with sinks := sinks } (.refl _)
    | error why => exact .failed { related with sinks := sinks } (.refl _)

end Sharing

end LayerScript
