import LayerScript.Proofs.Places
import LayerScript.Proofs.Programs.Plain

/-!
# Two stores side by side

A sharing says what two runs have in common. Its live places hold the same in both stores, apart
from one scope, the seam, where only the lookups of some names agree. Places that are not live are
as they were at the start. `Sharing.Alike` is the invariant: whatever a live place holds is live,
with one exception. Where there is a seam, a function with plain code may keep a receiver that is
not live, since its code never looks at it; any other function lives in scopes that are apart from
the seam.
-/

namespace LayerScript

/-- Where the code that is run comes from: from the text of a script, which is plain, or from a
function that was there before. -/
inductive Origin where
  | text
  | guest

structure Sharing where
  live : Place → Prop
  seam : Option ScopeId
  names : String → Prop
  /-- The stores at the start. -/
  left : Store
  right : Store

namespace Sharing

variable {W : Sharing} {s t u : Store}

/-- A place that can be used. With a seam, scopes are looked at only when they have been made. -/
def Live (W : Sharing) (s : Store) (p : Place) : Prop :=
  W.live p ∧ match p with
    | .value _ => True
    | .scope e => W.seam.isSome → s.Has (.scope e)

/-- The seam is not among the scopes from `e` outwards. -/
def Apart (W : Sharing) (s : Store) (e : ScopeId) : Prop :=
  ∀ f ∈ W.seam, ¬ Relation.ReflTransGen (fun e p => (s.scope e).parent = some p) e f

/-- Whether a cell can be the contents of a live value. -/
def Fits (W : Sharing) (s : Store) : Cell → Prop
  | .closure f =>
    W.Live s (.scope f.home) ∧
      ((W.seam.isSome ∧ ∀ st ∈ f.body, st.Plain W.names) ∨
        W.Apart s f.home ∧ ∀ r ∈ f.receiver, W.live (.value r))
  | c => ∀ q ∈ c.places, W.live q

structure Alike (W : Sharing) (s t : Store) : Prop where
  counts : t.cells.size = s.cells.size ∧ t.scopes.size = s.scopes.size ∧ t.serials = s.serials
  cell : ∀ r, W.live (.value r) → t.cell r = s.cell r
  fits : ∀ r, W.live (.value r) → W.Fits s (s.cell r)
  scope : ∀ e, W.live (.scope e) → W.seam ≠ some e → t.scope e = s.scope e
  parent : ∀ e, W.live (.scope e) → (t.scope e).parent = (s.scope e).parent
  lookup : ∀ e ∈ W.seam, ∀ x, W.names x →
    (t.scope e).names.find? x = (s.scope e).names.find? x
  held : ∀ e, W.live (.scope e) → ∀ q ∈ (s.scope e).places, W.Live s q
  left : ∀ p, ¬ W.live p → Store.SameAt p W.left s
  right : ∀ p, ¬ W.live p → Store.SameAt p W.right t
  fresh : ∀ p, ¬ s.Has p → W.live p
  seam : ∀ e ∈ W.seam, s.Has (.scope e)

theorem Alike.has (h : W.Alike s t) (p : Place) : t.Has p ↔ s.Has p := by
  obtain ⟨cells, scopes, serials⟩ := h.counts
  rcases p with (⟨serial, value⟩ | index) | e <;> simp only [Store.Has, cells, scopes, serials]

/-- A run can start where the live places are closed under what they hold. -/
theorem alike_start {live : Place → Prop} {names : String → Prop}
    (counts : t.cells.size = s.cells.size ∧ t.scopes.size = s.scopes.size ∧ t.serials = s.serials)
    (same : ∀ p, live p → Store.SameAt p s t) (closed : ∀ p, live p → ∀ q ∈ s.held p, live q)
    (fresh : ∀ p, ¬ s.Has p → live p) : Alike ⟨live, none, names, s, t⟩ s t := by
  constructor
  case counts => exact counts
  case cell => exact fun r hr => same (.value r) hr
  case fits =>
    intro r hr
    have places : ∀ q ∈ (s.cell r).places, live q := closed (.value r) hr
    cases hc : s.cell r with
    | closure f =>
      rw [hc] at places
      refine ⟨⟨places _ (by simp [Cell.places]), fun seam => nomatch seam⟩, .inr ⟨?_, ?_⟩⟩
      · exact fun _ hf => nomatch hf
      · exact fun x hx => places _ (by simpa [Cell.places] using hx)
    | _ =>
      rw [hc] at places
      exact places
  case scope => exact fun e he _ => same (.scope e) he
  case parent => exact fun e he => congrArg Scope.parent (same (.scope e) he)
  case lookup => exact fun _ he => nomatch he
  case held =>
    intro e he q hq
    refine ⟨closed (.scope e) he q hq, ?_⟩
    cases q with
    | value r => trivial
    | scope e' => exact fun seam => nomatch seam
  case left => exact fun p _ => Store.SameAt.refl p s
  case right => exact fun p _ => Store.SameAt.refl p t
  case fresh => exact fresh
  case seam => exact fun _ he => nomatch he

/-- Without a seam two stores that began as one stay one. -/
theorem Alike.eq (h : W.Alike s t) (seam : W.seam = none) (start : W.left = W.right) : t = s := by
  obtain ⟨cells, scopes, serials⟩ := h.counts
  refine Store.eq_of_same cells scopes serials fun p => ?_
  by_cases live : W.live p
  · cases p with
    | value r => exact h.cell r live
    | scope e => exact h.scope e live (by simp [seam])
  · have left := h.left p live
    rw [start] at left
    exact left.symm.trans (h.right p live)

/-! ## While the store grows -/

theorem Live.mono {p : Place} (h : W.Live s p) (hs : s.Extends t) : W.Live t p := by
  refine ⟨h.1, ?_⟩
  cases p with
  | value r => trivial
  | scope e => exact fun seam => hs.has _ (h.2 seam)

theorem Alike.live_parent (h : W.Alike s t) {e p : ScopeId} (he : W.live (.scope e))
    (hp : (s.scope e).parent = some p) : W.Live s (.scope p) := by
  apply h.held e he
  simp [Scope.places, hp]

theorem Apart.parent {e p : ScopeId} (h : W.Apart s e) (hp : (s.scope e).parent = some p) :
    W.Apart s p :=
  fun f hf path => h f hf (.head hp path)

theorem Apart.mono (h : W.Alike s t) {e : ScopeId} (ha : W.Apart s e) (hl : W.Live s (.scope e))
    (hu : s.Extends u) : W.Apart u e := by
  intro f hf path
  have seam : W.seam.isSome := Option.isSome_of_mem hf
  -- along a path outwards in the larger store, every scope is live and apart in the smaller one
  induction path using Relation.ReflTransGen.head_induction_on with
  | refl => exact ha f hf .refl
  | head step _ ih =>
    rw [hu.parent _ (hl.2 seam)] at step
    exact ih (ha.parent step) (h.live_parent hl.1 step)

theorem Fits.mono (h : W.Alike s t) {c : Cell} (hc : W.Fits s c) (hu : s.Extends u) :
    W.Fits u c := by
  cases c with
  | closure f =>
    obtain ⟨home, code⟩ := hc
    refine ⟨home.mono hu, ?_⟩
    rcases code with plain | ⟨apart, receiver⟩
    · exact .inl plain
    · exact .inr ⟨apart.mono h home hu, receiver⟩
  | _ => exact hc

end Sharing

end LayerScript
