import LayerScript.Proofs.Entries
import LayerScript.Proofs.Lockstep.Sharing

/-!
# Steps of two stores

What the steps of the store do to two stores that are alike: they have the same result, the stores
are alike afterwards, and each extends the one before.
-/

namespace LayerScript

namespace Sharing

variable {W : Sharing} {s t : Store} {α β : Type}

/-- The results `x` and `y` of one step from a store `s` and one that is like it. -/
structure Moved (W : Sharing) (A : α → Prop) (s : Store) (x y : α × Store) : Prop where
  value : y.1 = x.1
  good : A x.1
  alike : W.Alike x.2 y.2
  grows : s.Extends x.2

/-- An effect that takes alike stores to alike stores, with one result. -/
def Respects (W : Sharing) (A : α → Prop) (f : Store.Effect α) : Prop :=
  ∀ s t, W.Alike s t → W.Moved A s (f s) (f t)

/-! ## What a step has to show

A step extends the store on the left, and changes live places only. What is left to show is that the
live places agree afterwards. -/

section

variable {s' t' : Store}

/-- A step that changes cells only. -/
theorem Alike.of_cells (h : W.Alike s t) (grows : s.Extends s')
    (still : ∀ r, ¬ W.live (.value r) → s'.cell r = s.cell r ∧ t'.cell r = t.cell r)
    (scopes : ∀ e, s'.scope e = s.scope e ∧ t'.scope e = t.scope e)
    (counts : t'.cells.size = s'.cells.size ∧ t'.scopes.size = s'.scopes.size ∧
      t'.serials = s'.serials)
    (cell : ∀ r, W.live (.value r) → t'.cell r = s'.cell r)
    (fits : ∀ r, W.live (.value r) → W.Fits s' (s'.cell r)) : W.Alike s' t' where
  counts := counts
  cell := cell
  fits := fits
  scope e he other := by rw [(scopes e).1, (scopes e).2, h.scope e he other]
  parent e he := by rw [(scopes e).1, (scopes e).2, h.parent e he]
  lookup e he x hx := by rw [(scopes e).1, (scopes e).2, h.lookup e he x hx]
  held e he q hq := (h.held e he q ((scopes e).1 ▸ hq)).mono grows
  left
    | .value r, dead => (h.left _ dead).trans (still r dead).1
    | .scope e, dead => (h.left _ dead).trans (scopes e).1
  right
    | .value r, dead => (h.right _ dead).trans (still r dead).2
    | .scope e, dead => (h.right _ dead).trans (scopes e).2
  fresh p hp := h.fresh p fun had => hp (grows.has p had)
  seam e he := grows.has _ (h.seam e he)

/-- A step that changes scopes only. -/
theorem Alike.of_scopes (h : W.Alike s t) (grows : s.Extends s')
    (still : ∀ e, ¬ W.live (.scope e) → s'.scope e = s.scope e ∧ t'.scope e = t.scope e)
    (cells : ∀ r, s'.cell r = s.cell r ∧ t'.cell r = t.cell r)
    (counts : t'.cells.size = s'.cells.size ∧ t'.scopes.size = s'.scopes.size ∧
      t'.serials = s'.serials)
    (scope : ∀ e, W.live (.scope e) → W.seam ≠ some e → t'.scope e = s'.scope e)
    (parent : ∀ e, W.live (.scope e) → (t'.scope e).parent = (s'.scope e).parent)
    (lookup : ∀ e ∈ W.seam, ∀ x, W.names x →
      (t'.scope e).names.find? x = (s'.scope e).names.find? x)
    (held : ∀ e, W.live (.scope e) → ∀ q ∈ (s'.scope e).places, W.Live s' q) :
    W.Alike s' t' where
  counts := counts
  cell r hr := by rw [(cells r).1, (cells r).2, h.cell r hr]
  fits r hr := by
    rw [(cells r).1]
    exact (h.fits r hr).mono h grows
  scope := scope
  parent := parent
  lookup := lookup
  held := held
  left
    | .value r, dead => (h.left _ dead).trans (cells r).1
    | .scope e, dead => (h.left _ dead).trans (still e dead).1
  right
    | .value r, dead => (h.right _ dead).trans (cells r).2
    | .scope e, dead => (h.right _ dead).trans (still e dead).2
  fresh p hp := h.fresh p fun had => hp (grows.has p had)
  seam e he := grows.has _ (h.seam e he)

end

/-! ## New values -/

theorem Alike.alloc (h : W.Alike s t) {c : Cell} (hc : W.Fits s c) :
    W.Moved (fun r => W.live (.value r)) s (s.alloc c) (t.alloc c) := by
  obtain ⟨cells, scopes, serials⟩ := h.counts
  have grows : s.Extends (s.alloc c).2 := Store.extends_alloc c
  have same : (t.alloc c).1 = (s.alloc c).1 := by
    unfold Store.alloc
    split <;> simp [cells, serials]
  have live : W.live (.value (s.alloc c).1) := h.fresh _ (Store.not_has_alloc c)
  have old {r : Ref} (hr : r ≠ (s.alloc c).1) :
      (s.alloc c).2.cell r = s.cell r ∧ (t.alloc c).2.cell r = t.cell r :=
    ⟨Store.cell_alloc_of_ne hr, Store.cell_alloc_of_ne (same ▸ hr)⟩
  refine ⟨same, live, h.of_cells grows ?still ?scopes ?counts ?cell ?fits, grows⟩
  case still => exact fun r dead => old fun eq => dead (eq ▸ live)
  case scopes => exact fun e => ⟨Store.scope_alloc c e, Store.scope_alloc c e⟩
  case counts =>
    unfold Store.alloc
    split <;> simp [cells, scopes, serials]
  case cell =>
    intro r hr
    by_cases new : r = (s.alloc c).1
    · rw [new, Store.cell_alloc_self, ← same, Store.cell_alloc_self]
    · rw [(old new).1, (old new).2, h.cell r hr]
  case fits =>
    intro r hr
    by_cases new : r = (s.alloc c).1
    · rw [new, Store.cell_alloc_self]
      exact hc.mono h grows
    · rw [(old new).1]
      exact (h.fits r hr).mono h grows

theorem respects_keep {A : α → Prop} {a : α} (ha : A a) : W.Respects A (.keep a) :=
  fun s _ h => ⟨rfl, ha, h, .refl s⟩

theorem respects_alloc {c : Cell} (hc : ∀ s, W.Fits s c) :
    W.Respects (fun r => W.live (.value r)) (·.alloc c) :=
  fun s _ h => h.alloc (hc s)

theorem Respects.seq {A : α → Prop} {B : β → Prop} {f : Store.Effect α} {g : α → Store.Effect β}
    (hf : W.Respects A f) (hg : ∀ a, A a → W.Respects B (g a)) :
    W.Respects B fun s => g (f s).1 (f s).2 := by
  intro s t h
  have first := hf s t h
  have second := hg _ first.good _ _ first.alike
  have same : g (f t).1 (f t).2 = g (f s).1 (f t).2 := by rw [first.value]
  refine ⟨?_, second.good, ?_, first.grows.trans second.grows⟩
  · exact (congrArg Prod.fst same).trans second.value
  · show W.Alike (g (f s).1 (f s).2).2 (g (f t).1 (f t).2).2
    rw [same]
    exact second.alike

theorem respects_allocAll {cs : List Cell} (hc : ∀ c ∈ cs, ∀ s, W.Fits s c) :
    W.Respects (fun rs => ∀ r ∈ rs, W.live (.value r)) (·.allocAll cs) := by
  induction cs with
  | nil => exact fun s _ h => ⟨rfl, by simp [Store.allocAll], h, .refl s⟩
  | cons c cs ih =>
    have first := respects_alloc (W := W) (hc c List.mem_cons_self)
    have rest := ih fun c' hc' => hc c' (List.mem_cons_of_mem _ hc')
    refine first.seq (g := fun r s => (r :: (s.allocAll cs).1, (s.allocAll cs).2)) ?_
    intro r hr s t h
    have moved := rest s t h
    refine ⟨by simp [moved.value], ?_, moved.alike, moved.grows⟩
    intro r' hr'
    rcases List.mem_cons.1 hr' with rfl | hr'
    · exact hr
    · exact moved.good r' hr'

/-! ## Scopes -/

theorem Alike.declare (h : W.Alike s t) {e : ScopeId} {r : Ref} (he : W.live (.scope e))
    (hr : W.live (.value r)) (x : String) (isMutable : Bool) :
    W.Alike (s.declare e x r isMutable) (t.declare e x r isMutable) := by
  have grows : s.Extends (s.declare e x r isMutable) := Store.extends_declare e x r isMutable
  by_cases hs : s.Has (.scope e)
  case neg =>
    rwa [Store.declare_of_not_has hs, Store.declare_of_not_has fun ht => hs ((h.has _).1 ht)]
  have ht : t.Has (.scope e) := (h.has _).2 hs
  refine h.of_scopes grows ?still ?cells ?counts ?scope ?parent ?lookup ?held
  case still =>
    intro e' dead
    have other : e' ≠ e := fun eq => dead (eq ▸ he)
    exact ⟨Store.scope_declare_of_ne other .., Store.scope_declare_of_ne other ..⟩
  case cells => exact fun r' => ⟨Store.cell_declare .., Store.cell_declare ..⟩
  case counts => simpa [Store.declare] using h.counts
  case scope =>
    intro e' he' other
    by_cases eq : e' = e
    · subst eq
      rw [Store.scope_declare_self hs, Store.scope_declare_self ht, h.scope e' he' other]
    · rw [Store.scope_declare_of_ne eq, Store.scope_declare_of_ne eq, h.scope e' he' other]
  case parent =>
    intro e' he'
    rw [Store.parent_declare, Store.parent_declare, h.parent e' he']
  case lookup =>
    intro e' he' y hy
    by_cases eq : e' = e
    · subst eq
      rw [Store.scope_declare_self hs, Store.scope_declare_self ht, Dict.find?_insert,
        Dict.find?_insert, h.lookup e' he' y hy]
    · rw [Store.scope_declare_of_ne eq, Store.scope_declare_of_ne eq, h.lookup e' he' y hy]
  case held =>
    intro e' he' q hq
    by_cases eq : e' = e
    · subst eq
      rw [Store.scope_declare_self hs] at hq
      rcases List.mem_append.1 hq with outer | value
      · exact (h.held e' he' q (List.mem_append_left _ outer)).mono grows
      · obtain ⟨b, hb, rfl⟩ := List.mem_map.1 value
        rcases Dict.mem_values_insert hb with rfl | hb
        · exact ⟨hr, trivial⟩
        · exact (h.held e' he' _ (List.mem_append_right _ (List.mem_map_of_mem hb))).mono grows
    · rw [Store.scope_declare_of_ne eq] at hq
      exact (h.held e' he' q hq).mono grows

theorem respects_declare {e : ScopeId} {r : Ref} (he : W.live (.scope e))
    (hr : W.live (.value r)) (x : String) (isMutable : Bool) :
    W.Respects (fun _ => True) fun s => ((), s.declare e x r isMutable) :=
  fun _ _ h => ⟨rfl, trivial, h.declare he hr x isMutable, Store.extends_declare ..⟩

/-- A new scope is not the seam. -/
theorem Alike.newScope (h : W.Alike s t) (parent : Option ScopeId)
    (hp : ∀ p ∈ parent, W.Live s (.scope p)) :
    W.Moved (fun e => W.live (.scope e)) s (s.newScope parent) (t.newScope parent) := by
  obtain ⟨cells, scopes, serials⟩ := h.counts
  have grows : s.Extends (s.newScope parent).2 := Store.extends_newScope parent
  have same : (t.newScope parent).1 = (s.newScope parent).1 := by simp [Store.newScope, scopes]
  have live : W.live (.scope (s.newScope parent).1) := h.fresh _ (Store.not_has_newScope parent)
  have old {e : ScopeId} (he : e ≠ (s.newScope parent).1) :
      (s.newScope parent).2.scope e = s.scope e ∧ (t.newScope parent).2.scope e = t.scope e :=
    ⟨Store.scope_newScope_of_ne he, Store.scope_newScope_of_ne (same ▸ he)⟩
  have new : (t.newScope parent).2.scope (s.newScope parent).1 =
      (s.newScope parent).2.scope (s.newScope parent).1 := by
    rw [Store.scope_newScope_self, ← same, Store.scope_newScope_self]
  refine ⟨same, live, h.of_scopes grows ?still ?cells ?counts ?scope ?parent ?lookup ?held, grows⟩
  case still => exact fun e dead => old fun eq => dead (eq ▸ live)
  case cells => exact fun r => ⟨Store.cell_newScope parent r, Store.cell_newScope parent r⟩
  case counts => simp [Store.newScope, cells, scopes, serials]
  case scope =>
    intro e he other
    by_cases eq : e = (s.newScope parent).1
    · rw [eq, new]
    · rw [(old eq).1, (old eq).2, h.scope e he other]
  case parent =>
    intro e he
    by_cases eq : e = (s.newScope parent).1
    · rw [eq, new]
    · rw [(old eq).1, (old eq).2, h.parent e he]
  case lookup =>
    intro e he x hx
    by_cases eq : e = (s.newScope parent).1
    · rw [eq, new]
    · rw [(old eq).1, (old eq).2, h.lookup e he x hx]
  case held =>
    intro e he q hq
    by_cases eq : e = (s.newScope parent).1
    · rw [eq, Store.scope_newScope_self] at hq
      simp only [Scope.places, Dict.values_empty, List.map_nil, List.append_nil, List.mem_map,
        Option.mem_toList] at hq
      obtain ⟨p, mem, rfl⟩ := hq
      exact (hp p mem).mono grows
    · rw [(old eq).1] at hq
      exact (h.held e he q hq).mono grows

/-- A scope inside one that is apart is apart. -/
theorem Alike.apart_newScope (h : W.Alike s t) {p : ScopeId} (hl : W.Live s (.scope p))
    (ha : W.Apart s p) : W.Apart (s.newScope (some p)).2 (s.newScope (some p)).1 := by
  intro f hf path
  rcases path.cases_head with eq | ⟨next, step, path⟩
  · exact Store.not_has_newScope (some p) (eq ▸ h.seam f hf)
  · rw [Store.scope_newScope_self] at step
    obtain rfl := Option.some.inj step
    exact ha.mono h hl (Store.extends_newScope (some p)) f hf path

/-! ## Changed cells -/

theorem Alike.modify (h : W.Alike s t) {r : Ref} {f : Cell → Cell} (hr : W.live (.value r))
    (hf : ∀ c, W.Fits s c → W.Fits s (f c)) (keeps : Store.Keeps f) :
    W.Alike (s.modify r f) (t.modify r f) := by
  have grows : s.Extends (s.modify r f) := Store.extends_modify keeps r
  refine h.of_cells grows ?still ?scopes ?counts ?cell ?fits
  case still =>
    intro r' dead
    have other : r' ≠ r := fun eq => dead (eq ▸ hr)
    exact ⟨Store.cell_modify_of_ne other f, Store.cell_modify_of_ne other f⟩
  case scopes => exact fun e => ⟨Store.scope_modify r f e, Store.scope_modify r f e⟩
  case counts => cases r <;> simpa [Store.modify] using h.counts
  case cell =>
    intro r' hr'
    by_cases eq : r' = r
    · rw [eq, Store.cell_modify_self keeps.literal, Store.cell_modify_self keeps.literal,
        h.cell r hr]
    · rw [Store.cell_modify_of_ne eq, Store.cell_modify_of_ne eq, h.cell r' hr']
  case fits =>
    intro r' hr'
    by_cases eq : r' = r
    · rw [eq, Store.cell_modify_self keeps.literal]
      exact (hf _ (h.fits r hr)).mono h grows
    · rw [Store.cell_modify_of_ne eq]
      exact (h.fits r' hr').mono h grows

theorem fits_array {items : Array Ref} :
    W.Fits s (.array items) ↔ ∀ r ∈ items.toList, W.live (.value r) := by
  simp [Fits, Cell.places]

theorem fits_map {entries : Dict Ref} :
    W.Fits s (.map entries) ↔ ∀ r ∈ entries.values, W.live (.value r) := by
  simp [Fits, Cell.places]

theorem respects_modifyArray {A : α → Prop} {r : Ref} {f : Array Ref → Array Ref} {a : α}
    (hr : W.live (.value r)) (hf : ∀ items : Array Ref, (∀ x ∈ items.toList, W.live (.value x)) →
      ∀ x ∈ (f items).toList, W.live (.value x)) (ha : A a) :
    W.Respects A fun s => (a, s.modifyArray r f) := by
  intro s t h
  refine ⟨rfl, ha, ?_, ?_⟩
  · refine h.modify hr ?_ (Store.keeps_array f)
    intro c hc
    cases c with
    | array items => exact fits_array.2 (hf items (fits_array.1 hc))
    | _ => exact hc
  · exact Store.extends_modify (Store.keeps_array f) r

theorem respects_modifyMap {A : α → Prop} {r : Ref} {f : Dict Ref → Dict Ref} {a : α}
    (hr : W.live (.value r)) (hf : ∀ entries : Dict Ref,
      (∀ x ∈ entries.values, W.live (.value x)) → ∀ x ∈ (f entries).values, W.live (.value x))
    (ha : A a) : W.Respects A fun s => (a, s.modifyMap r f) := by
  intro s t h
  refine ⟨rfl, ha, ?_, ?_⟩
  · refine h.modify hr ?_ (Store.keeps_map f)
    intro c hc
    cases c with
    | map entries => exact fits_map.2 (hf entries (fits_map.1 hc))
    | _ => exact hc
  · exact Store.extends_modify (Store.keeps_map f) r

end Sharing

end LayerScript
