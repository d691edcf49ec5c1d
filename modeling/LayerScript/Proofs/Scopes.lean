import LayerScript.Machine.Call
import LayerScript.Proofs.Inert

/-!
# Scopes

What may happen to a scope: names that may be assigned to get other values, and an outermost scope
may get new names. A scope is newer than the one around it, so that the chain of scopes from any of
them ends at an outermost one. A new prelude is a scope of constants.
-/

namespace LayerScript

/-- What nested code leaves of a scope. Its names stay, with their mutability, and keep their values
unless they are mutable. Without strictness new names may come to an outermost scope. -/
structure Scope.Spared (strict : Bool) (e e' : Scope) : Prop where
  parent : e'.parent = e.parent
  kept : ∀ x b, e.names.find? x = some b → ∃ b', e'.names.find? x = some b' ∧
    b'.isMutable = b.isMutable ∧ (b.isMutable = false → b'.value = b.value)
  added : ∀ x b', e.names.find? x = none → e'.names.find? x = some b' →
    strict = false ∧ e.parent = none ∧ b'.isMutable = true
  /-- A scope without mutable names stays as it is. -/
  fixed : (strict = false → e.parent ≠ none) →
    (∀ x b, e.names.find? x = some b → b.isMutable = false) → e' = e

namespace Scope.Spared

variable {strict : Bool} {e e' e'' : Scope}

theorem refl (strict : Bool) (e : Scope) : e.Spared strict e where
  parent := rfl
  kept x b h := ⟨b, h, rfl, fun _ => rfl⟩
  added x b' none some := by simp [none] at some
  fixed _ _ := rfl

theorem trans (h : e.Spared strict e') (h' : e'.Spared strict e'') : e.Spared strict e'' where
  parent := h'.parent.trans h.parent
  kept x b found := by
    obtain ⟨b', found', mutable', value'⟩ := h.kept x b found
    obtain ⟨b'', found'', mutable'', value''⟩ := h'.kept x b' found'
    refine ⟨b'', found'', mutable''.trans mutable', fun fixed => ?_⟩
    exact (value'' (mutable'.trans fixed)).trans (value' fixed)
  added x b'' absent found'' := by
    cases found' : e'.names.find? x with
    | none => exact h.parent ▸ h'.added x b'' found' found''
    | some b' =>
      obtain ⟨loose, outer, mutable'⟩ := h.added x b' absent found'
      obtain ⟨_, same, mutable'', -⟩ := h'.kept x b' found'
      obtain rfl := Option.some.inj (same.symm.trans found'')
      exact ⟨loose, outer, mutable''.trans mutable'⟩
  fixed inner all := by
    obtain rfl := h.fixed inner all
    exact h'.fixed inner all

theorem assigned {x : String} {b : Binding} (found : e.names.find? x = some b)
    (may : b.isMutable = true) (strict : Bool) (r : Ref) :
    e.Spared strict { e with names := e.names.insert x ⟨r, true⟩ } where
  parent := rfl
  kept y b' found' := by
    by_cases hy : x = y
    · subst hy
      obtain rfl := Option.some.inj (found.symm.trans found')
      exact ⟨⟨r, true⟩, by simp [Dict.find?_insert], may.symm, fun fixed => by simp [may] at fixed⟩
    · exact ⟨b', by simp [Dict.find?_insert, hy, found'], rfl, fun _ => rfl⟩
  added y b' absent found' := by
    by_cases hy : x = y
    · subst hy
      simp [found] at absent
    · simp [Dict.find?_insert, hy, absent] at found'
  fixed _ all := by simp [all x b found] at may

theorem grown {x : String} (absent : e.names.find? x = none) (outer : e.parent = none) (r : Ref) :
    e.Spared false { e with names := e.names.insert x ⟨r, true⟩ } where
  parent := rfl
  kept y b found := by
    have hy : x ≠ y := by
      rintro rfl
      simp [absent] at found
    exact ⟨b, by simp [Dict.find?_insert, hy, found], rfl, fun _ => rfl⟩
  added y b' absent' found := by
    refine ⟨rfl, outer, ?_⟩
    by_cases hy : x = y
    · simp only [Dict.find?_insert, hy, if_true, Option.some.injEq] at found
      rw [← found]
    · simp [Dict.find?_insert, hy, absent'] at found
  fixed inner _ := absurd outer (inner rfl)

end Scope.Spared

/-! ## Older scopes -/

namespace Store

variable {s t : Store}

/-- The scope around a scope is older, and functions were made in scopes that exist. -/
structure Housed (s : Store) : Prop where
  parent : ∀ e q, s.Has (.scope e) → (s.scope e).parent = some q → q.index < e.index
  home : ∀ r c, s.cell r = .closure c → s.Has (.scope c.home)

theorem Inert.has {α : Type} {f : Effect α} (h : Inert f) {e : ScopeId} :
    (f s).2.Has (.scope e) ↔ s.Has (.scope e) := by
  simp only [Has, h.scopes]

theorem Inert.scope {α : Type} {f : Effect α} (h : Inert f) (e : ScopeId) :
    (f s).2.scope e = s.scope e := by
  simp only [Store.scope, h.scopes]

theorem housed_empty : empty.Housed where
  parent e q he := absurd he (Nat.not_lt_zero _)
  home r c hc := by
    cases r with
    | scalar serial value => cases value <;> cases hc
    | cell index => cases hc

namespace Housed

theorem inert {α : Type} {f : Effect α} (h : s.Housed) (hf : Inert f) : (f s).2.Housed where
  parent e q he hq := h.parent e q (hf.has.1 he) (hf.scope e ▸ hq)
  home r c hc := hf.has.2 (h.home r c (hf.code s r c hc))

theorem alloc {c : Cell} (h : s.Housed) (home : ∀ k, c = .closure k → s.Has (.scope k.home)) :
    (s.alloc c).2.Housed where
  parent e q he hq := by
    have he : s.Has (.scope e) := by
      unfold Store.alloc at he
      split at he <;> exact he
    rw [scope_alloc] at hq
    exact h.parent e q he hq
  home r k hk := by
    apply has_alloc
    by_cases new : r = (s.alloc c).1
    · rw [new, cell_alloc_self] at hk
      exact home k hk
    · rw [cell_alloc_of_ne new] at hk
      exact h.home r k hk

theorem newScope {parent : Option ScopeId} (h : s.Housed)
    (hp : ∀ q ∈ parent, s.Has (.scope q)) : (s.newScope parent).2.Housed where
  parent e q he hq := by
    by_cases new : e = (s.newScope parent).1
    · rw [new, scope_newScope_self] at hq
      have older : q.index < s.scopes.size := hp q hq
      rw [new]
      exact older
    · rw [scope_newScope_of_ne new] at hq
      have he : s.Has (.scope e) := by
        have bound : e.index < s.scopes.size + 1 := by simpa [Has, Store.newScope] using he
        have ne : e.index ≠ s.scopes.size := fun eq => new (by cases e; exact congrArg _ eq)
        simp only [Has]
        omega
      exact h.parent e q he hq
  home r c hc := by
    rw [cell_newScope] at hc
    exact has_newScope (h.home r c hc)

theorem declare (h : s.Housed) (e : ScopeId) (x : String) (r : Ref) (isMutable : Bool) :
    (s.declare e x r isMutable).Housed where
  parent e' q he hq := by
    rw [has_declare] at he
    rw [parent_declare] at hq
    exact h.parent e' q he hq
  home r' c hc := by
    rw [cell_declare] at hc
    exact has_declare.2 (h.home r' c hc)

end Housed

/-- A step of the store that changes no scope but `e`, and makes no functions. -/
structure DeclaresIn (e : ScopeId) (s t : Store) : Prop where
  has : ∀ e', s.Has (.scope e') → t.Has (.scope e')
  same : ∀ e', e' ≠ e → t.scope e' = s.scope e'
  housed : s.Housed → t.Housed

namespace DeclaresIn

variable {u : Store} {e : ScopeId}

theorem refl (e : ScopeId) (s : Store) : DeclaresIn e s s :=
  ⟨fun _ h => h, fun _ _ => rfl, fun h => h⟩

theorem trans (h : DeclaresIn e s t) (h' : DeclaresIn e t u) : DeclaresIn e s u where
  has e' he := h'.has e' (h.has e' he)
  same e' ne := (h'.same e' ne).trans (h.same e' ne)
  housed hs := h'.housed (h.housed hs)

theorem declare (e : ScopeId) (s : Store) (x : String) (r : Ref) (isMutable : Bool) :
    DeclaresIn e s (s.declare e x r isMutable) where
  has _ h := has_declare.2 h
  same _ ne := scope_declare_of_ne ne ..
  housed h := h.declare ..

theorem inert {α : Type} {f : Effect α} (hf : Inert f) (e : ScopeId) (s : Store) :
    DeclaresIn e s (f s).2 where
  has _ h := hf.has.2 h
  same e' _ := hf.scope e'
  housed h := h.inert hf

theorem declareAll (e : ScopeId) (s : Store) (bound : List (String × Ref)) :
    DeclaresIn e s (s.declareAll e bound) := by
  induction bound generalizing s with
  | nil => exact .refl e s
  | cons b bound ih => exact (declare e s b.1 b.2 true).trans (ih _)

theorem declareParams (e : ScopeId) (s : Store) (names : List String) (args : List Ref) :
    DeclaresIn e s (s.declareParams e names args) := by
  induction names generalizing s args with
  | nil => exact .refl e s
  | cons name names ih =>
    cases args with
    | nil =>
      have nothing : Inert (·.alloc .none) := inert_alloc (by simp [Cell.Codeless])
      exact (inert nothing e s).trans ((declare e _ name _ true).trans (ih _ []))
    | cons r args => exact (declare e s name r true).trans (ih _ args)

end DeclaresIn

/-! ## Assignment -/

/-- In older and older scopes the chain ends at a scope that has none around it. -/
theorem Housed.outermost (h : s.Housed) {count : Nat} {e : ScopeId} (bound : e.index < count)
    (he : s.Has (.scope e)) : ∃ o ∈ s.chainWithin count e,
      (∀ d, (s.chainWithin count e).getLastD d = o) ∧ (s.scope o).parent = none := by
  induction count generalizing e with
  | zero => omega
  | succ count ih =>
    unfold chainWithin
    cases hp : (s.scope e).parent with
    | none => exact ⟨e, List.mem_singleton.2 rfl, fun _ => rfl, hp⟩
    | some q =>
      have older : q.index < e.index := h.parent e q he hp
      have hq : s.Has (.scope q) := by
        simp only [Has] at he ⊢
        omega
      obtain ⟨o, mem, last, outer⟩ := ih (by omega) hq
      refine ⟨o, List.mem_cons_of_mem _ mem, fun d => ?_, outer⟩
      rw [List.getLastD_cons]
      exact last e

theorem find?_of_declaration? {e owner : ScopeId} {x : String} {b : Binding}
    (h : s.declaration? e x = some (owner, b)) : (s.scope owner).names.find? x = some b := by
  rw [declaration?, nearestWithin?_eq] at h
  obtain ⟨e', -, found⟩ := List.exists_of_findSome?_eq_some h
  obtain ⟨b', same, eq⟩ := Option.map_eq_some_iff.1 found
  obtain ⟨rfl, rfl⟩ := Prod.mk.inj eq
  exact same

theorem find?_of_not_declared {e e' : ScopeId} {x : String} (h : s.declaration? e x = none)
    (mem : e' ∈ s.chain e) : (s.scope e').names.find? x = none := by
  rw [declaration?, nearestWithin?_eq, List.findSome?_eq_none_iff] at h
  simpa using h e' mem

/-- An assignment to a name spares all scopes. -/
theorem spared_assign {e owner : ScopeId} {x : String} {strict : Bool}
    (h : s.assignee e x strict = .ok owner)
    (housed : strict = true ∨ (s.Housed ∧ s.Has (.scope e))) (r : Ref) {e' : ScopeId}
    (he : s.Has (.scope e')) :
    (s.scope e').Spared strict ((s.declare owner x r true).scope e') := by
  by_cases own : e' = owner
  case neg =>
    rw [scope_declare_of_ne own]
    exact .refl ..
  subst own
  rw [scope_declare_self he]
  unfold assignee at h
  cases declared : s.declaration? e x with
  | some found =>
    obtain ⟨owner, b⟩ := found
    rw [declared] at h
    by_cases may : b.isMutable
    · simp only [may, if_true, Except.ok.injEq] at h
      subst h
      exact .assigned (find?_of_declaration? declared) may strict r
    · simp [may] at h
  | none =>
    rw [declared] at h
    cases strict
    · simp only [Bool.false_eq_true, if_false, Except.ok.injEq] at h
      subst h
      obtain ⟨housed, made⟩ := housed.resolve_left Bool.false_ne_true
      obtain ⟨o, mem, last, outer⟩ := housed.outermost (Nat.lt_succ_self _) made
      have here : s.outermost e = o := last e
      rw [here]
      exact .grown (find?_of_not_declared declared mem) outer r
    · simp at h

end Store

/-! ## New preludes -/

namespace Store

variable {s : Store}

theorem inert_allocNatives (natives : List Native) : Inert (·.allocNatives natives) := by
  induction natives with
  | nil => exact inert_keep []
  | cons native natives ih =>
    have first : Inert (·.alloc (.native native)) := inert_alloc (by simp [Cell.Codeless])
    exact first.inTurn (g := fun r s => ((native.name, r) :: (s.allocNatives natives).1,
      (s.allocNatives natives).2)) fun r => ih.inTurn
        (g := fun rest s => ((native.name, r) :: rest, s)) fun rest => inert_keep _

theorem inert_allocModule (path : List String) (shared : List (String × Ref))
    (natives : List Native) : Inert (·.allocModule path shared natives) :=
  (inert_allocNatives natives).inTurn
    (g := fun exports s => s.alloc (.module path (.ofList (shared ++ exports))))
    fun exports => inert_alloc (by simp [Cell.Codeless])

theorem inert_preludeValues : Inert preludeValues := by
  refine (inert_alloc (by simp [Cell.Codeless])).inTurn fun len => ?_
  refine (inert_allocModule ..).inTurn fun console => (inert_allocModule ..).inTurn fun text => ?_
  refine (inert_allocModule ..).inTurn fun collections => ?_
  refine (inert_allocModule ..).inTurn fun math => (inert_allocModule ..).inTurn fun json => ?_
  refine (inert_alloc (by simp [Cell.Codeless])).inTurn fun std => ?_
  refine (inert_alloc (by simp [Cell.Codeless])).inTurn fun typeOf => ?_
  exact (inert_alloc (by simp [Cell.Codeless])).inTurn fun fail => inert_keep _

theorem DeclaresIn.declareConstants (e : ScopeId) (s : Store) (bound : List (String × Ref)) :
    DeclaresIn e s (s.declareConstants e bound) := by
  induction bound generalizing s with
  | nil => exact .refl e s
  | cons b bound ih => exact (declare e s b.1 b.2 false).trans (ih _)

/-- No name of the scope is mutable. -/
def Constant (s : Store) (e : ScopeId) : Prop :=
  ∀ x b, (s.scope e).names.find? x = some b → b.isMutable = false

theorem Constant.declareConstants {e : ScopeId} (h : s.Constant e) (he : s.Has (.scope e))
    (bound : List (String × Ref)) : (s.declareConstants e bound).Constant e := by
  induction bound generalizing s with
  | nil => exact h
  | cons b bound ih =>
    refine ih (fun x b' found => ?_) (has_declare.2 he)
    rw [scope_declare_self he, Dict.find?_insert] at found
    split at found
    · obtain rfl := Option.some.inj found
      rfl
    · exact h x b' found

/-- A new prelude is a scope of constants. -/
theorem newPrelude_spec (s : Store) : (s.Housed → s.newPrelude.2.Housed) ∧
    s.newPrelude.2.Has (.scope s.newPrelude.1) ∧ s.newPrelude.2.Constant s.newPrelude.1 := by
  rw [newPrelude_eq]
  simp only [Effect.inTurn, Effect.keep]
  generalize ht : preludeValues s = values
  have housed (h : s.Housed) : values.2.Housed := ht ▸ h.inert inert_preludeValues
  have declared : DeclaresIn (values.2.newScope none).1 (values.2.newScope none).2 _ :=
    .declareConstants _ _ values.1
  have made := has_newScope_self (s := values.2) none
  refine ⟨fun h => declared.housed ((housed h).newScope (by simp)), declared.has _ made, ?_⟩
  refine Constant.declareConstants (fun x b found => ?_) made values.1
  rw [scope_newScope_self] at found
  simp [Dict.find?_eq, valueOf?] at found

end Store

end LayerScript
