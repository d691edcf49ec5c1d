import LayerScript.Native.Prelude
import LayerScript.Proofs.Entries
import LayerScript.Proofs.Places

/-!
# Nothing dangles

In an intact store places refer to places that have been made. New values, scopes and declarations
keep a store intact when what they refer to has been made, and so does a new prelude.
-/

namespace LayerScript

namespace Store

variable {s : Store} {α β : Type}

theorem intact_empty : empty.Intact := by
  intro p q hq
  rw [held_eq_nil] at hq
  · exact absurd hq List.not_mem_nil
  · rcases p with (_ | _) | _ <;> simp [empty, Has]

theorem Intact.alloc (h : s.Intact) {c : Cell} (hc : ∀ q ∈ c.places, s.Has q) :
    (s.alloc c).2.Intact := by
  intro p q hq
  apply has_alloc
  cases p with
  | value r =>
    by_cases new : r = (s.alloc c).1
    · rw [new, held, cell_alloc_self] at hq
      exact hc q hq
    · rw [held, cell_alloc_of_ne new] at hq
      exact h (.value r) q hq
  | scope e =>
    rw [held, scope_alloc] at hq
    exact h (.scope e) q hq

theorem Intact.newScope (h : s.Intact) {parent : Option ScopeId}
    (hp : ∀ p ∈ parent, s.Has (.scope p)) : (s.newScope parent).2.Intact := by
  intro p q hq
  apply has_newScope
  cases p with
  | value r =>
    rw [held, cell_newScope] at hq
    exact h (.value r) q hq
  | scope e =>
    by_cases new : e = (s.newScope parent).1
    · rw [new, held, scope_newScope_self] at hq
      simp only [Scope.places, Dict.values_empty, List.map_nil, List.append_nil, List.mem_map,
        Option.mem_toList] at hq
      obtain ⟨p, mem, rfl⟩ := hq
      exact hp p mem
    · rw [held, scope_newScope_of_ne new] at hq
      exact h (.scope e) q hq

theorem Intact.declare (h : s.Intact) {r : Ref} (hr : s.Has (.value r)) (e : ScopeId) (x : String)
    (isMutable : Bool) : (s.declare e x r isMutable).Intact := by
  by_cases he : s.Has (.scope e)
  case neg => rwa [declare_of_not_has he]
  intro p q hq
  rw [has_declare]
  cases p with
  | value r' =>
    rw [held, cell_declare] at hq
    exact h (.value r') q hq
  | scope e' =>
    by_cases eq : e' = e
    · subst eq
      rw [held, scope_declare_self he] at hq
      rcases List.mem_append.1 hq with outer | value
      · exact h (.scope e') q (List.mem_append_left _ outer)
      · obtain ⟨b, hb, rfl⟩ := List.mem_map.1 value
        rcases Dict.mem_values_insert hb with rfl | hb
        · exact hr
        · exact h (.scope e') _ (List.mem_append_right _ (List.mem_map_of_mem hb))
    · rw [held, scope_declare_of_ne eq] at hq
      exact h (.scope e') q hq

/-! ## Effects in turn -/

/-- One effect and then another. -/
def Effect.inTurn (f : Effect α) (g : α → Effect β) : Effect β :=
  fun s => g (f s).1 (f s).2

/-- An intact store that has some places. -/
structure Ready (s : Store) (known : List Place) : Prop where
  intact : s.Intact
  made : ∀ p ∈ known, s.Has p

/-- A store with one value, in which nothing is. -/
theorem ready_alloc {c : Cell} (hc : c.places = []) :
    (empty.alloc c).2.Ready [.value (empty.alloc c).1] where
  intact := intact_empty.alloc (by simp [hc])
  made p hp := by
    obtain rfl := List.mem_singleton.1 hp
    exact has_alloc_self c

/-- An effect that keeps stores ready and makes the places of its result. -/
def Readies (known : List Place) (places : α → List Place) (f : Effect α) : Prop :=
  ∀ s : Store, s.Ready known → (f s).2.Ready (places (f s).1 ++ known)

theorem Ready.step {t : Store} {known more : List Place} (h : s.Ready known) (hs : s.Extends t)
    (intact : t.Intact) (made : ∀ p ∈ more, t.Has p) : t.Ready (more ++ known) := by
  refine ⟨intact, fun p hp => ?_⟩
  rcases List.mem_append.1 hp with hp | hp
  · exact made p hp
  · exact hs.has p (h.made p hp)

theorem Readies.inTurn {known : List Place} {places : α → List Place} {places' : β → List Place}
    {f : Effect α} {g : α → Effect β} (hf : Readies known places f)
    (hg : ∀ a, Readies (places a ++ known) places' (g a)) :
    Readies known places' (f.inTurn g) := by
  intro s h
  obtain ⟨intact, made⟩ := hg _ _ (hf s h)
  refine ⟨intact, fun p hp => made p ?_⟩
  rcases List.mem_append.1 hp with hp | hp
  · exact List.mem_append_left _ hp
  · exact List.mem_append_right _ (List.mem_append_right _ hp)

theorem Readies.keep {known : List Place} {places : α → List Place} {a : α}
    (ha : ∀ p ∈ places a, p ∈ known) : Readies known places (.keep a) :=
  fun s h => h.step (.refl s) h.intact fun p hp => h.made p (ha p hp)

theorem readies_alloc {known : List Place} {c : Cell} (hc : ∀ q ∈ c.places, q ∈ known) :
    Readies known (fun r => [.value r]) (·.alloc c) := by
  intro s h
  refine h.step (extends_alloc c) (h.intact.alloc fun q hq => h.made q (hc q hq)) ?_
  simpa using has_alloc_self c

theorem readies_newScope {known : List Place} {parent : Option ScopeId}
    (hp : ∀ p ∈ parent, .scope p ∈ known) :
    Readies known (fun e => [.scope e]) (·.newScope parent) := by
  intro s h
  refine h.step (extends_newScope parent) (h.intact.newScope fun p hq => h.made _ (hp p hq)) ?_
  simpa using has_newScope_self parent

theorem readies_declare {known : List Place} {r : Ref} (hr : .value r ∈ known) (e : ScopeId)
    (x : String) (isMutable : Bool) :
    Readies known (fun _ => []) fun s => ((), s.declare e x r isMutable) := by
  intro s h
  exact h.step (extends_declare ..) (h.intact.declare (h.made _ hr) e x isMutable) (by simp)

/-! ## New preludes -/

theorem readies_module {known : List Place} (path : List String) {exports : List (String × Ref)}
    (he : ∀ e ∈ exports, .value e.2 ∈ known) :
    Readies known (fun r => [.value r]) (·.alloc (.module path (.ofList exports))) := by
  apply readies_alloc
  intro q hq
  obtain ⟨r, hr, rfl⟩ := List.mem_map.1 hq
  obtain ⟨e, mem, rfl⟩ := List.mem_map.1 (Dict.mem_values_ofList hr)
  exact he e mem

theorem readies_allocNatives {known : List Place} (natives : List Native) :
    Readies known (fun es => es.map fun e => .value e.2) (·.allocNatives natives) := by
  induction natives generalizing known with
  | nil => exact Readies.keep (by simp)
  | cons native natives ih =>
    have first : Readies known (fun r => [.value r]) (·.alloc (.native native)) :=
      readies_alloc (by simp [Cell.places])
    refine first.inTurn
      (g := fun r s => ((native.name, r) :: (s.allocNatives natives).1, (s.allocNatives natives).2))
      fun r s h => ?_
    have rest := ih s h
    refine ⟨rest.intact, fun p hp => rest.made p ?_⟩
    rcases List.mem_cons.1 hp with rfl | hp
    · exact List.mem_append_right _ List.mem_cons_self
    · rcases List.mem_append.1 hp with hp | hp
      · exact List.mem_append_left _ hp
      · exact List.mem_append_right _ hp

theorem readies_allocModule {known : List Place} (path : List String)
    {shared : List (String × Ref)} (hs : ∀ e ∈ shared, .value e.2 ∈ known)
    (natives : List Native) :
    Readies known (fun r => [.value r]) (·.allocModule path shared natives) := by
  refine (readies_allocNatives natives).inTurn
    (g := fun es s => s.alloc (.module path (.ofList (shared ++ es)))) fun es => ?_
  apply readies_module
  intro e he
  rcases List.mem_append.1 he with he | he
  · exact List.mem_append_right _ (hs e he)
  · exact List.mem_append_left _ (List.mem_map_of_mem he)

/-- The values of a new prelude, under their names. -/
def preludeValues : Effect (List (String × Ref)) :=
  Effect.inTurn (·.alloc (.native (.plain .len))) fun len =>
  Effect.inTurn (·.allocModule ["console"] [] (Level.all.map .console)) fun console =>
  Effect.inTurn (·.allocModule ["std", "string"] [("len", len)] textNatives) fun text =>
  Effect.inTurn (·.allocModule ["std", "collections"] [("len", len)] collectionNatives)
    fun collections =>
  Effect.inTurn (·.allocModule ["std", "math"] [] mathNatives) fun math =>
  Effect.inTurn (·.allocModule ["std", "json"] [] documentNatives) fun json =>
  Effect.inTurn (·.alloc (.module ["std"] (.ofList
    [("string", text), ("collections", collections), ("math", math), ("json", json)]))) fun std =>
  Effect.inTurn (·.alloc (.native (.plain .typeOf))) fun typeOf =>
  Effect.inTurn (·.alloc (.native (.plain .fail))) fun fail =>
  .keep [("len", len), ("type_of", typeOf), ("fail", fail), ("console", console), ("std", std)]

def declareConstants (s : Store) (e : ScopeId) (bound : List (String × Ref)) : Store :=
  bound.foldl (fun s b => s.declare e b.1 b.2 false) s

/-- A new prelude is a scope of constants for new values. -/
theorem newPrelude_eq : newPrelude =
    Effect.inTurn preludeValues fun bound =>
    Effect.inTurn (·.newScope none) fun scope =>
    Effect.inTurn (fun s => ((), s.declareConstants scope bound)) fun _ =>
    .keep scope :=
  rfl

theorem readies_preludeValues (known : List Place) :
    Readies known (fun bound => bound.map fun b => .value b.2) preludeValues := by
  refine (readies_alloc (by simp [Cell.places])).inTurn fun len => ?_
  refine (readies_allocModule _ (by simp) _).inTurn fun console => ?_
  refine (readies_allocModule _ (by simp) _).inTurn fun text => ?_
  refine (readies_allocModule _ (by simp) _).inTurn fun collections => ?_
  refine (readies_allocModule _ (by simp) _).inTurn fun math => ?_
  refine (readies_allocModule _ (by simp) _).inTurn fun json => ?_
  refine (readies_module _ (by simp)).inTurn fun std => ?_
  refine (readies_alloc (by simp [Cell.places])).inTurn fun typeOf => ?_
  refine (readies_alloc (by simp [Cell.places])).inTurn fun fail => ?_
  exact Readies.keep (by simp)

theorem readies_declareConstants {known : List Place} {bound : List (String × Ref)}
    (hb : ∀ b ∈ bound, .value b.2 ∈ known) (e : ScopeId) :
    Readies known (fun _ => []) fun s => ((), s.declareConstants e bound) := by
  induction bound with
  | nil => exact Readies.keep (by simp)
  | cons b bound ih =>
    rw [List.forall_mem_cons] at hb
    exact (readies_declare hb.1 e b.1 false).inTurn
      (g := fun _ s => ((), s.declareConstants e bound)) fun _ => ih hb.2

theorem readies_newPrelude (known : List Place) :
    Readies known (fun e => [.scope e]) newPrelude := by
  rw [newPrelude_eq]
  refine (readies_preludeValues known).inTurn fun bound => ?_
  refine (readies_newScope (by simp)).inTurn fun scope => ?_
  have declared : ∀ b ∈ bound, .value b.2 ∈
      [.scope scope] ++ ((bound.map fun b => Place.value b.2) ++ known) := fun b mem =>
    List.mem_append_right _ (List.mem_append_left _ (List.mem_map_of_mem mem))
  exact (readies_declareConstants declared scope).inTurn fun _ => Readies.keep (by simp)

end Store

end LayerScript
