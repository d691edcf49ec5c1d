import LayerScript.Machine.Eval
import LayerScript.Proofs.Scopes

/-!
# Names and their declarations

Scopes form trees, and many scopes may lie in one. Looked at from a scope, a name leads to the
nearest scope outwards that declares it. An assignment changes the declaration there, for all scopes
from which the name leads to it, and nothing else.
-/

namespace LayerScript

namespace Store

variable {s t : Store} {x y : String} {e owner : ScopeId} {found : Option Binding}

/-- The scopes are trees: the one around a scope is older. -/
def Forest (s : Store) : Prop :=
  ∀ e q, (s.scope e).parent = some q → q.index < e.index

/-- Whatever scripts have made is a forest. -/
theorem Housed.forest (h : s.Housed) : s.Forest := by
  intro e q inside
  by_cases he : s.Has (.scope e)
  · exact h.parent e q he inside
  · have nothing : s.scope e = default := by
      simp only [Has, Nat.not_lt] at he
      simp [scope, he]
    rw [nothing] at inside
    cases inside

/-- Where a name leads from a scope outwards: to the nearest scope that declares it, or to the
outermost one if none does. -/
inductive Resolves (s : Store) (x : String) : ScopeId → ScopeId → Option Binding → Prop
  | declared {e : ScopeId} {b : Binding} (here : (s.scope e).names.find? x = some b) :
    Resolves s x e e (some b)
  | outermost {e : ScopeId} (absent : (s.scope e).names.find? x = none)
    (last : (s.scope e).parent = none) : Resolves s x e e none
  | outwards {e parent owner : ScopeId} {found : Option Binding}
    (absent : (s.scope e).names.find? x = none) (inside : (s.scope e).parent = some parent)
    (more : Resolves s x parent owner found) : Resolves s x e owner found

theorem Resolves.unique {owner' : ScopeId} {found' : Option Binding}
    (h : s.Resolves x e owner found) (h' : s.Resolves x e owner' found') :
    owner = owner' ∧ found = found' := by
  induction h with
  | declared here =>
    cases h' with
    | declared here' => exact ⟨rfl, here.symm.trans here'⟩
    | outermost absent | outwards absent => cases here.symm.trans absent
  | outermost absent last =>
    cases h' with
    | declared here => cases here.symm.trans absent
    | outermost => exact ⟨rfl, rfl⟩
    | outwards _ inside => cases inside.symm.trans last
  | outwards absent inside _ ih =>
    cases h' with
    | declared here => cases here.symm.trans absent
    | outermost _ last => cases inside.symm.trans last
    | outwards _ inside' more =>
      cases inside.symm.trans inside'
      exact ih more

/-- What is found is the declaration of the scope that the name leads to. -/
theorem Resolves.at_owner (h : s.Resolves x e owner found) :
    (s.scope owner).names.find? x = found ∧ (found = none → (s.scope owner).parent = none) := by
  induction h with
  | declared here => exact ⟨here, nofun⟩
  | outermost absent last => exact ⟨absent, fun _ => last⟩
  | outwards _ _ _ ih => exact ih

theorem Resolves.has (forest : s.Forest) (he : s.Has (.scope e)) (h : s.Resolves x e owner found) :
    s.Has (.scope owner) := by
  induction h with
  | declared | outermost => exact he
  | outwards _ inside _ ih => exact ih (Nat.lt_trans (forest _ _ inside) he)

/-! ## The search for a declaration -/

theorem Forest.resolves_within (forest : s.Forest) (x : String) {count : Nat}
    (bound : e.index < count) (last : ScopeId) :
    s.Resolves x e
      (((s.nearestWithin? (·.names.find? x) count e).map Prod.fst).getD
        ((s.chainWithin count e).getLastD last))
      ((s.nearestWithin? (·.names.find? x) count e).map Prod.snd) := by
  induction count generalizing e last with
  | zero => omega
  | succ count ih =>
    cases here : (s.scope e).names.find? x with
    | some b =>
      simp only [nearestWithin?, here]
      exact .declared here
    | none =>
      cases inside : (s.scope e).parent with
      | none =>
        simp only [nearestWithin?, chainWithin, here, inside]
        exact .outermost here inside
      | some parent =>
        have older : parent.index < e.index := forest e parent inside
        simp only [nearestWithin?, chainWithin, here, inside, List.getLastD_cons]
        exact .outwards here inside (ih (Nat.lt_of_lt_of_le older (Nat.lt_succ_iff.1 bound)) e)

theorem Forest.exists_resolves (forest : s.Forest) (e : ScopeId) (x : String) :
    ∃ owner found, s.Resolves x e owner found :=
  ⟨_, _, forest.resolves_within x (Nat.lt_succ_self e.index) e⟩

theorem Resolves.declaration? (forest : s.Forest) (h : s.Resolves x e owner found) :
    s.declaration? e x = found.map (owner, ·) ∧ (found = none → s.outermost e = owner) := by
  have within := forest.resolves_within x (Nat.lt_succ_self e.index) e
  obtain ⟨rfl, rfl⟩ := h.unique within
  rw [Store.declaration?]
  cases s.nearestWithin? (·.names.find? x) (e.index + 1) e with
  | some nearest => exact ⟨rfl, fun absent => absurd absent (Option.some_ne_none _)⟩
  | none => exact ⟨rfl, fun _ => rfl⟩

theorem Resolves.lookup (forest : s.Forest) (h : s.Resolves x e owner found) :
    s.lookup e x = found.elim (.error (.undefined x)) (.ok ·.value) := by
  rw [Store.lookup, (h.declaration? forest).1]
  cases found <;> rfl

theorem Resolves.assignee (forest : s.Forest) (h : s.Resolves x e owner found) (refuse : Bool) :
    s.assignee e x refuse =
      found.elim (if refuse then .error (.undeclared x) else .ok owner)
        fun b => if b.isMutable then .ok owner else .error (.immutable x) := by
  obtain ⟨declared, last⟩ := h.declaration? forest
  rw [Store.assignee, declared]
  cases found with
  | some b => rfl
  | none => rw [last rfl]; rfl

/-! ## What a declaration changes -/

theorem Forest.declare (forest : s.Forest) (owner : ScopeId) (x : String) (v : Ref)
    (isMutable : Bool) : (s.declare owner x v isMutable).Forest := by
  intro e q inside
  rw [parent_declare] at inside
  exact forest e q inside

theorem find?_declare (made : s.Has (.scope owner)) (x : String) (v : Ref) (isMutable : Bool)
    (e : ScopeId) (y : String) :
    ((s.declare owner x v isMutable).scope e).names.find? y =
      if e = owner ∧ x = y then some ⟨v, isMutable⟩ else (s.scope e).names.find? y := by
  by_cases own : e = owner
  · subst own
    rw [scope_declare_self made, Dict.find?_insert]
    simp
  · rw [scope_declare_of_ne own, if_neg fun both => own both.1]

/-- Other names lead where they have led before. -/
theorem Resolves.declare_of_ne (made : s.Has (.scope owner)) (ne : x ≠ y) (v : Ref)
    (isMutable : Bool) {o : ScopeId} (h : s.Resolves y e o found) :
    (s.declare owner x v isMutable).Resolves y e o found := by
  have same (e : ScopeId) : ((s.declare owner x v isMutable).scope e).names.find? y =
      (s.scope e).names.find? y := by
    rw [find?_declare made, if_neg fun both => ne both.2]
  induction h with
  | declared here => exact .declared ((same _).trans here)
  | outermost absent last =>
    exact .outermost ((same _).trans absent) ((parent_declare ..).trans last)
  | outwards absent inside _ ih =>
    exact .outwards ((same _).trans absent) ((parent_declare ..).trans inside) ih

/-- The name itself leads where it has led before, and finds the new declaration there. It is not
found on the way, since only the scope that it leads to declares it. -/
theorem Resolves.declare {e' o : ScopeId} {found' : Option Binding}
    (h : s.Resolves x e' o found') (target : s.Resolves x e owner found)
    (made : s.Has (.scope owner)) (v : Ref) (isMutable : Bool) :
    (s.declare owner x v isMutable).Resolves x e' o
      (if o = owner then some ⟨v, isMutable⟩ else found') := by
  have own : ((s.declare owner x v isMutable).scope owner).names.find? x =
      some ⟨v, isMutable⟩ := by
    rw [find?_declare made, if_pos ⟨rfl, rfl⟩]
  have other {e : ScopeId} (ne : e ≠ owner) :
      ((s.declare owner x v isMutable).scope e).names.find? x = (s.scope e).names.find? x := by
    rw [find?_declare made, if_neg fun both => ne both.1]
  induction h with
  | @declared e b here =>
    split
    · next eq =>
      subst eq
      exact .declared own
    · next ne => exact .declared ((other ne).trans here)
  | @outermost e absent last =>
    split
    · next eq =>
      subst eq
      exact .declared own
    · next ne => exact .outermost ((other ne).trans absent) ((parent_declare ..).trans last)
  | @outwards e parent _ _ absent inside _ ih =>
    have ne : e ≠ owner := by
      rintro rfl
      obtain ⟨here, last⟩ := target.at_owner
      cases inside.symm.trans (last (here.symm.trans absent))
    exact .outwards ((other ne).trans absent) ((parent_declare ..).trans inside) ih

/-! ## Assignments -/

/-- What comes of assigning to a name that leads to the scope `owner`: one binding of this scope is
made or gets another value. It is read from all scopes from which the name leads there, and nothing
else is read differently. -/
structure Rebound (s : Store) (x : String) (v : Ref) (owner : ScopeId) (t : Store) : Prop where
  cells : t.cells = s.cells
  serials : t.serials = s.serials
  scopes : t.scopes.size = s.scopes.size
  others : ∀ e, e ≠ owner → t.scope e = s.scope e
  parent : (t.scope owner).parent = (s.scope owner).parent
  bound : (t.scope owner).names.find? x = some ⟨v, true⟩
  kept : ∀ y, y ≠ x → (t.scope owner).names.find? y = (s.scope owner).names.find? y
  keys : (t.scope owner).names.keys =
    if x ∈ (s.scope owner).names.keys then (s.scope owner).names.keys
    else (s.scope owner).names.keys ++ [x]
  leads : ∀ e, (∃ found, s.Resolves x e owner found) ↔ t.Resolves x e owner (some ⟨v, true⟩)
  seen : ∀ e, (∃ found, s.Resolves x e owner found) → t.lookup e x = .ok v
  unseen : ∀ e, (¬ ∃ found, s.Resolves x e owner found) → t.lookup e x = s.lookup e x
  otherNames : ∀ y, y ≠ x → ∀ e, t.lookup e y = s.lookup e y

theorem rebound_declare (forest : s.Forest) (he : s.Has (.scope e))
    (h : s.Resolves x e owner found) (v : Ref) :
    s.Rebound x v owner (s.declare owner x v true) := by
  have made := h.has forest he
  have forest' := forest.declare owner x v true
  have leads (e' : ScopeId) (there : ∃ found, s.Resolves x e' owner found) :
      (s.declare owner x v true).Resolves x e' owner (some ⟨v, true⟩) := by
    obtain ⟨found', there⟩ := there
    simpa using there.declare h made v true
  have elsewhere (e' o : ScopeId) (found' : Option Binding) (there : s.Resolves x e' o found')
      (ne : o ≠ owner) : (s.declare owner x v true).Resolves x e' o found' := by
    simpa [ne] using there.declare h made v true
  constructor
  case cells | serials => rfl
  case scopes => exact Array.size_modify
  case others => exact fun e' ne => scope_declare_of_ne ne x v true
  case parent => exact parent_declare owner owner x v true
  case bound => rw [find?_declare made, if_pos ⟨rfl, rfl⟩]
  case kept =>
    intro y ne
    rw [find?_declare made, if_neg fun both => ne both.2.symm]
  case keys =>
    rw [scope_declare_self made]
    exact Dict.keys_insert ..
  case leads =>
    refine fun e' => ⟨leads e', fun there => ?_⟩
    obtain ⟨o, found', before⟩ := forest.exists_resolves e' x
    by_cases same : o = owner
    · exact ⟨found', same ▸ before⟩
    · exact absurd ((elsewhere e' o found' before same).unique there).1 same
  case seen => exact fun e' there => (leads e' there).lookup forest'
  case unseen =>
    intro e' other
    obtain ⟨o, found', before⟩ := forest.exists_resolves e' x
    have ne : o ≠ owner := fun same => other ⟨found', same ▸ before⟩
    rw [(elsewhere e' o found' before ne).lookup forest', before.lookup forest]
  case otherNames =>
    intro y ne e'
    obtain ⟨o, found', before⟩ := forest.exists_resolves e' y
    rw [(before.declare_of_ne made ne.symm v true).lookup forest', before.lookup forest]

theorem assign_ok_iff (forest : s.Forest) (h : s.Resolves x e owner found) (v : Ref)
    (refuse : Bool) : s.assign e x v refuse = .ok t ↔
      (∀ b ∈ found, b.isMutable = true) ∧ (found = none → refuse = false) ∧
        s.declare owner x v true = t := by
  rw [Store.assign, h.assignee forest]
  cases found with
  | none => cases refuse <;> simp [Except.map]
  | some b => cases mutability : b.isMutable <;> simp [Except.map, mutability]

theorem assign_error_iff (forest : s.Forest) (h : s.Resolves x e owner found) (v : Ref)
    (refuse : Bool) (fault : Fault) : s.assign e x v refuse = .error fault ↔
      (fault = .immutable x ∧ ∃ b, found = some b ∧ b.isMutable = false) ∨
        (fault = .undeclared x ∧ found = none ∧ refuse = true) := by
  rw [Store.assign, h.assignee forest]
  rw [eq_comm (a := fault), eq_comm (a := fault)]
  cases found with
  | none => cases refuse <;> simp [Except.map]
  | some b => cases mutability : b.isMutable <;> simp [Except.map, mutability]

end Store

/-! ## Names on machines -/

namespace Run

variable {σ : Type}

theorem name_eq (span : Span) (x : String) (m : Machine σ) :
    name span x m =
      match m.store.lookup m.scope x with
      | .ok r => .done r m
      | .error fault => .failed (fault.locatedAt span) m := by
  simp only [name, bind, Run.bind, read, check]
  cases m.store.lookup m.scope x <;> rfl

theorem assignName_eq (span : Span) (x : String) (v : Ref) (m : Machine σ) :
    assignName span x v m =
      match m.store.assign m.scope x v m.strict with
      | .ok t => .done () { m with store := t }
      | .error fault => .failed (fault.locatedAt span) m := by
  simp only [assignName, bind, Run.bind, read, check, Store.assign]
  cases m.store.assignee m.scope x m.strict <;> rfl

/-- Reading a name gives the value of the nearest declaration outwards. Assigning to it is refused
if this declaration is a constant, and without one in strict code; then nothing changes. Otherwise
the one binding that the name leads to gets the value. -/
theorem names_resolve (m : Machine σ) (forest : m.store.Forest) (e : ScopeId)
    (made : m.store.Has (.scope e)) (x : String) :
    (∀ r, m.store.lookup e x = .ok r ↔
      ∃ owner b, m.store.Resolves x e owner (some b) ∧ b.value = r) ∧
    (∀ fault, m.store.lookup e x = .error fault ↔
      fault = .undefined x ∧ ∃ root, m.store.Resolves x e root none) ∧
    (∀ span, name span x { m with scope := e } =
      match m.store.lookup e x with
      | .ok r => .done r { m with scope := e }
      | .error fault => .failed (fault.locatedAt span) { m with scope := e }) ∧
    ∀ v refuse,
      (∀ fault, m.store.assign e x v refuse = .error fault ↔
        (fault = .immutable x ∧
          ∃ owner b, m.store.Resolves x e owner (some b) ∧ b.isMutable = false) ∨
        (fault = .undeclared x ∧ refuse = true ∧ ∃ root, m.store.Resolves x e root none)) ∧
      (∀ t, m.store.assign e x v refuse = .ok t → t.lookup e x = .ok v ∧
        ∃ owner found, m.store.Resolves x e owner found ∧ (∀ b ∈ found, b.isMutable = true) ∧
          (found = none → refuse = false ∧ (m.store.scope owner).parent = none) ∧
          m.store.Rebound x v owner t) ∧
      ∀ span, assignName span x v { m with scope := e, strict := refuse } =
        match m.store.assign e x v refuse with
        | .ok t => .done () { m with scope := e, strict := refuse, store := t }
        | .error fault =>
          .failed (fault.locatedAt span) { m with scope := e, strict := refuse } := by
  obtain ⟨owner, found, resolves⟩ := forest.exists_resolves e x
  have unique {owner' : ScopeId} {found' : Option Binding}
      (h : m.store.Resolves x e owner' found') : found' = found := (h.unique resolves).2
  refine ⟨fun r => ?read, fun fault => ?unknown, fun span => name_eq .., fun v refuse =>
    ⟨fun fault => ?refused, fun t assigned => ?assigned, fun span => assignName_eq ..⟩⟩
  case read =>
    rw [resolves.lookup forest]
    constructor
    · intro read
      cases found with
      | none => cases read
      | some b => exact ⟨owner, b, resolves, Except.ok.inj read⟩
    · rintro ⟨_, b, there, rfl⟩
      rw [← unique there]
      rfl
  case unknown =>
    rw [resolves.lookup forest]
    constructor
    · intro unknown
      cases found with
      | none => exact ⟨(Except.error.inj unknown).symm, owner, resolves⟩
      | some b => cases unknown
    · rintro ⟨rfl, _, there⟩
      rw [← unique there]
      rfl
  case refused =>
    rw [Store.assign_error_iff forest resolves]
    constructor
    · rintro (⟨eq, b, rfl, constant⟩ | ⟨eq, rfl, strict⟩)
      · exact .inl ⟨eq, owner, b, resolves, constant⟩
      · exact .inr ⟨eq, strict, owner, resolves⟩
    · rintro (⟨eq, _, b, there, constant⟩ | ⟨eq, strict, _, there⟩)
      · exact .inl ⟨eq, b, (unique there).symm, constant⟩
      · exact .inr ⟨eq, (unique there).symm, strict⟩
  case assigned =>
    obtain ⟨mutability, loose, rfl⟩ :=
      (Store.assign_ok_iff forest resolves v refuse).1 assigned
    have rebound := Store.rebound_declare forest made resolves v
    exact ⟨rebound.seen e ⟨found, resolves⟩, owner, found, resolves, mutability,
      fun none => ⟨loose none, resolves.at_owner.2 none⟩, rebound⟩

/-- Two scopes lie in the outermost one, which declares a variable. One of them has a constant of
the same name and another scope in it. -/
def branches : Store where
  cells := #[]
  scopes := #[⟨none, Dict.empty.insert "x" ⟨.scalar 0 (.int 1), true⟩⟩, ⟨some ⟨0⟩, .empty⟩,
    ⟨some ⟨0⟩, Dict.empty.insert "x" ⟨.scalar 1 (.int 2), false⟩⟩, ⟨some ⟨2⟩, .empty⟩]
  serials := 3

theorem branches_forest : branches.Forest := by
  rintro ⟨_ | _ | _ | _ | n⟩ q inside <;> cases inside <;> decide

theorem names_resolve_branches :
    branches.Forest ∧ branches.Has (.scope ⟨1⟩) ∧ branches.Has (.scope ⟨3⟩) ∧
      (∃ t, branches.assign ⟨1⟩ "x" (.scalar 2 .none) true = .ok t ∧
        t.lookup ⟨1⟩ "x" = .ok (.scalar 2 .none) ∧ t.lookup ⟨0⟩ "x" = .ok (.scalar 2 .none) ∧
        t.lookup ⟨3⟩ "x" = branches.lookup ⟨3⟩ "x") ∧
      branches.assign ⟨3⟩ "x" (.scalar 2 .none) false = .error (.immutable "x") := by
  let m : Machine Unit := ⟨branches, ⟨0⟩, ⟨0⟩, .scalar 0 .none, false, 0, none, ()⟩
  have made (i : Nat) (hi : i < 4) : m.store.Has (.scope ⟨i⟩) := hi
  have root : m.store.Resolves "x" ⟨0⟩ ⟨0⟩ (some ⟨.scalar 0 (.int 1), true⟩) := .declared rfl
  have inner : m.store.Resolves "x" ⟨3⟩ ⟨2⟩ (some ⟨.scalar 1 (.int 2), false⟩) :=
    .outwards rfl rfl (.declared rfl)
  have first := names_resolve m branches_forest ⟨1⟩ (made 1 (by decide)) "x"
  have second := names_resolve m branches_forest ⟨3⟩ (made 3 (by decide)) "x"
  refine ⟨branches_forest, made 1 (by decide), made 3 (by decide), ⟨_, rfl, ?_⟩, ?_⟩
  · obtain ⟨-, assigned, -⟩ := first.2.2.2 (.scalar 2 .none) true
    obtain ⟨read, owner, found, resolves, -, -, rebound⟩ := assigned _ rfl
    obtain ⟨rfl, -⟩ := resolves.unique (.outwards rfl rfl root)
    refine ⟨read, rebound.seen ⟨0⟩ ⟨_, root⟩, rebound.unseen ⟨3⟩ ?_⟩
    rintro ⟨found', there⟩
    cases (there.unique inner).1
  · exact ((second.2.2.2 (.scalar 2 .none) false).1 _).2 (.inl ⟨rfl, _, _, inner, rfl⟩)

end Run

end LayerScript
