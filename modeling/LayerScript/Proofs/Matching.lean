import LayerScript.Proofs.Frames
import LayerScript.Proofs.Resolution

/-!
# Patterns and arms

A `when` runs the body of the first arm whose pattern matches the value. The names of the pattern
are bound to parts of the value in a scope of their own. The evaluator finds out whether a pattern
matches before it binds a name; to bind names while a pattern is still being tried, each time in a
new scope that is given up when the pattern fails, comes to the same.
-/

namespace LayerScript

/-! ## Matching -/

def Arm.pattern : Arm → Pattern
  | .mk _ pattern _ => pattern

mutual

/-- The names in a pattern, from left to right. -/
def Pattern.names : Pattern → List String
  | .wildcard | .literal _ => []
  | .name x => [x]
  | .tuple parts => Pattern.namesOfParts parts

def Pattern.namesOfParts : List Pattern → List String
  | [] => []
  | p :: ps => p.names ++ Pattern.namesOfParts ps

end

namespace Store

/-- A pattern matches a value. A literal is compared as a value of its own. -/
inductive Matches (s : Store) : Pattern → Ref → Prop
  | wildcard (r : Ref) : Matches s .wildcard r
  | name (x : String) (r : Ref) : Matches s (.name x) r
  | literal {value : Literal} {l r : Ref} (made : s.cell l = .ofLiteral value)
    (own : l.same r = false) (equal : s.equal l r = true) : Matches s (.literal value) r
  | tuple {parts : List Pattern} {r : Ref} {items : Array Ref} (array : s.cell r = .array items)
    (length : parts.length = items.size)
    (each : ∀ (i : Nat) (p : Pattern) (q : Ref), parts[i]? = some p → items[i]? = some q →
      Matches s p q) : Matches s (.tuple parts) r

/-- The part of a value that the last `x` in a pattern stands for. -/
inductive Rightmost (s : Store) (x : String) : Pattern → Ref → Ref → Prop
  | name (r : Ref) : Rightmost s x (.name x) r r
  | tuple {parts : List Pattern} {r : Ref} {items : Array Ref} {i : Nat} {p : Pattern} {q v : Ref}
    (array : s.cell r = .array items) (part : parts[i]? = some p) (item : items[i]? = some q)
    (inside : Rightmost s x p q v)
    (last : ∀ (j : Nat) (p' : Pattern), i < j → parts[j]? = some p' → x ∉ p'.names) :
    Rightmost s x (.tuple parts) r v

/-! ### Literals -/

variable {s t : Store}

theorem cellsEqual_ofLiteral (same same' : Ref → Ref → Bool) (value : Literal) (c : Cell) :
    cellsEqual same (.ofLiteral value) c = cellsEqual same' (.ofLiteral value) c := by
  cases value <;> cases c <;> rfl

theorem equal_of_literal {value : Literal} {l r : Ref} (made : s.cell l = .ofLiteral value)
    (own : l.same r = false) : s.equal l r = s.equalsLiteral value r := by
  have room : comparisonDepth = 128 + 1 := rfl
  rw [equal, room, equalWithin, own, made, Bool.false_or]
  exact cellsEqual_ofLiteral ..

/-- There are values of a literal other than any given value. -/
theorem exists_literal (s : Store) (value : Literal) (r : Ref) :
    ∃ l, s.cell l = .ofLiteral value ∧ l.same r = false := by
  cases r with
  | scalar serial other => exact ⟨.scalar (serial + 1) value, rfl, by simp [Ref.same]⟩
  | cell index => exact ⟨.scalar 0 value, rfl, rfl⟩

theorem equalsLiteral_iff {value : Literal} {r : Ref} :
    s.equalsLiteral value r = true ↔ s.Matches (.literal value) r := by
  constructor
  · intro equal
    obtain ⟨l, made, own⟩ := s.exists_literal value r
    exact .literal made own ((equal_of_literal made own).trans equal)
  · intro h
    cases h with
    | literal made own equal => rwa [equal_of_literal made own] at equal

end Store

/-! ### What a pattern binds -/

namespace Store

variable {s t : Store}

/-- The bindings of a pattern that matches: its names from left to right, with the parts of the
value that they stand for. -/
structure Binds (s : Store) (p : Pattern) (r : Ref) (bound : List (String × Ref)) : Prop where
  matched : s.Matches p r
  names : bound.map Prod.fst = p.names
  last : ∀ x v, valueOf? x bound.reverse = some v ↔ s.Rightmost x p r v

/-- The bindings of patterns that match values, one by one. -/
structure BindsParts (s : Store) (ps : List Pattern) (rs : List Ref)
    (bound : List (String × Ref)) : Prop where
  length : ps.length = rs.length
  matched : ∀ (i : Nat) (p : Pattern) (q : Ref), ps[i]? = some p → rs[i]? = some q →
    s.Matches p q
  names : bound.map Prod.fst = Pattern.namesOfParts ps
  last : ∀ x v, valueOf? x bound.reverse = some v ↔
    ∃ (i : Nat) (p : Pattern) (q : Ref), ps[i]? = some p ∧ rs[i]? = some q ∧
      s.Rightmost x p q v ∧ ∀ (j : Nat) (p' : Pattern), i < j → ps[j]? = some p' → x ∉ p'.names

theorem not_mem_namesOfParts {ps : List Pattern} {x : String} :
    x ∉ Pattern.namesOfParts ps ↔
      ∀ (j : Nat) (p : Pattern), ps[j]? = some p → x ∉ p.names := by
  induction ps with
  | nil => simp [Pattern.namesOfParts]
  | cons p ps ih =>
    rw [Pattern.namesOfParts, List.mem_append, not_or, ih]
    constructor
    · rintro ⟨here, behind⟩ (_ | j) p' part
      · cases part
        exact here
      · exact behind j p' part
    · exact fun h => ⟨h 0 p rfl, fun j p' part => h (j + 1) p' part⟩

/-- Names bound by later parts hide those bound by the first one. -/
theorem BindsParts.cons {p : Pattern} {ps : List Pattern} {r : Ref} {rs : List Ref}
    {bound rest : List (String × Ref)} (h : s.Binds p r bound) (h' : s.BindsParts ps rs rest) :
    s.BindsParts (p :: ps) (r :: rs) (bound ++ rest) where
  length := congrArg (· + 1) h'.length
  matched := by
    rintro (_ | i) p' q part item
    · cases part
      cases item
      exact h.matched
    · exact h'.matched i p' q part item
  names := by rw [List.map_append, h.names, h'.names, Pattern.namesOfParts]
  last x v := by
    have hidden : valueOf? x rest.reverse = none ↔ x ∉ Pattern.namesOfParts ps := by
      rw [valueOf?_eq_none_iff, ← h'.names, List.map_reverse, List.mem_reverse]
    rw [List.reverse_append, valueOf?_append, Option.or_eq_some_iff, hidden, h'.last, h.last,
      not_mem_namesOfParts]
    constructor
    · rintro (⟨i, p', q, part, item, inside, last⟩ | ⟨absent, inside⟩)
      · refine ⟨i + 1, p', q, part, item, inside, ?_⟩
        rintro (_ | j) p'' later part'
        · omega
        · exact last j p'' (by omega) part'
      · refine ⟨0, p, r, rfl, rfl, inside, ?_⟩
        rintro (_ | j) p'' later part'
        · omega
        · exact absent j p'' part'
    · rintro ⟨_ | i, p', q, part, item, inside, last⟩
      · cases part
        cases item
        exact .inr ⟨fun j p'' part' => last (j + 1) p'' (by omega) part', inside⟩
      · refine .inl ⟨i, p', q, part, item, inside, fun j p'' later part' => ?_⟩
        exact last (j + 1) p'' (by omega) part'

mutual

theorem binds_of_bindings? {bound : List (String × Ref)} (p : Pattern) {r : Ref}
    (h : p.bindings? s r = some bound) : s.Binds p r bound := by
  match p with
  | .wildcard =>
    unfold Pattern.bindings? at h
    cases h
    exact ⟨.wildcard r, rfl, fun x v => ⟨nofun, nofun⟩⟩
  | .literal value =>
    unfold Pattern.bindings? at h
    split at h
    · next equal =>
      cases h
      exact ⟨equalsLiteral_iff.1 equal, rfl, fun x v => ⟨nofun, nofun⟩⟩
    · cases h
  | .name y =>
    unfold Pattern.bindings? at h
    cases h
    refine ⟨.name y r, rfl, fun x v => ?_⟩
    constructor
    · intro found
      by_cases hy : y = x
      · subst hy
        simp [valueOf?] at found
        exact found ▸ .name r
      · simp [valueOf?, hy] at found
    · intro last
      cases last
      simp [valueOf?]
  | .tuple parts =>
    unfold Pattern.bindings? at h
    cases found : s.cell r with
    | array items =>
      rw [found] at h
      dsimp only at h
      split at h
      · have all := bindsParts_of_allBindings? parts h
        refine ⟨.tuple found all.length fun i p q part item => ?_, all.names, fun x v => ?_⟩
        · exact all.matched i p q part (by simpa using item)
        · rw [all.last]
          constructor
          · rintro ⟨i, p, q, part, item, inside, last⟩
            exact .tuple found part (by simpa using item) inside last
          · intro last
            cases last with
            | tuple array part item inside last =>
              cases found.symm.trans array
              exact ⟨_, _, _, part, by simpa using item, inside, last⟩
      · cases h
    | _ =>
      rw [found] at h
      cases h

theorem bindsParts_of_allBindings? {bound : List (String × Ref)} (ps : List Pattern)
    {rs : List Ref} (h : Pattern.allBindings? s ps rs = some bound) :
    s.BindsParts ps rs bound := by
  match ps, rs with
  | [], [] =>
    unfold Pattern.allBindings? at h
    cases h
    exact ⟨rfl, nofun, rfl, fun x v => ⟨nofun, nofun⟩⟩
  | [], _ :: _ | _ :: _, [] =>
    unfold Pattern.allBindings? at h
    cases h
  | p :: ps, r :: rs =>
    unfold Pattern.allBindings? at h
    cases first : p.bindings? s r with
    | none =>
      rw [first] at h
      cases h
    | some bound =>
      rw [first] at h
      obtain ⟨rest, more, rfl⟩ := Option.map_eq_some_iff.1 h
      exact .cons (binds_of_bindings? p first) (bindsParts_of_allBindings? ps more)

end

theorem exists_allBindings? {ps : List Pattern} {rs : List Ref} (length : ps.length = rs.length)
    (each : ∀ (i : Nat) (p : Pattern) (q : Ref), ps[i]? = some p → rs[i]? = some q →
      ∃ bound, p.bindings? s q = some bound) :
    ∃ bound, Pattern.allBindings? s ps rs = some bound := by
  induction ps generalizing rs with
  | nil =>
    cases rs with
    | nil => exact ⟨[], rfl⟩
    | cons r rs => cases length
  | cons p ps ih =>
    cases rs with
    | nil => cases length
    | cons r rs =>
      obtain ⟨bound, first⟩ := each 0 p r rfl rfl
      obtain ⟨rest, more⟩ := ih (Nat.succ.inj length) fun i => each (i + 1)
      unfold Pattern.allBindings?
      rw [first, more]
      exact ⟨bound ++ rest, rfl⟩

theorem Matches.exists_bindings? {p : Pattern} {r : Ref} (h : s.Matches p r) :
    ∃ bound, p.bindings? s r = some bound := by
  induction h with
  | wildcard r => exact ⟨[], by unfold Pattern.bindings?; rfl⟩
  | name x r => exact ⟨[(x, r)], by unfold Pattern.bindings?; rfl⟩
  | literal made own equal =>
    unfold Pattern.bindings?
    rw [if_pos ((equal_of_literal made own).symm.trans equal)]
    exact ⟨[], rfl⟩
  | @tuple parts r items array length each ih =>
    have exists_all : ∃ bound, Pattern.allBindings? s parts items.toList = some bound :=
      exists_allBindings? length fun i p q part item => ih i p q part (by simpa using item)
    obtain ⟨bound, all⟩ := exists_all
    refine ⟨bound, ?_⟩
    unfold Pattern.bindings?
    rw [array]
    exact (if_pos length).trans all

/-- A pattern has bindings exactly when it matches. -/
theorem bindings?_isSome_iff {p : Pattern} {r : Ref} :
    (p.bindings? s r).isSome ↔ s.Matches p r := by
  rw [Option.isSome_iff_exists]
  exact ⟨fun ⟨_, h⟩ => (binds_of_bindings? p h).matched, Matches.exists_bindings?⟩

/-! ## Scopes of arms -/

/-- New scopes have come to a store, and nothing else has changed. -/
structure GainsScopes (s t : Store) : Prop where
  cells : t.cells = s.cells
  serials : t.serials = s.serials
  has : ∀ e, s.Has (.scope e) → t.Has (.scope e)
  same : ∀ e, s.Has (.scope e) → t.scope e = s.scope e

namespace GainsScopes

variable {u : Store}

theorem refl (s : Store) : s.GainsScopes s :=
  ⟨rfl, rfl, fun _ h => h, fun _ _ => rfl⟩

theorem trans (h : s.GainsScopes t) (h' : t.GainsScopes u) : s.GainsScopes u where
  cells := h'.cells.trans h.cells
  serials := h'.serials.trans h.serials
  has e he := h'.has e (h.has e he)
  same e he := (h'.same e (h.has e he)).trans (h.same e he)

theorem cell (h : s.GainsScopes t) (r : Ref) : t.cell r = s.cell r := by
  cases r with
  | scalar => rfl
  | cell index => rw [Store.cell, Store.cell, h.cells]

theorem newScope (s : Store) (parent : Option ScopeId) : s.GainsScopes (s.newScope parent).2 where
  cells := rfl
  serials := rfl
  has _ he := has_newScope he
  same e he := by
    rw [scope_newScope_of_ne]
    rintro rfl
    exact not_has_newScope parent he

/-- Names that are declared in a new scope. -/
theorem declareAll {e : ScopeId} (h : s.GainsScopes t) (new : ¬ s.Has (.scope e))
    (bound : List (String × Ref)) : s.GainsScopes (t.declareAll e bound) := by
  induction bound generalizing t with
  | nil => exact h
  | cons b bound ih =>
    refine ih ⟨h.cells, h.serials, fun e' he => has_declare.2 (h.has e' he), fun e' he => ?_⟩
    rw [scope_declare_of_ne, h.same e' he]
    rintro rfl
    exact new he

/-- Older scopes see what they have seen. -/
theorem resolves (h : s.GainsScopes t) (forest : s.Forest) {x : String} {e owner : ScopeId}
    {found : Option Binding} (he : s.Has (.scope e)) (there : s.Resolves x e owner found) :
    t.Resolves x e owner found := by
  induction there with
  | declared here => exact .declared (by rwa [h.same _ he])
  | outermost absent last =>
    exact .outermost (by rwa [h.same _ he]) (by rwa [h.same _ he])
  | @outwards e parent _ _ absent inside _ ih =>
    have older : s.Has (.scope parent) := Nat.lt_trans (forest _ _ inside) he
    exact .outwards (by rwa [h.same _ he]) (by rwa [h.same _ he]) (ih older)

theorem lookup (h : s.GainsScopes t) (forest : s.Forest) (forest' : t.Forest) {e : ScopeId}
    (he : s.Has (.scope e)) (x : String) : t.lookup e x = s.lookup e x := by
  obtain ⟨owner, found, there⟩ := forest.exists_resolves e x
  rw [(h.resolves forest he there).lookup forest', there.lookup forest]

end GainsScopes

theorem Forest.newScope (forest : s.Forest) {home : ScopeId} (made : s.Has (.scope home)) :
    (s.newScope (some home)).2.Forest := by
  intro e q inside
  by_cases new : e = (s.newScope (some home)).1
  · rw [new, scope_newScope_self] at inside
    cases inside
    exact new ▸ made
  · rw [scope_newScope_of_ne new] at inside
    exact forest e q inside

theorem Forest.declareAll (forest : s.Forest) (e : ScopeId) (bound : List (String × Ref)) :
    (s.declareAll e bound).Forest := by
  induction bound generalizing s with
  | nil => exact forest
  | cons b bound ih => exact ih (forest.declare e b.1 b.2 true)

/-- A scope `e` has been opened inside `home`, in which the names of a pattern stand for parts of a
value, the last one where a name is repeated. Nothing is different for the scopes that were there
before, and nothing else is seen from the new one. -/
structure Opens (s : Store) (home : ScopeId) (p : Pattern) (r : Ref) (e : ScopeId) (t : Store) :
    Prop where
  new : ¬ s.Has (.scope e)
  gains : s.GainsScopes t
  inside : (t.scope e).parent = some home
  bound : ∀ x b, (t.scope e).names.find? x = some b ↔
    b.isMutable = true ∧ s.Rightmost x p r b.value
  own : ∀ x ∈ p.names, ∃ v, s.Rightmost x p r v ∧ t.lookup e x = .ok v
  around : ∀ x, x ∉ p.names → t.lookup e x = s.lookup home x
  older : ∀ e', s.Has (.scope e') → ∀ x, t.lookup e' x = s.lookup e' x

/-- The scope of an arm, made after others that have been given up. -/
theorem opens_declareAll {u : Store} {home : ScopeId} {p : Pattern} {r : Ref}
    {bound : List (String × Ref)} (forest : s.Forest) (made : s.Has (.scope home))
    (gains : s.GainsScopes u) (forest' : u.Forest) (h : p.bindings? s r = some bound) :
    s.Opens home p r (u.newScope (some home)).1
      ((u.newScope (some home)).2.declareAll (u.newScope (some home)).1 bound) := by
  have binds := binds_of_bindings? p h
  have made' := gains.has home made
  generalize he : (u.newScope (some home)).1 = e
  have new : ¬ s.Has (.scope e) := fun had => not_has_newScope _ (he ▸ gains.has e had)
  have here : (u.newScope (some home)).2.Has (.scope e) := he ▸ has_newScope_self (some home)
  have empty : (u.newScope (some home)).2.scope e = ⟨some home, .empty⟩ :=
    he ▸ scope_newScope_self (some home)
  have gains' := (gains.trans (.newScope u (some home))).declareAll new bound
  have trees := (forest'.newScope made').declareAll e bound
  have scope := scope_declareAll_self here bound
  generalize (u.newScope (some home)).2.declareAll e bound = t at gains' trees scope
  rw [empty] at scope
  have find (x : String) : (t.scope e).names.find? x =
      (valueOf? x bound.reverse).map fun v => ⟨v, true⟩ := by
    rw [scope]
    dsimp only
    rw [Dict.find?_foldl, ← List.map_reverse, valueOf?_map (fun v => (⟨v, true⟩ : Binding))]
    simp [Dict.find?_eq, valueOf?]
  have inside : (t.scope e).parent = some home := by rw [scope]
  refine ⟨new, gains', inside, fun x b => ?bound, fun x mem => ?own, fun x absent => ?around,
    fun e' he' => gains'.lookup forest trees he'⟩
  case bound =>
    rw [find, Option.map_eq_some_iff]
    constructor
    · rintro ⟨v, last, rfl⟩
      exact ⟨rfl, (binds.last x v).1 last⟩
    · rintro ⟨mutability, last⟩
      exact ⟨b.value, (binds.last x _).2 last, by rw [← mutability]⟩
  case own =>
    cases last : valueOf? x bound.reverse with
    | none =>
      rw [valueOf?_eq_none_iff, List.map_reverse, List.mem_reverse, binds.names] at last
      exact absurd mem last
    | some v =>
      have declared : (t.scope e).names.find? x = some ⟨v, true⟩ := by rw [find, last]; rfl
      exact ⟨v, (binds.last x v).1 last, (Resolves.declared declared).lookup trees⟩
  case around =>
    have nothing : (t.scope e).names.find? x = none := by
      rw [find, valueOf?_eq_none_iff.2, Option.map_none]
      rwa [List.map_reverse, List.mem_reverse, binds.names]
    obtain ⟨owner, found, there⟩ := forest.exists_resolves home x
    have outwards := Resolves.outwards nothing inside (gains'.resolves forest made there)
    rw [outwards.lookup trees, there.lookup forest]

/-! ## Names bound on the way -/

mutual

/-- Matches a value and declares names on the way. Those before a part that does not match stay
declared. -/
def tryPattern (s : Store) (e : ScopeId) (p : Pattern) (r : Ref) : Bool × Store :=
  match p with
  | .wildcard => (true, s)
  | .literal value => (s.equalsLiteral value r, s)
  | .name x => (true, s.declare e x r true)
  | .tuple parts =>
    match s.cell r with
    | .array items =>
      if parts.length = items.size then tryParts s e parts items.toList else (false, s)
    | _ => (false, s)

def tryParts (s : Store) (e : ScopeId) (ps : List Pattern) (rs : List Ref) : Bool × Store :=
  match ps, rs with
  | p :: ps, r :: rs =>
    match tryPattern s e p r with
    | (true, s) => tryParts s e ps rs
    | (false, s) => (false, s)
  | _, _ => (true, s)

end

/-- Tries arms one after the other, each in a new scope. -/
def tryArms (s : Store) (home : ScopeId) (r : Ref) :
    List Arm → Option (ScopeId × List Stmt) × Store
  | [] => (none, s)
  | .mk _ pattern body :: arms =>
    let (e, s) := s.newScope (some home)
    match s.tryPattern e pattern r with
    | (true, s) => (some (e, body), s)
    | (false, s) => s.tryArms home r arms

/-- What a trial has done: names are declared, all of the pattern if it matches. -/
structure Tried (t : Store) (e : ScopeId) (expected : Option (List (String × Ref)))
    (result : Bool × Store) : Prop where
  verdict : result.1 = expected.isSome
  declared : ∃ bound, result.2 = t.declareAll e bound ∧ ∀ all ∈ expected, bound = all

theorem declareAll_append (e : ScopeId) (bound bound' : List (String × Ref)) :
    s.declareAll e (bound ++ bound') = (s.declareAll e bound).declareAll e bound' :=
  List.foldl_append

mutual

theorem tried_tryPattern {t : Store} (p : Pattern) {r : Ref} (same : ∀ r, t.cell r = s.cell r)
    (e : ScopeId) : Tried t e (p.bindings? s r) (t.tryPattern e p r) := by
  match p with
  | .wildcard =>
    unfold Pattern.bindings? tryPattern
    exact ⟨rfl, [], rfl, fun _ h => Option.some.inj h⟩
  | .literal value =>
    unfold Pattern.bindings? tryPattern equalsLiteral
    rw [same]
    cases cellsEqual (fun _ _ => false) (.ofLiteral value) (s.cell r)
    · exact ⟨rfl, [], rfl, nofun⟩
    · exact ⟨rfl, [], rfl, fun _ h => Option.some.inj h⟩
  | .name x =>
    unfold Pattern.bindings? tryPattern
    exact ⟨rfl, [(x, r)], rfl, fun _ h => Option.some.inj h⟩
  | .tuple parts =>
    unfold Pattern.bindings? tryPattern
    rw [same]
    cases s.cell r with
    | array items =>
      dsimp only
      split
      · next length => exact tried_tryParts parts length same e
      · exact ⟨rfl, [], rfl, nofun⟩
    | _ => exact ⟨rfl, [], rfl, nofun⟩

theorem tried_tryParts {t : Store} (ps : List Pattern) {rs : List Ref}
    (length : ps.length = rs.length) (same : ∀ r, t.cell r = s.cell r) (e : ScopeId) :
    Tried t e (Pattern.allBindings? s ps rs) (t.tryParts e ps rs) := by
  match ps, rs with
  | [], [] =>
    unfold Pattern.allBindings? tryParts
    exact ⟨rfl, [], rfl, fun _ h => Option.some.inj h⟩
  | [], _ :: _ | _ :: _, [] => cases length
  | p :: ps, r :: rs =>
    obtain ⟨verdict, bound, store, all⟩ := tried_tryPattern p (r := r) same e
    unfold Pattern.allBindings? tryParts
    generalize t.tryPattern e p r = result at verdict store
    obtain ⟨verdict', u⟩ := result
    obtain rfl : u = t.declareAll e bound := store
    cases first : p.bindings? s r with
    | none =>
      rw [first] at verdict
      cases verdict
      exact ⟨rfl, bound, rfl, nofun⟩
    | some bound' =>
      obtain rfl := all bound' first
      rw [first] at verdict
      cases verdict
      have same' (r : Ref) : (t.declareAll e bound).cell r = s.cell r := by
        rw [cell_declareAll, same]
      obtain ⟨verdict, more, store, all⟩ := tried_tryParts ps (Nat.succ.inj length) same' e
      refine ⟨?_, bound ++ more, ?_, fun whole mem => ?_⟩
      · exact verdict.trans Option.isSome_map.symm
      · rw [declareAll_append]
        exact store
      · obtain ⟨rest, found, rfl⟩ := Option.map_eq_some_iff.1 mem
        rw [all rest found]

end

theorem tryPattern_iff {e : ScopeId} {p : Pattern} {r : Ref} :
    (s.tryPattern e p r).1 = true ↔ s.Matches p r := by
  rw [(tried_tryPattern (s := s) (t := s) p (fun _ => rfl) e).verdict, bindings?_isSome_iff]

section

variable {u : Store} {home : ScopeId} {r : Ref}

/-- An arm that does not match leaves a scope that nothing refers to. -/
theorem tryArms_cons_of_not_matches {arm : Arm} (made : s.Has (.scope home))
    (gains : s.GainsScopes u) (forest : u.Forest) (fails : ¬ s.Matches arm.pattern r)
    (arms : List Arm) : ∃ u', s.GainsScopes u' ∧ u'.Forest ∧
      u.tryArms home r (arm :: arms) = u'.tryArms home r arms := by
  obtain ⟨span, p, body⟩ := arm
  have gains' := gains.trans (.newScope u (some home))
  have new : ¬ s.Has (.scope (u.newScope (some home)).1) :=
    fun had => not_has_newScope _ (gains.has _ had)
  obtain ⟨verdict, bound, store, -⟩ :=
    tried_tryPattern p (r := r) gains'.cell (u.newScope (some home)).1
  refine ⟨_, gains'.declareAll new bound,
    (forest.newScope (gains.has home made)).declareAll _ bound, ?_⟩
  have failed : p.bindings? s r = none := by
    rw [← Option.not_isSome_iff_eq_none, bindings?_isSome_iff]
    exact fails
  rw [failed] at verdict
  rw [tryArms]
  dsimp only
  generalize (u.newScope (some home)).2.tryPattern _ p r = result at verdict store
  obtain ⟨_, _⟩ := result
  cases verdict
  exact congrArg (·.tryArms home r arms) store

theorem opens_of_tryArms_cons {p : Pattern} (forest : s.Forest) (made : s.Has (.scope home))
    (gains : s.GainsScopes u) (forest' : u.Forest) (matched : s.Matches p r) (span : Span)
    (body : List Stmt) (arms : List Arm) : ∃ e t, s.Opens home p r e t ∧
      u.tryArms home r (.mk span p body :: arms) = (some (e, body), t) := by
  have gains' := gains.trans (.newScope u (some home))
  obtain ⟨verdict, bound, store, all⟩ :=
    tried_tryPattern p (r := r) gains'.cell (u.newScope (some home)).1
  obtain ⟨bound', found⟩ := matched.exists_bindings?
  obtain rfl := all bound' found
  refine ⟨_, _, opens_declareAll forest made gains forest' found, ?_⟩
  rw [found] at verdict
  rw [tryArms]
  dsimp only
  generalize (u.newScope (some home)).2.tryPattern _ p r = result at verdict store
  obtain ⟨_, _⟩ := result
  cases verdict
  exact congrArg (Prod.mk _) store

/-- Arms that do not match are passed over. -/
theorem tryArms_append {before : List Arm} (made : s.Has (.scope home)) (gains : s.GainsScopes u)
    (forest : u.Forest) (fail : ∀ arm ∈ before, ¬ s.Matches arm.pattern r) (arms : List Arm) :
    ∃ u', s.GainsScopes u' ∧ u'.Forest ∧
      u.tryArms home r (before ++ arms) = u'.tryArms home r arms := by
  induction before generalizing u with
  | nil => exact ⟨u, gains, forest, rfl⟩
  | cons arm before ih =>
    rw [List.forall_mem_cons] at fail
    obtain ⟨u', gains', forest', same⟩ :=
      tryArms_cons_of_not_matches made gains forest fail.1 (before ++ arms)
    obtain ⟨u'', gains'', forest'', same'⟩ := ih gains' forest' fail.2
    exact ⟨u'', gains'', forest'', same.trans same'⟩

end

end Store

/-! ## The first arm that matches -/

namespace Run

variable {σ : Type}

theorem firstMatch?_append {s : Store} {r : Ref} {before : List Arm}
    (fail : ∀ arm ∈ before, ¬ s.Matches arm.pattern r) (arms : List Arm) :
    firstMatch? s r (before ++ arms) = firstMatch? s r arms := by
  induction before with
  | nil => rfl
  | cons arm before ih =>
    rw [List.forall_mem_cons] at fail
    obtain ⟨span, p, body⟩ := arm
    have failed : p.bindings? s r = none := by
      rw [← Option.not_isSome_iff_eq_none, Store.bindings?_isSome_iff]
      exact fail.1
    rw [List.cons_append, firstMatch?, failed]
    exact ih fail.2

theorem execute_when {call : Caller σ} {fuel : Nat} {m m' : Machine σ} {subject : Expr} {r : Ref}
    (evaluated : evaluate call fuel subject m = .done r m') (span : Span) (arms : List Arm) :
    execute call (fuel + 1) (.when span subject arms) m =
      match firstMatch? m'.store r arms with
      | none => .done .next m'
      | some (bound, body) =>
        inScope (m'.store.newScope (some m'.scope)).1 (block call fuel body)
          { m' with
            store := (m'.store.newScope (some m'.scope)).2.declareAll
              (m'.store.newScope (some m'.scope)).1 bound } := by
  simp only [execute, bind, Run.bind, evaluated, read]
  cases firstMatch? m'.store r arms <;> rfl

/-- The first arm that matches the value runs, with the names of its pattern in a scope of their
own; if there is none, nothing happens. Trying the arms in turn, with names bound on the way, comes
to the same: no name is seen outside the arm that matches. -/
theorem when_runs_first_match (call : Caller σ) (fuel : Nat) {m m' : Machine σ} {subject : Expr}
    {r : Ref} (evaluated : evaluate call fuel subject m = .done r m') (forest : m'.store.Forest)
    (made : m'.store.Has (.scope m'.scope)) (span : Span) (arms : List Arm) :
    (∀ p q, (p.bindings? m'.store q).isSome ↔ m'.store.Matches p q) ∧
    (∀ e p q, (m'.store.tryPattern e p q).1 = true ↔ m'.store.Matches p q) ∧
    ((∀ arm ∈ arms, ¬ m'.store.Matches arm.pattern r) →
      execute call (fuel + 1) (.when span subject arms) m = .done .next m' ∧
      ∃ t, m'.store.tryArms m'.scope r arms = (none, t) ∧ m'.store.GainsScopes t ∧
        ∀ e, m'.store.Has (.scope e) → ∀ x, t.lookup e x = m'.store.lookup e x) ∧
    ∀ before armSpan p body after, arms = before ++ .mk armSpan p body :: after →
      (∀ arm ∈ before, ¬ m'.store.Matches arm.pattern r) → m'.store.Matches p r →
      (∃ e t, m'.store.Opens m'.scope p r e t ∧
        execute call (fuel + 1) (.when span subject arms) m =
          inScope e (block call fuel body) { m' with store := t }) ∧
      ∃ e t, m'.store.Opens m'.scope p r e t ∧
        m'.store.tryArms m'.scope r arms = (some (e, body), t) := by
  have start := Store.GainsScopes.refl m'.store
  refine ⟨fun p q => Store.bindings?_isSome_iff, fun e p q => Store.tryPattern_iff,
    fun fail => ?none, ?first⟩
  case none =>
    obtain ⟨t, gains, trees, tried⟩ := Store.tryArms_append made start forest fail []
    have nothing := firstMatch?_append fail []
    rw [List.append_nil] at tried nothing
    refine ⟨?_, t, tried, gains, fun e he => gains.lookup forest trees he⟩
    rw [execute_when evaluated, nothing]
    rfl
  case first =>
    rintro before armSpan p body after rfl fail matched
    constructor
    · obtain ⟨bound, found⟩ := matched.exists_bindings?
      refine ⟨_, _, Store.opens_declareAll forest made start forest found, ?_⟩
      rw [execute_when evaluated, firstMatch?_append fail, firstMatch?, found]
    · obtain ⟨u, gains, trees, tried⟩ := Store.tryArms_append made start forest fail
        (.mk armSpan p body :: after)
      rw [tried]
      exact Store.opens_of_tryArms_cons forest made gains trees matched armSpan body after

/-- A pair of numbers, with one scope and without calls. -/
def pair : Machine Unit where
  store := ⟨#[.array #[.scalar 0 (.int 1), .scalar 1 (.int 2)]], #[⟨none, .empty⟩], 2⟩
  scope := ⟨0⟩
  globals := ⟨0⟩
  receiver := .cell 0
  strict := false
  depth := 0
  callSite := none
  sink := ()

/-- The first arm binds a name before it fails, the second one binds a name twice. -/
def pairArms : List Arm :=
  [.mk default (.tuple [.name "a", .literal (.int 9)]) [],
    .mk default (.tuple [.name "x", .name "x"]) [], .mk default .wildcard []]

theorem when_runs_first_match_pair :
    let call : Caller Unit := fun _ _ _ _ => .exhausted
    evaluate call 1 (.this default) pair = .done (.cell 0) pair ∧ pair.store.Forest ∧
      pair.store.Has (.scope pair.scope) ∧
      ∃ e t, execute call 2 (.when default (.this default) pairArms) pair =
          inScope e (block call 1 []) { pair with store := t } ∧
        t.lookup e "x" = .ok (.scalar 1 (.int 2)) ∧ t.lookup e "a" = .error (.undefined "a") := by
  intro call
  have evaluated : evaluate call 1 (.this default) pair = .done (.cell 0) pair := rfl
  have forest : pair.store.Forest := by
    rintro ⟨_ | n⟩ q inside <;> cases inside
  have made : pair.store.Has (.scope pair.scope) := Nat.zero_lt_one
  have fails : ¬ pair.store.Matches (.tuple [.name "a", .literal (.int 9)]) (.cell 0) := by
    rw [← Store.bindings?_isSome_iff]
    decide
  have matched : pair.store.Matches (.tuple [.name "x", .name "x"]) (.cell 0) := by
    rw [← Store.bindings?_isSome_iff]
    decide
  obtain ⟨-, -, -, first⟩ := when_runs_first_match call 1 evaluated forest made default pairArms
  obtain ⟨⟨e, t, opens, runs⟩, -⟩ :=
    first [_] _ _ _ _ rfl (List.forall_mem_singleton.2 fails) matched
  refine ⟨evaluated, forest, made, e, t, runs, ?_, ?_⟩
  · obtain ⟨v, last, seen⟩ := opens.own "x" (by decide)
    have binds := Store.binds_of_bindings? (s := pair.store) (r := .cell 0)
      (.tuple [.name "x", .name "x"]) rfl
    cases (binds.last "x" v).2 last
    exact seen
  · rw [opens.around "a" (by decide)]
    rfl

end Run

end LayerScript
