import LayerScript.Store
import Mathlib.Logic.Relation

/-!
# Places

A place is a value or a scope. It holds other places: an array its elements, a map its values, a
module its exports, a function the scope and the receiver it was made with, a scope the scope
around it and the values of its names. What a place reaches is what can be got at through any
number of such steps. The lemmas say what each step of the store does to the contents of places.
-/

namespace LayerScript

inductive Place where
  | value (r : Ref)
  | scope (e : ScopeId)

def Cell.places : Cell → List Place
  | .array items => items.toList.map .value
  | .map entries => entries.values.map .value
  | .module _ exports => exports.values.map .value
  | .closure f => .scope f.home :: f.receiver.toList.map .value
  | _ => []

def Scope.places (e : Scope) : List Place :=
  e.parent.toList.map .scope ++ e.names.values.map fun b => .value b.value

/-- What can come of a cell: the contents of arrays and maps change, and a value is made where there
is none. -/
inductive Cell.Becomes : Cell → Cell → Prop where
  | same {c : Cell} : Cell.Becomes c c
  | made {c : Cell} : Cell.Becomes .none c
  | array {items items' : Array Ref} : Cell.Becomes (.array items) (.array items')
  | map {entries entries' : Dict Ref} : Cell.Becomes (.map entries) (.map entries')

theorem Cell.Becomes.trans {c c' c'' : Cell} (h : c.Becomes c') (h' : c'.Becomes c'') :
    c.Becomes c'' := by
  cases h with
  | same => exact h'
  | made => exact .made
  | array =>
    cases h' with
    | same | array => exact .array
  | map =>
    cases h' with
    | same | map => exact .map

namespace Store

variable {s t u : Store}

def held (s : Store) : Place → List Place
  | .value r => (s.cell r).places
  | .scope e => (s.scope e).places

def Reaches (s : Store) : Place → Place → Prop :=
  Relation.ReflTransGen fun p q => q ∈ s.held p

/-- Whether the place has been made. -/
def Has (s : Store) : Place → Prop
  | .value (.scalar serial _) => serial < s.serials
  | .value (.cell index) => index < s.cells.size
  | .scope e => e.index < s.scopes.size

/-- Nothing in the store refers to a place that has not been made. -/
def Intact (s : Store) : Prop :=
  ∀ p, ∀ q ∈ s.held p, s.Has q

/-- A place has the same contents in two stores. -/
def SameAt (p : Place) (s t : Store) : Prop :=
  match p with
  | .value r => t.cell r = s.cell r
  | .scope e => t.scope e = s.scope e

theorem SameAt.refl (p : Place) (s : Store) : SameAt p s s := by
  cases p <;> rfl

theorem SameAt.symm {p : Place} (h : SameAt p s t) : SameAt p t s := by
  cases p with
  | value r => exact Eq.symm h
  | scope e => exact Eq.symm h

theorem SameAt.trans {p : Place} (h : SameAt p s t) (h' : SameAt p t u) : SameAt p s u := by
  cases p with
  | value r => exact Eq.trans h' h
  | scope e => exact Eq.trans h' h

def sizes (s : Store) : Nat × Nat × Nat :=
  (s.cells.size, s.scopes.size, s.serials)

/-- Two stores of one size that are the same in all places but those that `P` holds of. -/
structure SameBut (P : Place → Prop) (s t : Store) : Prop where
  sizes : t.sizes = s.sizes
  same : ∀ p, ¬ P p → SameAt p s t

/-- What never changes while a store grows: places stay, scopes keep the scope around them, and
functions stay what they are. -/
structure Extends (s t : Store) : Prop where
  has : ∀ p, s.Has p → t.Has p
  parent : ∀ e, s.Has (.scope e) → (t.scope e).parent = (s.scope e).parent
  function : ∀ r, (s.cell r).kind = .function → t.cell r = s.cell r

theorem Extends.refl (s : Store) : s.Extends s :=
  ⟨fun _ h => h, fun _ _ => rfl, fun _ _ => rfl⟩

theorem Extends.trans (h : s.Extends t) (h' : t.Extends u) : s.Extends u where
  has p hp := h'.has p (h.has p hp)
  parent e he := (h'.parent e (h.has _ he)).trans (h.parent e he)
  function r hr := by
    have same := h.function r hr
    rw [h'.function r (by rw [same, hr]), same]

/-- Values last: only the contents of arrays and maps change. -/
structure Lasts (s t : Store) : Prop where
  becomes : ∀ r, (s.cell r).Becomes (t.cell r)

theorem Lasts.refl (s : Store) : s.Lasts s :=
  ⟨fun _ => .same⟩

theorem Lasts.trans (h : s.Lasts t) (h' : t.Lasts u) : s.Lasts u :=
  ⟨fun r => (h.becomes r).trans (h'.becomes r)⟩

theorem Lasts.of_cells (h : ∀ r, t.cell r = s.cell r) : s.Lasts t :=
  ⟨fun r => h r ▸ .same⟩

/-- An array stays an array. -/
theorem Lasts.array {r : Ref} {items : Array Ref} (h : s.Lasts t)
    (found : s.cell r = .array items) :
    ∃ items', t.cell r = .array items' := by
  have becomes := h.becomes r
  rw [found] at becomes
  generalize t.cell r = c at becomes
  cases becomes with
  | same => exact ⟨_, rfl⟩
  | array => exact ⟨_, rfl⟩

/-- A function stays what it is. -/
theorem Lasts.closure {r : Ref} {f : Closure} (h : s.Lasts t) (found : s.cell r = .closure f) :
    t.cell r = .closure f := by
  have becomes := h.becomes r
  rw [found] at becomes
  generalize t.cell r = c at becomes
  cases becomes with
  | same => rfl

theorem eq_of_same (cells : t.cells.size = s.cells.size) (scopes : t.scopes.size = s.scopes.size)
    (serials : t.serials = s.serials) (h : ∀ p, SameAt p s t) : t = s := by
  obtain ⟨cs, es, k⟩ := s
  obtain ⟨cs', es', k'⟩ := t
  obtain rfl : k' = k := serials
  have hc : cs' = cs := by
    apply Array.ext cells
    intro i hi hi'
    have : cs'.getD i .none = cs.getD i .none := h (.value (.cell i))
    simpa [hi, hi'] using this
  have he : es' = es := by
    apply Array.ext scopes
    intro i hi hi'
    have : es'.getD i default = es.getD i default := h (.scope ⟨i⟩)
    simpa [hi, hi'] using this
  rw [hc, he]

theorem held_eq_nil {p : Place} (h : ¬ s.Has p) : s.held p = [] := by
  rcases p with (⟨serial, value⟩ | index) | e
  · cases value <;> rfl
  · simp only [Has, Nat.not_lt] at h
    simp only [held, cell, Array.getD_eq_getD_getElem?, Array.getElem?_eq_none h, Option.getD_none]
    rfl
  · simp only [Has, Nat.not_lt] at h
    simp only [held, scope, Array.getD_eq_getD_getElem?, Array.getElem?_eq_none h, Option.getD_none]
    rfl

/-! ## New values -/

@[simp] theorem scope_alloc (c : Cell) (e : ScopeId) : (s.alloc c).2.scope e = s.scope e := by
  unfold alloc
  split <;> rfl

theorem cell_alloc_self (c : Cell) : (s.alloc c).2.cell (s.alloc c).1 = c := by
  unfold alloc
  split
  · next value h =>
    cases c <;> simp only [Cell.scalar?, Option.some.injEq, reduceCtorEq] at h <;> subst h <;> rfl
  · simp [cell]

theorem cell_alloc_of_ne {c : Cell} {r : Ref} (h : r ≠ (s.alloc c).1) :
    (s.alloc c).2.cell r = s.cell r := by
  cases r with
  | scalar serial value => rfl
  | cell index =>
    unfold alloc at h ⊢
    split
    · rfl
    · next hc =>
      simp only [hc] at h
      have : index ≠ s.cells.size := fun eq => h (by rw [eq])
      simp [cell, Array.getElem?_push, this]

theorem not_has_alloc (c : Cell) : ¬ s.Has (.value (s.alloc c).1) := by
  unfold alloc
  split <;> simp [Has]

theorem has_alloc_self (c : Cell) : (s.alloc c).2.Has (.value (s.alloc c).1) := by
  unfold alloc
  split <;> simp [Has]

theorem has_alloc {c : Cell} {p : Place} (h : s.Has p) : (s.alloc c).2.Has p := by
  unfold alloc
  split <;> rcases p with (⟨serial, value⟩ | index) | e <;>
    simp only [Has, Array.size_push] at h ⊢ <;>
    omega

theorem ne_of_has {c : Cell} {r : Ref} (h : s.Has (.value r)) : r ≠ (s.alloc c).1 :=
  fun eq => not_has_alloc c (eq ▸ h)

theorem has_of_function {r : Ref} (h : (s.cell r).kind = .function) : s.Has (.value r) := by
  cases r with
  | scalar serial value => cases value <;> simp [cell, Cell.ofLiteral, Cell.kind] at h
  | cell index =>
    by_cases hi : index < s.cells.size
    · exact hi
    · simp [cell, Array.getElem?_eq_none (Nat.le_of_not_lt hi), Cell.kind] at h

theorem extends_alloc (c : Cell) : s.Extends (s.alloc c).2 where
  has _ h := has_alloc h
  parent e _ := by rw [scope_alloc]
  function r h := cell_alloc_of_ne (ne_of_has (has_of_function h))

theorem lasts_alloc (c : Cell) : s.Lasts (s.alloc c).2 where
  becomes r := by
    by_cases had : s.Has (.value r)
    · rw [cell_alloc_of_ne (ne_of_has had)]
      exact .same
    · cases r with
      | scalar serial value => exact .same
      | cell index =>
        have nothing : s.cell (.cell index) = .none := by
          simp only [Has, Nat.not_lt] at had
          simp [cell, Array.getElem?_eq_none had]
        rw [nothing]
        exact .made

/-! ## Scopes -/

@[simp] theorem cell_newScope (parent : Option ScopeId) (r : Ref) :
    (s.newScope parent).2.cell r = s.cell r := by
  cases r <;> rfl

theorem scope_newScope_self (parent : Option ScopeId) :
    (s.newScope parent).2.scope (s.newScope parent).1 = ⟨parent, .empty⟩ := by
  simp [newScope, scope]

theorem scope_newScope_of_ne {parent : Option ScopeId} {e : ScopeId}
    (h : e ≠ (s.newScope parent).1) : (s.newScope parent).2.scope e = s.scope e := by
  have : e.index ≠ s.scopes.size := fun eq => h (by cases e; simp_all [newScope])
  simp [newScope, scope, Array.getElem?_push, this]

theorem not_has_newScope (parent : Option ScopeId) : ¬ s.Has (.scope (s.newScope parent).1) := by
  simp [newScope, Has]

theorem has_newScope_self (parent : Option ScopeId) :
    (s.newScope parent).2.Has (.scope (s.newScope parent).1) := by
  simp [newScope, Has]

theorem has_newScope {parent : Option ScopeId} {p : Place} (h : s.Has p) :
    (s.newScope parent).2.Has p := by
  rcases p with (⟨serial, value⟩ | index) | e <;>
    simp only [newScope, Has, Array.size_push] at h ⊢ <;>
    omega

theorem extends_newScope (parent : Option ScopeId) : s.Extends (s.newScope parent).2 where
  has _ h := has_newScope h
  parent e h := by
    rw [scope_newScope_of_ne]
    rintro rfl
    exact not_has_newScope parent h
  function r _ := cell_newScope parent r

@[simp] theorem cell_declare (e : ScopeId) (x : String) (r r' : Ref) (isMutable : Bool) :
    (s.declare e x r isMutable).cell r' = s.cell r' := by
  cases r' <;> rfl

theorem scope_declare_of_ne {e e' : ScopeId} (h : e' ≠ e) (x : String) (r : Ref)
    (isMutable : Bool) : (s.declare e x r isMutable).scope e' = s.scope e' := by
  have : e.index ≠ e'.index := fun eq => h (by cases e; cases e'; simp_all)
  simp [declare, scope, Array.getElem?_modify, this]

theorem scope_declare_self {e : ScopeId} (h : s.Has (.scope e)) (x : String) (r : Ref)
    (isMutable : Bool) : (s.declare e x r isMutable).scope e =
      { s.scope e with names := (s.scope e).names.insert x ⟨r, isMutable⟩ } := by
  simp only [Has] at h
  simp [declare, scope, Array.getElem_modify, h]

theorem declare_of_not_has {e : ScopeId} (h : ¬ s.Has (.scope e)) (x : String) (r : Ref)
    (isMutable : Bool) : s.declare e x r isMutable = s := by
  simp only [Has, Nat.not_lt] at h
  have : s.scopes.modify e.index (fun scope =>
      { scope with names := scope.names.insert x ⟨r, isMutable⟩ }) = s.scopes := by
    apply Array.ext
    · simp
    · intro i _ hi
      have : e.index ≠ i := by omega
      simp [Array.getElem_modify, this]
  simp only [declare, this]

theorem parent_declare (e e' : ScopeId) (x : String) (r : Ref) (isMutable : Bool) :
    ((s.declare e x r isMutable).scope e').parent = (s.scope e').parent := by
  by_cases he : e' = e
  · subst he
    by_cases h : s.Has (.scope e')
    · rw [scope_declare_self h]
    · rw [declare_of_not_has h]
  · rw [scope_declare_of_ne he]

theorem has_declare {e : ScopeId} {x : String} {r : Ref} {isMutable : Bool} {p : Place} :
    (s.declare e x r isMutable).Has p ↔ s.Has p := by
  rcases p with (⟨serial, value⟩ | index) | e <;> simp [declare, Has]

theorem extends_declare (e : ScopeId) (x : String) (r : Ref) (isMutable : Bool) :
    s.Extends (s.declare e x r isMutable) where
  has _ h := has_declare.2 h
  parent e' _ := parent_declare e e' x r isMutable
  function r' _ := cell_declare e x r r' isMutable

/-! ## Changed cells -/

@[simp] theorem scope_modify (r : Ref) (f : Cell → Cell) (e : ScopeId) :
    (s.modify r f).scope e = s.scope e := by
  cases r <;> rfl

theorem cell_modify_of_ne {r r' : Ref} (h : r' ≠ r) (f : Cell → Cell) :
    (s.modify r f).cell r' = s.cell r' := by
  cases r with
  | scalar serial value => rfl
  | cell index =>
    cases r' with
    | scalar serial value => rfl
    | cell index' =>
      have : index ≠ index' := fun eq => h (by rw [eq])
      simp [modify, cell, Array.getElem?_modify, this]

/-- A change that leaves scalars alone applies to the cell. -/
theorem cell_modify_self {r : Ref} {f : Cell → Cell} (h : ∀ l, f (.ofLiteral l) = .ofLiteral l) :
    (s.modify r f).cell r = f (s.cell r) := by
  cases r with
  | scalar serial value => exact (h value).symm
  | cell index =>
    by_cases hi : index < s.cells.size
    · simp [modify, cell, hi, Array.getElem_modify]
    · simp only [modify, cell, Array.getD_eq_getD_getElem?, Array.size_modify, hi,
        not_false_eq_true, getElem?_neg, Option.getD_none]
      exact (h .none).symm

theorem has_modify {r : Ref} {f : Cell → Cell} {p : Place} : (s.modify r f).Has p ↔ s.Has p := by
  cases r <;> rcases p with (⟨serial, value⟩ | index) | e <;> simp [modify, Has]

theorem lasts_modify {f : Cell → Cell} (hf : ∀ l, f (.ofLiteral l) = .ofLiteral l)
    (becomes : ∀ c : Cell, c.Becomes (f c)) (r : Ref) : s.Lasts (s.modify r f) where
  becomes r' := by
    by_cases hr : r' = r
    · rw [hr, cell_modify_self hf]
      exact becomes _
    · rw [cell_modify_of_ne hr]
      exact .same

/-- A change of cells that leaves scalars and functions alone. -/
structure Keeps (f : Cell → Cell) : Prop where
  literal : ∀ l, f (.ofLiteral l) = .ofLiteral l
  function : ∀ c, c.kind = .function → f c = c

theorem keeps_array (f : Array Ref → Array Ref) :
    Keeps fun
      | .array items => .array (f items)
      | c => c where
  literal l := by cases l <;> rfl
  function c hc := by cases c <;> first | rfl | nomatch hc

theorem cell_modifyArray_self {a : Ref} {items : Array Ref} (array : s.cell a = .array items)
    (f : Array Ref → Array Ref) : (s.modifyArray a f).cell a = .array (f items) := by
  rw [modifyArray, cell_modify_self (keeps_array f).literal, array]

theorem keeps_map (f : Dict Ref → Dict Ref) :
    Keeps fun
      | .map entries => .map (f entries)
      | c => c where
  literal l := by cases l <;> rfl
  function c hc := by cases c <;> first | rfl | nomatch hc

theorem extends_modify {f : Cell → Cell} (h : Keeps f) (r : Ref) : s.Extends (s.modify r f) where
  has _ h := has_modify.2 h
  parent e _ := by rw [scope_modify]
  function r' hr' := by
    by_cases hr : r' = r
    · rw [hr, cell_modify_self h.literal, ← hr, h.function _ hr']
    · rw [cell_modify_of_ne hr]

end Store

end LayerScript
