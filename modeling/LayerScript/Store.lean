import LayerScript.Value.Basic
import LayerScript.Fault

/-!
# The store

All cells and scopes that scripts have made. References are never reused. A reference that leads
nowhere reads as nothing. Steps that change a cell take the function that changes it, so that an
array or a map is not copied.
-/

namespace LayerScript

structure Binding where
  value : Ref
  isMutable : Bool

/-- The names of one scope and the scope around it. -/
structure Scope where
  parent : Option ScopeId
  names : Dict Binding

instance : Inhabited Scope := ⟨⟨none, .empty⟩⟩

structure Store where
  cells : Array Cell
  scopes : Array Scope
  /-- The number of scalars made so far. -/
  serials : Nat

namespace Store

def empty : Store :=
  ⟨#[], #[], 0⟩

instance : Inhabited Store := ⟨empty⟩

/-! ## Cells -/

def cell (s : Store) (r : Ref) : Cell :=
  match r with
  | .scalar _ value => .ofLiteral value
  | .cell index => s.cells.getD index .none

/-- A new value. -/
def alloc (s : Store) (c : Cell) : Ref × Store :=
  match c.scalar? with
  | some value => (.scalar s.serials value, { s with serials := s.serials + 1 })
  | none => (.cell s.cells.size, { s with cells := s.cells.push c })

/-- New values, in order. -/
def allocAll (s : Store) : List Cell → List Ref × Store
  | [] => ([], s)
  | c :: cs =>
    let (r, s) := s.alloc c
    let (rs, s) := s.allocAll cs
    (r :: rs, s)

/-- Changes a cell. Scalars stay as they are. -/
def modify (s : Store) (r : Ref) (f : Cell → Cell) : Store :=
  match r with
  | .scalar .. => s
  | .cell index => { s with cells := s.cells.modify index f }

def modifyArray (s : Store) (r : Ref) (f : Array Ref → Array Ref) : Store :=
  s.modify r fun
    | .array items => .array (f items)
    | c => c

def modifyMap (s : Store) (r : Ref) (f : Dict Ref → Dict Ref) : Store :=
  s.modify r fun
    | .map entries => .map (f entries)
    | c => c

/-- What an operation does to the store once its checks have passed. -/
abbrev Effect (α : Type) := Store → α × Store

/-- Has a result and leaves the store alone. -/
def Effect.keep {α : Type} (a : α) : Effect α :=
  fun s => (a, s)

/-! ## Scopes -/

def scope (s : Store) (e : ScopeId) : Scope :=
  s.scopes.getD e.index default

def newScope (s : Store) (parent : Option ScopeId) : ScopeId × Store :=
  (⟨s.scopes.size⟩, { s with scopes := s.scopes.push ⟨parent, .empty⟩ })

/-- Declares a name in a scope, in place of an earlier declaration there. -/
def declare (s : Store) (e : ScopeId) (name : String) (value : Ref) (isMutable : Bool) : Store :=
  { s with scopes := s.scopes.modify e.index fun scope =>
      { scope with names := scope.names.insert name ⟨value, isMutable⟩ } }

/-- The scopes from `e` outwards. A scope is newer than the one around it, so they are at most as
many as `count` when that is the number of scopes up to `e`. -/
def chainWithin (s : Store) : (count : Nat) → ScopeId → List ScopeId
  | 0, _ => []
  | count + 1, e =>
    match (s.scope e).parent with
    | none => [e]
    | some parent => e :: s.chainWithin count parent

def chain (s : Store) (e : ScopeId) : List ScopeId :=
  s.chainWithin (e.index + 1) e

/-- The first of the scopes from `e` outwards that has what is looked for, and what it has. -/
def nearestWithin? {β : Type} (s : Store) (f : Scope → Option β) :
    (count : Nat) → ScopeId → Option (ScopeId × β)
  | 0, _ => none
  | count + 1, e =>
    let scope := s.scope e
    match f scope with
    | some found => some (e, found)
    | none =>
      match scope.parent with
      | none => none
      | some parent => s.nearestWithin? f count parent

theorem nearestWithin?_eq {β : Type} (s : Store) (f : Scope → Option β) (count : Nat)
    (e : ScopeId) : s.nearestWithin? f count e =
      (s.chainWithin count e).findSome? fun e => (f (s.scope e)).map (e, ·) := by
  induction count generalizing e with
  | zero => rfl
  | succ count ih =>
    rw [nearestWithin?, chainWithin]
    cases hp : (s.scope e).parent <;> cases hf : f (s.scope e) <;> simp [hf, ih]

/-- The nearest declaration of a name and the scope that has it. -/
def declaration? (s : Store) (e : ScopeId) (name : String) : Option (ScopeId × Binding) :=
  s.nearestWithin? (·.names.find? name) (e.index + 1) e

/-- The scope that has none around it. -/
def outermost (s : Store) (e : ScopeId) : ScopeId :=
  (s.chain e).getLastD e

def lookup (s : Store) (e : ScopeId) (name : String) : Except Fault Ref :=
  match s.declaration? e name with
  | some (_, binding) => .ok binding.value
  | none => .error (.undefined name)

/-- The scope that an assignment to a name changes: the nearest one that declares it. Without a
declaration the name is refused, or the outermost scope gets it. -/
def assignee (s : Store) (e : ScopeId) (name : String) (refuse : Bool) : Except Fault ScopeId :=
  match s.declaration? e name with
  | some (owner, binding) => if binding.isMutable then .ok owner else .error (.immutable name)
  | none => if refuse then .error (.undeclared name) else .ok (s.outermost e)

/-- Assigns to a name. -/
def assign (s : Store) (e : ScopeId) (name : String) (value : Ref) (refuse : Bool) :
    Except Fault Store :=
  (s.assignee e name refuse).map fun owner => s.declare owner name value true

end Store

end LayerScript
