import LayerScript.Store

/-!
# Bindings

The names that a script is run with and their values, kept in a map that the script sees as
`this`.
-/

namespace LayerScript

structure Bindings where
  map : Ref
deriving Inhabited

namespace Bindings

/-- New bindings without names. -/
def new (s : Store) : Bindings × Store :=
  let (map, s) := s.alloc (.map .empty)
  (⟨map⟩, s)

/-- The names and their values, in the order in which the names were first bound. -/
def entries (b : Bindings) (s : Store) : Dict Ref :=
  match s.cell b.map with
  | .map entries => entries
  | _ => .empty

def names (b : Bindings) (s : Store) : List String :=
  (b.entries s).keys

def values (b : Bindings) (s : Store) : List Ref :=
  (b.entries s).values

def find? (b : Bindings) (s : Store) (name : String) : Option Ref :=
  (b.entries s).find? name

/-- Binds a name. The value it had before can be found in the store before. -/
def insert (b : Bindings) (s : Store) (name : String) (value : Ref) : Store :=
  s.modifyMap b.map (·.insert name value)

/-- New bindings of names to values, the later ones in place of earlier ones of the same name. -/
def ofList (s : Store) (entries : List (String × Ref)) : Bindings × Store :=
  let (map, s) := s.alloc (.map (.ofList entries))
  (⟨map⟩, s)

end Bindings

end LayerScript
