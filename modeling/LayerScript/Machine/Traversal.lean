import LayerScript.Machine.Eval
import LayerScript.Native.Plain

/-!
# Traversals

The native functions that call a function for the elements of an array. They visit the elements
that the array has at the start; the index given to a function counts them.
-/

namespace LayerScript

namespace Run

variable {σ : Type}

/-- The number that a comparison of two elements has returned. -/
def orderNumber (verdict : Ref) : Run σ Float :=
  check Fault.diagnostic (·.numberOf "std.collections.sort_by" verdict)

/-- The elements that a traversal visits. -/
def itemsFor (function : String) (r : Ref) : Run σ (List Ref) :=
  check Fault.diagnostic fun s => (s.itemsOf function r).map (·.toList)

def mapItems (call : Caller σ) (f : Ref) (index : Nat) : List Ref → Run σ (List Ref)
  | [] => pure []
  | item :: items => do
    let i ← alloc (.int (Int64.ofNat index))
    let r ← call f none [item, i]
    let rs ← mapItems call f (index + 1) items
    pure (r :: rs)

def filterItems (call : Caller σ) (f : Ref) (index : Nat) : List Ref → Run σ (List Ref)
  | [] => pure []
  | item :: items => do
    let i ← alloc (.int (Int64.ofNat index))
    let verdict ← call f none [item, i]
    let keep ← truthy verdict
    let rs ← filterItems call f (index + 1) items
    pure (if keep then item :: rs else rs)

def reduceItems (call : Caller σ) (f : Ref) (index : Nat) (total : Ref) : List Ref → Run σ Ref
  | [] => pure total
  | item :: items => do
    let i ← alloc (.int (Int64.ofNat index))
    let r ← call f none [total, item, i]
    reduceItems call f (index + 1) r items

def findItem (call : Caller σ) (f : Ref) (index : Nat) : List Ref → Run σ (Option Ref)
  | [] => pure none
  | item :: items => do
    let i ← alloc (.int (Int64.ofNat index))
    let verdict ← call f none [item, i]
    if ← truthy verdict then pure (some item) else findItem call f (index + 1) items

/-- Inserts an item behind the last one that does not come after it, where the items already
sorted are held last one first. -/
def insertItem (call : Caller σ) (f item : Ref) : List Ref → Run σ (List Ref)
  | [] => pure [item]
  | last :: before => do
    let verdict ← call f none [last, item]
    let order ← orderNumber verdict
    if order ≤ 0 then pure (item :: last :: before)
    else do
      let rest ← insertItem call f item before
      pure (last :: rest)

/-- Inserts the items one by one into those already sorted. -/
def sortItems (call : Caller σ) (f : Ref) (sorted : List Ref) : List Ref → Run σ (List Ref)
  | [] => pure sorted
  | item :: items => do
    let sorted ← insertItem call f item sorted
    sortItems call f sorted items

/-- Calls a function for the elements of an array. -/
def traverse (call : Caller σ) (op : Traversal) (args : List Ref) : Run σ Ref :=
  match op, args with
  | .map, [a, f] => do
    let items ← itemsFor "std.collections.map" a
    let rs ← mapItems call f 0 items
    alloc (.array rs.toArray)
  | .filter, [a, f] => do
    let items ← itemsFor "std.collections.filter" a
    let rs ← filterItems call f 0 items
    alloc (.array rs.toArray)
  | .reduce, [a, f, start] => do
    let items ← itemsFor "std.collections.reduce" a
    reduceItems call f 0 start items
  | .find, [a, f] => do
    let items ← itemsFor "std.collections.find" a
    match ← findItem call f 0 items with
    | some r => pure r
    | none => alloc .none
  | .sortBy, [a, f] => do
    match ← cell a with
    | .array items =>
      let sorted ← sortItems call f [] items.toList
      onStore fun s => (a, s.modifyArray a fun _ => sorted.reverse.toArray)
    | _ => raise .sortTarget
  | op, args => raise (.arity op.name op.arity args.length)

end Run

end LayerScript
