import LayerScript.Console.Dispatch
import LayerScript.Json.Printer
import LayerScript.Value.Display
import LayerScript.Value.Document

/-!
# The console panel

The panel keeps a line for each event it sees, with the time and the level.
-/

namespace LayerScript

/-- The lines shown, the number of lines ever recorded, and the time for new lines. -/
structure Panel where
  lines : Array String
  count : Nat
  clock : String
deriving DecidableEq, Repr, Inhabited

/-- Arrays and maps as indented JSON. Other values, and those that JSON cannot hold, as they are
displayed. -/
def Store.panelItem (s : Store) (r : Ref) : String :=
  if (s.cell r).isComposite then
    match s.toDocument r with
    | .ok document => document.pretty
    | .error _ => s.display r
  else s.display r

namespace Panel

def empty (clock : String) : Panel :=
  ⟨#[], 0, clock⟩

def record (p : Panel) (s : Store) (level : Level) (payload : List Ref) : Panel :=
  let content := joinWith " " (payload.map s.panelItem)
  { p with
    lines := p.lines.push ("[" ++ p.clock ++ "] [" ++ level.label ++ "] " ++ content)
    count := p.count + 1 }

/-- Takes away the lines shown. -/
def clear (p : Panel) : Panel :=
  { p with lines := #[] }

/-- Records every event in the panel of the host. -/
def observer {η : Type} (change : (Panel → Panel) → η → η) : Observer η :=
  fun s level payload => .update (change fun p => p.record s level payload) .accept

end Panel

end LayerScript
