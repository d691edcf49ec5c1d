import LayerScript.Decimal.Numeral
import LayerScript.Store

/-!
# Text of values

Strings inside arrays and maps are quoted. Arrays and maps sixteen deep are left out, so that
values that contain themselves have a text too.
-/

namespace LayerScript

def displayDepth : Nat := 16

def joinWith (separator : String) (pieces : List String) : String :=
  separator.intercalate pieces

namespace Store

/-- The text of a value, showing `room` levels of arrays and maps. -/
def displayWithin (s : Store) (quoted : Bool) (room : Nat) (r : Ref) : String :=
  match s.cell r with
  | .none => "none"
  | .bool b => if b then "true" else "false"
  | .int n => String.ofList (Decimal.integer n.toInt)
  | .float x => String.ofList (Decimal.floatText x)
  | .text t => if quoted then "\"" ++ t ++ "\"" else t
  | .array items =>
    match room with
    | 0 => "..."
    | room + 1 => "[" ++ joinWith ", " (items.toList.map (s.displayWithin true room)) ++ "]"
  | .map entries =>
    match room with
    | 0 => "..."
    | room + 1 =>
      let shown := entries.entries.map fun e => e.1 ++ ": " ++ s.displayWithin true room e.2
      "\x7b" ++ joinWith ", " shown ++ "\x7d"
  | .module path _ => "<module " ++ joinWith "." path ++ ">"
  | .closure f => "<fn " ++ f.name.getD "anonymous" ++ ">"
  | .native f => "<native fn " ++ f.name ++ ">"
termination_by structural room

def display (s : Store) (r : Ref) : String :=
  s.displayWithin false displayDepth r

/-- Like `display`, with quotes around a string. -/
def debug (s : Store) (r : Ref) : String :=
  s.displayWithin true displayDepth r

/-- The texts of values with a blank between neighbours. -/
def displayAll (s : Store) (rs : List Ref) : String :=
  joinWith " " (rs.map s.display)

end Store

end LayerScript
