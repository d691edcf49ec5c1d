import LayerScript.Json.Basic
import LayerScript.Store

/-!
# Values and JSON documents

`toDocument` reads a value as a JSON document, `fromDocument` builds a value from one. A value is
displayable when it is a map with a GeoJSON type, or a non-empty array of displayable values.
-/

namespace LayerScript

/-- A number that JSON can hold; others become null. -/
def Json.ofFloat (x : Float) : Json :=
  if x.isFinite then .float x else .null

namespace Store

/-- The document of a value that is nested fewer than `room` levels deep. -/
def documentWithin (s : Store) (room : Nat) (r : Ref) : Except Fault Json :=
  match room with
  | 0 => .error .documentDepth
  | room + 1 =>
    match s.cell r with
    | .none => .ok .null
    | .bool b => .ok (.bool b)
    | .int n => .ok (.int n)
    | .float x => .ok (.ofFloat x)
    | .text t => .ok (.string t)
    | .array items => do
      return .array (← items.toList.mapM (s.documentWithin room))
    | .map entries => do
      return .object (← entries.entries.mapM fun e => do return (e.1, ← s.documentWithin room e.2))
    | c => .error (.documentKind c.kind)
termination_by structural room

def toDocument (s : Store) (r : Ref) : Except Fault Json :=
  s.documentWithin (documentLimit + 1) r

mutual

def fromDocument (s : Store) : Json → Ref × Store
  | .null => s.alloc .none
  | .bool b => s.alloc (.bool b)
  | .int n => s.alloc (.int n)
  | .float x => s.alloc (.float x)
  | .string t => s.alloc (.text t)
  | .array items =>
    let (rs, s) := s.fromItems items
    s.alloc (.array rs.toArray)
  | .object entries =>
    let (es, s) := s.fromEntries entries
    s.alloc (.map (.ofList es))

def fromItems (s : Store) : List Json → List Ref × Store
  | [] => ([], s)
  | j :: js =>
    let (r, s) := s.fromDocument j
    let (rs, s) := s.fromItems js
    (r :: rs, s)

def fromEntries (s : Store) : List (String × Json) → List (String × Ref) × Store
  | [] => ([], s)
  | (key, j) :: js =>
    let (r, s) := s.fromDocument j
    let (rs, s) := s.fromEntries js
    ((key, r) :: rs, s)

end

end Store

/-! ## GeoJSON -/

def geoJsonTypes : List String :=
  ["FeatureCollection", "Feature", "Point", "MultiPoint", "LineString", "MultiLineString",
    "Polygon", "MultiPolygon", "GeometryCollection"]

namespace Store

/-- Whether a map has a string `type` among the GeoJSON types. -/
def hasGeoJsonType (s : Store) (entries : Dict Ref) : Bool :=
  match (entries.find? "type").map s.cell with
  | some (.text name) => name ∈ geoJsonTypes
  | _ => false

def displayableWithin (s : Store) (room : Nat) (r : Ref) : Bool :=
  match room with
  | 0 => false
  | room + 1 =>
    match s.cell r with
    | .map entries => s.hasGeoJsonType entries
    | .array items => !items.isEmpty && items.toList.all (s.displayableWithin room)
    | _ => false
termination_by structural room

def isDisplayable (s : Store) (r : Ref) : Bool :=
  s.displayableWithin (documentLimit + 1) r

end Store

end LayerScript
