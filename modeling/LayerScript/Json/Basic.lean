import LayerScript.Dict

/-!
# JSON documents

Objects list their entries in order. Numbers are 64-bit integers or floats.
-/

namespace LayerScript

inductive Json where
  | null
  | bool (b : Bool)
  | int (n : Int64)
  | float (x : Float)
  | string (s : String)
  | array (items : List Json)
  | object (entries : List (String × Json))
deriving Inhabited

end LayerScript
