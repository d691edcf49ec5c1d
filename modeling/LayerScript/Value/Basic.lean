import LayerScript.Decimal.Integer
import LayerScript.Dict
import LayerScript.Native.Basic
import LayerScript.Program.Basic

/-!
# Values

Scripts hold references. A scalar is part of its reference; everything else is a cell of the store,
so that arrays and maps change for all their holders.
-/

namespace LayerScript

/-- A value as scripts hold it: a scalar, which never changes, with a number that tells it apart
from the other scalars, or a cell of the store. -/
inductive Ref where
  | scalar (serial : Nat) (value : Literal)
  | cell (index : Nat)

instance : Inhabited Ref := ⟨.cell 0⟩

/-- Whether two references are one value. -/
def Ref.same : Ref → Ref → Bool
  | .scalar m _, .scalar n _ => m == n
  | .cell i, .cell j => i == j
  | _, _ => false

/-- A reference to a scope. -/
structure ScopeId where
  index : Nat
deriving DecidableEq, Repr, Inhabited

/-- A function of a script, with the scope it was made in. A lambda also keeps the receiver of the
place where it was made. -/
structure Closure where
  name : Option String
  params : List String
  body : List Stmt
  home : ScopeId
  yields : Bool
  receiver : Option Ref

/-- An index that lies within a length. -/
def indexIn? (n : Int64) (length : Nat) : Option Nat :=
  if 0 ≤ n.toInt ∧ n.toInt < length then some n.toInt.toNat else none

/-- What a value is. -/
inductive Cell where
  | none
  | bool (b : Bool)
  | int (n : Int64)
  | float (x : Float)
  | text (s : String)
  | array (items : Array Ref)
  | map (entries : Dict Ref)
  | module (path : List String) (exports : Dict Ref)
  | closure (f : Closure)
  | native (f : Native)

instance : Inhabited Cell := ⟨.none⟩

/-- The types that scripts can tell apart. -/
inductive Kind where
  | unit
  | bool
  | int
  | float
  | string
  | array
  | map
  | module
  | function
deriving DecidableEq, Repr

def Kind.title : Kind → String
  | .unit => "Unit"
  | .bool => "Bool"
  | .int => "Int"
  | .float => "Float"
  | .string => "String"
  | .array => "Array"
  | .map => "Map"
  | .module => "Module"
  | .function => "Function"

namespace Cell

def kind : Cell → Kind
  | .none => .unit
  | .bool _ => .bool
  | .int _ => .int
  | .float _ => .float
  | .text _ => .string
  | .array _ => .array
  | .map _ => .map
  | .module .. => .module
  | .closure _ => .function
  | .native _ => .function

/-- Nothing, false, zero and whatever is empty count as false. NaN counts as true. -/
def truthy : Cell → Bool
  | .none => false
  | .bool b => b
  | .int n => n ≠ 0
  | .float x => x != 0
  | .text s => !s.isEmpty
  | .array items => !items.isEmpty
  | .map entries => !entries.isEmpty
  | .module _ exports => !exports.isEmpty
  | .closure _ => true
  | .native _ => true

def isInt : Cell → Bool
  | .int _ => true
  | _ => false

/-- Whether the cell holds other values that scripts can replace. -/
def isComposite : Cell → Bool
  | .array _ | .map _ => true
  | _ => false

def number? : Cell → Option Float
  | .int n => some (Decimal.ofInteger n)
  | .float x => some x
  | _ => .none

def scalar? : Cell → Option Literal
  | .none => some .none
  | .bool b => some (.bool b)
  | .int n => some (.int n)
  | .float x => some (.float x)
  | .text s => some (.text s)
  | _ => Option.none

def ofLiteral : Literal → Cell
  | .none => .none
  | .bool b => .bool b
  | .int n => .int n
  | .float x => .float x
  | .text s => .text s

end Cell

end LayerScript
