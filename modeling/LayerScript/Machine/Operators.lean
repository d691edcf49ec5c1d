import LayerScript.Decimal.Binary64
import LayerScript.Text.Character
import LayerScript.Value.Display
import LayerScript.Value.Equality

/-!
# Operators

What the operators do with the cells of their operands. Numbers are computed as floats; the result
of two integers is an integer again when it is whole.
-/

namespace LayerScript

/-! ## Numbers -/

def ArithmeticOp.apply : ArithmeticOp → Float → Float → Float
  | .add, x, y => x + y
  | .sub, x, y => x - y
  | .mul, x, y => x * y
  | .div, x, y => x / y
  | .mod, x, y => Decimal.remainder x y

def numberOperand (c : Cell) : Except Fault Float :=
  match c.number? with
  | some x => .ok x
  | none => .error (.notNumeric c.kind)

/-- A whole result of integers is an integer, the nearest one if it is out of range. -/
def arithmetic (op : ArithmeticOp) (a b : Cell) : Except Fault Cell := do
  let x ← numberOperand a
  let y ← numberOperand b
  let result := op.apply x y
  return if a.isInt && b.isInt && Decimal.isWhole result then
    .int (Decimal.toInteger result) else .float result

def ComparisonOp.floats : ComparisonOp → Float → Float → Bool
  | .less, x, y => x < y
  | .lessEqual, x, y => x ≤ y
  | .greater, x, y => y < x
  | .greaterEqual, x, y => y ≤ x

def ComparisonOp.texts : ComparisonOp → String → String → Bool
  | .less, s, t => s < t
  | .lessEqual, s, t => !(t < s)
  | .greater, s, t => t < s
  | .greaterEqual, s, t => !(s < t)

/-- Two strings compare by their characters, anything else as numbers. -/
def comparison (op : ComparisonOp) (a b : Cell) : Except Fault Cell :=
  match a, b with
  | .text s, .text t => .ok (.bool (op.texts s t))
  | a, b => do
    let x ← numberOperand a
    let y ← numberOperand b
    return .bool (op.floats x y)

/-- The least integer has no integer as its negation. -/
def negate (c : Cell) : Except Fault Cell :=
  match c with
  | .int n => .ok (if n = Int64.minValue then .float (-Decimal.ofInteger n) else .int (-n))
  | .float x => .ok (.float (-x))
  | c => .error (.notNegatable c.kind)

namespace Store

/-- A string and another value are joined as text, unless the code is strict. -/
def addition (s : Store) (strict : Bool) (a b : Ref) : Except Fault Cell :=
  match s.cell a, s.cell b with
  | .text t, .text u => .ok (.text (t ++ u))
  | .text _, other =>
    if strict then .error (.strictAddition .string other.kind)
    else .ok (.text (s.display a ++ s.display b))
  | other, .text _ =>
    if strict then .error (.strictAddition other.kind .string)
    else .ok (.text (s.display a ++ s.display b))
  | c, d => arithmetic .add c d

def binary (s : Store) (strict : Bool) (op : BinaryOp) (a b : Ref) : Except Fault Cell :=
  match op with
  | .arithmetic .add => s.addition strict a b
  | .arithmetic op => arithmetic op (s.cell a) (s.cell b)
  | .comparison op => comparison op (s.cell a) (s.cell b)
  | .equal => .ok (.bool (s.equal a b))
  | .notEqual => .ok (.bool (!s.equal a b))

def unary (s : Store) (op : UnaryOp) (a : Ref) : Except Fault Cell :=
  match op with
  | .negate => negate (s.cell a)
  | .not => .ok (.bool (!(s.cell a).truthy))

/-! ## Elements and fields -/

/-- An element of an array, a character of a string or an entry of a map. -/
def element (s : Store) (target position : Ref) : Except Fault (Effect Ref) :=
  match s.cell target, s.cell position with
  | .array items, .int n =>
    match (indexIn? n items.size).bind (items[·]?) with
    | some r => .ok (.keep r)
    | none => .error (.elementBounds n items.size)
  | .text t, .int n =>
    match (indexIn? n t.length).bind (Text.charAt? t) with
    | some c => .ok (·.alloc (.text (String.singleton c)))
    | none => .error (.characterBounds n)
  | .map entries, .text key =>
    match entries.find? key with
    | some r => .ok (.keep r)
    | none => .error (.missingKey key)
  | c, p => .error (.elementSource c.kind p.kind)

/-- Assigns to an element. -/
def assignElement (s : Store) (target position value : Ref) : Except Fault (Effect Unit) :=
  match s.cell target, s.cell position with
  | .array items, .int n =>
    match indexIn? n items.size with
    | some i => .ok fun s => ((), s.modifyArray target (·.setIfInBounds i value))
    | none => .error (.elementBounds n items.size)
  | .map _, .text key => .ok fun s => ((), s.modifyMap target (·.insert key value))
  | c, p => .error (.elementTarget c.kind p.kind)

def field (s : Store) (target : Ref) (name : String) : Except Fault Ref :=
  let found (entries : Dict Ref) : Except Fault Ref :=
    match entries.find? name with
    | some r => .ok r
    | none => .error (.missingField name)
  match s.cell target with
  | .map entries => found entries
  | .module _ exports => found exports
  | c => .error (.fieldSource name c.kind)

def assignField (s : Store) (target : Ref) (name : String) (value : Ref) :
    Except Fault (Effect Unit) :=
  match s.cell target with
  | .map _ => .ok fun s => ((), s.modifyMap target (·.insert name value))
  | c => .error (.fieldTarget c.kind)

/-- The text of a map key. -/
def mapKey (s : Store) (r : Ref) : Except Fault String :=
  match s.cell r with
  | .text t => .ok t
  | .int n => .ok (String.ofList (Decimal.integer n.toInt))
  | c => .error (.mapKey c.kind)

/-- The values that an iteration visits: elements, characters, or pairs of key and value. -/
def iterate (s : Store) (r : Ref) : Except Fault (Effect (List Ref)) :=
  match s.cell r with
  | .array items => .ok (.keep items.toList)
  | .text t => .ok (·.allocAll (t.toList.map fun c => .text (String.singleton c)))
  | .map entries => .ok fun s =>
    let (keys, s) := s.allocAll (entries.keys.map .text)
    s.allocAll ((keys.zip entries.values).map fun e => .array #[e.1, e.2])
  | c => .error (.notIterable c.kind)

end Store

/-! ## Patterns -/

mutual

/-- The names that a pattern binds when it matches a value, from first to last. -/
def Pattern.bindings? (s : Store) (p : Pattern) (r : Ref) : Option (List (String × Ref)) :=
  match p with
  | .wildcard => some []
  | .literal value => if s.equalsLiteral value r then some [] else none
  | .name x => some [(x, r)]
  | .tuple parts =>
    match s.cell r with
    | .array items =>
      if parts.length = items.size then Pattern.allBindings? s parts items.toList else none
    | _ => none

/-- As many patterns as values, each matching. -/
def Pattern.allBindings? (s : Store) (ps : List Pattern) (rs : List Ref) :
    Option (List (String × Ref)) :=
  match ps, rs with
  | [], [] => some []
  | p :: ps, r :: rs =>
    match Pattern.bindings? s p r with
    | some bound => (Pattern.allBindings? s ps rs).map (bound ++ ·)
    | none => none
  | _, _ => none

end

end LayerScript
