import LayerScript.Json.Printer
import LayerScript.Json.Reader
import LayerScript.Text.Blank
import LayerScript.Text.Casing
import LayerScript.Text.Search
import LayerScript.Value.Display
import LayerScript.Value.Document
import LayerScript.Value.Equality

/-!
# Plain native functions

`Plain.run` applies a native function to its arguments. It first looks at the store, and returns
either a fault or the effect of the call.
-/

namespace LayerScript

/-- The whole numbers from `start` in steps of `step` that lie before `stop` in the direction of
the step. -/
def stepsBetween (start stop step : Int) : List Int :=
  let span := if 0 ≤ step then stop - start else start - stop
  let count := ((span + step.natAbs - 1) / step.natAbs).toNat
  (List.range count).map fun (k : Nat) => start + k * step

/-- A bound of a slice of `length` elements: negative ones count from the end. -/
def sliceBound (length : Nat) (n : Int64) : Nat :=
  let resolved := if n.toInt < 0 then length + n.toInt else n.toInt
  (max 0 (min resolved length)).toNat

namespace Store

def textOf (s : Store) (function : String) (r : Ref) : Except Fault String :=
  match s.cell r with
  | .text t => .ok t
  | c => .error (.argument function "String" c.kind)

def intOf (s : Store) (function : String) (r : Ref) : Except Fault Int64 :=
  match s.cell r with
  | .int n => .ok n
  | c => .error (.argument function "Int" c.kind)

def numberOf (s : Store) (function : String) (r : Ref) : Except Fault Float :=
  match (s.cell r).number? with
  | some x => .ok x
  | none => .error (.argument function "numeric" (s.cell r).kind)

def itemsOf (s : Store) (function : String) (r : Ref) : Except Fault (Array Ref) :=
  match s.cell r with
  | .array items => .ok items
  | c => .error (.argument function "Array" c.kind)

end Store

/-- The fault of a call with the wrong number of arguments. -/
def Plain.arityFault (op : Plain) (received : Nat) : Fault :=
  match op with
  | .get => .arityBetween "std.collections.get" 2 3 received
  | .stringify => .arityBetween "std.json.stringify" 1 2 received
  | _ => .arity op.name op.arity.1 received

namespace Plain

open Store (Effect)

/-! ## New values -/

def newText (cs : List Char) : Effect Ref :=
  (·.alloc (.text (String.ofList cs)))

def newBool (b : Bool) : Effect Ref :=
  (·.alloc (.bool b))

def newLength (n : Nat) : Effect Ref :=
  (·.alloc (.int (Int64.ofNat n)))

def newFloat (x : Float) : Effect Ref :=
  (·.alloc (.float x))

/-- An array of new values. -/
def newArray (cells : List Cell) : Effect Ref :=
  fun s =>
    let (rs, s) := s.allocAll cells
    s.alloc (.array rs.toArray)

def newTexts (texts : List (List Char)) : Effect Ref :=
  newArray (texts.map fun t => .text (String.ofList t))

/-- A value, or nothing. -/
def orNothing : Option Ref → Effect Ref
  | some r => .keep r
  | none => (·.alloc .none)

/-- Changes an array and has a result. -/
def onArray (r : Ref) (f : Array Ref → Array Ref) (result : Ref) : Effect Ref :=
  fun s => (result, s.modifyArray r f)

/-- Changes a map and has a result. -/
def onMap (r : Ref) (f : Dict Ref → Dict Ref) (result : Ref) : Effect Ref :=
  fun s => (result, s.modifyMap r f)

/-- Changes an array, which then has a length, and has this length as its result. -/
def lengthening (r : Ref) (f : Array Ref → Array Ref) (length : Nat) : Effect Ref :=
  fun s => newLength length (s.modifyArray r f)

/-! ## Texts -/

def runLen (s : Store) (r : Ref) : Except Fault (Effect Ref) :=
  match s.cell r with
  | .text t => .ok (newLength t.length)
  | .array items => .ok (newLength items.size)
  | .map entries => .ok (newLength entries.size)
  | _ => .error .lengthOf

/-- A new text made from a text. -/
def mapText (s : Store) (function : String) (f : List Char → List Char) (r : Ref) :
    Except Fault (Effect Ref) := do
  let t ← s.textOf function r
  return newText (f t.toList)

/-- A property of two texts. -/
def testTexts (s : Store) (function : String) (f : List Char → List Char → Bool) (a b : Ref) :
    Except Fault (Effect Ref) := do
  let t ← s.textOf function a
  let u ← s.textOf function b
  return newBool (f t.toList u.toList)

def runSplit (s : Store) (a b : Ref) : Except Fault (Effect Ref) := do
  let t ← s.textOf "std.string.split" a
  let separator ← s.textOf "std.string.split" b
  match separator.toList with
  | [] => throw .emptySeparator
  | c :: cs => return newTexts (Text.splitAt c cs t.toList)

def runReplace (s : Store) (a b c : Ref) : Except Fault (Effect Ref) := do
  let t ← s.textOf "std.string.replace" a
  let pattern ← s.textOf "std.string.replace" b
  let new ← s.textOf "std.string.replace" c
  return newText (Text.replace pattern.toList new.toList t.toList)

def runJoin (s : Store) (a b : Ref) : Except Fault (Effect Ref) := do
  let items ← s.itemsOf "std.string.join" a
  let separator ← s.textOf "std.string.join" b
  return newText (Text.join separator.toList (items.toList.map fun r => (s.display r).toList))

/-! ## Arrays and maps -/

def runPush (s : Store) (a value : Ref) : Except Fault (Effect Ref) :=
  match s.cell a with
  | .array items => .ok (lengthening a (·.push value) (items.size + 1))
  | _ => .error .pushTarget

def runPop (s : Store) (a : Ref) : Except Fault (Effect Ref) :=
  match s.cell a with
  | .array items =>
    match items.back? with
    | some last => .ok (onArray a (·.pop) last)
    | none => .ok (orNothing none)
  | _ => .error .popTarget

def runUnshift (s : Store) (a value : Ref) : Except Fault (Effect Ref) :=
  match s.cell a with
  | .array items => .ok (lengthening a (·.insertIdxIfInBounds 0 value) (items.size + 1))
  | _ => .error .unshiftTarget

def runInsert (s : Store) (a position value : Ref) : Except Fault (Effect Ref) :=
  match s.cell a with
  | .map _ => do
    let key ← s.textOf "std.collections.insert" position
    return onMap a (·.insert key value) a
  | .array items => do
    let n ← s.intOf "std.collections.insert" position
    match indexIn? n (items.size + 1) with
    | some i => return onArray a (·.insertIdxIfInBounds i value) a
    | none => throw (.insertBounds n items.size)
  | _ => .error .insertTarget

def runRemove (s : Store) (a position : Ref) : Except Fault (Effect Ref) :=
  match s.cell a with
  | .map entries => do
    let key ← s.textOf "std.collections.remove" position
    match entries.find? key with
    | some value => return onMap a (·.erase key) value
    | none => return orNothing none
  | .array items => do
    let n ← s.intOf "std.collections.remove" position
    match (indexIn? n items.size).bind fun i => items[i]?.map (i, ·) with
    | some (i, value) => return onArray a (·.eraseIdxIfInBounds i) value
    | none => return orNothing none
  | _ => .error .removeTarget

/-- The element of a key or index, if there is one. Nothing has no elements. -/
def element? (s : Store) (a position : Ref) : Except Fault (Option Ref) :=
  match s.cell a, s.cell position with
  | .map entries, .text key => .ok (entries.find? key)
  | .array items, .int n => .ok ((indexIn? n items.size).bind (items[·]?))
  | .none, _ => .ok none
  | c, p => .error (.lookup p.kind c.kind)

def runGet (s : Store) (a position : Ref) (fallback : Option Ref) : Except Fault (Effect Ref) := do
  return orNothing ((← element? s a position) <|> fallback)

def runHas (s : Store) (a value : Ref) : Except Fault (Effect Ref) :=
  match s.cell a with
  | .map entries => do
    let key ← s.textOf "std.collections.has" value
    return newBool (entries.contains key)
  | .array items => .ok (newBool (items.any fun r => s.equal r value))
  | _ => .error .hasTarget

def runKeys (s : Store) (a : Ref) : Except Fault (Effect Ref) :=
  match s.cell a with
  | .map entries => .ok (newArray (entries.keys.map .text))
  | _ => .error .keysTarget

def runValues (s : Store) (a : Ref) : Except Fault (Effect Ref) :=
  match s.cell a with
  | .map entries => .ok (·.alloc (.array entries.values.toArray))
  | .array items => .ok (·.alloc (.array items))
  | _ => .error .valuesTarget

/-- An array of new integers. -/
def newInts (ns : List Int) : Effect Ref :=
  newArray (ns.map fun n => .int (Int64.ofInt n))

def runRange (s : Store) (a b : Ref) : Except Fault (Effect Ref) := do
  let start ← s.intOf "std.collections.range" a
  let stop ← s.intOf "std.collections.range" b
  let step := if start ≤ stop then 1 else -1
  return newInts (stepsBetween start.toInt stop.toInt step)

def runRangeStep (s : Store) (a b c : Ref) : Except Fault (Effect Ref) := do
  let start ← s.intOf "std.collections.range" a
  let stop ← s.intOf "std.collections.range" b
  let step ← s.intOf "std.collections.range_step" c
  if step = 0 then throw .zeroStep
  return newInts (stepsBetween start.toInt stop.toInt step.toInt)

def runConcat (s : Store) (a b : Ref) : Except Fault (Effect Ref) := do
  let left ← s.itemsOf "std.collections.concat" a
  let right ← s.itemsOf "std.collections.concat" b
  let joined := Array.emptyWithCapacity (left.size + right.size) ++ left ++ right
  return (·.alloc (.array joined))

def runSlice (s : Store) (a b c : Ref) : Except Fault (Effect Ref) := do
  let items ← s.itemsOf "std.collections.slice" a
  let start ← s.intOf "std.collections.slice" b
  let stop ← s.intOf "std.collections.slice" c
  let first := sliceBound items.size start
  let last := sliceBound items.size stop
  return (·.alloc (.array (items.extract first last)))

/-! ## Numbers and documents -/

/-- The least integer has no integer as its absolute value. -/
def runAbs (s : Store) (a : Ref) : Except Fault (Effect Ref) :=
  match s.cell a with
  | .int n =>
    if n = Int64.minValue then .ok (newFloat (Decimal.ofInteger n).abs)
    else .ok (·.alloc (.int (if n < 0 then -n else n)))
  | _ => do return newFloat (← s.numberOf "std.math.abs" a).abs

def mapNumber (s : Store) (function : String) (f : Float → Float) (a : Ref) :
    Except Fault (Effect Ref) := do
  return newFloat (f (← s.numberOf function a))

def runSqrt (s : Store) (a : Ref) : Except Fault (Effect Ref) := do
  let x ← s.numberOf "std.math.sqrt" a
  if x < 0 then throw .negativeRoot
  return newFloat x.sqrt

def runPow (s : Store) (a b : Ref) : Except Fault (Effect Ref) := do
  let base ← s.numberOf "std.math.pow" a
  let exponent ← s.numberOf "std.math.pow" b
  return newFloat (base.pow exponent)

/-- The second number when it stands in the relation to the first, else the first. -/
def choose (s : Store) (function : String) (prefers : Float → Float → Bool) (a b : Ref) :
    Except Fault (Effect Ref) := do
  let x ← s.numberOf function a
  let y ← s.numberOf function b
  return .keep (if prefers y x then b else a)

def runStringify (s : Store) (a : Ref) (pretty : Bool) : Except Fault (Effect Ref) := do
  let j ← s.toDocument a
  return (·.alloc (.text (if pretty then j.pretty else j.compact)))

def runParse (s : Store) (a : Ref) : Except Fault (Effect Ref) := do
  let t ← s.textOf "std.json.parse" a
  match Json.read t with
  | .ok j => return (·.fromDocument j)
  | .error e => throw (.document e)

/-! ## All of them -/

def run (op : Plain) (args : List Ref) (s : Store) : Except Fault (Effect Ref) :=
  match op, args with
  | .len, [a] => runLen s a
  | .typeOf, [a] => .ok (newText (s.cell a).kind.title.toList)
  | .fail, [a] => .error (.scriptFailure (s.display a))
  | .isEmpty, [a] => do return newBool (← s.textOf "std.string.is_empty" a).isEmpty
  | .toUpper, [a] => mapText s "std.string.to_upper" Text.uppercase a
  | .toLower, [a] => mapText s "std.string.to_lower" Text.lowercase a
  | .trim, [a] => mapText s "std.string.trim" Text.trim a
  | .split, [a, b] => runSplit s a b
  | .replace, [a, b, c] => runReplace s a b c
  | .startsWith, [a, b] => testTexts s "std.string.starts_with" (fun t u => u.isPrefixOf t) a b
  | .endsWith, [a, b] => testTexts s "std.string.ends_with" (fun t u => u.isSuffixOf t) a b
  | .contains, [a, b] => testTexts s "std.string.contains" (fun t u => Text.contains u t) a b
  | .join, [a, b] => runJoin s a b
  | .toText, [a] => .ok (newText (s.display a).toList)
  | .push, [a, b] => runPush s a b
  | .pop, [a] => runPop s a
  | .unshift, [a, b] => runUnshift s a b
  | .insert, [a, b, c] => runInsert s a b c
  | .remove, [a, b] => runRemove s a b
  | .get, [a, b] => runGet s a b none
  | .get, [a, b, c] => runGet s a b (some c)
  | .has, [a, b] => runHas s a b
  | .keys, [a] => runKeys s a
  | .values, [a] => runValues s a
  | .range, [a, b] => runRange s a b
  | .rangeStep, [a, b, c] => runRangeStep s a b c
  | .concat, [a, b] => runConcat s a b
  | .slice, [a, b, c] => runSlice s a b c
  | .abs, [a] => runAbs s a
  | .floor, [a] => mapNumber s "std.math.floor" Float.floor a
  | .ceil, [a] => mapNumber s "std.math.ceil" Float.ceil a
  | .sqrt, [a] => runSqrt s a
  | .round, [a] => mapNumber s "std.math.round" Float.round a
  | .pow, [a, b] => runPow s a b
  | .min, [a, b] => choose s "std.math.min" (fun y x => y < x) a b
  | .max, [a, b] => choose s "std.math.max" (fun y x => x < y) a b
  | .stringify, [a] => runStringify s a false
  | .stringify, [a, b] => runStringify s a (s.cell b).truthy
  | .parse, [a] => runParse s a
  | op, args => .error (op.arityFault args.length)

end Plain

end LayerScript
