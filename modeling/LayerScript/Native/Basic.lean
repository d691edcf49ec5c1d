import LayerScript.Console.Level

/-!
# Native functions

The functions that scripts find in the prelude. A plain one works on the store alone, a traversal
calls a function for the elements of an array, and the console ones write a line.
-/

namespace LayerScript

inductive Plain where
  | len
  | typeOf
  | fail
  | isEmpty
  | toUpper
  | toLower
  | trim
  | split
  | replace
  | startsWith
  | endsWith
  | contains
  | join
  | toText
  | push
  | pop
  | unshift
  | insert
  | remove
  | get
  | has
  | keys
  | values
  | range
  | rangeStep
  | concat
  | slice
  | abs
  | floor
  | ceil
  | sqrt
  | round
  | pow
  | min
  | max
  | stringify
  | parse
deriving DecidableEq, Repr

inductive Traversal where
  | map
  | filter
  | reduce
  | find
  | sortBy
deriving DecidableEq, Repr

inductive Native where
  | plain (op : Plain)
  | traversal (op : Traversal)
  | console (level : Level)
deriving DecidableEq, Repr

def Plain.name : Plain → String
  | .len => "len"
  | .typeOf => "type_of"
  | .fail => "fail"
  | .isEmpty => "is_empty"
  | .toUpper => "to_upper"
  | .toLower => "to_lower"
  | .trim => "trim"
  | .split => "split"
  | .replace => "replace"
  | .startsWith => "starts_with"
  | .endsWith => "ends_with"
  | .contains => "contains"
  | .join => "join"
  | .toText => "from"
  | .push => "push"
  | .pop => "pop"
  | .unshift => "unshift"
  | .insert => "insert"
  | .remove => "remove"
  | .get => "get"
  | .has => "has"
  | .keys => "keys"
  | .values => "values"
  | .range => "range"
  | .rangeStep => "range_step"
  | .concat => "concat"
  | .slice => "slice"
  | .abs => "abs"
  | .floor => "floor"
  | .ceil => "ceil"
  | .sqrt => "sqrt"
  | .round => "round"
  | .pow => "pow"
  | .min => "min"
  | .max => "max"
  | .stringify => "stringify"
  | .parse => "parse"

def Traversal.name : Traversal → String
  | .map => "map"
  | .filter => "filter"
  | .reduce => "reduce"
  | .find => "find"
  | .sortBy => "sort_by"

def Native.name : Native → String
  | .plain op => op.name
  | .traversal op => op.name
  | .console level => level.method

/-- The least and greatest number of arguments. -/
def Plain.arity : Plain → Nat × Nat
  | .len | .typeOf | .fail | .isEmpty | .toUpper | .toLower | .trim | .toText | .pop | .keys
  | .values | .abs | .floor | .ceil | .sqrt | .round | .parse => (1, 1)
  | .split | .startsWith | .endsWith | .contains | .join | .push | .unshift | .remove | .has
  | .range | .concat | .pow | .min | .max => (2, 2)
  | .replace | .insert | .rangeStep | .slice => (3, 3)
  | .get => (2, 3)
  | .stringify => (1, 2)

def Traversal.arity : Traversal → Nat
  | .reduce => 3
  | _ => 2

end LayerScript
