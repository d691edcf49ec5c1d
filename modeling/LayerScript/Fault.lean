import LayerScript.Diagnostic
import LayerScript.Json.Flaw
import LayerScript.Value.Basic

/-!
# Failures of running scripts

Each way in which a script can fail, with its message and the advice that goes with it.
-/

namespace LayerScript

/-- Script calls may be nested this deep. -/
def callLimit : Nat := 200

/-- Documents may be nested this deep. -/
def documentLimit : Nat := 128

inductive Fault where
  | notCallable (kind : Kind)
  | callLimit
  | strayLoopControl
  | strayBreak
  | strayContinue
  | undefined (name : String)
  | immutable (name : String)
  | undeclared (name : String)
  | invalidTarget
  | fieldTarget (kind : Kind)
  | elementTarget (target position : Kind)
  | elementBounds (position : Int64) (length : Nat)
  | characterBounds (position : Int64)
  | elementSource (target position : Kind)
  | missingKey (key : String)
  | fieldSource (field : String) (kind : Kind)
  | missingField (field : String)
  | notIterable (kind : Kind)
  | mapKey (kind : Kind)
  | notNegatable (kind : Kind)
  | notNumeric (kind : Kind)
  | strictAddition (left right : Kind)
  | arity (name : String) (expected received : Nat)
  | arityBetween (name : String) (least greatest received : Nat)
  | argument (function expected : String) (found : Kind)
  | scriptFailure (message : String)
  | console (level : Level) (error : SinkError)
  | emptySeparator
  | lengthOf
  | pushTarget
  | popTarget
  | unshiftTarget
  | insertTarget
  | insertBounds (position : Int64) (length : Nat)
  | removeTarget
  | lookup (position target : Kind)
  | hasTarget
  | keysTarget
  | valuesTarget
  | zeroStep
  | sortTarget
  | negativeRoot
  | document (error : Json.Error)
  | documentDepth
  | documentKind (kind : Kind)
deriving DecidableEq, Repr

namespace Fault

def message : Fault → String
  | .notCallable kind => s!"value of type {kind.title} is not callable"
  | .callLimit => s!"maximum call depth of {LayerScript.callLimit} exceeded"
  | .strayLoopControl => "loop control flow cannot escape function"
  | .strayBreak => "`break` outside loop"
  | .strayContinue => "`continue` outside loop"
  | .undefined name => s!"undefined variable `{name}`"
  | .immutable name => s!"cannot assign to immutable binding `{name}`"
  | .undeclared name => s!"assignment to undeclared variable `{name}`"
  | .invalidTarget => "invalid assignment target"
  | .fieldTarget kind => s!"field assignment expects Map target, found {kind.title}"
  | .elementTarget target position => s!"cannot index-assign {target.title} with {position.title}"
  | .elementBounds position length => s!"index {position} out of bounds for length {length}"
  | .characterBounds position => s!"index {position} out of bounds"
  | .elementSource target position => s!"cannot index {target.title} with {position.title}"
  | .missingKey key => s!"missing field `{key}`"
  | .fieldSource field kind => s!"cannot read field `{field}` of {kind.title}"
  | .missingField field => s!"missing field `{field}`"
  | .notIterable kind => s!"value of type {kind.title} is not iterable"
  | .mapKey kind => s!"map keys must be String or Int, found {kind.title}"
  | .notNegatable kind => s!"unary `-` expects numeric value, found {kind.title}"
  | .notNumeric kind => s!"expected numeric value, found {kind.title}"
  | .strictAddition left right => s!"cannot add {left.title} and {right.title} in strict mode"
  | .arity name expected received =>
    s!"function `{name}` expected {expected} arguments but received {received}"
  | .arityBetween name least greatest received =>
    s!"`{name}` expected {least} to {greatest} arguments but received {received}"
  | .argument function expected found =>
    s!"`{function}` expected {expected} but found {found.title}"
  | .scriptFailure message => message
  | .console level error => s!"console.{level.method} failed: {error.message}"
  | .emptySeparator => "separator must not be empty"
  | .lengthOf => "len expects string, array, or map"
  | .pushTarget => "push expects array as first argument"
  | .popTarget => "pop expects array"
  | .unshiftTarget => "unshift expects array as first argument"
  | .insertTarget => "insert expects map or array as first argument"
  | .insertBounds position length => s!"insert index {position} out of bounds for length {length}"
  | .removeTarget => "remove expects map or array as first argument"
  | .lookup position target => s!"get cannot look up {position.title} in {target.title}"
  | .hasTarget => "has expects map or array"
  | .keysTarget => "keys expects map"
  | .valuesTarget => "values expects map or array"
  | .zeroStep => "range step must be non-zero"
  | .sortTarget => "sort_by expects array as first argument"
  | .negativeRoot => "sqrt expects non-negative input"
  | .document error => s!"JSON error: {error.message}"
  | .documentDepth => s!"value nests deeper than {documentLimit} levels"
  | .documentKind kind => s!"{kind.title} values cannot be converted to JSON"

def notes : Fault → List String
  | .undeclared _ => ["declare it first with `var` or `const`"]
  | .strictAddition .. => ["convert explicitly with `std.string.from(value)`"]
  | .missingField _ => ["use `std.collections.get(map, key, default)` for optional fields"]
  | _ => []

def diagnostic (f : Fault) : Diagnostic :=
  ⟨.runtime, f.message, none, f.notes, []⟩

/-- The diagnostic of a fault whose place is known. -/
def locatedAt (f : Fault) (span : Span) : Diagnostic :=
  f.diagnostic.withSpan span

end Fault

end LayerScript
