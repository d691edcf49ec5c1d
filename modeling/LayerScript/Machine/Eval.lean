import LayerScript.Machine.Basic
import LayerScript.Machine.Operators
import LayerScript.Program.Basic

/-!
# Running programs

The evaluator of expressions and statements. How calls are made is left open. Each function runs
one part of a program on less fuel than it was given and ends without an answer when there is none
left.
-/

namespace LayerScript

/-- How a statement ends: with or without a value, or by leaving what surrounds it. -/
inductive Flow where
  | next
  | value (r : Ref)
  | return (r : Ref)
  | break (r : Option Ref)
  | continue

/-- How a loop goes on after its body: `none` for another round, else the end of the loop. -/
def Flow.afterRound : Flow → Option Flow
  | .next | .value _ | .continue => none
  | .break none => some .next
  | .break (some r) => some (.value r)
  | .return r => some (.return r)

/-- Whether the left operand decides the result. -/
def LogicalOp.decides (op : LogicalOp) (left : Cell) : Bool :=
  match op with
  | .and => !left.truthy
  | .or => left.truthy

namespace Store

/-- Declares the names that a pattern has bound. -/
def declareAll (s : Store) (scope : ScopeId) (bound : List (String × Ref)) : Store :=
  bound.foldl (fun s b => s.declare scope b.1 b.2 true) s

end Store

/-- Makes calls: of a function, with a receiver and with arguments. The receiver is the value of
`this` for functions that have none of their own. -/
abbrev Caller (σ : Type) := Ref → Option Ref → List Ref → Run σ Ref

namespace Run

variable {σ : Type}

def truthy (r : Ref) : Run σ Bool := do
  return (← cell r).truthy

def name (span : Span) (x : String) : Run σ Ref := do
  let scope ← read (·.scope)
  check (·.locatedAt span) (·.lookup scope x)

def assignName (span : Span) (x : String) (value : Ref) : Run σ Unit := do
  let scope ← read (·.scope)
  let strict ← read (·.strict)
  let owner ← check (·.locatedAt span) (·.assignee scope x strict)
  onStore fun s => ((), s.declare owner x value true)

/-- Puts the result of an operator at a new reference. -/
def operator (span : Span) (f : Store → Except Fault Cell) : Run σ Ref := do
  alloc (← check (·.locatedAt span) f)

/-- Makes a function of the present scope. -/
def closure (name : Option String) (params : List Param) (body : List Stmt) (yields : Bool)
    (receiver : Option Ref) : Run σ Ref := do
  let home ← read (·.scope)
  alloc (.closure ⟨name, params.map (·.name), body, home, yields, receiver⟩)

/-- Assigns to an element. The place of an index out of bounds is that of the index. -/
def assignElement (span positionSpan : Span) (target position value : Ref) : Run σ Unit :=
  attempt explain (·.assignElement target position value)
where
  explain (fault : Fault) : Diagnostic :=
    match fault with
    | .elementBounds .. => fault.locatedAt positionSpan
    | _ => fault.locatedAt span

/-- The bindings of the first arm that matches a value, and its body. -/
def firstMatch? (s : Store) (r : Ref) : List Arm → Option (List (String × Ref) × List Stmt)
  | [] => none
  | .mk _ pattern body :: arms =>
    match pattern.bindings? s r with
    | some bound => some (bound, body)
    | none => firstMatch? s r arms

mutual

/-- The value of an expression. -/
def evaluate (call : Caller σ) (fuel : Nat) (e : Expr) : Run σ Ref :=
  match fuel with
  | 0 => exhausted
  | fuel + 1 =>
    match e with
    | .literal _ value => alloc (.ofLiteral value)
    | .name span x => name span x
    | .this _ => read (·.receiver)
    | .binary span op left right => do
      let a ← evaluate call fuel left
      let b ← evaluate call fuel right
      let strict ← read (·.strict)
      operator span (·.binary strict op a b)
    | .logical _ op left right => do
      let a ← evaluate call fuel left
      if op.decides (← cell a) then pure a else evaluate call fuel right
    | .unary span op operand => do
      let a ← evaluate call fuel operand
      operator span (·.unary op a)
    | .assign _ target value => do
      let r ← evaluate call fuel value
      assign call fuel target r
      pure r
    | .call span callee args => do
      let f ← evaluate call fuel callee
      let rs ← evaluateAll call fuel args
      atCall span (call f none rs)
    | .array _ items => do
      let rs ← evaluateAll call fuel items
      alloc (.array rs.toArray)
    | .map _ entries => do
      let es ← evaluateEntries call fuel .empty entries
      alloc (.map es)
    | .group _ inner => evaluate call fuel inner
    | .index span target position => do
      let a ← evaluate call fuel target
      let b ← evaluate call fuel position
      attempt (·.locatedAt span) (·.element a b)
    | .field span target x => do
      let a ← evaluate call fuel target
      check (·.locatedAt span) (·.field a x)
    | .lambda _ params body yields => do
      let receiver ← read (·.receiver)
      closure none params body yields (some receiver)

/-- The values of expressions, from first to last. -/
def evaluateAll (call : Caller σ) (fuel : Nat) (es : List Expr) : Run σ (List Ref) :=
  match fuel with
  | 0 => exhausted
  | fuel + 1 =>
    match es with
    | [] => pure []
    | e :: es => do
      let r ← evaluate call fuel e
      let rs ← evaluateAll call fuel es
      pure (r :: rs)

/-- The entries of a map, added to those already evaluated. -/
def evaluateEntries (call : Caller σ) (fuel : Nat) (done : Dict Ref) (es : List (Expr × Expr)) :
    Run σ (Dict Ref) :=
  match fuel with
  | 0 => exhausted
  | fuel + 1 =>
    match es with
    | [] => pure done
    | (key, value) :: es => do
      let k ← evaluate call fuel key
      let text ← check (·.locatedAt key.span) (·.mapKey k)
      let r ← evaluate call fuel value
      evaluateEntries call fuel (done.insert text r) es

/-- Assigns a value to a name, a field or an element. -/
def assign (call : Caller σ) (fuel : Nat) (target : Expr) (value : Ref) : Run σ Unit :=
  match fuel with
  | 0 => exhausted
  | fuel + 1 =>
    match target with
    | .name span x => assignName span x value
    | .field span owner x => do
      let a ← evaluate call fuel owner
      attempt (·.locatedAt span) (·.assignField a x value)
    | .index span owner position => do
      let a ← evaluate call fuel owner
      let b ← evaluate call fuel position
      assignElement span position.span a b value
    | e => raiseAt e.span .invalidTarget

/-- Runs statements until one leaves what surrounds them. The flow of the others is that of the
last one with a value. The span is that of the statement that left. -/
def sequence (call : Caller σ) (fuel : Nat) (body : List Stmt) (last : Flow) :
    Run σ (Flow × Span) :=
  match fuel with
  | 0 => exhausted
  | fuel + 1 =>
    match body with
    | [] => pure (last, default)
    | first :: body => do
      match ← execute call fuel first with
      | .next => sequence call fuel body last
      | .value r => sequence call fuel body (.value r)
      | flow => pure (flow, first.span)

/-- Runs statements in a scope of their own. -/
def block (call : Caller σ) (fuel : Nat) (body : List Stmt) : Run σ Flow :=
  match fuel with
  | 0 => exhausted
  | fuel + 1 => inNewScope (Prod.fst <$> sequence call fuel body .next)

def execute (call : Caller σ) (fuel : Nat) (s : Stmt) : Run σ Flow :=
  match fuel with
  | 0 => exhausted
  | fuel + 1 =>
    match s with
    | .varDecl _ x initial => do
      let r ← match initial with
        | some e => evaluate call fuel e
        | none => alloc .none
      declare x r true
      pure .next
    | .constDecl _ x e => do
      let r ← evaluate call fuel e
      declare x r false
      pure .next
    | .fnDecl _ x params body => do
      let r ← closure (some x) params body false none
      declare x r false
      pure .next
    | .expr _ e => .value <$> evaluate call fuel e
    | .block _ body => block call fuel body
    | .ifElse _ condition yes no => do
      let r ← evaluate call fuel condition
      if ← truthy r then block call fuel yes
      else match no with
        | some body => block call fuel body
        | none => pure .next
    | .whileLoop _ condition body => whileLoop call fuel condition body
    | .loop _ body => loop call fuel body
    | .forLoop _ x iterable body => do
      let r ← evaluate call fuel iterable
      let items ← attempt (·.locatedAt iterable.span) (·.iterate r)
      forLoop call fuel x body items
    | .when _ subject arms => do
      let r ← evaluate call fuel subject
      match ← read fun m => firstMatch? m.store r arms with
      | none => pure .next
      | some (bound, body) => inNewScope do
        let scope ← read (·.scope)
        onStore fun s => ((), s.declareAll scope bound)
        block call fuel body
    | .return _ value => do
      let r ← match value with
        | some e => evaluate call fuel e
        | none => alloc .none
      pure (.return r)
    | .break _ value => do
      match value with
      | some e => (.break ∘ some) <$> evaluate call fuel e
      | none => pure (.break none)
    | .continue _ => pure .continue

def whileLoop (call : Caller σ) (fuel : Nat) (condition : Expr) (body : List Stmt) : Run σ Flow :=
  match fuel with
  | 0 => exhausted
  | fuel + 1 => do
    let r ← evaluate call fuel condition
    if ← truthy r then
      let flow ← block call fuel body
      match flow.afterRound with
      | none => whileLoop call fuel condition body
      | some flow => pure flow
    else pure .next

def loop (call : Caller σ) (fuel : Nat) (body : List Stmt) : Run σ Flow :=
  match fuel with
  | 0 => exhausted
  | fuel + 1 => do
    let flow ← block call fuel body
    match flow.afterRound with
    | none => loop call fuel body
    | some flow => pure flow

/-- Runs the body once for each value, with a name bound to it. -/
def forLoop (call : Caller σ) (fuel : Nat) (x : String) (body : List Stmt) (items : List Ref) :
    Run σ Flow :=
  match fuel with
  | 0 => exhausted
  | fuel + 1 =>
    match items with
    | [] => pure .next
    | item :: items => do
      let flow ← inNewScope do
        declare x item true
        block call fuel body
      match flow.afterRound with
      | none => forLoop call fuel x body items
      | some flow => pure flow

end

end Run

end LayerScript
