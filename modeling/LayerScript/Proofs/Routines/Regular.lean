import LayerScript.Proofs.Routines.Code

/-!
# Regular routines

What programs are made of. A regular routine looks at the store but never at the sink, asks for the
strictness only where a name is assigned to or values are combined, and declares names only in the
present scope and in new ones. The evaluator, the native functions and calls are regular, so that a
property of all runs needs a proof for each of these steps only.
-/

namespace LayerScript

namespace Routine

variable {σ α β : Type} {p : Part}

inductive Regular {σ : Type} : {p : Part} → {α : Type} → Routine σ p α → Prop
  | pure {p : Part} {α : Type} (a : α) : Regular (pure a : Routine σ p α)
  | bind {p : Part} {α β : Type} {x : Routine σ p α} {f : α → Routine σ p β} (hx : Regular x)
    (hf : ∀ a, x.Gives a → Regular (f a)) : Regular (x >>= f)
  | exhausted {p : Part} {α : Type} : Regular (exhausted : Routine σ p α)
  | scope {p : Part} : Regular (read (·.scope) : Routine σ p ScopeId)
  | receiver {p : Part} : Regular (read (·.receiver) : Routine σ p Ref)
  | look {p : Part} {α : Type} (f : Store → α) : Regular (read fun m => f m.store : Routine σ p α)
  | effect {p : Part} {α : Type} {f : Store.Effect α} (inert : Store.Inert f) :
    Regular (onStore f : Routine σ p α)
  | declare (x : String) (value : Ref) (isMutable : Bool) :
    Regular (declare x value isMutable : Routine σ .body Unit)
  | assignName (span : Span) (x : String) (value : Ref) :
    Regular (assignName span x value : Routine σ .body Unit)
  | operation (span : Span) (op : BinaryOp) (a b : Ref) :
    Regular (operation span op a b : Routine σ .body Ref)
  | closure (name : Option String) (params : List Param) (body : List Stmt) (yields : Bool)
    (receiver : Option Ref) :
    Regular (closure name params body yields receiver : Routine σ .body Ref)
  | raise {α : Type} (fault : Fault) : Regular (raise fault : Routine σ .call α)
  | raiseAt {α : Type} (span : Span) (fault : Fault) :
    Regular (raiseAt span fault : Routine σ .body α)
  | inNewScope {α : Type} {x : Routine σ .body α} (hx : Regular x) : Regular (inNewScope x)
  | inArm {α : Type} (bound : List (String × Ref)) {x : Routine σ .body α} (hx : Regular x) :
    Regular (inArm bound x)
  | atCall {α : Type} (span : Span) {x : Routine σ .call α} (hx : Regular x) :
    Regular (atCall span x)
  | call (f : Ref) (receiver : Option Ref) (args : List Ref) :
    Regular (Routine.call f receiver args : Routine σ .call Ref)
  /-- What is called is looked up, and if it is a function its body is entered. -/
  | enter {f : Ref} {g : Cell → Routine σ .call Ref} {body : Closure → Routine σ .body Ref}
    (receiver : Option Ref) (args : List Ref)
    (function : ∀ c, g (.closure c) = activation f c (readyBody c receiver args) (body c))
    (hb : ∀ c, Regular (body c)) (other : ∀ c : Cell, c.Codeless → Regular (g c)) :
    Regular (cell f >>= g)
  | script (s : Script) (receiver : Ref) (args : List Ref) :
    Regular (script s receiver args : Routine σ .call Ref)
  | write (level : Level) (payload : List Ref) :
    Regular (write level payload : Routine σ .call Unit)

namespace Regular

/-- What enacts code is regular, whatever the code. -/
theorem of_enacts {code : Code} {x : Routine σ p α} (h : x.Enacts code) : x.Regular := by
  induction h with
  | pure a => exact .pure a
  | bind _ _ ihx ihf => exact ihx.bind ihf
  | exhausted => exact .exhausted
  | scope => exact .scope
  | receiver => exact .receiver
  | look f => exact .look f
  | effect inert => exact .effect inert
  | declare x value isMutable => exact .declare x value isMutable
  | assignName _ x value => exact .assignName _ x value
  | operation _ op a b => exact .operation _ op a b
  | lambda => exact receiver.bind fun _ _ => .closure ..
  | function => exact .closure ..
  | raise fault => exact .raise fault
  | raiseAt _ fault => exact .raiseAt _ fault
  | inNewScope _ ih => exact .inNewScope ih
  | inArm bound _ ih => exact .inArm bound ih
  | atCall _ _ ih => exact .atCall _ ih
  | call f args => exact .call f none args
  | write level payload => exact .write level payload

theorem sequence (fuel : Nat) (body : List Stmt) (last : Flow) :
    (sequence fuel body last : Routine σ .body _).Regular :=
  of_enacts ((enacting σ (.of body) fuel).sequence body last fun _ => .stmt)

theorem functionBody (fuel : Nat) (c : Closure) :
    (functionBody fuel c : Routine σ .body Ref).Regular :=
  of_enacts (Enacts.functionBody fuel c fun _ => .stmt : Enacts (.of c.body) _)

theorem programBody (fuel : Nat) (p : Program) :
    (programBody fuel p : Routine σ .body Ref).Regular :=
  of_enacts (Enacts.programBody fuel p fun _ => .stmt : Enacts (.of p.body) _)

theorem activate (fuel : Nat) (f : Ref) (receiver : Option Ref) (args : List Ref) :
    (activate fuel f receiver args : Routine σ .call Ref).Regular :=
  .enter receiver args (fun _ => rfl) (functionBody fuel) fun _ codeless =>
    of_enacts (Enacts.apply codeless fuel f receiver args : Enacts .none _)

end Regular

end Routine

end LayerScript
