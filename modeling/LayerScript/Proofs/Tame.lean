import LayerScript.Machine.Operators
import LayerScript.Native.Plain

/-!
# Tame checks

Loop control that is found outside of all loops is a fault of the code around it, and only the end
of that code finds it. The operators and the plain native functions have faults of their own.
-/

namespace LayerScript

/-- Whether loop control has gone astray. -/
def Fault.isStray : Fault → Bool
  | .strayLoopControl | .strayBreak | .strayContinue => true
  | _ => false

/-- A check that fails without loop control that has gone astray. -/
inductive Tame {α : Type} : Except Fault α → Prop
  | ok (a : α) : Tame (.ok a)
  | error {fault : Fault} (own : fault.isStray = false) : Tame (.error fault)

namespace Tame

variable {α β : Type}

theorem of_error {fault : Fault} (h : Tame (.error fault : Except Fault α)) :
    fault.isStray = false := by
  cases h with
  | error own => exact own

theorem bind {x : Except Fault α} {f : α → Except Fault β} (hx : Tame x) (hf : ∀ a, Tame (f a)) :
    Tame (x >>= f) := by
  cases hx with
  | ok a => exact hf a
  | error own => exact .error own

theorem map {x : Except Fault α} (hx : Tame x) (f : α → β) : Tame (x.map f) := by
  cases hx with
  | ok a => exact .ok (f a)
  | error own => exact .error own

theorem mapM {f : α → Except Fault β} (hf : ∀ a, Tame (f a)) (as : List α) :
    Tame (as.mapM f) := by
  induction as with
  | nil => exact .ok []
  | cons a as ih =>
    rw [List.mapM_cons]
    exact (hf a).bind fun b => ih.bind fun bs => .ok (b :: bs)

end Tame

/-! ## Numbers -/

theorem tame_numberOperand (c : Cell) : Tame (numberOperand c) := by
  unfold numberOperand
  split
  · exact .ok _
  · exact .error rfl

theorem tame_arithmetic (op : ArithmeticOp) (a b : Cell) : Tame (arithmetic op a b) :=
  (tame_numberOperand a).bind fun _ => (tame_numberOperand b).bind fun _ => .ok _

theorem tame_comparison (op : ComparisonOp) (a b : Cell) : Tame (comparison op a b) := by
  unfold comparison
  split
  · exact .ok _
  · exact (tame_numberOperand a).bind fun _ => (tame_numberOperand b).bind fun _ => .ok _

theorem tame_negate (c : Cell) : Tame (negate c) := by
  unfold negate
  split
  · exact .ok _
  · exact .ok _
  · exact .error rfl

namespace Store

variable (s : Store)

/-! ## Names -/

theorem tame_lookup (e : ScopeId) (x : String) : Tame (s.lookup e x) := by
  unfold lookup
  split
  · exact .ok _
  · exact .error rfl

theorem tame_assignee (e : ScopeId) (x : String) (refuse : Bool) :
    Tame (s.assignee e x refuse) := by
  unfold assignee
  split <;> split
  · exact .ok _
  · exact .error rfl
  · exact .error rfl
  · exact .ok _

/-! ## Operators -/

theorem tame_addition (strict : Bool) (a b : Ref) : Tame (s.addition strict a b) := by
  unfold addition
  split
  · exact .ok _
  · split
    · exact .error rfl
    · exact .ok _
  · split
    · exact .error rfl
    · exact .ok _
  · exact tame_arithmetic ..

theorem tame_binary (strict : Bool) (op : BinaryOp) (a b : Ref) :
    Tame (s.binary strict op a b) := by
  unfold binary
  split
  · exact s.tame_addition strict a b
  · exact tame_arithmetic ..
  · exact tame_comparison ..
  · exact .ok _
  · exact .ok _

theorem tame_unary (op : UnaryOp) (a : Ref) : Tame (s.unary op a) := by
  cases op with
  | negate => exact tame_negate _
  | not => exact .ok _

/-! ## Elements and fields -/

theorem tame_element (target position : Ref) : Tame (s.element target position) := by
  unfold element
  split <;> try split
  all_goals first | exact .ok _ | exact .error rfl

theorem tame_assignElement (target position value : Ref) :
    Tame (s.assignElement target position value) := by
  unfold assignElement
  split <;> try split
  all_goals first | exact .ok _ | exact .error rfl

theorem tame_field (target : Ref) (x : String) : Tame (s.field target x) := by
  unfold field
  dsimp only
  split
  · split
    · exact .ok _
    · exact .error rfl
  · split
    · exact .ok _
    · exact .error rfl
  · exact .error rfl

theorem tame_assignField (target : Ref) (x : String) (value : Ref) :
    Tame (s.assignField target x value) := by
  unfold assignField
  split
  · exact .ok _
  · exact .error rfl

theorem tame_mapKey (r : Ref) : Tame (s.mapKey r) := by
  unfold mapKey
  split
  · exact .ok _
  · exact .ok _
  · exact .error rfl

theorem tame_iterate (r : Ref) : Tame (s.iterate r) := by
  unfold iterate
  split
  · exact .ok _
  · exact .ok _
  · exact .ok _
  · exact .error rfl

/-! ## Arguments -/

theorem tame_textOf (function : String) (r : Ref) : Tame (s.textOf function r) := by
  unfold textOf
  split
  · exact .ok _
  · exact .error rfl

theorem tame_intOf (function : String) (r : Ref) : Tame (s.intOf function r) := by
  unfold intOf
  split
  · exact .ok _
  · exact .error rfl

theorem tame_numberOf (function : String) (r : Ref) : Tame (s.numberOf function r) := by
  unfold numberOf
  split
  · exact .ok _
  · exact .error rfl

theorem tame_itemsOf (function : String) (r : Ref) : Tame (s.itemsOf function r) := by
  unfold itemsOf
  split
  · exact .ok _
  · exact .error rfl

theorem tame_documentWithin (room : Nat) (r : Ref) : Tame (s.documentWithin room r) := by
  induction room generalizing r with
  | zero => exact .error rfl
  | succ room ih =>
    unfold documentWithin
    split
    · exact .ok _
    · exact .ok _
    · exact .ok _
    · exact .ok _
    · exact .ok _
    · exact (Tame.mapM ih _).bind fun _ => .ok _
    · exact (Tame.mapM (fun e : String × Ref => (ih e.2).bind fun _ => .ok _) _).bind fun _ => .ok _
    · exact .error rfl

end Store

/-! ## Plain native functions -/

namespace Plain

open Store

variable (s : Store) (a b c : Ref)

theorem tame_mapText (function : String) (f : List Char → List Char) :
    Tame (mapText s function f a) :=
  (s.tame_textOf ..).bind fun _ => .ok _

theorem tame_testTexts (function : String) (f : List Char → List Char → Bool) :
    Tame (testTexts s function f a b) :=
  (s.tame_textOf ..).bind fun _ => (s.tame_textOf ..).bind fun _ => .ok _

theorem tame_runSplit : Tame (runSplit s a b) := by
  refine (s.tame_textOf ..).bind fun _ => (s.tame_textOf ..).bind fun separator => ?_
  cases separator.toList with
  | nil => exact .error rfl
  | cons c cs => exact .ok _

theorem tame_runReplace : Tame (runReplace s a b c) :=
  (s.tame_textOf ..).bind fun _ => (s.tame_textOf ..).bind fun _ => (s.tame_textOf ..).bind
    fun _ => .ok _

theorem tame_runJoin : Tame (runJoin s a b) :=
  (s.tame_itemsOf ..).bind fun _ => (s.tame_textOf ..).bind fun _ => .ok _

theorem tame_runInsert : Tame (runInsert s a b c) := by
  unfold runInsert
  split
  · exact (s.tame_textOf ..).bind fun _ => .ok _
  · refine (s.tame_intOf ..).bind fun _ => ?_
    split
    · exact .ok _
    · exact .error rfl
  · exact .error rfl

theorem tame_runRemove : Tame (runRemove s a b) := by
  unfold runRemove
  split
  · refine (s.tame_textOf ..).bind fun _ => ?_
    split <;> exact .ok _
  · refine (s.tame_intOf ..).bind fun _ => ?_
    split <;> exact .ok _
  · exact .error rfl

theorem tame_runGet (fallback : Option Ref) : Tame (runGet s a b fallback) := by
  have found : Tame (element? s a b) := by
    unfold element?
    split
    · exact .ok _
    · exact .ok _
    · exact .ok _
    · exact .error rfl
  exact found.bind fun _ => .ok _

theorem tame_runHas : Tame (runHas s a b) := by
  unfold runHas
  split
  · exact (s.tame_textOf ..).bind fun _ => .ok _
  · exact .ok _
  · exact .error rfl

theorem tame_runRange : Tame (runRange s a b) :=
  (s.tame_intOf ..).bind fun _ => (s.tame_intOf ..).bind fun _ => .ok _

theorem tame_runRangeStep : Tame (runRangeStep s a b c) := by
  refine (s.tame_intOf ..).bind fun _ => (s.tame_intOf ..).bind fun _ =>
    (s.tame_intOf ..).bind fun step => ?_
  by_cases zero : step = 0
  · simp only [zero, if_true]
    exact .error rfl
  · simp only [zero, if_false]
    exact .ok _

theorem tame_runConcat : Tame (runConcat s a b) :=
  (s.tame_itemsOf ..).bind fun _ => (s.tame_itemsOf ..).bind fun _ => .ok _

theorem tame_runSlice : Tame (runSlice s a b c) :=
  (s.tame_itemsOf ..).bind fun _ => (s.tame_intOf ..).bind fun _ => (s.tame_intOf ..).bind
    fun _ => .ok _

theorem tame_runAbs : Tame (runAbs s a) := by
  unfold runAbs
  split <;> try split
  · exact .ok _
  · exact .ok _
  · exact (s.tame_numberOf ..).bind fun _ => .ok _

theorem tame_mapNumber (function : String) (f : Float → Float) : Tame (mapNumber s function f a) :=
  (s.tame_numberOf ..).bind fun _ => .ok _

theorem tame_runSqrt : Tame (runSqrt s a) := by
  refine (s.tame_numberOf ..).bind fun x => ?_
  by_cases negative : x < 0
  · simp only [negative, if_true]
    exact .error rfl
  · simp only [negative, if_false]
    exact .ok _

theorem tame_runPow : Tame (runPow s a b) :=
  (s.tame_numberOf ..).bind fun _ => (s.tame_numberOf ..).bind fun _ => .ok _

theorem tame_choose (function : String) (prefers : Float → Float → Bool) :
    Tame (choose s function prefers a b) :=
  (s.tame_numberOf ..).bind fun _ => (s.tame_numberOf ..).bind fun _ => .ok _

theorem tame_runStringify (pretty : Bool) : Tame (runStringify s a pretty) :=
  (s.tame_documentWithin ..).bind fun _ => .ok _

theorem tame_runParse : Tame (runParse s a) := by
  refine (s.tame_textOf ..).bind fun text => ?_
  split
  · exact .ok _
  · exact .error rfl

theorem isStray_arityFault (op : Plain) (received : Nat) :
    (op.arityFault received).isStray = false := by
  unfold arityFault
  split <;> rfl

theorem tame_run (op : Plain) (args : List Ref) : Tame (op.run args s) := by
  unfold run
  split
  · unfold runLen
    split <;> first | exact .ok _ | exact .error rfl
  · exact .ok _
  · exact .error rfl
  · exact (s.tame_textOf ..).bind fun _ => .ok _
  · exact tame_mapText ..
  · exact tame_mapText ..
  · exact tame_mapText ..
  · exact tame_runSplit ..
  · exact tame_runReplace ..
  · exact tame_testTexts ..
  · exact tame_testTexts ..
  · exact tame_testTexts ..
  · exact tame_runJoin ..
  · exact .ok _
  · unfold runPush
    split <;> first | exact .ok _ | exact .error rfl
  · unfold runPop
    split <;> try split
    all_goals first | exact .ok _ | exact .error rfl
  · unfold runUnshift
    split <;> first | exact .ok _ | exact .error rfl
  · exact tame_runInsert ..
  · exact tame_runRemove ..
  · exact tame_runGet ..
  · exact tame_runGet ..
  · exact tame_runHas ..
  · unfold runKeys
    split <;> first | exact .ok _ | exact .error rfl
  · unfold runValues
    split <;> first | exact .ok _ | exact .error rfl
  · exact tame_runRange ..
  · exact tame_runRangeStep ..
  · exact tame_runConcat ..
  · exact tame_runSlice ..
  · exact tame_runAbs ..
  · exact tame_mapNumber ..
  · exact tame_mapNumber ..
  · exact tame_runSqrt ..
  · exact tame_mapNumber ..
  · exact tame_runPow ..
  · exact tame_choose ..
  · exact tame_choose ..
  · exact tame_runStringify ..
  · exact tame_runStringify ..
  · exact tame_runParse ..
  · exact .error (isStray_arityFault ..)

end Plain

end LayerScript
