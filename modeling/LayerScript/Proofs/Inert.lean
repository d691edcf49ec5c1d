import LayerScript.Machine.Operators
import LayerScript.Native.Plain
import LayerScript.Proofs.Intact

/-!
# Inert effects

An effect is inert when it leaves all scopes as they are, makes no functions of a script and changes
only the contents of arrays and maps. The operators and the plain native functions have inert
effects only. Those of the plain native functions are modest as well: they change at most one value
that was there before, the first argument, and most of them none.
-/

namespace LayerScript

/-- The cell is no function of a script. -/
def Cell.Codeless (c : Cell) : Prop :=
  ∀ f, c ≠ .closure f

/-- If a check passes, what it gives is as `P` says. -/
inductive Passes {ε α : Type} (P : α → Prop) : Except ε α → Prop
  | ok {a : α} (h : P a) : Passes P (.ok a)
  | error {e : ε} : Passes P (.error e)

namespace Passes

variable {ε α β : Type} {P : α → Prop} {Q : β → Prop}

theorem holds {a : α} (h : Passes P (.ok a : Except ε α)) : P a := by
  cases h with
  | ok h => exact h

theorem imp {P' : α → Prop} {x : Except ε α} (h : Passes P x) (imp : ∀ a, P a → P' a) :
    Passes P' x := by
  cases h with
  | ok h => exact .ok (imp _ h)
  | error => exact .error

theorem bind {x : Except ε α} {f : α → Except ε β} (h : ∀ a, Passes Q (f a)) :
    Passes Q (x >>= f) := by
  cases x with
  | ok a => exact h a
  | error e => exact .error

end Passes

namespace Store

variable {α β : Type}

structure Inert (f : Effect α) : Prop where
  scopes : ∀ s, (f s).2.scopes = s.scopes
  code : ∀ s r c, (f s).2.cell r = .closure c → s.cell r = .closure c
  lasts : ∀ s : Store, s.Lasts (f s).2

theorem inert_keep (a : α) : Inert (.keep a) :=
  ⟨fun _ => rfl, fun _ _ _ h => h, .refl⟩

theorem inert_alloc {c : Cell} (hc : c.Codeless) : Inert (·.alloc c) where
  scopes s := by
    unfold alloc
    split <;> rfl
  code s r f h := by
    by_cases new : r = (s.alloc c).1
    · rw [new, cell_alloc_self] at h
      exact absurd h (hc f)
    · rwa [cell_alloc_of_ne new] at h
  lasts s := s.lasts_alloc c

theorem Inert.inTurn {f : Effect α} {g : α → Effect β} (hf : Inert f) (hg : ∀ a, Inert (g a)) :
    Inert (f.inTurn g) where
  scopes s := ((hg _).scopes _).trans (hf.scopes s)
  code s r c h := hf.code s r c ((hg _).code _ r c h)
  lasts s := (hf.lasts s).trans ((hg _).lasts _)

theorem inert_modify {f : Cell → Cell} (hf : ∀ l, f (.ofLiteral l) = .ofLiteral l)
    (code : ∀ c k, f c = .closure k → c = .closure k) (becomes : ∀ c : Cell, c.Becomes (f c))
    (r : Ref)
    (a : α) : Inert fun s => (a, s.modify r f) where
  scopes s := by cases r <;> rfl
  code s r' k h := by
    by_cases hr : r' = r
    · rw [hr, cell_modify_self hf] at h
      rw [hr, code _ k h]
    · rwa [cell_modify_of_ne hr] at h
  lasts _ := lasts_modify hf becomes r

theorem inert_modifyArray (r : Ref) (f : Array Ref → Array Ref) (a : α) :
    Inert fun s => (a, s.modifyArray r f) := by
  refine inert_modify (keeps_array f).literal (fun c k h => ?_) (fun c => ?_) r a
  · cases c <;> first | exact h | cases h
  · cases c <;> constructor

theorem inert_modifyMap (r : Ref) (f : Dict Ref → Dict Ref) (a : α) :
    Inert fun s => (a, s.modifyMap r f) := by
  refine inert_modify (keeps_map f).literal (fun c k h => ?_) (fun c => ?_) r a
  · cases c <;> first | exact h | cases h
  · cases c <;> constructor

/-! ## Modest effects -/

/-- An effect made of new values and of changes to the arrays and maps that `P` holds of. -/
inductive Modest (P : Ref → Prop) : {α : Type} → Effect α → Prop
  | keep {α : Type} (a : α) : Modest P (.keep a)
  | alloc {c : Cell} (codeless : c.Codeless) : Modest P (·.alloc c)
  | inTurn {α β : Type} {f : Effect α} {g : α → Effect β} (first : Modest P f)
    (next : ∀ a, Modest P (g a)) : Modest P (f.inTurn g)
  | modifyArray {α : Type} {r : Ref} (mine : P r) (f : Array Ref → Array Ref) (a : α) :
    Modest P fun s => (a, s.modifyArray r f)
  | modifyMap {α : Type} {r : Ref} (mine : P r) (f : Dict Ref → Dict Ref) (a : α) :
    Modest P fun s => (a, s.modifyMap r f)

namespace Modest

variable {P Q : Ref → Prop}

theorem inert {f : Effect α} (h : Modest P f) : Inert f := by
  induction h with
  | keep a => exact inert_keep a
  | alloc codeless => exact inert_alloc codeless
  | inTurn _ _ first next => exact first.inTurn next
  | modifyArray _ f a => exact inert_modifyArray _ f a
  | modifyMap _ f a => exact inert_modifyMap _ f a

theorem mono {f : Effect α} (h : Modest P f) (imp : ∀ r, P r → Q r) : Modest Q f := by
  induction h with
  | keep a => exact .keep a
  | alloc codeless => exact .alloc codeless
  | inTurn _ _ first next => exact .inTurn first next
  | modifyArray mine f a => exact .modifyArray (imp _ mine) f a
  | modifyMap mine f a => exact .modifyMap (imp _ mine) f a

theorem allocAll {cells : List Cell} (hc : ∀ c ∈ cells, c.Codeless) :
    Modest P (·.allocAll cells) := by
  induction cells with
  | nil => exact .keep []
  | cons c cells ih =>
    rw [List.forall_mem_cons] at hc
    exact .inTurn (.alloc hc.1) (g := fun r s => (r :: (s.allocAll cells).1,
      (s.allocAll cells).2)) fun r => .inTurn (ih hc.2) (g := fun rs s => (r :: rs, s))
        fun rs => .keep (r :: rs)

/-! ### Values from documents -/

mutual

theorem fromDocument (j : Json) : Modest P (·.fromDocument j) := by
  match j with
  | .null | .bool _ | .int _ | .float _ | .string _ =>
    simp only [Store.fromDocument]
    exact .alloc (by simp [Cell.Codeless])
  | .array items =>
    simp only [Store.fromDocument]
    exact .inTurn (fromItems items) (g := fun rs s => s.alloc (.array rs.toArray))
      fun rs => .alloc (by simp [Cell.Codeless])
  | .object entries =>
    simp only [Store.fromDocument]
    exact .inTurn (fromEntries entries) (g := fun es s => s.alloc (.map (.ofList es)))
      fun es => .alloc (by simp [Cell.Codeless])

theorem fromItems (js : List Json) : Modest P (·.fromItems js) := by
  match js with
  | [] =>
    simp only [Store.fromItems]
    exact .keep []
  | j :: js =>
    simp only [Store.fromItems]
    exact .inTurn (fromDocument j) (g := fun r s => (r :: (s.fromItems js).1,
      (s.fromItems js).2)) fun r => .inTurn (fromItems js) (g := fun rs s => (r :: rs, s))
        fun rs => .keep (r :: rs)

theorem fromEntries (js : List (String × Json)) : Modest P (·.fromEntries js) := by
  match js with
  | [] =>
    simp only [Store.fromEntries]
    exact .keep []
  | (key, j) :: js =>
    simp only [Store.fromEntries]
    exact .inTurn (fromDocument j) (g := fun r s => ((key, r) :: (s.fromEntries js).1,
      (s.fromEntries js).2)) fun r => .inTurn (fromEntries js)
        (g := fun es s => ((key, r) :: es, s)) fun es => .keep ((key, r) :: es)

end

end Modest

theorem inert_allocAll {cells : List Cell} (hc : ∀ c ∈ cells, c.Codeless) :
    Inert (·.allocAll cells) :=
  (Modest.allocAll (P := fun _ => False) hc).inert

/-! ## Operators -/

theorem codeless_ofLiteral (l : Literal) : (Cell.ofLiteral l).Codeless := by
  cases l <;> simp [Cell.Codeless, Cell.ofLiteral]

theorem codeless_arithmetic (op : ArithmeticOp) (a b : Cell) :
    Passes Cell.Codeless (arithmetic op a b) := by
  refine .bind fun x => .bind fun y => .ok ?_
  split <;> simp [Cell.Codeless]

theorem codeless_comparison (op : ComparisonOp) (a b : Cell) :
    Passes Cell.Codeless (comparison op a b) := by
  unfold comparison
  split
  · exact .ok (by simp [Cell.Codeless])
  · exact .bind fun x => .bind fun y => .ok (by simp [Cell.Codeless])

theorem codeless_addition (s : Store) (strict : Bool) (a b : Ref) :
    Passes Cell.Codeless (s.addition strict a b) := by
  unfold addition
  split
  · exact .ok (by simp [Cell.Codeless])
  · split
    · exact .error
    · exact .ok (by simp [Cell.Codeless])
  · split
    · exact .error
    · exact .ok (by simp [Cell.Codeless])
  · exact codeless_arithmetic ..

theorem codeless_binary (s : Store) (strict : Bool) (op : BinaryOp) (a b : Ref) :
    Passes Cell.Codeless (s.binary strict op a b) := by
  unfold binary
  split
  · exact codeless_addition ..
  · exact codeless_arithmetic ..
  · exact codeless_comparison ..
  · exact .ok (by simp [Cell.Codeless])
  · exact .ok (by simp [Cell.Codeless])

theorem codeless_unary (s : Store) (op : UnaryOp) (a : Ref) :
    Passes Cell.Codeless (s.unary op a) := by
  unfold unary
  split
  · unfold negate
    split
    · refine .ok ?_
      split <;> simp [Cell.Codeless]
    · exact .ok (by simp [Cell.Codeless])
    · exact .error
  · exact .ok (by simp [Cell.Codeless])

theorem inert_element (s : Store) (target position : Ref) :
    Passes Inert (s.element target position) := by
  unfold element
  split <;> try split
  · exact .ok (inert_keep _)
  · exact .error
  · exact .ok (inert_alloc (by simp [Cell.Codeless]))
  · exact .error
  · exact .ok (inert_keep _)
  · exact .error
  · exact .error

theorem inert_assignElement (s : Store) (target position value : Ref) :
    Passes Inert (s.assignElement target position value) := by
  unfold assignElement
  split <;> try split
  · exact .ok (inert_modifyArray ..)
  · exact .error
  · exact .ok (inert_modifyMap ..)
  · exact .error

theorem inert_assignField (s : Store) (target : Ref) (name : String) (value : Ref) :
    Passes Inert (s.assignField target name value) := by
  unfold assignField
  split
  · exact .ok (inert_modifyMap ..)
  · exact .error

theorem inert_iterate (s : Store) (r : Ref) : Passes Inert (s.iterate r) := by
  unfold iterate
  split
  · exact .ok (inert_keep _)
  · exact .ok (inert_allocAll (by simp [Cell.Codeless]))
  · next entries _ =>
    have keys : Inert (·.allocAll (entries.keys.map .text)) :=
      inert_allocAll (by simp [Cell.Codeless])
    have pairs (keys : List Ref) :
        Inert (·.allocAll ((keys.zip entries.values).map fun e => .array #[e.1, e.2])) := by
      refine inert_allocAll fun c hc => ?_
      obtain ⟨_, _, rfl⟩ := List.mem_map.1 hc
      simp [Cell.Codeless]
    exact .ok (keys.inTurn pairs)
  · exact .error

end Store

/-! ## Plain native functions -/

namespace Plain

open Store

/-- What a call may change: the first argument, if the function is one that changes it. -/
def Changes (op : Plain) (args : List Ref) (r : Ref) : Prop :=
  op ∈ [.push, .pop, .unshift, .insert, .remove] ∧ args.head? = some r

variable {P : Ref → Prop}

theorem modest_newArray {cells : List Cell} (hc : ∀ c ∈ cells, c.Codeless) :
    Modest P (newArray cells) :=
  .inTurn (.allocAll hc) (g := fun (rs : List Ref) s => s.alloc (.array rs.toArray))
    fun rs => .alloc (by simp [Cell.Codeless])

theorem modest_orNothing (o : Option Ref) : Modest P (orNothing o) := by
  cases o with
  | none => exact .alloc (c := .none) (by simp [Cell.Codeless])
  | some r => exact .keep r

theorem modest_lengthening {r : Ref} (mine : P r) (f : Array Ref → Array Ref) (length : Nat) :
    Modest P (lengthening r f length) :=
  .inTurn (.modifyArray mine f ()) (g := fun _ => newLength length)
    fun _ => .alloc (by simp [Cell.Codeless])

variable (s : Store) (a b c : Ref)

theorem modest_runLen : Passes (Modest P) (runLen s a) := by
  unfold runLen
  split <;> first | exact .error | exact .ok (.alloc (by simp [Cell.Codeless]))

theorem modest_mapText (function : String) (f : List Char → List Char) :
    Passes (Modest P) (mapText s function f a) :=
  .bind fun _ => .ok (.alloc (by simp [Cell.Codeless]))

theorem modest_testTexts (function : String) (f : List Char → List Char → Bool) :
    Passes (Modest P) (testTexts s function f a b) :=
  .bind fun _ => .bind fun _ => .ok (.alloc (by simp [Cell.Codeless]))

theorem modest_runSplit : Passes (Modest P) (runSplit s a b) := by
  refine .bind fun _ => .bind fun separator => ?_
  cases separator.toList with
  | nil => exact .error
  | cons c cs => exact .ok (modest_newArray (by simp [Cell.Codeless]))

theorem modest_runReplace : Passes (Modest P) (runReplace s a b c) :=
  .bind fun _ => .bind fun _ => .bind fun _ => .ok (.alloc (by simp [Cell.Codeless]))

theorem modest_runJoin : Passes (Modest P) (runJoin s a b) :=
  .bind fun _ => .bind fun _ => .ok (.alloc (by simp [Cell.Codeless]))

theorem modest_runPush (mine : P a) : Passes (Modest P) (runPush s a b) := by
  unfold runPush
  split
  · exact .ok (modest_lengthening mine ..)
  · exact .error

theorem modest_runPop (mine : P a) : Passes (Modest P) (runPop s a) := by
  unfold runPop
  split <;> try split
  · exact .ok (.modifyArray mine ..)
  · exact .ok (modest_orNothing none)
  · exact .error

theorem modest_runUnshift (mine : P a) : Passes (Modest P) (runUnshift s a b) := by
  unfold runUnshift
  split
  · exact .ok (modest_lengthening mine ..)
  · exact .error

theorem modest_runInsert (mine : P a) : Passes (Modest P) (runInsert s a b c) := by
  unfold runInsert
  split
  · exact .bind fun _ => .ok (.modifyMap mine ..)
  · refine .bind fun _ => ?_
    split
    · exact .ok (.modifyArray mine ..)
    · exact .error
  · exact .error

theorem modest_runRemove (mine : P a) : Passes (Modest P) (runRemove s a b) := by
  unfold runRemove
  split
  · refine .bind fun _ => ?_
    split
    · exact .ok (.modifyMap mine ..)
    · exact .ok (modest_orNothing none)
  · refine .bind fun _ => ?_
    split
    · exact .ok (.modifyArray mine ..)
    · exact .ok (modest_orNothing none)
  · exact .error

theorem modest_runGet (fallback : Option Ref) : Passes (Modest P) (runGet s a b fallback) :=
  .bind fun _ => .ok (modest_orNothing _)

theorem modest_runHas : Passes (Modest P) (runHas s a b) := by
  unfold runHas
  split
  · exact .bind fun _ => .ok (.alloc (by simp [Cell.Codeless]))
  · exact .ok (.alloc (by simp [Cell.Codeless]))
  · exact .error

theorem modest_runKeys : Passes (Modest P) (runKeys s a) := by
  unfold runKeys
  split
  · exact .ok (modest_newArray (by simp [Cell.Codeless]))
  · exact .error

theorem modest_runValues : Passes (Modest P) (runValues s a) := by
  unfold runValues
  split <;> first | exact .error | exact .ok (.alloc (by simp [Cell.Codeless]))

theorem modest_newInts (ns : List Int) : Modest P (newInts ns) :=
  modest_newArray (by simp [Cell.Codeless])

theorem modest_runRange : Passes (Modest P) (runRange s a b) :=
  .bind fun _ => .bind fun _ => .ok (modest_newInts _)

theorem modest_runRangeStep : Passes (Modest P) (runRangeStep s a b c) := by
  refine .bind fun _ => .bind fun _ => .bind fun step => ?_
  by_cases zero : step = 0
  · simp only [zero, if_true]
    exact .error
  · simp only [zero, if_false]
    exact .ok (modest_newInts _)

theorem modest_runConcat : Passes (Modest P) (runConcat s a b) :=
  .bind fun _ => .bind fun _ => .ok (.alloc (by simp [Cell.Codeless]))

theorem modest_runSlice : Passes (Modest P) (runSlice s a b c) :=
  .bind fun _ => .bind fun _ => .bind fun _ => .ok (.alloc (by simp [Cell.Codeless]))

theorem modest_runAbs : Passes (Modest P) (runAbs s a) := by
  unfold runAbs
  split <;> try split
  · exact .ok (.alloc (by simp [Cell.Codeless]))
  · refine .ok (.alloc ?_)
    split <;> simp [Cell.Codeless]
  · exact .bind fun _ => .ok (.alloc (by simp [Cell.Codeless]))

theorem modest_mapNumber (function : String) (f : Float → Float) :
    Passes (Modest P) (mapNumber s function f a) :=
  .bind fun _ => .ok (.alloc (by simp [Cell.Codeless]))

theorem modest_runSqrt : Passes (Modest P) (runSqrt s a) := by
  refine .bind fun x => ?_
  by_cases negative : x < 0
  · simp only [negative, if_true]
    exact .error
  · simp only [negative, if_false]
    exact .ok (.alloc (by simp [Cell.Codeless]))

theorem modest_runPow : Passes (Modest P) (runPow s a b) :=
  .bind fun _ => .bind fun _ => .ok (.alloc (by simp [Cell.Codeless]))

theorem modest_choose (function : String) (prefers : Float → Float → Bool) :
    Passes (Modest P) (choose s function prefers a b) :=
  .bind fun _ => .bind fun _ => .ok (.keep _)

theorem modest_runStringify (pretty : Bool) : Passes (Modest P) (runStringify s a pretty) :=
  .bind fun _ => .ok (.alloc (by simp [Cell.Codeless]))

theorem modest_runParse : Passes (Modest P) (runParse s a) := by
  refine .bind fun text => ?_
  split
  · exact .ok (.fromDocument _)
  · exact .error

theorem modest_run (op : Plain) (args : List Ref) :
    Passes (Modest (op.Changes args)) (op.run args s) := by
  unfold run
  split
  · exact modest_runLen ..
  · exact .ok (.alloc (by simp [Cell.Codeless]))
  · exact .error
  · exact .bind fun _ => .ok (.alloc (by simp [Cell.Codeless]))
  · exact modest_mapText ..
  · exact modest_mapText ..
  · exact modest_mapText ..
  · exact modest_runSplit ..
  · exact modest_runReplace ..
  · exact modest_testTexts ..
  · exact modest_testTexts ..
  · exact modest_testTexts ..
  · exact modest_runJoin ..
  · exact .ok (.alloc (by simp [Cell.Codeless]))
  · exact modest_runPush s _ _ ⟨by simp, rfl⟩
  · exact modest_runPop s _ ⟨by simp, rfl⟩
  · exact modest_runUnshift s _ _ ⟨by simp, rfl⟩
  · exact modest_runInsert s _ _ _ ⟨by simp, rfl⟩
  · exact modest_runRemove s _ _ ⟨by simp, rfl⟩
  · exact modest_runGet ..
  · exact modest_runGet ..
  · exact modest_runHas ..
  · exact modest_runKeys ..
  · exact modest_runValues ..
  · exact modest_runRange ..
  · exact modest_runRangeStep ..
  · exact modest_runConcat ..
  · exact modest_runSlice ..
  · exact modest_runAbs ..
  · exact modest_mapNumber ..
  · exact modest_mapNumber ..
  · exact modest_runSqrt ..
  · exact modest_mapNumber ..
  · exact modest_runPow ..
  · exact modest_choose ..
  · exact modest_choose ..
  · exact modest_runStringify ..
  · exact modest_runStringify ..
  · exact modest_runParse ..
  · exact .error

theorem inert_run (op : Plain) (args : List Ref) : Passes Inert (op.run args s) :=
  (modest_run s op args).imp fun _ => Modest.inert

end Plain

end LayerScript
