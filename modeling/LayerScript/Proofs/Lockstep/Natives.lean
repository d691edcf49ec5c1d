import LayerScript.Native.Plain
import LayerScript.Proofs.Lockstep.Operators

/-!
# Plain native functions on two stores

A plain native function that is given live values passes or fails its checks alike in two stores
that are alike, and then has the same effect, with a live result.
-/

namespace LayerScript

namespace Sharing

variable {W : Sharing} {s t : Store}

/-! ## Arguments -/

theorem Alike.textOf (h : W.Alike s t) (function : String) {r : Ref} (hr : W.live (.value r)) :
    Shown (fun _ => True) (s.textOf function r) (t.textOf function r) := by
  apply Shown.of_eq
  unfold Store.textOf
  rw [h.cell r hr]

theorem Alike.intOf (h : W.Alike s t) (function : String) {r : Ref} (hr : W.live (.value r)) :
    Shown (fun _ => True) (s.intOf function r) (t.intOf function r) := by
  apply Shown.of_eq
  unfold Store.intOf
  rw [h.cell r hr]

theorem Alike.numberOf (h : W.Alike s t) (function : String) {r : Ref} (hr : W.live (.value r)) :
    Shown (fun _ => True) (s.numberOf function r) (t.numberOf function r) := by
  apply Shown.of_eq
  unfold Store.numberOf
  rw [h.cell r hr]

theorem Alike.itemsOf (h : W.Alike s t) (function : String) {r : Ref} (hr : W.live (.value r)) :
    Shown (fun items => ∀ x ∈ items.toList, W.live (.value x)) (s.itemsOf function r)
      (t.itemsOf function r) := by
  unfold Store.itemsOf
  rw [h.cell r hr]
  split
  · next items hc => exact .ok (h.live_item hr hc)
  · exact .error

/-! ## Effects -/

theorem respects_bare {c : Cell} (hc : Bare c) :
    W.Respects (fun r => W.live (.value r)) (·.alloc c) :=
  respects_alloc fun _ => hc.fits

theorem respects_newItems {items : Array Ref} (hi : ∀ x ∈ items.toList, W.live (.value x)) :
    W.Respects (fun r => W.live (.value r)) (·.alloc (.array items)) :=
  respects_alloc fun _ => fits_array.2 hi

theorem respects_newArray {cells : List Cell} (hc : ∀ c ∈ cells, Bare c) :
    W.Respects (fun r => W.live (.value r)) (Plain.newArray cells) := by
  have items : W.Respects (fun rs => ∀ r ∈ rs, W.live (.value r)) (·.allocAll cells) :=
    respects_allocAll fun c mem _ => (hc c mem).fits
  exact items.seq (g := fun rs s => s.alloc (.array rs.toArray)) fun rs hrs => respects_newItems hrs

theorem respects_orNothing {o : Option Ref} (ho : ∀ r ∈ o, W.live (.value r)) :
    W.Respects (fun r => W.live (.value r)) (Plain.orNothing o) := by
  cases o with
  | none => exact respects_bare (c := .none) rfl
  | some r => exact respects_keep (ho r rfl)

theorem respects_lengthening {r : Ref} {f : Array Ref → Array Ref} {length : Nat}
    (hr : W.live (.value r)) (hf : ∀ items : Array Ref, (∀ x ∈ items.toList, W.live (.value x)) →
      ∀ x ∈ (f items).toList, W.live (.value x)) :
    W.Respects (fun r => W.live (.value r)) (Plain.lengthening r f length) := by
  have change : W.Respects (fun _ => True) fun s => ((), s.modifyArray r f) :=
    respects_modifyArray hr hf trivial
  refine change.seq (g := fun _ => Plain.newLength length) fun _ _ => ?_
  exact respects_bare (c := .int (Int64.ofNat length)) rfl

theorem live_insertIdxIfInBounds {items : Array Ref} {i : Nat} {r : Ref}
    (hi : ∀ x ∈ items.toList, W.live (.value x)) (hr : W.live (.value r)) :
    ∀ x ∈ (items.insertIdxIfInBounds i r).toList, W.live (.value x) := by
  intro x hx
  rw [Array.mem_toList_iff] at hx
  unfold Array.insertIdxIfInBounds at hx
  split at hx
  · rcases Array.mem_insertIdx.1 hx with rfl | hx
    · exact hr
    · exact hi x (Array.mem_toList_iff.2 hx)
  · exact hi x (Array.mem_toList_iff.2 hx)

theorem live_eraseIdxIfInBounds {items : Array Ref} {i : Nat}
    (hi : ∀ x ∈ items.toList, W.live (.value x)) :
    ∀ x ∈ (items.eraseIdxIfInBounds i).toList, W.live (.value x) := by
  intro x hx
  rw [Array.mem_toList_iff] at hx
  unfold Array.eraseIdxIfInBounds at hx
  split at hx
  · exact hi x (Array.mem_toList_iff.2 (Array.mem_of_mem_eraseIdx hx))
  · exact hi x (Array.mem_toList_iff.2 hx)

/-! ## New values from documents -/

mutual

theorem respects_fromDocument (j : Json) :
    W.Respects (fun r => W.live (.value r)) (·.fromDocument j) := by
  match j with
  | .null | .bool _ | .int _ | .float _ | .string _ =>
    simp only [Store.fromDocument]
    exact respects_bare rfl
  | .array items =>
    simp only [Store.fromDocument]
    exact (respects_fromItems items).seq (g := fun rs s => s.alloc (.array rs.toArray))
      fun rs hrs => respects_newItems hrs
  | .object entries =>
    simp only [Store.fromDocument]
    refine (respects_fromEntries entries).seq (g := fun es s => s.alloc (.map (.ofList es))) ?_
    intro es hes
    refine respects_alloc fun _ => fits_map.2 fun r hr => ?_
    obtain ⟨e, he, rfl⟩ := List.mem_map.1 (Dict.mem_values_ofList hr)
    exact hes e he

theorem respects_fromItems (js : List Json) :
    W.Respects (fun rs => ∀ r ∈ rs, W.live (.value r)) (·.fromItems js) := by
  match js with
  | [] =>
    simp only [Store.fromItems]
    exact respects_keep (by simp)
  | j :: js =>
    simp only [Store.fromItems]
    refine (respects_fromDocument j).seq
      (g := fun r s => (r :: (s.fromItems js).1, (s.fromItems js).2)) ?_
    intro r hr
    refine (respects_fromItems js).seq (g := fun rs s => (r :: rs, s)) ?_
    intro rs hrs
    refine respects_keep fun r' hr' => ?_
    rcases List.mem_cons.1 hr' with rfl | hr'
    · exact hr
    · exact hrs r' hr'

theorem respects_fromEntries (js : List (String × Json)) :
    W.Respects (fun es => ∀ e ∈ es, W.live (.value e.2)) (·.fromEntries js) := by
  match js with
  | [] =>
    simp only [Store.fromEntries]
    exact respects_keep (by simp)
  | (key, j) :: js =>
    simp only [Store.fromEntries]
    refine (respects_fromDocument j).seq
      (g := fun r s => ((key, r) :: (s.fromEntries js).1, (s.fromEntries js).2)) ?_
    intro r hr
    refine (respects_fromEntries js).seq (g := fun es s => ((key, r) :: es, s)) ?_
    intro es hes
    refine respects_keep fun e he => ?_
    rcases List.mem_cons.1 he with rfl | he
    · exact hr
    · exact hes e he

end

/-! ## The functions -/

section

variable {a b c : Ref}

theorem Alike.runLen (h : W.Alike s t) (ha : W.live (.value a)) :
    Shown (W.Respects fun r => W.live (.value r)) (Plain.runLen s a) (Plain.runLen t a) := by
  unfold Plain.runLen
  rw [h.cell a ha]
  split
  · exact .ok (respects_bare rfl)
  · exact .ok (respects_bare rfl)
  · exact .ok (respects_bare rfl)
  · exact .error

theorem Alike.mapText (h : W.Alike s t) (function : String) (f : List Char → List Char)
    (ha : W.live (.value a)) : Shown (W.Respects fun r => W.live (.value r))
      (Plain.mapText s function f a) (Plain.mapText t function f a) := by
  refine (h.textOf function ha).bind ?_
  intro text _
  exact .ok (respects_bare rfl)

theorem Alike.testTexts (h : W.Alike s t) (function : String) (f : List Char → List Char → Bool)
    (ha : W.live (.value a)) (hb : W.live (.value b)) :
    Shown (W.Respects fun r => W.live (.value r))
      (Plain.testTexts s function f a b) (Plain.testTexts t function f a b) := by
  refine (h.textOf function ha).bind fun _ _ => (h.textOf function hb).bind ?_
  intro _ _
  exact .ok (respects_bare rfl)

theorem Alike.runSplit (h : W.Alike s t) (ha : W.live (.value a)) (hb : W.live (.value b)) :
    Shown (W.Respects fun r => W.live (.value r)) (Plain.runSplit s a b)
      (Plain.runSplit t a b) := by
  refine (h.textOf _ ha).bind fun text _ => (h.textOf _ hb).bind ?_
  intro separator _
  cases separator.toList with
  | nil => exact .error
  | cons c cs =>
    refine .ok (respects_newArray fun c hc => ?_)
    obtain ⟨_, _, rfl⟩ := List.mem_map.1 hc
    rfl

theorem Alike.runReplace (h : W.Alike s t) (ha : W.live (.value a)) (hb : W.live (.value b))
    (hc : W.live (.value c)) : Shown (W.Respects fun r => W.live (.value r))
      (Plain.runReplace s a b c) (Plain.runReplace t a b c) := by
  refine (h.textOf _ ha).bind fun _ _ => (h.textOf _ hb).bind fun _ _ => (h.textOf _ hc).bind ?_
  intro _ _
  exact .ok (respects_bare rfl)

theorem Alike.runJoin (h : W.Alike s t) (ha : W.live (.value a)) (hb : W.live (.value b)) :
    Shown (W.Respects fun r => W.live (.value r)) (Plain.runJoin s a b) (Plain.runJoin t a b) := by
  refine (h.itemsOf _ ha).bind fun items live => (h.textOf _ hb).bind ?_
  intro separator _
  have : items.toList.map (fun r => (t.display r).toList) =
      items.toList.map (fun r => (s.display r).toList) := by
    apply List.map_congr_left
    intro r hr
    rw [h.display (live r hr)]
  rw [this]
  exact .ok (respects_bare rfl)

theorem Alike.runPush (h : W.Alike s t) (ha : W.live (.value a)) (hb : W.live (.value b)) :
    Shown (W.Respects fun r => W.live (.value r)) (Plain.runPush s a b) (Plain.runPush t a b) := by
  unfold Plain.runPush
  rw [h.cell a ha]
  split
  · refine .ok (respects_lengthening ha fun items live r hr => ?_)
    rw [Array.toList_push] at hr
    rcases List.mem_append.1 hr with hr | hr
    · exact live r hr
    · exact List.mem_singleton.1 hr ▸ hb
  · exact .error

theorem Alike.runPop (h : W.Alike s t) (ha : W.live (.value a)) :
    Shown (W.Respects fun r => W.live (.value r)) (Plain.runPop s a) (Plain.runPop t a) := by
  unfold Plain.runPop
  rw [h.cell a ha]
  split
  · next items hc =>
    split
    · next last hl =>
      refine .ok (respects_modifyArray ha ?_ ?_)
      · intro items live r hr
        rw [Array.toList_pop] at hr
        exact live r (List.dropLast_subset _ hr)
      · exact h.live_item ha hc last (Array.mem_toList_iff.2 (Array.mem_of_back? hl))
    · exact .ok (respects_orNothing (by simp))
  · exact .error

theorem Alike.runUnshift (h : W.Alike s t) (ha : W.live (.value a)) (hb : W.live (.value b)) :
    Shown (W.Respects fun r => W.live (.value r)) (Plain.runUnshift s a b)
      (Plain.runUnshift t a b) := by
  unfold Plain.runUnshift
  rw [h.cell a ha]
  split
  · exact .ok (respects_lengthening ha fun _ live => live_insertIdxIfInBounds live hb)
  · exact .error

theorem Alike.runInsert (h : W.Alike s t) (ha : W.live (.value a)) (hb : W.live (.value b))
    (hc : W.live (.value c)) : Shown (W.Respects fun r => W.live (.value r))
      (Plain.runInsert s a b c) (Plain.runInsert t a b c) := by
  unfold Plain.runInsert
  rw [h.cell a ha]
  split
  · refine (h.textOf _ hb).bind ?_
    intro key _
    exact .ok (respects_modifyMap ha (fun _ live => live_insert live hc) ha)
  · refine (h.intOf _ hb).bind ?_
    intro n _
    split
    · exact .ok (respects_modifyArray ha (fun _ live => live_insertIdxIfInBounds live hc) ha)
    · exact .error
  · exact .error

theorem Alike.runRemove (h : W.Alike s t) (ha : W.live (.value a)) (hb : W.live (.value b)) :
    Shown (W.Respects fun r => W.live (.value r)) (Plain.runRemove s a b)
      (Plain.runRemove t a b) := by
  unfold Plain.runRemove
  rw [h.cell a ha]
  split
  · next entries hc =>
    refine (h.textOf _ hb).bind ?_
    intro key _
    split
    · next value hv =>
      refine .ok (respects_modifyMap ha ?_ ?_)
      · exact fun _ live r hr => live r (Dict.mem_values_erase hr)
      · exact h.live_entry ha hc value (Dict.mem_values_of_find? hv)
    · exact .ok (respects_orNothing (by simp))
  · next items hc =>
    refine (h.intOf _ hb).bind ?_
    intro n _
    split
    · next i value hv =>
      refine .ok (respects_modifyArray ha (fun _ live => live_eraseIdxIfInBounds live) ?_)
      obtain ⟨j, _, hj⟩ := Option.bind_eq_some_iff.1 hv
      obtain ⟨value', hi, eq⟩ := Option.map_eq_some_iff.1 hj
      obtain rfl := (Prod.mk.inj eq).2
      exact h.live_item ha hc _ (Array.mem_toList_iff.2 (Array.mem_of_getElem? hi))
    · exact .ok (respects_orNothing (by simp))
  · exact .error

theorem Alike.element? (h : W.Alike s t) (ha : W.live (.value a)) (hb : W.live (.value b)) :
    Shown (fun o => ∀ r ∈ o, W.live (.value r)) (Plain.element? s a b) (Plain.element? t a b) := by
  unfold Plain.element?
  rw [h.cell a ha, h.cell b hb]
  split
  · next entries key hc _ =>
    exact .ok fun r hr => h.live_entry ha hc r (Dict.mem_values_of_find? hr)
  · next items n hc _ =>
    refine .ok fun r hr => ?_
    obtain ⟨i, _, hi⟩ := Option.bind_eq_some_iff.1 hr
    exact h.live_item ha hc r (Array.mem_toList_iff.2 (Array.mem_of_getElem? hi))
  · exact .ok (by simp)
  · exact .error

theorem Alike.runGet (h : W.Alike s t) (ha : W.live (.value a)) (hb : W.live (.value b))
    {fallback : Option Ref} (hf : ∀ r ∈ fallback, W.live (.value r)) :
    Shown (W.Respects fun r => W.live (.value r)) (Plain.runGet s a b fallback)
      (Plain.runGet t a b fallback) := by
  refine (h.element? ha hb).bind ?_
  intro found live
  refine .ok (respects_orNothing fun r hr => ?_)
  cases found with
  | none => exact hf r hr
  | some x => exact live r hr

theorem Alike.runHas (h : W.Alike s t) (ha : W.live (.value a)) (hb : W.live (.value b)) :
    Shown (W.Respects fun r => W.live (.value r)) (Plain.runHas s a b) (Plain.runHas t a b) := by
  unfold Plain.runHas
  rw [h.cell a ha]
  split
  · refine (h.textOf _ hb).bind ?_
    intro key _
    exact .ok (respects_bare rfl)
  · next items hc =>
    have : items.any (fun r => t.equal r b) = items.any (fun r => s.equal r b) := by
      rw [← Array.any_toList, ← Array.any_toList, Bool.eq_iff_iff, List.any_eq_true,
        List.any_eq_true]
      refine exists_congr fun r => and_congr_right fun hr => ?_
      rw [h.equal (h.live_item ha hc r hr) hb]
    rw [this]
    exact .ok (respects_bare rfl)
  · exact .error

theorem Alike.runKeys (h : W.Alike s t) (ha : W.live (.value a)) :
    Shown (W.Respects fun r => W.live (.value r)) (Plain.runKeys s a) (Plain.runKeys t a) := by
  unfold Plain.runKeys
  rw [h.cell a ha]
  split
  · refine .ok (respects_newArray fun c hc => ?_)
    obtain ⟨_, _, rfl⟩ := List.mem_map.1 hc
    rfl
  · exact .error

theorem Alike.runValues (h : W.Alike s t) (ha : W.live (.value a)) :
    Shown (W.Respects fun r => W.live (.value r)) (Plain.runValues s a) (Plain.runValues t a) := by
  unfold Plain.runValues
  rw [h.cell a ha]
  split
  · next entries hc => exact .ok (respects_newItems (h.live_entry ha hc))
  · next items hc => exact .ok (respects_newItems (h.live_item ha hc))
  · exact .error

theorem respects_newInts (ns : List Int) :
    W.Respects (fun r => W.live (.value r)) (Plain.newInts ns) := by
  refine respects_newArray fun c hc => ?_
  obtain ⟨_, _, rfl⟩ := List.mem_map.1 hc
  rfl

theorem Alike.runRange (h : W.Alike s t) (ha : W.live (.value a)) (hb : W.live (.value b)) :
    Shown (W.Respects fun r => W.live (.value r)) (Plain.runRange s a b)
      (Plain.runRange t a b) := by
  refine (h.intOf _ ha).bind fun _ _ => (h.intOf _ hb).bind ?_
  intro _ _
  exact .ok (respects_newInts _)

theorem Alike.runRangeStep (h : W.Alike s t) (ha : W.live (.value a)) (hb : W.live (.value b))
    (hc : W.live (.value c)) : Shown (W.Respects fun r => W.live (.value r))
      (Plain.runRangeStep s a b c) (Plain.runRangeStep t a b c) := by
  refine (h.intOf _ ha).bind fun _ _ => (h.intOf _ hb).bind fun _ _ => (h.intOf _ hc).bind ?_
  intro step _
  split
  · exact .error
  · exact .ok (respects_newInts _)

theorem Alike.runConcat (h : W.Alike s t) (ha : W.live (.value a)) (hb : W.live (.value b)) :
    Shown (W.Respects fun r => W.live (.value r)) (Plain.runConcat s a b)
      (Plain.runConcat t a b) := by
  refine (h.itemsOf _ ha).bind fun left hl => (h.itemsOf _ hb).bind ?_
  intro right hr
  refine .ok (respects_newItems fun x hx => ?_)
  rw [Array.toList_append, Array.toList_append] at hx
  rcases List.mem_append.1 hx with hx | hx
  · rcases List.mem_append.1 hx with hx | hx
    · exact absurd hx (by simp)
    · exact hl x hx
  · exact hr x hx

theorem Alike.runSlice (h : W.Alike s t) (ha : W.live (.value a)) (hb : W.live (.value b))
    (hc : W.live (.value c)) : Shown (W.Respects fun r => W.live (.value r))
      (Plain.runSlice s a b c) (Plain.runSlice t a b c) := by
  refine (h.itemsOf _ ha).bind fun items live => (h.intOf _ hb).bind fun _ _ =>
    (h.intOf _ hc).bind ?_
  intro _ _
  refine .ok (respects_newItems fun x hx => live x ?_)
  rw [Array.toList_extract] at hx
  exact List.mem_of_mem_drop (List.mem_of_mem_take hx)

theorem Alike.runAbs (h : W.Alike s t) (ha : W.live (.value a)) :
    Shown (W.Respects fun r => W.live (.value r)) (Plain.runAbs s a) (Plain.runAbs t a) := by
  unfold Plain.runAbs
  rw [h.cell a ha]
  split
  · split
    · exact .ok (respects_bare rfl)
    · exact .ok (respects_bare rfl)
  · refine (h.numberOf _ ha).bind ?_
    intro _ _
    exact .ok (respects_bare rfl)

theorem Alike.mapNumber (h : W.Alike s t) (function : String) (f : Float → Float)
    (ha : W.live (.value a)) : Shown (W.Respects fun r => W.live (.value r))
      (Plain.mapNumber s function f a) (Plain.mapNumber t function f a) := by
  refine (h.numberOf function ha).bind ?_
  intro _ _
  exact .ok (respects_bare rfl)

theorem Alike.runSqrt (h : W.Alike s t) (ha : W.live (.value a)) :
    Shown (W.Respects fun r => W.live (.value r)) (Plain.runSqrt s a) (Plain.runSqrt t a) := by
  refine (h.numberOf _ ha).bind ?_
  intro x _
  split
  · exact .error
  · exact .ok (respects_bare rfl)

theorem Alike.runPow (h : W.Alike s t) (ha : W.live (.value a)) (hb : W.live (.value b)) :
    Shown (W.Respects fun r => W.live (.value r)) (Plain.runPow s a b) (Plain.runPow t a b) := by
  refine (h.numberOf _ ha).bind fun _ _ => (h.numberOf _ hb).bind ?_
  intro _ _
  exact .ok (respects_bare rfl)

theorem Alike.choose (h : W.Alike s t) (function : String) (prefers : Float → Float → Bool)
    (ha : W.live (.value a)) (hb : W.live (.value b)) :
    Shown (W.Respects fun r => W.live (.value r)) (Plain.choose s function prefers a b)
      (Plain.choose t function prefers a b) := by
  refine (h.numberOf function ha).bind fun _ _ => (h.numberOf function hb).bind ?_
  intro _ _
  refine .ok (respects_keep ?_)
  split
  · exact hb
  · exact ha

theorem Alike.runStringify (h : W.Alike s t) (pretty : Bool) (ha : W.live (.value a)) :
    Shown (W.Respects fun r => W.live (.value r)) (Plain.runStringify s a pretty)
      (Plain.runStringify t a pretty) := by
  unfold Plain.runStringify
  rw [h.toDocument ha]
  refine (Shown.of_eq rfl).bind ?_
  intro _ _
  exact .ok (respects_bare rfl)

theorem Alike.runParse (h : W.Alike s t) (ha : W.live (.value a)) :
    Shown (W.Respects fun r => W.live (.value r)) (Plain.runParse s a) (Plain.runParse t a) := by
  refine (h.textOf _ ha).bind ?_
  intro text _
  split
  · exact .ok (respects_fromDocument _)
  · exact .error

end

theorem Alike.plain (h : W.Alike s t) (op : Plain) {args : List Ref}
    (live : ∀ a ∈ args, W.live (.value a)) :
    Shown (W.Respects fun r => W.live (.value r)) (op.run args s) (op.run args t) := by
  unfold Plain.run
  split <;> try simp only [List.mem_cons, List.not_mem_nil, or_false, forall_eq_or_imp, forall_eq]
    at live
  · exact h.runLen live
  · rw [h.cell _ live]
    exact .ok (respects_bare rfl)
  · rw [h.display live]
    exact .error
  · refine (h.textOf _ live).bind ?_
    intro _ _
    exact .ok (respects_bare rfl)
  · exact h.mapText _ _ live
  · exact h.mapText _ _ live
  · exact h.mapText _ _ live
  · exact h.runSplit live.1 live.2
  · exact h.runReplace live.1 live.2.1 live.2.2
  · exact h.testTexts _ _ live.1 live.2
  · exact h.testTexts _ _ live.1 live.2
  · exact h.testTexts _ _ live.1 live.2
  · exact h.runJoin live.1 live.2
  · rw [h.display live]
    exact .ok (respects_bare rfl)
  · exact h.runPush live.1 live.2
  · exact h.runPop live
  · exact h.runUnshift live.1 live.2
  · exact h.runInsert live.1 live.2.1 live.2.2
  · exact h.runRemove live.1 live.2
  · exact h.runGet live.1 live.2 (by simp)
  · exact h.runGet live.1 live.2.1 (by simpa using live.2.2)
  · exact h.runHas live.1 live.2
  · exact h.runKeys live
  · exact h.runValues live
  · exact h.runRange live.1 live.2
  · exact h.runRangeStep live.1 live.2.1 live.2.2
  · exact h.runConcat live.1 live.2
  · exact h.runSlice live.1 live.2.1 live.2.2
  · exact h.runAbs live
  · exact h.mapNumber _ _ live
  · exact h.mapNumber _ _ live
  · exact h.runSqrt live
  · exact h.mapNumber _ _ live
  · exact h.runPow live.1 live.2
  · exact h.choose _ _ live.1 live.2
  · exact h.choose _ _ live.1 live.2
  · exact h.runStringify _ live
  · rw [h.cell _ live.2]
    exact h.runStringify _ live.1
  · exact h.runParse live
  · exact .error

end Sharing

end LayerScript
