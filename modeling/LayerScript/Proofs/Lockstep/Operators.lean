import LayerScript.Proofs.Lockstep.Readings

/-!
# Operators on two stores

Operators, names and patterns give the same on two stores that are alike, and what they find is
live. A check that has an effect has one that respects the sharing.
-/

namespace LayerScript

/-- Two checks agree, and a result is good. -/
structure Shown {α : Type} (A : α → Prop) (x y : Except Fault α) : Prop where
  value : y = x
  good : ∀ a, x = .ok a → A a

namespace Shown

variable {α β : Type} {A : α → Prop} {B : β → Prop}

theorem ok {a : α} (ha : A a) : Shown A (.ok a) (.ok a) :=
  ⟨rfl, fun _ h => Except.ok.inj h ▸ ha⟩

theorem error {f : Fault} : Shown A (.error f) (.error f) :=
  ⟨rfl, fun _ h => nomatch h⟩

theorem of_eq {x y : Except Fault α} (h : y = x) : Shown (fun _ => True) x y :=
  ⟨h, fun _ _ => trivial⟩

theorem bind {x y : Except Fault α} {f g : α → Except Fault β} (h : Shown A x y)
    (hf : ∀ a, A a → Shown B (f a) (g a)) : Shown B (x >>= f) (y >>= g) := by
  obtain ⟨rfl, good⟩ := h
  cases y with
  | error fault => exact error
  | ok a => exact hf a (good a rfl)

theorem map {x y : Except Fault α} {f : α → β} (h : Shown A x y) (hf : ∀ a, A a → B (f a)) :
    Shown B (x.map f) (y.map f) := by
  obtain ⟨rfl, good⟩ := h
  cases y with
  | error fault => exact error
  | ok a => exact ok (hf a (good a rfl))

end Shown

namespace Sharing

variable {W : Sharing} {s t : Store} {α β : Type}

/-! ## Operators -/

theorem Alike.addition (h : W.Alike s t) (strict : Bool) {a b : Ref} (ha : W.live (.value a))
    (hb : W.live (.value b)) : t.addition strict a b = s.addition strict a b := by
  simp only [Store.addition, h.cell a ha, h.cell b hb, h.display ha, h.display hb]

theorem Alike.binary (h : W.Alike s t) (strict : Bool) (op : BinaryOp) {a b : Ref}
    (ha : W.live (.value a)) (hb : W.live (.value b)) :
    t.binary strict op a b = s.binary strict op a b := by
  unfold Store.binary
  rw [h.cell a ha, h.cell b hb, h.addition strict ha hb, h.equal ha hb]

theorem Alike.unary (h : W.Alike s t) (op : UnaryOp) {a : Ref} (ha : W.live (.value a)) :
    t.unary op a = s.unary op a := by
  unfold Store.unary
  rw [h.cell a ha]

/-- The result of an operator holds no other values. -/
def Bare (c : Cell) : Prop :=
  c.scalar?.isSome

theorem Bare.fits {c : Cell} (hc : Bare c) : W.Fits s c := by
  cases c <;> simp [Bare, Cell.scalar?, Fits, Cell.places] at hc ⊢

theorem bare_arithmetic {op : ArithmeticOp} {c d e : Cell} (h : arithmetic op c d = .ok e) :
    Bare e := by
  simp only [arithmetic, bind, Except.bind, pure, Except.pure] at h
  split at h
  · simp at h
  split at h
  · simp at h
  obtain rfl := Except.ok.inj h
  split <;> rfl

theorem bare_comparison {op : ComparisonOp} {c d e : Cell} (h : comparison op c d = .ok e) :
    Bare e := by
  unfold comparison at h
  split at h
  · obtain rfl := Except.ok.inj h
    rfl
  · simp only [bind, Except.bind, pure, Except.pure] at h
    split at h
    · simp at h
    split at h
    · simp at h
    obtain rfl := Except.ok.inj h
    rfl

theorem bare_addition {strict : Bool} {a b : Ref} {c : Cell}
    (h : s.addition strict a b = .ok c) : Bare c := by
  unfold Store.addition at h
  split at h
  · obtain rfl := Except.ok.inj h
    rfl
  · split at h
    · simp at h
    · obtain rfl := Except.ok.inj h
      rfl
  · split at h
    · simp at h
    · obtain rfl := Except.ok.inj h
      rfl
  · exact bare_arithmetic h

theorem bare_binary {strict : Bool} {op : BinaryOp} {a b : Ref} {c : Cell}
    (h : s.binary strict op a b = .ok c) : Bare c := by
  unfold Store.binary at h
  split at h
  · exact bare_addition h
  · exact bare_arithmetic h
  · exact bare_comparison h
  · obtain rfl := Except.ok.inj h
    rfl
  · obtain rfl := Except.ok.inj h
    rfl

theorem bare_unary {op : UnaryOp} {a : Ref} {c : Cell} (h : s.unary op a = .ok c) : Bare c := by
  unfold Store.unary at h
  split at h
  · unfold negate at h
    split at h
    · obtain rfl := Except.ok.inj h
      split <;> rfl
    · obtain rfl := Except.ok.inj h
      rfl
    · simp at h
  · obtain rfl := Except.ok.inj h
    rfl

theorem bare_ofLiteral (l : Literal) : Bare (.ofLiteral l) := by
  cases l <;> rfl

/-! ## Elements and fields -/

theorem Alike.element (h : W.Alike s t) {a b : Ref} (ha : W.live (.value a))
    (hb : W.live (.value b)) :
    Shown (W.Respects fun r => W.live (.value r)) (s.element a b) (t.element a b) := by
  unfold Store.element
  rw [h.cell a ha, h.cell b hb]
  split
  · next items n hc _ =>
    split
    · next r hr =>
      refine .ok (respects_keep (h.live_item ha hc r ?_))
      obtain ⟨i, _, hi⟩ := Option.bind_eq_some_iff.1 hr
      exact Array.mem_toList_iff.2 (Array.mem_of_getElem? hi)
    · exact .error
  · split
    · exact .ok (respects_alloc fun _ => Bare.fits rfl)
    · exact .error
  · next entries key hc _ =>
    split
    · next r hr => exact .ok (respects_keep (h.live_entry ha hc r (Dict.mem_values_of_find? hr)))
    · exact .error
  · exact .error

theorem live_setIfInBounds {items : Array Ref} {i : Nat} {r : Ref}
    (hi : ∀ x ∈ items.toList, W.live (.value x)) (hr : W.live (.value r)) :
    ∀ x ∈ (items.setIfInBounds i r).toList, W.live (.value x) := by
  intro x hx
  rw [Array.toList_setIfInBounds] at hx
  rcases List.mem_or_eq_of_mem_set hx with hx | rfl
  · exact hi x hx
  · exact hr

theorem live_insert {entries : Dict Ref} {key : String} {r : Ref}
    (he : ∀ x ∈ entries.values, W.live (.value x)) (hr : W.live (.value r)) :
    ∀ x ∈ (entries.insert key r).values, W.live (.value x) := by
  intro x hx
  rcases Dict.mem_values_insert hx with rfl | hx
  · exact hr
  · exact he x hx

theorem Alike.assignElement (h : W.Alike s t) {a b r : Ref} (ha : W.live (.value a))
    (hb : W.live (.value b)) (hr : W.live (.value r)) :
    Shown (W.Respects fun _ => True) (s.assignElement a b r) (t.assignElement a b r) := by
  unfold Store.assignElement
  rw [h.cell a ha, h.cell b hb]
  split
  · split
    · exact .ok (respects_modifyArray ha (fun _ hi => live_setIfInBounds hi hr) trivial)
    · exact .error
  · exact .ok (respects_modifyMap ha (fun _ he => live_insert he hr) trivial)
  · exact .error

theorem Alike.field (h : W.Alike s t) {a : Ref} (ha : W.live (.value a)) (x : String) :
    Shown (fun r => W.live (.value r)) (s.field a x) (t.field a x) := by
  unfold Store.field
  rw [h.cell a ha]
  cases hc : s.cell a with
  | map entries =>
    simp only
    split
    · next r hr => exact .ok (h.live_entry ha hc r (Dict.mem_values_of_find? hr))
    · exact .error
  | module path exports =>
    simp only
    split
    · next r hr => exact .ok (h.live_export ha hc r (Dict.mem_values_of_find? hr))
    · exact .error
  | _ => exact .error

theorem Alike.assignField (h : W.Alike s t) {a r : Ref} (ha : W.live (.value a))
    (hr : W.live (.value r)) (x : String) :
    Shown (W.Respects fun _ => True) (s.assignField a x r) (t.assignField a x r) := by
  unfold Store.assignField
  rw [h.cell a ha]
  split
  · exact .ok (respects_modifyMap ha (fun _ he => live_insert he hr) trivial)
  · exact .error

theorem Alike.mapKey (h : W.Alike s t) {a : Ref} (ha : W.live (.value a)) :
    t.mapKey a = s.mapKey a := by
  unfold Store.mapKey
  rw [h.cell a ha]

theorem Alike.iterate (h : W.Alike s t) {a : Ref} (ha : W.live (.value a)) :
    Shown (W.Respects fun rs => ∀ r ∈ rs, W.live (.value r)) (s.iterate a) (t.iterate a) := by
  unfold Store.iterate
  rw [h.cell a ha]
  split
  · next items hc => exact .ok (respects_keep (h.live_item ha hc))
  · refine .ok (respects_allocAll ?_)
    intro c hc _
    obtain ⟨_, _, rfl⟩ := List.mem_map.1 hc
    exact Bare.fits rfl
  · next entries hc =>
    have keys : W.Respects (fun rs => ∀ r ∈ rs, W.live (.value r))
        (·.allocAll (entries.keys.map .text)) := by
      apply respects_allocAll
      intro c hc _
      obtain ⟨_, _, rfl⟩ := List.mem_map.1 hc
      exact Bare.fits rfl
    refine .ok (keys.seq (g := fun keys s =>
      s.allocAll ((keys.zip entries.values).map fun e => .array #[e.1, e.2])) ?_)
    intro keys hkeys
    apply respects_allocAll
    intro c hc' _
    obtain ⟨e, he, rfl⟩ := List.mem_map.1 hc'
    obtain ⟨hk, hv⟩ := List.of_mem_zip he
    refine fits_array.2 ?_
    intro r hr
    rcases List.mem_cons.1 hr with rfl | hr
    · exact hkeys _ hk
    · obtain rfl := List.mem_singleton.1 hr
      exact h.live_entry ha hc _ hv
  · exact .error

end Sharing

end LayerScript
