import LayerScript.Proofs.Json.RoundTrip
import LayerScript.Proofs.Places
import LayerScript.Value.Document
import Mathlib.Data.List.Forall2
import Mathlib.Tactic.Tauto

/-!
# Values made from documents

The document of a value shows what the value contains, except that a float that JSON does not have
becomes null. The value made from that document is a copy of the first one, and all that the store
had is left as it was.
-/

namespace LayerScript

namespace Store

/-- The document shows the value with all that it contains, in order. -/
inductive Shows (s : Store) : Ref → Json → Prop
  | none {r : Ref} (h : s.cell r = .none) : Shows s r .null
  | bool {r : Ref} {b : Bool} (h : s.cell r = .bool b) : Shows s r (.bool b)
  | int {r : Ref} {n : Int64} (h : s.cell r = .int n) : Shows s r (.int n)
  | float {r : Ref} {x : Float} (h : s.cell r = .float x) (finite : x.isFinite) :
    Shows s r (.float x)
  | lost {r : Ref} {x : Float} (h : s.cell r = .float x) (infinite : ¬ x.isFinite) :
    Shows s r .null
  | text {r : Ref} {t : String} (h : s.cell r = .text t) : Shows s r (.string t)
  | array {r : Ref} {items : Array Ref} {js : List Json} (h : s.cell r = .array items)
    (size : items.toList.length = js.length) (each : ∀ p ∈ items.toList.zip js, Shows s p.1 p.2) :
    Shows s r (.array js)
  | map {r : Ref} {entries : Dict Ref} {es : List (String × Json)} (h : s.cell r = .map entries)
    (keys : entries.keys = es.map Prod.fst)
    (each : ∀ p ∈ entries.entries.zip es, Shows s p.1.2 p.2.2) : Shows s r (.object es)

/-- A value of the second store has the structure of one of the first: the same scalars, elements
and entries in the same order. Floats that JSON does not have are replaced by nothing. -/
inductive Copied (s t : Store) : Ref → Ref → Prop
  | scalar {r q : Ref} {l : Literal} (h : s.cell r = .ofLiteral l) (h' : t.cell q = .ofLiteral l)
    (finite : ∀ x, l = .float x → x.isFinite) : Copied s t r q
  | lost {r q : Ref} {x : Float} (h : s.cell r = .float x) (infinite : ¬ x.isFinite)
    (h' : t.cell q = .none) : Copied s t r q
  | array {r q : Ref} {items items' : Array Ref} (h : s.cell r = .array items)
    (h' : t.cell q = .array items') (size : items.toList.length = items'.toList.length)
    (each : ∀ p ∈ items.toList.zip items'.toList, Copied s t p.1 p.2) : Copied s t r q
  | map {r q : Ref} {entries entries' : Dict Ref} (h : s.cell r = .map entries)
    (h' : t.cell q = .map entries') (keys : entries.keys = entries'.keys)
    (each : ∀ p ∈ entries.entries.zip entries'.entries, Copied s t p.1.2 p.2.2) : Copied s t r q

/-! ## Documents of values -/

theorem exists_mem_zip_right {α β : Type} {as : List α} {bs : List β}
    (size : as.length = bs.length) {b : β} (h : b ∈ bs) : ∃ a, (a, b) ∈ as.zip bs := by
  obtain ⟨i, hi, rfl⟩ := List.getElem_of_mem h
  exact ⟨as[i], List.mem_iff_getElem.2 ⟨i, by simp; omega, by simp⟩⟩

theorem exists_of_bind_ok {ε α β : Type} {x : Except ε α} {f : α → Except ε β} {b : β}
    (h : x >>= f = .ok b) : ∃ a, x = .ok a ∧ f a = .ok b := by
  cases x with
  | ok a => exact ⟨a, rfl, h⟩
  | error e => cases h

theorem forall₂_of_mapM {ε α β : Type} {f : α → Except ε β} {as : List α} {bs : List β}
    (h : as.mapM f = .ok bs) : List.Forall₂ (fun a b => f a = .ok b) as bs := by
  induction as generalizing bs with
  | nil =>
    cases h
    exact .nil
  | cons a as ih =>
    rw [List.mapM_cons] at h
    obtain ⟨b, first, h⟩ := exists_of_bind_ok h
    obtain ⟨bs, rest, h⟩ := exists_of_bind_ok h
    cases h
    exact .cons first (ih rest)

/-- Entries that agree one by one are entries with the same keys whose values agree. -/
theorem forall₂_entries {α β : Type} {R : α → β → Prop} {as : List (String × α)}
    {bs : List (String × β)} :
    List.Forall₂ (fun a b => a.1 = b.1 ∧ R a.2 b.2) as bs ↔
      as.map Prod.fst = bs.map Prod.fst ∧ ∀ p ∈ as.zip bs, R p.1.2 p.2.2 := by
  induction as generalizing bs with
  | nil => cases bs <;> simp
  | cons a as ih =>
    cases bs with
    | nil => simp
    | cons b bs =>
      simp [ih]
      tauto

theorem shows_of_documentWithin {s : Store} {room : Nat} {r : Ref} {j : Json}
    (h : s.documentWithin room r = .ok j) : s.Shows r j := by
  induction room generalizing r j with
  | zero => cases h
  | succ room ih =>
    unfold documentWithin at h
    cases found : s.cell r with rw [found] at h
    | none =>
      cases h
      exact .none found
    | bool b =>
      cases h
      exact .bool found
    | int n =>
      cases h
      exact .int found
    | float x =>
      cases h
      unfold Json.ofFloat
      split
      next finite => exact .float found finite
      next infinite => exact .lost found infinite
    | text t =>
      cases h
      exact .text found
    | array items =>
      obtain ⟨js, read, h⟩ := exists_of_bind_ok h
      cases h
      obtain ⟨size, each⟩ := List.forall₂_iff_zip.1 (forall₂_of_mapM read)
      exact .array found size fun p hp => ih (each hp)
    | map entries =>
      obtain ⟨es, read, h⟩ := exists_of_bind_ok h
      cases h
      have pairs : List.Forall₂ (fun e e' => e.1 = e'.1 ∧ s.documentWithin room e.2 = .ok e'.2)
          entries.entries es := by
        refine (forall₂_of_mapM read).imp fun e e' he => ?_
        obtain ⟨j, inner, he⟩ := exists_of_bind_ok he
        cases he
        exact ⟨rfl, inner⟩
      obtain ⟨keys, each⟩ :=
        (forall₂_entries (R := fun r j => s.documentWithin room r = .ok j)).1 pairs
      exact .map found keys fun p hp => ih (each p hp)
    | module path exports => cases h
    | closure f => cases h
    | native f => cases h

theorem Shows.readable {s : Store} {r : Ref} {j : Json} (h : s.Shows r j)
    (legible : ∀ x ∈ j.floats, Json.Legible x) : j.Readable := by
  induction h with
  | none | lost => exact .null
  | bool => exact .bool _
  | int => exact .int _
  | float => exact .float (legible _ (by simp [Json.floats]))
  | text => exact .string _
  | array h size each ih =>
    refine .array fun j hj => ?_
    obtain ⟨r, mem⟩ := exists_mem_zip_right size hj
    exact ih _ mem fun x hx => legible x (Json.mem_floatsOfItems.2 ⟨j, hj, hx⟩)
  | map h keys each ih =>
    refine .object (keys ▸ Dict.nodup_keys _) fun e he => ?_
    have size := congrArg List.length keys
    obtain ⟨e', mem⟩ := exists_mem_zip_right (by simpa [Dict.keys] using size) he
    exact ih _ mem fun x hx => legible x (Json.mem_floatsOfEntries.2 ⟨e, he, hx⟩)

/-! ## Values from documents -/

/-- What was made stays, and is left as it was. -/
structure Grows (s t : Store) : Prop where
  has : ∀ r, s.Has (.value r) → t.Has (.value r)
  cell : ∀ r, s.Has (.value r) → t.cell r = s.cell r

theorem Grows.refl (s : Store) : s.Grows s :=
  ⟨fun _ h => h, fun _ _ => rfl⟩

theorem Grows.trans {s t u : Store} (h : s.Grows t) (h' : t.Grows u) : s.Grows u where
  has r hr := h'.has r (h.has r hr)
  cell r hr := (h'.cell r (h.has r hr)).trans (h.cell r hr)

theorem grows_alloc (s : Store) (c : Cell) : s.Grows (s.alloc c).2 where
  has _ hr := has_alloc hr
  cell _ hr := cell_alloc_of_ne (ne_of_has hr)

theorem Grows.cell_alloc {s t : Store} {c : Cell} (h : (s.alloc c).2.Grows t) :
    t.cell (s.alloc c).1 = c := by
  rw [h.cell _ (has_alloc_self c), cell_alloc_self]

mutual

theorem grows_fromDocument (s : Store) (j : Json) : s.Grows (s.fromDocument j).2 := by
  match j with
  | .null | .bool _ | .int _ | .float _ | .string _ =>
    simp only [fromDocument]
    exact grows_alloc ..
  | .array js =>
    simp only [fromDocument]
    exact (grows_fromItems s js).trans (grows_alloc ..)
  | .object es =>
    simp only [fromDocument]
    exact (grows_fromEntries s es).trans (grows_alloc ..)

theorem grows_fromItems (s : Store) (js : List Json) : s.Grows (s.fromItems js).2 := by
  match js with
  | [] => exact .refl s
  | j :: js =>
    simp only [fromItems]
    exact (grows_fromDocument s j).trans (grows_fromItems _ js)

theorem grows_fromEntries (s : Store) (es : List (String × Json)) :
    s.Grows (s.fromEntries es).2 := by
  match es with
  | [] => exact .refl s
  | (key, j) :: es =>
    simp only [fromEntries]
    exact (grows_fromDocument s j).trans (grows_fromEntries _ es)

end

mutual

/-- The value made from a document that shows another one is a copy of that one, and stays so. -/
theorem Shows.copied {s : Store} {r : Ref} {j : Json} (h : s.Shows r j) {u t : Store}
    (grown : (u.fromDocument j).2.Grows t) : Copied s t r (u.fromDocument j).1 := by
  match j with
  | .null =>
    simp only [fromDocument] at grown ⊢
    cases h with
    | none h => exact .scalar (l := .none) h grown.cell_alloc (by simp)
    | lost h infinite => exact .lost h infinite grown.cell_alloc
  | .bool b =>
    simp only [fromDocument] at grown ⊢
    cases h with
    | bool h => exact .scalar (l := .bool b) h grown.cell_alloc (by simp)
  | .int n =>
    simp only [fromDocument] at grown ⊢
    cases h with
    | int h => exact .scalar (l := .int n) h grown.cell_alloc (by simp)
  | .float x =>
    simp only [fromDocument] at grown ⊢
    cases h with
    | float h finite => exact .scalar (l := .float x) h grown.cell_alloc (by simpa using finite)
  | .string text =>
    simp only [fromDocument] at grown ⊢
    cases h with
    | text h => exact .scalar (l := .text text) h grown.cell_alloc (by simp)
  | .array js =>
    simp only [fromDocument] at grown ⊢
    cases h with
    | array h size each =>
      have items := copied_items (List.forall₂_iff_zip.2 ⟨size, fun hp => each _ hp⟩)
        ((grows_alloc ..).trans grown)
      obtain ⟨size, each⟩ := List.forall₂_iff_zip.1 items
      exact .array h grown.cell_alloc size fun p hp => each hp
  | .object es =>
    simp only [fromDocument] at grown ⊢
    cases h with
    | @map _ entries _ h keys each =>
      have pairs := copied_entries
        (forall₂_entries.2 ⟨keys, each⟩) ((grows_alloc ..).trans grown)
      obtain ⟨keys, each⟩ := forall₂_entries.1 pairs
      -- A map has no key twice, so no entry is lost when the copy is put together.
      have same : (Dict.ofList (u.fromEntries es).1).entries = (u.fromEntries es).1 :=
        Dict.entries_ofList (keys ▸ entries.nodup_keys)
      refine .map h grown.cell_alloc ?_ ?_
      · rw [Dict.keys, Dict.keys, same]
        exact keys
      · rw [same]
        exact each

theorem copied_items {s : Store} {rs : List Ref} {js : List Json}
    (h : List.Forall₂ s.Shows rs js) {u t : Store} (grown : (u.fromItems js).2.Grows t) :
    List.Forall₂ (Copied s t) rs (u.fromItems js).1 := by
  match js with
  | [] =>
    cases h
    exact .nil
  | j :: js =>
    simp only [fromItems] at grown ⊢
    cases h with
    | cons first rest =>
      exact .cons (first.copied ((grows_fromItems _ js).trans grown)) (copied_items rest grown)

theorem copied_entries {s : Store} {entries : List (String × Ref)} {es : List (String × Json)}
    (h : List.Forall₂ (fun e e' => e.1 = e'.1 ∧ s.Shows e.2 e'.2) entries es) {u t : Store}
    (grown : (u.fromEntries es).2.Grows t) :
    List.Forall₂ (fun e e' => e.1 = e'.1 ∧ Copied s t e.2 e'.2) entries (u.fromEntries es).1 := by
  match es with
  | [] =>
    cases h
    exact .nil
  | (key, j) :: es =>
    simp only [fromEntries] at grown ⊢
    cases h with
    | cons first rest =>
      exact .cons ⟨first.1, first.2.copied ((grows_fromEntries _ es).trans grown)⟩
        (copied_entries rest grown)

end

end Store

end LayerScript
