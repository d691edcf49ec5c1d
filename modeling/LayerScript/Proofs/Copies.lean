import LayerScript.Proofs.Depth
import LayerScript.Proofs.Documents

/-!
# Copies through documents

A value has a document when it is not nested too deep and contains no function and no module. The
value made from that document is a copy of the first, and the two have no array or map in common:
all that is made from a document is new.
-/

namespace LayerScript

/-- Functions and modules have no document. -/
def Cell.Portable (c : Cell) : Prop :=
  c.kind ≠ .function ∧ c.kind ≠ .module

namespace Store

variable {s t u : Store} {r q : Ref} {room : Nat}

/-! ## Which values have a document -/

theorem exists_bind_pure_ok {ε α β : Type} {x : Except ε α} {f : α → β} :
    (∃ b, (x >>= fun a => pure (f a)) = .ok b) ↔ ∃ a, x = .ok a := by
  constructor
  · rintro ⟨b, h⟩
    obtain ⟨a, done, _⟩ := exists_of_bind_ok h
    exact ⟨a, done⟩
  · rintro ⟨a, rfl⟩
    exact ⟨f a, rfl⟩

theorem exists_mapM_ok {ε α β : Type} {f : α → Except ε β} {as : List α} :
    (∃ bs, as.mapM f = .ok bs) ↔ ∀ a ∈ as, ∃ b, f a = .ok b := by
  induction as with
  | nil => exact iff_of_true ⟨[], rfl⟩ (fun a ha => absurd ha List.not_mem_nil)
  | cons a as ih =>
    rw [List.forall_mem_cons, ← ih]
    constructor
    · rintro ⟨bs, h⟩
      rw [List.mapM_cons] at h
      obtain ⟨b, first, h⟩ := exists_of_bind_ok h
      obtain ⟨bs, rest, h⟩ := exists_of_bind_ok h
      exact ⟨⟨b, first⟩, bs, rest⟩
    · rintro ⟨⟨b, first⟩, bs, rest⟩
      exact ⟨b :: bs, by rw [List.mapM_cons, first, rest]; rfl⟩

/-- A value has a document when its members have documents with room for one layer less. -/
theorem documentWithin_ok_iff : (∃ j, s.documentWithin (room + 1) r = .ok j) ↔
    (s.cell r).Portable ∧ ∀ q ∈ (s.cell r).members, ∃ j, s.documentWithin room q = .ok j := by
  rw [documentWithin]
  cases found : s.cell r with
  | array items =>
    change _ ↔ _ ∧ ∀ q ∈ items.toList, _
    rw [exists_bind_pure_ok, exists_mapM_ok, and_iff_right (by simp [Cell.Portable, Cell.kind])]
  | map entries =>
    change _ ↔ _ ∧ ∀ q ∈ entries.entries.map Prod.snd, _
    rw [exists_bind_pure_ok, exists_mapM_ok, and_iff_right (by simp [Cell.Portable, Cell.kind]),
      List.forall_mem_map]
    simp only [exists_bind_pure_ok]
  | module path exports => exact iff_of_false (by rintro ⟨j, h⟩; cases h) fun h => h.1.2 rfl
  | closure f => exact iff_of_false (by rintro ⟨j, h⟩; cases h) fun h => h.1.1 rfl
  | native f => exact iff_of_false (by rintro ⟨j, h⟩; cases h) fun h => h.1.1 rfl
  | _ =>
    exact iff_of_true ⟨_, rfl⟩ ⟨by simp [Cell.Portable, Cell.kind],
      fun q hq => absurd hq List.not_mem_nil⟩

theorem documentWithin_ok_iff_nestsWithin : (∃ j, s.documentWithin (room + 1) r = .ok j) ↔
    s.NestsWithin room r ∧ s.Throughout (fun q => (s.cell q).Portable) r := by
  induction room generalizing r with
  | zero =>
    rw [documentWithin_ok_iff, nestsWithin_zero, throughout_iff]
    constructor
    · rintro ⟨portable, none⟩
      have flat : (s.cell r).members = [] := by
        rw [List.eq_nil_iff_forall_not_mem]
        intro q hq
        obtain ⟨j, h⟩ := none q hq
        cases h
      exact ⟨flat, portable, by simp [flat]⟩
    · rintro ⟨flat, portable, -⟩
      exact ⟨portable, by simp [flat]⟩
  | succ room ih =>
    rw [documentWithin_ok_iff, nestsWithin_succ, throughout_iff]
    simp only [ih]
    constructor
    · rintro ⟨portable, each⟩
      exact ⟨fun q hq => (each q hq).1, portable, fun q hq => (each q hq).2⟩
    · rintro ⟨depth, portable, each⟩
      exact ⟨portable, fun q hq => ⟨depth q hq, each q hq⟩⟩

/-! ## What is made from a document is new -/

/-- The value and all that it contains in `t` are new to `u`. -/
def Fresh (u t : Store) (q : Ref) : Prop :=
  t.Throughout (fun p => ¬ u.Has (.value p)) q

theorem Fresh.of_grows {v : Store} (h : Fresh u t q) (grown : v.Grows u) : Fresh v t q :=
  h.imp fun p new had => new (grown.has p had)

theorem fresh_alloc {v : Store} {c : Cell} (grown : (v.alloc c).2.Grows t) (older : u.Grows v)
    (each : ∀ p ∈ c.members, Fresh u t p) : Fresh u t (v.alloc c).1 := by
  refine throughout_iff.2 ⟨fun had => not_has_alloc c (older.has _ had), ?_⟩
  rwa [grown.cell_alloc]

mutual

theorem fresh_fromDocument {u t : Store} (j : Json) (grown : (u.fromDocument j).2.Grows t) :
    Fresh u t (u.fromDocument j).1 := by
  match j with
  | .null | .bool _ | .int _ | .float _ | .string _ =>
    simp only [fromDocument] at grown ⊢
    exact fresh_alloc grown (.refl u) fun p hp => absurd hp List.not_mem_nil
  | .array js =>
    simp only [fromDocument] at grown ⊢
    exact fresh_alloc grown (grows_fromItems u js)
      (fresh_fromItems js ((grows_alloc ..).trans grown))
  | .object es =>
    simp only [fromDocument] at grown ⊢
    refine fresh_alloc grown (grows_fromEntries u es) fun p hp => ?_
    obtain ⟨e, he, rfl⟩ := List.mem_map.1 (Dict.mem_values_ofList hp)
    exact fresh_fromEntries es ((grows_alloc ..).trans grown) e he

theorem fresh_fromItems {u t : Store} (js : List Json) (grown : (u.fromItems js).2.Grows t) :
    ∀ q ∈ (u.fromItems js).1, Fresh u t q := by
  match js with
  | [] => exact fun q hq => absurd hq List.not_mem_nil
  | j :: js =>
    simp only [fromItems] at grown ⊢
    rw [List.forall_mem_cons]
    exact ⟨fresh_fromDocument j ((grows_fromItems _ js).trans grown),
      fun q hq => (fresh_fromItems js grown q hq).of_grows (grows_fromDocument u j)⟩

theorem fresh_fromEntries {u t : Store} (es : List (String × Json))
    (grown : (u.fromEntries es).2.Grows t) : ∀ e ∈ (u.fromEntries es).1, Fresh u t e.2 := by
  match es with
  | [] => exact fun q hq => absurd hq List.not_mem_nil
  | (key, j) :: es =>
    simp only [fromEntries] at grown ⊢
    rw [List.forall_mem_cons]
    exact ⟨fresh_fromDocument j ((grows_fromEntries _ es).trans grown),
      fun e he => (fresh_fromEntries es grown e he).of_grows (grows_fromDocument u j)⟩

end

/-- Arrays and maps are among what has been made. -/
theorem has_of_isComposite (h : (s.cell r).isComposite) : s.Has (.value r) := by
  cases r with
  | scalar serial value => cases value <;> cases h
  | cell index =>
    by_cases hi : index < s.cells.size
    · exact hi
    · simp [cell, Array.getElem?_eq_none (Nat.le_of_not_lt hi), Cell.isComposite] at h

/-- A value has a document exactly when no path from it has more than 128 steps and none leads to a
function or a module. A value made from the document, in this store or in a later one, is a copy,
has no array or map in common with the first, and leaves all else as it was. -/
theorem document_copies (s : Store) (r : Ref) :
    ((∃ j, s.toDocument r = .ok j) ↔ s.NestsWithin 128 r ∧
      s.Throughout (fun q => (s.cell q).kind ≠ .function ∧ (s.cell q).kind ≠ .module) r) ∧
    ∀ j, s.toDocument r = .ok j → ∀ u : Store, (∀ p, s.Has p → u.Has p) →
      s.Copied (u.fromDocument j).2 r (u.fromDocument j).1 ∧
      u.Grows (u.fromDocument j).2 ∧
      ∀ p k l, s.Path k r p → (u.fromDocument j).2.Path l (u.fromDocument j).1 p →
        ¬ (s.cell p).isComposite := by
  refine ⟨documentWithin_ok_iff_nestsWithin, fun j h u later => ?_⟩
  refine ⟨(shows_of_documentWithin h).copied (.refl _), grows_fromDocument u j, ?_⟩
  intro p k l path path' composite
  exact fresh_fromDocument j (.refl _) l p path' (later _ (has_of_isComposite composite))

/-- The first array holds the second one twice. -/
def pair : Store where
  cells := #[.array #[.cell 1, .cell 1], .array #[.scalar 0 (.int 1)]]
  scopes := #[]
  serials := 1

theorem document_copies_pair : ∃ j q t, pair.toDocument (.cell 0) = .ok j ∧
    pair.fromDocument j = (q, t) ∧ pair.Copied t (.cell 0) q ∧ pair.Grows t := by
  have read : pair.toDocument (.cell 0) = .ok (.array [.array [.int 1], .array [.int 1]]) := rfl
  obtain ⟨copied, grown, -⟩ := (document_copies pair (.cell 0)).2 _ read pair fun _ had => had
  exact ⟨_, _, _, read, rfl, copied, grown⟩

end Store

end LayerScript
