import LayerScript.Native.Plain
import LayerScript.Proofs.Documents
import LayerScript.Proofs.Json.Outcomes

/-!
# Values parsed from JSON

The value made of a document that has been read has that document again, with nothing lost. So the
text of such a value is parsed as a value of the same structure, in either layout.
-/

namespace LayerScript

/-- A numeral is read back when the float that is read has the bits of the one that was printed. -/
instance (x : Float) : Decidable (Json.Legible x) :=
  match read : Json.read (Json.compact (.float x)) with
  | .ok (.float y) =>
    decidable_of_iff (y.toBits = x.toBits) (by
      rw [Json.Legible, read]
      refine ⟨fun same => by rw [Decimal.ext same], fun same => ?_⟩
      cases same
      rfl)
  | .ok .null | .ok (.bool _) | .ok (.int _) | .ok (.string _) | .ok (.array _)
  | .ok (.object _) | .error _ => isFalse (by simp [Json.Legible, read])

namespace Store

/-- The value is what a document is made into: nothing is lost on the way back. -/
inductive Made (s : Store) : Ref → Json → Prop
  | none {r : Ref} (h : s.cell r = .none) : Made s r .null
  | bool {r : Ref} {b : Bool} (h : s.cell r = .bool b) : Made s r (.bool b)
  | int {r : Ref} {n : Int64} (h : s.cell r = .int n) : Made s r (.int n)
  | float {r : Ref} {x : Float} (h : s.cell r = .float x) : Made s r (.float x)
  | text {r : Ref} {t : String} (h : s.cell r = .text t) : Made s r (.string t)
  | array {r : Ref} {items : Array Ref} {js : List Json} (h : s.cell r = .array items)
    (size : items.toList.length = js.length) (each : ∀ p ∈ items.toList.zip js, Made s p.1 p.2) :
    Made s r (.array js)
  | map {r : Ref} {entries : Dict Ref} {es : List (String × Json)} (h : s.cell r = .map entries)
    (keys : entries.keys = es.map Prod.fst)
    (each : ∀ p ∈ entries.entries.zip es, Made s p.1.2 p.2.2) : Made s r (.object es)

/-- Two values of the same structure: the same scalars, and elements and entries of the same
structure in the same order. -/
inductive Duplicates (s t : Store) : Ref → Ref → Prop
  | scalar {r q : Ref} {l : Literal} (h : s.cell r = .ofLiteral l) (h' : t.cell q = .ofLiteral l) :
    Duplicates s t r q
  | array {r q : Ref} {items items' : Array Ref} (h : s.cell r = .array items)
    (h' : t.cell q = .array items') (size : items.toList.length = items'.toList.length)
    (each : ∀ p ∈ items.toList.zip items'.toList, Duplicates s t p.1 p.2) : Duplicates s t r q
  | map {r q : Ref} {entries entries' : Dict Ref} (h : s.cell r = .map entries)
    (h' : t.cell q = .map entries') (keys : entries.keys = entries'.keys)
    (each : ∀ p ∈ entries.entries.zip entries'.entries, Duplicates s t p.1.2 p.2.2) :
    Duplicates s t r q

/-! ## Values made of documents -/

mutual

theorem made_fromDocument {j : Json} (proper : j.Proper) {u t : Store}
    (grown : (u.fromDocument j).2.Grows t) : t.Made (u.fromDocument j).1 j := by
  match j with
  | .null =>
    simp only [fromDocument] at grown ⊢
    exact .none grown.cell_alloc
  | .bool b =>
    simp only [fromDocument] at grown ⊢
    exact .bool grown.cell_alloc
  | .int n =>
    simp only [fromDocument] at grown ⊢
    exact .int grown.cell_alloc
  | .float x =>
    simp only [fromDocument] at grown ⊢
    exact .float grown.cell_alloc
  | .string text =>
    simp only [fromDocument] at grown ⊢
    exact .text grown.cell_alloc
  | .array js =>
    simp only [fromDocument] at grown ⊢
    cases proper with
    | array items =>
      have made := made_fromItems items ((grows_alloc ..).trans grown)
      obtain ⟨size, each⟩ := List.forall₂_iff_zip.1 made
      exact .array grown.cell_alloc size fun p hp => each hp
  | .object es =>
    simp only [fromDocument] at grown ⊢
    cases proper with
    | object keys entries =>
      have made := made_fromEntries entries ((grows_alloc ..).trans grown)
      obtain ⟨names, each⟩ := forall₂_entries.1 made
      have same : (Dict.ofList (u.fromEntries es).1).entries = (u.fromEntries es).1 :=
        Dict.entries_ofList (names ▸ keys)
      refine .map grown.cell_alloc ?_ ?_
      · rw [Dict.keys, same]
        exact names
      · rw [same]
        exact each

theorem made_fromItems {js : List Json} (proper : ∀ j ∈ js, j.Proper) {u t : Store}
    (grown : (u.fromItems js).2.Grows t) : List.Forall₂ t.Made (u.fromItems js).1 js := by
  match js with
  | [] => exact .nil
  | j :: js =>
    simp only [fromItems] at grown ⊢
    obtain ⟨first, rest⟩ := List.forall_mem_cons.1 proper
    exact .cons (made_fromDocument first ((grows_fromItems _ js).trans grown))
      (made_fromItems rest grown)

theorem made_fromEntries {es : List (String × Json)} (proper : ∀ e ∈ es, e.2.Proper) {u t : Store}
    (grown : (u.fromEntries es).2.Grows t) :
    List.Forall₂ (fun e e' => e.1 = e'.1 ∧ t.Made e.2 e'.2) (u.fromEntries es).1 es := by
  match es with
  | [] => exact .nil
  | (key, j) :: es =>
    simp only [fromEntries] at grown ⊢
    obtain ⟨first, rest⟩ := List.forall_mem_cons.1 proper
    exact .cons ⟨rfl, made_fromDocument first ((grows_fromEntries _ es).trans grown)⟩
      (made_fromEntries rest grown)

end

theorem mapM_of_forall₂ {ε α β : Type} {f : α → Except ε β} {as : List α} {bs : List β}
    (h : List.Forall₂ (fun a b => f a = .ok b) as bs) : as.mapM f = .ok bs := by
  induction h with
  | nil => rfl
  | cons first _ ih =>
    rw [List.mapM_cons, first, ih]
    rfl

/-- The document of a value is found when the encoder goes as deep as it is nested. -/
theorem documentWithin_of_made {s : Store} {r : Ref} {j : Json} (h : s.Made r j) {room : Nat}
    (fits : j.Fits room) : s.documentWithin room r = .ok j := by
  induction h generalizing room with
  | none h | bool h | int h | text h =>
    obtain ⟨room, rfl⟩ := Nat.exists_eq_add_one.2 fits.nesting
    rw [documentWithin, h]
  | float h =>
    obtain ⟨room, rfl⟩ := Nat.exists_eq_add_one.2 fits.nesting
    cases fits.proper with
    | float finite =>
      rw [documentWithin, h]
      exact congrArg Except.ok (if_pos finite)
  | @array r items js h size each ih =>
    obtain ⟨room, rfl⟩ := Nat.exists_eq_add_one.2 (Nat.lt_of_le_of_lt (Nat.zero_le _) fits.nesting)
    have parts := fits.items
    have read : items.toList.mapM (s.documentWithin room) = .ok js :=
      mapM_of_forall₂ (List.forall₂_iff_zip.2
        ⟨size, fun hp => ih _ hp (parts _ (List.of_mem_zip hp).2)⟩)
    rw [documentWithin, h]
    change items.toList.mapM (s.documentWithin room) >>= _ = _
    rw [read]
    rfl
  | @map r entries es h keys each ih =>
    obtain ⟨room, rfl⟩ := Nat.exists_eq_add_one.2 (Nat.lt_of_le_of_lt (Nat.zero_le _) fits.nesting)
    have parts := fits.entries
    have pairs : List.Forall₂ (fun e e' => e.1 = e'.1 ∧ s.documentWithin room e.2 = .ok e'.2)
        entries.entries es :=
      (forall₂_entries (R := fun r j => s.documentWithin room r = .ok j)).2
        ⟨keys, fun p hp => ih p hp (parts _ (List.of_mem_zip hp).2)⟩
    have read : entries.entries.mapM (fun e => do
        return (e.1, ← s.documentWithin room e.2)) = .ok es := by
      refine mapM_of_forall₂ (pairs.imp fun e e' he => ?_)
      rw [he.2, he.1]
      rfl
    rw [documentWithin, h]
    change entries.entries.mapM _ >>= _ = _
    rw [read]
    rfl

/-- What two lists have to do with a third one relates them to each other. -/
theorem forall₂_of_common {α β γ : Type} {R : α → γ → Prop} {S : β → γ → Prop} {T : α → β → Prop}
    {as : List α} {bs : List β} {cs : List γ} (h : List.Forall₂ R as cs)
    (h' : List.Forall₂ S bs cs) (both : ∀ {a b c}, R a c → S b c → T a b) :
    List.Forall₂ T as bs := by
  induction h generalizing bs with
  | nil =>
    cases h'
    exact .nil
  | cons first _ ih =>
    cases h' with
    | cons first' rest' => exact .cons (both first first') (ih rest')

/-- Values made of the same document have the same structure. -/
theorem Made.duplicates {s t : Store} {r q : Ref} {j : Json} (h : s.Made r j) (h' : t.Made q j) :
    s.Duplicates t r q := by
  induction h generalizing q with
  | none h => cases h' with | none h' => exact .scalar (l := .none) h h'
  | @bool _ b h => cases h' with | bool h' => exact .scalar (l := .bool b) h h'
  | @int _ n h => cases h' with | int h' => exact .scalar (l := .int n) h h'
  | @float _ x h => cases h' with | float h' => exact .scalar (l := .float x) h h'
  | @text _ text h => cases h' with | text h' => exact .scalar (l := .text text) h h'
  | @array r items js h size each ih =>
    cases h' with
    | array h' size' each' =>
      have whole : List.Forall₂ (fun r j => ∀ {q}, t.Made q j → s.Duplicates t r q)
          items.toList js :=
        List.forall₂_iff_zip.2 ⟨size, fun hp => ih _ hp⟩
      have whole' := List.forall₂_iff_zip.2 ⟨size', fun hp => each' _ hp⟩
      obtain ⟨size, each⟩ := List.forall₂_iff_zip.1
        (forall₂_of_common whole whole' fun made made' => made made')
      exact .array h h' size fun p hp => each hp
  | @map r entries es h keys each ih =>
    cases h' with
    | map h' keys' each' =>
      have whole := (forall₂_entries (R := fun r j => ∀ {q}, t.Made q j → s.Duplicates t r q)).2
        ⟨keys, ih⟩
      have whole' := (forall₂_entries (R := t.Made)).2 ⟨keys', each'⟩
      obtain ⟨keys, each⟩ := (forall₂_entries (R := s.Duplicates t)).1
        (forall₂_of_common whole whole' fun made made' =>
          ⟨made.1.trans made'.1.symm, made.2 made'.2⟩)
      exact .map h h' keys each

end Store

/-! ## Parsing and printing -/

namespace Plain

/-- What `std.json.parse` makes of a text. -/
theorem run_parse {s : Store} {a : Ref} {text : String} (given : s.cell a = .text text)
    {e : Store.Effect Ref} (h : run .parse [a] s = .ok e) :
    ∃ j, Json.read text = .ok j ∧ e = (·.fromDocument j) := by
  change (s.textOf "std.json.parse" a >>= _) = .ok e at h
  rw [Store.textOf, given] at h
  cases read : Json.read text with
  | ok j =>
    simp only [bind, Except.bind, read, pure, Except.pure, Except.ok.injEq] at h
    exact ⟨j, rfl, h.symm⟩
  | error why =>
    simp only [bind, Except.bind, read] at h
    cases h

theorem run_parse_of_read {s : Store} {a : Ref} {text : String} (given : s.cell a = .text text)
    {j : Json} (read : Json.read text = .ok j) :
    run .parse [a] s = .ok (·.fromDocument j) := by
  change (s.textOf "std.json.parse" a >>= _) = _
  rw [Store.textOf, given]
  simp [bind, Except.bind, read, pure, Except.pure]

/-- The text of a value is that of its document, in one of two layouts. -/
theorem run_stringify {s : Store} {r : Ref} {j : Json} (h : s.toDocument r = .ok j)
    (layout : Option Ref) : ∃ text, (text = j.compact ∨ text = j.pretty) ∧
      run .stringify (r :: layout.toList) s = .ok (·.alloc (.text text)) := by
  cases layout with
  | none =>
    refine ⟨j.compact, .inl rfl, ?_⟩
    change (s.toDocument r >>= _) = _
    rw [h]
    rfl
  | some b =>
    refine ⟨if (s.cell b).truthy then j.pretty else j.compact, ?_, ?_⟩
    · split
      · exact .inr rfl
      · exact .inl rfl
    · change (s.toDocument r >>= _) = _
      rw [h]
      rfl

/-- A value that was parsed can be printed, without a second argument or with any, and parsing the
text gives a value of the same structure. It is enough that the numerals of its floats are read as
these floats. -/
theorem parse_stringify {s : Store} {a : Ref} {text : String} (given : s.cell a = .text text)
    {e : Store.Effect Ref} (accepted : run .parse [a] s = .ok e)
    (legible : ∀ j, Json.read text = .ok j → ∀ x ∈ j.floats, x.isFinite → Json.Legible x)
    {t : Store} (kept : (e s).2.Grows t) (layout : Option Ref) :
    ∃ e', run .stringify ((e s).1 :: layout.toList) t = .ok e' ∧
      ∃ e'', run .parse [(e' t).1] (e' t).2 = .ok e'' ∧
        t.Duplicates (e'' (e' t).2).2 (e s).1 (e'' (e' t).2).1 := by
  obtain ⟨j, read, rfl⟩ := run_parse given accepted
  have fits := Json.fits_of_read read
  have readable := fits.proper.readable (legible j read)
  have made := Store.made_fromDocument fits.proper kept
  have document : t.toDocument (s.fromDocument j).1 = .ok j :=
    Store.documentWithin_of_made made (fits.mono (by decide))
  obtain ⟨printed, layouts, prints⟩ := run_stringify document layout
  have again : Json.read printed = .ok j := by
    rcases layouts with rfl | rfl
    · exact (Json.read_compact readable).1 fits.nesting
    · exact (Json.read_pretty readable).1 fits.nesting
  refine ⟨_, prints, _, run_parse_of_read (Store.cell_alloc_self _) again, ?_⟩
  exact made.duplicates (Store.made_fromDocument fits.proper (.refl _))

/-- A repeated key, a whole number, a fraction and the negative zero. -/
theorem parse_stringify_repeated :
    let text := "\x7b\"a\": [7], \"b\": [1, 0.1, -0], \"a\": \x7b\"c\": \"x\"\x7d\x7d"
    let a : Ref := (Store.empty.alloc (.text text)).1
    let s := (Store.empty.alloc (.text text)).2
    ∃ e, run .parse [a] s = .ok e ∧
      ∃ e', run .stringify [(e s).1] (e s).2 = .ok e' ∧
        ∃ e'', run .parse [(e' (e s).2).1] (e' (e s).2).2 = .ok e'' ∧
          (e s).2.Duplicates (e'' (e' (e s).2).2).2 (e s).1 (e'' (e' (e s).2).2).1 := by
  intro text a s
  have checked : (Json.read text).toOption.any
      (fun j => decide (∀ x ∈ j.floats, Json.Legible x)) := by
    decide +kernel
  obtain ⟨j, read⟩ : ∃ j, Json.read text = .ok j := by
    cases read : Json.read text with
    | ok j => exact ⟨j, rfl⟩
    | error why =>
      rw [read] at checked
      cases checked
  have legible : ∀ k, Json.read text = .ok k → ∀ x ∈ k.floats, x.isFinite → Json.Legible x := by
    intro k same x hx _
    rw [same] at checked
    exact of_decide_eq_true checked x hx
  have given : s.cell a = .text text := Store.cell_alloc_self _
  have accepted := run_parse_of_read given read
  exact ⟨_, accepted, parse_stringify given accepted legible (.refl _) none⟩

end Plain

end LayerScript
