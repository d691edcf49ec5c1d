import LayerScript.Proofs.Decimal.Distance
import LayerScript.Proofs.Depth
import Mathlib.Data.List.Forall2
import Mathlib.Data.List.Perm.Subperm
import Mathlib.Data.Option.Basic

/-!
# Equality is equality of structure

Two values are alike to some depth when they cannot be told apart by looking that deep into them.
A comparison stops early where both sides are one value, and gives up where they are nested too
deep. The first is right because a value is like itself to any depth. The second makes equality miss
values that are alike, but only where they are nested deeper than the limit.
-/

namespace LayerScript

/-! ## Dictionaries that correspond -/

/-- Two dictionaries have the same keys, in any order, and their values correspond by `R`. -/
structure Dict.Matches {α β : Type} (R : α → β → Prop) (d : Dict α) (d' : Dict β) : Prop where
  keys : ∀ key, key ∈ d.keys ↔ key ∈ d'.keys
  values : ∀ key a b, d.find? key = some a → d'.find? key = some b → R a b

namespace Dict

variable {α β γ : Type} {d : Dict α} {d' : Dict β} {R : α → β → Prop}

theorem exists_find? {key : String} (h : key ∈ d.keys) : ∃ value, d.find? key = some value := by
  obtain ⟨e, he, rfl⟩ := List.mem_map.1 h
  exact ⟨e.2, mem_entries.1 he⟩

theorem length_keys (d : Dict α) : d.keys.length = d.size := by
  rw [keys, List.length_map, size_eq]

theorem Matches.size_eq (h : Matches R d d') : d.size = d'.size := by
  have perm : d.keys.Perm d'.keys :=
    (List.perm_ext_iff_of_nodup d.nodup_keys d'.nodup_keys).2 h.keys
  rw [← length_keys, ← length_keys, perm.length_eq]

/-- Of two dictionaries of one size, it is enough to look up the keys of the first. -/
theorem Matches.of_size_eq (size : d.size = d'.size)
    (each : ∀ e ∈ d.entries, ∃ b, d'.find? e.1 = some b ∧ R e.2 b) : Matches R d d' where
  keys key := by
    have sub : d.keys ⊆ d'.keys := by
      intro k hk
      obtain ⟨e, he, rfl⟩ := List.mem_map.1 hk
      obtain ⟨b, found, _⟩ := each e he
      exact mem_keys_of_find? found
    -- No key occurs twice, so the keys of the first, being as many, are all keys of the second.
    have perm : d.keys.Perm d'.keys :=
      (List.subperm_of_subset d.nodup_keys sub).perm_of_length_le
        (by rw [length_keys, length_keys, size])
    exact perm.mem_iff
  values key a b found found' := by
    obtain ⟨b', other, rel⟩ := each (key, a) (mem_entries.2 found)
    rw [found'] at other
    cases other
    exact rel

theorem Matches.refl {R : α → α → Prop} (refl : ∀ a, R a a) (d : Dict α) : Matches R d d where
  keys _ := Iff.rfl
  values key a b found found' := by
    rw [found] at found'
    cases found'
    exact refl a

theorem Matches.flip (h : Matches R d d') : Matches (fun b a => R a b) d' d where
  keys key := (h.keys key).symm
  values key b a found found' := h.values key a b found' found

theorem Matches.trans {R' : β → γ → Prop} {S : α → γ → Prop} {d'' : Dict γ} (h : Matches R d d')
    (h' : Matches R' d' d'') (trans : ∀ a b c, R a b → R' b c → S a c) : Matches S d d'' where
  keys key := (h.keys key).trans (h'.keys key)
  values key a c found found'' := by
    obtain ⟨b, found'⟩ := exists_find? ((h.keys key).1 (mem_keys_of_find? found))
    exact trans a b c (h.values key a b found found') (h'.values key b c found' found'')

end Dict

theorem forall₂_trans {α : Type} {R : α → α → Prop} (trans : ∀ a b c, R a b → R b c → R a c)
    {as bs cs : List α} (h : List.Forall₂ R as bs) (h' : List.Forall₂ R bs cs) :
    List.Forall₂ R as cs := by
  induction h generalizing cs with
  | nil => exact h'
  | cons first rest ih =>
    cases h' with
    | cons first' rest' => exact .cons (trans _ _ _ first first') (ih rest')

theorem exists_of_forall₂ {α β : Type} {R : α → β → Prop} {as : List α} {bs : List β} {a : α}
    (h : List.Forall₂ R as bs) (ha : a ∈ as) : ∃ b ∈ bs, R a b := by
  induction h with
  | nil => cases ha
  | cons first rest ih =>
    rcases List.mem_cons.1 ha with rfl | ha
    · exact ⟨_, List.mem_cons_self, first⟩
    · obtain ⟨b, hb, rel⟩ := ih ha
      exact ⟨b, List.mem_cons_of_mem _ hb, rel⟩

theorem Cell.ofLiteral_ne_array {l : Literal} {items : Array Ref} :
    Cell.ofLiteral l ≠ .array items := by
  cases l <;> simp [ofLiteral]

theorem Cell.ofLiteral_ne_map {l : Literal} {entries : Dict Ref} :
    Cell.ofLiteral l ≠ .map entries := by
  cases l <;> simp [ofLiteral]

/-! ## Handles -/

/-- A handle of a heap in which the scalar with serial `k` is `scalars k`. -/
def Ref.Genuine (scalars : Nat → Literal) : Ref → Prop
  | .scalar serial value => value = scalars serial
  | .cell _ => True

theorem Ref.same_comm (a b : Ref) : a.same b = b.same a := by
  cases a <;> cases b <;> simp [same, BEq.comm]

theorem Ref.same_self (a : Ref) : a.same a = true := by
  cases a <;> simp [same]

theorem Ref.Genuine.eq_of_same {scalars : Nat → Literal} {a b : Ref} (ha : a.Genuine scalars)
    (hb : b.Genuine scalars) (h : a.same b) : a = b := by
  cases a with
  | scalar m l =>
    cases b with
    | scalar n l' =>
      obtain rfl : m = n := by simpa [same] using h
      rw [ha, hb]
    | cell j => cases h
  | cell i =>
    cases b with
    | scalar n l' => cases h
    | cell j => simpa [same] using h

namespace Store

variable {s : Store} {R R' : Ref → Ref → Prop} {same same' : Ref → Ref → Bool} {a b c : Ref}

/-! ## Structure -/

/-- Two values have the same outermost layer, and what they hold there corresponds by `R`. The order
of the entries of a map does not matter. A function or a module is like itself only. -/
inductive Alike (s : Store) (R : Ref → Ref → Prop) : Ref → Ref → Prop
  | scalar {a b : Ref} {l : Literal} (h : s.cell a = .ofLiteral l) (h' : s.cell b = .ofLiteral l) :
    Alike s R a b
  | array {a b : Ref} {items items' : Array Ref} (h : s.cell a = .array items)
    (h' : s.cell b = .array items') (each : List.Forall₂ R items.toList items'.toList) :
    Alike s R a b
  | map {a b : Ref} {entries entries' : Dict Ref} (h : s.cell a = .map entries)
    (h' : s.cell b = .map entries') (each : entries.Matches R entries') : Alike s R a b
  | identical {a : Ref} (h : (s.cell a).kind = .function ∨ (s.cell a).kind = .module) :
    Alike s R a a

/-- Two values unfold to the same structure as far as so many layers. -/
def AlikeTo (s : Store) : Nat → Ref → Ref → Prop
  | 0 => fun _ _ => True
  | n + 1 => s.Alike (s.AlikeTo n)

theorem Alike.imp (h : s.Alike R a b)
    (each : ∀ p ∈ (s.cell a).members, ∀ q ∈ (s.cell b).members, R p q → R' p q) :
    s.Alike R' a b := by
  cases h with
  | scalar h h' => exact .scalar h h'
  | array h h' rel =>
    rw [h, h'] at each
    obtain ⟨size, rel⟩ := List.forall₂_iff_zip.1 rel
    refine .array h h' (List.forall₂_iff_zip.2 ⟨size, fun {p q} hpq => ?_⟩)
    exact each p (List.of_mem_zip hpq).1 q (List.of_mem_zip hpq).2 (rel hpq)
  | map h h' rel =>
    rw [h, h'] at each
    refine .map h h' ⟨rel.keys, fun key p q found found' => ?_⟩
    exact each p (Dict.mem_values_of_find? found) q (Dict.mem_values_of_find? found')
      (rel.values key p q found found')
  | identical h => exact .identical h

theorem Alike.refl (refl : ∀ p, R p p) (a : Ref) : s.Alike R a a := by
  cases h : s.cell a with
  | none => exact .scalar (l := .none) h h
  | bool x => exact .scalar (l := .bool x) h h
  | int x => exact .scalar (l := .int x) h h
  | float x => exact .scalar (l := .float x) h h
  | text x => exact .scalar (l := .text x) h h
  | array items => exact .array h h (List.forall₂_same.2 fun p _ => refl p)
  | map entries => exact .map h h (.refl refl entries)
  | module path exports => exact .identical (.inr (by rw [h]; rfl))
  | closure f => exact .identical (.inl (by rw [h]; rfl))
  | native f => exact .identical (.inl (by rw [h]; rfl))

theorem Alike.trans (trans : ∀ p q r, R p q → R q r → R p r) (h : s.Alike R a b)
    (h' : s.Alike R b c) : s.Alike R a c := by
  cases h with
  | scalar ha hb =>
    cases h' with
    | scalar hb' hc => exact .scalar ha (hc.trans (hb'.symm.trans hb))
    | array hb' => exact absurd (hb.symm.trans hb') Cell.ofLiteral_ne_array
    | map hb' => exact absurd (hb.symm.trans hb') Cell.ofLiteral_ne_map
    | identical => exact .scalar ha hb
  | array ha hb rel =>
    cases h' with
    | scalar hb' => exact absurd (hb'.symm.trans hb) Cell.ofLiteral_ne_array
    | array hb' hc rel' =>
      cases hb.symm.trans hb'
      exact .array ha hc (forall₂_trans trans rel rel')
    | map hb' => cases hb.symm.trans hb'
    | identical => exact .array ha hb rel
  | map ha hb rel =>
    cases h' with
    | scalar hb' => exact absurd (hb'.symm.trans hb) Cell.ofLiteral_ne_map
    | array hb' => cases hb.symm.trans hb'
    | map hb' hc rel' =>
      cases hb.symm.trans hb'
      exact .map ha hc (rel.trans rel' trans)
    | identical => exact .map ha hb rel
  | identical => exact h'

theorem alikeTo_refl (n : Nat) (a : Ref) : s.AlikeTo n a a := by
  induction n generalizing a with
  | zero => trivial
  | succ n ih => exact .refl ih a

theorem AlikeTo.trans {n : Nat} (h : s.AlikeTo n a b) (h' : s.AlikeTo n b c) : s.AlikeTo n a c := by
  induction n generalizing a b c with
  | zero => trivial
  | succ n ih => exact Alike.trans (fun _ _ _ => ih) h h'

/-! ## One layer of the comparison -/

theorem cellsEqual_array {items items' : Array Ref} :
    cellsEqual same (.array items) (.array items') ↔
      List.Forall₂ (fun p q => same p q) items.toList items'.toList := by
  rw [List.forall₂_iff_zip]
  simp [cellsEqual]

theorem cellsEqual_map {entries entries' : Dict Ref} :
    cellsEqual same (.map entries) (.map entries') ↔
      entries.Matches (fun p q => same p q) entries' := by
  rw [cellsEqual, Bool.and_eq_true, beq_iff_eq, List.all_eq_true]
  constructor
  · rintro ⟨size, each⟩
    refine .of_size_eq size fun e he => ?_
    have eq := each e he
    cases found : entries'.find? e.1 with rw [found] at eq
    | some q => exact ⟨q, rfl, eq⟩
    | none => cases eq
  · intro h
    refine ⟨h.size_eq, fun e he => ?_⟩
    have found := Dict.mem_entries.1 he
    obtain ⟨q, found'⟩ := Dict.exists_find? ((h.keys e.1).1 (Dict.mem_keys_of_find? found))
    rw [found']
    exact h.values e.1 e.2 q found found'

theorem cellsEqual_symm (symm : ∀ p q, same p q → same' q p) {c d : Cell}
    (h : cellsEqual same c d) : cellsEqual same' d c := by
  cases c with
  | none =>
    cases d with
    | none => rfl
    | _ => cases h
  | bool x =>
    cases d with
    | bool y => exact BEq.symm h
    | _ => cases h
  | int x =>
    cases d with
    | int y => exact BEq.symm h
    | float y => exact h
    | _ => cases h
  | float x =>
    cases d with
    | int y => exact h
    | float y => rwa [cellsEqual, closeTo_comm]
    | _ => cases h
  | text x =>
    cases d with
    | text y => exact BEq.symm (α := String) h
    | _ => cases h
  | array items =>
    cases d with
    | array items' =>
      rw [cellsEqual_array] at h ⊢
      exact h.flip.imp fun q p => symm p q
    | _ => cases h
  | map entries =>
    cases d with
    | map entries' =>
      rw [cellsEqual_map] at h ⊢
      exact ⟨h.flip.keys, fun key q p found' found => symm p q (h.values key p q found found')⟩
    | _ => cases h
  | module path exports => cases d <;> cases h
  | closure f => cases d <;> cases h
  | native f => cases d <;> cases h

/-- Without floats, comparing cells looks at the outermost layer of the structure. -/
theorem alike_of_cellsEqual (h : cellsEqual same (s.cell a) (s.cell b))
    (ha : ∀ x, s.cell a ≠ .float x) (hb : ∀ x, s.cell b ≠ .float x) :
    s.Alike (fun p q => same p q) a b := by
  cases ca : s.cell a with rw [ca] at h
  | none =>
    cases cb : s.cell b with rw [cb] at h
    | none => exact .scalar (l := .none) ca cb
    | _ => cases h
  | bool x =>
    cases cb : s.cell b with rw [cb] at h
    | bool y => exact .scalar (l := .bool x) ca (eq_of_beq h ▸ cb)
    | _ => cases h
  | int x =>
    cases cb : s.cell b with rw [cb] at h
    | int y => exact .scalar (l := .int x) ca (eq_of_beq h ▸ cb)
    | float y => exact absurd cb (hb y)
    | _ => cases h
  | float x => exact absurd ca (ha x)
  | text x =>
    cases cb : s.cell b with rw [cb] at h
    | text y => exact .scalar (l := .text x) ca (eq_of_beq (α := String) h ▸ cb)
    | _ => cases h
  | array items =>
    cases cb : s.cell b with rw [cb] at h
    | array items' => exact .array ca cb (cellsEqual_array.1 h)
    | _ => cases h
  | map entries =>
    cases cb : s.cell b with rw [cb] at h
    | map entries' => exact .map ca cb (cellsEqual_map.1 h)
    | _ => cases h
  | module path exports =>
    cases cb : s.cell b with rw [cb] at h
    | _ => cases h
  | closure f =>
    cases cb : s.cell b with rw [cb] at h
    | _ => cases h
  | native f =>
    cases cb : s.cell b with rw [cb] at h
    | _ => cases h

/-- Values of one structure are identical, or their cells compare as equal. -/
theorem Alike.same_or_cellsEqual (h : s.Alike (fun p q => same p q) a b)
    (ha : ∀ x, s.cell a ≠ .float x) : a.same b ∨ cellsEqual same (s.cell a) (s.cell b) := by
  cases h with
  | @scalar _ l h h' =>
    rw [h] at ha
    rw [h, h']
    right
    cases l with
    | none => rfl
    | bool x => exact BEq.refl x
    | int x => exact BEq.refl x
    | float x => exact absurd rfl (ha x)
    | text x => exact BEq.refl (α := String) x
  | array h h' rel =>
    rw [h, h']
    exact .inr (cellsEqual_array.2 rel)
  | map h h' rel =>
    rw [h, h']
    exact .inr (cellsEqual_map.2 rel)
  | identical => exact .inl a.same_self

/-! ## The comparison -/

theorem equalWithin_symm {room : Nat} (h : s.equalWithin room a b) : s.equalWithin room b a := by
  induction room generalizing a b with
  | zero =>
    rw [equalWithin, Bool.or_false] at h ⊢
    rwa [Ref.same_comm]
  | succ room ih =>
    rw [equalWithin, Bool.or_eq_true] at h ⊢
    rw [Ref.same_comm]
    exact h.imp_right (cellsEqual_symm fun _ _ => ih)

/-- A value of a heap whose scalars are `scalars`, from which no path leads to a float. -/
structure Exact (s : Store) (scalars : Nat → Literal) (r : Ref) : Prop where
  genuine : s.Throughout (Ref.Genuine scalars) r
  floatless : s.Throughout (fun q => ∀ x, s.cell q ≠ .float x) r

theorem Exact.member {scalars : Nat → Literal} (h : s.Exact scalars a)
    (hb : b ∈ (s.cell a).members) : s.Exact scalars b :=
  ⟨h.genuine.member hb, h.floatless.member hb⟩

/-- Values that compare as equal are alike to any depth, also beyond that of the comparison: where
it did not look further, both sides were one value. -/
theorem alikeTo_of_equalWithin {scalars : Nat → Literal} (n : Nat) {room : Nat}
    (h : s.equalWithin room a b) (ha : s.Exact scalars a) (hb : s.Exact scalars b) :
    s.AlikeTo n a b := by
  induction n generalizing room a b with
  | zero => trivial
  | succ n ih =>
    rw [equalWithin.eq_def, Bool.or_eq_true] at h
    cases h with
    | inl same =>
      rw [ha.genuine.here.eq_of_same hb.genuine.here same]
      exact alikeTo_refl (n + 1) b
    | inr h =>
      cases room with
      | zero => cases h
      | succ room =>
        refine (alike_of_cellsEqual h ha.floatless.here hb.floatless.here).imp ?_
        exact fun p hp q hq eq => ih eq (ha.member hp) (hb.member hq)

/-- Values that are alike as deep as the first is nested compare as equal. -/
theorem equalWithin_of_alikeTo {room : Nat} (h : s.AlikeTo (room + 1) a b)
    (depth : s.NestsWithin room a) (ha : s.Throughout (fun q => ∀ x, s.cell q ≠ .float x) a) :
    s.equalWithin (room + 1) a b := by
  induction room generalizing a b with
  | zero =>
    rw [equalWithin, Bool.or_eq_true]
    refine Alike.same_or_cellsEqual (Alike.imp h fun p hp => ?_) ha.here
    rw [nestsWithin_zero.1 depth] at hp
    cases hp
  | succ room ih =>
    rw [equalWithin, Bool.or_eq_true]
    refine Alike.same_or_cellsEqual (Alike.imp h fun p hp q hq rel => ?_) ha.here
    exact ih rel (nestsWithin_succ.1 depth p hp) (ha.member hp)

theorem equal_iff_alike {scalars : Nat → Literal} (ha : s.Exact scalars a)
    (hb : s.Exact scalars b) (depth : s.NestsWithin 128 a) :
    s.equal a b ↔ ∀ n, s.AlikeTo n a b :=
  ⟨fun h n => alikeTo_of_equalWithin n h ha hb,
    fun h => equalWithin_of_alikeTo (h 129) depth ha.floatless⟩

/-- Equality is symmetric. Without floats, values that are equal have the same structure at every
depth, and values nested at most 128 deep are equal exactly when they have; so among these,
equality is an equivalence. -/
theorem equal_structural (s : Store) : (∀ a b, s.equal a b = s.equal b a) ∧
    ∀ scalars : Nat → Literal,
      (∀ a b, s.Exact scalars a → s.Exact scalars b → s.equal a b → ∀ n, s.AlikeTo n a b) ∧
      (∀ a b, s.Exact scalars a → s.Exact scalars b →
        s.NestsWithin 128 a → s.NestsWithin 128 b → (s.equal a b ↔ ∀ n, s.AlikeTo n a b)) ∧
      Equivalence fun a b : { r : Ref // s.Exact scalars r ∧ s.NestsWithin 128 r } =>
        s.equal a b = true := by
  refine ⟨fun a b => Bool.eq_iff_iff.2 ⟨equalWithin_symm, equalWithin_symm⟩, fun scalars => ?_⟩
  refine ⟨fun a b ha hb h n => alikeTo_of_equalWithin n h ha hb,
    fun a b ha hb depth _ => equal_iff_alike ha hb depth, ?_, ?_, ?_⟩
  · exact fun a => (equal_iff_alike a.2.1 a.2.1 a.2.2).2 fun n => alikeTo_refl n a
  · exact equalWithin_symm
  · intro a b c hab hbc
    rw [equal_iff_alike a.2.1 c.2.1 a.2.2]
    rw [equal_iff_alike a.2.1 b.2.1 a.2.2] at hab
    rw [equal_iff_alike b.2.1 c.2.1 b.2.2] at hbc
    exact fun n => (hab n).trans (hbc n)

/-- The first two values contain the first one, and so have no end. -/
def knot : Store where
  cells := #[.array #[.cell 0], .array #[.cell 0],
    .array #[.scalar 0 (.int 1)], .array #[.scalar 1 (.int 1)]]
  scopes := #[]
  serials := 2

theorem knot_exact (i : Nat) (hi : i < 4) : knot.Exact (fun _ => .int 1) (.cell i) := by
  let I (q : Ref) : Prop := (∃ i < 4, q = .cell i) ∨ ∃ k, q = .scalar k (.int 1)
  have closed : ∀ q, I q → ∀ p ∈ (knot.cell q).members, I p := by
    rintro q (⟨i, hi, rfl⟩ | ⟨k, rfl⟩) p hp
    · interval_cases i
      · exact .inl ⟨0, by decide, List.mem_singleton.1 hp⟩
      · exact .inl ⟨0, by decide, List.mem_singleton.1 hp⟩
      · exact .inr ⟨0, List.mem_singleton.1 hp⟩
      · exact .inr ⟨1, List.mem_singleton.1 hp⟩
    · cases hp
  constructor
  · refine throughout_of_closed (I := I) (.inl ⟨i, hi, rfl⟩) ?_ closed
    rintro q (⟨i, hi, rfl⟩ | ⟨k, rfl⟩)
    · trivial
    · rfl
  · refine throughout_of_closed (I := I) (.inl ⟨i, hi, rfl⟩) ?_ closed
    rintro q (⟨i, hi, rfl⟩ | ⟨k, rfl⟩) x eq
    · interval_cases i <;> cases eq
    · cases eq

theorem knot_nestsWithin (i : Nat) (hi : i = 2 ∨ i = 3) : knot.NestsWithin 128 (.cell i) := by
  have flat : knot.NestsWithin 1 (.cell i) := by
    rw [nestsWithin_succ]
    intro q hq
    rw [nestsWithin_zero]
    rcases hi with rfl | rfl <;> rw [List.mem_singleton.1 hq] <;> rfl
  exact flat.mono (by decide)

theorem equal_structural_knot : (∀ n, knot.AlikeTo n (.cell 0) (.cell 1)) ∧
    knot.NestsWithin 128 (.cell 2) ∧ knot.equal (.cell 2) (.cell 3) = true ∧
    ∀ n, knot.AlikeTo n (.cell 2) (.cell 3) := by
  obtain ⟨sound, complete, -⟩ := (equal_structural knot).2 fun _ => .int 1
  have eq : knot.equal (.cell 2) (.cell 3) = true := by decide +kernel
  have depth := knot_nestsWithin 2 (.inl rfl)
  exact ⟨sound _ _ (knot_exact 0 (by decide)) (knot_exact 1 (by decide)) (by decide +kernel),
    depth, eq, (complete _ _ (knot_exact 2 (by decide)) (knot_exact 3 (by decide)) depth
      (knot_nestsWithin 3 (.inr rfl))).1 eq⟩

end Store

end LayerScript
