import LayerScript.Proofs.Indexing
import LayerScript.Text.Search

/-!
# Splitting, joining, replacing and finding

A text is cut at the first occurrence of the separator, and what is behind it is cut again. The
pieces, joined by the separator, make up the text; joined by another text, they are the text with
the separator replaced. The first occurrence ends before any other does, so no piece contains the
separator, and there is only one piece when the text does not contain it.
-/

namespace LayerScript

namespace Text

variable {c : Char} {pattern separator new cs piece rest : List Char}

/-! ## Occurrences -/

theorem cutAt?_eq_none_iff : cutAt? pattern cs = none ↔ ¬ pattern <:+: cs := by
  induction cs with
  | nil => simp [cutAt?]
  | cons c cs ih =>
    rw [cutAt?, List.infix_cons_iff, ← List.isPrefixOf_iff_prefix]
    by_cases h : pattern.isPrefixOf (c :: cs) <;> simp [h, ih]

theorem contains_iff : contains pattern cs ↔ pattern <:+: cs := by
  rw [contains, cut?_eq, Option.isSome_iff_ne_none, ne_eq, cutAt?_eq_none_iff, not_not]

/-- Before the first occurrence there is none. One that begins before it would have been found, also
if it goes on into the first occurrence. -/
theorem not_infix_of_cutAt? (h : cutAt? (c :: pattern) cs = some (piece, rest)) :
    ¬ c :: pattern <:+: piece := by
  induction cs generalizing piece with
  | nil => simp [cutAt?] at h
  | cons d cs ih =>
    have whole := append_of_cutAt? h
    rw [cutAt?] at h
    split at h
    · obtain rfl : [] = piece := congrArg Prod.fst (Option.some.inj h)
      simp
    · next later =>
      obtain ⟨⟨before, behind⟩, found, eq⟩ := Option.map_eq_some_iff.1 h
      obtain ⟨rfl, rfl⟩ := Prod.mk.inj eq
      rw [List.infix_cons_iff, not_or]
      refine ⟨fun here => later ?_, ih found⟩
      rw [List.isPrefixOf_iff_prefix, ← whole]
      exact here.trans (List.prefix_append _ _)

/-! ## Pieces -/

theorem splitAt_of_none (h : cutAt? (c :: separator) cs = none) :
    splitAt c separator cs = [cs] := by
  rw [← cut?_eq] at h
  rw [splitAt.eq_def, h]

theorem splitAt_of_some (h : cutAt? (c :: separator) cs = some (piece, rest)) :
    splitAt c separator cs = piece :: splitAt c separator rest := by
  rw [← cut?_eq] at h
  rw [splitAt.eq_def, h]

theorem substitute_of_none (h : cutAt? (c :: pattern) cs = none) :
    substitute c pattern new cs = cs := by
  rw [← cut?_eq] at h
  rw [substitute.eq_def, h]

theorem substitute_of_some (h : cutAt? (c :: pattern) cs = some (piece, rest)) :
    substitute c pattern new cs = piece ++ (new ++ substitute c pattern new rest) := by
  rw [← cut?_eq] at h
  rw [substitute.eq_def, h]

/-- What can be shown of a text from what comes behind the first occurrence can be shown of all. -/
theorem cutting {P : List Char → Prop} (c : Char) (pattern : List Char)
    (whole : ∀ cs, cutAt? (c :: pattern) cs = none → P cs)
    (cut : ∀ cs piece rest, cutAt? (c :: pattern) cs = some (piece, rest) → P rest → P cs)
    (cs : List Char) : P cs := by
  induction n : cs.length using Nat.strongRecOn generalizing cs with
  | ind n ih =>
    subst n
    cases h : cutAt? (c :: pattern) cs with
    | none => exact whole cs h
    | some parts => exact cut cs _ _ h (ih _ (length_cutAt? h) _ rfl)

theorem splitAt_ne_nil (c : Char) (separator cs : List Char) : splitAt c separator cs ≠ [] := by
  cases h : cutAt? (c :: separator) cs with
  | none => simp [splitAt_of_none h]
  | some parts => simp [splitAt_of_some h]

theorem join_cons {pieces : List (List Char)} (some : pieces ≠ []) :
    join separator (piece :: pieces) = piece ++ (separator ++ join separator pieces) := by
  cases pieces with
  | nil => exact absurd rfl some
  | cons => simp [join]

theorem join_splitAt (c : Char) (separator cs : List Char) :
    join (c :: separator) (splitAt c separator cs) = cs := by
  induction cs using cutting c separator with
  | whole cs h => simp [splitAt_of_none h, join]
  | cut cs piece rest h ih =>
    rw [splitAt_of_some h, join_cons (splitAt_ne_nil c _ rest), ih, append_of_cutAt? h]

theorem not_infix_of_mem_splitAt (h : piece ∈ splitAt c separator cs) :
    ¬ c :: separator <:+: piece := by
  induction cs using cutting c separator with
  | whole cs none =>
    rw [splitAt_of_none none, List.mem_singleton] at h
    rw [h]
    exact cutAt?_eq_none_iff.1 none
  | cut cs first rest found ih =>
    rw [splitAt_of_some found, List.mem_cons] at h
    rcases h with rfl | h
    · exact not_infix_of_cutAt? found
    · exact ih h

theorem one_lt_length_splitAt :
    1 < (splitAt c separator cs).length ↔ c :: separator <:+: cs := by
  cases h : cutAt? (c :: separator) cs with
  | none => simp [splitAt_of_none h, cutAt?_eq_none_iff.1 h]
  | some parts =>
    obtain ⟨piece, rest⟩ := parts
    have found : c :: separator <:+: cs := by
      by_contra none
      rw [cutAt?_eq_none_iff.2 none] at h
      cases h
    have more := List.length_pos_of_ne_nil (splitAt_ne_nil c separator rest)
    simpa [splitAt_of_some h, found] using more

theorem replace_eq_join (c : Char) (pattern new cs : List Char) :
    replace (c :: pattern) new cs = join new (splitAt c pattern cs) := by
  change substitute c pattern new cs = _
  induction cs using cutting c pattern with
  | whole cs h => simp [substitute_of_none h, splitAt_of_none h, join]
  | cut cs piece rest h ih =>
    rw [substitute_of_some h, splitAt_of_some h, join_cons (splitAt_ne_nil c _ rest), ih]

end Text

/-! ## Texts of a store -/

namespace Store

variable {s : Store} {r : Ref}

theorem cell_allocAll_of_eq {d : Cell} (found : s.cell r = d) (made : d ≠ .none)
    (cells : List Cell) : (s.allocAll cells).2.cell r = d := by
  induction cells generalizing s with
  | nil => exact found
  | cons c cells ih => exact ih (cell_alloc_of_eq found made c)

theorem display_of_text {t : String} (text : s.cell r = .text t) : s.display r = t := by
  simp [display, displayWithin, text]

/-- An array whose elements are these texts. -/
def Lists (s : Store) (r : Ref) (texts : List (List Char)) : Prop :=
  ∃ items, s.cell r = .array items ∧
    List.Forall₂ (fun t q => s.cell q = .text (String.ofList t)) texts items.toList

theorem lists_newTexts (s : Store) (texts : List (List Char)) :
    (Plain.newTexts texts s).2.Lists (Plain.newTexts texts s).1 texts := by
  obtain ⟨-, items, array, made⟩ := newArray_made s (texts.map fun t => .text (String.ofList t))
  rw [List.forall₂_map_left_iff] at made
  exact ⟨items, array.cell, made.imp fun t q h => h.cell⟩

theorem cell_newTexts {d : Cell} (found : s.cell r = d) (made : d ≠ .none)
    (texts : List (List Char)) : (Plain.newTexts texts s).2.cell r = d :=
  cell_alloc_of_eq (cell_allocAll_of_eq found made _) made _

theorem display_of_lists {texts : List (List Char)} {items : List Ref}
    (each : List.Forall₂ (fun t q => s.cell q = .text (String.ofList t)) texts items) :
    items.map (fun q => (s.display q).toList) = texts := by
  induction each with
  | nil => rfl
  | cons text _ ih => rw [List.map_cons, ih, display_of_text text, String.toList_ofList]

end Store

/-! ## Native functions on texts -/

namespace Run

variable {σ : Type} {out : Sink σ} {m : Machine σ} {a b c : Ref} {t u v : String}

theorem contains_answers (text : m.store.cell a = .text t) (pattern : m.store.cell b = .text u) :
    Gives out m .contains [a, b] (alloc (.bool (decide (u.toList <:+: t.toList))) m) := by
  have answer : Text.contains u.toList t.toList = decide (u.toList <:+: t.toList) :=
    Bool.eq_iff_iff.2 (by rw [Text.contains_iff, decide_eq_true_iff])
  refine gives_of_ok (Plain.newBool (decide (u.toList <:+: t.toList))) ?_
  simp [Plain.run, Plain.testTexts, Store.textOf, text, pattern, answer, bind, Except.bind, pure,
    Except.pure]

theorem split_cuts {d : Char} {ds : List Char} (text : m.store.cell a = .text t)
    (separator : m.store.cell b = .text u) (some : u.toList = d :: ds) :
    let pieces := Plain.newTexts (Text.splitAt d ds t.toList) m.store
    Gives out m .split [a, b] (.done pieces.1 { m with store := pieces.2 }) := by
  refine gives_of_ok (Plain.newTexts (Text.splitAt d ds t.toList)) ?_
  simp [Plain.run, Plain.runSplit, Store.textOf, text, separator, some, bind, Except.bind, pure,
    Except.pure]

theorem join_glues {texts : List (List Char)} (pieces : m.store.Lists a texts)
    (separator : m.store.cell b = .text u) :
    Gives out m .join [a, b]
      (alloc (.text (String.ofList (Text.join u.toList texts))) m) := by
  obtain ⟨items, array, each⟩ := pieces
  refine gives_of_ok (Plain.newText (Text.join u.toList texts)) ?_
  simp [Plain.run, Plain.runJoin, Store.itemsOf, Store.textOf, array, separator,
    Store.display_of_lists each, bind, Except.bind, pure, Except.pure]

theorem replace_rewrites (text : m.store.cell a = .text t) (pattern : m.store.cell b = .text u)
    (new : m.store.cell c = .text v) :
    Gives out m .replace [a, b, c]
      (alloc (.text (String.ofList (Text.replace u.toList v.toList t.toList))) m) := by
  refine gives_of_ok (Plain.newText (Text.replace u.toList v.toList t.toList)) ?_
  simp [Plain.run, Plain.runReplace, Store.textOf, text, pattern, new, bind, Except.bind, pure,
    Except.pure]

/-- Splitting a text agrees with joining, finding and replacing. -/
theorem pieces_agree (out : Sink σ) (m : Machine σ) (text : m.store.cell a = .text t)
    (separator : m.store.cell b = .text u) (some : u ≠ "") : ∃ pieces m' items,
      Gives out m .split [a, b] (.done pieces m') ∧
      m'.store.cell pieces = .array items ∧
      Gives out m' .join [pieces, b] (alloc (.text t) m') ∧
      (∀ q ∈ items, ∃ piece, m'.store.cell q = .text piece ∧
        ¬ u.toList <:+: piece.toList ∧ Gives out m' .contains [q, b] (alloc (.bool false) m')) ∧
      (1 < items.size ↔ u.toList <:+: t.toList) ∧
      Gives out m .contains [a, b] (alloc (.bool (decide (1 < items.size))) m) ∧
      ∀ c v, m.store.cell c = .text v → ∃ result,
        Gives out m .replace [a, b, c] (alloc (.text result) m) ∧
        Gives out m' .join [pieces, c] (alloc (.text result) m') := by
  obtain ⟨d, ds, split⟩ : ∃ d ds, u.toList = d :: ds :=
    List.exists_cons_of_ne_nil (by simpa using some)
  let pieces := Plain.newTexts (Text.splitAt d ds t.toList) m.store
  have listed : pieces.2.Lists pieces.1 (Text.splitAt d ds t.toList) :=
    Store.lists_newTexts m.store _
  obtain ⟨items, array, each⟩ := id listed
  have stays {q : Ref} {w : String} (h : m.store.cell q = .text w) : pieces.2.cell q = .text w :=
    Store.cell_newTexts h nofun _
  have many : 1 < items.size ↔ u.toList <:+: t.toList := by
    rw [← Array.length_toList, ← each.length_eq, split, Text.one_lt_length_splitAt]
  refine ⟨pieces.1, { m with store := pieces.2 }, items, split_cuts text separator split, array,
    ?joined, ?apart, many, ?found, ?replaced⟩
  case joined =>
    have joined : Gives out { m with store := pieces.2 } .join _ _ :=
      join_glues listed (stays separator)
    rwa [split, Text.join_splitAt, String.ofList_toList] at joined
  case apart =>
    intro q hq
    obtain ⟨piece, mem, isText⟩ := exists_of_forall₂ each.flip (Array.mem_toList_iff.2 hq)
    have none : ¬ u.toList <:+: (String.ofList piece).toList := by
      rw [split, String.toList_ofList]
      exact Text.not_infix_of_mem_splitAt mem
    have answer : Gives out { m with store := pieces.2 } .contains _ _ :=
      contains_answers isText (stays separator)
    rw [decide_eq_false none] at answer
    exact ⟨_, isText, none, answer⟩
  case found =>
    rw [decide_eq_decide.2 many]
    exact contains_answers text separator
  case replaced =>
    intro c v new
    have rewritten : Gives out m .replace _ _ := replace_rewrites text separator new
    rw [split, Text.replace_eq_join] at rewritten
    exact ⟨_, rewritten, join_glues listed (stays new)⟩

/-- The functions that split and search texts. -/
def scissors : Machine Unit where
  store := ⟨#[.native (.plain .split), .native (.plain .contains)], #[], 2⟩
  scope := ⟨0⟩
  globals := ⟨0⟩
  receiver := .cell 0
  strict := false
  depth := 0
  callSite := none
  sink := ()

/-- The separator overlaps itself in the text. -/
theorem pieces_agree_overlapping :
    let out : Sink Unit := ⟨fun _ _ _ k => some (.ok (), k)⟩
    let a := Ref.scalar 0 (.text "ñaaaa")
    let b := Ref.scalar 1 (.text "aaa")
    ∃ pieces m' items, call out 1 (.cell 0) none [a, b] scissors = .done pieces m' ∧
      m'.store.cell pieces = .array items ∧ 1 < items.size ∧
      Gives out m' .join [pieces, b] (alloc (.text "ñaaaa") m') ∧
      call out 1 (.cell 1) none [a, b] scissors = alloc (.bool true) scissors := by
  intro out a b
  obtain ⟨pieces, m', items, split, array, joined, -, many, found, -⟩ :=
    pieces_agree (a := a) (b := b) out scissors rfl rfl (by decide)
  have occurs : 1 < items.size := many.2 (by decide)
  rw [decide_eq_true occurs] at found
  exact ⟨pieces, m', items, split 0 _ none rfl, array, occurs, joined, found 0 _ none rfl⟩

end Run

end LayerScript
