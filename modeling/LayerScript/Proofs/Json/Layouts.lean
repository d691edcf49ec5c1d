import LayerScript.Proofs.Json.Numerals

/-!
# Layouts of documents

The compact and the indented text of a document differ in the blanks before its items and behind
its colons.
-/

namespace LayerScript.Json

/-- The blanks before what stands some containers deep, and those behind a colon. -/
structure Layout where
  lead : Nat → List Char
  gap : List Char
  lead_blank : ∀ depth, ∀ c ∈ lead depth, Cursor.isSpace c = true
  gap_blank : ∀ c ∈ gap, Cursor.isSpace c = true

namespace Layout

def compact : Layout where
  lead _ := []
  gap := []
  lead_blank := by simp
  gap_blank := by simp

def pretty : Layout where
  lead := newline
  gap := [' ']
  lead_blank depth c hc := by
    simp only [newline, List.mem_cons, List.mem_replicate] at hc
    rcases hc with rfl | ⟨-, rfl⟩ <;> rfl
  gap_blank := by simp [Cursor.isSpace]

mutual

def chars (l : Layout) (depth : Nat) : Json → List Char
  | .null => ['n', 'u', 'l', 'l']
  | .bool true => ['t', 'r', 'u', 'e']
  | .bool false => ['f', 'a', 'l', 's', 'e']
  | .int n => Decimal.integer n.toInt
  | .float x => floatNumeral x
  | .string s => quote s
  | .array [] => ['[', ']']
  | .array (j :: js) =>
    '[' :: (l.lead (depth + 1) ++ l.chars (depth + 1) j ++ l.items depth js)
  | .object [] => ['\x7b', '\x7d']
  | .object (e :: es) =>
    '\x7b' :: (l.lead (depth + 1) ++ l.entry depth e ++ l.entries depth es)

def items (l : Layout) (depth : Nat) : List Json → List Char
  | [] => l.lead depth ++ [']']
  | j :: js => ',' :: (l.lead (depth + 1) ++ l.chars (depth + 1) j ++ l.items depth js)

def entry (l : Layout) (depth : Nat) : String × Json → List Char
  | (key, j) => quote key ++ ':' :: (l.gap ++ l.chars (depth + 1) j)

def entries (l : Layout) (depth : Nat) : List (String × Json) → List Char
  | [] => l.lead depth ++ ['\x7d']
  | e :: es => ',' :: (l.lead (depth + 1) ++ l.entry depth e ++ l.entries depth es)

end

@[simp] theorem lead_compact (depth : Nat) : compact.lead depth = [] := rfl

@[simp] theorem gap_compact : compact.gap = [] := rfl

@[simp] theorem lead_pretty (depth : Nat) : pretty.lead depth = newline depth := rfl

@[simp] theorem gap_pretty : pretty.gap = [' '] := rfl

mutual

theorem chars_compact (depth : Nat) (j : Json) : compact.chars depth j = compactChars j := by
  match j with
  | .null | .bool true | .bool false | .int _ | .float _ | .string _ | .array [] | .object [] =>
    simp only [chars, compactChars]
  | .array (j :: js) =>
    simp [chars, compactChars, chars_compact (depth + 1) j, items_compact depth js]
  | .object ((key, j) :: es) =>
    simp [chars, compactChars, entry, compactEntry, chars_compact (depth + 1) j,
      entries_compact depth es]

theorem items_compact (depth : Nat) (js : List Json) :
    compact.items depth js = compactItems js := by
  match js with
  | [] => simp [items, compactItems]
  | j :: js =>
    simp [items, compactItems, chars_compact (depth + 1) j, items_compact depth js]

theorem entries_compact (depth : Nat) (es : List (String × Json)) :
    compact.entries depth es = compactEntries es := by
  match es with
  | [] => simp [entries, compactEntries]
  | (key, j) :: es =>
    simp [entries, compactEntries, entry, compactEntry, chars_compact (depth + 1) j,
      entries_compact depth es]

end

mutual

theorem chars_pretty (depth : Nat) (j : Json) : pretty.chars depth j = prettyChars depth j := by
  match j with
  | .null | .bool true | .bool false | .int _ | .float _ | .string _ | .array [] | .object [] =>
    simp only [chars, prettyChars]
  | .array (j :: js) =>
    simp [chars, prettyChars, chars_pretty (depth + 1) j, items_pretty depth js]
  | .object ((key, j) :: es) =>
    simp [chars, prettyChars, entry, prettyEntry, chars_pretty (depth + 1) j,
      entries_pretty depth es]

theorem items_pretty (depth : Nat) (js : List Json) :
    pretty.items depth js = prettyItems depth js := by
  match js with
  | [] => simp [items, prettyItems]
  | j :: js =>
    simp [items, prettyItems, chars_pretty (depth + 1) j, items_pretty depth js]

theorem entries_pretty (depth : Nat) (es : List (String × Json)) :
    pretty.entries depth es = prettyEntries depth es := by
  match es with
  | [] => simp [entries, prettyEntries]
  | (key, j) :: es =>
    simp [entries, prettyEntries, entry, prettyEntry, chars_pretty (depth + 1) j,
      entries_pretty depth es]

end

/-! ## Beginnings -/

theorem dropWhile_blanks {blanks : List Char} (h : ∀ c ∈ blanks, Cursor.isSpace c = true)
    (cs : List Char) :
    (blanks ++ cs).dropWhile Cursor.isSpace = cs.dropWhile Cursor.isSpace :=
  List.dropWhile_append_of_pos h

/-- The text of a document begins with neither a blank nor a closing bracket. -/
theorem head_chars (l : Layout) (depth : Nat) (j : Json) :
    ∃ c cs, l.chars depth j = c :: cs ∧ Cursor.isSpace c = false ∧ c ≠ ']' := by
  have digital {cs : List Char} (h : Digital cs) :
      ∃ c tail, cs = c :: tail ∧ Cursor.isSpace c = false ∧ c ≠ ']' := by
    obtain ⟨c, first, digit⟩ := h
    obtain ⟨tail, rfl⟩ := List.head?_eq_some_iff.1 first
    exact ⟨c, tail, rfl, isSpace_of_isDigit digit, ne_of_isDigit digit rfl⟩
  cases j with
  | null => exact ⟨'n', _, chars.eq_1 .., rfl, by decide⟩
  | bool b => cases b <;> exact ⟨_, _, by rw [chars], rfl, by decide⟩
  | int n =>
    rw [chars]
    unfold Decimal.integer
    split
    · exact ⟨'-', _, rfl, rfl, by decide⟩
    · exact digital (digital_natural _)
  | float x =>
    rw [chars]
    rcases floatNumeral_cases x with null | digits | ⟨cs, minus⟩
    · exact ⟨'n', _, null, rfl, by decide⟩
    · exact digital digits
    · exact ⟨'-', cs, minus, rfl, by decide⟩
  | string s => exact ⟨'\"', _, by rw [chars]; rfl, rfl, by decide⟩
  | array js => cases js <;> exact ⟨'[', _, by rw [chars], rfl, by decide⟩
  | object es => cases es <;> exact ⟨'\x7b', _, by rw [chars], rfl, by decide⟩

/-- What is left behind the blanks before a document. -/
theorem skip_blanks {blanks : List Char} (h : ∀ c ∈ blanks, Cursor.isSpace c = true) (l : Layout)
    (depth : Nat) (j : Json) (more : List Char) :
    (blanks ++ (l.chars depth j ++ more)).dropWhile Cursor.isSpace = l.chars depth j ++ more := by
  obtain ⟨c, cs, head, solid, -⟩ := l.head_chars depth j
  rw [dropWhile_blanks h, head, List.cons_append, List.dropWhile_cons, solid]
  rfl

theorem delimited_of_blank {c : Char} {cs : List Char} (h : Cursor.isSpace c = true) :
    Delimited (c :: cs) := by
  simp only [Cursor.isSpace, Bool.or_eq_true, decide_eq_true_eq] at h
  rcases h with ((rfl | rfl) | rfl) | rfl <;>
    exact delimited_cons rfl (by decide) (by decide) (by decide)

theorem delimited_blanks {blanks cs : List Char} (h : ∀ c ∈ blanks, Cursor.isSpace c = true)
    (delimited : Delimited cs) : Delimited (blanks ++ cs) := by
  cases blanks with
  | nil => exact delimited
  | cons c blanks => exact delimited_of_blank (h c List.mem_cons_self)

theorem delimited_items (l : Layout) (depth : Nat) (js : List Json) (more : List Char) :
    Delimited (l.items depth js ++ more) := by
  cases js with
  | nil =>
    rw [items, List.append_assoc]
    exact delimited_blanks (l.lead_blank depth)
      (delimited_cons rfl (by decide) (by decide) (by decide))
  | cons j js =>
    rw [items]
    exact delimited_cons rfl (by decide) (by decide) (by decide)

theorem delimited_entries (l : Layout) (depth : Nat) (es : List (String × Json))
    (more : List Char) : Delimited (l.entries depth es ++ more) := by
  cases es with
  | nil =>
    rw [entries, List.append_assoc]
    exact delimited_blanks (l.lead_blank depth)
      (delimited_cons rfl (by decide) (by decide) (by decide))
  | cons e es =>
    rw [entries]
    exact delimited_cons rfl (by decide) (by decide) (by decide)

end Layout

end LayerScript.Json
