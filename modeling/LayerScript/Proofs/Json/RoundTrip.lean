import LayerScript.Proofs.Entries
import LayerScript.Proofs.Json.Layouts
import LayerScript.Proofs.Json.Strings
import Mathlib.Data.List.DropRight

/-!
# Reading documents back

The text of a document reads as that document when its floats do and its containers are nested no
deeper than the reader goes. Otherwise the reader says that it is nested too deep.
-/

namespace LayerScript.Json

/-! ## Documents that can be read back -/

mutual

/-- How many containers are nested in one another. -/
def nesting : Json → Nat
  | .array js => nestingOfItems js + 1
  | .object es => nestingOfEntries es + 1
  | _ => 0

def nestingOfItems : List Json → Nat
  | [] => 0
  | j :: js => max j.nesting (nestingOfItems js)

def nestingOfEntries : List (String × Json) → Nat
  | [] => 0
  | (_, j) :: es => max j.nesting (nestingOfEntries es)

end

theorem nestingOfItems_lt {js : List Json} {room : Nat} (h : 0 < room) :
    nestingOfItems js < room ↔ ∀ j ∈ js, j.nesting < room := by
  induction js with
  | nil => simp [nestingOfItems, h]
  | cons j js ih => simp [nestingOfItems, ih]

theorem nestingOfEntries_lt {es : List (String × Json)} {room : Nat} (h : 0 < room) :
    nestingOfEntries es < room ↔ ∀ e ∈ es, e.2.nesting < room := by
  induction es with
  | nil => simp [nestingOfEntries, h]
  | cons e es ih => simp [nestingOfEntries, ih]

mutual

/-- The floats in a document, from first to last. -/
def floats : Json → List Float
  | .float x => [x]
  | .array js => floatsOfItems js
  | .object es => floatsOfEntries es
  | _ => []

def floatsOfItems : List Json → List Float
  | [] => []
  | j :: js => j.floats ++ floatsOfItems js

def floatsOfEntries : List (String × Json) → List Float
  | [] => []
  | (_, j) :: es => j.floats ++ floatsOfEntries es

end

theorem mem_floatsOfItems {js : List Json} {x : Float} :
    x ∈ floatsOfItems js ↔ ∃ j ∈ js, x ∈ j.floats := by
  induction js with
  | nil => simp [floatsOfItems]
  | cons j js ih => simp [floatsOfItems, ih]

theorem mem_floatsOfEntries {es : List (String × Json)} {x : Float} :
    x ∈ floatsOfEntries es ↔ ∃ e ∈ es, x ∈ e.2.floats := by
  induction es with
  | nil => simp [floatsOfEntries]
  | cons e es ih => simp [floatsOfEntries, ih]

/-- The numeral of each float is read as that float, and no object has a key twice. -/
inductive Readable : Json → Prop
  | null : Readable .null
  | bool (b : Bool) : Readable (.bool b)
  | int (n : Int64) : Readable (.int n)
  | float {x : Float} (legible : Legible x) : Readable (.float x)
  | string (s : String) : Readable (.string s)
  | array {js : List Json} (items : ∀ j ∈ js, Readable j) : Readable (.array js)
  | object {es : List (String × Json)} (keys : (es.map Prod.fst).Nodup)
      (entries : ∀ e ∈ es, Readable e.2) : Readable (.object es)

/-! ## Answers of the reader -/

/-- What the reader says of a document and `room`, one more than the number of containers that it
may open. Blanks behind the document need not have been read. -/
structure Answers (answer : Except Fault (Json × Cursor)) (j : Json) (fits : Prop)
    (more : List Char) : Prop where
  reads : fits → ReadsUpTo answer j more
  refuses : ¬ fits → ∃ bytes, answer = .error ⟨.tooDeep, bytes⟩

/-- Each document that fits is read back from its text. -/
def ReadsBack (l : Layout) (j : Json) : Prop :=
  ∀ depth fuel room (cur : Cursor) more, Delimited more →
    cur.skipSpace.rest = l.chars depth j ++ more → 2 * (l.chars depth j).length ≤ fuel →
    0 < room → Answers (value fuel room cur) j (j.nesting < room) more

theorem skipSpace_skipSpace (cur : Cursor) : cur.skipSpace.skipSpace = cur.skipSpace := by
  obtain ⟨offset, rest⟩ := cur
  simp only [Cursor.skipSpace, List.dropWhile_idempotent]
  cases solid : rest.dropWhile Cursor.isSpace with
  | nil => simp
  | cons c cs =>
    have first := List.head_dropWhile_not Cursor.isSpace (l := rest) (by simp [solid])
    simp_all

theorem value_skipSpace (fuel room : Nat) (cur : Cursor) :
    value (fuel + 1) room cur.skipSpace = value (fuel + 1) room cur := by
  simp only [value, skipSpace_skipSpace]

section Answers

variable {answer : Except Fault (Json × Cursor)} {j k : Json} {p q : Prop} {more rest : List Char}

theorem Answers.of_reads (h : Reads answer j more) (hp : p) : Answers answer j p more :=
  ⟨fun _ => h.upTo, fun not => absurd hp not⟩

theorem Answers.bind {f : Json × Cursor → Except Fault (Json × Cursor)}
    (h : Answers answer j p rest)
    (hf : ∀ behind, behind.skipSpace.rest = rest.dropWhile Cursor.isSpace →
      Answers (f (j, behind)) k q more) :
    Answers (answer >>= f) k (p ∧ q) more where
  reads fits := by
    obtain ⟨behind, rfl, text⟩ := h.reads fits.1
    exact (hf behind text).reads fits.2
  refuses unfit := by
    by_cases hp : p
    · obtain ⟨behind, rfl, text⟩ := h.reads hp
      exact (hf behind text).refuses fun hq => unfit ⟨hp, hq⟩
    · obtain ⟨bytes, rfl⟩ := h.refuses hp
      exact ⟨bytes, rfl⟩

theorem Answers.congr (h : Answers answer j p more) (iff : p ↔ q) : Answers answer j q more where
  reads fits := h.reads (iff.2 fits)
  refuses unfit := h.refuses fun hp => unfit (iff.1 hp)

end Answers

/-! ## Arrays -/

section

variable {l : Layout} {depth fuel room : Nat} {cur : Cursor} {cs more : List Char}

theorem reads_moreItems_close (h : cur.skipSpace.rest = ']' :: more) (read : List Json) :
    Reads (moreItems (fuel + 1) room read cur) (.array read.reverse) more := by
  simp [moreItems, h, Cursor.past]

theorem moreItems_comma {d : Char} {ds : List Char} (h : cur.skipSpace.rest = ',' :: cs)
    (next : (cur.skipSpace.past ',' cs).skipSpace.rest = d :: ds) (item : d ≠ ']')
    (read : List Json) :
    moreItems (fuel + 1) room read cur = (do
      let (item, behind) ← value fuel room (cur.skipSpace.past ',' cs).skipSpace
      moreItems fuel room (item :: read) behind) := by
  simp [moreItems, h, next, item]

theorem answers_moreItems {js : List Json} (h : ∀ j ∈ js, ReadsBack l j) (read : List Json)
    (text : cur.skipSpace.rest = (l.items depth js ++ more).dropWhile Cursor.isSpace)
    (enough : 2 * (l.items depth js).length ≤ fuel) (positive : 0 < room) :
    Answers (moreItems fuel room read cur) (.array (read.reverse ++ js))
      (∀ j ∈ js, j.nesting < room) more := by
  induction js generalizing fuel read cur with
  | nil =>
    simp only [Layout.items, List.length_append, List.length_singleton, List.append_assoc,
      Layout.dropWhile_blanks (l.lead_blank depth)] at enough text
    obtain ⟨fuel, rfl⟩ := Nat.exists_eq_succ_of_ne_zero (show fuel ≠ 0 by omega)
    rw [List.append_nil]
    exact .of_reads (reads_moreItems_close text read) (by simp)
  | cons j js ih =>
    simp only [Layout.items, List.length_cons, List.length_append] at enough
    obtain ⟨fuel, rfl⟩ := Nat.exists_eq_succ_of_ne_zero (show fuel ≠ 0 by omega)
    obtain ⟨d, ds, head, solid, item⟩ := l.head_chars (depth + 1) j
    simp only [Layout.items, List.cons_append, List.append_assoc] at text
    have next : ((cur.skipSpace.past ',' _).skipSpace).rest =
        l.chars (depth + 1) j ++ (l.items depth js ++ more) :=
      Layout.skip_blanks (l.lead_blank (depth + 1)) ..
    rw [moreItems_comma text (next.trans (by rw [head]; rfl)) item]
    -- The comma is a character that no item has, so one unit of fuel for it is left over.
    have first := h j List.mem_cons_self (depth + 1) fuel room
      (cur.skipSpace.past ',' _).skipSpace (l.items depth js ++ more)
      (l.delimited_items depth js more) (by rw [skipSpace_skipSpace, next]) (by omega) positive
    have rest (behind : Cursor)
        (text : behind.skipSpace.rest = (l.items depth js ++ more).dropWhile Cursor.isSpace) :
        Answers (moreItems fuel room (j :: read) behind) (.array (read.reverse ++ j :: js))
          (∀ k ∈ js, k.nesting < room) more := by
      have others := ih (fun k hk => h k (List.mem_cons_of_mem j hk)) (j :: read) text
        (show 2 * (l.items depth js).length ≤ fuel by omega)
      rwa [List.reverse_cons, List.append_assoc] at others
    exact (first.bind rest).congr (by simp)

theorem answers_firstItem {j : Json} {js : List Json} (h : ∀ k ∈ j :: js, ReadsBack l k)
    (text : cur.rest = l.lead (depth + 1) ++
      (l.chars (depth + 1) j ++ (l.items depth js ++ more)))
    (enough : 2 * ((l.chars (depth + 1) j).length + (l.items depth js).length) < fuel)
    (positive : 0 < room) :
    Answers (firstItem fuel room cur) (.array (j :: js)) (∀ k ∈ j :: js, k.nesting < room)
      more := by
  obtain ⟨fuel, rfl⟩ := Nat.exists_eq_succ_of_ne_zero (show fuel ≠ 0 by omega)
  obtain ⟨d, ds, head, solid, item⟩ := l.head_chars (depth + 1) j
  have next : cur.skipSpace.rest = l.chars (depth + 1) j ++ (l.items depth js ++ more) := by
    rw [← Layout.skip_blanks (l.lead_blank (depth + 1)), ← text]
    rfl
  have begun : firstItem (fuel + 1) room cur = (do
      let (item, behind) ← value fuel room cur.skipSpace
      moreItems fuel room [item] behind) := by
    simp [firstItem, next, head, item]
  rw [begun]
  have first := h j List.mem_cons_self (depth + 1) fuel room cur.skipSpace
    (l.items depth js ++ more) (l.delimited_items depth js more)
    (by rw [skipSpace_skipSpace, next]) (by omega) positive
  have rest (behind : Cursor)
      (text : behind.skipSpace.rest = (l.items depth js ++ more).dropWhile Cursor.isSpace) :=
    answers_moreItems (fun k hk => h k (List.mem_cons_of_mem j hk)) [j] text
      (show 2 * (l.items depth js).length ≤ fuel by omega) positive
  exact (first.bind rest).congr (by simp)

/-! ## Objects -/

theorem colon_cons (o : Nat) (cs : List Char) : colon ⟨o, ':' :: cs⟩ = .ok ⟨o + 1, cs⟩ :=
  rfl

theorem key_quote (name : String) (text : cur.rest = quote name ++ ':' :: cs) :
    ∃ o, key cur = .ok (name, ⟨o, cs⟩) := by
  obtain ⟨o, rest⟩ := cur
  subst text
  obtain ⟨o', body⟩ := quotedString_quote name (o + 1) (':' :: cs)
  have begun (cs : List Char) : Cursor.past ⟨o, '\"' :: cs⟩ '\"' cs = ⟨o + 1, cs⟩ := rfl
  refine ⟨o' + 1, ?_⟩
  simp only [key, quote, List.cons_append, List.append_assoc, List.nil_append, if_true, begun,
    body, bind, Except.bind, colon_cons]
  rfl

theorem key_entry (cur : Cursor) (name : String) (j : Json)
    (text : cur.rest = l.lead (depth + 1) ++ (l.entry depth (name, j) ++ more)) :
    (∃ cs, cur.skipSpace.rest = '\"' :: cs) ∧
      ∃ behind, key cur.skipSpace = .ok (name, behind) ∧
        behind.skipSpace.rest = l.chars (depth + 1) j ++ more := by
  have next : cur.skipSpace.rest = quote name ++ ':' ::
      (l.gap ++ (l.chars (depth + 1) j ++ more)) := by
    show cur.rest.dropWhile Cursor.isSpace = _
    rw [text, Layout.dropWhile_blanks (l.lead_blank (depth + 1)), Layout.entry]
    simp [quote, Cursor.isSpace]
  obtain ⟨o, named⟩ := key_quote name next
  exact ⟨⟨_, next⟩, _, named, Layout.skip_blanks l.gap_blank ..⟩

theorem reads_moreEntries_close (h : cur.skipSpace.rest = '\x7d' :: more) (read : Dict Json) :
    Reads (moreEntries (fuel + 1) room read cur) (.object read.entries) more := by
  simp [moreEntries, h, Cursor.past]

theorem moreEntries_comma {name : String} {behind : Cursor} (h : cur.skipSpace.rest = ',' :: cs)
    (named : key (cur.skipSpace.past ',' cs).skipSpace = .ok (name, behind)) (read : Dict Json) :
    moreEntries (fuel + 1) room read cur = (do
      let (item, behind) ← value fuel room behind
      moreEntries fuel room (read.insert name item) behind) := by
  simp [moreEntries, h, named, bind, Except.bind]

theorem answers_moreEntries {es : List (String × Json)} (h : ∀ e ∈ es, ReadsBack l e.2)
    (read : Dict Json) (fresh : (read.keys ++ es.map Prod.fst).Nodup)
    (text : cur.skipSpace.rest = (l.entries depth es ++ more).dropWhile Cursor.isSpace)
    (enough : 2 * (l.entries depth es).length ≤ fuel) (positive : 0 < room) :
    Answers (moreEntries fuel room read cur) (.object (read.entries ++ es))
      (∀ e ∈ es, e.2.nesting < room) more := by
  induction es generalizing fuel read cur with
  | nil =>
    simp only [Layout.entries, List.length_append, List.length_singleton, List.append_assoc,
      Layout.dropWhile_blanks (l.lead_blank depth)] at enough text
    obtain ⟨fuel, rfl⟩ := Nat.exists_eq_succ_of_ne_zero (show fuel ≠ 0 by omega)
    rw [List.append_nil]
    exact .of_reads (reads_moreEntries_close text read) (by simp)
  | cons e es ih =>
    obtain ⟨name, j⟩ := e
    simp only [Layout.entries, Layout.entry, List.length_cons, List.length_append] at enough
    obtain ⟨fuel, rfl⟩ := Nat.exists_eq_succ_of_ne_zero (show fuel ≠ 0 by omega)
    simp only [Layout.entries, List.cons_append, List.append_assoc] at text
    obtain ⟨-, behind, named, next⟩ := key_entry (cur.skipSpace.past ',' _) name j rfl
    rw [moreEntries_comma text named]
    have first := h (name, j) List.mem_cons_self (depth + 1) fuel room behind
      (l.entries depth es ++ more) (l.delimited_entries depth es more) next
      (show 2 * (l.chars (depth + 1) j).length ≤ fuel by omega) positive
    have absent : name ∉ read.keys := fun mem =>
      (List.nodup_append.1 fresh).2.2 name mem name List.mem_cons_self rfl
    have rest (behind : Cursor)
        (text : behind.skipSpace.rest = (l.entries depth es ++ more).dropWhile Cursor.isSpace) :
        Answers (moreEntries fuel room (read.insert name j) behind)
          (.object (read.entries ++ (name, j) :: es)) (∀ e ∈ es, e.2.nesting < room) more := by
      have others := ih (fun e he => h e (List.mem_cons_of_mem _ he)) (read.insert name j)
        (by simpa [Dict.keys_insert, absent] using fresh) text
        (show 2 * (l.entries depth es).length ≤ fuel by omega)
      rwa [Dict.entries_insert_of_absent absent, List.append_assoc] at others
    exact (first.bind rest).congr (by simp)

theorem answers_firstEntry {name : String} {j : Json} {es : List (String × Json)}
    (h : ∀ e ∈ (name, j) :: es, ReadsBack l e.2)
    (fresh : (((name, j) :: es).map Prod.fst).Nodup)
    (text : cur.rest = l.lead (depth + 1) ++
      (l.entry depth (name, j) ++ (l.entries depth es ++ more)))
    (enough : 2 * ((l.entry depth (name, j)).length + (l.entries depth es).length) < fuel)
    (positive : 0 < room) :
    Answers (firstEntry fuel room cur) (.object ((name, j) :: es))
      (∀ e ∈ (name, j) :: es, e.2.nesting < room) more := by
  obtain ⟨fuel, rfl⟩ := Nat.exists_eq_succ_of_ne_zero (show fuel ≠ 0 by omega)
  obtain ⟨⟨cs, mark⟩, behind, named, next⟩ := key_entry cur name j text
  simp only [Layout.entry, List.length_append, List.length_cons] at enough
  have begun : firstEntry (fuel + 1) room cur = (do
      let (item, behind) ← value fuel room behind
      moreEntries fuel room (Dict.empty.insert name item) behind) := by
    simp [firstEntry, mark, named, bind, Except.bind]
  rw [begun]
  have first := h (name, j) List.mem_cons_self (depth + 1) fuel room behind
    (l.entries depth es ++ more) (l.delimited_entries depth es more) next
    (show 2 * (l.chars (depth + 1) j).length ≤ fuel by omega) positive
  have rest (behind : Cursor)
      (text : behind.skipSpace.rest = (l.entries depth es ++ more).dropWhile Cursor.isSpace) :
      Answers (moreEntries fuel room (Dict.empty.insert name j) behind)
        (.object ((name, j) :: es)) (∀ e ∈ es, e.2.nesting < room) more := by
    have absent : name ∉ (Dict.empty : Dict Json).keys := List.not_mem_nil
    have others := answers_moreEntries (fun e he => h e (List.mem_cons_of_mem _ he))
      (Dict.empty.insert name j) (by rwa [Dict.keys_insert, if_neg absent]) text
      (show 2 * (l.entries depth es).length ≤ fuel by omega) positive
    rwa [Dict.entries_insert_of_absent absent] at others
  exact (first.bind rest).congr (by simp)

end

/-! ## Documents -/

theorem readsBack_of_flat {l : Layout} {j : Json} (flat : j.nesting = 0)
    (h : ∀ depth fuel room o more, Delimited more →
      ReadsUpTo (value (fuel + 1) room ⟨o, l.chars depth j ++ more⟩) j more) : ReadsBack l j := by
  intro depth fuel room cur more delimited text enough positive
  obtain ⟨c, cs, head, -⟩ := l.head_chars depth j
  rw [head, List.length_cons] at enough
  obtain ⟨fuel, rfl⟩ := Nat.exists_eq_succ_of_ne_zero (show fuel ≠ 0 by omega)
  have reads := h depth fuel room cur.skipSpace.offset more delimited
  rw [← text, value_skipSpace] at reads
  exact ⟨fun _ => reads, fun unfit => absurd (flat.symm ▸ positive) unfit⟩

/-- What stands in a container that is opened has one level less. -/
theorem Answers.opened {answer : Except Fault (Json × Cursor)} {j : Json} {room inner : Nat}
    {cur : Cursor} {more : List Char}
    (h : 1 < room → Answers answer j (inner < room - 1) more) :
    Answers (if room ≤ 1 then .error (cur.ahead .tooDeep) else answer) j (inner + 1 < room)
      more where
  reads fits := by
    rw [if_neg (by omega)]
    exact (h (by omega)).reads (by omega)
  refuses unfit := by
    split
    · exact ⟨_, rfl⟩
    · exact (h (by omega)).refuses (by omega)

theorem value_bracket {cur : Cursor} {cs : List Char} (h : cur.skipSpace.rest = '[' :: cs)
    (fuel room : Nat) : value (fuel + 1) room cur =
      if room ≤ 1 then .error (cur.skipSpace.ahead .tooDeep)
      else firstItem fuel (room - 1) (cur.skipSpace.past '[' cs) := by
  simp [value, h]

theorem value_brace {cur : Cursor} {cs : List Char} (h : cur.skipSpace.rest = '\x7b' :: cs)
    (fuel room : Nat) : value (fuel + 1) room cur =
      if room ≤ 1 then .error (cur.skipSpace.ahead .tooDeep)
      else firstEntry fuel (room - 1) (cur.skipSpace.past '\x7b' cs) := by
  simp [value, h]

theorem readsBack_string (l : Layout) (s : String) : ReadsBack l (.string s) := by
  refine readsBack_of_flat rfl fun depth fuel room o more _ => Reads.upTo ?_
  obtain ⟨o', body⟩ := quotedString_quote s (o + 1) more
  have width : '\"'.utf8Size = 1 := rfl
  rw [Layout.chars]
  simp [quote, value, Cursor.skipSpace, Cursor.isSpace, Cursor.past, width, body, Except.map]

theorem readsBack_array {l : Layout} {js : List Json} (h : ∀ j ∈ js, ReadsBack l j) :
    ReadsBack l (.array js) := by
  intro depth fuel room cur more delimited text enough positive
  cases js with
  | nil =>
    rw [Layout.chars] at text enough
    obtain ⟨fuel, rfl⟩ := Nat.exists_eq_add_of_le' (show 2 ≤ fuel by simp at enough; omega)
    rw [value_bracket text]
    refine .opened fun _ => .of_reads ?_ (by simp [nestingOfItems]; omega)
    simp [firstItem, Cursor.past, Cursor.skipSpace, Cursor.isSpace]
  | cons j js =>
    simp only [Layout.chars, List.cons_append, List.append_assoc, List.length_cons,
      List.length_append] at text enough
    obtain ⟨fuel, rfl⟩ := Nat.exists_eq_succ_of_ne_zero (show fuel ≠ 0 by omega)
    rw [value_bracket text]
    refine .opened fun room' => ?_
    exact (answers_firstItem h rfl (by omega) (by omega)).congr
      (nestingOfItems_lt (by omega)).symm

theorem readsBack_object {l : Layout} {es : List (String × Json)}
    (keys : (es.map Prod.fst).Nodup) (h : ∀ e ∈ es, ReadsBack l e.2) :
    ReadsBack l (.object es) := by
  intro depth fuel room cur more delimited text enough positive
  cases es with
  | nil =>
    rw [Layout.chars] at text enough
    obtain ⟨fuel, rfl⟩ := Nat.exists_eq_add_of_le' (show 2 ≤ fuel by simp at enough; omega)
    rw [value_brace text]
    refine .opened fun _ => .of_reads ?_ (by simp [nestingOfEntries]; omega)
    simp [firstEntry, Cursor.past, Cursor.skipSpace, Cursor.isSpace]
  | cons e es =>
    obtain ⟨name, j⟩ := e
    simp only [Layout.chars, List.cons_append, List.append_assoc, List.length_cons,
      List.length_append] at text enough
    obtain ⟨fuel, rfl⟩ := Nat.exists_eq_succ_of_ne_zero (show fuel ≠ 0 by omega)
    rw [value_brace text]
    refine .opened fun room' => ?_
    exact (answers_firstEntry h keys rfl (by omega) (by omega)).congr
      (nestingOfEntries_lt (by omega)).symm

theorem readsBack (l : Layout) {j : Json} (readable : j.Readable) : ReadsBack l j := by
  -- On the rules of `Readable`: a container is read back when all that stands in it is.
  induction readable with
  | null =>
    refine readsBack_of_flat rfl fun depth fuel room o more _ => Reads.upTo ?_
    simp [Layout.chars, value, word, Cursor.skipSpace, Cursor.isSpace, Cursor.past]
  | bool b =>
    refine readsBack_of_flat rfl fun depth fuel room o more _ => Reads.upTo ?_
    cases b <;> simp [Layout.chars, value, word, Cursor.skipSpace, Cursor.isSpace, Cursor.past]
  | int n =>
    refine readsBack_of_flat rfl fun depth fuel room o more delimited => Reads.upTo ?_
    rw [Layout.chars]
    exact reads_integer delimited n
  | float legible =>
    refine readsBack_of_flat rfl fun depth fuel room o more delimited => ?_
    rw [Layout.chars]
    exact reads_float legible delimited fuel room o
  | string s => exact readsBack_string l s
  | array items ih => exact readsBack_array ih
  | object keys entries ih => exact readsBack_object keys ih

/-- A document is read back from its text when at most 127 containers are nested in it. -/
theorem read_chars (l : Layout) {j : Json} (readable : j.Readable) :
    (j.nesting < 128 → read (String.ofList (l.chars 0 j)) = .ok j) ∧
      (128 ≤ j.nesting → ∃ line column,
        read (String.ofList (l.chars 0 j)) = .error ⟨.tooDeep, line, column⟩) := by
  have begun : Cursor.skipSpace ⟨0, l.chars 0 j⟩ = ⟨0, l.chars 0 j ++ []⟩ := by
    obtain ⟨c, cs, head, solid, -⟩ := l.head_chars 0 j
    simp [Cursor.skipSpace, head, solid]
  have answers := readsBack l readable 0 (2 * (l.chars 0 j).length + 2) 128 ⟨0, l.chars 0 j⟩ []
    delimited_nil (by rw [begun]) (by omega) (by omega)
  unfold read document
  rw [String.toList_ofList]
  constructor
  · intro fits
    obtain ⟨behind, answer, text⟩ := answers.reads fits
    simp [answer, bind, Except.bind, text, pure, Except.pure]
  · intro deep
    obtain ⟨bytes, answer⟩ := answers.refuses (by omega)
    simp [answer, bind, Except.bind]

theorem read_pretty {j : Json} (readable : j.Readable) :
    (j.nesting < 128 → read j.pretty = .ok j) ∧
      (128 ≤ j.nesting → ∃ line column, read j.pretty = .error ⟨.tooDeep, line, column⟩) := by
  have reads := read_chars .pretty readable
  rwa [Layout.chars_pretty] at reads

theorem read_compact {j : Json} (readable : j.Readable) :
    (j.nesting < 128 → read j.compact = .ok j) ∧
      (128 ≤ j.nesting → ∃ line column, read j.compact = .error ⟨.tooDeep, line, column⟩) := by
  have reads := read_chars .compact readable
  rwa [Layout.chars_compact] at reads

end LayerScript.Json
