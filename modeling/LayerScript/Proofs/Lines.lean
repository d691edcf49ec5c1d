import LayerScript.Decimal.Numeral
import LayerScript.Proofs.Tokens.Munching
import Mathlib.Data.List.DropRight

/-!
# Lines and columns

A position is counted out character by character. At a boundary between two characters it says how
many lines have ended before and how long the last one is by then, so it goes up from boundary to
boundary, and no two boundaries have the same one. Behind whole lines a text has the positions that
it has alone, as many lines further down.
-/

namespace LayerScript

/-- An offset between two characters of a source, or at one of its ends. -/
def Text.Boundary (source : String) (offset : Nat) : Prop :=
  ∃ before after, source.toList = before ++ after ∧ byteLength before = offset

namespace Position

/-- The order of reading. -/
def Precedes (p q : Position) : Prop :=
  p.line < q.line ∨ p.line = q.line ∧ p.column < q.column

theorem Precedes.trans {p q r : Position} (h : p.Precedes q) (h' : q.Precedes r) :
    p.Precedes r := by
  unfold Precedes at *
  omega

theorem Precedes.ne {p q : Position} (h : p.Precedes q) : p ≠ q := by
  rintro rfl
  unfold Precedes at h
  omega

/-- The same place in a text that stands `lines` lines further down. -/
def down (p : Position) (lines : Nat) : Position :=
  ⟨p.line + lines, p.column⟩

/-! ## One character -/

theorem precedes_after (p : Position) (c : Char) : p.Precedes (p.after c) := by
  unfold Precedes after
  split <;> simp

theorem after_down (p : Position) (lines : Nat) (c : Char) :
    (p.down lines).after c = (p.after c).down lines := by
  unfold after down
  split
  · simp only [Nat.add_right_comm]
  · rfl

/-! ## Many characters -/

/-- The position behind a text. -/
def behind (cs : List Char) : Position :=
  cs.foldl after first

theorem behind_append (cs ds : List Char) : behind (cs ++ ds) = ds.foldl after (behind cs) :=
  List.foldl_append

/-- One line for each line break, and in the last line one column for each character. -/
theorem behind_eq (cs : List Char) :
    behind cs = ⟨1 + cs.count '\n', 1 + (cs.rtakeWhile (· ≠ '\n')).length⟩ := by
  induction cs using List.reverseRecOn with
  | nil => rfl
  | append_singleton cs c ih =>
    rw [behind_append, ih, List.foldl_cons, List.foldl_nil, after, List.rtakeWhile_concat]
    by_cases h : c = '\n'
    · simp [h, Nat.add_assoc]
    · simp [h, Nat.add_assoc]

theorem precedes_foldl (p : Position) {cs : List Char} (some : cs ≠ []) :
    p.Precedes (cs.foldl after p) := by
  induction cs generalizing p with
  | nil => exact absurd rfl some
  | cons c cs ih =>
    have one := precedes_after p c
    cases cs with
    | nil => exact one
    | cons d cs => exact one.trans (ih (p.after c) (List.cons_ne_nil d cs))

/-! ## Moving as far as a target -/

variable {target offset : Nat}

theorem advance_of_le (h : target ≤ offset) (cs : List Char) (p : Position) :
    advance target cs offset p = p := by
  cases cs with
  | nil => rfl
  | cons c cs => exact if_pos h

/-- The characters that end at the target or before it are all moved over. -/
theorem advance_append {cs : List Char} (h : offset + Text.byteLength cs ≤ target)
    (ds : List Char) (p : Position) : advance target (cs ++ ds) offset p =
      advance target ds (offset + Text.byteLength cs) (cs.foldl after p) := by
  induction cs generalizing offset p with
  | nil => rfl
  | cons c cs ih =>
    rw [Text.byteLength, ← Nat.add_assoc] at h
    have := c.utf8Size_pos
    rw [List.cons_append, advance, if_neg (by omega), ih h, Text.byteLength, Nat.add_assoc,
      List.foldl_cons]

theorem advance_add (bytes : Nat) (cs : List Char) (p : Position) :
    advance (target + bytes) cs (offset + bytes) p = advance target cs offset p := by
  induction cs generalizing offset p with
  | nil => rfl
  | cons c cs ih =>
    rw [advance, advance, Nat.add_right_comm offset, ih]
    simp only [Nat.add_le_add_iff_right]

theorem advance_down (lines : Nat) (cs : List Char) (p : Position) :
    advance target cs offset (p.down lines) = (advance target cs offset p).down lines := by
  induction cs generalizing offset p with
  | nil => rfl
  | cons c cs ih =>
    rw [advance, advance, after_down, ih]
    split <;> rfl

end Position

/-! ## Positions in a source -/

namespace Span

variable {source : String} {span span' : Span}

theorem position_of_boundary {before after : List Char} (whole : source.toList = before ++ after)
    (start : span.start = Text.byteLength before) :
    span.position source = Position.behind before := by
  have reached : 0 + Text.byteLength before ≤ span.start := by omega
  rw [position, whole, Position.advance_append reached, Position.advance_of_le (by omega)]
  rfl

theorem precedes_of_lt (h : Text.Boundary source span.start)
    (h' : Text.Boundary source span'.start) (lt : span.start < span'.start) :
    (span.position source).Precedes (span'.position source) := by
  obtain ⟨before, after, whole, start⟩ := h
  obtain ⟨before', after', whole', start'⟩ := h'
  rw [position_of_boundary whole start.symm, position_of_boundary whole' start'.symm]
  -- of two beginnings of one text one begins the other, and the longer one is the second
  obtain ⟨mid, rfl, -⟩ | ⟨mid, rfl, -⟩ := List.append_eq_append_iff.1 (whole.symm.trans whole')
  · rw [Position.behind_append]
    refine Position.precedes_foldl _ ?_
    rintro rfl
    rw [List.append_nil] at start'
    omega
  · rw [Text.byteLength_append] at start
    omega

/-- In front of the text stand whole lines. -/
theorem position_behind {front : String} {lines : Nat}
    (whole : Position.behind front.toList = Position.first.down lines)
    (h : Text.byteLength front.toList ≤ span.start) : span.position (front ++ source) =
      ((span.shiftBack (Text.byteLength front.toList)).position source).down lines := by
  have reached : 0 + Text.byteLength front.toList ≤ span.start := by omega
  rw [position, String.toList_append, Position.advance_append reached]
  change Position.advance _ _ _ (Position.behind front.toList) = _
  obtain ⟨own, eq⟩ := Nat.exists_eq_add_of_le' h
  rw [whole, Position.advance_down, eq, Position.advance_add, position, shiftBack, eq,
    Nat.add_sub_cancel]

theorem position_shiftBack_of_le {bytes : Nat} (h : span.start ≤ bytes) (source : String) :
    (span.shiftBack bytes).position source = Position.first :=
  Position.advance_of_le (by simp [shiftBack, h]) _ _

end Span

/-! ## Positions as they are printed -/

theorem colon_not_mem_digits (n : Nat) : ':' ∉ Nat.toDigits 10 n := by
  intro mem
  have digit := Nat.isDigit_of_mem_toDigits (by decide) (by decide) mem
  exact absurd digit (by decide)

namespace Diagnostic

theorem toList_locationText (source : String) (span : Span) :
    (locationText source (some span)).toList = ' ' :: '(' ::
      (Nat.toDigits 10 (span.position source).line ++ ':' ::
        (Nat.toDigits 10 (span.position source).column ++ [')'])) := by
  have opening : (toString " (").toList = [' ', '('] := by decide
  have colon : (toString ":").toList = [':'] := by decide
  have closing : (toString ")").toList = [')'] := by decide
  simp [locationText, String.toList_append, opening, colon, closing]

/-- Positions that are printed alike are the same. -/
theorem position_of_locationText {source source' : String} {span span' : Span}
    (h : locationText source (some span) = locationText source' (some span')) :
    span.position source = span'.position source' := by
  have same := congrArg String.toList h
  have once (n : Nat) : ':' ∉ Nat.toDigits 10 n ++ [')'] := by simp [colon_not_mem_digits]
  rw [toList_locationText, toList_locationText, List.cons_inj_right, List.cons_inj_right,
    List.append_cons_inj_of_notMem (colon_not_mem_digits _) (once _)] at same
  obtain ⟨line, -, column⟩ := same
  rw [List.append_left_inj] at column
  generalize span.position source = p, span'.position source' = q at line column
  obtain ⟨l, c⟩ := p
  obtain ⟨l', c'⟩ := q
  exact congrArg₂ _ (Decimal.natural_injective line) (Decimal.natural_injective column)

end Diagnostic

theorem behind_strictPrelude :
    Position.behind strictPrelude.toList = Position.first.down 1 := by
  rw [toList_strictPrelude]
  rfl

/-- A position tells the place of a span: it counts the line breaks before it and the characters
behind the last of them, goes up with the place and is printed like no other. Behind the text in
front of a script, which is one line, everything stands one line further down. -/
theorem positions_identify (source : String) :
    (∀ (span : Span) (before after : List Char), source.toList = before ++ after →
      span.start = Text.byteLength before → span.position source =
        ⟨1 + before.count '\n', 1 + (before.rtakeWhile (· ≠ '\n')).length⟩) ∧
    (∀ span span' : Span, Text.Boundary source span.start → Text.Boundary source span'.start →
      (span.start < span'.start →
        (span.position source).Precedes (span'.position source)) ∧
      (Diagnostic.locationText source (some span) = Diagnostic.locationText source (some span') →
        span.start = span'.start)) ∧
    ∀ span : Span,
      let own := (span.shiftBack strictPrelude.utf8ByteSize).position source
      (strictPrelude.utf8ByteSize ≤ span.start →
        span.position (strictPrelude ++ source) = ⟨own.line + 1, own.column⟩) ∧
      (span.start ≤ strictPrelude.utf8ByteSize → own = Position.first) := by
  refine ⟨fun span before after whole start => ?_, fun span span' h h' => ⟨?_, fun alike => ?_⟩,
    fun span => ⟨fun inside => ?_, fun outside => ?_⟩⟩
  · rw [Span.position_of_boundary whole start, Position.behind_eq]
  · exact Span.precedes_of_lt h h'
  · have same := Diagnostic.position_of_locationText alike
    obtain lt | eq | gt := Nat.lt_trichotomy span.start span'.start
    · exact absurd same (Span.precedes_of_lt h h' lt).ne
    · exact eq
    · exact absurd same.symm (Span.precedes_of_lt h' h gt).ne
  · have size : Text.byteLength strictPrelude.toList = strictPrelude.utf8ByteSize := by
      rw [toList_strictPrelude, utf8ByteSize_strictPrelude]
      rfl
    rw [← size] at inside ⊢
    exact Span.position_behind behind_strictPrelude inside
  · exact Span.position_shiftBack_of_le outside source

/-- Two places around a line break, behind a character of two bytes. -/
theorem positions_identify_lines :
    let source := "ñ\nb"
    let ending : Span := ⟨2, 3⟩
    let next : Span := ⟨3, 4⟩
    ending.position source = ⟨1, 2⟩ ∧ next.position source = ⟨2, 1⟩ ∧
      (ending.position source).Precedes (next.position source) ∧
      Diagnostic.locationText source (some ending) ≠ Diagnostic.locationText source (some next) ∧
      (⟨17, 18⟩ : Span).position (strictPrelude ++ source) = ⟨3, 1⟩ ∧
      (⟨7, 8⟩ : Span).position (strictPrelude ++ source) = ⟨1, 8⟩ ∧
      ((⟨7, 8⟩ : Span).shiftBack strictPrelude.utf8ByteSize).position source = ⟨1, 1⟩ := by
  intro source ending next
  obtain ⟨counts, ordered, moved⟩ := positions_identify source
  have whole : source.toList = ['ñ'] ++ ['\n', 'b'] := by decide
  have whole' : source.toList = ['ñ', '\n'] ++ ['b'] := by decide
  have first : ending.position source = ⟨1, 2⟩ := counts ending _ _ whole (by decide)
  have second : next.position source = ⟨2, 1⟩ := counts next _ _ whole' (by decide)
  obtain ⟨precedes, -⟩ := ordered ending next ⟨_, _, whole, by decide⟩ ⟨_, _, whole', by decide⟩
  obtain ⟨-, apart⟩ := ordered ending next ⟨_, _, whole, by decide⟩ ⟨_, _, whole', by decide⟩
  refine ⟨first, second, precedes (by decide), fun alike => absurd (apart alike) (by decide), ?_,
    by decide +kernel, (moved ⟨7, 8⟩).2 (by rw [utf8ByteSize_strictPrelude]; decide)⟩
  have behind := (moved ⟨17, 18⟩).1 (by rw [utf8ByteSize_strictPrelude]; decide)
  rw [utf8ByteSize_strictPrelude] at behind
  exact behind.trans (by rw [show (⟨17, 18⟩ : Span).shiftBack 14 = next from rfl, second])

end LayerScript
