import LayerScript.Json.Reader
import LayerScript.Json.Printer
import Mathlib.Tactic.IntervalCases

/-!
# Reading numbers back

A number that has been read up to the end of a text is read in the same way where something else
follows. The numeral of an integer reads as that integer.
-/

namespace LayerScript.Json

/-- A reader has found a document and has left the rest of the text. -/
def Reads (answer : Except Fault (Json × Cursor)) (j : Json) (rest : List Char) : Prop :=
  ∃ offset, answer = .ok (j, ⟨offset, rest⟩)

theorem reads_ok (j : Json) (offset : Nat) (rest : List Char) :
    Reads (.ok (j, ⟨offset, rest⟩)) j rest :=
  ⟨offset, rfl⟩

@[simp] theorem not_reads_error (fault : Fault) (j : Json) (rest : List Char) :
    ¬ Reads (.error fault) j rest := by
  simp [Reads]

@[simp] theorem reads_ok_iff {j k : Json} {cur : Cursor} {rest : List Char} :
    Reads (.ok (j, cur)) k rest ↔ j = k ∧ cur.rest = rest := by
  constructor
  · rintro ⟨offset, same⟩
    cases same
    exact ⟨rfl, rfl⟩
  · rintro ⟨rfl, rfl⟩
    exact ⟨cur.offset, rfl⟩

/-! ## Numbers in longer texts -/

theorem ne_of_isDigit {c d : Char} (h : c.isDigit = true) (other : d.isDigit = false) :
    c ≠ d := by
  rintro rfl
  simp [h] at other

theorem isSpace_of_isDigit {c : Char} (h : c.isDigit = true) : Cursor.isSpace c = false := by
  have other {d : Char} (hd : d.isDigit = false) : c ≠ d := ne_of_isDigit h hd
  simp [Cursor.isSpace, other (d := ' ') rfl, other (d := '\n') rfl, other (d := '\t') rfl,
    other (d := '\r') rfl]

/-- What follows does not go on with a number. -/
def Delimited (more : List Char) : Prop :=
  ∀ c ∈ more.head?, c.isDigit = false ∧ c ≠ '.' ∧ c ≠ 'e' ∧ c ≠ 'E'

theorem delimited_nil : Delimited [] := by
  simp [Delimited]

theorem delimited_cons {c : Char} {cs : List Char} (digit : c.isDigit = false) (point : c ≠ '.')
    (lower : c ≠ 'e') (upper : c ≠ 'E') : Delimited (c :: cs) := by
  simp [Delimited, digit, point, lower, upper]

/-- Neither a fraction nor an exponent follows. -/
def Whole (cs : List Char) : Prop :=
  ∀ c ∈ cs.head?, c ≠ '.' ∧ c ≠ 'e' ∧ c ≠ 'E'

theorem point_cases (cs : List Char) :
    (∃ tail, cs = '.' :: tail) ∨ (∃ tail, cs = 'e' :: tail) ∨ (∃ tail, cs = 'E' :: tail) ∨
      Whole cs := by
  cases cs with
  | nil => simp [Whole]
  | cons c tail =>
    by_cases c = '.' <;> by_cases c = 'e' <;> by_cases c = 'E' <;> simp_all [Whole]

section Following

variable {more : List Char}

theorem Delimited.whole (h : Delimited more) : Whole more :=
  fun c hc => (h c hc).2

theorem Whole.append {cs : List Char} (whole : Whole cs) (h : Delimited more) :
    Whole (cs ++ more) := by
  cases cs with
  | nil => exact h.whole
  | cons c cs => exact whole

theorem takeDigits_append (h : Delimited more) (n : Nat) (cs : List Char) :
    takeDigits n (cs ++ more) =
      ((takeDigits n cs).1, (takeDigits n cs).2.1, (takeDigits n cs).2.2 ++ more) := by
  induction cs generalizing n with
  | nil =>
    cases more with
    | nil => rfl
    | cons c more => simp [takeDigits, (h c rfl).1]
  | cons c cs ih =>
    simp only [List.cons_append, takeDigits]
    split
    · simp only [ih]
    · rfl

theorem takeWhile_digits_append (h : Delimited more) (cs : List Char) :
    (cs ++ more).takeWhile Char.isDigit = cs.takeWhile Char.isDigit := by
  induction cs with
  | nil =>
    cases more with
    | nil => rfl
    | cons c more => simp [(h c rfl).1]
  | cons c cs ih => simp [List.takeWhile_cons, ih]

theorem dropWhile_digits_append (h : Delimited more) (cs : List Char) :
    (cs ++ more).dropWhile Char.isDigit = cs.dropWhile Char.isDigit ++ more := by
  induction cs with
  | nil =>
    cases more with
    | nil => rfl
    | cons c more => simp [(h c rfl).1]
  | cons c cs ih =>
    simp only [List.cons_append, List.dropWhile_cons, ih]
    split <;> rfl

variable {negative : Bool} {n : Nat} {e : Int} {j : Json} {o o' : Nat} {cs tail : List Char}

theorem reads_scaled_append (h : Reads (scaled negative n e ⟨o, cs⟩) j tail) :
    Reads (scaled negative n e ⟨o', cs ++ more⟩) j (tail ++ more) := by
  unfold scaled at h ⊢
  cases size : scale? n e with
  | none => simp [size] at h
  | some x => simp_all

theorem reads_exponentDigits_append (delimited : Delimited more) {down : Bool} {size : Nat}
    (h : Reads (exponentDigits negative n e down size cs o) j tail) :
    Reads (exponentDigits negative n e down size (cs ++ more) o') j (tail ++ more) := by
  induction cs generalizing size o o' with
  | nil =>
    have further : Reads (scaled negative n (e + if down then -(size : Int) else size)
        ⟨o', [] ++ more⟩) j (tail ++ more) := reads_scaled_append h
    cases more with
    | nil => exact further
    | cons c more => simpa [exponentDigits, (delimited c rfl).1] using further
  | cons c cs ih =>
    rw [exponentDigits] at h
    rw [List.cons_append, exponentDigits]
    by_cases digit : c.isDigit
    · rw [if_pos digit] at h ⊢
      dsimp only at h ⊢
      split at h
      next small =>
        rw [if_pos small]
        exact ih h
      next large =>
        rw [if_neg large]
        split at h
        next vanishes =>
          rw [if_pos vanishes, takeWhile_digits_append delimited, dropWhile_digits_append delimited]
          simp_all
        · simp at h
    · rw [if_neg digit] at h ⊢
      exact reads_scaled_append h

theorem exponentPart_unsigned {c : Char} (plus : c ≠ '+') (minus : c ≠ '-') :
    exponentPart negative n e ⟨o, c :: cs⟩ =
      if c.isDigit then exponentDigits negative n e false 0 (c :: cs) o
      else .error (Cursor.ahead ⟨o, c :: cs⟩ .invalidNumber) := by
  simp [exponentPart, plus, minus]

theorem reads_exponent_append (delimited : Delimited more) {down : Bool} {c : Char}
    (h : Reads (if c.isDigit then exponentDigits negative n e down 0 (c :: cs) o
      else .error (Cursor.ahead ⟨o, c :: cs⟩ .invalidNumber)) j tail) :
    Reads (if c.isDigit then exponentDigits negative n e down 0 (c :: (cs ++ more)) o'
      else .error (Cursor.ahead ⟨o', c :: (cs ++ more)⟩ .invalidNumber)) j (tail ++ more) := by
  by_cases digit : c.isDigit
  · rw [if_pos digit] at h ⊢
    exact reads_exponentDigits_append delimited h
  · simp [digit] at h

theorem reads_exponentPart_append (delimited : Delimited more)
    (h : Reads (exponentPart negative n e ⟨o, cs⟩) j tail) :
    Reads (exponentPart negative n e ⟨o', cs ++ more⟩) j (tail ++ more) := by
  cases cs with
  | nil => simp [exponentPart] at h
  | cons c cs =>
    by_cases plus : c = '+'
    · subst plus
      cases cs with
      | nil => simp [exponentPart] at h
      | cons d cs => exact reads_exponent_append delimited h
    by_cases minus : c = '-'
    · subst minus
      cases cs with
      | nil => simp [exponentPart] at h
      | cons d cs => exact reads_exponent_append delimited h
    rw [exponentPart_unsigned plus minus] at h
    rw [List.cons_append, exponentPart_unsigned plus minus]
    exact reads_exponent_append delimited h

theorem afterDigits_of_whole (whole : Whole cs) :
    afterDigits negative n e ⟨o, cs⟩ = scaled negative n e ⟨o, cs⟩ := by
  cases cs with
  | nil => rfl
  | cons c cs =>
    obtain ⟨-, lower, upper⟩ := whole c rfl
    simp [afterDigits, lower, upper]

theorem reads_afterDigits_append (delimited : Delimited more)
    (h : Reads (afterDigits negative n e ⟨o, cs⟩) j tail) :
    Reads (afterDigits negative n e ⟨o', cs ++ more⟩) j (tail ++ more) := by
  rcases point_cases cs with ⟨cs, rfl⟩ | ⟨cs, rfl⟩ | ⟨cs, rfl⟩ | whole
  · have plain : Reads (scaled negative n e ⟨o, '.' :: cs⟩) j tail := h
    exact reads_scaled_append plain
  · exact reads_exponentPart_append delimited h
  · exact reads_exponentPart_append delimited h
  · rw [afterDigits_of_whole whole] at h
    rw [afterDigits_of_whole (whole.append delimited)]
    exact reads_scaled_append h

theorem reads_fractionPart_append (delimited : Delimited more)
    (h : Reads (fractionPart negative n e ⟨o, cs⟩) j tail) :
    Reads (fractionPart negative n e ⟨o', cs ++ more⟩) j (tail ++ more) := by
  simp only [fractionPart, takeDigits_append delimited, takeWhile_digits_append delimited,
    dropWhile_digits_append delimited] at h ⊢
  split at h
  · simp at h
  next digits =>
    rw [if_neg digits]
    exact reads_afterDigits_append delimited h

theorem number_zero (whole : Whole cs) :
    number negative ⟨o, '0' :: cs⟩ =
      if cs.head?.any Char.isDigit then .error (Cursor.ahead ⟨o + 1, cs⟩ .invalidNumber)
      else .ok (integerJson negative 0, ⟨o + 1, cs⟩) := by
  cases cs with
  | nil => rfl
  | cons c cs =>
    simp only [number, if_true, List.head?_cons, Option.any_some]
    split <;> simp_all [Whole]

theorem reads_number_zero_append (delimited : Delimited more)
    (h : Reads (number negative ⟨o, '0' :: cs⟩) j tail) :
    Reads (number negative ⟨o', '0' :: (cs ++ more)⟩) j (tail ++ more) := by
  rcases point_cases cs with ⟨cs, rfl⟩ | ⟨cs, rfl⟩ | ⟨cs, rfl⟩ | whole
  · exact reads_fractionPart_append delimited h
  · exact reads_exponentPart_append delimited h
  · exact reads_exponentPart_append delimited h
  · rw [number_zero whole] at h
    rw [number_zero (whole.append delimited)]
    split at h
    · simp at h
    next digitless =>
      obtain ⟨rfl, rfl⟩ := reads_ok_iff.1 h
      have still : ¬ (cs ++ more).head?.any Char.isDigit := by
        cases cs with
        | nil =>
          cases more with
          | nil => exact digitless
          | cons c more => simp [(delimited c rfl).1]
        | cons c cs => exact digitless
      rw [if_neg still]
      exact reads_ok ..

theorem number_whole {c : Char} {cs rest : List Char} {count : Nat} (nonzero : c ≠ '0')
    (digit : c.isDigit = true) (taken : takeDigits 0 (c :: cs) = (n, count, rest))
    (whole : Whole (rest.dropWhile Char.isDigit)) :
    let extra := rest.takeWhile Char.isDigit
    let behind : Cursor := ⟨o + count + extra.length, rest.dropWhile Char.isDigit⟩
    number negative ⟨o, c :: cs⟩ =
      if extra.isEmpty then .ok (integerJson negative n, behind)
      else scaled negative n extra.length behind := by
  simp only [number, if_neg nonzero, if_pos digit, taken]
  generalize rest.dropWhile Char.isDigit = tail at whole ⊢
  cases tail with
  | nil => rfl
  | cons d tail =>
    obtain ⟨point, lower, upper⟩ := whole d rfl
    simp [point, lower, upper]

theorem reads_number_append (delimited : Delimited more)
    (h : Reads (number negative ⟨o, cs⟩) j tail) :
    Reads (number negative ⟨o', cs ++ more⟩) j (tail ++ more) := by
  cases cs with
  | nil => simp [number] at h
  | cons c cs =>
    rw [List.cons_append]
    by_cases zero : c = '0'
    · subst zero
      exact reads_number_zero_append delimited h
    by_cases digit : c.isDigit = true
    · obtain ⟨n, count, rest, taken⟩ : ∃ n count rest, takeDigits 0 (c :: cs) = (n, count, rest) :=
        ⟨_, _, _, rfl⟩
      have further := takeDigits_append delimited 0 (c :: cs)
      rw [taken, List.cons_append] at further
      by_cases whole : Whole (rest.dropWhile Char.isDigit)
      · rw [number_whole zero digit taken whole] at h
        rw [number_whole zero digit further (dropWhile_digits_append delimited rest ▸
          whole.append delimited), takeWhile_digits_append delimited,
          dropWhile_digits_append delimited]
        split at h
        next none => simp_all
        next extra =>
          rw [if_neg extra]
          exact reads_scaled_append h
      · simp only [number, if_neg zero, if_pos digit, taken, further,
          takeWhile_digits_append delimited, dropWhile_digits_append delimited] at h ⊢
        generalize rest.dropWhile Char.isDigit = cs at whole h ⊢
        rcases point_cases cs with ⟨cs, rfl⟩ | ⟨cs, rfl⟩ | ⟨cs, rfl⟩ | is
        · exact reads_fractionPart_append delimited h
        · exact reads_exponentPart_append delimited h
        · exact reads_exponentPart_append delimited h
        · exact absurd is whole
    · simp [number, zero, digit] at h

end Following

/-! ## Integers -/

/-- A numeral begins with a digit, which is not zero when the number is not. -/
theorem head_natural (n : Nat) :
    ∃ c cs, Decimal.natural n = c :: cs ∧ c.isDigit = true ∧ (0 < n → c ≠ '0') := by
  unfold Decimal.natural
  induction n using Nat.strongRecOn with
  | ind n ih =>
    by_cases single : n < 10
    · refine ⟨n.digitChar, [], Nat.toDigits_of_lt_base single, ?_⟩
      interval_cases n <;> decide
    · obtain ⟨c, cs, digits, digit, nonzero⟩ := ih (n / 10) (by omega)
      refine ⟨c, cs ++ [(n % 10).digitChar], ?_, digit, fun _ => nonzero (by omega)⟩
      rw [Nat.toDigits_of_base_le (by omega) (by omega), digits, List.cons_append]

theorem takeDigits_of_digits {cs : List Char} (digits : ∀ c ∈ cs, c.isDigit = true) {n : Nat}
    (small : Nat.ofDigitChars 10 cs n < significandLimit) :
    takeDigits n cs = (Nat.ofDigitChars 10 cs n, cs.length, []) := by
  induction cs generalizing n with
  | nil => rfl
  | cons c cs ih =>
    rw [Nat.ofDigitChars_cons] at small ⊢
    -- The value of the digits so far is at most that of all digits.
    have next : 10 * n + digitValue c < significandLimit := by
      rw [Nat.ofDigitChars_eq_ofDigitChars_zero] at small
      have grows := Nat.le_mul_of_pos_left (10 * n + digitValue c)
        (Nat.pow_pos (n := cs.length) (show 0 < 10 by decide))
      exact Nat.lt_of_le_of_lt (Nat.le_trans grows (Nat.le_add_right ..)) small
    have rest := ih (fun d hd => digits d (List.mem_cons_of_mem c hd)) small
    rw [takeDigits, if_pos (by simp [digits c List.mem_cons_self, next])]
    simp only [digitValue, rest, List.length_cons]

theorem reads_natural {negative : Bool} {n o : Nat} (small : n < significandLimit) :
    Reads (number negative ⟨o, Decimal.natural n⟩) (integerJson negative n) [] := by
  rcases Nat.eq_zero_or_pos n with rfl | positive
  · exact reads_ok ..
  · obtain ⟨c, cs, digits, digit, nonzero⟩ := head_natural n
    have all : ∀ d ∈ c :: cs, d.isDigit = true := by
      rw [← digits]
      exact fun d hd => Nat.isDigit_of_mem_toDigits (by decide) (by decide) hd
    have taken : takeDigits 0 (c :: cs) = (n, (c :: cs).length, []) := by
      have value : Nat.ofDigitChars 10 (c :: cs) 0 = n := digits ▸ Nat.ofDigitChars_ten_toDigits
      rw [takeDigits_of_digits all (value.symm ▸ small), value]
    rw [digits, number_whole (nonzero positive) digit taken (by simp [Whole])]
    exact reads_ok ..

theorem integerJson_toInt (n : Int64) :
    integerJson (n.toInt < 0) n.toInt.natAbs = .int n := by
  have low := n.le_toInt
  have high := n.toInt_lt
  have power : Nat.pow 2 63 = 2 ^ 63 := rfl
  by_cases negative : n.toInt < 0
  · have fits : ¬ (n.toInt.natAbs = 0 || Nat.pow 2 63 < n.toInt.natAbs) := by
      simp only [Bool.or_eq_true, decide_eq_true_eq, not_or, not_lt, power]
      exact ⟨by omega, by omega⟩
    have size : -(n.toInt.natAbs : Int) = n.toInt := by omega
    rw [integerJson, if_pos (decide_eq_true negative), if_neg fits, size, Int64.ofInt_toInt]
  · have fits : n.toInt.natAbs < Nat.pow 2 63 := by
      rw [power]
      omega
    have size : (n.toInt.natAbs : Int) = n.toInt := by omega
    rw [integerJson, if_neg (by simpa using negative), if_pos fits, ← Int64.ofInt_eq_ofNat, size,
      Int64.ofInt_toInt]

/-! ## Values that are numbers -/

section Values

variable {fuel room o : Nat} {cs more : List Char}

theorem value_minus : value (fuel + 1) room ⟨o, '-' :: cs⟩ = number true ⟨o + 1, cs⟩ := by
  simp [value, Cursor.skipSpace, Cursor.isSpace, Cursor.past]
  rfl

theorem value_digit {c : Char} (digit : c.isDigit = true) :
    value (fuel + 1) room ⟨o, c :: cs⟩ = number false ⟨o, c :: cs⟩ := by
  have other (d : Char) (hd : d.isDigit = false) : c ≠ d := ne_of_isDigit digit hd
  have solid : Cursor.skipSpace ⟨o, c :: cs⟩ = ⟨o, c :: cs⟩ := by
    simp [Cursor.skipSpace, isSpace_of_isDigit digit]
  simp [value, solid, other 'n' rfl, other 't' rfl, other 'f' rfl, other '-' rfl, digit]

theorem reads_integer (delimited : Delimited more) (n : Int64) :
    Reads (value (fuel + 1) room ⟨o, Decimal.integer n.toInt ++ more⟩) (.int n) more := by
  have small : n.toInt.natAbs < significandLimit := by
    have low := n.le_toInt
    have high := n.toInt_lt
    have limit : significandLimit = 2 ^ 64 := rfl
    omega
  have plain := integerJson_toInt n
  unfold Decimal.integer
  by_cases negative : n.toInt < 0
  · rw [if_pos negative, List.cons_append, value_minus, ← plain, decide_eq_true negative]
    exact reads_number_append delimited (o := o) (reads_natural small)
  · have size : Reads (number false ⟨o, Decimal.natural n.toInt.natAbs ++ more⟩)
        (integerJson false n.toInt.natAbs) more :=
      reads_number_append delimited (reads_natural (o := o) small)
    rw [decide_eq_false negative] at plain
    rw [if_neg negative, ← plain]
    obtain ⟨c, cs, digits, digit, -⟩ := head_natural n.toInt.natAbs
    rw [digits, List.cons_append, value_digit digit, ← List.cons_append, ← digits]
    exact size

end Values

/-! ## Floats -/

/-- The numeral written for a float reads as that float. -/
def Legible (x : Float) : Prop :=
  read (compact (.float x)) = .ok (.float x)

/-- A reader has found a document and has left the rest of the text, except perhaps blanks. -/
def ReadsUpTo (answer : Except Fault (Json × Cursor)) (j : Json) (more : List Char) : Prop :=
  ∃ behind, answer = .ok (j, behind) ∧ behind.skipSpace.rest = more.dropWhile Cursor.isSpace

theorem Reads.upTo {answer : Except Fault (Json × Cursor)} {j : Json} {more : List Char}
    (h : Reads answer j more) : ReadsUpTo answer j more := by
  obtain ⟨offset, rfl⟩ := h
  exact ⟨⟨offset, more⟩, rfl, rfl⟩

/-- The text begins with a digit. -/
def Digital (cs : List Char) : Prop :=
  ∃ c ∈ cs.head?, c.isDigit = true

theorem digital_natural (n : Nat) : Digital (Decimal.natural n) := by
  obtain ⟨c, cs, digits, digit, -⟩ := head_natural n
  exact ⟨c, by rw [digits]; rfl, digit⟩

theorem Digital.append {cs : List Char} (h : Digital cs) (more : List Char) :
    Digital (cs ++ more) := by
  obtain ⟨c, first, digit⟩ := h
  exact ⟨c, by rw [List.head?_append, first]; rfl, digit⟩

theorem digital_positional (d : Decimal.Scaled) : Digital d.positional := by
  have digits := digital_natural d.digits
  unfold Decimal.Scaled.positional
  dsimp only
  split
  · exact digits.append _
  split
  next some =>
    refine Digital.append ?_ _
    obtain ⟨c, first, digit⟩ := digits
    exact ⟨c, by rw [List.head?_take, if_neg (by omega), first]; rfl, digit⟩
  · exact ⟨'0', rfl, rfl⟩

theorem digital_scientific (d : Decimal.Scaled) : Digital d.scientific := by
  refine Digital.append ?_ _
  obtain ⟨c, first, digit⟩ := digital_natural d.digits
  refine ⟨c, ?_, digit⟩
  split
  next found =>
    rw [found] at first
    exact first
  · exact first

theorem floatNumeral_cases (x : Float) :
    floatNumeral x = ['n', 'u', 'l', 'l'] ∨ Digital (floatNumeral x) ∨
      ∃ cs, floatNumeral x = '-' :: cs := by
  unfold floatNumeral
  split
  · exact .inl rfl
  · exact .inl rfl
  next negative significand exponent _ =>
    right
    cases negative with
    | true => exact .inr ⟨_, rfl⟩
    | false =>
      left
      simp only [Bool.false_eq_true, if_false]
      split
      · exact ⟨'0', rfl, rfl⟩
      split
      · split
        · exact (digital_positional _).append _
        · exact digital_positional _
      · exact digital_scientific _

theorem value_of_read {text : String} {j : Json} (h : read text = .ok j) :
    ReadsUpTo (value (2 * text.toList.length + 2) 128 ⟨0, text.toList⟩) j [] := by
  unfold read document at h
  cases found : value (2 * text.toList.length + 2) 128 ⟨0, text.toList⟩ with
  | error fault => simp [found, bind, Except.bind] at h
  | ok result =>
    obtain ⟨k, behind⟩ := result
    by_cases blank : behind.skipSpace.rest.isEmpty
    · simp [found, bind, Except.bind, blank, pure, Except.pure] at h
      subst h
      exact ⟨behind, rfl, List.isEmpty_iff.1 blank⟩
    · simp [found, bind, Except.bind, blank, throw, throwThe, MonadExceptOf.throw] at h

theorem ReadsUpTo.append {answer answer' : Except Fault (Json × Cursor)} {j : Json}
    {more : List Char} (h : ReadsUpTo answer j [])
    (further : ∀ rest, Reads answer j rest → Reads answer' j (rest ++ more)) :
    ReadsUpTo answer' j more := by
  obtain ⟨behind, rfl, blank⟩ := h
  obtain ⟨offset, rfl⟩ := further behind.rest (reads_ok ..)
  refine ⟨_, rfl, ?_⟩
  have blank : behind.rest.dropWhile Cursor.isSpace = [] := blank
  show (behind.rest ++ more).dropWhile Cursor.isSpace = _
  rw [List.dropWhile_append, blank]
  rfl

theorem reads_float {x : Float} (legible : Legible x) {more : List Char}
    (delimited : Delimited more) (fuel room o : Nat) :
    ReadsUpTo (value (fuel + 1) room ⟨o, floatNumeral x ++ more⟩) (.float x) more := by
  have reads := value_of_read legible
  simp only [compact, compactChars, String.toList_ofList] at reads
  refine reads.append fun rest h => ?_
  rcases floatNumeral_cases x with null | ⟨c, first, digit⟩ | ⟨cs, minus⟩
  -- The word `null` is not read as a float, so no legible float is written like that.
  · rw [null] at h
    simp [value, word, Cursor.skipSpace, Cursor.isSpace, Cursor.past] at h
  · obtain ⟨cs, numeral⟩ : ∃ cs, floatNumeral x = c :: cs := List.head?_eq_some_iff.1 first
    rw [numeral, value_digit digit] at h
    rw [numeral, List.cons_append, value_digit digit]
    exact reads_number_append delimited h
  · rw [minus, value_minus] at h
    rw [minus, List.cons_append, value_minus]
    exact reads_number_append delimited h

end LayerScript.Json
