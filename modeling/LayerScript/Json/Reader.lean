import LayerScript.Json.Basic
import LayerScript.Json.Flaw
import LayerScript.Decimal.Numeral
import LayerScript.Text.Position

/-!
# Reading JSON

`Json.read` reads one document that fills the text. A repeated key keeps its first place and takes
its last value. Arrays and objects may be nested 127 deep.
-/

namespace LayerScript.Json

/-- The characters that are left and the number of bytes before them. -/
structure Cursor where
  offset : Nat
  rest : List Char

/-- A flaw and the number of bytes read when it was noticed. -/
structure Fault where
  flaw : Flaw
  bytes : Nat

namespace Cursor

/-- The cursor behind the next character, given what follows it. -/
def past (cur : Cursor) (c : Char) (cs : List Char) : Cursor :=
  ⟨cur.offset + c.utf8Size, cs⟩

/-- A flaw noticed behind what was read. -/
def here (cur : Cursor) (flaw : Flaw) : Fault :=
  ⟨flaw, cur.offset⟩

/-- A flaw of the next byte. -/
def ahead (cur : Cursor) (flaw : Flaw) : Fault :=
  ⟨flaw, if cur.rest.isEmpty then cur.offset else cur.offset + 1⟩

def isSpace (c : Char) : Bool :=
  c = ' ' || c = '\n' || c = '\t' || c = '\r'

def skipSpace (cur : Cursor) : Cursor :=
  let blanks := cur.rest.takeWhile isSpace
  ⟨cur.offset + blanks.length, cur.rest.dropWhile isSpace⟩

end Cursor

/-! ## Words -/

/-- The rest of `null`, `true` or `false`. -/
def word (result : Json) : List Char → Cursor → Except Fault (Json × Cursor)
  | [], cur => .ok (result, cur)
  | expected :: more, cur =>
    match cur.rest with
    | [] => .error (cur.here .endInValue)
    | c :: cs =>
      if c = expected then word result more (cur.past c cs)
      else .error (cur.ahead .expectedIdent)

/-! ## Numbers -/

def significandLimit : Nat := Nat.pow 2 64

def digitValue (c : Char) : Nat :=
  c.toNat - '0'.toNat

/-- Digits as long as the significand fits 64 bits: the significand, how many digits were taken,
and what follows. -/
def takeDigits (significand : Nat) : List Char → Nat × Nat × List Char
  | [] => (significand, 0, [])
  | c :: cs =>
    let next := 10 * significand + digitValue c
    if c.isDigit && next < significandLimit then
      let (final, count, rest) := takeDigits next cs
      (final, count + 1, rest)
    else (significand, 0, c :: cs)

def tenTo (power : Nat) : Float :=
  Float.ofScientific 1 false power

/-- Division by a power of ten, in two steps beyond `10 ^ 308`. What 64 bits hold vanishes in the
third. -/
def divideByPower (x : Float) (power : Nat) : Float :=
  if power ≤ 308 then x / tenTo power
  else if power ≤ 616 then x / tenTo 308 / tenTo (power - 308)
  else 0

/-- `significand * 10 ^ exponent` by one multiplication or by divisions; `none` when it is too
large. -/
def scale? (significand : Nat) (exponent : Int) : Option Float :=
  let x := Float.ofNat significand
  if exponent < 0 then some (divideByPower x exponent.natAbs)
  else if exponent ≤ 308 then
    let product := x * tenTo exponent.natAbs
    if product.isInf then none else some product
  else if significand = 0 then some x
  else none

def signed (negative : Bool) (x : Float) : Json :=
  .float (if negative then -x else x)

def scaled (negative : Bool) (significand : Nat) (exponent : Int) (cur : Cursor) :
    Except Fault (Json × Cursor) :=
  match scale? significand exponent with
  | some x => .ok (signed negative x, cur)
  | none => .error (cur.here .numberOutOfRange)

/-- The digits of an exponent. One that does not fit 32 bits makes a number zero or too large. -/
def exponentDigits (negative : Bool) (significand : Nat) (start : Int) (down : Bool) (size : Nat) :
    List Char → Nat → Except Fault (Json × Cursor)
  | [], offset =>
    scaled negative significand (start + if down then -(size : Int) else size) ⟨offset, []⟩
  | c :: cs, offset =>
    if c.isDigit then
      let next := 10 * size + digitValue c
      if next < Nat.pow 2 31 then
        exponentDigits negative significand start down next cs (offset + 1)
      else if significand = 0 || down then
        let more := cs.takeWhile Char.isDigit
        .ok (signed negative 0, ⟨offset + 1 + more.length, cs.dropWhile Char.isDigit⟩)
      else .error ⟨.numberOutOfRange, offset + 1⟩
    else
      scaled negative significand (start + if down then -(size : Int) else size) ⟨offset, c :: cs⟩

/-- What follows the letter of an exponent. -/
def exponentPart (negative : Bool) (significand : Nat) (start : Int) (cur : Cursor) :
    Except Fault (Json × Cursor) :=
  let (down, digits) : Bool × Cursor := match cur.rest with
    | '+' :: cs => (false, ⟨cur.offset + 1, cs⟩)
    | '-' :: cs => (true, ⟨cur.offset + 1, cs⟩)
    | _ => (false, cur)
  match digits.rest with
  | [] => .error (digits.here .endInValue)
  | c :: _ =>
    if c.isDigit then
      exponentDigits negative significand start down 0 digits.rest digits.offset
    else .error (digits.ahead .invalidNumber)

/-- What may follow the digits of a number with a fraction or with too many digits. -/
def afterDigits (negative : Bool) (significand : Nat) (exponent : Int) (cur : Cursor) :
    Except Fault (Json × Cursor) :=
  match cur.rest with
  | 'e' :: cs => exponentPart negative significand exponent ⟨cur.offset + 1, cs⟩
  | 'E' :: cs => exponentPart negative significand exponent ⟨cur.offset + 1, cs⟩
  | _ => scaled negative significand exponent cur

/-- What follows the decimal point. Digits beyond 64 bits are dropped. -/
def fractionPart (negative : Bool) (significand : Nat) (exponent : Int) (cur : Cursor) :
    Except Fault (Json × Cursor) :=
  let (significand, count, rest) := takeDigits significand cur.rest
  let dropped := rest.takeWhile Char.isDigit
  if count = 0 && dropped.isEmpty then
    .error (if rest.isEmpty then cur.here .endInValue else cur.ahead .invalidNumber)
  else
    afterDigits negative significand (exponent - count)
      ⟨cur.offset + count + dropped.length, rest.dropWhile Char.isDigit⟩

/-- An integer when it fits 64 bits with a sign, a float otherwise. -/
def integerJson (negative : Bool) (significand : Nat) : Json :=
  if negative then
    if significand = 0 || Nat.pow 2 63 < significand then .float (-(Float.ofNat significand))
    else .int (Int64.ofInt (-significand))
  else if significand < Nat.pow 2 63 then .int (Int64.ofNat significand)
  else .float (Float.ofNat significand)

/-- A number behind its sign. -/
def number (negative : Bool) (cur : Cursor) : Except Fault (Json × Cursor) :=
  match cur.rest with
  | [] => .error (cur.here .endInValue)
  | c :: cs =>
    if c = '0' then
      let behind : Cursor := ⟨cur.offset + 1, cs⟩
      match cs with
      | '.' :: more => fractionPart negative 0 0 ⟨cur.offset + 2, more⟩
      | 'e' :: more => exponentPart negative 0 0 ⟨cur.offset + 2, more⟩
      | 'E' :: more => exponentPart negative 0 0 ⟨cur.offset + 2, more⟩
      | d :: _ =>
        if d.isDigit then .error (behind.ahead .invalidNumber)
        else .ok (integerJson negative 0, behind)
      | [] => .ok (integerJson negative 0, behind)
    else if c.isDigit then
      let (significand, count, rest) := takeDigits 0 (c :: cs)
      let extra := rest.takeWhile Char.isDigit
      let behind : Cursor :=
        ⟨cur.offset + count + extra.length, rest.dropWhile Char.isDigit⟩
      match behind.rest with
      | '.' :: more => fractionPart negative significand extra.length ⟨behind.offset + 1, more⟩
      | 'e' :: more => exponentPart negative significand extra.length ⟨behind.offset + 1, more⟩
      | 'E' :: more => exponentPart negative significand extra.length ⟨behind.offset + 1, more⟩
      | _ =>
        if extra.isEmpty then .ok (integerJson negative significand, behind)
        else scaled negative significand extra.length behind
    else .error (cur.ahead .invalidNumber)

/-! ## Strings -/

def hexValue? (c : Char) : Option Nat :=
  if c.isDigit then some (c.toNat - '0'.toNat)
  else if 'a' ≤ c ∧ c ≤ 'f' then some (c.toNat - 'a'.toNat + 10)
  else if 'A' ≤ c ∧ c ≤ 'F' then some (c.toNat - 'A'.toNat + 10)
  else none

def fourHex? : List Char → Option (Nat × List Char)
  | a :: b :: c :: d :: rest => do
    let a ← hexValue? a
    let b ← hexValue? b
    let c ← hexValue? c
    let d ← hexValue? d
    return (((a * 16 + b) * 16 + c) * 16 + d, rest)
  | _ => none

/-- The four digits of an escape. Four bytes are read before they are looked at. -/
def hexEscape (cur : Cursor) : Except Fault (Nat × Cursor) :=
  match fourHex? cur.rest with
  | some (n, rest) => .ok (n, ⟨cur.offset + 4, rest⟩)
  | none =>
    let left := Text.byteLength cur.rest
    if left < 4 then .error ⟨.endInString, cur.offset + left⟩
    else .error ⟨.invalidEscape, cur.offset + 4⟩

/-- A character that has to follow the first half of a surrogate pair. -/
def pairMark (expected : Char) (cur : Cursor) : Except Fault Cursor :=
  match cur.rest with
  | [] => .error (cur.here .endInString)
  | c :: cs => if c = expected then .ok (cur.past c cs) else .error (cur.ahead .endOfHexEscape)

/-- The second half of a surrogate pair. -/
def lowHalf (high : Nat) (cur : Cursor) : Except Fault (Char × Cursor) := do
  let behind ← pairMark '\\' cur
  let behind ← pairMark 'u' behind
  let (low, behind) ← hexEscape behind
  if low < 0xDC00 ∨ 0xDFFF < low then throw (behind.here .loneSurrogate)
  else return (Char.ofNat ((high - 0xD800) * 0x400 + (low - 0xDC00) + 0x10000), behind)

/-- An escape behind its letter `u`. Two halves of a surrogate pair make one character. -/
def unicodeEscape (cur : Cursor) : Except Fault (Char × Cursor) := do
  let (high, behind) ← hexEscape cur
  if 0xDC00 ≤ high ∧ high ≤ 0xDFFF then throw (behind.here .loneSurrogate)
  else if high < 0xD800 ∨ 0xDBFF < high then return (Char.ofNat high, behind)
  else lowHalf high behind

/-- The character that a backslash and one letter stand for. -/
def letterEscape? (c : Char) : Option Char :=
  if c = '\"' || c = '\\' || c = '/' then some c
  else if c = 'b' then some (Char.ofNat 0x08)
  else if c = 'f' then some (Char.ofNat 0x0C)
  else if c = 'n' then some '\n'
  else if c = 'r' then some '\r'
  else if c = 't' then some '\t'
  else none

/-- An escape behind its backslash. -/
def escapeSequence (cur : Cursor) : Except Fault (Char × Cursor) :=
  match cur.rest with
  | [] => .error (cur.here .endInString)
  | c :: cs =>
    if c = 'u' then unicodeEscape (cur.past c cs)
    else
      match letterEscape? c with
      | some d => .ok (d, cur.past c cs)
      | none => .error (cur.ahead .invalidEscape)

/-! Reading goes forward: what follows an escape is shorter than what was there before it. -/

theorem length_fourHex? {n : Nat} {cs rest : List Char} (h : fourHex? cs = some (n, rest)) :
    rest.length ≤ cs.length := by
  fun_cases fourHex? cs with
  | case1 a b c d tail =>
    simp only [fourHex?, Option.bind_eq_bind, Option.bind_eq_some_iff, Option.pure_def,
      Option.some.injEq, Prod.mk.injEq] at h
    obtain ⟨_, _, _, _, _, _, _, _, _, rfl⟩ := h
    simp only [List.length_cons]
    omega
  | case2 => simp_all [fourHex?]

theorem length_hexEscape {n : Nat} {cur behind : Cursor} (h : hexEscape cur = .ok (n, behind)) :
    behind.rest.length ≤ cur.rest.length := by
  fun_cases hexEscape cur with simp only [hexEscape, *] at h
  | case1 m rest hf =>
    obtain ⟨rfl, rfl⟩ := Prod.mk.inj (Except.ok.inj h)
    exact length_fourHex? hf
  | case2 hf left hl => simp [left, hl] at h
  | case3 hf left hl => simp [left, hl] at h

theorem length_pairMark {c : Char} {cur behind : Cursor} (h : pairMark c cur = .ok behind) :
    behind.rest.length ≤ cur.rest.length := by
  fun_cases pairMark c cur with simp only [pairMark, *] at h
  | case1 => simp at h
  | case2 cs hr =>
    obtain rfl := Except.ok.inj h
    simp [Cursor.past, hr]
  | case3 => simp at h

theorem length_lowHalf {high : Nat} {c : Char} {cur behind : Cursor}
    (h : lowHalf high cur = .ok (c, behind)) : behind.rest.length ≤ cur.rest.length := by
  simp only [lowHalf, bind, Except.bind] at h
  split at h
  · simp at h
  next p hp =>
  split at h
  · simp at h
  next q hq =>
  split at h
  · simp at h
  next r hr =>
  split at h
  · simp [throw, throwThe, MonadExceptOf.throw] at h
  have := length_pairMark hp
  have := length_pairMark hq
  have := length_hexEscape hr
  obtain ⟨_, rfl⟩ := Prod.mk.inj (Except.ok.inj h)
  omega

theorem length_unicodeEscape {c : Char} {cur behind : Cursor}
    (h : unicodeEscape cur = .ok (c, behind)) : behind.rest.length ≤ cur.rest.length := by
  simp only [unicodeEscape, bind, Except.bind] at h
  split at h
  · simp at h
  next p hp =>
  have := length_hexEscape hp
  split at h
  · simp [throw, throwThe, MonadExceptOf.throw] at h
  split at h
  · obtain ⟨_, rfl⟩ := Prod.mk.inj (Except.ok.inj h)
    exact this
  · exact Nat.le_trans (length_lowHalf h) this

theorem length_escapeSequence {c : Char} {cur behind : Cursor}
    (h : escapeSequence cur = .ok (c, behind)) : behind.rest.length ≤ cur.rest.length := by
  simp only [escapeSequence] at h
  split at h
  · simp at h
  next letter cs hr =>
  rw [hr, List.length_cons]
  split at h
  · exact Nat.le_succ_of_le (length_unicodeEscape h)
  split at h
  · obtain ⟨_, rfl⟩ := Prod.mk.inj (Except.ok.inj h)
    exact Nat.le_succ _
  · simp at h

/-- The characters of a string up to its closing mark, `read` being those already read, last one
first. -/
def stringBody (read : List Char) (cur : Cursor) : Except Fault (String × Cursor) :=
  match _hr : cur.rest with
  | [] => .error (cur.here .endInString)
  | c :: cs =>
    if c = '\"' then .ok (String.ofList read.reverse, cur.past c cs)
    else if c = '\\' then
      match _he : escapeSequence (cur.past c cs) with
      | .ok (unescaped, behind) => stringBody (unescaped :: read) behind
      | .error fault => .error fault
    else if c.toNat < 0x20 then .error (cur.ahead .controlCharacter)
    else stringBody (c :: read) (cur.past c cs)
termination_by cur.rest.length
decreasing_by
  · have : behind.rest.length ≤ cs.length := length_escapeSequence _he
    rw [_hr, List.length_cons]
    omega
  · rw [_hr]
    exact Nat.lt_succ_self _

/-- A string behind its opening mark. -/
def quotedString (cur : Cursor) : Except Fault (String × Cursor) :=
  stringBody [] cur

/-! ## Documents -/

/-- The colon behind a key. -/
def colon (cur : Cursor) : Except Fault Cursor :=
  let cur := cur.skipSpace
  match cur.rest with
  | [] => .error (cur.ahead .endInObject)
  | c :: cs => if c = ':' then .ok (cur.past c cs) else .error (cur.ahead .expectedColon)

/-- The key of an entry and its colon. -/
def key (cur : Cursor) : Except Fault (String × Cursor) :=
  match cur.rest with
  | [] => .error (cur.ahead .endInValue)
  | c :: cs =>
    if c = '\"' then do
      let (name, behind) ← quotedString (cur.past c cs)
      let behind ← colon behind
      return (name, behind)
    else .error (cur.ahead (if c = '\x7d' then .trailingComma else .keyNotString))

mutual

/-- A value, where `room` is one more than the number of containers that may still be opened. -/
def value (fuel room : Nat) (cur : Cursor) : Except Fault (Json × Cursor) :=
  match fuel with
  | 0 => .error (cur.ahead .tooDeep)
  | fuel + 1 =>
    let cur := cur.skipSpace
    match cur.rest with
    | [] => .error (cur.ahead .endInValue)
    | c :: cs =>
      let behind := cur.past c cs
      if c = 'n' then word .null ['u', 'l', 'l'] behind
      else if c = 't' then word (.bool true) ['r', 'u', 'e'] behind
      else if c = 'f' then word (.bool false) ['a', 'l', 's', 'e'] behind
      else if c = '-' then number true behind
      else if c.isDigit then number false cur
      else if c = '\"' then (quotedString behind).map fun r => (.string r.1, r.2)
      else if c = '[' then
        if room ≤ 1 then .error (cur.ahead .tooDeep)
        else firstItem fuel (room - 1) behind
      else if c = '\x7b' then
        if room ≤ 1 then .error (cur.ahead .tooDeep)
        else firstEntry fuel (room - 1) behind
      else .error (cur.ahead .expectedValue)

def firstItem (fuel room : Nat) (cur : Cursor) : Except Fault (Json × Cursor) :=
  match fuel with
  | 0 => .error (cur.ahead .tooDeep)
  | fuel + 1 =>
    let cur := cur.skipSpace
    match cur.rest with
    | [] => .error (cur.ahead .endInList)
    | c :: cs =>
      if c = ']' then .ok (.array [], cur.past c cs)
      else do
        let (item, behind) ← value fuel room cur
        moreItems fuel room [item] behind

/-- The items behind those already read, last one first. -/
def moreItems (fuel room : Nat) (read : List Json) (cur : Cursor) : Except Fault (Json × Cursor) :=
  match fuel with
  | 0 => .error (cur.ahead .tooDeep)
  | fuel + 1 =>
    let cur := cur.skipSpace
    match cur.rest with
    | [] => .error (cur.ahead .endInList)
    | c :: cs =>
      if c = ']' then .ok (.array read.reverse, cur.past c cs)
      else if c = ',' then
        let next := (cur.past c cs).skipSpace
        match next.rest with
        | [] => .error (next.ahead .endInValue)
        | d :: _ =>
          if d = ']' then .error (next.ahead .trailingComma)
          else do
            let (item, behind) ← value fuel room next
            moreItems fuel room (item :: read) behind
      else .error (cur.ahead .expectedListComma)

def firstEntry (fuel room : Nat) (cur : Cursor) : Except Fault (Json × Cursor) :=
  match fuel with
  | 0 => .error (cur.ahead .tooDeep)
  | fuel + 1 =>
    let cur := cur.skipSpace
    match cur.rest with
    | [] => .error (cur.ahead .endInObject)
    | c :: cs =>
      if c = '\x7d' then .ok (.object [], cur.past c cs)
      else do
        let (name, behind) ← key cur
        let (item, behind) ← value fuel room behind
        moreEntries fuel room (Dict.empty.insert name item) behind

/-- The entries behind those already read. -/
def moreEntries (fuel room : Nat) (read : Dict Json) (cur : Cursor) :
    Except Fault (Json × Cursor) :=
  match fuel with
  | 0 => .error (cur.ahead .tooDeep)
  | fuel + 1 =>
    let cur := cur.skipSpace
    match cur.rest with
    | [] => .error (cur.ahead .endInObject)
    | c :: cs =>
      if c = '\x7d' then .ok (.object read.entries, cur.past c cs)
      else if c = ',' then do
        let (name, behind) ← key (cur.past c cs).skipSpace
        let (item, behind) ← value fuel room behind
        moreEntries fuel room (read.insert name item) behind
      else .error (cur.ahead .expectedObjectComma)

end

/-- One document and nothing else. Every call reads a character or follows one that did, so twice
the length is enough fuel. -/
def document (cs : List Char) : Except Fault Json := do
  let (j, behind) ← value (2 * cs.length + 2) 128 ⟨0, cs⟩
  let behind := behind.skipSpace
  if behind.rest.isEmpty then return j else throw (behind.ahead .trailingCharacters)

def read (text : String) : Except Error Json :=
  match document text.toList with
  | .ok j => .ok j
  | .error fault =>
    let (line, column) := locate fault.bytes 1 0 text.toList
    .error ⟨fault.flaw, line, column⟩

end LayerScript.Json
