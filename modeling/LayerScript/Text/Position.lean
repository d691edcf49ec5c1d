/-!
# Spans and positions

A span is a pair of byte offsets into the UTF-8 form of a text. A position is the line and column
of a byte offset, both counted from one, the column in characters.
-/

namespace LayerScript

structure Span where
  start : Nat
  stop : Nat
deriving DecidableEq, Repr, Inhabited

/-- Moves a span towards the start of the text, as far as the start. -/
def Span.shiftBack (span : Span) (bytes : Nat) : Span :=
  ⟨span.start - bytes, span.stop - bytes⟩

/-- The span from the start of the first to the end of the second. -/
def Span.through (first last : Span) : Span :=
  ⟨first.start, last.stop⟩

structure Position where
  line : Nat
  column : Nat
deriving DecidableEq, Repr, Inhabited

namespace Position

def first : Position := ⟨1, 1⟩

/-- The position after a character. -/
def after (p : Position) (c : Char) : Position :=
  if c = '\n' then ⟨p.line + 1, 1⟩ else ⟨p.line, p.column + 1⟩

/-- Moves over the characters of `cs`, the first of which is at byte `offset`, that begin before
byte `target`. -/
def advance (target : Nat) : List Char → Nat → Position → Position
  | [], _, p => p
  | c :: cs, offset, p =>
    if target ≤ offset then p else advance target cs (offset + c.utf8Size) (p.after c)

end Position

/-- The position in `source` of the start of a span. -/
def Span.position (span : Span) (source : String) : Position :=
  Position.advance span.start source.toList 0 Position.first

namespace Text

def byteLength : List Char → Nat
  | [] => 0
  | c :: cs => c.utf8Size + byteLength cs

end Text

end LayerScript
