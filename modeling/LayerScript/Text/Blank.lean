import LayerScript.Text.Ranges

/-!
# Blank characters

The Unicode property White_Space, which separates tokens and is trimmed from the ends of texts.
-/

namespace LayerScript.Text

def blankRanges : Ranges := [
    (0x9, 0xD), (0x20, 0x20), (0x85, 0x85), (0xA0, 0xA0), (0x1680, 0x1680), (0x2000, 0x200A),
    (0x2028, 0x2029), (0x202F, 0x202F), (0x205F, 0x205F), (0x3000, 0x3000)]

def isBlank (c : Char) : Bool :=
  blankRanges.holds c

theorem isBlank_of_isWhitespace {c : Char} (h : c.isWhitespace = true) : isBlank c = true := by
  simp only [Char.isWhitespace, Bool.or_eq_true, decide_eq_true_eq] at h
  rcases h with ((rfl | rfl) | rfl) | rfl <;> decide

/-- Drops blank characters from both ends. -/
def trim (cs : List Char) : List Char :=
  ((cs.dropWhile isBlank).reverse.dropWhile isBlank).reverse

/-- The text before the first blank character and the text after it. -/
def splitAtBlank? : List Char → Option (List Char × List Char)
  | [] => none
  | c :: cs =>
    if isBlank c then some ([], cs)
    else (splitAtBlank? cs).map fun parts => (c :: parts.1, parts.2)

end LayerScript.Text
