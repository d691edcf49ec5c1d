/-!
# The characters of a string

`charAt?` finds a character without taking the string apart; `charAt?_eq` says that it is the
element of the list of characters.
-/

namespace LayerScript.Text

/-- The character that has `i` characters before it. -/
def charAt? (t : String) (i : Nat) : Option Char :=
  let place := t.startPos.nextn i
  if h : place = t.endPos then none else some (place.get h)

theorem charAt?_eq (t : String) (i : Nat) : charAt? t i = t.toList[i]? := by
  have splits := t.splits_startPos.nextn i
  simp only [charAt?]
  split
  next h =>
    have none_left := splits.eq_endPos_iff.1 h
    have := congrArg String.toList none_left
    simp at this
    simp [this]
  next h =>
    obtain ⟨rest, hr⟩ := splits.exists_eq_singleton_append h
    have := congrArg String.toList hr
    simp at this
    rw [← List.head?_drop, this]
    rfl

end LayerScript.Text
