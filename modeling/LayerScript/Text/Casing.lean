import LayerScript.Text.CaseTables

/-!
# Upper and lower case of a text

`uppercase` and `lowercase` use the full case mappings, so the result may be longer than the
text. Capital sigma becomes final sigma at the end of a word.
-/

namespace LayerScript.Text

def upperForm (c : Char) : List Char :=
  if c.toNat < 0x80 then [c.toUpper]
  else match upperExpansions.lookup c.toNat with
    | some codes => codes.map Char.ofNat
    | none => [(upperRuns.findSome? (·.image? c)).getD c]

/-- A dotted capital I keeps its dot as a combining mark. -/
def lowerForm (c : Char) : List Char :=
  if c.toNat < 0x80 then [c.toLower]
  else if c.toNat = 0x130 then ['i', Char.ofNat 0x307]
  else [(lowerRuns.findSome? (·.image? c)).getD c]

def uppercase (cs : List Char) : List Char :=
  cs.flatMap upperForm

/-- Whether the first character that is not case-ignorable has case. -/
def reachesCased (cs : List Char) : Bool :=
  match cs.dropWhile caseIgnorableRanges.holds with
  | [] => false
  | c :: _ => casedRanges.holds c

/-- A capital sigma ends a word when a cased letter comes before it and none after it. -/
def endsWord (before after : List Char) : Bool :=
  reachesCased before && !reachesCased after

/-- Lower case of `cs`, where `before` holds the characters already read, last one first. -/
def lowercaseAfter (before : List Char) : List Char → List Char
  | [] => []
  | c :: cs =>
    let form :=
      if c.toNat = 0x3A3 then [if endsWord before cs then Char.ofNat 0x3C2 else Char.ofNat 0x3C3]
      else lowerForm c
    form ++ lowercaseAfter (c :: before) cs

def lowercase (cs : List Char) : List Char :=
  lowercaseAfter [] cs

end LayerScript.Text
