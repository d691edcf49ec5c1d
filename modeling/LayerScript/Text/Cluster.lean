import LayerScript.Text.BreakClass

/-!
# Clusters

A cluster is what a reader takes for one character: a letter with its marks, a syllable, a flag, a
joined picture. `clusters` divides a text into them; `flatten_clusters` says that nothing is lost
and `ne_nil_of_mem_clusters` that no cluster is empty.
-/

namespace LayerScript.Text

namespace BreakClass

/-- Whether a character is alone in its cluster; a line feed may follow a carriage return. -/
def isAlone (k : BreakClass) : Bool :=
  k = .carriageReturn || k = .lineFeed || k = .control

/-- Whether a character is a mark without a width of its own. -/
def isMark (k : BreakClass) : Bool :=
  k = .extender || k = .linker || k = .nonJoiner

end BreakClass

/-- What a text ends with. -/
structure Ending where
  last : BreakClass
  /-- A pictograph, then marks, then perhaps a joiner. -/
  pictograph : Bool
  /-- An odd number of halves of flags. -/
  halfFlag : Bool
  /-- A consonant, then extenders, linkers and joiners. -/
  consonant : Bool
  /-- A linker among them. -/
  linked : Bool

namespace Ending

def ofClass (k : BreakClass) : Ending :=
  ⟨k, k = .pictograph, k = .regional, k = .consonant, false⟩

def after (e : Ending) (k : BreakClass) : Ending where
  last := k
  pictograph :=
    k = .pictograph || e.pictograph && e.last ≠ .joiner && (k.isMark || k = .joiner)
  halfFlag := k = .regional && !e.halfFlag
  consonant := k = .consonant || e.consonant && (k = .extender || k = .linker || k = .joiner)
  linked := e.consonant && (k = .linker || e.linked && (k = .extender || k = .joiner))

/-- Whether a character belongs to the cluster before it. -/
def joins (e : Ending) (k : BreakClass) : Bool :=
  if e.last = .carriageReturn && k = .lineFeed then true
  else if e.last.isAlone || k.isAlone then false
  else if k.isMark || k = .joiner || k = .spacingMark || e.last = .prepended then true
  else
    match k with
    | .leadingConsonant | .openSyllable | .closedSyllable => e.last = .leadingConsonant
    | .vowel => e.last = .leadingConsonant || e.last = .vowel || e.last = .openSyllable
    | .trailingConsonant =>
      e.last = .vowel || e.last = .openSyllable || e.last = .trailingConsonant ||
        e.last = .closedSyllable
    | .consonant => e.linked
    | .pictograph => e.last = .joiner && e.pictograph
    | .regional => e.halfFlag
    | _ => false

end Ending

/-- The cluster that has `before`, last character first, and the clusters after it. -/
def clustersFrom (e : Ending) (before : List Char) : List Char → List (List Char)
  | [] => [before.reverse]
  | c :: cs =>
    let k := breakClass c
    if e.joins k then clustersFrom (e.after k) (c :: before) cs
    else before.reverse :: clustersFrom (e.after k) [c] cs

def clusters : List Char → List (List Char)
  | [] => []
  | c :: cs => clustersFrom (.ofClass (breakClass c)) [c] cs

theorem flatten_clustersFrom (e : Ending) (before cs : List Char) :
    (clustersFrom e before cs).flatten = before.reverse ++ cs := by
  induction cs generalizing e before with
  | nil => simp [clustersFrom]
  | cons c cs ih =>
    rw [clustersFrom]
    split <;> simp [ih]

@[simp] theorem flatten_clusters (cs : List Char) : (clusters cs).flatten = cs := by
  cases cs with
  | nil => rfl
  | cons c cs => exact flatten_clustersFrom ..

theorem ne_nil_of_mem_clustersFrom {e : Ending} {c : Char} {before cs cluster : List Char}
    (h : cluster ∈ clustersFrom e (c :: before) cs) : cluster ≠ [] := by
  induction cs generalizing e c before with
  | nil => simp_all [clustersFrom]
  | cons d cs ih =>
    rw [clustersFrom] at h
    split at h
    · exact ih h
    · rcases List.mem_cons.1 h with rfl | h
      · simp
      · exact ih h

theorem ne_nil_of_mem_clusters {cs cluster : List Char} (h : cluster ∈ clusters cs) :
    cluster ≠ [] := by
  cases cs with
  | nil => cases h
  | cons c cs => exact ne_nil_of_mem_clustersFrom h

end LayerScript.Text
