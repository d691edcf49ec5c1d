/-!
# Finding a text inside another

Occurrences are found from left to right and do not overlap. `cutAt?` says what the first one is.
`cut?` looks for it by fingerprints, so that a long pattern is not compared with every part of the
text; `cut?_eq` says that it finds the same.
-/

namespace LayerScript.Text

/-- The text before the first occurrence of `pattern` and the text after it. -/
def cutAt? (pattern : List Char) : List Char → Option (List Char × List Char)
  | [] => if pattern.isEmpty then some ([], []) else none
  | c :: cs =>
    if pattern.isPrefixOf (c :: cs) then some ([], (c :: cs).drop pattern.length)
    else (cutAt? pattern cs).map fun parts => (c :: parts.1, parts.2)

theorem append_of_cutAt? {pattern cs piece rest : List Char}
    (h : cutAt? pattern cs = some (piece, rest)) : piece ++ (pattern ++ rest) = cs := by
  fun_induction cutAt? pattern cs generalizing piece with
  | case1 hp => simp_all
  | case2 hp => simp at h
  | case3 c cs hp =>
    obtain ⟨rfl, rfl⟩ := Prod.mk.inj (Option.some.inj h)
    obtain ⟨after, ha⟩ := List.isPrefixOf_iff_prefix.1 hp
    rw [← ha, List.drop_left]
    rfl
  | case4 c cs hp ih =>
    obtain ⟨⟨before, behind⟩, hb, he⟩ := Option.map_eq_some_iff.1 h
    obtain ⟨rfl, rfl⟩ := Prod.mk.inj he
    rw [List.cons_append, ih hb]

theorem length_cutAt? {c : Char} {pattern cs piece rest : List Char}
    (h : cutAt? (c :: pattern) cs = some (piece, rest)) : rest.length < cs.length := by
  rw [← append_of_cutAt? h]
  simp only [List.length_append, List.length_cons]
  omega

theorem cutAt?_of_length_lt {pattern cs : List Char} (h : cs.length < pattern.length) :
    cutAt? pattern cs = none := by
  cases hc : cutAt? pattern cs with
  | none => rfl
  | some parts =>
    have := congrArg List.length (append_of_cutAt? hc)
    simp only [List.length_append] at this
    omega

/-! ## Fingerprints -/

def fingerprintBase : UInt64 := 1000003

/-- The value of the digit that has `n` digits behind it. -/
def digitWeight : (n : Nat) → UInt64
  | 0 => 1
  | n + 1 => digitWeight n * fingerprintBase

/-- The characters as digits of a number of 64 bits. Few texts of one length have the same. -/
def fingerprint (cs : List Char) : UInt64 :=
  cs.foldl (fun sum c => sum * fingerprintBase + c.val.toUInt64) 0

theorem foldl_fingerprint (sum : UInt64) (cs : List Char) :
    cs.foldl (fun sum c => sum * fingerprintBase + c.val.toUInt64) sum =
      sum * digitWeight cs.length + fingerprint cs := by
  rw [fingerprint]
  induction cs generalizing sum with
  | nil => simp [digitWeight]
  | cons c cs ih =>
    rw [List.foldl_cons, List.foldl_cons, ih, ih (0 * fingerprintBase + c.val.toUInt64),
      List.length_cons, digitWeight]
    grind

/-- Moves the window by one character: `c` leaves it and `d` comes in. -/
theorem fingerprint_concat (c d : Char) (cs : List Char) : fingerprint (cs ++ [d]) =
    (fingerprint (c :: cs) - c.val.toUInt64 * digitWeight cs.length) * fingerprintBase +
      d.val.toUInt64 := by
  have leaves : fingerprint (c :: cs) =
      c.val.toUInt64 * digitWeight cs.length + fingerprint cs := by
    rw [fingerprint, List.foldl_cons, foldl_fingerprint]
    simp
  have comes : fingerprint (cs ++ [d]) = fingerprint cs * fingerprintBase + d.val.toUInt64 := by
    simp [fingerprint]
  rw [comes, leaves]
  grind

/-- Moves a window of the text forward: `window` is its fingerprint, the second list begins with
it, and the third is what follows it. -/
def cutFrom? (pattern : List Char) (goal weight window : UInt64) :
    List Char → List Char → Option (List Char × List Char)
  | cs, ahead =>
    if window = goal ∧ pattern.isPrefixOf cs then some ([], ahead)
    else
      match cs, ahead with
      | c :: cs, d :: ahead =>
        let next := (window - c.val.toUInt64 * weight) * fingerprintBase + d.val.toUInt64
        (cutFrom? pattern goal weight next cs ahead).map fun parts => (c :: parts.1, parts.2)
      | _, _ => none

/-- The text before the first occurrence of `pattern` and the text after it. -/
def cut? (pattern cs : List Char) : Option (List Char × List Char) :=
  cutFrom? pattern (fingerprint pattern) (digitWeight (pattern.length - 1))
    (fingerprint (cs.take pattern.length)) cs (cs.drop pattern.length)

theorem cut?_eq (pattern cs : List Char) : cut? pattern cs = cutAt? pattern cs := by
  rw [cut?]
  induction cs with
  | nil => cases pattern <;> simp [cutFrom?, cutAt?, fingerprint]
  | cons c cs ih =>
    unfold cutFrom?
    rw [cutAt?]
    by_cases hp : pattern.isPrefixOf (c :: cs)
    · have window : (c :: cs).take pattern.length = pattern :=
        (List.prefix_iff_eq_take.1 (List.isPrefixOf_iff_prefix.1 hp)).symm
      rw [if_pos hp, if_pos ⟨congrArg fingerprint window, hp⟩]
    · rw [if_neg hp, if_neg fun h => hp h.2]
      cases pattern with
      | nil => simp at hp
      | cons p ps =>
        cases hd : cs.drop ps.length with
        | nil =>
          have short : cs.length < (p :: ps).length := by
            simpa [Nat.lt_succ_iff] using hd
          simp [hd, cutAt?_of_length_lt short]
        | cons d ahead =>
          have after : cs.drop (ps.length + 1) = ahead := by
            rw [← List.drop_drop, hd]
            rfl
          have within : (cs.take ps.length).length = ps.length := by
            have := congrArg List.length hd
            simp at this ⊢
            omega
          have window : cs.take (ps.length + 1) = cs.take ps.length ++ [d] := by
            rw [List.take_add_one, ← List.head?_drop, hd]
            rfl
          rw [List.length_cons, after, window, fingerprint_concat c d, within] at ih
          simp only [List.length_cons, List.take_succ_cons, List.drop_succ_cons, hd]
          exact congrArg _ ih

/-! ## Pieces -/

def contains (pattern cs : List Char) : Bool :=
  (cut? pattern cs).isSome

/-- The pieces between the occurrences of the separator `c :: separator`. -/
def splitAt (c : Char) (separator cs : List Char) : List (List Char) :=
  match _h : cut? (c :: separator) cs with
  | none => [cs]
  | some (piece, rest) => piece :: splitAt c separator rest
termination_by cs.length
decreasing_by exact length_cutAt? (cut?_eq .. ▸ _h)

/-- Puts `new` before every character and at the end. -/
def interleave (new : List Char) : List Char → List Char
  | [] => new
  | c :: cs => new ++ c :: interleave new cs

/-- Texts with a separator between neighbours. -/
def join (separator : List Char) (pieces : List (List Char)) : List Char :=
  (pieces.intersperse separator).flatten

/-- Writes `new` for every occurrence of `c :: pattern`. -/
def substitute (c : Char) (pattern new cs : List Char) : List Char :=
  match _h : cut? (c :: pattern) cs with
  | none => cs
  | some (piece, rest) => piece ++ (new ++ substitute c pattern new rest)
termination_by cs.length
decreasing_by exact length_cutAt? (cut?_eq .. ▸ _h)

/-- Writes `new` for every occurrence of `pattern`; the empty pattern occurs between any two
characters and at both ends. -/
def replace (pattern new cs : List Char) : List Char :=
  match pattern with
  | [] => interleave new cs
  | c :: pattern => substitute c pattern new cs

end LayerScript.Text
