/-!
# Lists of entries

Pairs of a text key and a value, in order. `putEntry` writes to the first entry of a key or
appends one; `valueOf?_putEntry` says what can be read afterwards.
-/

namespace LayerScript

universe u

variable {α : Type u}

/-- Replaces the value of a key in place, or appends the key. -/
def putEntry (key : String) (value : α) : List (String × α) → List (String × α)
  | [] => [(key, value)]
  | e :: es => if e.1 = key then (key, value) :: es else e :: putEntry key value es

/-- The value of a key. -/
def valueOf? (key : String) : List (String × α) → Option α
  | [] => none
  | e :: es => if e.1 = key then some e.2 else valueOf? key es

theorem valueOf?_putEntry (key k : String) (value : α) (es : List (String × α)) :
    valueOf? k (putEntry key value es) = if key = k then some value else valueOf? k es := by
  induction es with
  | nil => simp [putEntry, valueOf?]
  | cons e es ih =>
    by_cases he : e.1 = key
    · by_cases hk : key = k <;> simp [putEntry, valueOf?, he, hk]
    · by_cases hk : e.1 = k
      · subst hk
        simp [putEntry, valueOf?, he, Ne.symm he]
      · simp [putEntry, valueOf?, he, hk, ih]

theorem keys_putEntry (key : String) (value : α) (es : List (String × α)) :
    (putEntry key value es).map Prod.fst =
      if key ∈ es.map Prod.fst then es.map Prod.fst else es.map Prod.fst ++ [key] := by
  induction es with
  | nil => simp [putEntry]
  | cons e es ih =>
    by_cases h : e.1 = key
    · simp [putEntry, h]
    · have h' : ¬ key = e.1 := fun eq => h eq.symm
      by_cases m : key ∈ es.map Prod.fst <;> simp_all [putEntry]

theorem putEntry_of_absent {key : String} {es : List (String × α)}
    (h : ∀ e ∈ es, e.1 ≠ key) (value : α) : putEntry key value es = es ++ [(key, value)] := by
  induction es with
  | nil => rfl
  | cons e es ih =>
    rw [putEntry, if_neg (h e List.mem_cons_self), ih fun x hx => h x (List.mem_cons_of_mem _ hx),
      List.cons_append]

theorem putEntry_of_first {key : String} {before : List (String × α)}
    (h : ∀ e ∈ before, e.1 ≠ key) (old value : α) (after : List (String × α)) :
    putEntry key value (before ++ (key, old) :: after) = before ++ (key, value) :: after := by
  induction before with
  | nil => simp [putEntry]
  | cons e es ih =>
    rw [List.cons_append, putEntry, if_neg (h e List.mem_cons_self),
      ih fun x hx => h x (List.mem_cons_of_mem _ hx), List.cons_append]

theorem valueOf?_of_absent {key : String} {es : List (String × α)} (h : ∀ e ∈ es, e.1 ≠ key) :
    valueOf? key es = none := by
  induction es with
  | nil => rfl
  | cons e es ih =>
    rw [valueOf?, if_neg (h e List.mem_cons_self), ih fun x hx => h x (List.mem_cons_of_mem _ hx)]

theorem valueOf?_of_first {key : String} {before : List (String × α)}
    (h : ∀ e ∈ before, e.1 ≠ key) (value : α) (after : List (String × α)) :
    valueOf? key (before ++ (key, value) :: after) = some value := by
  induction before with
  | nil => simp [valueOf?]
  | cons e es ih =>
    rw [List.cons_append, valueOf?, if_neg (h e List.mem_cons_self),
      ih fun x hx => h x (List.mem_cons_of_mem _ hx)]

end LayerScript
