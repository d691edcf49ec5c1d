import LayerScript.Dict.Entries
import Std.Data.TreeMap.Lemmas

/-!
# Dictionaries in insertion order

A `Dict` maps text keys to values and remembers the order in which keys were first inserted. Each
key occurs once. Writing to a key that is present keeps its place. What a dictionary holds is its
list of entries; `entries_insert`, `entries_erase` and `find?_eq` say what the operations do to it.
-/

namespace LayerScript

universe u

variable {α : Type u}

/-! ## Slots -/

/-- The entries in slots, some of which are empty. -/
def filled (slots : Array (Option (String × α))) : List (String × α) :=
  slots.toList.filterMap id

theorem filled_push (slots : Array (Option (String × α))) (e : String × α) :
    filled (slots.push (some e)) = filled slots ++ [e] := by
  simp [filled]

/-- The slots before and behind a filled one. -/
theorem filled_around {slots : Array (Option (String × α))} {i : Nat} {e : String × α}
    (h : slots[i]? = some (some e)) :
    filled slots = (slots.toList.take i).filterMap id ++
      e :: (slots.toList.drop (i + 1)).filterMap id := by
  obtain ⟨hi, he⟩ := Array.getElem?_eq_some_iff.1 h
  have split : slots.toList = slots.toList.take i ++ some e :: slots.toList.drop (i + 1) := by
    rw [← he, ← Array.getElem_toList hi, ← List.drop_eq_getElem_cons, List.take_append_drop]
  rw [filled]
  conv => lhs; rw [split]
  rw [List.filterMap_append]
  rfl

theorem filled_set {slots : Array (Option (String × α))} {i : Nat} (hi : i < slots.size)
    (slot : Option (String × α)) :
    filled (slots.setIfInBounds i slot) = (slots.toList.take i).filterMap id ++
      (slot.toList ++ (slots.toList.drop (i + 1)).filterMap id) := by
  rw [filled, Array.toList_setIfInBounds, List.set_eq_take_append_cons_drop,
    if_pos (by simpa using hi), List.filterMap_append]
  cases slot <;> simp

/-! ## Dictionaries -/

/-- Entries in slots in order of insertion, where an erased entry leaves its slot empty, and the
slot of each key. -/
structure Dict (α : Type u) where
  slots : Array (Option (String × α))
  places : Std.TreeMap String Nat
  placed : ∀ (key : String) (i : Nat),
    places[key]? = some i ↔ ∃ value, slots[i]? = some (some (key, value))
  sized : places.size = (filled slots).length

namespace Dict

/-- What a dictionary holds, in order. -/
def entries (d : Dict α) : List (String × α) :=
  filled d.slots

theorem mem_take {d : Dict α} {n : Nat} {e : String × α}
    (h : e ∈ (d.slots.toList.take n).filterMap id) : ∃ i < n, d.places[e.1]? = some i := by
  obtain ⟨slot, hs, rfl⟩ := List.mem_filterMap.1 h
  obtain ⟨i, hi, he⟩ := List.mem_iff_getElem.1 hs
  rw [List.length_take, Nat.lt_min] at hi
  refine ⟨i, hi.1, (d.placed _ _).2 ⟨e.2, ?_⟩⟩
  rw [List.getElem_take, Array.getElem_toList] at he
  rw [Array.getElem?_eq_some_iff]
  exact ⟨by simpa using hi.2, he⟩

theorem mem_drop {d : Dict α} {n : Nat} {e : String × α}
    (h : e ∈ (d.slots.toList.drop n).filterMap id) : ∃ i, n ≤ i ∧ d.places[e.1]? = some i := by
  obtain ⟨slot, hs, rfl⟩ := List.mem_filterMap.1 h
  obtain ⟨i, hi, he⟩ := List.mem_iff_getElem.1 hs
  rw [List.length_drop] at hi
  refine ⟨n + i, Nat.le_add_right .., (d.placed _ _).2 ⟨e.2, ?_⟩⟩
  rw [List.getElem_drop, Array.getElem_toList] at he
  rw [Array.getElem?_eq_some_iff]
  exact ⟨by simp at hi; omega, he⟩

/-- Keys before the slot of a key differ from it. -/
theorem ne_of_mem_take {d : Dict α} {key : String} {i : Nat} (h : d.places[key]? = some i)
    (e : String × α) (he : e ∈ (d.slots.toList.take i).filterMap id) : e.1 ≠ key := by
  obtain ⟨j, hj, hp⟩ := mem_take he
  rintro rfl
  rw [h] at hp
  exact Nat.lt_irrefl _ (Option.some.inj hp ▸ hj)

theorem ne_of_mem_drop {d : Dict α} {key : String} {i : Nat} (h : d.places[key]? = some i)
    (e : String × α) (he : e ∈ (d.slots.toList.drop (i + 1)).filterMap id) : e.1 ≠ key := by
  obtain ⟨j, hj, hp⟩ := mem_drop he
  rintro rfl
  rw [h] at hp
  exact Nat.lt_irrefl _ (Option.some.inj hp ▸ hj)

theorem ne_of_mem_entries {d : Dict α} {key : String} (h : d.places[key]? = none)
    (e : String × α) (he : e ∈ d.entries) : e.1 ≠ key := by
  have he : e ∈ (d.slots.toList.drop 0).filterMap id := he
  obtain ⟨j, _, hp⟩ := mem_drop he
  rintro rfl
  simp [h] at hp

theorem exists_slot {d : Dict α} {key : String} {i : Nat} (h : d.places[key]? = some i) :
    ∃ value, d.slots[i]? = some (some (key, value)) :=
  (d.placed key i).1 h

theorem place_lt {d : Dict α} {key : String} {i : Nat} (h : d.places[key]? = some i) :
    i < d.slots.size := by
  obtain ⟨_, hv⟩ := exists_slot h
  exact (Array.getElem?_eq_some_iff.1 hv).1

/-! ### Operations -/

def empty : Dict α where
  slots := #[]
  places := ∅
  placed := by simp
  sized := rfl

instance : Inhabited (Dict α) :=
  ⟨empty⟩

def find? (d : Dict α) (key : String) : Option α :=
  match d.places[key]? with
  | some i => (d.slots[i]?.getD none).map Prod.snd
  | none => none

def contains (d : Dict α) (key : String) : Bool :=
  (d.find? key).isSome

def size (d : Dict α) : Nat :=
  d.places.size

def isEmpty (d : Dict α) : Bool :=
  d.places.isEmpty

def keys (d : Dict α) : List String :=
  d.entries.map Prod.fst

def values (d : Dict α) : List α :=
  d.entries.map Prod.snd

/-- Writes to the slot of a key that is present. -/
def replaceAt (d : Dict α) (key : String) (value : α) (i : Nat) (h : d.places[key]? = some i) :
    Dict α where
  slots := d.slots.setIfInBounds i (some (key, value))
  places := d.places
  placed k j := by
    have hi := place_lt h
    rw [Array.getElem?_setIfInBounds]
    by_cases hj : i = j
    · subst hj
      rw [if_pos rfl, if_pos hi]
      constructor
      · intro hk
        obtain ⟨v, hv⟩ := exists_slot hk
        obtain ⟨w, hw⟩ := exists_slot h
        rw [hw] at hv
        cases hv
        exact ⟨value, rfl⟩
      · rintro ⟨v, hv⟩
        cases hv
        exact h
    · rw [if_neg hj]
      exact d.placed k j
  sized := by
    obtain ⟨v, hv⟩ := exists_slot h
    rw [d.sized, filled_around hv, filled_set (place_lt h)]
    simp

/-- Appends a key that is absent, in the slot whose number is the number of slots before. -/
def append (d : Dict α) (key : String) (value : α) (place : Nat) (hp : d.slots.size = place)
    (h : d.places[key]? = none) : Dict α where
  slots := d.slots.push (some (key, value))
  places := d.places.insert key place
  placed k j := by
    subst hp
    simp only [Std.TreeMap.getElem?_insert, Std.compare_eq_iff_eq, Array.getElem?_push]
    by_cases hk : key = k
    · subst hk
      rw [if_pos rfl]
      by_cases hj : j = d.slots.size
      · simp [hj]
      · rw [if_neg hj, ← d.placed, h]
        simp [Ne.symm hj]
    · rw [if_neg hk]
      by_cases hj : j = d.slots.size
      · rw [if_pos hj]
        refine ⟨fun hp => absurd (place_lt hp) (hj ▸ Nat.lt_irrefl _), fun ⟨v, hv⟩ => ?_⟩
        simp [hk] at hv
      · rw [if_neg hj, d.placed]
  sized := by
    have absent : key ∉ d.places := by
      rw [Std.TreeMap.mem_iff_isSome_getElem?, h]
      exact Bool.false_ne_true
    simp [Std.TreeMap.size_insert, absent, filled_push, d.sized]

/-- Writes the value of a key. -/
def insert (d : Dict α) (key : String) (value : α) : Dict α :=
  match h : d.places[key]? with
  | some i => d.replaceAt key value i h
  | none => d.append key value d.slots.size rfl h

/-- Empties the slot of a key that is present. -/
def eraseAt (d : Dict α) (key : String) (i : Nat) (h : d.places[key]? = some i) : Dict α where
  slots := d.slots.setIfInBounds i none
  places := d.places.erase key
  placed k j := by
    simp only [Std.TreeMap.getElem?_erase, Std.compare_eq_iff_eq, Array.getElem?_setIfInBounds]
    by_cases hj : i = j
    · subst hj
      rw [if_pos rfl, if_pos (place_lt h)]
      refine ⟨fun hp => ?_, fun ⟨v, hv⟩ => by simp at hv⟩
      split at hp
      · simp at hp
      next hk =>
        obtain ⟨v, hv⟩ := exists_slot hp
        obtain ⟨w, hw⟩ := exists_slot h
        rw [hw] at hv
        cases hv
        exact absurd rfl hk
    · rw [if_neg hj, ← d.placed]
      by_cases hk : key = k
      · subst hk
        rw [if_pos rfl, h]
        simp [hj]
      · rw [if_neg hk]
  sized := by
    have present : d.places.contains key := by
      rw [Std.TreeMap.contains_eq_isSome_getElem?, h]
      rfl
    obtain ⟨v, hv⟩ := exists_slot h
    rw [Std.TreeMap.size_erase, if_pos present, d.sized, filled_around hv, filled_set (place_lt h)]
    simp

def erase (d : Dict α) (key : String) : Dict α :=
  match h : d.places[key]? with
  | some i => d.eraseAt key i h
  | none => d

/-- Inserts the entries from first to last. -/
def ofList (entries : List (String × α)) : Dict α :=
  entries.foldl (fun d e => d.insert e.1 e.2) empty

/-! ### What they do to the entries -/

@[simp] theorem entries_empty : (empty : Dict α).entries = [] := rfl

@[simp] theorem entries_insert (d : Dict α) (key : String) (value : α) :
    (d.insert key value).entries = putEntry key value d.entries := by
  unfold insert
  split
  next i h =>
    obtain ⟨old, ho⟩ := exists_slot h
    rw [entries, entries, replaceAt, filled_set (place_lt h), filled_around ho,
      putEntry_of_first (ne_of_mem_take h)]
    rfl
  next h =>
    rw [entries, append, filled_push, putEntry_of_absent (ne_of_mem_entries h)]
    rfl

theorem entries_erase (d : Dict α) (key : String) :
    (d.erase key).entries = d.entries.filter fun e => e.1 ≠ key := by
  unfold erase
  split
  next i h =>
    obtain ⟨old, ho⟩ := exists_slot h
    rw [entries, entries, eraseAt, filled_set (place_lt h), filled_around ho, List.filter_append,
      List.filter_eq_self.2 fun e he => decide_eq_true (ne_of_mem_take h e he),
      List.filter_cons_of_neg (by simp),
      List.filter_eq_self.2 fun e he => decide_eq_true (ne_of_mem_drop h e he)]
    rfl
  next h =>
    rw [List.filter_eq_self.2 fun e he => decide_eq_true (ne_of_mem_entries h e he)]

theorem find?_eq (d : Dict α) (key : String) : d.find? key = valueOf? key d.entries := by
  unfold find?
  split
  next i h =>
    obtain ⟨value, hv⟩ := exists_slot h
    rw [entries, filled_around hv, valueOf?_of_first (ne_of_mem_take h), hv]
    rfl
  next h => rw [valueOf?_of_absent (ne_of_mem_entries h)]

theorem size_eq (d : Dict α) : d.size = d.entries.length :=
  d.sized

theorem isEmpty_eq (d : Dict α) : d.isEmpty = d.entries.isEmpty := by
  rw [isEmpty, Std.TreeMap.isEmpty_eq_size_eq_zero, show d.places.size = _ from d.size_eq]
  cases d.entries <;> rfl

theorem nodup_keys (d : Dict α) : d.keys.Nodup := by
  rw [keys, entries, filled, List.nodup_iff_pairwise_ne, List.pairwise_map, List.pairwise_filterMap,
    List.pairwise_iff_getElem]
  intro i j hi hj hij a ha b hb eq
  have place (k : Nat) (hk : k < d.slots.toList.length) (e : String × α)
      (he : d.slots.toList[k] = some e) : d.places[e.1]? = some k :=
    (d.placed _ _).2 ⟨e.2, Array.getElem?_eq_some_iff.2 ⟨by simpa using hk, by simpa using he⟩⟩
  have hp := place i hi a ha
  rw [eq, place j hj b hb] at hp
  exact Nat.lt_irrefl _ (Option.some.inj hp ▸ hij)

theorem keys_insert (d : Dict α) (key : String) (value : α) :
    (d.insert key value).keys = if key ∈ d.keys then d.keys else d.keys ++ [key] := by
  rw [keys, entries_insert, keys_putEntry]
  rfl

end Dict

theorem Dict.find?_insert (d : Dict α) (key k : String) (value : α) :
    (d.insert key value).find? k = if key = k then some value else d.find? k := by
  rw [Dict.find?_eq, Dict.entries_insert, valueOf?_putEntry, Dict.find?_eq]

end LayerScript
