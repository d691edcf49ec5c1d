import LayerScript.Dict

/-!
# Values of dictionaries

Where the values of a dictionary come from.
-/

namespace LayerScript

universe u

variable {α : Type u}

theorem mem_of_valueOf? {key : String} {value : α} {es : List (String × α)}
    (h : valueOf? key es = some value) : (key, value) ∈ es := by
  induction es with
  | nil => simp [valueOf?] at h
  | cons e es ih =>
    rw [valueOf?] at h
    split at h
    · next he =>
      obtain rfl := Option.some.inj h
      rw [← he]
      exact List.mem_cons_self
    · exact List.mem_cons_of_mem _ (ih h)

theorem valueOf?_of_mem {key : String} {value : α} {es : List (String × α)}
    (nodup : (es.map Prod.fst).Nodup) (h : (key, value) ∈ es) : valueOf? key es = some value := by
  induction es with
  | nil => exact absurd h List.not_mem_nil
  | cons e es ih =>
    rw [List.map_cons, List.nodup_cons] at nodup
    rw [valueOf?]
    rcases List.mem_cons.1 h with rfl | behind
    · exact if_pos rfl
    · rw [if_neg, ih nodup.2 behind]
      intro same
      exact nodup.1 (same ▸ List.mem_map_of_mem behind)

theorem valueOf?_append (key : String) (es es' : List (String × α)) :
    valueOf? key (es ++ es') = (valueOf? key es).or (valueOf? key es') := by
  induction es with
  | nil => rfl
  | cons e es ih =>
    rw [List.cons_append, valueOf?, valueOf?]
    split
    · rfl
    · exact ih

theorem valueOf?_eq_none_iff {key : String} {es : List (String × α)} :
    valueOf? key es = none ↔ key ∉ es.map Prod.fst := by
  induction es with
  | nil => simp [valueOf?]
  | cons e es ih =>
    rw [valueOf?, List.map_cons, List.mem_cons, not_or, ← ih]
    by_cases he : e.1 = key
    · simp [he]
    · simp [he, Ne.symm he]

/-- Where no key is repeated, the order does not matter. -/
theorem valueOf?_reverse {key : String} {es : List (String × α)}
    (nodup : (es.map Prod.fst).Nodup) : valueOf? key es.reverse = valueOf? key es := by
  have nodup' : (es.reverse.map Prod.fst).Nodup :=
    ((List.reverse_perm es).map Prod.fst).nodup_iff.2 nodup
  refine Option.ext fun value => ⟨fun h => ?_, fun h => ?_⟩
  · exact valueOf?_of_mem nodup (List.mem_reverse.1 (mem_of_valueOf? h))
  · exact valueOf?_of_mem nodup' (List.mem_reverse.2 (mem_of_valueOf? h))

theorem mem_putEntry {key : String} {value : α} {es : List (String × α)} {e : String × α}
    (h : e ∈ putEntry key value es) : e = (key, value) ∨ e ∈ es := by
  induction es with
  | nil =>
    rw [putEntry, List.mem_singleton] at h
    exact .inl h
  | cons first es ih =>
    rw [putEntry] at h
    split at h
    · rcases List.mem_cons.1 h with rfl | h
      · exact .inl rfl
      · exact .inr (List.mem_cons_of_mem _ h)
    · rcases List.mem_cons.1 h with rfl | h
      · exact .inr List.mem_cons_self
      · exact (ih h).imp_right (List.mem_cons_of_mem _)

theorem valueOf?_map {β : Type u} (f : α → β) (key : String) (es : List (String × α)) :
    valueOf? key (es.map fun e => (e.1, f e.2)) = (valueOf? key es).map f := by
  induction es with
  | nil => rfl
  | cons e es ih =>
    simp only [List.map_cons, valueOf?]
    split
    · rfl
    · exact ih

namespace Dict

variable {d : Dict α}

theorem mem_values {value : α} : value ∈ d.values ↔ ∃ key, (key, value) ∈ d.entries := by
  simp [values]

theorem mem_entries {key : String} {value : α} :
    (key, value) ∈ d.entries ↔ d.find? key = some value := by
  rw [find?_eq]
  exact ⟨valueOf?_of_mem d.nodup_keys, mem_of_valueOf?⟩

theorem mem_keys_of_find? {key : String} {value : α} (h : d.find? key = some value) :
    key ∈ d.keys :=
  List.mem_map_of_mem (f := Prod.fst) (mem_entries.2 h)

theorem mem_values_of_find? {key : String} {value : α} (h : d.find? key = some value) :
    value ∈ d.values := by
  rw [find?_eq] at h
  exact mem_values.2 ⟨key, mem_of_valueOf? h⟩

theorem entries_insert_of_absent {key : String} (h : key ∉ d.keys) (value : α) :
    (d.insert key value).entries = d.entries ++ [(key, value)] := by
  rw [entries_insert, putEntry_of_absent]
  rintro e he rfl
  exact h (List.mem_map_of_mem he)

theorem mem_values_insert {key : String} {value v : α} (h : v ∈ (d.insert key value).values) :
    v = value ∨ v ∈ d.values := by
  obtain ⟨k, hk⟩ := mem_values.1 h
  rw [entries_insert] at hk
  rcases mem_putEntry hk with he | he
  · exact .inl (Prod.mk.inj he).2
  · exact .inr (mem_values.2 ⟨k, he⟩)

theorem mem_values_erase {key : String} {v : α} (h : v ∈ (d.erase key).values) :
    v ∈ d.values := by
  obtain ⟨k, hk⟩ := mem_values.1 h
  rw [entries_erase] at hk
  exact mem_values.2 ⟨k, (List.mem_filter.1 hk).1⟩

@[simp] theorem values_empty : (empty : Dict α).values = [] := rfl

/-- Entries that are written one after the other leave the last value of each key. -/
theorem find?_foldl (d : Dict α) (entries : List (String × α)) (key : String) :
    (entries.foldl (fun d e => d.insert e.1 e.2) d).find? key =
      (valueOf? key entries.reverse).or (d.find? key) := by
  induction entries generalizing d with
  | nil => rfl
  | cons e es ih =>
    rw [List.foldl_cons, ih, find?_insert, List.reverse_cons, valueOf?_append, Option.or_assoc]
    congr 1
    by_cases he : e.1 = key <;> simp [valueOf?, he]

theorem find?_ofList {entries : List (String × α)} (nodup : (entries.map Prod.fst).Nodup)
    (key : String) : (ofList entries).find? key = valueOf? key entries := by
  rw [ofList, find?_foldl, valueOf?_reverse nodup]
  simp [find?_eq, valueOf?]

theorem entries_foldl {entries : List (String × α)}
    (nodup : (d.keys ++ entries.map Prod.fst).Nodup) :
    (entries.foldl (fun d e => d.insert e.1 e.2) d).entries = d.entries ++ entries := by
  induction entries generalizing d with
  | nil => simp
  | cons e es ih =>
    have absent : e.1 ∉ d.keys := fun mem =>
      (List.nodup_append.1 nodup).2.2 e.1 mem e.1 List.mem_cons_self rfl
    have rest : ((d.insert e.1 e.2).keys ++ es.map Prod.fst).Nodup := by
      simpa [keys_insert, absent] using nodup
    rw [List.foldl_cons, ih rest, entries_insert_of_absent absent, List.append_assoc]
    rfl

theorem entries_ofList {entries : List (String × α)} (nodup : (entries.map Prod.fst).Nodup) :
    (ofList entries).entries = entries :=
  entries_foldl (d := empty) nodup

theorem mem_values_foldl {entries : List (String × α)} {v : α}
    (h : v ∈ (entries.foldl (fun d e => d.insert e.1 e.2) d).values) :
    v ∈ d.values ∨ v ∈ entries.map Prod.snd := by
  induction entries generalizing d with
  | nil => exact .inl h
  | cons e es ih =>
    rcases ih h with h | h
    · rcases mem_values_insert h with rfl | h
      · exact .inr (by simp)
      · exact .inl h
    · exact .inr (List.mem_cons_of_mem _ h)

theorem mem_values_ofList {entries : List (String × α)} {v : α} (h : v ∈ (ofList entries).values) :
    v ∈ entries.map Prod.snd := by
  rcases mem_values_foldl h with h | h
  · simp at h
  · exact h

end Dict

end LayerScript
