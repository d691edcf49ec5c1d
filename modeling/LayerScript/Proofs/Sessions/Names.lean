import LayerScript.Proofs.Documents
import LayerScript.Proofs.Isolation
import LayerScript.Proofs.Sessions.Layers
import LayerScript.Proofs.Stopping

/-!
# The names that a session binds

With the standard names a script is given the layers with data that count as true, then an array of
them and the scratch layer. All these names are identifiers and differ from each other, so that a
script that cannot be read has a fault of its own.
-/

namespace LayerScript

theorem Bindings.entries_ofList (s : Store) (layers : List (String × Ref)) :
    (Bindings.ofList s layers).1.entries (Bindings.ofList s layers).2 = .ofList layers := by
  simp only [Bindings.entries, Bindings.ofList, Store.cell_alloc_self]

namespace Session

variable {η : Type}

/-! ## Ids are identifiers -/

theorem toList_layerId (count : Nat) : (layerId .standard count).toList =
    ['l', 'a', 'y', 'e', 'r'] ++ Nat.toDigits 10 (count + 1) := by
  rw [layerId, String.toList_append, Nat.toString_eq_ofList_toDigits, String.toList_ofList]
  rfl

theorem continuesWord_of_digit {n : Nat} {c : Char} (h : c ∈ Nat.toDigits 10 n) :
    continuesWord c := by
  have digit := Nat.isDigit_of_mem_toDigits (by decide) (by decide) h
  simp [continuesWord, Text.isAlphanumeric, Char.isAlphanum, digit]

theorem isIdentifier_layerId (count : Nat) : isIdentifier (layerId .standard count) := by
  have keywords : ∀ k ∈ Keyword.all, k.text.toList.take 5 ≠ ['l', 'a', 'y', 'e', 'r'] := by
    decide
  have plain : Keyword.ofText? (layerId .standard count) = none := by
    rw [Keyword.ofText?, List.find?_eq_none]
    intro k hk same
    apply keywords k hk
    rw [of_decide_eq_true same, toList_layerId]
    rfl
  have digits : (Nat.toDigits 10 (count + 1)).all continuesWord :=
    List.all_eq_true.2 fun c hc => continuesWord_of_digit hc
  rw [isIdentifier, toList_layerId, plain]
  simp only [List.cons_append, List.nil_append, List.all_cons, digits]
  decide

/-- The two names besides the ids are no ids. -/
theorem ne_layerId {x : String} (h : x.toList.take 5 ≠ ['l', 'a', 'y', 'e', 'r']) (count : Nat) :
    layerId .standard count ≠ x := by
  rintro rfl
  apply h
  rw [toList_layerId]
  rfl

/-! ## Bindings -/

/-- The layers of a list with data that count as true, and these data. -/
def truthyLayers (store : Store) (layers : List (String × Layer)) : List (String × Ref) :=
  (layers.filter fun e => (store.cell e.2.data).truthy).map fun e => (e.1, e.2.data)

/-- What a session binds for a script: layers by id, a new array of them and the scratch layer. -/
structure Binds (s : Session η) (layers : List (String × Ref)) (b : Bindings) (t : Session η) :
    Prop where
  entries : ∃ all scratch,
    (b.entries t.store).entries = layers ++ [("inputLayers", all), ("scratch", scratch)] ∧
      t.store.cell all = .array (layers.map Prod.snd).toArray ∧ ¬ s.store.Has (.value all) ∧
      (∀ r, s.scratch = some r → scratch = r) ∧
      (s.scratch = none → t.store.cell scratch = .none ∧ ¬ s.store.Has (.value scratch))
  distinct : (b.names t.store).Nodup
  valid : ∀ x ∈ b.names t.store, isIdentifier x

theorem visibleLayers_eq (s : Session η) :
    s.visibleLayers = truthyLayers s.store s.layers.entries := by
  simp only [visibleLayers, truthyLayers, List.filter_map]
  rfl

theorem sublist_truthyLayers (store : Store) (layers : List (String × Layer)) :
    ((truthyLayers store layers).map Prod.fst).Sublist (layers.map Prod.fst) := by
  rw [truthyLayers, List.map_map]
  exact List.filter_sublist.map _

/-- The store in which the bindings are made, and what they are made of besides the layers. -/
theorem exists_bound (s : Session η) (standard : s.config = .standard) :
    ∃ all scratch store, s.bindings = ((Bindings.ofList store (s.visibleLayers ++
        [("inputLayers", all), ("scratch", scratch)])).1,
        { s with store := (Bindings.ofList store (s.visibleLayers ++
          [("inputLayers", all), ("scratch", scratch)])).2 }) ∧
      all = (s.store.alloc (.array (s.visibleLayers.map Prod.snd).toArray)).1 ∧
      (s.store.alloc (.array (s.visibleLayers.map Prod.snd).toArray)).2.Grows store ∧
      (∀ r, s.scratch = some r → scratch = r) ∧
      (s.scratch = none → scratch = .scalar s.store.serials .none) := by
  obtain ⟨config, console, journal, store, layers, counter, scratch, status⟩ := s
  obtain rfl : config = .standard := standard
  cases scratch with
  | none =>
    let arrayed := (store.alloc (.array (List.map Prod.snd (visibleLayers
      ⟨.standard, console, journal, store, layers, counter, none, status⟩)).toArray)).2
    exact ⟨_, _, (arrayed.alloc .none).2, rfl, rfl, Store.grows_alloc arrayed .none, nofun,
      fun _ => rfl⟩
  | some r => exact ⟨_, _, _, rfl, rfl, .refl _, fun _ same => Option.some.inj same, nofun⟩

theorem binds_bindings {s : Session η} (standard : s.config = .standard)
    (ids : ∀ id ∈ s.layers.keys, ∃ n, id = layerId .standard n) :
    s.Binds (truthyLayers s.store s.layers.entries) s.bindings.1 s.bindings.2 := by
  obtain ⟨all, scratch, store, bound, array, grown, held, none⟩ := s.exists_bound standard
  rw [visibleLayers_eq] at bound array grown
  rw [bound]
  have sub := sublist_truthyLayers s.store s.layers.entries
  have named {x : String} (hx : x ∈ (truthyLayers s.store s.layers.entries).map Prod.fst) :
      ∃ n, x = layerId .standard n :=
    ids x (sub.subset hx)
  generalize truthyLayers s.store s.layers.entries = layers at *
  have names : (layers ++ [("inputLayers", all), ("scratch", scratch)]).map Prod.fst =
      layers.map Prod.fst ++ ["inputLayers", "scratch"] := by
    rw [List.map_append]
    rfl
  have distinct : ((layers ++ [("inputLayers", all), ("scratch", scratch)]).map
      Prod.fst).Nodup := by
    rw [names, List.nodup_append]
    refine ⟨sub.nodup s.layers.nodup_keys, by decide, fun x hx y hy => ?_⟩
    obtain ⟨n, rfl⟩ := named hx
    apply ne_layerId
    rcases List.mem_cons.1 hy with rfl | hy
    · decide
    · obtain rfl := List.mem_singleton.1 hy
      decide
  have entries := congrArg Dict.entries (Bindings.entries_ofList store
    (layers ++ [("inputLayers", all), ("scratch", scratch)]))
  rw [Dict.entries_ofList distinct] at entries
  refine ⟨⟨all, scratch, entries, ?_, ?_, held, fun empty => ?_⟩, ?_, fun x hx => ?_⟩
  · rw [array]
    change (store.alloc (.map _)).2.cell _ = _
    exact (grown.trans (Store.grows_alloc store _)).cell_alloc
  · rw [array]
    exact Nat.lt_irrefl _
  · rw [none empty]
    exact ⟨rfl, Nat.lt_irrefl _⟩
  · rw [Bindings.names, Dict.keys, entries]
    exact distinct
  · rw [Bindings.names, Dict.keys, entries, names] at hx
    rcases List.mem_append.1 hx with hx | hx
    · obtain ⟨n, rfl⟩ := named hx
      exact isIdentifier_layerId n
    · have others : ∀ y ∈ ["inputLayers", "scratch"], isIdentifier y := by decide
      exact others x hx

/-- Where all names are identifiers, a script that cannot be read could not be read without any
names. -/
theorem compile_nil_of_compile {source : String} {params : List String} {failure : ScriptFailure}
    (valid : ∀ x ∈ params, isIdentifier x) (h : Script.compile source params = .error failure) :
    Script.compile source [] = .error failure := by
  have none : ∀ x ∈ ([] : List String), isIdentifier x := nofun
  rw [Script.compile_of_valid valid] at h
  rw [Script.compile_of_valid none]
  cases parsed : Program.parse (strictPrelude ++ source) with
  | ok program =>
    rw [parsed] at h
    cases h
  | error d =>
    rw [parsed] at h
    exact h

/-- A script fails while it is read only for a fault of its own. -/
theorem compile_nil_of_run {s t : Session η} {fuel : Nat} {source : String} {why : ScriptFailure}
    (valid : ∀ x ∈ s.bindings.1.names s.bindings.2.store, isIdentifier x)
    (h : s.run fuel source = some (.failed why, t)) (phase : why.phase = .compile) :
    Script.compile source [] = .error why := by
  obtain ⟨e, ran, settled⟩ := settled_run h
  obtain ⟨result, store, sink⟩ := e
  have failed : result = .error why := by
    have settles := settled.settles
    generalize t.scratch = after at settles
    cases settles
    rfl
  have same : s.ready.1.names s.ready.2.store = s.bindings.1.names s.bindings.2.store := by
    obtain ⟨config, console, journal, store, layers, counter, scratch, status⟩ := s
    cases scratch <;> rfl
  rw [← same] at valid
  unfold execution? at ran
  cases compiled : Script.compile source (s.ready.1.names s.ready.2.store) with
  | error failure =>
    rw [Script.execute_of_error compiled] at ran
    cases ran
    cases failed
    exact compile_nil_of_compile valid compiled
  | ok script =>
    rw [Script.execute_of_compile compiled] at ran
    subst failed
    generalize script.invoke .. = outcome at ran
    cases outcome <;> cases ran
    cases phase

/-! ## Layers and names after a history -/

theorem Lists.keys {names : SessionConfig} {past : List Deed} {s : Session η}
    (h : s.Lists names past) {id : String} (hid : id ∈ s.layers.keys) :
    ∃ n, id = layerId names n := by
  obtain ⟨e, he, rfl⟩ := List.mem_map.1 hid
  rw [h.layers] at he
  have added : e.1 ∈ (additions past).map Prod.fst :=
    List.mem_map_of_mem (List.mem_filter.1 he).1
  rw [h.ids] at added
  obtain ⟨n, -, same⟩ := List.mem_map.1 added
  exact ⟨n, same.symm⟩

/-- Whatever has been done to a session, the layers ever added have ids that differ, the table lists
in order those that have not been removed, and these are the ones that can be removed. A failed
operation leaves layers, counter, scratch layer and status as they were. With the standard names the
bindings are the layers with data that count as true, a new array of them and the scratch layer,
under identifiers that differ; a script that cannot be read then has a fault of its own. -/
theorem layers_of_history {names : SessionConfig} {console : Console η} {journal : Journal η}
    {store : Store} {past : List Deed} {s : Session η}
    (h : History (.start names console journal store) past s) :
    ((additions past).map Prod.fst).Nodup ∧ s.layers.entries = remaining past ∧
      (∀ id layer, (∃ t, s.removeLayer id = .ok (layer, t)) ↔ (id, layer) ∈ remaining past) ∧
      (∀ why t, Step s (.refused why) t → s.Holds t ∧ t.status = s.status) ∧
      (names = .standard →
        s.Binds (truthyLayers s.store (remaining past)) s.bindings.1 s.bindings.2 ∧
          ∀ fuel source why t, s.run fuel source = some (.failed why, t) →
            why.phase = .compile → Script.compile source [] = .error why) := by
  have lists := h.lists
  refine ⟨lists.nodup, lists.layers, fun id layer => ?_, fun why t step => ?_, fun standard => ?_⟩
  · rw [exists_removeLayer_iff, lists.layers]
  · obtain ⟨held, status, -⟩ := refused_keeps step
    exact ⟨held, status⟩
  · subst standard
    have binds := binds_bindings lists.config fun id hid => lists.keys hid
    rw [lists.layers] at binds
    exact ⟨binds, fun fuel source why t ran phase => compile_nil_of_run binds.valid ran phase⟩

/-- Two layers, the first of which is removed before the second is added. -/
theorem layers_of_history_removed :
    let console : Console Nat := ⟨fun _ _ _ n => (.ok (), n + 1), [], 0⟩
    ∃ (past : List Deed) (s : Session Nat),
      History (.start .standard console (fun _ n => n) .empty) past s ∧
      (additions past).map Prod.fst = ["layer1", "layer2"] ∧ s.layers.keys = ["layer2"] ∧
      s.bindings.1.names s.bindings.2.store = ["layer2", "inputLayers", "scratch"] := by
  intro console
  let data : Ref := .scalar 0 (.int 1)
  let s : Session Nat := .start .standard console (fun _ n => n) .empty
  have first : (s.addLayer data none).1 = "layer1" := by decide +kernel
  have listed : ("layer1", ⟨none, data⟩) ∈ (s.addLayer data none).2.layers.entries := by
    change _ ∈ (Dict.insert .empty (s.addLayer data none).1 _).entries
    rw [first, Dict.entries_insert]
    exact List.mem_singleton_self _
  obtain ⟨t, removed⟩ := (exists_removeLayer_iff ..).2 listed
  have history := ((History.start.step (.add s data none)).step (.remove removed)).step
    (.add t data none)
  have lists := history.lists
  obtain ⟨-, entries, -, -, bound⟩ := layers_of_history history
  obtain ⟨binds, -⟩ := bound rfl
  have ids : [(s.addLayer data none).1, (t.addLayer data none).1] = ["layer1", "layer2"] :=
    (lists.ids.trans (by rw [lists.counter]; rfl)).trans
      (show [0, 1].map (layerId .standard) = _ by decide +kernel)
  have second : (t.addLayer data none).1 = "layer2" :=
    (List.cons.inj (List.cons.inj ids).2).1
  have left : remaining ([] ++ [.added (s.addLayer data none).1 ⟨none, data⟩] ++
      [.removed "layer1" ⟨none, data⟩] ++ [.added (t.addLayer data none).1 ⟨none, data⟩]) =
      [("layer2", ⟨none, data⟩)] := by
    rw [first, second]
    rfl
  rw [left] at entries binds
  refine ⟨_, _, history, ids, ?_, ?_⟩
  · rw [Dict.keys, entries]
    rfl
  · obtain ⟨all, scratch, bound, -⟩ := binds.entries
    rw [Bindings.names, Dict.keys, bound]
    rfl

end Session

end LayerScript
