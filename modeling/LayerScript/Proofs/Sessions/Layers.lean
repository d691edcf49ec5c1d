import LayerScript.Proofs.Entries
import LayerScript.Proofs.Sessions.Running
import Mathlib.Data.List.Nodup

/-!
# The table of layers

A session numbers its layers. The number of layers ever added only grows, so that no id comes up
twice, and the table lists the layers that were added and have not been removed. With the standard
names the bindings of a script are identifiers that differ from each other, whatever has happened to
the session before.
-/

namespace LayerScript

namespace Session

variable {η : Type}

/-! ## Histories -/

/-- What a step does to the table of layers. -/
inductive Deed where
  | added (id : String) (layer : Layer)
  | removed (id : String) (layer : Layer)
  | refused (why : SessionError)
  | other

/-- The steps of a session. Between the operations of the session the host goes on with the same
store and console, and can make the data of the next layer. -/
inductive Step : Session η → Deed → Session η → Prop
  | add (s : Session η) (data : Ref) (source : Option String) :
    Step s (.added (s.addLayer data source).1 ⟨source, data⟩) (s.addLayer data source).2
  | load {fuel : Nat} {s t : Session η} {path id : String} {contents : Except FileError String}
    {document : Json} (read : readDocument path contents = .ok document)
    (loaded : s.load fuel path contents = some (.ok id, t)) :
    Step s (.added id ⟨some path, (s.store.fromDocument document).1⟩) t
  | notLoaded {fuel : Nat} {s t : Session η} {path : String} {contents : Except FileError String}
    {why : SessionError} (refused : s.load fuel path contents = some (.error why, t)) :
    Step s (.refused why) t
  | remove {s t : Session η} {id : String} {layer : Layer}
    (removed : s.removeLayer id = .ok (layer, t)) : Step s (.removed id layer) t
  | notRemoved {s : Session η} {id : String} {why : SessionError}
    (refused : s.removeLayer id = .error why) : Step s (.refused why) s
  | run {fuel : Nat} {s t : Session η} {source : String} {o : RunOutcome}
    (ran : s.run fuel source = some (o, t)) : Step s .other t
  | clearScratch (s : Session η) : Step s .other s.clearScratch
  | host (s : Session η) (console : Console η) (journal : Journal η) (store : Store) :
    Step s .other { s with console := console, journal := journal, store := store }

/-- What has been done to a session since it was started, the first deed first. -/
inductive History (start : Session η) : List Deed → Session η → Prop
  | start : History start [] start
  | step {past : List Deed} {s t : Session η} {deed : Deed} (before : History start past s)
    (step : Step s deed t) : History start (past ++ [deed]) t

namespace Deed

def addition? : Deed → Option (String × Layer)
  | .added id layer => some (id, layer)
  | _ => none

def removal? : Deed → Option String
  | .removed id _ => some id
  | _ => none

end Deed

/-- The layers that were added, by id and in order. -/
def additions (past : List Deed) : List (String × Layer) :=
  past.filterMap Deed.addition?

def removals (past : List Deed) : List String :=
  past.filterMap Deed.removal?

/-- The layers that were added and have not been removed. -/
def remaining (past : List Deed) : List (String × Layer) :=
  (additions past).filter fun e => e.1 ∉ removals past

theorem additions_concat (past : List Deed) (deed : Deed) :
    additions (past ++ [deed]) = additions past ++ deed.addition?.toList := by
  rw [additions, List.filterMap_append]
  cases deed <;> rfl

theorem removals_concat (past : List Deed) (deed : Deed) :
    removals (past ++ [deed]) = removals past ++ deed.removal?.toList := by
  rw [removals, List.filterMap_append]
  cases deed <;> rfl

theorem remaining_added {past : List Deed} {id : String} (h : id ∉ removals past) (layer : Layer) :
    remaining (past ++ [.added id layer]) = remaining past ++ [(id, layer)] := by
  simp [remaining, additions_concat, removals_concat, Deed.addition?, Deed.removal?, h]

theorem remaining_removed (past : List Deed) (id : String) (layer : Layer) :
    remaining (past ++ [.removed id layer]) = (remaining past).filter fun e => e.1 ≠ id := by
  simp only [remaining, additions_concat, removals_concat, Deed.addition?, Deed.removal?,
    Option.toList_none, List.append_nil, Option.toList_some, List.filter_filter]
  apply List.filter_congr
  intro e _
  simp [and_comm]

/-! ## Ids -/

/-- The id of the layer that is added when there have been `count` layers. -/
def layerId (config : SessionConfig) (count : Nat) : String :=
  config.layerStem ++ toString (count + 1)

theorem layerId_injective (config : SessionConfig) : (layerId config).Injective := by
  intro m n same
  have digits : Nat.toDigits 10 (m + 1) = Nat.toDigits 10 (n + 1) := by
    have := congrArg String.toList same
    simpa [layerId, String.toList_append] using this
  exact Nat.succ.inj (Decimal.natural_injective digits)

/-- The table agrees with what was done. -/
structure Lists (names : SessionConfig) (past : List Deed) (s : Session η) : Prop where
  config : s.config = names
  counter : s.counter = (additions past).length
  ids : (additions past).map Prod.fst = (List.range s.counter).map (layerId names)
  removed : ∀ id ∈ removals past, id ∈ (additions past).map Prod.fst
  layers : s.layers.entries = remaining past

namespace Lists

variable {names : SessionConfig} {past : List Deed} {s : Session η}

theorem nodup (h : s.Lists names past) : ((additions past).map Prod.fst).Nodup := by
  rw [h.ids]
  exact (List.nodup_map_iff (layerId_injective names)).2 List.nodup_range

theorem start (names : SessionConfig) (console : Console η) (journal : Journal η) (store : Store) :
    (Session.start names console journal store).Lists names [] :=
  ⟨rfl, rfl, rfl, nofun, rfl⟩

/-- The next id is none of those before. -/
theorem fresh (h : s.Lists names past) :
    layerId names s.counter ∉ (additions past).map Prod.fst := by
  rw [h.ids]
  intro mem
  obtain ⟨n, hn, same⟩ := List.mem_map.1 mem
  rw [layerId_injective names same] at hn
  exact Nat.lt_irrefl _ (List.mem_range.1 hn)

theorem unlisted (h : s.Lists names past) : layerId names s.counter ∉ s.layers.keys := by
  intro mem
  obtain ⟨e, he, key⟩ := List.mem_map.1 mem
  rw [h.layers] at he
  exact h.fresh (key ▸ List.mem_map_of_mem (List.mem_filter.1 he).1)

theorem add (h : s.Lists names past) (data : Ref) (source : Option String) :
    (s.addLayer data source).2.Lists names
      (past ++ [.added (s.addLayer data source).1 ⟨source, data⟩]) := by
  have id : (s.addLayer data source).1 = layerId names s.counter := by
    rw [← h.config]
    rfl
  have kept : layerId names s.counter ∉ removals past := fun mem => h.fresh (h.removed _ mem)
  rw [id]
  refine ⟨h.config, ?_, ?_, fun x hx => ?_, ?_⟩
  · rw [additions_concat, List.length_append, ← h.counter]
    rfl
  · rw [additions_concat, List.map_append, h.ids]
    change _ = (List.range (s.counter + 1)).map (layerId names)
    rw [List.range_succ, List.map_append]
    rfl
  · rw [removals_concat] at hx
    rw [additions_concat, List.map_append]
    exact List.mem_append_left _ (h.removed x (by simpa [Deed.removal?] using hx))
  · change (s.layers.insert (s.addLayer data source).1 ⟨source, data⟩).entries = _
    rw [id, Dict.entries_insert_of_absent h.unlisted, h.layers, remaining_added kept]

/-- A layer is removed with its id, which has been the id of a layer. -/
theorem remove (h : s.Lists names past) {t : Session η} {id : String} {layer : Layer}
    (removed : s.removeLayer id = .ok (layer, t)) :
    t.Lists names (past ++ [.removed id layer]) := by
  unfold removeLayer at removed
  split at removed
  · cases removed
  · next found =>
    cases removed
    have listed : (id, layer) ∈ s.layers.entries := by
      rw [Dict.find?_eq] at found
      exact mem_of_valueOf? found
    have same : additions (past ++ [.removed id layer]) = additions past := by
      simp [additions_concat, Deed.addition?]
    refine ⟨h.config, ?_, ?_, fun x hx => ?_, ?_⟩
    · rw [same]
      exact h.counter
    · rw [same]
      exact h.ids
    · rw [same]
      rw [removals_concat] at hx
      rcases List.mem_append.1 hx with hx | hx
      · exact h.removed x hx
      · obtain rfl := List.mem_singleton.1 hx
        rw [h.layers] at listed
        exact List.mem_map_of_mem (List.mem_filter.1 listed).1
    · change (s.layers.erase id).entries = _
      rw [Dict.entries_erase, h.layers, remaining_removed]

/-- What neither adds nor removes a layer. -/
theorem other (h : s.Lists names past) {t : Session η} {deed : Deed} (config : t.config = s.config)
    (layers : t.layers = s.layers) (counter : t.counter = s.counter)
    (noAddition : deed.addition? = none) (noRemoval : deed.removal? = none) :
    t.Lists names (past ++ [deed]) := by
  have added : additions (past ++ [deed]) = additions past := by
    rw [additions_concat, noAddition]
    exact List.append_nil _
  have removed : removals (past ++ [deed]) = removals past := by
    rw [removals_concat, noRemoval]
    exact List.append_nil _
  refine ⟨config.trans h.config, ?_, ?_, ?_, ?_⟩
  · rw [counter, added]
    exact h.counter
  · rw [added, counter]
    exact h.ids
  · rw [removed, added]
    exact h.removed
  · rw [layers, h.layers, remaining, remaining, added, removed]

end Lists

/-! ## What the operations leave alone -/

theorem report_keeps {fuel : Nat} {s t : Session η} {level : Level} {text : String}
    (h : s.report fuel level text = some t) : t.config = s.config ∧ t.status = s.status := by
  unfold report at h
  dsimp only [alloc] at h
  split at h
  · cases h
  · cases h
    exact ⟨rfl, rfl⟩
  · cases h
    exact ⟨rfl, rfl⟩

theorem config_conclude {fuel : Nat} {s t : Session η} {result : Except ScriptFailure Ref}
    {o : RunOutcome} (h : s.conclude fuel result = some (o, t)) : t.config = s.config := by
  unfold conclude at h
  split at h
  · split at h
    · cases h
      rfl
    · split at h
      · cases h
        rfl
      · obtain ⟨u, reported, same⟩ := Option.map_eq_some_iff.1 h
        cases same
        exact (report_keeps reported).1
  · obtain ⟨u, reported, same⟩ := Option.map_eq_some_iff.1 h
    cases same
    exact (report_keeps reported).1

theorem config_ended (s : Session η) (e : Execution (Console η)) :
    (s.ended e).config = s.config := by
  obtain ⟨config, console, journal, store, layers, counter, scratch, status⟩ := s
  obtain ⟨⟨phase, diagnostic, trace⟩ | r, store', sink⟩ := e
  · cases scratch <;> cases phase <;> rfl
  · cases scratch <;> rfl

theorem config_run {fuel : Nat} {s t : Session η} {source : String} {o : RunOutcome}
    (h : s.run fuel source = some (o, t)) : t.config = s.config := by
  rw [run_eq] at h
  obtain ⟨e, -, concluded⟩ := Option.bind_eq_some_iff.1 h
  exact (config_conclude concluded).trans (s.config_ended e)

/-- A file that cannot be loaded is reported on the console. -/
theorem load_refused {fuel : Nat} {s t : Session η} {path : String}
    {contents : Except FileError String} {why : SessionError}
    (h : s.load fuel path contents = some (.error why, t)) :
    readDocument path contents = .error why ∧ s.report fuel .error why.message = some t := by
  unfold load at h
  split at h
  · next flaw =>
    obtain ⟨u, reported, same⟩ := Option.map_eq_some_iff.1 h
    cases same
    exact ⟨flaw, reported⟩
  · cases h

theorem load_added {fuel : Nat} {s t : Session η} {path id : String}
    {contents : Except FileError String} {document : Json}
    (read : readDocument path contents = .ok document)
    (h : s.load fuel path contents = some (.ok id, t)) :
    (id, t) = addLayer { s with store := (s.store.fromDocument document).2 }
      (s.store.fromDocument document).1 (some path) := by
  simp only [load, read, Option.some.injEq, Prod.mk.injEq, Except.ok.injEq] at h
  exact Prod.ext h.1.symm h.2.symm

/-- A failed operation leaves the table, the counter, the scratch layer and the status as they
were. -/
theorem refused_keeps {s t : Session η} {why : SessionError} (h : Step s (.refused why) t) :
    s.Holds t ∧ t.status = s.status ∧ t.config = s.config := by
  cases h with
  | notLoaded refused =>
    obtain ⟨-, reported⟩ := load_refused refused
    obtain ⟨config, status⟩ := report_keeps reported
    exact ⟨holds_report reported, status, config⟩
  | notRemoved _ => exact ⟨⟨rfl, rfl, rfl⟩, rfl, rfl⟩

/-! ## The table after a history -/

theorem Lists.step {names : SessionConfig} {past : List Deed} {s t : Session η} {deed : Deed}
    (h : s.Lists names past) (step : Step s deed t) : t.Lists names (past ++ [deed]) := by
  cases step with
  | add _ data source => exact h.add data source
  | @load _ _ _ _ _ _ document read loaded =>
    obtain ⟨rfl, rfl⟩ := Prod.mk.inj (load_added read loaded)
    have before : ({ s with store := (s.store.fromDocument document).2 } : Session η).Lists names
        past := ⟨h.config, h.counter, h.ids, h.removed, h.layers⟩
    exact before.add _ _
  | notLoaded refused =>
    obtain ⟨held, -, config⟩ := refused_keeps (.notLoaded refused)
    exact h.other config held.layers held.counter rfl rfl
  | remove removed => exact h.remove removed
  | notRemoved refused => exact h.other rfl rfl rfl rfl rfl
  | run ran =>
    obtain ⟨e, -, settled⟩ := settled_run ran
    exact h.other (config_run ran) settled.layers settled.counter rfl rfl
  | clearScratch => exact h.other rfl rfl rfl rfl rfl
  | host _ _ _ _ => exact h.other rfl rfl rfl rfl rfl

theorem History.lists {names : SessionConfig} {console : Console η} {journal : Journal η}
    {store : Store} {past : List Deed} {s : Session η}
    (h : History (.start names console journal store) past s) : s.Lists names past := by
  induction h with
  | start => exact .start names console journal store
  | step _ step ih => exact ih.step step

/-- The layers that can be removed are those of the table. -/
theorem exists_removeLayer_iff (s : Session η) (id : String) (layer : Layer) :
    (∃ t, s.removeLayer id = .ok (layer, t)) ↔ (id, layer) ∈ s.layers.entries := by
  rw [Dict.mem_entries]
  unfold removeLayer
  cases s.layers.find? id with
  | none => simp
  | some found => simp

end Session

end LayerScript
