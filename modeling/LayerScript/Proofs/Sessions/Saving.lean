import LayerScript.Proofs.Documents
import LayerScript.Session.Basic

/-!
# Saving the scratch layer and loading it again

The text of the scratch layer is written by an encoder that goes 128 levels down, and read by a
reader that opens 127 containers. A scratch layer that is loaded again becomes a copy of itself when
the reader gets to its end.
-/

namespace LayerScript

namespace Session

variable {η : Type}

/-- The document of the scratch layer. -/
def scratchDocument? (s : Session η) : Option Json :=
  s.scratch.bind fun r => (s.store.toDocument r).toOption

/-- The second session has one more layer, read from a file, that is a copy of the value. What the
first session had is left as it was. -/
structure LoadsCopy (s t : Session η) (path id : String) (r : Ref) : Prop where
  layer : ∃ q, t.layers = s.layers.insert id ⟨some path, q⟩ ∧ s.store.Copied t.store r q
  counter : t.counter = s.counter + 1
  scratch : t.scratch = s.scratch
  grown : s.store.Grows t.store

theorem scratchText_cases {s : Session η} {text : String} (h : s.scratchText = .ok (some text)) :
    ∃ r j, s.scratch = some r ∧ s.scratchDocument? = some j ∧ s.store.Shows r j ∧
      text = j.pretty := by
  unfold scratchText at h
  cases scratch : s.scratch with
  | none => simp [scratch] at h
  | some r =>
    cases read : s.store.toDocument r with
    | error why => simp [scratch, read] at h
    | ok j =>
      simp only [scratch, read, Except.ok.injEq, Option.some.injEq] at h
      have document : s.scratchDocument? = some j := by
        simp [scratchDocument?, scratch, read, Except.toOption]
      exact ⟨r, j, rfl, document, Store.shows_of_documentWithin read, h.symm⟩

theorem load_of_read {s : Session η} {text : String} {j : Json} {r : Ref}
    (read : Json.read text = .ok j) (shown : s.store.Shows r j) (fuel : Nat) (path : String) :
    ∃ id t, s.load fuel path (.ok text) = some (.ok id, t) ∧ s.LoadsCopy t path id r := by
  have loaded : s.load fuel path (.ok text) =
      some (.ok (addLayer { s with store := (s.store.fromDocument j).2 }
        (s.store.fromDocument j).1 (some path)).1,
        (addLayer { s with store := (s.store.fromDocument j).2 }
          (s.store.fromDocument j).1 (some path)).2) := by
    simp [load, readDocument, read]
  refine ⟨_, _, loaded, ⟨_, rfl, shown.copied (.refl _)⟩, rfl, rfl, ?_⟩
  exact Store.grows_fromDocument s.store j

theorem load_of_flaw {text : String} {why : Json.Error} (read : Json.read text = .error why)
    (s : Session η) (fuel : Nat) (path : String) :
    s.load fuel path (.ok text) =
      (s.report fuel .error (SessionError.parse path why).message).map fun t =>
        (.error (.parse path why), t) := by
  simp [load, readDocument, read]

/-- The text of a scratch layer can be loaded again when at most 127 containers are nested in the
layer, and then gives a copy of it. -/
theorem scratch_reloads {s : Session η} {text : String} (saved : s.scratchText = .ok (some text))
    (legible : ∀ j ∈ s.scratchDocument?, ∀ x ∈ j.floats, Json.Legible x) (fuel : Nat)
    (path : String) :
    ∃ r j, s.scratch = some r ∧ s.scratchDocument? = some j ∧
      (j.nesting < 128 → ∃ id t, s.load fuel path (.ok text) = some (.ok id, t) ∧
        s.LoadsCopy t path id r) ∧
      (128 ≤ j.nesting → ∃ line column,
        s.load fuel path (.ok text) =
          (s.report fuel .error (SessionError.parse path ⟨.tooDeep, line, column⟩).message).map
            fun t => (.error (.parse path ⟨.tooDeep, line, column⟩), t)) := by
  obtain ⟨r, j, scratch, document, shown, rfl⟩ := scratchText_cases saved
  obtain ⟨reads, refuses⟩ := Json.read_pretty (shown.readable (legible j document))
  refine ⟨r, j, scratch, document, fun fits => ?_, fun deep => ?_⟩
  · exact load_of_read (reads fits) shown fuel path
  · obtain ⟨line, column, read⟩ := refuses deep
    exact ⟨line, column, load_of_flaw read s fuel path⟩

theorem scratchText_of_document {s : Session η} {j : Json} (h : s.scratchDocument? = some j) :
    s.scratchText = .ok (some j.pretty) := by
  unfold scratchDocument? at h
  obtain ⟨r, scratch, h⟩ := Option.bind_eq_some_iff.1 h
  cases read : s.store.toDocument r with
  | error why => simp [read, Except.toOption] at h
  | ok k =>
    simp only [read, Except.toOption, Option.some.injEq] at h
    simp [scratchText, scratch, read, h]

/-- A new session on a console that takes all lines and counts them. -/
def counting : Session Nat :=
  .start .standard ⟨fun _ _ _ n => (.ok (), n + 1), [], 0⟩ (fun _ n => n) .empty

/-- A map with a text and an empty array. -/
theorem scratch_reloads_point :
    let source := "return \x7btype: \"Point\", coordinates: []\x7d"
    ∃ o s text r id t, counting.run 60 source = some (o, s) ∧
      s.scratchText = .ok (some text) ∧ s.scratch = some r ∧
      s.load 60 "saved.geojson" (.ok text) = some (.ok id, t) ∧
      s.LoadsCopy t "saved.geojson" id r := by
  intro source
  have ran : (counting.run 60 source).map
      (fun e => e.2.scratchDocument?.map fun j => (j.nesting, j.floats.isEmpty)) =
      some (some (2, true)) := by
    decide +kernel
  obtain ⟨⟨o, s⟩, run, ends⟩ := Option.map_eq_some_iff.1 ran
  obtain ⟨j, document, shape⟩ := Option.map_eq_some_iff.1 ends
  obtain ⟨nesting, floats⟩ := Prod.mk.inj shape
  have floatless : ∀ k ∈ s.scratchDocument?, ∀ x ∈ k.floats, Json.Legible x := by
    intro k hk x hx
    obtain rfl := Option.some.inj (document.symm.trans hk)
    rw [List.isEmpty_iff.1 floats] at hx
    exact absurd hx List.not_mem_nil
  have saved := scratchText_of_document document
  obtain ⟨r, k, scratch, same, reloads, -⟩ :=
    scratch_reloads saved floatless 60 "saved.geojson"
  obtain rfl := Option.some.inj (document.symm.trans same)
  obtain ⟨id, t, loaded, copy⟩ := reloads (by omega)
  exact ⟨o, s, _, r, id, t, run, saved, scratch, loaded, copy⟩

/-- A map with 127 arrays in one another is saved, but cannot be loaded again. -/
theorem scratch_not_reloaded :
    let source := "fn f(a) \x7b return [[[[[[[a]]]]]]] \x7d\n" ++
      "fn g(a) \x7b return f(f(f(a))) \x7d\n" ++
      "return \x7btype: \"Point\", a: g(g(g(g(g(g([])))))) \x7d"
    ∃ o s text, counting.run 100 source = some (o, s) ∧ s.scratchText = .ok (some text) ∧
      (∀ j ∈ s.scratchDocument?, j.floats = []) ∧
      ∀ fuel path id t, s.load fuel path (.ok text) ≠ some (.ok id, t) := by
  intro source
  have ran : (counting.run 100 source).map
      (fun e => e.2.scratchDocument?.map fun j => (j.nesting, j.floats.isEmpty)) =
      some (some (128, true)) := by
    decide +kernel
  obtain ⟨⟨o, s⟩, run, ends⟩ := Option.map_eq_some_iff.1 ran
  obtain ⟨j, document, shape⟩ := Option.map_eq_some_iff.1 ends
  obtain ⟨nesting, floats⟩ := Prod.mk.inj shape
  have saved := scratchText_of_document document
  refine ⟨o, s, _, run, saved, fun k hk => ?_, fun fuel path id t loaded => ?_⟩
  · obtain rfl := Option.some.inj (document.symm.trans hk)
    exact List.isEmpty_iff.1 floats
  · obtain ⟨r, k, -, same, shown, -⟩ := scratchText_cases saved
    obtain rfl := Option.some.inj (document.symm.trans same)
    have readable : j.Readable := shown.readable (by simp [List.isEmpty_iff.1 floats])
    obtain ⟨line, column, read⟩ := (Json.read_pretty readable).2 (by omega)
    rw [load_of_flaw read] at loaded
    obtain ⟨t', -, same⟩ := Option.map_eq_some_iff.1 loaded
    cases same

end Session

end LayerScript
