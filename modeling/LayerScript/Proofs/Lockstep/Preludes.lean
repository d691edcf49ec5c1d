import LayerScript.Machine.Call
import LayerScript.Proofs.Intact
import LayerScript.Proofs.Lockstep.Machines

/-!
# Two new preludes

Making a prelude takes alike stores to alike stores. All that a prelude holds is new, and so it is
live.
-/

namespace LayerScript

namespace Sharing

variable {W : Sharing} {α β : Type}

theorem Respects.inTurn {A : α → Prop} {B : β → Prop} {f : Store.Effect α}
    {g : α → Store.Effect β} (hf : W.Respects A f) (hg : ∀ a, A a → W.Respects B (g a)) :
    W.Respects B (f.inTurn g) :=
  hf.seq hg

theorem respects_native (f : Native) :
    W.Respects (fun r => W.live (.value r)) (·.alloc (.native f)) :=
  respects_alloc fun _ => by simp [Fits, Cell.places]

theorem respects_module (path : List String) {exports : List (String × Ref)}
    (he : ∀ e ∈ exports, W.live (.value e.2)) :
    W.Respects (fun r => W.live (.value r)) (·.alloc (.module path (.ofList exports))) := by
  refine respects_alloc fun _ => ?_
  simp only [Fits, Cell.places, List.mem_map]
  rintro _ ⟨r, hr, rfl⟩
  obtain ⟨e, mem, rfl⟩ := List.mem_map.1 (Dict.mem_values_ofList hr)
  exact he e mem

theorem respects_allocNatives (natives : List Native) :
    W.Respects (fun es => ∀ e ∈ es, W.live (.value e.2)) (·.allocNatives natives) := by
  induction natives with
  | nil => exact respects_keep (by simp)
  | cons native natives ih =>
    refine (respects_native native).seq
      (g := fun r s => ((native.name, r) :: (s.allocNatives natives).1, (s.allocNatives natives).2))
      fun r hr => ?_
    refine ih.seq (g := fun es s => ((native.name, r) :: es, s)) fun es hes => respects_keep ?_
    simp only [List.forall_mem_cons]
    exact ⟨hr, hes⟩

theorem respects_allocModule (path : List String) {shared : List (String × Ref)}
    (hs : ∀ e ∈ shared, W.live (.value e.2)) (natives : List Native) :
    W.Respects (fun r => W.live (.value r)) (·.allocModule path shared natives) := by
  refine (respects_allocNatives natives).seq
    (g := fun es s => s.alloc (.module path (.ofList (shared ++ es)))) fun es hes => ?_
  refine respects_module path fun e he => ?_
  rcases List.mem_append.1 he with he | he
  · exact hs e he
  · exact hes e he

theorem respects_preludeValues :
    W.Respects (fun bound => ∀ b ∈ bound, W.live (.value b.2)) Store.preludeValues := by
  refine (respects_native _).inTurn fun len hlen => ?_
  refine (respects_allocModule _ (by simp) _).inTurn fun console hconsole => ?_
  refine (respects_allocModule _ (by simpa using hlen) _).inTurn fun text htext => ?_
  refine (respects_allocModule _ (by simpa using hlen) _).inTurn fun collections hcollections => ?_
  refine (respects_allocModule _ (by simp) _).inTurn fun math hmath => ?_
  refine (respects_allocModule _ (by simp) _).inTurn fun json hjson => ?_
  refine (respects_module _ (by simp [htext, hcollections, hmath, hjson])).inTurn fun std hstd => ?_
  refine (respects_native _).inTurn fun typeOf htypeOf => ?_
  refine (respects_native _).inTurn fun fail hfail => ?_
  exact respects_keep (by simp [hlen, htypeOf, hfail, hconsole, hstd])

theorem respects_declareConstants {e : ScopeId} {bound : List (String × Ref)}
    (he : W.live (.scope e)) (hb : ∀ b ∈ bound, W.live (.value b.2)) :
    W.Respects (fun _ => True) fun s => ((), s.declareConstants e bound) := by
  induction bound with
  | nil => exact respects_keep trivial
  | cons b bound ih =>
    rw [List.forall_mem_cons] at hb
    exact (respects_declare he hb.1 b.1 false).inTurn
      (g := fun _ s => ((), s.declareConstants e bound)) fun _ _ => ih hb.2

theorem respects_newPrelude : W.Respects (fun e => W.live (.scope e)) Store.newPrelude := by
  rw [Store.newPrelude_eq]
  refine respects_preludeValues.inTurn fun bound hbound => ?_
  refine Respects.inTurn (fun s t h => h.newScope none (by simp)) fun scope hscope => ?_
  exact (respects_declareConstants hscope hbound).inTurn fun _ _ => respects_keep hscope

theorem respects_start : W.Respects
    (fun started => W.live (.scope started.1) ∧ W.live (.value started.2))
    (Store.Effect.inTurn Store.newPrelude fun globals =>
      .inTurn (·.alloc .none) fun receiver => .keep (globals, receiver)) := by
  refine respects_newPrelude.inTurn fun globals hglobals => ?_
  refine Respects.inTurn (respects_alloc fun _ => by simp [Fits, Cell.places]) fun receiver hr => ?_
  exact respects_keep ⟨hglobals, hr⟩

/-- Without a seam, new machines on alike stores are related. -/
theorem related_start {σ τ : Type} {S : σ → τ → Prop} {s t : Store} {k : σ} {l : τ}
    (seam : W.seam = none) (h : W.Alike s t) (strict : Bool) (sinks : S k l) :
    W.Related S .guest 0 (.start s strict k) (.start t strict l) ∧
      s.Extends (Machine.start s strict k).store := by
  obtain ⟨value, ⟨home, receiver⟩, alike, grows⟩ := respects_start s t h
  refine ⟨?_, grows⟩
  obtain ⟨globals, this⟩ := Prod.mk.inj value
  exact {
    stores := alike
    scope := globals
    globals := globals
    receiver := this
    strict := rfl
    callSite := rfl
    depths := ⟨rfl, rfl⟩
    home := ⟨home, by simp [seam]⟩
    text := fun ho => nomatch ho
    guest := fun _ => ⟨by simp [Apart, seam], receiver⟩
    sinks := sinks }

end Sharing

/-- A new machine on an intact store has its scope and its receiver. -/
theorem Machine.ready_start {σ : Type} {s : Store} (h : s.Intact) (strict : Bool) (k : σ) :
    (Machine.start s strict k).store.Ready
      [.value (Machine.start s strict k).receiver, .scope (Machine.start s strict k).globals] := by
  have prelude := Store.readies_newPrelude [] s ⟨h, by simp⟩
  unfold start
  revert prelude
  generalize s.newPrelude = started
  intro prelude
  exact Store.readies_alloc (c := .none) (by simp [Cell.places]) started.2 prelude

end LayerScript
