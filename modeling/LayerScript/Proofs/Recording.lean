import LayerScript.Machine.Basic
import LayerScript.Proofs.Contents

/-!
# Recorded writes

A sink can be made to record what is written to it. It answers as before. A sink is discreet when
its answer depends on what it is shown and on its own state alone, and not on what else is in the
store.
-/

namespace LayerScript

/-- A write to the console and the store at that time. -/
structure ConsoleWrite where
  store : Store
  level : Level
  payload : List Ref

namespace Sink

variable {σ : Type}

def recording (out : Sink σ) : Sink (σ × List ConsoleWrite) :=
  ⟨fun store level payload k =>
    (out.write store level payload k.1).map fun answer =>
      (answer.1, answer.2, k.2 ++ [⟨store, level, payload⟩])⟩

/-- Two stores that are the same in all that the payload contains look the same to the sink. -/
def Discreet (out : Sink σ) : Prop :=
  ∀ s t level payload k, (∀ r ∈ payload, s.SameWithin t r) →
    out.write t level payload k = out.write s level payload k

/-- A sink that never looks further than the texts of the values it is shown. -/
theorem discreet_of_texts (write : Level → String → σ → Option (Except SinkError Unit × σ)) :
    Discreet ⟨fun s level payload => write level (s.displayAll payload)⟩ := by
  intro s t level payload k same
  show write level (t.displayAll payload) k = write level (s.displayAll payload) k
  rw [Store.displayAll_congr same]

end Sink

end LayerScript
