import LayerScript.Text.Cluster
import LayerScript.Text.Position

/-!
# Typed lines

A backspace in a line takes back the cluster typed before it. `typed` is what is left of a line;
`typed_of_not_mem` says that a line without backspaces is left as it is.
-/

namespace LayerScript.Text

def backspace : Char := '\x08'

/-- The text typed so far, last character first, and the sizes in bytes of its clusters, last
cluster first. A size has eight bits, so that of a cluster of 256 bytes or more only a part is
taken back. -/
structure Typing where
  text : List Char
  sizes : List UInt8

namespace Typing

def empty : Typing := ⟨[], []⟩

/-- Drops the characters that fit into `size` bytes. -/
def dropBytes (size : Nat) : List Char → List Char
  | [] => []
  | c :: cs => if c.utf8Size ≤ size then dropBytes (size - c.utf8Size) cs else c :: cs

def takeBack (t : Typing) : Typing :=
  match t.sizes with
  | [] => t
  | size :: sizes => ⟨dropBytes size.toNat t.text, sizes⟩

/-- Types a cluster. -/
def type (t : Typing) (cluster : List Char) : Typing :=
  if cluster = [backspace] then t.takeBack
  else ⟨cluster.reverse ++ t.text, UInt8.ofNat (byteLength cluster) :: t.sizes⟩

theorem text_foldl_type {clusters : List (List Char)} (h : [backspace] ∉ clusters) (t : Typing) :
    (clusters.foldl type t).text = clusters.flatten.reverse ++ t.text := by
  induction clusters generalizing t with
  | nil => rfl
  | cons cluster clusters ih =>
    rw [List.mem_cons, not_or] at h
    rw [List.foldl_cons, ih h.2, type, if_neg (Ne.symm h.1)]
    simp

end Typing

/-- What is left of a line. -/
def typed (cs : List Char) : List Char :=
  ((clusters cs).foldl Typing.type .empty).text.reverse

theorem typed_of_not_mem {cs : List Char} (h : backspace ∉ cs) : typed cs = cs := by
  have : [backspace] ∉ clusters cs := fun hb =>
    h (flatten_clusters cs ▸ List.mem_flatten.2 ⟨_, hb, List.mem_singleton.2 rfl⟩)
  rw [typed, Typing.text_foldl_type this, flatten_clusters]
  simp [Typing.empty]

end LayerScript.Text
