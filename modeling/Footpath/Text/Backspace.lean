import Footpath.Text.Cluster

/-! Backspaces in a text that was not typed: each takes away the cluster before it. The size of a
cluster is kept in one byte, so of a cluster of 256 bytes or more only the remainder goes. -/
namespace Footpath.Text

/-- What is left of a text, last character first, and the sizes of its clusters, last one first. -/
structure Typed where
  text : List Char
  sizes : List Nat
deriving DecidableEq

def backspace : Char := '\x08'

def bytes (s : List Char) : Nat := s.foldl (fun n c => n + c.utf8Size) 0

/-- Takes as many whole characters off the front as fit a number of bytes. -/
def dropBytes : Nat → List Char → List Char
  | _, [] => []
  | n, c :: cs => if c.utf8Size ≤ n then dropBytes (n - c.utf8Size) cs else c :: cs

namespace Typed

def erase (t : Typed) : Typed :=
  match t.sizes with
  | [] => t
  | n :: ns => ⟨dropBytes n t.text, ns⟩

def type (t : Typed) (cluster : List Char) : Typed :=
  ⟨cluster.reverse ++ t.text, bytes cluster % 256 :: t.sizes⟩

def step (t : Typed) (cluster : List Char) : Typed :=
  if cluster = [backspace] then t.erase else t.type cluster

end Typed

def applyBackspaces (s : List Char) : List Char :=
  ((clusters s).foldl Typed.step ⟨[], []⟩).text.reverse

theorem text_foldl_step (ws : List (List Char)) (t : Typed) (h : [backspace] ∉ ws) :
    (ws.foldl Typed.step t).text = ws.flatten.reverse ++ t.text := by
  induction ws generalizing t with
  | nil => rfl
  | cons w ws ih =>
    rw [List.mem_cons, not_or] at h
    simp [ih _ h.2, Typed.step, Ne.symm h.1, Typed.type]

theorem applyBackspaces_eq_self {s : List Char} (h : backspace ∉ s) : applyBackspaces s = s := by
  have hw : [backspace] ∉ clusters s := fun hm =>
    h (flatten_clusters s ▸ List.mem_flatten.mpr ⟨_, hm, List.mem_singleton.mpr rfl⟩)
  simp [applyBackspaces, text_foldl_step _ _ hw, flatten_clusters]

end Footpath.Text
