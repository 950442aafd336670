import Footpath.Graph.Change

/-! What a change can do to a graph.

A change that succeeds stores one new vertex or edge, or writes the properties of one that is
stored. `Effect` lists the four outcomes and `effect_of_change` says that there are no others, so
what each of them preserves is preserved by every change (`apply_cases`) and every history. -/
namespace Footpath

def Element.edge? : Element → Option EdgeId
  | .vertex _ => none
  | .edge e => some e

namespace Graph

/-! ### Automatic numbers -/

/-- Whether a change takes its number from the counter. -/
def draws (g : Graph) : Change → Bool
  | .addVertex _ => true
  | .addEdge _ source target => (g.checkEnds source target).isOk
  | _ => false

/-- The counter is below the largest number wherever a history takes its number from it. -/
def Roomy (g : Graph) : List Change → Prop
  | [] => True
  | c :: cs => (g.draws c = true → g.next < 0xffffffffffffffff) ∧ (g.apply c).Roomy cs

def decidableRoomy (g : Graph) : (cs : List Change) → Decidable (g.Roomy cs)
  | [] => isTrue trivial
  | c :: cs =>
    have : Decidable ((g.apply c).Roomy cs) := decidableRoomy _ cs
    inferInstanceAs (Decidable (_ ∧ _))

instance (g : Graph) (cs : List Change) : Decidable (g.Roomy cs) := decidableRoomy g cs

/-! ### Effects -/

/-- The number that an addition takes, and the counter behind it: the next one when it is drawn, a
free one when it is chosen. -/
inductive Takes (g : Graph) : (drawn : Bool) → (n next : UInt64) → Prop where
  | next : Takes g true g.next (g.next + 1)
  | chosen {n : UInt64} (hfree : g.hasNumber n = false) : Takes g false n (g.nextAfter n)

/-- The counter never moves back, and it ends up past the number taken unless that is the largest. -/
theorem Takes.bounds {g : Graph} {drawn : Bool} {n next : UInt64} (htake : g.Takes drawn n next)
    (hroom : drawn = true → g.next < 0xffffffffffffffff) :
    g.next ≤ next ∧ (n < next ∨ n = 0xffffffffffffffff) := by
  cases htake with
  | next =>
    have hstep : g.next < g.next + 1 := by
      have := hroom rfl
      grind
    exact ⟨UInt64.le_of_lt hstep, .inl hstep⟩
  | chosen hfree =>
    have hmax : ∀ a b : UInt64, a ≤ max a b ∧ b ≤ max a b := by
      intro a b
      show a ≤ (if a ≤ b then b else a) ∧ b ≤ if a ≤ b then b else a
      grind
    unfold nextAfter
    refine ⟨(hmax _ _).1, ?_⟩
    by_cases hn : n = 0xffffffffffffffff
    · exact .inr hn
    · left
      have hstep : n < n + 1 := by grind
      rw [if_neg hn]
      exact UInt64.lt_of_lt_of_le hstep (hmax _ _).2

/-- All that a change which succeeds can do: what it adds, and the graph that it leaves. -/
inductive Effect (g : Graph) (drawn : Bool) : Option Element → Graph → Prop where
  | vertex {n next : UInt64} (htake : g.Takes drawn n next) (label : String) :
      Effect g drawn (some (.vertex ⟨n⟩)) { g.putVertex ⟨n⟩ label with next := next }
  | edge {n next : UInt64} (htake : g.Takes drawn n next) (label : String) {s t : VertexId}
      (hs : g.vertices.contains s = true) (ht : g.vertices.contains t = true) :
      Effect g drawn (some (.edge ⟨n⟩)) { g.putEdge ⟨n⟩ label s t with next := next }
  | vertexProperties {v : VertexId} {r : Vertex} (hfind : g.vertices.find? v = some r)
      (properties : Properties) :
      Effect g drawn none { g with vertices := g.vertices.insert v { r with properties } }
  | edgeProperties {e : EdgeId} {r : Edge} (hfind : g.edges.find? e = some r)
      (properties : Properties) :
      Effect g drawn none { g with edges := g.edges.insert e { r with properties } }

theorem exists_of_map_eq_ok {ε α β : Type} {x : Except ε α} {f : α → β} {b : β} (h : x.map f = .ok b) :
    ∃ a, x = .ok a ∧ f a = b := by
  cases x with
  | error e => cases h
  | ok a =>
    cases h
    exact ⟨a, rfl, rfl⟩

theorem contains_of_checkEnds {g : Graph} {s t : VertexId} (h : g.checkEnds s t = .ok ()) :
    g.vertices.contains s = true ∧ g.vertices.contains t = true := by
  unfold checkEnds at h
  split at h
  · cases h
  · rename_i hs
    split at h
    · cases h
    · rename_i ht
      simp only [Bool.not_eq_true', Bool.not_eq_false] at hs ht
      exact ⟨hs, ht⟩

theorem addVertexAt_eq_ok {g h : Graph} {n : UInt64} {label : String} {v : VertexId}
    (hadd : g.addVertexAt n label = .ok (v, h)) :
    g.hasNumber n = false ∧ v = ⟨n⟩ ∧ h = { g.putVertex ⟨n⟩ label with next := g.nextAfter n } := by
  unfold addVertexAt at hadd
  split at hadd
  · cases hadd
  · rename_i hfree
    cases hadd
    exact ⟨Bool.eq_false_iff.2 hfree, rfl, rfl⟩

theorem addEdge_eq_ok {g h : Graph} {label : String} {s t : VertexId} {e : EdgeId}
    (hadd : g.addEdge label s t = .ok (e, h)) :
    g.checkEnds s t = .ok () ∧ e = ⟨g.next⟩ ∧
      h = { g.putEdge ⟨g.next⟩ label s t with next := g.next + 1 } := by
  unfold addEdge at hadd
  split at hadd
  · cases hadd
  · rename_i hends
    cases hadd
    exact ⟨hends, rfl, rfl⟩

theorem addEdgeAt_eq_ok {g h : Graph} {n : UInt64} {label : String} {s t : VertexId} {e : EdgeId}
    (hadd : g.addEdgeAt n label s t = .ok (e, h)) :
    g.checkEnds s t = .ok () ∧ g.hasNumber n = false ∧ e = ⟨n⟩ ∧
      h = { g.putEdge ⟨n⟩ label s t with next := g.nextAfter n } := by
  unfold addEdgeAt at hadd
  split at hadd
  · cases hadd
  · rename_i hends
    split at hadd
    · cases hadd
    · rename_i hfree
      cases hadd
      exact ⟨hends, Bool.eq_false_iff.2 hfree, rfl, rfl⟩

theorem setVertexProperty_eq_ok {g h : Graph} {v : VertexId} {key : String} {value : Value}
    (hset : g.setVertexProperty v key value = .ok h) :
    ∃ r, g.vertices.find? v = some r ∧ h = { g with
      vertices := g.vertices.insert v { r with properties := r.properties.insert key value } } := by
  unfold setVertexProperty at hset
  split at hset
  · cases hset
  · rename_i r hfind
    cases hset
    exact ⟨r, hfind, rfl⟩

theorem setEdgeProperty_eq_ok {g h : Graph} {e : EdgeId} {key : String} {value : Value}
    (hset : g.setEdgeProperty e key value = .ok h) :
    ∃ r, g.edges.find? e = some r ∧ h = { g with
      edges := g.edges.insert e { r with properties := r.properties.insert key value } } := by
  unfold setEdgeProperty at hset
  split at hset
  · cases hset
  · rename_i r hfind
    cases hset
    exact ⟨r, hfind, rfl⟩

/-- **A change has one of the four effects.** -/
theorem effect_of_change {g h : Graph} {c : Change} {x : Option Element}
    (hc : g.change c = .ok (x, h)) : g.Effect (g.draws c) x h := by
  cases c with
  | addVertex label =>
    cases hc
    exact .vertex .next label
  | addVertexAt n label =>
    obtain ⟨⟨v, h'⟩, hadd, heq⟩ := exists_of_map_eq_ok hc
    obtain ⟨hfree, rfl, rfl⟩ := addVertexAt_eq_ok hadd
    cases heq
    exact .vertex (.chosen hfree) label
  | addEdge label s t =>
    obtain ⟨⟨e, h'⟩, hadd, heq⟩ := exists_of_map_eq_ok hc
    obtain ⟨hends, rfl, rfl⟩ := addEdge_eq_ok hadd
    obtain ⟨hs, ht⟩ := contains_of_checkEnds hends
    cases heq
    rw [draws, hends]
    exact .edge .next label hs ht
  | addEdgeAt n label s t =>
    obtain ⟨⟨e, h'⟩, hadd, heq⟩ := exists_of_map_eq_ok hc
    obtain ⟨hends, hfree, rfl, rfl⟩ := addEdgeAt_eq_ok hadd
    obtain ⟨hs, ht⟩ := contains_of_checkEnds hends
    cases heq
    exact .edge (.chosen hfree) label hs ht
  | setVertexProperty v key value =>
    obtain ⟨h', hset, heq⟩ := exists_of_map_eq_ok hc
    obtain ⟨r, hfind, rfl⟩ := setVertexProperty_eq_ok hset
    cases heq
    exact .vertexProperties hfind _
  | setEdgeProperty e key value =>
    obtain ⟨h', hset, heq⟩ := exists_of_map_eq_ok hc
    obtain ⟨r, hfind, rfl⟩ := setEdgeProperty_eq_ok hset
    cases heq
    exact .edgeProperties hfind _

/-! ### Histories -/

/-- The element that a change adds, if it succeeds and adds one. -/
def addedBy (g : Graph) (c : Change) : Option Element :=
  match g.change c with
  | .ok (x, _) => x
  | .error _ => none

/-- The elements that a history adds, oldest first. -/
def added (g : Graph) : List Change → List Element
  | [] => []
  | c :: cs => (g.addedBy c).toList ++ (g.apply c).added cs

theorem apply_cases (g : Graph) (c : Change) :
    (g.addedBy c = none ∧ g.apply c = g) ∨ g.Effect (g.draws c) (g.addedBy c) (g.apply c) := by
  unfold addedBy apply
  cases hc : g.change c with
  | error f => exact .inl ⟨rfl, rfl⟩
  | ok r => exact .inr (effect_of_change hc)

end Graph

end Footpath
