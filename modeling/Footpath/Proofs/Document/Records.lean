import Footpath.Document.Load
import Footpath.Proofs.Graph.Effects

/-! What a record adds to a graph.

An element that has just been added takes any property, so a record that is placed is stored with all of its
properties. `Graph.Adds` says what is stored and under which number, and `addRecord_cases` that this is what
becomes of every record that is not refused, and that nothing is stored of one that is. -/
namespace Footpath

/-- The number that an id stands for, if it stands for one. -/
def GivenId.number? (i : GivenId) : Option UInt64 := i.resolve.toOption

theorem GivenId.resolve_eq_ok_iff {i : GivenId} {n : UInt64} : i.resolve = .ok n ↔ i.number? = some n := by
  rw [number?]
  cases i.resolve with
  | error f => simp [Except.toOption]
  | ok m => simp [Except.toOption]

namespace Graph

variable {g h : Graph}

/-! ### Places -/

theorem placeVertex_eq_ok_iff {r : VertexRecord} {v : VertexId} :
    g.placeVertex r = .ok (v, h) ↔ ∃ n next, g.Takes r.id.isNone n next ∧ (∀ i ∈ r.id, i.number? = some n) ∧
      v = ⟨n⟩ ∧ h = { g.putVertex ⟨n⟩ r.label with next := next } := by
  unfold placeVertex
  cases r.id with
  | none =>
    constructor
    · rintro ⟨⟩
      exact ⟨g.next, _, .next, (fun i hi => by cases hi), rfl, rfl⟩
    · rintro ⟨n, next, htake, -, rfl, rfl⟩
      cases htake
      rfl
  | some id =>
    dsimp only
    rw [bind_eq_ok_iff]
    constructor
    · rintro ⟨n, hid, hadd⟩
      obtain ⟨hfree, rfl, rfl⟩ := addVertexAt_eq_ok hadd
      refine ⟨n, _, .chosen hfree, fun i hi => ?_, rfl, rfl⟩
      cases hi
      exact GivenId.resolve_eq_ok_iff.1 hid
    · rintro ⟨n, next, htake, hid, rfl, rfl⟩
      cases htake with
      | chosen hfree =>
        refine ⟨n, GivenId.resolve_eq_ok_iff.2 (hid id rfl), ?_⟩
        rw [addVertexAt, hfree]
        rfl

theorem checkEnds_eq_ok_iff {s t : VertexId} :
    g.checkEnds s t = .ok () ↔ g.vertices.contains s = true ∧ g.vertices.contains t = true := by
  refine ⟨contains_of_checkEnds, fun ⟨hs, ht⟩ => ?_⟩
  rw [checkEnds, hs, ht]
  rfl

theorem placeEdge_eq_ok_iff {r : EdgeRecord} {e : EdgeId} :
    g.placeEdge r = .ok (e, h) ↔ ∃ n next s t, g.Takes r.id.isNone n next ∧ (∀ i ∈ r.id, i.number? = some n) ∧
      r.source.number? = some s ∧ r.target.number? = some t ∧ g.vertices.contains ⟨s⟩ = true ∧
      g.vertices.contains ⟨t⟩ = true ∧ e = ⟨n⟩ ∧ h = { g.putEdge ⟨n⟩ r.label ⟨s⟩ ⟨t⟩ with next := next } := by
  unfold placeEdge
  simp only [bind_eq_ok_iff, GivenId.resolve_eq_ok_iff]
  cases r.id with
  | none =>
    dsimp only
    constructor
    · rintro ⟨s, hs, t, ht, hadd⟩
      obtain ⟨hends, rfl, rfl⟩ := addEdge_eq_ok hadd
      obtain ⟨hsource, htarget⟩ := contains_of_checkEnds hends
      exact ⟨g.next, _, s, t, .next, (fun i hi => by cases hi), hs, ht, hsource, htarget, rfl, rfl⟩
    · rintro ⟨n, next, s, t, htake, -, hs, ht, hsource, htarget, rfl, rfl⟩
      cases htake
      refine ⟨s, hs, t, ht, ?_⟩
      rw [addEdge, checkEnds_eq_ok_iff.2 ⟨hsource, htarget⟩]
  | some id =>
    simp only [bind_eq_ok_iff, GivenId.resolve_eq_ok_iff]
    constructor
    · rintro ⟨s, hs, t, ht, n, hid, hadd⟩
      obtain ⟨hends, hfree, rfl, rfl⟩ := addEdgeAt_eq_ok hadd
      obtain ⟨hsource, htarget⟩ := contains_of_checkEnds hends
      refine ⟨n, _, s, t, .chosen hfree, fun i hi => ?_, hs, ht, hsource, htarget, rfl, rfl⟩
      cases hi
      exact hid
    · rintro ⟨n, next, s, t, htake, hid, hs, ht, hsource, htarget, rfl, rfl⟩
      cases htake with
      | chosen hfree =>
        refine ⟨s, hs, t, ht, n, hid id rfl, ?_⟩
        rw [addEdgeAt, checkEnds_eq_ok_iff.2 ⟨hsource, htarget⟩]
        exact if_neg (Bool.eq_false_iff.1 hfree)

/-! ### Properties -/

/-- The properties of a record go to the vertex that it has added. -/
theorem writeAll_vertex (v : VertexId) (x : Vertex) (ps : List (String × Value)) :
    writeAll (·.setVertexProperty v) { g with vertices := g.vertices.insert v x } ps =
      ({ g with
        vertices := g.vertices.insert v ⟨x.label, ps.foldl (fun m p => m.insert p.1 p.2) x.properties⟩ },
        .ok ()) := by
  induction ps generalizing x with
  | nil => rfl
  | cons p ps ih =>
    rw [writeAll, setVertexProperty, OrderedMap.find?_insert_self]
    dsimp only
    rw [OrderedMap.insert_insert]
    exact ih _

theorem writeAll_edge (e : EdgeId) (x : Edge) (ps : List (String × Value)) :
    writeAll (·.setEdgeProperty e) { g with edges := g.edges.insert e x } ps =
      ({ g with
        edges := g.edges.insert e
          ⟨x.label, x.source, x.target, ps.foldl (fun m p => m.insert p.1 p.2) x.properties⟩ },
        .ok ()) := by
  induction ps generalizing x with
  | nil => rfl
  | cons p ps ih =>
    rw [writeAll, setEdgeProperty, OrderedMap.find?_insert_self]
    dsimp only
    rw [OrderedMap.insert_insert]
    exact ih _

/-! ### Records -/

/-- What a record that is added leaves: an element with its label, its ends and its properties, under the
number of its id or one from the counter. -/
inductive Adds (g : Graph) : Record → UInt64 → Graph → Prop where
  | vertex {r : VertexRecord} {n next : UInt64} (htake : g.Takes r.id.isNone n next)
      (hid : ∀ i ∈ r.id, i.number? = some n) :
      Adds g (.vertex r) n
        { g with vertices := g.vertices.insert ⟨n⟩ ⟨r.label, r.properties⟩, next := next }
  | edge {r : EdgeRecord} {n next s t : UInt64} (htake : g.Takes r.id.isNone n next)
      (hid : ∀ i ∈ r.id, i.number? = some n) (hs : r.source.number? = some s) (ht : r.target.number? = some t)
      (hsource : g.vertices.contains ⟨s⟩ = true) (htarget : g.vertices.contains ⟨t⟩ = true) :
      Adds g (.edge r) n
        { g with
          edges := g.edges.insert ⟨n⟩ ⟨r.label, ⟨s⟩, ⟨t⟩, r.properties⟩
          index := g.index.add ⟨n⟩ ⟨s⟩ ⟨t⟩
          next := next }

theorem Adds.addRecord_eq {r : Record} {n : UInt64} (hadd : g.Adds r n h) : g.addRecord r = (h, .ok ()) := by
  cases hadd with
  | @vertex r n next htake hid =>
    rw [addRecord, addVertexRecord, placeVertex_eq_ok_iff.2 ⟨n, next, htake, hid, rfl, rfl⟩]
    have hwrite := writeAll_vertex (g := { g with next := next }) ⟨n⟩ ⟨r.label, .empty⟩ r.properties.entries
    rwa [OrderedMap.foldl_insert_entries] at hwrite
  | @edge r n next s t htake hid hs ht hsource htarget =>
    rw [addRecord, addEdgeRecord,
      placeEdge_eq_ok_iff.2 ⟨n, next, s, t, htake, hid, hs, ht, hsource, htarget, rfl, rfl⟩]
    have hwrite := writeAll_edge (g := { g with index := g.index.add ⟨n⟩ ⟨s⟩ ⟨t⟩, next := next }) ⟨n⟩
      ⟨r.label, ⟨s⟩, ⟨t⟩, .empty⟩ r.properties.entries
    rwa [OrderedMap.foldl_insert_entries] at hwrite

/-- A record is added with all of its properties, or the graph stays as it was. -/
theorem addRecord_cases (g : Graph) (r : Record) :
    (∃ n h, g.Adds r n h) ∨ ∃ f, g.addRecord r = (g, .error f) := by
  cases r with
  | vertex r =>
    cases hplace : g.placeVertex r with
    | error f => exact .inr ⟨f, by rw [addRecord, addVertexRecord, hplace]⟩
    | ok placed =>
      obtain ⟨n, next, htake, hid, -, -⟩ := placeVertex_eq_ok_iff.1 hplace
      exact .inl ⟨n, _, .vertex htake hid⟩
  | edge r =>
    cases hplace : g.placeEdge r with
    | error f => exact .inr ⟨f, by rw [addRecord, addEdgeRecord, hplace]⟩
    | ok placed =>
      obtain ⟨n, next, s, t, htake, hid, hs, ht, hsource, htarget, -, -⟩ := placeEdge_eq_ok_iff.1 hplace
      exact .inl ⟨n, _, .edge htake hid hs ht hsource htarget⟩

end Graph

end Footpath
