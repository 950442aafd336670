import Mathlib.Data.List.Basic
import Footpath.Proofs.Graph.Consistency
import Footpath.Proofs.Document.Numbering

/-! Documents that give all of their ids.

Such a document is added to the empty graph exactly if its ids are numbers, those of the records different
from one another and those of the ends of edges given by vertices. The graph then describes the records
themselves, in their order, and lists under each vertex the edges that start or end there. How an id is
written, as a number or as a text, has no part in it (`addDocument_withNumbers`). -/
namespace Footpath

/-! ### Ids as numbers -/

/-- An id written as a number, if it stands for one. -/
def GivenId.asNumber (i : GivenId) : GivenId := i.number?.elim i .number

theorem GivenId.resolve_asNumber (i : GivenId) : i.asNumber.resolve = i.resolve := by
  rw [asNumber]
  cases hn : i.number? with
  | none => rfl
  | some n => exact (resolve_eq_ok_iff.2 hn).symm

def VertexRecord.withNumbers (r : VertexRecord) : VertexRecord := { r with id := r.id.map GivenId.asNumber }

def EdgeRecord.withNumbers (r : EdgeRecord) : EdgeRecord :=
  { r with id := r.id.map GivenId.asNumber, source := r.source.asNumber, target := r.target.asNumber }

def Record.withNumbers : Record → Record
  | .vertex r => .vertex r.withNumbers
  | .edge r => .edge r.withNumbers

/-- A document in which every id that stands for a number is written as one. -/
def Document.withNumbers (d : Document) : Document :=
  ⟨d.vertices.map VertexRecord.withNumbers, d.edges.map EdgeRecord.withNumbers⟩

theorem Document.records_withNumbers (d : Document) : d.withNumbers.records = d.records.map Record.withNumbers := by
  simp only [records, withNumbers, List.map_append, List.map_map]
  rfl

namespace Graph

theorem addRecord_withNumbers (g : Graph) (r : Record) : g.addRecord r.withNumbers = g.addRecord r := by
  cases r with
  | vertex r =>
    have hplace : g.placeVertex r.withNumbers = g.placeVertex r := by
      obtain ⟨id, label, properties⟩ := r
      cases id with
      | none => rfl
      | some id => simp only [placeVertex, VertexRecord.withNumbers, Option.map_some, GivenId.resolve_asNumber]
    rw [Record.withNumbers, addRecord, addVertexRecord, hplace]
    rfl
  | edge r =>
    have hplace : g.placeEdge r.withNumbers = g.placeEdge r := by
      obtain ⟨id, label, source, target, properties⟩ := r
      cases id with
      | none => simp only [placeEdge, EdgeRecord.withNumbers, Option.map_none, GivenId.resolve_asNumber]
      | some id => simp only [placeEdge, EdgeRecord.withNumbers, Option.map_some, GivenId.resolve_asNumber]
    rw [Record.withNumbers, addRecord, addEdgeRecord, hplace]
    rfl

theorem addRecords_withNumbers (skip : Bool) (g : Graph) (t : Tally) (rs : List Record) :
    g.addRecords skip t (rs.map Record.withNumbers) = g.addRecords skip t rs := by
  induction rs generalizing g t with
  | nil => rfl
  | cons r rs ih =>
    have hcount : t.count r.withNumbers = t.count r := by cases r <;> rfl
    simp only [List.map_cons, addRecords, addRecord_withNumbers, hcount, ih]

/-- How ids are written makes no difference to what is loaded. -/
theorem addDocument_withNumbers (skip : Bool) (g : Graph) (d : Document) :
    g.addDocument skip d.withNumbers = g.addDocument skip d := by
  rw [addDocument, d.records_withNumbers, addRecords_withNumbers]
  rfl

end Graph

/-! ### What a graph holds -/

/-- A vertex as it is stored, if it gives its number. -/
def VertexRecord.entry? (r : VertexRecord) : Option (VertexId × Vertex) :=
  r.number?.map fun n => (⟨n⟩, ⟨r.label, r.properties⟩)

def EdgeRecord.entry? (r : EdgeRecord) : Option (EdgeId × Edge) := do
  return (⟨← r.number?⟩, ⟨r.label, ⟨← r.source.number?⟩, ⟨← r.target.number?⟩, r.properties⟩)

theorem EdgeRecord.of_entry? {r : EdgeRecord} {e : EdgeId × Edge} (h : r.entry? = some e) :
    r.number? = some e.1.number ∧ r.source.number? = some e.2.source.number ∧
      r.target.number? = some e.2.target.number := by
  obtain ⟨n, hn, h⟩ := Option.bind_eq_some_iff.1 h
  obtain ⟨s, hs, h⟩ := Option.bind_eq_some_iff.1 h
  obtain ⟨t, ht, h⟩ := Option.bind_eq_some_iff.1 h
  cases h
  exact ⟨hn, hs, ht⟩

/-- A vertex as the graph that it is added to describes it, if it gives its number. -/
def VertexRecord.description? (r : VertexRecord) : Option Description :=
  r.number?.map fun n => ⟨.vertex ⟨n⟩, r.label, none, r.properties⟩

def EdgeRecord.description? (r : EdgeRecord) : Option Description := do
  return ⟨.edge ⟨← r.number?⟩, r.label, some (⟨← r.source.number?⟩, ⟨← r.target.number?⟩), r.properties⟩

def EdgeRecord.edgeId? (r : EdgeRecord) : Option EdgeId := r.number?.map EdgeId.mk

theorem VertexId.number_inj {v w : VertexId} : v.number = w.number ↔ v = w := by
  rw [VertexId.mk.injEq]

/-- The descriptions of values under their keys, one for each key in turn. -/
theorem OrderedMap.map_keys_find? {κ α β : Type} [DecidableEq κ] (m : OrderedMap κ α) (f : κ → α → β) :
    (m.keys.map fun k => (m.find? k).map (f k)) = m.entries.map fun e => some (f e.1 e.2) := by
  rw [keys, List.map_map]
  apply List.map_congr_left
  intro e he
  rw [Function.comp_apply, find?_of_mem_entries he, Option.map_some]

namespace Graph

/-- The descriptions of the stored vertices, in their order. -/
def vertexRows (g : Graph) : List (Option Description) := g.vertices.keys.map fun v => g.describe? (.vertex v)

def edgeRows (g : Graph) : List (Option Description) := g.edges.keys.map fun e => g.describe? (.edge e)

/-- The two stores hold the records of a document, each under the number that it gives. -/
structure Mirrors (g : Graph) (d : Document) : Prop where
  vertices : g.vertices.entries.map some = d.vertices.map VertexRecord.entry?
  edges : g.edges.entries.map some = d.edges.map EdgeRecord.entry?

variable {g h : Graph} {d : Document}

theorem Mirrors.vertexRows_eq (hg : g.Mirrors d) : g.vertexRows = d.vertices.map VertexRecord.description? := by
  have hrows : g.vertexRows =
      (g.vertices.entries.map some).map (Option.map fun e => ⟨.vertex e.1, e.2.label, none, e.2.properties⟩) := by
    rw [List.map_map]
    exact g.vertices.map_keys_find? _
  rw [hrows, hg.vertices, List.map_map]
  apply List.map_congr_left
  intro r _
  simp only [Function.comp_apply, VertexRecord.entry?, VertexRecord.description?, Option.map_map]
  rfl

theorem Mirrors.edgeRows_eq (hg : g.Mirrors d) : g.edgeRows = d.edges.map EdgeRecord.description? := by
  have hrows : g.edgeRows = (g.edges.entries.map some).map
      (Option.map fun e => ⟨.edge e.1, e.2.label, some (e.2.source, e.2.target), e.2.properties⟩) := by
    rw [List.map_map]
    exact g.edges.map_keys_find? _
  rw [hrows, hg.edges, List.map_map]
  apply List.map_congr_left
  intro r _
  rw [Function.comp_apply, EdgeRecord.entry?, EdgeRecord.description?]
  cases r.number? <;> cases r.source.number? <;> cases r.target.number? <;> rfl

/-- The stored edges that are marked are the marked records. -/
theorem Mirrors.keysWhere_eq (hg : g.Mirrors d) {p : Edge → Bool} {q : EdgeRecord → Bool}
    (hpq : ∀ {r : EdgeRecord} {e : EdgeId × Edge}, r.entry? = some e → q r = p e.2) :
    g.edges.keysWhere p = (d.edges.filter q).filterMap EdgeRecord.edgeId? := by
  have hkeys : g.edges.keysWhere p =
      (g.edges.entries.map some).filterMap fun o => o.bind fun e => if p e.2 then some e.1 else none := by
    rw [OrderedMap.keysWhere_eq, List.filterMap_map, ← List.filterMap_eq_map, List.filterMap_filter]
    rfl
  rw [hkeys, hg.edges, List.filterMap_map, List.filterMap_filter]
  apply List.filterMap_congr
  intro r hr
  have hstored : r.entry? ∈ g.edges.entries.map some := by
    rw [hg.edges]
    exact List.mem_map_of_mem hr
  obtain ⟨e, -, he⟩ := List.mem_map.1 hstored
  rw [Function.comp_apply, hpq he.symm, ← he, Option.bind_some, EdgeRecord.edgeId?,
    (EdgeRecord.of_entry? he.symm).1]
  rfl

/-! ### Records added -/

theorem mirrors_empty : empty.Mirrors (.ofRecords []) := ⟨rfl, rfl⟩

/-- A record under a new number goes to the end of its store. -/
theorem Mirrors.adds {rs : List Record} {r : Record} {n : UInt64} (hg : g.Mirrors (.ofRecords rs))
    (hadd : g.Adds r n h) (hnew : g.hasNumber n = false) :
    h.Mirrors (.ofRecords (rs ++ [r.numbered g.next])) := by
  obtain ⟨hv, he⟩ := Bool.or_eq_false_iff.1 hnew
  have hnumber := hadd.numbered.1
  rw [Document.ofRecords_append]
  cases hadd with
  | @vertex r n next htake hid =>
    obtain ⟨id, hid⟩ := Record.numbered_vertex g.next r
    rw [hid] at hnumber ⊢
    have hentry : VertexRecord.entry? { r with id := id } = some (⟨n⟩, ⟨r.label, r.properties⟩) := by
      rw [VertexRecord.entry?]
      exact congrArg _ hnumber
    refine ⟨?_, ?_⟩
    · show (g.vertices.insert _ _).entries.map some = ((Document.ofRecords rs).vertices ++ [_]).map _
      rw [OrderedMap.entries_insert_of_new hv, List.map_append, List.map_append, hg.vertices,
        List.map_singleton, List.map_singleton, hentry]
    · show g.edges.entries.map some = ((Document.ofRecords rs).edges ++ []).map _
      rw [List.append_nil, hg.edges]
  | @edge r n next s t htake hid hs ht hsource htarget =>
    obtain ⟨id, hid⟩ := Record.numbered_edge g.next r
    rw [hid] at hnumber ⊢
    have hentry : EdgeRecord.entry? { r with id := id } = some (⟨n⟩, ⟨r.label, ⟨s⟩, ⟨t⟩, r.properties⟩) := by
      have hnumber : EdgeRecord.number? { r with id := id } = some n := hnumber
      rw [EdgeRecord.entry?, hnumber, hs, ht]
      rfl
    refine ⟨?_, ?_⟩
    · show g.vertices.entries.map some = ((Document.ofRecords rs).vertices ++ []).map _
      rw [List.append_nil, hg.vertices]
    · show (g.edges.insert _ _).entries.map some = ((Document.ofRecords rs).edges ++ [_]).map _
      rw [OrderedMap.entries_insert_of_new he, List.map_append, List.map_append, hg.edges,
        List.map_singleton, List.map_singleton, hentry]

/-- Records under new numbers go to the ends of the stores one after another. -/
theorem Mirrors.addsAll {done rs : List Record} {ns : List UInt64} (hg : g.Mirrors (.ofRecords done))
    (hall : g.AddsAll rs ns h) (hns : g.Fresh ns) : h.Mirrors (.ofRecords (done ++ Record.numberAll g.next rs)) := by
  induction hall generalizing done with
  | nil g => rwa [Record.numberAll, List.append_nil]
  | cons hadd hall ih =>
    obtain ⟨hn, hrest⟩ := hadd.fresh_cons_iff.1 hns
    rw [Record.numberAll, List.append_cons, ← hadd.numbered.2]
    exact ih (hg.adds hadd hn) hrest

/-- A record that gives its number keeps a graph together, as the counter is not drawn from. -/
theorem Consistent.adds {r : Record} {n : UInt64} (hg : g.Consistent) (hadd : g.Adds r n h) (hid : r.id ≠ none) :
    h.Consistent := by
  obtain ⟨x, k, -, hplace, hwrite⟩ := hadd.effects
  rw [Option.isNone_eq_false_iff.2 (Option.isSome_iff_ne_none.2 hid)] at hplace
  have hchosen : ∀ m : UInt64, false = true → m < 0xffffffffffffffff := fun _ => nofun
  exact (hg.effect (hchosen _) hplace).effect (hchosen _) hwrite

theorem Consistent.addsAll {rs : List Record} {ns : List UInt64} (hg : g.Consistent) (hall : g.AddsAll rs ns h)
    (hid : ∀ r ∈ rs, r.id ≠ none) : h.Consistent := by
  induction hall with
  | nil g => exact hg
  | cons hadd hall ih =>
    exact ih (hg.adds hadd (hid _ List.mem_cons_self)) fun r hr => hid r (List.mem_cons_of_mem _ hr)

/-! ### Documents -/

theorem Mirrors.number?_of_contains (hg : g.Mirrors d) {m : UInt64} (hm : g.vertices.contains ⟨m⟩ = true) :
    some m ∈ d.vertices.map VertexRecord.number? := by
  obtain ⟨e, he, hkey⟩ := List.mem_map.1 ((OrderedMap.contains_iff_mem _ _).1 hm)
  have hentry : some e ∈ d.vertices.map VertexRecord.entry? := by
    rw [← hg.vertices]
    exact List.mem_map_of_mem he
  obtain ⟨r, hr, hre⟩ := List.mem_map.1 hentry
  obtain ⟨n, hn, rfl⟩ := Option.map_eq_some_iff.1 hre
  cases hkey
  exact hn ▸ List.mem_map_of_mem hr

theorem addDocument_eq_ok_iff {t : Tally} :
    empty.addDocument false d = (g, .ok t) ↔
      (∃ ns, empty.AddsAll d.records ns g) ∧ t = ⟨d.vertices.length, d.edges.length, 0⟩ := by
  rw [addDocument, addRecords_eq_ok_iff, Document.ofRecords_records, Tally.countAll, Tally.zero, Nat.zero_add,
    Nat.zero_add]

theorem addDocument_loads_iff :
    (∃ t, (empty.addDocument false d).2 = .ok t) ↔ ∃ ns g, empty.AddsAll d.records ns g := by
  constructor
  · rintro ⟨t, ht⟩
    obtain ⟨⟨ns, hall⟩, -⟩ := addDocument_eq_ok_iff.1 (Prod.ext rfl ht)
    exact ⟨ns, _, hall⟩
  · rintro ⟨ns, g, hall⟩
    exact ⟨_, congrArg Prod.snd (addDocument_eq_ok_iff.2 ⟨⟨ns, hall⟩, rfl⟩)⟩

/-- What is added under new numbers is a document with these written in. -/
theorem AddsAll.mirrors_numbered {ns : List UInt64} (hall : empty.AddsAll d.records ns g) (hns : empty.Fresh ns) :
    g.Mirrors d.numbered :=
  mirrors_empty.addsAll hall hns

section
variable {ns : List UInt64} (hid : ∀ r ∈ d.records, r.id ≠ none)
include hid

theorem AddsAll.map_number? (hall : empty.AddsAll d.records ns g) : d.records.map Record.number? = ns.map some := by
  rw [← hall.numberAll, Record.numberAll_of_id hid]

theorem AddsAll.mirrors (hall : empty.AddsAll d.records ns g) : g.Mirrors d := by
  have hg := hall.mirrors_numbered (hall.fresh_of_id hid)
  rwa [Document.numbered, Record.numberAll_of_id hid, Document.ofRecords_records] at hg

/-- What has been added was in order. -/
theorem AddsAll.sound (hall : empty.AddsAll d.records ns g) : d.Sound := by
  have hstored : ∀ i : GivenId, (∃ m, i.number? = some m ∧ g.vertices.contains ⟨m⟩ = true) →
      i.number? ∈ d.vertices.map VertexRecord.number? := by
    rintro i ⟨m, hm, hv⟩
    rw [hm]
    exact (hall.mirrors hid).number?_of_contains hv
  refine ⟨fun r hr i hi => ?_, ?_, fun r hr => ?_⟩
  · rcases List.mem_append.1 hi with hi | hi
    · exact (hall.resolved hr).1 i (Option.mem_toList.1 hi)
    · obtain ⟨m, hm, -⟩ := (hall.resolved hr).2 i hi
      rw [hm]
      rfl
  · have hnumbers : d.records.filterMap Record.number? = (d.records.map Record.number?).filterMap id := by
      rw [List.filterMap_map, Function.id_comp]
    rw [hnumbers, hall.map_number? hid, List.filterMap_map, Function.id_comp, List.filterMap_some]
    exact (hall.fresh_of_id hid).nodup
  · have hedge : Record.edge r ∈ d.records := List.mem_append_right _ (List.mem_map_of_mem hr)
    exact ⟨hstored _ ((hall.resolved hedge).2 _ List.mem_cons_self),
      hstored _ ((hall.resolved hedge).2 _ (List.mem_cons_of_mem _ List.mem_cons_self))⟩

/-- What is in order is added to the end. -/
theorem exists_addsAll_of_sound (hd : d.Sound) : ∃ ns g, empty.AddsAll d.records ns g := by
  apply hd.addsAll_iff.2
  intro before r after n hrs hn hmem
  have hbefore : ∀ r ∈ before, r.id ≠ none := by
    intro r hr
    apply hid
    rw [hrs]
    exact List.mem_append_left _ hr
  rw [Record.numberAll_of_id hbefore, List.mem_map] at hmem
  obtain ⟨q, hq, hqn⟩ := hmem
  have hdistinct := hd.distinct
  rw [hrs, List.filterMap_append, List.filterMap_cons_some hn, List.nodup_append] at hdistinct
  exact hdistinct.2.2 n (List.mem_filterMap.2 ⟨q, hq, hqn⟩) n List.mem_cons_self rfl

end

/-- **A document that gives all of its ids is added exactly if they are in order**, that is, if they are
numbers, those of records different from one another and those of ends given by vertices. Then the graph
describes the records in turn and nothing else, and lists under each vertex the edges that start there and
those that end there, in the order of the document. Ids written in another way load the same. -/
theorem addDocument_given (d : Document) (hid : ∀ r ∈ d.records, r.id ≠ none) :
    ((∃ t, (empty.addDocument false d).2 = .ok t) ↔ d.Sound) ∧
      (∀ g t, empty.addDocument false d = (g, .ok t) →
        t = ⟨d.vertices.length, d.edges.length, 0⟩ ∧
          g.vertexRows = d.vertices.map VertexRecord.description? ∧
          g.edgeRows = d.edges.map EdgeRecord.description? ∧
          ∀ v : VertexId,
            g.outgoing v =
              (d.edges.filter fun r => r.source.number? = some v.number).filterMap EdgeRecord.edgeId? ∧
            g.incoming v =
              (d.edges.filter fun r => r.target.number? = some v.number).filterMap EdgeRecord.edgeId?) ∧
      ∀ d' : Document, d'.withNumbers = d.withNumbers →
        ∀ (skip : Bool) (g : Graph), g.addDocument skip d' = g.addDocument skip d := by
  refine ⟨addDocument_loads_iff.trans ⟨?_, exists_addsAll_of_sound hid⟩, ?_, ?_⟩
  · rintro ⟨ns, g, hall⟩
    exact hall.sound hid
  · intro g t hadd
    obtain ⟨⟨ns, hall⟩, rfl⟩ := addDocument_eq_ok_iff.1 hadd
    have hg := hall.mirrors hid
    have hconsistent := consistent_empty.addsAll hall hid
    refine ⟨rfl, hg.vertexRows_eq, hg.edgeRows_eq, fun v => ⟨?_, ?_⟩⟩
    · rw [hconsistent.outgoing_eq]
      apply hg.keysWhere_eq
      intro r e he
      rw [(EdgeRecord.of_entry? he).2.1]
      exact decide_eq_decide.2 ((Option.some_inj).trans VertexId.number_inj)
    · rw [hconsistent.incoming_eq]
      apply hg.keysWhere_eq
      intro r e he
      rw [(EdgeRecord.of_entry? he).2.2]
      exact decide_eq_decide.2 ((Option.some_inj).trans VertexId.number_inj)
  · intro d' hsame skip g
    rw [← addDocument_withNumbers skip g d', hsame, addDocument_withNumbers]

/-- Ids of both kinds, the largest number among them; one edge runs back to where it starts. -/
def atlas : Document :=
  ⟨[⟨some (.number 0xffffffffffffffff), "city", .ofList [("name", .text "Bern")]⟩,
      ⟨some (.text " 7 "), "town", .empty⟩],
    [⟨some (.text "+2"), "road", .number 7, .text "18446744073709551615", .empty⟩,
      ⟨some (.number 1), "ring", .text "07", .number 7, .ofList [("lanes", .integer 2)]⟩]⟩

/-- The atlas loads, written with numbers or without. -/
theorem addDocument_given_atlas :
    (∀ r ∈ atlas.records, r.id ≠ none) ∧ atlas.Sound ∧
      empty.addDocument false atlas.withNumbers = empty.addDocument false atlas ∧
      ∃ g, empty.addDocument false atlas = (g, .ok ⟨2, 2, 0⟩) ∧
        g.vertexRows = [some ⟨.vertex ⟨0xffffffffffffffff⟩, "city", none, .ofList [("name", .text "Bern")]⟩,
          some ⟨.vertex ⟨7⟩, "town", none, .empty⟩] ∧
        g.outgoing ⟨7⟩ = [⟨2⟩, ⟨1⟩] ∧ g.incoming ⟨7⟩ = [⟨1⟩] := by
  have hid : ∀ r ∈ atlas.records, r.id ≠ none := by decide +kernel
  have hsound : atlas.Sound := by decide +kernel
  obtain ⟨hloads, hholds, hwritten⟩ := addDocument_given atlas hid
  obtain ⟨t, ht⟩ := hloads.2 hsound
  obtain ⟨rfl, hvertices, -, hedges⟩ := hholds _ t (Prod.ext rfl ht)
  refine ⟨hid, hsound, hwritten _ (by decide +kernel) _ _, _, Prod.ext rfl ht, hvertices.trans ?_,
    (hedges ⟨7⟩).1.trans ?_, (hedges ⟨7⟩).2.trans ?_⟩
  all_goals decide +kernel

end Graph

end Footpath
