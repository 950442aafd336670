import Mathlib.Data.List.Nodup
import Footpath.Proofs.Document.Loading

/-! Documents that leave ids out.

A record without an id takes the number at the counter, and the counter knows only the records before it.
So a number drawn early can be one that a later record gives, and then that record is refused. Where this
does not happen, and the counter does not run past the largest number, each record without an id is stored
under a number of its own. -/
namespace Footpath.Graph

variable {d : Document} {ns : List UInt64} {g : Graph}

theorem empty_fresh_iff : empty.Fresh ns ↔ ns.Nodup :=
  ⟨Fresh.nodup, fun hns => ⟨hns, fun _ _ => rfl⟩⟩

theorem AddsAll.nodup_numberAll_iff (hall : empty.AddsAll d.records ns g) :
    ((Record.numberAll 1 d.records).map Record.number?).Nodup ↔ empty.Fresh ns := by
  have hnumbers : (Record.numberAll 1 d.records).map Record.number? = ns.map some := hall.numberAll
  rw [hnumbers, List.nodup_map_iff fun _ _ => Option.some.inj, empty_fresh_iff]

/-- A record under a number of its own gives none that was taken before. -/
theorem not_mem_before_of_nodup (hnodup : ((Record.numberAll 1 d.records).map Record.number?).Nodup)
    {before after : List Record} {r : Record} {n : UInt64} (hrs : d.records = before ++ r :: after)
    (hn : r.number? = some n) : some n ∉ (Record.numberAll 1 before).map Record.number? := by
  have hid : r.id ≠ none := by
    intro hid
    rw [Record.number?, hid] at hn
    cases hn
  rw [hrs, Record.numberAll_append, Record.numberAll, Record.numbered_of_id hid, List.map_append, List.map_cons,
    hn] at hnodup
  exact fun hmem => (List.nodup_append.1 hnodup).2.2 _ hmem _ List.mem_cons_self rfl

/-- **A sound document that leaves ids out** loads exactly if no number that a record gives was taken by a
record before it. The numbers that its records take are then different, or the largest is among them; and if
they are different, the graph describes the records in turn, with those numbers written in, and nothing else. -/
theorem addDocument_omitted (d : Document) (hd : d.Sound) :
    ((∃ t, (empty.addDocument false d).2 = .ok t) ↔
      ∀ before r after n, d.records = before ++ r :: after → r.number? = some n →
        some n ∉ (Record.numberAll 1 before).map Record.number?) ∧
      ((∃ t, (empty.addDocument false d).2 = .ok t) →
        ((Record.numberAll 1 d.records).map Record.number?).Nodup ∨
          some largest ∈ (Record.numberAll 1 d.records).map Record.number?) ∧
      (((Record.numberAll 1 d.records).map Record.number?).Nodup →
        ∃ g, empty.addDocument false d = (g, .ok ⟨d.vertices.length, d.edges.length, 0⟩) ∧
          g.vertexRows = d.numbered.vertices.map VertexRecord.description? ∧
          g.edgeRows = d.numbered.edges.map EdgeRecord.description?) := by
  refine ⟨addDocument_loads_iff.trans hd.addsAll_iff, fun h => ?_, fun hnodup => ?_⟩
  · obtain ⟨ns, g, hall⟩ := addDocument_loads_iff.1 h
    rw [or_iff_not_imp_right, hall.mem_numberAll_iff, Bool.not_eq_true]
    intro hspare
    exact hall.nodup_numberAll_iff.2 (hall.fresh_of_ahead ahead_empty hspare)
  · obtain ⟨ns, g, hall⟩ := hd.addsAll_iff.2 fun before r after n => not_mem_before_of_nodup hnodup
    have hg := hall.mirrors_numbered (hall.nodup_numberAll_iff.1 hnodup)
    exact ⟨g, addDocument_eq_ok_iff.2 ⟨⟨ns, hall⟩, rfl⟩, hg.vertexRows_eq, hg.edgeRows_eq⟩

/-- Records without ids among others, of both kinds. -/
def sketch : Document :=
  ⟨[⟨some (.number 7), "city", .empty⟩, ⟨none, "town", .empty⟩, ⟨some (.text "3"), "city", .empty⟩],
    [⟨none, "road", .number 7, .text "3", .empty⟩, ⟨some (.number 2), "road", .number 3, .text "7", .empty⟩]⟩

theorem addDocument_omitted_sketch :
    sketch.Sound ∧ ∃ g, empty.addDocument false sketch = (g, .ok ⟨3, 2, 0⟩) ∧
      g.vertexRows = [some ⟨.vertex ⟨7⟩, "city", none, .empty⟩, some ⟨.vertex ⟨8⟩, "town", none, .empty⟩,
        some ⟨.vertex ⟨3⟩, "city", none, .empty⟩] ∧
      g.edgeRows = [some ⟨.edge ⟨9⟩, "road", some (⟨7⟩, ⟨3⟩), .empty⟩,
        some ⟨.edge ⟨2⟩, "road", some (⟨3⟩, ⟨7⟩), .empty⟩] := by
  have hsound : sketch.Sound := by decide +kernel
  obtain ⟨g, hload, hvertices, hedges⟩ := (addDocument_omitted sketch hsound).2.2 (by decide +kernel)
  refine ⟨hsound, g, hload, hvertices.trans ?_, hedges.trans ?_⟩
  all_goals decide +kernel

/-- A record without an id can take the number that the next record gives. -/
theorem omitted_number_given_later : ¬ ∀ d : Document, d.Sound → ∃ t, (empty.addDocument false d).2 = .ok t := by
  intro h
  obtain ⟨t, ht⟩ := h ⟨[⟨none, "city", .empty⟩, ⟨some (.number 1), "town", .empty⟩], []⟩ (by decide +kernel)
  cases ht

end Footpath.Graph
