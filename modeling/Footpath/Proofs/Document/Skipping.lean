import Footpath.Proofs.Document.Records

/-! Records that are passed over leave no trace.

A record that fails has failed before it stored anything, its number included (`addRecord_cases`), and to
pass over it is to load a document that never had it (`addRecords_accepted`). Loading up to the first
failure comes to the records before that one (`addRecords_strict`). -/
namespace Footpath

namespace Graph

/-! ### Lists of records -/

/-- The records that are added when those that fail are passed over. -/
def accepted (g : Graph) : List Record → List Record
  | [] => []
  | r :: rs =>
    match g.addRecord r with
    | (h, .ok ()) => r :: h.accepted rs
    | (h, .error _) => h.accepted rs

theorem accepted_sublist (g : Graph) (rs : List Record) : (g.accepted rs).Sublist rs := by
  induction rs generalizing g with
  | nil => exact .slnil
  | cons r rs ih =>
    rw [accepted]
    split
    · exact (ih _).cons_cons r
    · exact (ih _).cons r

end Graph

/-! ### Documents of some of the records -/

namespace Record

def vertex? : Record → Option VertexRecord
  | .vertex r => some r
  | .edge _ => none

def edge? : Record → Option EdgeRecord
  | .vertex _ => none
  | .edge r => some r

end Record

namespace Document

/-- The document of some records, vertices and edges each in their order. -/
def ofRecords (rs : List Record) : Document := ⟨rs.filterMap Record.vertex?, rs.filterMap Record.edge?⟩

theorem ofRecords_append (rs rs' : List Record) :
    ofRecords (rs ++ rs') =
      ⟨(ofRecords rs).vertices ++ (ofRecords rs').vertices, (ofRecords rs).edges ++ (ofRecords rs').edges⟩ := by
  simp only [ofRecords, List.filterMap_append]

theorem ofRecords_vertices (vs : List VertexRecord) : ofRecords (vs.map .vertex) = ⟨vs, []⟩ := by
  induction vs with
  | nil => rfl
  | cons v vs ih =>
    have hcons := ofRecords_append [.vertex v] (vs.map .vertex)
    rw [ih] at hcons
    exact hcons

theorem ofRecords_edges (es : List EdgeRecord) : ofRecords (es.map .edge) = ⟨[], es⟩ := by
  induction es with
  | nil => rfl
  | cons e es ih =>
    have hcons := ofRecords_append [.edge e] (es.map .edge)
    rw [ih] at hcons
    exact hcons

/-- What is left of a document is added in the order in which it was. -/
theorem records_ofRecords {d : Document} {rs : List Record} (h : rs.Sublist d.records) :
    (ofRecords rs).records = rs := by
  obtain ⟨a, b, rfl, ha, hb⟩ := List.sublist_append_iff.1 h
  obtain ⟨vs, -, rfl⟩ := List.sublist_map_iff.1 ha
  obtain ⟨es, -, rfl⟩ := List.sublist_map_iff.1 hb
  rw [ofRecords_append, ofRecords_vertices, ofRecords_edges, List.append_nil, List.nil_append]
  rfl

theorem ofRecords_records (d : Document) : ofRecords d.records = d := by
  rw [records, ofRecords_append, ofRecords_vertices, ofRecords_edges, List.append_nil]
  rfl

theorem length_records (d : Document) : d.records.length = d.vertices.length + d.edges.length := by
  rw [records, List.length_append, List.length_map, List.length_map]

end Document

/-- The tally behind all records of a document. -/
def Tally.countAll (t : Tally) (d : Document) : Tally :=
  ⟨t.vertices + d.vertices.length, t.edges + d.edges.length, t.errors⟩

theorem Tally.countAll_cons (t : Tally) (r : Record) (rs : List Record) :
    t.countAll (.ofRecords (r :: rs)) = (t.count r).countAll (.ofRecords rs) := by
  cases r with
  | vertex r =>
    show Tally.mk (t.vertices + ((Document.ofRecords rs).vertices.length + 1)) _ _ = ⟨t.vertices + 1 + _, _, _⟩
    rw [Nat.add_right_comm, Nat.add_assoc]
    rfl
  | edge r =>
    show Tally.mk _ (t.edges + ((Document.ofRecords rs).edges.length + 1)) _ = ⟨_, t.edges + 1 + _, _⟩
    rw [Nat.add_right_comm, Nat.add_assoc]
    rfl

/-! ### Lists of records -/

namespace Graph

/-- To pass over what fails is to add what is accepted, one record after another. -/
theorem addRecords_accepted (g : Graph) (t t' : Tally) (rs : List Record) :
    ∃ h passed, passed + (g.accepted rs).length = rs.length ∧
      g.addRecords true t rs =
        (h, .ok { t.countAll (.ofRecords (g.accepted rs)) with errors := t.errors + passed }) ∧
      g.addRecords false t' (g.accepted rs) = (h, .ok (t'.countAll (.ofRecords (g.accepted rs)))) := by
  induction rs generalizing g t t' with
  | nil => exact ⟨g, 0, rfl, rfl, rfl⟩
  | cons r rs ih =>
    rcases g.addRecord_cases r with ⟨n, h, hadd⟩ | ⟨f, hr⟩
    · have hr := hadd.addRecord_eq
      obtain ⟨k, passed, hlength, hskip, hstrict⟩ := ih h (t.count r) (t'.count r)
      have herrors : (t.count r).errors = t.errors := by cases r <;> rfl
      have haccepted : g.accepted (r :: rs) = r :: h.accepted rs := by rw [accepted, hr]
      rw [haccepted, Tally.countAll_cons, Tally.countAll_cons]
      refine ⟨k, passed, ?_, ?_, ?_⟩
      · rw [List.length_cons, List.length_cons, ← Nat.add_assoc, hlength]
      · rw [addRecords, hr, ← herrors]
        exact hskip
      · rw [addRecords, hr]
        exact hstrict
    · obtain ⟨k, passed, hlength, hskip, hstrict⟩ := ih g t.countError t'
      have haccepted : g.accepted (r :: rs) = g.accepted rs := by rw [accepted, hr]
      rw [haccepted]
      refine ⟨k, passed + 1, ?_, ?_, hstrict⟩
      · rw [List.length_cons, Nat.add_right_comm, hlength]
      · rw [addRecords, hr, Nat.add_comm passed, ← Nat.add_assoc]
        exact hskip

/-- Records are added one after another up to the first that fails. -/
theorem addRecords_strict (g : Graph) (t : Tally) (rs : List Record) :
    (g.accepted rs = rs ∧ ∃ h, g.addRecords false t rs = (h, .ok (t.countAll (.ofRecords rs)))) ∨
      (g.accepted rs).length < rs.length ∧ ∃ before r after h f, rs = before ++ r :: after ∧
        g.addRecords false t before = (h, .ok (t.countAll (.ofRecords before))) ∧
        h.addRecord r = (h, .error f) ∧ g.addRecords false t rs = (h, .error f) := by
  induction rs generalizing g t with
  | nil => exact .inl ⟨rfl, g, rfl⟩
  | cons r rs ih =>
    rcases g.addRecord_cases r with ⟨n, h, hadd⟩ | ⟨f, hr⟩
    · have hr := hadd.addRecord_eq
      have haccepted : g.accepted (r :: rs) = r :: h.accepted rs := by rw [accepted, hr]
      have hadd : ∀ rs, g.addRecords false t (r :: rs) = h.addRecords false (t.count r) rs := by
        intro rs
        rw [addRecords, hr]
      rw [haccepted, hadd, Tally.countAll_cons]
      rcases ih h (t.count r) with ⟨hall, k, hk⟩ | ⟨hlength, before, r', after, k, f, hrs, hbefore, hfail, hk⟩
      · exact .inl ⟨congrArg (r :: ·) hall, k, hk⟩
      · refine .inr ⟨Nat.succ_lt_succ hlength, r :: before, r', after, k, f, congrArg (r :: ·) hrs, ?_, hfail, hk⟩
        rw [hadd, Tally.countAll_cons]
        exact hbefore
    · have haccepted : g.accepted (r :: rs) = g.accepted rs := by rw [accepted, hr]
      refine .inr ⟨?_, [], r, rs, g, f, rfl, rfl, hr, by rw [addRecords, hr]; rfl⟩
      rw [haccepted]
      exact Nat.lt_succ_of_le (g.accepted_sublist rs).length_le

/-- The records of a document that are added when those that fail are passed over. -/
def acceptedOf (g : Graph) (d : Document) : Document := .ofRecords (g.accepted d.records)

/-- **To pass over records that fail is to load a document without them.** It always succeeds, with
the graph and the counts that strict loading makes of the other records, and every record is counted
once. Strict loading succeeds exactly when there is no error to count. Otherwise it ends with the
fault of the first record that fails, and with the graph of the records before that one. -/
theorem addDocument_accepted (g : Graph) (d : Document) :
    ∃ h t, g.addDocument true d = (h, .ok t) ∧
      g.addDocument false (g.acceptedOf d) = (h, .ok { t with errors := 0 }) ∧
      (g.acceptedOf d).records.Sublist d.records ∧
      t.errors + (g.acceptedOf d).records.length = d.records.length ∧
      t.vertices + t.edges + t.errors = d.records.length ∧
      ((∃ s, (g.addDocument false d).2 = .ok s) ↔ t.errors = 0) ∧
      (t.errors ≠ 0 → ∃ before r after k s f, d.records = before ++ r :: after ∧
        g.addDocument false (.ofRecords before) = (k, .ok s) ∧ k.addRecord r = (k, .error f) ∧
        g.addDocument false d = (k, .error f)) := by
  have hkept : (g.acceptedOf d).records = g.accepted d.records :=
    Document.records_ofRecords (g.accepted_sublist d.records)
  obtain ⟨h, passed, hlength, hskip, hstrict⟩ := g.addRecords_accepted .zero .zero d.records
  have hcount : 0 + passed + (g.acceptedOf d).records.length = d.records.length := by
    rw [hkept, Nat.zero_add, hlength]
  refine ⟨h, _, hskip, ?_, hkept ▸ g.accepted_sublist d.records, hcount, ?_, ?_⟩
  · rw [addDocument, hkept]
    exact hstrict
  · rw [Document.length_records] at hcount
    show 0 + (g.acceptedOf d).vertices.length + (0 + (g.acceptedOf d).edges.length) + (0 + passed) = _
    omega
  · show (_ ↔ 0 + passed = 0) ∧ (0 + passed ≠ 0 → _)
    rcases g.addRecords_strict .zero d.records with
      ⟨hall, k, hk⟩ | ⟨hless, before, r, after, k, f, hrs, hbefore, hfail, hk⟩
    · rw [hall] at hlength
      have hnone : 0 + passed = 0 := by omega
      exact ⟨⟨fun _ => hnone, fun _ => ⟨_, congrArg Prod.snd hk⟩⟩, fun hsome => absurd hnone hsome⟩
    · have hsome : 0 + passed ≠ 0 := by omega
      have hprefix : before.Sublist d.records := by
        rw [hrs]
        exact List.sublist_append_left _ _
      refine ⟨⟨fun ⟨s, hs⟩ => ?_, fun hnone => absurd hnone hsome⟩, fun _ => ?_⟩
      · rw [addDocument, hk] at hs
        cases hs
      · refine ⟨before, r, after, k, Tally.zero.countAll (.ofRecords before), f, hrs, ?_, hfail, hk⟩
        rw [addDocument, Document.records_ofRecords hprefix]
        exact hbefore

end Graph

end Footpath
