import Mathlib.Data.List.Nodup
import Footpath.Console
import Footpath.Proofs.Json.Rereading
import Footpath.Proofs.Document.Loading

/-! Graphs written as documents.

The JSON listings of all vertices and of all edges of a graph make up a document, if no property is a double.
Every row reads as a record that gives the number of its element, its label, its ends and its properties, so
the document gives all of its ids, and in a graph that hangs together they are in order. What is loaded from
it describes the same elements and lists the same edges under each vertex (`Graph.load_relisted`). -/
namespace Footpath
open Json

/-! ### Values and properties -/

/-- A value that is no double. -/
def Value.isExact : Value → Bool
  | .float _ => false
  | _ => true

theorem Value.ofJson?_ofValue {v : Value} (h : v.isExact = true) : Value.ofJson? (Json.ofValue v) = some v := by
  cases v with
  | boolean b => rfl
  | integer n => rw [Json.ofValue, Value.ofJson?, JsonNumber.value?, JsonNumber.integer?_ofInt]
  | float x => cases h
  | text s => rfl

theorem Json.plain_ofValue {v : Value} (h : v.isExact = true) : (Json.ofValue v).Plain := by
  cases v with
  | boolean b => exact .boolean b
  | integer n => exact .number _ _
  | float x => cases h
  | text s => exact .string s

theorem mapM_map_eq_some {α β γ : Type} {f : β → Option γ} {g : α → β} {k : α → γ} {l : List α}
    (h : ∀ a ∈ l, f (g a) = some (k a)) : (l.map g).mapM f = some (l.map k) := by
  induction l with
  | nil => rfl
  | cons a l ih =>
    rw [List.map_cons, List.mapM_cons, h a List.mem_cons_self, ih fun b hb => h b (List.mem_cons_of_mem _ hb)]
    rfl

/-- Properties as an object. -/
def Properties.members (ps : Properties) : List (Option String × Json) :=
  ps.entries.map fun p => (some p.1, Json.ofValue p.2)

theorem properties?_members {ps : Properties} (h : ∀ p ∈ ps.entries, p.2.isExact = true) :
    properties? (some (.object (Properties.members ps))) = some ps := by
  have hread : (Properties.members ps).mapM property? = some (ps.entries.map id) := by
    apply mapM_map_eq_some
    intro p hp
    rw [property?, Value.ofJson?_ofValue (h p hp)]
    rfl
  rw [properties?, hread, Option.map_some, List.map_id]
  exact congrArg some ps.foldl_insert_entries

theorem plain_members {ps : Properties} (h : ∀ p ∈ ps.entries, p.2.isExact = true) :
    (Json.object (Properties.members ps)).Plain := by
  refine .object (fun m hm => ?_) (fun m hm => ?_)
  · obtain ⟨p, -, rfl⟩ := List.mem_map.1 hm
    rfl
  · obtain ⟨p, hp, rfl⟩ := List.mem_map.1 hm
    exact plain_ofValue (h p hp)

/-! ### Rows -/

/-- A stored vertex as it is described. -/
def Description.ofVertex (e : VertexId × Vertex) : Description := ⟨.vertex e.1, e.2.label, none, e.2.properties⟩

def Description.ofEdge (e : EdgeId × Edge) : Description :=
  ⟨.edge e.1, e.2.label, some (e.2.source, e.2.target), e.2.properties⟩

/-- A stored vertex as a record that gives its number. -/
def VertexRecord.ofEntry (e : VertexId × Vertex) : VertexRecord :=
  ⟨some (.number e.1.number), e.2.label, e.2.properties⟩

def EdgeRecord.ofEntry (e : EdgeId × Edge) : EdgeRecord :=
  ⟨some (.number e.1.number), e.2.label, .number e.2.source.number, .number e.2.target.number, e.2.properties⟩

theorem numberJson_plain (n : UInt64) : (Description.numberJson n).Plain := .number false n.toNat

theorem plain_toJson {d : Description} (h : ∀ p ∈ d.properties.entries, p.2.isExact = true) : d.toJson.Plain := by
  obtain ⟨element, label, ends, properties⟩ := d
  cases ends with
  | none =>
    refine .object (by simp [Description.endsJson]) ?_
    simp only [Description.endsJson, List.append_nil, List.cons_append, List.nil_append, List.forall_mem_cons]
    exact ⟨numberJson_plain _, .string _, .string _, plain_members h, fun m hm => by cases hm⟩
  | some ends =>
    refine .object (by simp [Description.endsJson]) ?_
    simp only [Description.endsJson, List.cons_append, List.nil_append, List.forall_mem_cons]
    exact ⟨numberJson_plain _, .string _, .string _, numberJson_plain _, numberJson_plain _, plain_members h,
      fun m hm => by cases hm⟩

theorem GivenId.ofJson?_numberJson (n : UInt64) : GivenId.ofJson? (Description.numberJson n) = some (.number n) := by
  rw [Description.numberJson, GivenId.ofJson?, JsonNumber.unsigned?_ofNat]
  rfl

theorem optionalId?_numberJson (n : UInt64) :
    optionalId? (some (Description.numberJson n)) = some (some (.number n)) := by
  show (GivenId.ofJson? (Description.numberJson n)).map some = _
  rw [GivenId.ofJson?_numberJson, Option.map_some]

theorem VertexRecord.ofJson?_toJson {e : VertexId × Vertex} (h : ∀ p ∈ e.2.properties.entries, p.2.isExact = true) :
    VertexRecord.ofJson? (Description.ofVertex e).toJson = some (.ofEntry e) := by
  have hfields : fields? ["id", "label", "properties"] (Description.ofVertex e).toJson =
      some [some (Description.numberJson e.1.number), some (.string (some e.2.label)),
        some (.object (Properties.members e.2.properties))] := rfl
  rw [VertexRecord.ofJson?, hfields]
  dsimp only
  rw [optionalId?_numberJson, properties?_members h]
  rfl

theorem EdgeRecord.ofJson?_toJson {e : EdgeId × Edge} (h : ∀ p ∈ e.2.properties.entries, p.2.isExact = true) :
    EdgeRecord.ofJson? (Description.ofEdge e).toJson = some (.ofEntry e) := by
  have hfields : fields? ["id", "label", "src", "dst", "properties"] (Description.ofEdge e).toJson =
      some [some (Description.numberJson e.1.number), some (.string (some e.2.label)),
        some (Description.numberJson e.2.source.number), some (Description.numberJson e.2.target.number),
        some (.object (Properties.members e.2.properties))] := rfl
  rw [EdgeRecord.ofJson?, hfields]
  dsimp only
  rw [optionalId?_numberJson, GivenId.ofJson?_numberJson, GivenId.ofJson?_numberJson, properties?_members h]
  rfl

/-! ### Documents -/

/-- Two listings as one document. -/
def documentText (vs es : List Description) : String :=
  "\x7b\"vertices\": " ++ Mode.json.listing vs 0 ++ ", \"edges\": " ++ Mode.json.listing es 0 ++ "\x7d"

/-- The rows of a listing as a tree. -/
def rowsJson (rows : List Description) : Json := .array (rows.map Description.toJson)

theorem plain_rowsJson {ds : List Description} (h : ∀ d ∈ ds, ∀ p ∈ d.properties.entries, p.2.isExact = true) :
    (rowsJson ds).Plain := by
  refine .array fun j hj => ?_
  obtain ⟨d, hd, rfl⟩ := List.mem_map.1 hj
  exact plain_toJson (h d hd)

theorem toList_listing (rows : List Description) :
    (Mode.json.listing rows 0).toList = pretty 0 (rowsJson rows) ++ ['\n'] := by
  have hbreak : "\n".toList = ['\n'] := rfl
  rw [Mode.listing, jsonListing, write, rowsJson, String.toList_append, String.toList_ofList, hbreak]

theorem read_documentText {vs es : List Description} (hvs : (rowsJson vs).Plain) (hes : (rowsJson es).Plain) :
    Read (documentText vs es).toList (.object [(some "vertices", rowsJson vs), (some "edges", rowsJson es)]) [] := by
  have htext : (documentText vs es).toList =
      '\x7b' :: (Json.quote "vertices" ++ ':' :: ' ' :: (pretty 0 (rowsJson vs) ++
      ('\n' :: ',' :: ' ' :: (Json.quote "edges" ++ ':' :: ' ' :: (pretty 0 (rowsJson es) ++ ['\n', '\x7d']))))) := by
    have hopen : "\x7b\"vertices\": ".toList = '\x7b' :: (Json.quote "vertices" ++ [':', ' ']) := rfl
    have hnext : ", \"edges\": ".toList = ',' :: ' ' :: (Json.quote "edges" ++ [':', ' ']) := rfl
    have hclose : "\x7d".toList = ['\x7d'] := rfl
    -- The equation of `documentText` is slow to make, with its literals.
    delta documentText
    rw [String.toList_append, String.toList_append, String.toList_append, String.toList_append, hopen,
      toList_listing, hnext, toList_listing, hclose]
    simp only [List.cons_append, List.append_assoc, List.nil_append]
  rw [htext]
  refine read_object rfl (fun r hr => by cases hr) ?_
  obtain ⟨v, hvertices, hreadvs⟩ := hvs.readMember hvs.rereads (stops_indent 0 _) (skipSpace_quote "vertices" _)
  obtain ⟨w, hedges, hreades⟩ := hes.readMember hes.rereads (stops_indent 0 ['\x7d'])
    (s := ' ' :: (Json.quote "edges" ++ ':' :: ' ' :: (pretty 0 (rowsJson es) ++ ['\n', '\x7d'])))
    (skipSpace_quote "edges" _)
  exact readMembers_cons hvertices hreadvs rfl (readMembers_last hedges hreades rfl)

theorem parse?_of_read {text : String} {j : Json} (h : Read text.toList j []) : Json.parse? text = some j := by
  obtain ⟨p, hvalue, hj, hrest⟩ := h
  rw [parse?, hvalue]
  dsimp only
  rw [hrest, hj]
  rfl

theorem Document.ofJson?_rows {vs es : List Description} :
    Document.ofJson? (.object [(some "vertices", rowsJson vs), (some "edges", rowsJson es)]) = (do
      return ⟨← (vs.map Description.toJson).mapM VertexRecord.ofJson?,
        ← (es.map Description.toJson).mapM EdgeRecord.ofJson?⟩) := rfl

section
variable {vs : List (VertexId × Vertex)} {es : List (EdgeId × Edge)}
  (hvs : ∀ e ∈ vs, ∀ p ∈ e.2.properties.entries, p.2.isExact = true)
  (hes : ∀ e ∈ es, ∀ p ∈ e.2.properties.entries, p.2.isExact = true)
include hvs hes

/-- The document reads as the records of the elements. -/
theorem Document.parse?_documentText :
    Document.parse? (documentText (vs.map .ofVertex) (es.map .ofEdge)) =
      some ⟨vs.map .ofEntry, es.map .ofEntry⟩ := by
  have hplainvs : (rowsJson (vs.map .ofVertex)).Plain := plain_rowsJson (List.forall_mem_map.2 hvs)
  have hplaines : (rowsJson (es.map .ofEdge)).Plain := plain_rowsJson (List.forall_mem_map.2 hes)
  have hvertices : ((vs.map .ofVertex).map Description.toJson).mapM VertexRecord.ofJson? = some (vs.map .ofEntry) := by
    rw [List.map_map]
    exact mapM_map_eq_some fun e he => VertexRecord.ofJson?_toJson (hvs e he)
  have hedges : ((es.map .ofEdge).map Description.toJson).mapM EdgeRecord.ofJson? = some (es.map .ofEntry) := by
    rw [List.map_map]
    exact mapM_map_eq_some fun e he => EdgeRecord.ofJson?_toJson (hes e he)
  rw [Document.parse?, parse?_of_read (read_documentText hplainvs hplaines), Option.bind_some, Document.ofJson?_rows,
    hvertices, hedges]
  rfl

end

/-! ### Graphs -/

/-- The keys with their values are the entries. -/
theorem OrderedMap.filterMap_keys {κ α : Type} [DecidableEq κ] (m : OrderedMap κ α) :
    (m.keys.filterMap fun k => (m.find? k).map (k, ·)) = m.entries := by
  rw [keys, List.filterMap_map]
  refine (List.filterMap_congr fun e he => ?_).trans List.filterMap_some
  rw [Function.comp_apply, find?_of_mem_entries he, Option.map_some]

namespace Graph

/-- No property of the graph is a double. -/
def Exact (g : Graph) : Prop :=
  (∀ e ∈ g.vertices.entries, ∀ p ∈ e.2.properties.entries, p.2.isExact = true) ∧
    ∀ e ∈ g.edges.entries, ∀ p ∈ e.2.properties.entries, p.2.isExact = true

instance (g : Graph) : Decidable g.Exact := inferInstanceAs (Decidable (_ ∧ _))

/-- The document of a graph, its vertices in some order. -/
def asDocument (g : Graph) (vs : List (VertexId × Vertex)) : Document :=
  ⟨vs.map .ofEntry, g.edges.entries.map .ofEntry⟩

variable {g h : Graph} {vs : List (VertexId × Vertex)}

theorem eq_ofEntry_of_mem_records {r : Record} (hr : r ∈ (g.asDocument vs).records) :
    (∃ e ∈ vs, r = .vertex (.ofEntry e)) ∨ ∃ e ∈ g.edges.entries, r = .edge (.ofEntry e) := by
  rcases List.mem_append.1 hr with hr | hr
  · obtain ⟨v, hv, rfl⟩ := List.mem_map.1 hr
    obtain ⟨e, he, rfl⟩ := List.mem_map.1 hv
    exact .inl ⟨e, he, rfl⟩
  · obtain ⟨v, hv, rfl⟩ := List.mem_map.1 hr
    obtain ⟨e, he, rfl⟩ := List.mem_map.1 hv
    exact .inr ⟨e, he, rfl⟩

theorem id_asDocument {r : Record} (hr : r ∈ (g.asDocument vs).records) : r.id ≠ none := by
  obtain ⟨e, -, rfl⟩ | ⟨e, -, rfl⟩ := eq_ofEntry_of_mem_records hr <;> exact Option.some_ne_none _

theorem number?_records (g : Graph) (vs : List (VertexId × Vertex)) :
    (g.asDocument vs).records.filterMap Record.number? =
      (vs.map (·.1)).map VertexId.number ++ g.edges.keys.map EdgeId.number := by
  rw [Document.records, List.filterMap_append, asDocument, OrderedMap.keys]
  simp only [List.map_map]
  rw [List.filterMap_map, List.filterMap_map, ← List.filterMap_eq_map, ← List.filterMap_eq_map]
  rfl

/-- A graph that hangs together makes a document in order. -/
theorem Consistent.sound_asDocument (hg : g.Consistent) (hvs : vs.Perm g.vertices.entries) :
    (g.asDocument vs).Sound := by
  have hkeys : (vs.map (·.1)).Perm g.vertices.keys := hvs.map _
  refine ⟨fun r hr i hi => ?_, ?_, fun r hr => ?_⟩
  · obtain ⟨e, -, rfl⟩ | ⟨e, -, rfl⟩ := eq_ofEntry_of_mem_records hr
    · obtain rfl := List.mem_singleton.1 hi
      rfl
    · have hi : i ∈ [GivenId.number e.1.number, .number e.2.source.number, .number e.2.target.number] := hi
      simp only [List.mem_cons, List.not_mem_nil, or_false] at hi
      rcases hi with rfl | rfl | rfl <;> rfl
  · rw [number?_records, List.nodup_append]
    refine ⟨?_, ?_, fun n hn m hm hnm => ?_⟩
    · exact List.Nodup.map (fun v w => VertexId.number_inj.1) (hkeys.nodup_iff.2 g.vertices.nodup_keys)
    · exact List.Nodup.map (fun e f hnumber => by rwa [EdgeId.mk.injEq]) g.edges.nodup_keys
    · obtain ⟨v, hv, rfl⟩ := List.mem_map.1 hn
      obtain ⟨e, he, rfl⟩ := List.mem_map.1 hm
      have hvertex : g.vertices.contains v = true := (OrderedMap.contains_iff_mem _ _).2 (hkeys.mem_iff.1 hv)
      have hedge : g.edges.contains e = true := (OrderedMap.contains_iff_mem _ _).2 he
      have hfree := hg.apart v.number hvertex
      rw [hnm] at hfree
      exact Bool.false_ne_true (hfree.symm.trans hedge)
  · obtain ⟨e, he, rfl⟩ := List.mem_map.1 hr
    obtain ⟨hsource, htarget⟩ := hg.closed (OrderedMap.find?_of_mem_entries he)
    have hstored : ∀ v : VertexId, g.vertices.contains v = true →
        some v.number ∈ (g.asDocument vs).vertices.map VertexRecord.number? := by
      intro v hv
      obtain ⟨x, hx, rfl⟩ := List.mem_map.1 (hkeys.mem_iff.2 ((OrderedMap.contains_iff_mem _ _).1 hv))
      exact List.mem_map.2 ⟨.ofEntry x, List.mem_map_of_mem hx, rfl⟩
    exact ⟨hstored _ hsource, hstored _ htarget⟩

/-- What mirrors the document of a graph describes the same and lists the same edges. -/
theorem Mirrors.same_of_asDocument (hg : g.Consistent) (hh : h.Consistent) (hvs : vs.Perm g.vertices.entries)
    (hmirrors : h.Mirrors (g.asDocument vs)) :
    (∀ x, h.describe? x = g.describe? x) ∧ ∀ v, h.outgoing v = g.outgoing v ∧ h.incoming v = g.incoming v := by
  have hvertices : h.vertices.entries = vs := by
    have hentries := hmirrors.vertices
    rw [asDocument, List.map_map] at hentries
    exact List.map_injective_iff.2 (fun _ _ => Option.some.inj) hentries
  have hedges : h.edges = g.edges := by
    have hentries := hmirrors.edges
    rw [asDocument, List.map_map] at hentries
    exact OrderedMap.ext (List.map_injective_iff.2 (fun _ _ => Option.some.inj) hentries)
  refine ⟨fun x => ?_, fun v => ?_⟩
  · cases x with
    | vertex v => rw [describe?, describe?, OrderedMap.find?_of_perm (hvertices ▸ hvs) v]
    | edge e => rw [describe?, describe?, hedges]
  · rw [hh.outgoing_eq, hh.incoming_eq, hg.outgoing_eq, hg.incoming_eq, hedges]
    exact ⟨rfl, rfl⟩

/-! ### Listings -/

theorem describeAll_vertices (g : Graph) (vs : List VertexId) :
    Console.describeAll g (vs.map .vertex) =
      (vs.filterMap fun v => (g.vertices.find? v).map (v, ·)).map Description.ofVertex := by
  rw [Console.describeAll, List.filterMap_map, List.map_filterMap]
  apply List.filterMap_congr
  intro v _
  rw [Option.map_map]
  rfl

theorem describeAll_edges (g : Graph) :
    Console.describeAll g (g.edges.keys.map .edge) = g.edges.entries.map Description.ofEdge := by
  have hentries := congrArg (List.map Description.ofEdge) g.edges.filterMap_keys
  rw [← hentries, Console.describeAll, List.filterMap_map, List.map_filterMap]
  apply List.filterMap_congr
  intro e _
  rw [Option.map_map]
  rfl

/-- **JSON listings can be loaded again.** After a history with room wherever a number is drawn, let no
property be a double. The listings of all vertices in any order, and of all edges in the order in which they
were added, make a document that loads into an empty graph without an error. Every element is then described
as before, and every vertex has the same lists of edges. -/
theorem load_relisted (cs : List Change) (hroom : Graph.empty.Roomy cs) (hexact : (Graph.empty.run cs).Exact)
    (vs : List VertexId) (hvs : vs.Perm (Graph.empty.run cs).vertices.keys) (skip : Bool) :
    let g := Graph.empty.run cs
    let es := (Graph.empty.added cs).filterMap Element.edge?
    ∃ h, Graph.empty.load skip (documentText (Console.describeAll g (vs.map .vertex))
        (Console.describeAll g (es.map .edge))) = (h, .ok ⟨g.vertices.size, g.edges.size, 0⟩) ∧
      (∀ x, h.describe? x = g.describe? x) ∧
      ∀ v, h.outgoing v = g.outgoing v ∧ h.incoming v = g.incoming v := by
  intro g es
  have hg : g.Consistent := consistent_empty.run hroom
  have hkeys : g.edges.keys = es := consistent_empty.keys_run hroom
  -- The rows are those of the entries, in the order of the ids.
  have hentries : (vs.filterMap fun v => (g.vertices.find? v).map (v, ·)).Perm g.vertices.entries := by
    rw [← g.vertices.filterMap_keys]
    exact hvs.filterMap _
  have hparse := Document.parse?_documentText (fun e he => hexact.1 e (hentries.mem_iff.1 he)) hexact.2
  obtain ⟨ns, h, hall⟩ := exists_addsAll_of_sound (fun r => id_asDocument) (hg.sound_asDocument hentries)
  have hload : Graph.empty.load skip (documentText (Console.describeAll g (vs.map .vertex))
      (Console.describeAll g (es.map .edge))) = (h, .ok ⟨g.vertices.size, g.edges.size, 0⟩) := by
    rw [← hkeys, describeAll_vertices, describeAll_edges, load, hparse]
    have hadd := hall.addRecords_eq skip .zero
    rw [Document.ofRecords_records] at hadd
    refine hadd.trans ?_
    have htally : Tally.zero.countAll (g.asDocument (vs.filterMap fun v => (g.vertices.find? v).map (v, ·))) =
        ⟨g.vertices.size, g.edges.size, 0⟩ := by
      simp only [Tally.countAll, Tally.zero, Nat.zero_add, asDocument, List.length_map, hentries.length_eq,
        OrderedMap.size]
    rw [htally]
  have hh := consistent_empty.addsAll hall fun r => id_asDocument
  exact ⟨h, hload, Mirrors.same_of_asDocument hg hh hentries (hall.mirrors fun r => id_asDocument)⟩

/-- Texts that are escaped, the least integer, a key that is assigned twice, and the greatest number
that leaves room. -/
def letters : List Change :=
  [.addVertexAt 0xfffffffffffffffd "\"Ünïcode\"", .addVertexAt 4 "back\\slash",
    .setVertexProperty ⟨4⟩ "tab\t" (.text "line\nbreak \u0001 🜂"), .setVertexProperty ⟨4⟩ "n" (.integer 0),
    .setVertexProperty ⟨4⟩ "n" (.integer (-0x8000000000000000)), .addEdge "" ⟨4⟩ ⟨0xfffffffffffffffd⟩,
    .addEdgeAt 2 "né" ⟨0xfffffffffffffffd⟩ ⟨4⟩, .setEdgeProperty ⟨2⟩ "" (.boolean false)]

theorem load_relisted_letters :
    Graph.empty.Roomy letters ∧ (Graph.empty.run letters).Exact ∧
      [⟨4⟩, ⟨0xfffffffffffffffd⟩].Perm (Graph.empty.run letters).vertices.keys ∧
      ∃ h, Graph.empty.load false (documentText
          (Console.describeAll (Graph.empty.run letters) [.vertex ⟨4⟩, .vertex ⟨0xfffffffffffffffd⟩])
          (Console.describeAll (Graph.empty.run letters) [.edge ⟨0xfffffffffffffffe⟩, .edge ⟨2⟩])) =
            (h, .ok ⟨2, 2, 0⟩) ∧
        h.describe? (.edge ⟨2⟩) =
          some ⟨.edge ⟨2⟩, "né", some (⟨0xfffffffffffffffd⟩, ⟨4⟩), ⟨[("", .boolean false)], by decide⟩⟩ ∧
        h.outgoing ⟨4⟩ = [⟨0xfffffffffffffffe⟩] ∧ h.incoming ⟨4⟩ = [⟨2⟩] := by
  have hroom : Graph.empty.Roomy letters := by decide +kernel
  have hexact : (Graph.empty.run letters).Exact := by decide +kernel
  have hvs : [⟨4⟩, ⟨0xfffffffffffffffd⟩].Perm (Graph.empty.run letters).vertices.keys := by decide +kernel
  have hes : (Graph.empty.added letters).filterMap Element.edge? = [⟨0xfffffffffffffffe⟩, ⟨2⟩] := by decide +kernel
  obtain ⟨h, hload, hdescribe, hlists⟩ := load_relisted letters hroom hexact _ hvs false
  rw [hes] at hload
  refine ⟨hroom, hexact, hvs, h, hload, (hdescribe _).trans ?_, (hlists _).1.trans ?_, (hlists _).2.trans ?_⟩
  all_goals decide +kernel

end Graph

end Footpath
