import Footpath.Proofs.Graph.Freshness
import Footpath.Proofs.Document.Skipping

/-! The numbers that the records of a document take.

A record without an id takes the number that the counter stands at, and where the counter stands follows
from the records before it. So the numbers can be written into a document before it is added
(`Document.numbered`), and `Document.Sound.addsAll_iff` says by them when a document whose given ids are in
order is added to the end. -/
namespace Footpath

/-! ### Ids of records -/

def VertexRecord.number? (r : VertexRecord) : Option UInt64 := r.id.bind GivenId.number?

def EdgeRecord.number? (r : EdgeRecord) : Option UInt64 := r.id.bind GivenId.number?

namespace Record

def id : Record → Option GivenId
  | .vertex r => r.id
  | .edge r => r.id

/-- The number of a record that gives one. -/
def number? (r : Record) : Option UInt64 := r.id.bind GivenId.number?

/-- The ids that an edge gives for its source and its target. -/
def ends : Record → List GivenId
  | .vertex _ => []
  | .edge r => [r.source, r.target]

/-! ### Numbers written in -/

def withNumber (n : UInt64) : Record → Record
  | .vertex r => .vertex { r with id := some (.number n) }
  | .edge r => .edge { r with id := some (.number n) }

/-- A record with its number written in, the counter standing at `next`. -/
def numbered (next : UInt64) (r : Record) : Record :=
  match r.id with
  | none => r.withNumber next
  | some _ => r

/-- Where the counter stands behind a record. -/
def counterAfter (next : UInt64) (r : Record) : UInt64 :=
  match r.id with
  | none => next + 1
  | some id => id.number?.elim next (Graph.nextAfter { Graph.empty with next := next })

/-- Records with their numbers written in, in the order in which they take them. -/
def numberAll (next : UInt64) : List Record → List Record
  | [] => []
  | r :: rs => r.numbered next :: numberAll (r.counterAfter next) rs

theorem number?_withNumber (n : UInt64) (r : Record) : (r.withNumber n).number? = some n := by
  cases r <;> rfl

theorem numbered_of_id {r : Record} (h : r.id ≠ none) (next : UInt64) : r.numbered next = r := by
  rw [numbered]
  split
  · contradiction
  · rfl

/-- Only the id of a record is written. -/
theorem numbered_vertex (next : UInt64) (r : VertexRecord) :
    ∃ id, (Record.vertex r).numbered next = .vertex { r with id := id } := by
  rw [numbered]
  split
  · exact ⟨_, rfl⟩
  · exact ⟨r.id, rfl⟩

theorem numbered_edge (next : UInt64) (r : EdgeRecord) :
    ∃ id, (Record.edge r).numbered next = .edge { r with id := id } := by
  rw [numbered]
  split
  · exact ⟨_, rfl⟩
  · exact ⟨r.id, rfl⟩

/-- Where every record has an id there is nothing to write. -/
theorem numberAll_of_id {rs : List Record} (h : ∀ r ∈ rs, r.id ≠ none) (next : UInt64) :
    numberAll next rs = rs := by
  induction rs generalizing next with
  | nil => rfl
  | cons r rs ih =>
    rw [numberAll, numbered_of_id (h r List.mem_cons_self), ih fun r hr => h r (List.mem_cons_of_mem _ hr)]

theorem numberAll_append (next : UInt64) (a b : List Record) :
    numberAll next (a ++ b) = numberAll next a ++ numberAll (a.foldl counterAfter next) b := by
  induction a generalizing next with
  | nil => rfl
  | cons r a ih =>
    rw [List.cons_append, numberAll, numberAll, ih]
    rfl

end Record

namespace Graph

variable {g h k : Graph} {r : Record} {rs : List Record} {n : UInt64} {ns : List UInt64}

/-! ### One record -/

theorem Adds.takes (hadd : g.Adds r n h) : g.Takes r.id.isNone n h.next ∧ ∀ i ∈ r.id, i.number? = some n := by
  cases hadd with
  | vertex htake hid => exact ⟨htake, hid⟩
  | edge htake hid hs ht hsource htarget => exact ⟨htake, hid⟩

/-- The number that is written in is the one that the record takes. -/
theorem Adds.numbered (hadd : g.Adds r n h) :
    (r.numbered g.next).number? = some n ∧ h.next = r.counterAfter g.next := by
  obtain ⟨htake, hid⟩ := hadd.takes
  generalize h.next = next at htake
  rw [Record.numbered, Record.counterAfter]
  cases hr : r.id with
  | none =>
    rw [hr] at htake
    cases htake
    exact ⟨Record.number?_withNumber _ _, rfl⟩
  | some id =>
    rw [hr] at htake
    cases htake
    have hn : id.number? = some n := hid id hr
    dsimp only
    rw [Record.number?, hr, hn]
    exact ⟨hn, rfl⟩

/-- A number that is given was free. -/
theorem Adds.free_of_id (hadd : g.Adds r n h) (hid : r.id ≠ none) : g.hasNumber n = false := by
  obtain ⟨htake, -⟩ := hadd.takes
  rw [Option.isNone_eq_false_iff.2 (Option.isSome_iff_ne_none.2 hid)] at htake
  generalize h.next = next at htake
  cases htake with
  | chosen hfree => exact hfree

/-- To add a record is to add its element and to write the properties of that. -/
theorem Adds.effects (hadd : g.Adds r n h) :
    ∃ x k, x.number = n ∧ g.Effect r.id.isNone (some x) k ∧ k.Effect false none h := by
  cases hadd with
  | @vertex r n next htake hid =>
    refine ⟨.vertex ⟨n⟩, _, rfl, .vertex htake r.label, ?_⟩
    have hfind := OrderedMap.find?_insert_self g.vertices ⟨n⟩ ⟨r.label, .empty⟩
    have hwrite := @Effect.vertexProperties { g.putVertex ⟨n⟩ r.label with next := next } false _ _ hfind r.properties
    change Effect _ _ _ { g with vertices := (g.vertices.insert _ _).insert _ _, next := next } at hwrite
    rwa [OrderedMap.insert_insert] at hwrite
  | @edge r n next s t htake hid hs ht hsource htarget =>
    refine ⟨.edge ⟨n⟩, _, rfl, .edge htake r.label hsource htarget, ?_⟩
    have hfind := OrderedMap.find?_insert_self g.edges ⟨n⟩ ⟨r.label, ⟨s⟩, ⟨t⟩, .empty⟩
    have hwrite := @Effect.edgeProperties { g.putEdge ⟨n⟩ r.label ⟨s⟩ ⟨t⟩ with next := next } false _ _ hfind r.properties
    change Effect _ _ _ { g with
      edges := (g.edges.insert _ _).insert _ _, index := g.index.add _ _ _, next := next } at hwrite
    rwa [OrderedMap.insert_insert] at hwrite

theorem Adds.hasNumber (hadd : g.Adds r n h) (m : UInt64) : h.hasNumber m = (decide (m = n) || g.hasNumber m) := by
  obtain ⟨x, k, rfl, hplace, hwrite⟩ := hadd.effects
  rw [hwrite.hasNumber, hplace.hasNumber]
  rfl

theorem Adds.ahead (hadd : g.Adds r n h) (hg : g.Ahead) : h.Ahead := by
  obtain ⟨x, k, -, hplace, hwrite⟩ := hadd.effects
  exact (hg.effect hplace).effect hwrite

theorem Adds.contains_vertex (hadd : g.Adds r n h) {v : VertexId} (hv : g.vertices.contains v = true) :
    h.vertices.contains v = true := by
  cases hadd with
  | vertex htake hid => exact OrderedMap.contains_insert_of_contains hv _ _
  | edge htake hid hs ht hsource htarget => exact hv

/-- The ends of a record are numbers of vertices that are there before it. -/
theorem Adds.ends (hadd : g.Adds r n h) {i : GivenId} (hi : i ∈ r.ends) :
    ∃ m, i.number? = some m ∧ g.vertices.contains ⟨m⟩ = true := by
  cases hadd with
  | vertex htake hid => cases hi
  | @edge r n next s t htake hid hs ht hsource htarget =>
    simp only [Record.ends, List.mem_cons, List.not_mem_nil, or_false] at hi
    rcases hi with rfl | rfl
    · exact ⟨s, hs, hsource⟩
    · exact ⟨t, ht, htarget⟩

/-- A record is added if its ids are numbers, its own free and its ends those of vertices. -/
theorem exists_adds (hid : ∀ i ∈ r.id, ∃ m, i.number? = some m ∧ g.hasNumber m = false)
    (hends : ∀ i ∈ r.ends, ∃ m, i.number? = some m ∧ g.vertices.contains ⟨m⟩ = true) :
    ∃ n h, g.Adds r n h := by
  have htake : ∃ n next, g.Takes r.id.isNone n next ∧ ∀ i ∈ r.id, i.number? = some n := by
    cases hr : r.id with
    | none => exact ⟨g.next, _, .next, fun i hi => by cases hi⟩
    | some id =>
      obtain ⟨m, hm, hfree⟩ := hid id hr
      refine ⟨m, _, .chosen hfree, fun i hi => ?_⟩
      cases hi
      exact hm
  obtain ⟨n, next, htake, hn⟩ := htake
  cases r with
  | vertex r => exact ⟨n, _, .vertex htake hn⟩
  | edge r =>
    obtain ⟨s, hs, hsource⟩ := hends r.source List.mem_cons_self
    obtain ⟨t, ht, htarget⟩ := hends r.target (List.mem_cons_of_mem _ List.mem_cons_self)
    exact ⟨n, _, .edge htake hn hs ht hsource htarget⟩

/-! ### Lists of records -/

/-- Numbers that are free and all different. -/
structure Fresh (g : Graph) (ns : List UInt64) : Prop where
  nodup : ns.Nodup
  free : ∀ n ∈ ns, g.hasNumber n = false

theorem Fresh.nil (g : Graph) : g.Fresh [] := ⟨List.nodup_nil, fun n hn => by cases hn⟩

/-- Behind a record its number is in use, so the numbers of the records after it are others. -/
theorem Adds.fresh_cons_iff (hadd : g.Adds r n h) : g.Fresh (n :: ns) ↔ g.hasNumber n = false ∧ h.Fresh ns := by
  have hafter (m : UInt64) : h.hasNumber m = false ↔ m ≠ n ∧ g.hasNumber m = false := by
    rw [hadd.hasNumber, Bool.or_eq_false_iff, decide_eq_false_iff_not]
  constructor
  · rintro ⟨hnodup, hfree⟩
    obtain ⟨hn, hnodup⟩ := List.nodup_cons.1 hnodup
    refine ⟨hfree n List.mem_cons_self, hnodup, fun m hm => (hafter m).2 ⟨?_, ?_⟩⟩
    · rintro rfl
      exact hn hm
    · exact hfree m (List.mem_cons_of_mem _ hm)
  · rintro ⟨hn, hnodup, hfree⟩
    refine ⟨List.nodup_cons.2 ⟨fun hmem => ?_, hnodup⟩, fun m hm => ?_⟩
    · exact ((hafter n).1 (hfree n hmem)).1 rfl
    · rcases List.mem_cons.1 hm with rfl | hm
      · exact hn
      · exact ((hafter m).1 (hfree m hm)).2

/-- Records added one after another, and the numbers that they take. -/
inductive AddsAll : Graph → List Record → List UInt64 → Graph → Prop where
  | nil (g : Graph) : AddsAll g [] [] g
  | cons {g h k : Graph} {r : Record} {rs : List Record} {n : UInt64} {ns : List UInt64}
      (hadd : g.Adds r n k) (hall : AddsAll k rs ns h) : AddsAll g (r :: rs) (n :: ns) h

theorem addRecords_eq_ok_iff {t t' : Tally} :
    g.addRecords false t rs = (h, .ok t') ↔
      (∃ ns, g.AddsAll rs ns h) ∧ t' = t.countAll (.ofRecords rs) := by
  induction rs generalizing g t with
  | nil =>
    constructor
    · rintro ⟨⟩
      exact ⟨⟨[], .nil _⟩, rfl⟩
    · rintro ⟨⟨ns, hall⟩, rfl⟩
      cases hall
      rfl
  | cons r rs ih =>
    rw [Tally.countAll_cons]
    constructor
    · intro hrun
      rcases g.addRecord_cases r with ⟨n, k, hadd⟩ | ⟨f, hf⟩
      · rw [addRecords, hadd.addRecord_eq] at hrun
        obtain ⟨⟨ns, hall⟩, ht⟩ := ih.1 hrun
        exact ⟨⟨n :: ns, .cons hadd hall⟩, ht⟩
      · rw [addRecords, hf] at hrun
        cases hrun
    · rintro ⟨⟨ns, hall⟩, ht⟩
      cases hall with
      | cons hadd hall =>
        rw [addRecords, hadd.addRecord_eq]
        exact ih.2 ⟨⟨_, hall⟩, ht⟩

/-- Records that are added are not passed over. -/
theorem AddsAll.addRecords_eq (hall : g.AddsAll rs ns h) (skip : Bool) (t : Tally) :
    g.addRecords skip t rs = (h, .ok (t.countAll (.ofRecords rs))) := by
  induction hall generalizing t with
  | nil g => rfl
  | cons hadd hall ih =>
    rw [addRecords, hadd.addRecord_eq, Tally.countAll_cons]
    exact ih (t.count _)

theorem addsAll_append_iff {a b : List Record} :
    g.AddsAll (a ++ b) ns h ↔ ∃ k ms ls, g.AddsAll a ms k ∧ k.AddsAll b ls h ∧ ns = ms ++ ls := by
  induction a generalizing g ns with
  | nil =>
    constructor
    · intro hall
      exact ⟨g, [], ns, .nil g, hall, rfl⟩
    · rintro ⟨k, ms, ls, hnil, hall, rfl⟩
      cases hnil
      exact hall
  | cons r a ih =>
    constructor
    · rintro (_ | ⟨hadd, hall⟩)
      obtain ⟨k, ms, ls, ha, hb, rfl⟩ := ih.1 hall
      exact ⟨k, _ :: ms, ls, .cons hadd ha, hb, rfl⟩
    · rintro ⟨k, ms, ls, _ | ⟨hadd, ha⟩, hb, rfl⟩
      exact .cons hadd (ih.2 ⟨k, _, ls, ha, hb, rfl⟩)

/-- The numbers that are written in are those that the records take. -/
theorem AddsAll.numberAll (hall : g.AddsAll rs ns h) :
    (Record.numberAll g.next rs).map Record.number? = ns.map some := by
  induction hall with
  | nil g => rfl
  | cons hadd hall ih =>
    obtain ⟨hnumber, hnext⟩ := hadd.numbered
    rw [Record.numberAll, List.map_cons, List.map_cons, hnumber, ← hnext, ih]

theorem AddsAll.hasNumber_iff (hall : g.AddsAll rs ns h) (m : UInt64) :
    h.hasNumber m = true ↔ m ∈ ns ∨ g.hasNumber m = true := by
  induction hall with
  | nil g => simp
  | cons hadd hall ih =>
    rw [ih, hadd.hasNumber, Bool.or_eq_true, decide_eq_true_eq, List.mem_cons, or_left_comm, or_assoc]

/-- A number that is free in the end was free before. -/
theorem AddsAll.free (hall : g.AddsAll rs ns h) {m : UInt64} (hm : h.hasNumber m = false) : g.hasNumber m = false := by
  rw [Bool.eq_false_iff] at hm ⊢
  exact fun hused => hm ((hall.hasNumber_iff m).2 (.inr hused))

/-- In a graph made of some records the numbers in use are those written into them. -/
theorem AddsAll.mem_numberAll_iff (hall : empty.AddsAll rs ns h) (m : UInt64) :
    some m ∈ (Record.numberAll 1 rs).map Record.number? ↔ h.hasNumber m = true := by
  have hnumbers : (Record.numberAll 1 rs).map Record.number? = ns.map some := hall.numberAll
  have hempty : ¬ empty.hasNumber m = true := fun h => by cases h
  rw [hnumbers, hall.hasNumber_iff, or_iff_left hempty]
  simp only [List.mem_map, Option.some.injEq, exists_eq_right]

theorem AddsAll.contains_vertex (hall : g.AddsAll rs ns h) {v : VertexId} (hv : g.vertices.contains v = true) :
    h.vertices.contains v = true := by
  induction hall with
  | nil g => exact hv
  | cons hadd hall ih => exact ih (hadd.contains_vertex hv)

/-- Where all numbers are given, each is new when its record is added. -/
theorem AddsAll.fresh_of_id (hall : g.AddsAll rs ns h) (hid : ∀ r ∈ rs, r.id ≠ none) : g.Fresh ns := by
  induction hall with
  | nil g => exact .nil g
  | cons hadd hall ih =>
    exact hadd.fresh_cons_iff.2
      ⟨hadd.free_of_id (hid _ List.mem_cons_self), ih fun r hr => hid r (List.mem_cons_of_mem _ hr)⟩

/-- As long as the largest number is free, one that is drawn is new as well. -/
theorem AddsAll.fresh_of_ahead (hall : g.AddsAll rs ns h) (hg : g.Ahead) (hspare : h.hasNumber largest = false) :
    g.Fresh ns := by
  induction hall with
  | nil g => exact .nil g
  | cons hadd hall ih =>
    have hfree := hg.free hadd.takes.1 fun _ => (AddsAll.cons hadd hall).free hspare
    exact hadd.fresh_cons_iff.2 ⟨hfree, ih (hadd.ahead hg) hspare⟩

/-- The ids that were given stand for numbers, those of the ends for numbers of vertices. -/
theorem AddsAll.resolved (hall : g.AddsAll rs ns h) {r : Record} (hr : r ∈ rs) :
    (∀ i ∈ r.id, i.number?.isSome) ∧ ∀ i ∈ r.ends, ∃ m, i.number? = some m ∧ h.vertices.contains ⟨m⟩ = true := by
  induction hall with
  | nil g => cases hr
  | cons hadd hall ih =>
    rcases List.mem_cons.1 hr with rfl | hr
    · refine ⟨fun i hi => ?_, fun i hi => ?_⟩
      · rw [hadd.takes.2 i hi]
        rfl
      · obtain ⟨m, hm, hv⟩ := hadd.ends hi
        exact ⟨m, hm, hall.contains_vertex (hadd.contains_vertex hv)⟩
    · exact ih hr

/-- A vertex that gives its number is stored under it. -/
theorem AddsAll.contains_of_mem (hall : g.AddsAll rs ns h) {r : VertexRecord} (hr : Record.vertex r ∈ rs)
    {m : UInt64} (hm : r.number? = some m) : h.vertices.contains ⟨m⟩ = true := by
  induction hall with
  | nil g => cases hr
  | cons hadd hall ih =>
    rcases List.mem_cons.1 hr with rfl | hr
    · apply hall.contains_vertex
      cases hadd with
      | vertex htake hid =>
        obtain ⟨i, hi, him⟩ := Option.bind_eq_some_iff.1 hm
        cases (hid i hi).symm.trans him
        exact OrderedMap.contains_of_find? (OrderedMap.find?_insert_self _ _ _)
    · exact ih hr

/-- A number that a record gives was not taken by a record before it. -/
theorem AddsAll.not_mem_before {before after : List Record} (hall : empty.AddsAll (before ++ r :: after) ns h)
    (hn : r.number? = some n) : some n ∉ (Record.numberAll 1 before).map Record.number? := by
  intro hmem
  obtain ⟨k, ms, ls, hbefore, hrest, -⟩ := addsAll_append_iff.1 hall
  cases hrest with
  | @cons _ _ _ _ _ m _ hadd hafter =>
    obtain ⟨i, hi, hin⟩ := Option.bind_eq_some_iff.1 hn
    obtain rfl : m = n := Option.some.inj ((hadd.takes.2 i hi).symm.trans hin)
    have hfree := hadd.free_of_id (by rw [hi]; exact nofun)
    exact Bool.false_ne_true (hfree.symm.trans ((hbefore.mem_numberAll_iff m).1 hmem))

end Graph

/-! ### Documents in order -/

namespace Document

/-- The ids that are given are numbers, those of the records different from one another, and those of the
ends of edges are given by vertices. -/
structure Sound (d : Document) : Prop where
  resolved : ∀ r ∈ d.records, ∀ i ∈ r.id.toList ++ r.ends, i.number?.isSome
  distinct : (d.records.filterMap Record.number?).Nodup
  closed : ∀ r ∈ d.edges, r.source.number? ∈ d.vertices.map VertexRecord.number? ∧
    r.target.number? ∈ d.vertices.map VertexRecord.number?

instance (d : Document) : Decidable d.Sound :=
  decidable_of_iff
    ((∀ r ∈ d.records, ∀ i ∈ r.id.toList ++ r.ends, i.number?.isSome) ∧
      (d.records.filterMap Record.number?).Nodup ∧
      ∀ r ∈ d.edges, r.source.number? ∈ d.vertices.map VertexRecord.number? ∧
        r.target.number? ∈ d.vertices.map VertexRecord.number?)
    ⟨fun ⟨hresolved, hdistinct, hclosed⟩ => ⟨hresolved, hdistinct, hclosed⟩,
      fun hd => ⟨hd.resolved, hd.distinct, hd.closed⟩⟩

/-- A document with the numbers written in that its records take. -/
def numbered (d : Document) : Document := .ofRecords (Record.numberAll 1 d.records)

variable {d : Document} {before after : List Record} {r : Record}

/-- When an edge is added all vertices are there. -/
theorem vertex_mem_before (h : d.records = before ++ r :: after) (hr : r.ends ≠ []) {v : VertexRecord}
    (hv : v ∈ d.vertices) : .vertex v ∈ before := by
  have hmem : Record.vertex v ∈ d.vertices.map Record.vertex := List.mem_map_of_mem hv
  rcases List.append_eq_append_iff.1 h with ⟨b, hbefore, -⟩ | ⟨c, hvertices, hrest⟩
  · rw [hbefore]
    exact List.mem_append_left _ hmem
  · cases c with
    | nil => rwa [hvertices, List.append_nil] at hmem
    | cons x c =>
      -- The edge would be one of the vertices.
      obtain rfl : r = x := (List.cons.inj hrest).1
      have hr' : r ∈ d.vertices.map Record.vertex := by
        rw [hvertices]
        exact List.mem_append_right _ List.mem_cons_self
      obtain ⟨w, -, rfl⟩ := List.mem_map.1 hr'
      exact absurd rfl hr

/-- In a sound document the ends of a record are stored when its turn comes. -/
theorem Sound.ends_stored (hd : d.Sound) (h : d.records = before ++ r :: after) {g : Graph}
    {ns : List UInt64} (hall : Graph.empty.AddsAll before ns g) {i : GivenId} (hi : i ∈ r.ends) :
    ∃ m, i.number? = some m ∧ g.vertices.contains ⟨m⟩ = true := by
  have hr : r ∈ d.records := h ▸ List.mem_append_cons_self
  obtain ⟨m, hm⟩ := Option.isSome_iff_exists.1 (hd.resolved r hr i (List.mem_append_right _ hi))
  have hclosed : i.number? ∈ d.vertices.map VertexRecord.number? := by
    cases r with
    | vertex r => cases hi
    | edge r =>
      have hedge : r ∈ d.edges := by simpa [records] using hr
      simp only [Record.ends, List.mem_cons, List.not_mem_nil, or_false] at hi
      rcases hi with rfl | rfl
      · exact (hd.closed r hedge).1
      · exact (hd.closed r hedge).2
  obtain ⟨v, hv, hvm⟩ := List.mem_map.1 hclosed
  exact ⟨m, hm, hall.contains_of_mem (vertex_mem_before h (List.ne_nil_of_mem hi) hv) (hvm.trans hm)⟩

/-- In a sound document the number that a record gives is free when its turn comes, unless a record before
it took that one. -/
theorem Sound.id_free (hd : d.Sound) (h : d.records = before ++ r :: after) {g : Graph} {ns : List UInt64}
    (hall : Graph.empty.AddsAll before ns g)
    (hfresh : ∀ n, r.number? = some n → some n ∉ (Record.numberAll 1 before).map Record.number?) {i : GivenId}
    (hi : i ∈ r.id) : ∃ m, i.number? = some m ∧ g.hasNumber m = false := by
  have hr : r ∈ d.records := h ▸ List.mem_append_cons_self
  obtain ⟨m, hm⟩ := Option.isSome_iff_exists.1
    (hd.resolved r hr i (List.mem_append_left _ (Option.mem_toList.2 hi)))
  refine ⟨m, hm, Bool.eq_false_iff.2 fun hused => ?_⟩
  exact hfresh m (Option.bind_eq_some_iff.2 ⟨i, hi, hm⟩) ((hall.mem_numberAll_iff m).2 hused)

/-- **A sound document is added to the end exactly if no number that a record gives was taken before.** -/
theorem Sound.addsAll_iff (hd : d.Sound) :
    (∃ ns g, Graph.empty.AddsAll d.records ns g) ↔
      ∀ before r after n, d.records = before ++ r :: after → r.number? = some n →
        some n ∉ (Record.numberAll 1 before).map Record.number? := by
  constructor
  · rintro ⟨ns, g, hall⟩ before r after n hrs
    rw [hrs] at hall
    exact hall.not_mem_before
  · intro hfresh
    rcases Graph.empty.addRecords_strict .zero d.records with
      ⟨-, g, hrun⟩ | ⟨-, before, r, after, k, f, hrs, hbefore, hfail, -⟩
    · obtain ⟨⟨ns, hall⟩, -⟩ := Graph.addRecords_eq_ok_iff.1 hrun
      exact ⟨ns, g, hall⟩
    · -- The record that stops the run would have been added.
      obtain ⟨⟨ms, hall⟩, -⟩ := Graph.addRecords_eq_ok_iff.1 hbefore
      obtain ⟨n, h, hadd⟩ := Graph.exists_adds
        (fun i hi => hd.id_free hrs hall (fun n => hfresh before r after n hrs) hi)
        fun i hi => hd.ends_stored hrs hall hi
      cases hfail.symm.trans hadd.addRecord_eq

end Document

end Footpath
