import Mathlib.Algebra.Ring.Nat
import Footpath.Proofs.Graph.Effects

/-! Graphs hang together.

A graph says of its edges twice where they start and end, and lists them under their vertices as
well. `Graph.Linked` ties the stores to the index after any history. While the counter has room,
`Graph.Consistent` ties them to the counter too: every number below it that is in use has one
owner, so every list of edges is the stored edges of its vertex, each once and in their order. -/
namespace Footpath

/-! ### Shares of a list -/

theorem sum_map_add_countP {β : Type} (n : β → Nat) (p : β → Bool) (vs : List β) :
    (vs.map fun b => n b + if p b then 1 else 0).sum = (vs.map n).sum + vs.countP p := by
  induction vs with
  | nil => rfl
  | cons b vs ih =>
    rw [List.map_cons, List.sum_cons, ih, List.map_cons, List.sum_cons, List.countP_cons]
    omega

/-- A list is as long as its shares together when each member falls into just one of them. -/
theorem sum_length_filter {α β : Type} {p : β → α → Bool} {vs : List β} {l : List α}
    (hone : ∀ a ∈ l, vs.countP (p · a) = 1) :
    (vs.map fun b => (l.filter (p b)).length).sum = l.length := by
  simp only [← List.countP_eq_length_filter]
  induction l with
  | nil =>
    simp only [List.countP_nil, List.length_nil]
    induction vs with
    | nil => rfl
    | cons b vs ih => exact (Nat.zero_add _).trans (ih fun a ha => by cases ha)
  | cons a l ih =>
    simp only [List.countP_cons]
    rw [sum_map_add_countP, ih fun b hb => hone b (List.mem_cons_of_mem _ hb),
      hone a List.mem_cons_self, List.length_cons]

namespace OrderedMap

variable {κ α : Type} [DecidableEq κ]

/-! ### Keys by value -/

/-- The keys whose values are marked, in their order. -/
def keysWhere (m : OrderedMap κ α) (p : α → Bool) : List κ := m.keys.filter fun k => (m.find? k).any p

theorem keysWhere_eq (m : OrderedMap κ α) (p : α → Bool) :
    m.keysWhere p = (m.entries.filter (p ·.2)).map Prod.fst := by
  rw [keysWhere, keys, List.filter_map]
  apply congrArg
  apply List.filter_congr
  intro e he
  rw [Function.comp_apply, find?_of_mem_entries he, Option.any_some]

theorem keysWhere_insert_of_new {m : OrderedMap κ α} {k : κ} (hnew : m.contains k = false) (v : α)
    (p : α → Bool) :
    (m.insert k v).keysWhere p = if p v then m.keysWhere p ++ [k] else m.keysWhere p := by
  have hkept : m.keys.filter (fun j => ((m.insert k v).find? j).any p) = m.keysWhere p := by
    apply List.filter_congr
    intro j hj
    rw [find?_insert, if_neg]
    rintro rfl
    rw [← contains_iff_mem, hnew] at hj
    exact Bool.false_ne_true hj
  rw [keysWhere, keys_insert_of_new hnew, List.filter_append, hkept, List.filter_cons,
    List.filter_nil, find?_insert_self, Option.any_some]
  by_cases hp : p v = true
  · rw [if_pos hp, if_pos hp]
  · rw [if_neg hp, if_neg hp, List.append_nil]

theorem keysWhere_insert_of_find? {m : OrderedMap κ α} {k : κ} {u v : α} (hfind : m.find? k = some u)
    {p : α → Bool} (hp : p v = p u) : (m.insert k v).keysWhere p = m.keysWhere p := by
  rw [keysWhere, keys_insert_of_present (contains_of_find? hfind), keysWhere]
  apply List.filter_congr
  intro j _
  rw [find?_insert]
  by_cases hj : j = k
  · rw [if_pos hj, hj, hfind, Option.any_some, Option.any_some, hp]
  · rw [if_neg hj]

theorem sum_length_keysWhere {β : Type} [DecidableEq β] (m : OrderedMap κ α) (f : α → β) {vs : List β}
    (hvs : vs.Nodup) (hf : ∀ {k : κ} {v : α}, m.find? k = some v → f v ∈ vs) :
    (vs.map fun b => (m.keysWhere (f · = b)).length).sum = m.size := by
  rw [← length_keys]
  apply sum_length_filter
  intro k hk
  obtain ⟨v, hv⟩ := Option.isSome_iff_exists.1 ((find?_isSome_iff m k).2 hk)
  have hcount : vs.countP (fun b => (m.find? k).any (f · = b)) = vs.count (f v) := by
    apply List.countP_congr
    intro b _
    rw [hv, Option.any_some, decide_eq_true_eq, beq_iff_eq, eq_comm]
  rw [hcount, hvs.count, if_pos (hf hv)]

end OrderedMap

namespace Graph

/-! ### Whatever the history -/

/-- The ends of a stored edge are stored, the index has them too, and lists nothing else. -/
structure Linked (g : Graph) : Prop where
  closed : ∀ {e : EdgeId} {r : Edge}, g.edges.find? e = some r →
    g.vertices.contains r.source = true ∧ g.vertices.contains r.target = true
  ends : ∀ e, g.index.ends? e = (g.edges.find? e).map fun r => (r.source, r.target)
  listed : ∀ {v : VertexId} {e : EdgeId}, e ∈ g.outgoing v ∨ e ∈ g.incoming v → g.edges.contains e = true

theorem linked_empty : empty.Linked where
  closed h := by cases h
  ends _ := rfl
  listed h := by rcases h with h | h <;> cases h

theorem Linked.effect {g h : Graph} {drawn : Bool} {x : Option Element} (hg : g.Linked)
    (he : g.Effect drawn x h) : h.Linked := by
  cases he with
  | vertex htake label =>
    refine ⟨fun {f r} hf => ?_, hg.ends, hg.listed⟩
    obtain ⟨hsource, htarget⟩ := hg.closed hf
    exact ⟨OrderedMap.contains_insert_of_contains hsource _ _,
      OrderedMap.contains_insert_of_contains htarget _ _⟩
  | @edge n next htake label s t hs ht =>
    refine ⟨fun {f r} hf => ?_, fun f => ?_, fun {v f} hf => ?_⟩
    · change (g.edges.insert _ _).find? f = some r at hf
      rw [OrderedMap.find?_insert] at hf
      split at hf
      · cases hf
        exact ⟨hs, ht⟩
      · exact hg.closed hf
    · show (g.index.add ⟨n⟩ s t).ends? f = ((g.edges.insert _ _).find? f).map fun r => (r.source, r.target)
      rw [EdgeIndex.ends?_add, OrderedMap.find?_insert]
      split
      · rfl
      · exact hg.ends f
    · have hold : f = ⟨n⟩ ∨ f ∈ g.outgoing v ∨ f ∈ g.incoming v := by
        change f ∈ (g.index.add ⟨n⟩ s t).outgoingOf v ∨ f ∈ (g.index.add ⟨n⟩ s t).incomingOf v at hf
        rw [EdgeIndex.outgoingOf_add, EdgeIndex.incomingOf_add] at hf
        grind [outgoing, incoming]
      show (g.edges.insert _ _).contains f = true
      rw [OrderedMap.contains_insert, Bool.or_eq_true, decide_eq_true_eq]
      exact hold.imp_right hg.listed
  | @vertexProperties v r hfind properties =>
    refine ⟨fun {f x} hf => ?_, hg.ends, hg.listed⟩
    obtain ⟨hsource, htarget⟩ := hg.closed hf
    exact ⟨OrderedMap.contains_insert_of_contains hsource _ _,
      OrderedMap.contains_insert_of_contains htarget _ _⟩
  | @edgeProperties e r hfind properties =>
    refine ⟨fun {f x} hf => ?_, fun f => ?_, fun {v f} hf => ?_⟩
    · change (g.edges.insert _ _).find? f = some x at hf
      rw [OrderedMap.find?_insert] at hf
      split at hf
      · cases hf
        exact hg.closed (r := r) hfind
      · exact hg.closed hf
    · show g.index.ends? f = ((g.edges.insert _ _).find? f).map fun r => (r.source, r.target)
      rw [OrderedMap.find?_insert, hg.ends f]
      split
      · rename_i hfe
        rw [hfe, hfind]
        rfl
      · rfl
    · exact OrderedMap.contains_insert_of_contains (hg.listed hf) _ _

theorem Linked.apply {g : Graph} (hg : g.Linked) (c : Change) : (g.apply c).Linked := by
  rcases g.apply_cases c with ⟨-, hsame⟩ | he
  · rw [hsame]
    exact hg
  · exact hg.effect he

/-- **Nothing dangles.** After any history the index agrees with the stored edges. -/
theorem Linked.run {g : Graph} (hg : g.Linked) (cs : List Change) : (g.run cs).Linked := by
  induction cs generalizing g with
  | nil => exact hg
  | cons c cs ih => exact ih (hg.apply c)

/-! ### While the counter has room -/

/-- No two elements share a number, the counter is past every number in use but the largest, and
the edges listed under a vertex are the stored ones that start, or end, there. -/
structure Consistent (g : Graph) : Prop extends Linked g where
  apart : ∀ n, g.vertices.contains ⟨n⟩ = true → g.edges.contains ⟨n⟩ = false
  counted : ∀ n, g.hasNumber n = true → n < g.next ∨ n = 0xffffffffffffffff
  outgoing_eq : ∀ v, g.outgoing v = g.edges.keysWhere (·.source = v)
  incoming_eq : ∀ v, g.incoming v = g.edges.keysWhere (·.target = v)

theorem consistent_empty : empty.Consistent where
  toLinked := linked_empty
  apart _ h := by cases h
  counted _ h := by cases h
  outgoing_eq _ := rfl
  incoming_eq _ := rfl

/-- A number that is taken is new to both stores. -/
theorem Consistent.free {g : Graph} {drawn : Bool} {n next : UInt64} (hg : g.Consistent)
    (htake : g.Takes drawn n next) (hroom : drawn = true → g.next < 0xffffffffffffffff) :
    g.vertices.contains ⟨n⟩ = false ∧ g.edges.contains ⟨n⟩ = false := by
  rw [← Bool.or_eq_false_iff]
  cases htake with
  | next =>
    rw [Bool.eq_false_iff]
    intro hused
    have hlt := hroom rfl
    rcases hg.counted _ hused with h | h
    · exact UInt64.lt_irrefl _ h
    · rw [h] at hlt
      exact UInt64.lt_irrefl _ hlt
  | chosen hfree => exact hfree

/-- The counter stays past the numbers in use, the one just taken among them. -/
theorem Consistent.counted_after {g : Graph} {drawn : Bool} {n next : UInt64} (hg : g.Consistent)
    (htake : g.Takes drawn n next) (hroom : drawn = true → g.next < 0xffffffffffffffff) {k : UInt64}
    (hk : k = n ∨ g.hasNumber k = true) : k < next ∨ k = 0xffffffffffffffff := by
  obtain ⟨hle, hpast⟩ := htake.bounds hroom
  rcases hk with rfl | hk
  · exact hpast
  · exact (hg.counted k hk).imp_left fun h => UInt64.lt_of_lt_of_le h hle

theorem Consistent.effect {g h : Graph} {drawn : Bool} {x : Option Element} (hg : g.Consistent)
    (hroom : drawn = true → g.next < 0xffffffffffffffff) (he : g.Effect drawn x h) : h.Consistent := by
  have hlinked := hg.toLinked.effect he
  cases he with
  | @vertex n next htake label =>
    have hfree := hg.free htake hroom
    refine ⟨hlinked, fun k hk => ?_, fun k hk => ?_, hg.outgoing_eq, hg.incoming_eq⟩
    · change (g.vertices.insert ⟨n⟩ _).contains ⟨k⟩ = true at hk
      rw [OrderedMap.contains_insert, Bool.or_eq_true, decide_eq_true_eq, VertexId.mk.injEq] at hk
      rcases hk with rfl | hk
      · exact hfree.2
      · exact hg.apart k hk
    · apply hg.counted_after htake hroom
      change ((g.vertices.insert ⟨n⟩ _).contains ⟨k⟩ || g.edges.contains ⟨k⟩) = true at hk
      rw [OrderedMap.contains_insert, Bool.or_assoc, Bool.or_eq_true, decide_eq_true_eq,
        VertexId.mk.injEq] at hk
      exact hk
  | @edge n next htake label s t hs ht =>
    have hfree := hg.free htake hroom
    refine ⟨hlinked, fun k hk => ?_, fun k hk => ?_, fun v => ?_, fun v => ?_⟩
    · show (g.edges.insert ⟨n⟩ _).contains ⟨k⟩ = false
      rw [OrderedMap.contains_insert, Bool.or_eq_false_iff, decide_eq_false_iff_not, EdgeId.mk.injEq]
      refine ⟨?_, hg.apart k hk⟩
      rintro rfl
      exact Bool.false_ne_true (hfree.1.symm.trans hk)
    · apply hg.counted_after htake hroom
      change (g.vertices.contains ⟨k⟩ || (g.edges.insert ⟨n⟩ _).contains ⟨k⟩) = true at hk
      rw [OrderedMap.contains_insert, Bool.or_left_comm, Bool.or_eq_true, decide_eq_true_eq,
        EdgeId.mk.injEq] at hk
      exact hk
    -- The edge is new to the store, so both sides get it at their end, if they get it.
    · show (g.index.add ⟨n⟩ s t).outgoingOf v = (g.edges.insert ⟨n⟩ _).keysWhere _
      rw [EdgeIndex.outgoingOf_add, OrderedMap.keysWhere_insert_of_new hfree.2, ← hg.outgoing_eq v]
      simp only [decide_eq_true_eq, @eq_comm _ v s, outgoing]
    · show (g.index.add ⟨n⟩ s t).incomingOf v = (g.edges.insert ⟨n⟩ _).keysWhere _
      rw [EdgeIndex.incomingOf_add, OrderedMap.keysWhere_insert_of_new hfree.2, ← hg.incoming_eq v]
      simp only [decide_eq_true_eq, @eq_comm _ v t, incoming]
  | @vertexProperties v r hfind properties =>
    have hsame : ∀ k, (g.vertices.insert v { r with properties }).contains k = g.vertices.contains k :=
      OrderedMap.contains_insert_of_find? hfind _
    refine ⟨hlinked, fun k hk => ?_, fun k hk => ?_, hg.outgoing_eq, hg.incoming_eq⟩
    · change (g.vertices.insert v _).contains ⟨k⟩ = true at hk
      rw [hsame] at hk
      exact hg.apart k hk
    · change ((g.vertices.insert v _).contains ⟨k⟩ || g.edges.contains ⟨k⟩) = true at hk
      rw [hsame] at hk
      exact hg.counted k hk
  | @edgeProperties e r hfind properties =>
    have hsame : ∀ k, (g.edges.insert e { r with properties }).contains k = g.edges.contains k :=
      OrderedMap.contains_insert_of_find? hfind _
    refine ⟨hlinked, fun k hk => ?_, fun k hk => ?_, fun v => ?_, fun v => ?_⟩
    · show (g.edges.insert e _).contains ⟨k⟩ = false
      rw [hsame]
      exact hg.apart k hk
    · change (g.vertices.contains ⟨k⟩ || (g.edges.insert e _).contains ⟨k⟩) = true at hk
      rw [hsame] at hk
      exact hg.counted k hk
    · refine (hg.outgoing_eq v).trans (Eq.symm ?_)
      apply OrderedMap.keysWhere_insert_of_find? hfind
      rfl
    · refine (hg.incoming_eq v).trans (Eq.symm ?_)
      apply OrderedMap.keysWhere_insert_of_find? hfind
      rfl

theorem Consistent.apply {g : Graph} (hg : g.Consistent) {c : Change}
    (hroom : g.draws c = true → g.next < 0xffffffffffffffff) : (g.apply c).Consistent := by
  rcases g.apply_cases c with ⟨-, hsame⟩ | he
  · rw [hsame]
    exact hg
  · exact hg.effect hroom he

theorem Consistent.run {g : Graph} (hg : g.Consistent) {cs : List Change} (hroom : g.Roomy cs) :
    (g.run cs).Consistent := by
  induction cs generalizing g with
  | nil => exact hg
  | cons c cs ih => exact ih (hg.apply hroom.1) hroom.2

/-! ### The order of the edges -/

theorem Consistent.keys_effect {g h : Graph} {drawn : Bool} {x : Option Element} (hg : g.Consistent)
    (hroom : drawn = true → g.next < 0xffffffffffffffff) (he : g.Effect drawn x h) :
    h.edges.keys = g.edges.keys ++ (x.bind Element.edge?).toList := by
  cases he with
  | vertex htake label => exact (List.append_nil _).symm
  | edge htake label hs ht =>
    have hfree := hg.free htake hroom
    exact OrderedMap.keys_insert_of_new hfree.2 _
  | vertexProperties hfind properties => exact (List.append_nil _).symm
  | edgeProperties hfind properties =>
    refine Eq.trans ?_ (List.append_nil _).symm
    exact OrderedMap.keys_insert_of_present (OrderedMap.contains_of_find? hfind) _

/-- The edges stand in the order in which they were added. -/
theorem Consistent.keys_run {g : Graph} (hg : g.Consistent) {cs : List Change} (hroom : g.Roomy cs) :
    (g.run cs).edges.keys = g.edges.keys ++ (g.added cs).filterMap Element.edge? := by
  induction cs generalizing g with
  | nil => exact (List.append_nil _).symm
  | cons c cs ih =>
    have hstep : (g.apply c).edges.keys = g.edges.keys ++ ((g.addedBy c).bind Element.edge?).toList := by
      rcases g.apply_cases c with ⟨hnone, hsame⟩ | he
      -- A change that fails adds nothing.
      · rw [hsame, hnone]
        exact (List.append_nil _).symm
      · exact hg.keys_effect hroom.1 he
    have hhead : ((g.addedBy c).bind Element.edge?).toList =
        (g.addedBy c).toList.filterMap Element.edge? := by
      cases g.addedBy c with
      | none => rfl
      | some x => cases x <;> rfl
    show ((g.apply c).run cs).edges.keys = _
    rw [ih (hg.apply hroom.1) hroom.2, hstep, List.append_assoc, hhead, added, List.filterMap_append]

/-! ### Reading -/

def stores (g : Graph) : Element → Bool
  | .vertex v => g.vertices.contains v
  | .edge e => g.edges.contains e

/-- A number that is in use spells the element that has it. -/
theorem Consistent.fetch?_number {g : Graph} (hg : g.Consistent) {x : Element}
    (hx : g.stores x = true) : g.fetch? (toString x.number) = some x := by
  rw [fetch?, numberOfText?_toString]
  cases x with
  | vertex v => exact if_pos hx
  | edge e =>
    have hvertex : g.vertices.contains ⟨e.number⟩ = false := by
      rw [Bool.eq_false_iff]
      intro h
      exact Bool.false_ne_true ((hg.apart _ h).symm.trans hx)
    show (if g.vertices.contains ⟨e.number⟩ = true then _ else _) = _
    rw [hvertex, if_neg Bool.false_ne_true]
    exact if_pos hx

theorem Linked.source?_eq {g : Graph} (hg : g.Linked) (e : EdgeId) :
    g.source? e = (g.edges.find? e).map Edge.source := by
  rw [source?, hg.ends, Option.map_map]
  rfl

theorem Linked.target?_eq {g : Graph} (hg : g.Linked) (e : EdgeId) :
    g.target? e = (g.edges.find? e).map Edge.target := by
  rw [target?, hg.ends, Option.map_map]
  rfl

/-- **A history leaves a graph that hangs together.** From the empty graph, with room wherever a
number is drawn: no vertex and edge share a number; the ends of a stored edge are stored and read
back as they are; the edges that were added, each once, are the stored ones, and those that leave
or enter a vertex are listed under it in the order of their adding, so that all these lists are
together as long as there are edges; and the numeral of a stored element fetches it. -/
theorem run_consistent (cs : List Change) (hroom : Graph.empty.Roomy cs) :
    let g := Graph.empty.run cs
    let es := (Graph.empty.added cs).filterMap Element.edge?
    (∀ n, ¬ (g.vertices.contains ⟨n⟩ = true ∧ g.edges.contains ⟨n⟩ = true)) ∧
    (∀ e r, g.edges.find? e = some r →
      g.vertices.contains r.source = true ∧ g.vertices.contains r.target = true) ∧
    (∀ e, g.source? e = (g.edges.find? e).map Edge.source ∧
      g.target? e = (g.edges.find? e).map Edge.target) ∧
    es.Nodup ∧ (∀ e, e ∈ es ↔ g.edges.contains e = true) ∧
    (∀ v, g.outgoing v = es.filter (fun e => (g.edges.find? e).any (·.source = v)) ∧
      g.incoming v = es.filter (fun e => (g.edges.find? e).any (·.target = v)) ∧
      (g.outgoing v).Nodup ∧ (g.incoming v).Nodup) ∧
    (g.vertices.keys.map fun v => (g.outgoing v).length).sum = g.edges.size ∧
    (g.vertices.keys.map fun v => (g.incoming v).length).sum = g.edges.size ∧
    (∀ x, g.stores x = true → g.fetch? (toString x.number) = some x) := by
  intro g es
  have hg : g.Consistent := consistent_empty.run hroom
  have hkeys : g.edges.keys = es := consistent_empty.keys_run hroom
  have hnodup : es.Nodup := hkeys ▸ g.edges.nodup_keys
  have hlists : ∀ v, g.outgoing v = es.filter (fun e => (g.edges.find? e).any (·.source = v)) ∧
      g.incoming v = es.filter (fun e => (g.edges.find? e).any (·.target = v)) := by
    intro v
    rw [← hkeys]
    exact ⟨hg.outgoing_eq v, hg.incoming_eq v⟩
  refine ⟨fun n h => ?_, fun e r h => hg.closed h, fun e => ⟨hg.source?_eq e, hg.target?_eq e⟩, hnodup,
    fun e => ?_, fun v => ?_, ?_, ?_, fun x => hg.fetch?_number⟩
  · exact Bool.false_ne_true ((hg.apart n h.1).symm.trans h.2)
  · rw [OrderedMap.contains_iff_mem, hkeys]
  · obtain ⟨hout, hin⟩ := hlists v
    refine ⟨hout, hin, ?_, ?_⟩
    · rw [hout]
      exact hnodup.filter _
    · rw [hin]
      exact hnodup.filter _
  · simp only [hg.outgoing_eq]
    apply g.edges.sum_length_keysWhere Edge.source g.vertices.nodup_keys
    exact fun h => (OrderedMap.contains_iff_mem _ _).1 (hg.closed h).1
  · simp only [hg.incoming_eq]
    apply g.edges.sum_length_keysWhere Edge.target g.vertices.nodup_keys
    exact fun h => (OrderedMap.contains_iff_mem _ _).1 (hg.closed h).2

/-- Chosen numbers out of order, drawn ones behind them, a property, and two changes that fail: an
edge to a vertex that is not there, and a number that is taken. -/
def roads : List Change :=
  [.addVertexAt 7 "city", .addVertex "city", .addEdge "road" ⟨7⟩ ⟨8⟩, .addEdge "road" ⟨7⟩ ⟨3⟩,
    .addEdgeAt 2 "road" ⟨8⟩ ⟨7⟩, .addVertexAt 2 "city", .setEdgeProperty ⟨9⟩ "toll" (.boolean true),
    .addEdge "road" ⟨7⟩ ⟨7⟩]

theorem run_consistent_roads :
    Graph.empty.Roomy roads ∧
      (Graph.empty.added roads).filterMap Element.edge? = [⟨9⟩, ⟨2⟩, ⟨10⟩] ∧
      (Graph.empty.run roads).outgoing ⟨7⟩ = [⟨9⟩, ⟨10⟩] ∧
      ((Graph.empty.run roads).vertices.keys.map fun v =>
        ((Graph.empty.run roads).incoming v).length).sum = 3 ∧
      (Graph.empty.run roads).fetch? (toString (2 : UInt64)) = some (.edge ⟨2⟩) := by
  have hroom : Graph.empty.Roomy roads := by decide
  have hadded : (Graph.empty.added roads).filterMap Element.edge? = [⟨9⟩, ⟨2⟩, ⟨10⟩] := by decide
  obtain ⟨-, -, -, -, -, hlists, -, hincoming, hfetch⟩ := run_consistent roads hroom
  refine ⟨hroom, hadded, ?_, hincoming.trans (by decide), hfetch (.edge ⟨2⟩) (by decide)⟩
  rw [(hlists ⟨7⟩).1, hadded]
  decide

end Graph

end Footpath
