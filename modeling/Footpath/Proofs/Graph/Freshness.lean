import Footpath.Proofs.Graph.Effects

/-! Fresh numbers.

While the largest number is free the counter is past every number in use (`Graph.Ahead`). An addition
then takes a number that no element has, drawn or chosen: the graph grows by one element, and the
others stay as they are. The largest number has none behind it. Once a caller has chosen it the
counter stands on it, and the next number drawn is one in use (`additions_fresh`, both halves). -/
namespace Footpath.Graph

abbrev largest : UInt64 := 0xffffffffffffffff

def elementCount (g : Graph) : Nat := g.vertices.size + g.edges.size

/-! ### What an addition does -/

/-- A number that was free goes to one element more, and nothing else changes. -/
structure AddsFresh (g : Graph) (x : Element) (h : Graph) : Prop where
  unused : g.hasNumber x.number = false
  count : h.elementCount = g.elementCount + 1
  others : ∀ y, y ≠ x → h.describe? y = g.describe? y

theorem Takes.eq_next {g : Graph} {n next : UInt64} (htake : g.Takes true n next) : n = g.next := by
  cases htake
  rfl

theorem Effect.takes {g h : Graph} {drawn : Bool} {x : Element} (he : g.Effect drawn (some x) h) :
    g.Takes drawn x.number h.next := by
  cases he with
  | vertex htake label => exact htake
  | edge htake label hs ht => exact htake

/-- The numbers in use behind a change are those before it and the one added. -/
theorem Effect.hasNumber {g h : Graph} {drawn : Bool} {x : Option Element} (he : g.Effect drawn x h)
    (k : UInt64) : h.hasNumber k = (x.any (k = ·.number) || g.hasNumber k) := by
  cases he with
  | @vertex n next htake label =>
    show ((g.vertices.insert ⟨n⟩ _).contains ⟨k⟩ || g.edges.contains ⟨k⟩) = _
    rw [OrderedMap.contains_insert, Bool.or_assoc]
    congr 1
    exact decide_eq_decide.2 (by rw [VertexId.mk.injEq]; rfl)
  | @edge n next htake label s t hs ht =>
    show (g.vertices.contains ⟨k⟩ || (g.edges.insert ⟨n⟩ _).contains ⟨k⟩) = _
    rw [OrderedMap.contains_insert, Bool.or_left_comm]
    congr 1
    exact decide_eq_decide.2 (by rw [EdgeId.mk.injEq]; rfl)
  | @vertexProperties v r hfind properties =>
    show ((g.vertices.insert v _).contains ⟨k⟩ || g.edges.contains ⟨k⟩) = _
    rw [OrderedMap.contains_insert_of_find? hfind]
    rfl
  | @edgeProperties e r hfind properties =>
    show (g.vertices.contains ⟨k⟩ || (g.edges.insert e _).contains ⟨k⟩) = _
    rw [OrderedMap.contains_insert_of_find? hfind]
    rfl

/-- An addition under a free number is fresh. -/
theorem Effect.addsFresh {g h : Graph} {drawn : Bool} {x : Element} (he : g.Effect drawn (some x) h)
    (hfree : g.hasNumber x.number = false) : g.AddsFresh x h := by
  obtain ⟨hv, hw⟩ := Bool.or_eq_false_iff.1 hfree
  cases he with
  | @vertex n next htake label =>
    refine ⟨hfree, ?_, fun y hy => ?_⟩
    · show (g.vertices.insert ⟨n⟩ _).size + g.edges.size = g.vertices.size + g.edges.size + 1
      have hsize := OrderedMap.size_insert_of_new hv ⟨label, .empty⟩
      change (g.vertices.insert ⟨n⟩ _).size = _ at hsize
      omega
    · cases y with
      | edge e => rfl
      | vertex v =>
        show ((g.vertices.insert ⟨n⟩ _).find? v).map _ = (g.vertices.find? v).map _
        rw [OrderedMap.find?_insert, if_neg]
        rintro rfl
        exact hy rfl
  | @edge n next htake label s t hs ht =>
    refine ⟨hfree, ?_, fun y hy => ?_⟩
    · show g.vertices.size + (g.edges.insert ⟨n⟩ _).size = g.vertices.size + g.edges.size + 1
      have hsize := OrderedMap.size_insert_of_new hw ⟨label, s, t, .empty⟩
      change (g.edges.insert ⟨n⟩ _).size = _ at hsize
      omega
    · cases y with
      | vertex v => rfl
      | edge e =>
        show ((g.edges.insert ⟨n⟩ _).find? e).map _ = (g.edges.find? e).map _
        rw [OrderedMap.find?_insert, if_neg]
        rintro rfl
        exact hy rfl

/-! ### While the largest number is free -/

/-- The counter is past every number in use, unless the largest is one of them. -/
def Ahead (g : Graph) : Prop :=
  g.hasNumber largest = false → ∀ n, g.hasNumber n = true → n < g.next

theorem ahead_empty : empty.Ahead := fun _ n hn => by cases hn

theorem Ahead.free {g : Graph} {drawn : Bool} {n next : UInt64} (hg : g.Ahead)
    (htake : g.Takes drawn n next) (hspare : drawn = true → g.hasNumber largest = false) :
    g.hasNumber n = false := by
  cases htake with
  | next =>
    rw [Bool.eq_false_iff]
    intro hused
    exact UInt64.lt_irrefl _ (hg (hspare rfl) _ hused)
  | chosen hfree => exact hfree

theorem Ahead.effect {g h : Graph} {drawn : Bool} {x : Option Element} (hg : g.Ahead)
    (he : g.Effect drawn x h) : h.Ahead := by
  intro hfree k hk
  rw [he.hasNumber, Bool.or_eq_false_iff] at hfree
  rw [he.hasNumber, Bool.or_eq_true] at hk
  cases x with
  | none =>
    have hnext : h.next = g.next := by cases he <;> rfl
    rw [hnext]
    exact hg hfree.2 k (hk.resolve_left Bool.false_ne_true)
  | some x =>
    have htake := he.takes
    have hne : largest ≠ x.number := of_decide_eq_false hfree.1
    -- The largest number was not the one drawn, so the counter had room.
    have hroom : drawn = true → g.next < largest := by
      rintro rfl
      have := htake.eq_next
      grind
    obtain ⟨hle, hpast⟩ := htake.bounds hroom
    rcases hk with hk | hk
    · rw [of_decide_eq_true hk]
      exact hpast.resolve_right hne.symm
    · exact UInt64.lt_of_lt_of_le (hg hfree.2 k hk) hle

theorem Ahead.apply {g : Graph} (hg : g.Ahead) (c : Change) : (g.apply c).Ahead := by
  rcases g.apply_cases c with ⟨-, hsame⟩ | he
  · rw [hsame]
    exact hg
  · exact hg.effect he

/-- The counter stays ahead along every history, the largest number in use or not. -/
theorem Ahead.run {g : Graph} (hg : g.Ahead) (cs : List Change) : (g.run cs).Ahead := by
  induction cs generalizing g with
  | nil => exact hg
  | cons c cs ih => exact ih (hg.apply c)

/-! ### The largest number -/

theorem effect_of_addedBy {g : Graph} {c : Change} {x : Element} (hx : g.addedBy c = some x) :
    g.Effect (g.draws c) (some x) (g.apply c) := by
  rcases g.apply_cases c with ⟨hnone, -⟩ | he
  · rw [hnone] at hx
    cases hx
  · rwa [hx] at he

/-- The counter does not get past the largest number. -/
theorem Takes.next_of_largest {g : Graph} {next : UInt64} (htake : g.Takes false largest next) :
    next = largest := by
  cases htake with
  | chosen hfree =>
    show (if g.next ≤ _ then _ else _) = largest
    grind

/-- **Additions are fresh while the largest number is free.** After any history, an addition takes
a number that no element has, unless it draws one while the largest number is in use. Where a caller
chooses the largest number, the next number drawn is that one again, and the element that has it is
written over or shares it. -/
theorem additions_fresh (cs : List Change) (c : Change) (x : Element)
    (hx : (empty.run cs).addedBy c = some x) :
    (((empty.run cs).draws c = true → (empty.run cs).hasNumber largest = false) →
        (empty.run cs).AddsFresh x (empty.run (cs ++ [c]))) ∧
      (x.number = largest → (empty.run cs).draws c = false →
        ∀ d y, (empty.run (cs ++ [c])).draws d = true →
          (empty.run (cs ++ [c])).addedBy d = some y →
            y.number = largest ∧ (empty.run (cs ++ [c])).hasNumber y.number = true) := by
  have hrun : empty.run (cs ++ [c]) = (empty.run cs).apply c := run_append _ _ _
  have he := effect_of_addedBy hx
  rw [hrun]
  constructor
  · intro hspare
    exact he.addsFresh ((ahead_empty.run cs).free he.takes hspare)
  · intro hlargest hchosen d y hd hy
    have htake := he.takes
    rw [hchosen, hlargest] at htake
    have hdrawn := (effect_of_addedBy hy).takes
    rw [hd] at hdrawn
    rw [hdrawn.eq_next, htake.next_of_largest]
    refine ⟨rfl, ?_⟩
    rw [he.hasNumber, Option.any_some, hlargest, decide_eq_true rfl, Bool.true_or]

/-- A vertex behind an edge with a chosen number, and a vertex behind the largest number. -/
theorem additions_fresh_bridge :
    (empty.run [.addVertexAt 7 "city", .addEdgeAt 9 "road" ⟨7⟩ ⟨7⟩]).AddsFresh (.vertex ⟨10⟩)
        (empty.run [.addVertexAt 7 "city", .addEdgeAt 9 "road" ⟨7⟩ ⟨7⟩, .addVertex "city"]) ∧
      (empty.run [.addVertexAt largest "city"]).hasNumber largest = true :=
  ⟨(additions_fresh [.addVertexAt 7 "city", .addEdgeAt 9 "road" ⟨7⟩ ⟨7⟩] (.addVertex "city")
      (.vertex ⟨10⟩) (by decide)).1 (by decide),
    ((additions_fresh [] (.addVertexAt largest "city") (.vertex ⟨largest⟩) (by decide)).2 rfl rfl
      (.addVertex "town") (.vertex ⟨largest⟩) rfl (by decide)).2⟩

/-- A number drawn behind the largest is not new: the second vertex takes the place of the first. -/
theorem drawn_number_in_use :
    ¬ ∀ (cs : List Change) (c : Change) (x : Element), (empty.run cs).addedBy c = some x →
      (empty.run cs).hasNumber x.number = false ∧
        (empty.run (cs ++ [c])).elementCount = (empty.run cs).elementCount + 1 := by
  intro h
  have hused := h [.addVertexAt largest "city"] (.addVertex "town") (.vertex ⟨largest⟩) (by decide)
  exact absurd hused.1 (by decide)

end Footpath.Graph
