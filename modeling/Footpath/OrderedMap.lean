/-! Finite maps that keep the order in which their keys first came in.

Writing a key that is present changes its value and leaves its place; a new key goes to the
end. Properties, variables, named paths and the two element stores are such maps, so every
listing of them is in first-assignment order. `find?_insert`, `find?_erase` and
`keys_insert` say what each operation does to the two views, `find?` and `keys`. -/
namespace Footpath

/-- A map with its entries in order of arrival, each key once. -/
@[ext]
structure OrderedMap (κ α : Type) where
  entries : List (κ × α)
  keys_nodup : (entries.map Prod.fst).Nodup
deriving DecidableEq

namespace OrderedMap

variable {κ α : Type} [DecidableEq κ]

/-! ### Writing and removing, on the entries -/

/-- The entries after `k` is given the value `v`. -/
def put (k : κ) (v : α) : List (κ × α) → List (κ × α)
  | [] => [(k, v)]
  | e :: es => if e.1 = k then (e.1, v) :: es else e :: put k v es

theorem keys_put (k : κ) (v : α) (es : List (κ × α)) :
    (put k v es).map Prod.fst =
      if k ∈ es.map Prod.fst then es.map Prod.fst else es.map Prod.fst ++ [k] := by
  induction es with
  | nil => rfl
  | cons e es ih => grind [put]

theorem nodup_put {k : κ} {v : α} {es : List (κ × α)} (h : (es.map Prod.fst).Nodup) :
    ((put k v es).map Prod.fst).Nodup := by
  rw [keys_put]
  split
  · exact h
  · rename_i hk
    rw [List.nodup_append]
    refine ⟨h, by simp, ?_⟩
    intro a ha b hb
    have hb : b = k := by simpa using hb
    exact fun hab => hk (by rw [← hb, ← hab]; exact ha)

/-- The value that stands beside `k`. -/
def look (k : κ) : List (κ × α) → Option α
  | [] => none
  | e :: es => if e.1 = k then some e.2 else look k es

/-! ### The operations -/

def empty : OrderedMap κ α := ⟨[], List.nodup_nil⟩

instance : EmptyCollection (OrderedMap κ α) := ⟨empty⟩

instance : Inhabited (OrderedMap κ α) := ⟨empty⟩

def keys (m : OrderedMap κ α) : List κ := m.entries.map Prod.fst

def size (m : OrderedMap κ α) : Nat := m.entries.length

def isEmpty (m : OrderedMap κ α) : Bool := m.entries.isEmpty

def find? (m : OrderedMap κ α) (k : κ) : Option α := look k m.entries

def contains (m : OrderedMap κ α) (k : κ) : Bool := (m.find? k).isSome

def insert (m : OrderedMap κ α) (k : κ) (v : α) : OrderedMap κ α :=
  ⟨put k v m.entries, nodup_put m.keys_nodup⟩

/-- The other entries stay in their order. -/
def erase (m : OrderedMap κ α) (k : κ) : OrderedMap κ α :=
  ⟨m.entries.filter fun e => e.1 ≠ k, m.keys_nodup.sublist (List.filter_sublist.map _)⟩

/-- Of two entries with one key the first keeps its place and the last its value. -/
def ofList (es : List (κ × α)) : OrderedMap κ α :=
  es.foldl (fun m e => m.insert e.1 e.2) empty

/-- Whether two maps hold the same entries, in whatever order. -/
def agrees [DecidableEq α] (m n : OrderedMap κ α) : Bool :=
  m.size == n.size && m.entries.all fun e => n.find? e.1 == some e.2

/-! ### What the operations do to the views -/

/-- Different members of a list are no more than it is long. -/
theorem length_le_of_nodup {l m : List κ} (hl : l.Nodup) (h : ∀ k ∈ l, k ∈ m) : l.length ≤ m.length := by
  induction l generalizing m with
  | nil => exact Nat.zero_le _
  | cons k l ih =>
    rw [List.nodup_cons] at hl
    have hk : k ∈ m := h k (by simp)
    have := ih hl.2 fun j hj =>
      (List.mem_erase_of_ne (fun he : j = k => hl.1 (he ▸ hj))).2 (h j (List.mem_cons_of_mem _ hj))
    rw [List.length_erase_of_mem hk] at this
    have := List.length_pos_of_mem hk
    rw [List.length_cons]
    omega

theorem look_put (k j : κ) (v : α) (es : List (κ × α)) :
    look j (put k v es) = if j = k then some v else look j es := by
  induction es with
  | nil => grind [put, look]
  | cons e es ih => grind [put, look]

/-- Of two values written to one key the last one stays. -/
theorem put_put (k : κ) (u v : α) (es : List (κ × α)) : put k v (put k u es) = put k v es := by
  induction es with
  | nil => simp [put]
  | cons e es ih => grind [put]

theorem put_of_not_mem {k : κ} {es : List (κ × α)} (h : k ∉ es.map Prod.fst) (v : α) :
    put k v es = es ++ [(k, v)] := by
  induction es with
  | nil => rfl
  | cons e es ih => grind [put]

/-- Where each key stands once, its value is the one beside it. -/
theorem look_of_mem {k : κ} {v : α} {es : List (κ × α)} (hes : (es.map Prod.fst).Nodup)
    (h : (k, v) ∈ es) : look k es = some v := by
  induction es with
  | nil => cases h
  | cons e es ih => grind [look]

theorem look_filter_ne (k j : κ) (es : List (κ × α)) :
    look j (es.filter fun e => e.1 ≠ k) = if j = k then none else look j es := by
  induction es with
  | nil => simp [look]
  | cons e es ih => grind [look]

theorem look_map {β : Type} (f : α → β) (k : κ) (es : List (κ × α)) :
    look k (es.map fun e => (e.1, f e.2)) = (look k es).map f := by
  induction es with
  | nil => rfl
  | cons e es ih => grind [look]

theorem look_isSome_iff (k : κ) (es : List (κ × α)) : (look k es).isSome ↔ k ∈ es.map Prod.fst := by
  induction es with
  | nil => simp [look]
  | cons e es ih => grind [look]

@[simp] theorem find?_empty (k : κ) : (empty : OrderedMap κ α).find? k = none := rfl

theorem find?_insert (m : OrderedMap κ α) (k j : κ) (v : α) :
    (m.insert k v).find? j = if j = k then some v else m.find? j :=
  look_put k j v m.entries

@[simp] theorem find?_insert_self (m : OrderedMap κ α) (k : κ) (v : α) :
    (m.insert k v).find? k = some v := by simp [find?_insert]

theorem find?_erase (m : OrderedMap κ α) (k j : κ) :
    (m.erase k).find? j = if j = k then none else m.find? j :=
  look_filter_ne k j m.entries

theorem keys_insert (m : OrderedMap κ α) (k : κ) (v : α) :
    (m.insert k v).keys = if k ∈ m.keys then m.keys else m.keys ++ [k] :=
  keys_put k v m.entries

theorem find?_isSome_iff (m : OrderedMap κ α) (k : κ) : (m.find? k).isSome ↔ k ∈ m.keys :=
  look_isSome_iff k m.entries

omit [DecidableEq κ] in
theorem nodup_keys (m : OrderedMap κ α) : m.keys.Nodup := m.keys_nodup

omit [DecidableEq κ] in
theorem length_keys (m : OrderedMap κ α) : m.keys.length = m.size := List.length_map _

theorem contains_iff_mem (m : OrderedMap κ α) (k : κ) : m.contains k = true ↔ k ∈ m.keys :=
  find?_isSome_iff m k

theorem contains_of_find? {m : OrderedMap κ α} {k : κ} {v : α} (h : m.find? k = some v) :
    m.contains k = true := by
  rw [contains, h, Option.isSome_some]

theorem contains_insert (m : OrderedMap κ α) (k j : κ) (v : α) :
    (m.insert k v).contains j = (decide (j = k) || m.contains j) := by
  rw [contains, find?_insert]
  split
  · rename_i h
    rw [decide_eq_true h, Bool.true_or, Option.isSome_some]
  · rename_i h
    rw [decide_eq_false h, Bool.false_or, contains]

theorem contains_insert_of_contains {m : OrderedMap κ α} {j : κ} (h : m.contains j = true) (k : κ)
    (v : α) : (m.insert k v).contains j = true := by
  rw [contains_insert, h, Bool.or_true]

theorem contains_insert_of_find? {m : OrderedMap κ α} {k : κ} {u : α} (h : m.find? k = some u) (v : α)
    (j : κ) : (m.insert k v).contains j = m.contains j := by
  rw [contains_insert]
  by_cases hj : j = k
  · rw [hj, contains_of_find? h, Bool.or_true]
  · rw [decide_eq_false hj, Bool.false_or]

/-- A new key goes to the end. -/
theorem keys_insert_of_new {m : OrderedMap κ α} {k : κ} (h : m.contains k = false) (v : α) :
    (m.insert k v).keys = m.keys ++ [k] := by
  rw [keys_insert, if_neg]
  rw [← contains_iff_mem, h]
  exact Bool.false_ne_true

theorem size_insert_of_new {m : OrderedMap κ α} {k : κ} (h : m.contains k = false) (v : α) :
    (m.insert k v).size = m.size + 1 := by
  rw [← length_keys, keys_insert_of_new h, List.length_append, length_keys]
  rfl

theorem insert_insert (m : OrderedMap κ α) (k : κ) (u v : α) : (m.insert k u).insert k v = m.insert k v :=
  OrderedMap.ext (put_put k u v m.entries)

/-- A write of what is there already changes nothing. -/
theorem insert_of_find? {m : OrderedMap κ α} {k : κ} {v : α} (h : m.find? k = some v) : m.insert k v = m := by
  have hput : ∀ {es : List (κ × α)}, look k es = some v → put k v es = es := by
    intro es
    induction es with
    | nil => exact fun h => by cases h
    | cons e es ih => grind [put, look]
  exact OrderedMap.ext (hput h)

theorem entries_insert_of_new {m : OrderedMap κ α} {k : κ} (h : m.contains k = false) (v : α) :
    (m.insert k v).entries = m.entries ++ [(k, v)] := by
  apply put_of_not_mem
  intro hk
  exact Bool.false_ne_true (h.symm.trans ((contains_iff_mem m k).2 hk))

/-- A write leaves no entry that was not there but its own. -/
theorem mem_entries_insert {m : OrderedMap κ α} {k : κ} {v : α} {e : κ × α} (h : e ∈ (m.insert k v).entries) :
    e = (k, v) ∨ e ∈ m.entries := by
  have hput : ∀ {es : List (κ × α)}, e ∈ put k v es → e = (k, v) ∨ e ∈ es := by
    intro es
    induction es with
    | nil => exact fun h => .inl (List.mem_singleton.1 h)
    | cons d es ih => grind [put]
  exact hput h

theorem find?_of_mem_entries {m : OrderedMap κ α} {k : κ} {v : α} (h : (k, v) ∈ m.entries) :
    m.find? k = some v :=
  look_of_mem m.keys_nodup h

theorem mem_entries_iff {m : OrderedMap κ α} {k : κ} {v : α} : (k, v) ∈ m.entries ↔ m.find? k = some v := by
  refine ⟨find?_of_mem_entries, fun h => ?_⟩
  obtain ⟨e, he, rfl⟩ := List.mem_map.1 ((find?_isSome_iff m k).1 (h ▸ rfl))
  rw [find?_of_mem_entries he] at h
  exact Option.some.inj h ▸ he

/-- The order of the entries is nothing to a lookup. -/
theorem find?_of_perm {m n : OrderedMap κ α} (h : m.entries.Perm n.entries) (k : κ) : m.find? k = n.find? k := by
  apply Option.ext
  intro v
  rw [← mem_entries_iff, ← mem_entries_iff, h.mem_iff]

/-- New keys go to the end in their order. -/
theorem entries_foldl_insert {m : OrderedMap κ α} {es : List (κ × α)}
    (hnodup : ((m.entries ++ es).map Prod.fst).Nodup) :
    (es.foldl (fun m e => m.insert e.1 e.2) m).entries = m.entries ++ es := by
  induction es generalizing m with
  | nil => exact (List.append_nil _).symm
  | cons e es ih =>
    have hnew : e.1 ∉ m.entries.map Prod.fst := by
      rw [List.map_append, List.nodup_append] at hnodup
      exact fun hmem => hnodup.2.2 _ hmem _ List.mem_cons_self rfl
    have hentries : (m.insert e.1 e.2).entries = m.entries ++ [e] := put_of_not_mem hnew e.2
    rw [List.append_cons, ← hentries] at hnodup ⊢
    exact ih hnodup

/-- A map is the one that its entries are written to, one after another. -/
theorem foldl_insert_entries (m : OrderedMap κ α) :
    m.entries.foldl (fun m e => m.insert e.1 e.2) empty = m :=
  OrderedMap.ext (entries_foldl_insert (m := empty) m.keys_nodup)

/-- A key that is present keeps its place. -/
theorem keys_insert_of_present {m : OrderedMap κ α} {k : κ} (h : m.contains k = true) (v : α) :
    (m.insert k v).keys = m.keys := by
  rw [keys_insert, if_pos ((contains_iff_mem m k).1 h)]

/-- Keys that are new follow the others, in the order of their first writes: one more write. -/
theorem keys_then (k : κ) (ks new : List κ) :
    let ks' := if k ∈ ks then ks else ks ++ [k]
    ks' ++ (new.filter fun j => j ∉ ks').eraseDups = ks ++ ((k :: new).filter fun j => j ∉ ks).eraseDups := by
  intro ks'
  by_cases hk : k ∈ ks
  · rw [show ks' = ks from if_pos hk, List.filter_cons_of_neg (by simpa using hk)]
  · rw [show ks' = ks ++ [k] from if_neg hk, List.filter_cons_of_pos (by simpa using hk), List.eraseDups_cons,
      List.filter_filter, List.append_assoc]
    refine congrArg (ks ++ k :: List.eraseDups ·) (List.filter_congr fun j _ => ?_)
    grind

/-- Maps agree in which every lookup is the same. -/
theorem agrees_iff [DecidableEq α] {m n : OrderedMap κ α} : m.agrees n = true ↔ ∀ k, m.find? k = n.find? k := by
  have hfound : (m.entries.all fun e => n.find? e.1 == some e.2) = true ↔
      ∀ k v, m.find? k = some v → n.find? k = some v := by
    rw [List.all_eq_true]
    exact ⟨fun h k v hv => eq_of_beq (h (k, v) (mem_entries_iff.2 hv)),
      fun h e he => beq_iff_eq.2 (h e.1 e.2 (mem_entries_iff.1 he))⟩
  have hkeys (hle : ∀ k v, m.find? k = some v → n.find? k = some v) : ∀ k ∈ m.keys, k ∈ n.keys := by
    intro k hk
    obtain ⟨v, hv⟩ := Option.isSome_iff_exists.1 ((find?_isSome_iff m k).2 hk)
    exact (find?_isSome_iff n k).1 (by rw [hle k v hv]; rfl)
  rw [agrees, Bool.and_eq_true, beq_iff_eq, hfound]
  constructor
  · rintro ⟨hsize, hle⟩ k
    cases hm : m.find? k with
    | some v => exact (hle k v hm).symm
    | none =>
      -- A key that only the other map had would be one too many.
      rw [eq_comm, ← Option.not_isSome_iff_eq_none]
      intro hn
      have hnew : k ∉ m.keys := by
        rw [← find?_isSome_iff, hm]
        exact Bool.false_ne_true
      have hcount := length_le_of_nodup (List.nodup_cons.2 ⟨hnew, m.nodup_keys⟩)
        (List.forall_mem_cons.2 ⟨(find?_isSome_iff n k).1 hn, hkeys hle⟩)
      rw [List.length_cons, length_keys, length_keys] at hcount
      omega
  · intro h
    have hle : ∀ k v, m.find? k = some v → n.find? k = some v := fun k v hv => (h k).symm.trans hv
    refine ⟨Nat.le_antisymm ?_ ?_, hle⟩
    · rw [← length_keys, ← length_keys]
      exact length_le_of_nodup m.nodup_keys (hkeys hle)
    · rw [← length_keys, ← length_keys]
      refine length_le_of_nodup n.nodup_keys fun k hk => ?_
      rwa [← find?_isSome_iff, h k, find?_isSome_iff]

end OrderedMap

end Footpath
