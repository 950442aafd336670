import Footpath.Proofs.Json.Scalars

/-! Reading JSON that was written.

The rules of the reader say what it takes from the start of a text (`Json.Read`). By them it takes back every
tree that the writer has written, whatever blanks are in front and whatever comes behind that does not go on
with a number (`Plain.rereads`). Trees with a number that is no whole one, or with a string that spells no
text, are not covered. -/
namespace Footpath.Json

/-! ### Rules of the reader -/

/-- The reader of values takes `j` from the start of `s` and leaves `rest`. -/
def Read (s : List Char) (j : Json) (rest : List Char) : Prop := ∃ p, value? s = some p ∧ p.value = j ∧ p.rest = rest

def ReadItems (s : List Char) (js : List Json) (rest : List Char) : Prop :=
  ∃ p, items? s = some p ∧ p.value = js ∧ p.rest = rest

def ReadMembers (s : List Char) (ms : List (Option String × Json)) (rest : List Char) : Prop :=
  ∃ p, members? s = some p ∧ p.value = ms ∧ p.rest = rest

variable {s t r rest : List Char} {j : Json} {js : List Json} {k : Option String} {ms : List (Option String × Json)}

theorem read_scalar {c : Char} (hs : skipSpace s = c :: t) (harray : c ≠ '[') (hobject : c ≠ '\x7b')
    (h : scalar? (c :: t) = some (j, rest)) : Read s j rest := by
  rw [Read, value?]
  split
  · rename_i hnil
    cases hs.symm.trans hnil
  · rename_i hcons
    cases hs.symm.trans hcons
    rw [if_neg harray, if_neg hobject]
    split
    · rename_i hnone
      cases h.symm.trans hnone
    · rename_i hsome
      cases h.symm.trans hsome
      exact ⟨_, rfl, rfl, rfl⟩

theorem read_array_nil (hs : skipSpace s = '[' :: t) (ht : skipSpace t = ']' :: rest) : Read s (.array []) rest := by
  rw [Read, value?]
  split
  · rename_i hnil
    cases hs.symm.trans hnil
  · rename_i hcons
    cases hs.symm.trans hcons
    rw [if_pos rfl]
    split
    · rename_i hclose
      cases ht.symm.trans hclose
      exact ⟨_, rfl, rfl, rfl⟩
    · rename_i hne
      exact absurd ht (hne _)

theorem read_array (hs : skipSpace s = '[' :: t) (ht : ∀ r, skipSpace t ≠ ']' :: r) (h : ReadItems t js rest) :
    Read s (.array js) rest := by
  obtain ⟨p, hitems, rfl, rfl⟩ := h
  rw [Read, value?]
  split
  · rename_i hnil
    cases hs.symm.trans hnil
  · rename_i hcons
    cases hs.symm.trans hcons
    rw [if_pos rfl]
    split
    · rename_i hclose
      exact absurd hclose (ht _)
    · rw [hitems]
      exact ⟨_, rfl, rfl, rfl⟩

theorem read_object_nil (hs : skipSpace s = '\x7b' :: t) (ht : skipSpace t = '\x7d' :: rest) :
    Read s (.object []) rest := by
  rw [Read, value?]
  split
  · rename_i hnil
    cases hs.symm.trans hnil
  · rename_i hcons
    cases hs.symm.trans hcons
    rw [if_neg (by decide), if_pos rfl]
    split
    · rename_i hclose
      cases ht.symm.trans hclose
      exact ⟨_, rfl, rfl, rfl⟩
    · rename_i hne
      exact absurd ht (hne _)

theorem read_object (hs : skipSpace s = '\x7b' :: t) (ht : ∀ r, skipSpace t ≠ '\x7d' :: r) (h : ReadMembers t ms rest) :
    Read s (.object ms) rest := by
  obtain ⟨p, hmembers, rfl, rfl⟩ := h
  rw [Read, value?]
  split
  · rename_i hnil
    cases hs.symm.trans hnil
  · rename_i hcons
    cases hs.symm.trans hcons
    rw [if_neg (by decide), if_pos rfl]
    split
    · rename_i hclose
      exact absurd hclose (ht _)
    · rw [hmembers]
      exact ⟨_, rfl, rfl, rfl⟩

theorem readItems_last (h : Read s j r) (hr : skipSpace r = ']' :: rest) : ReadItems s [j] rest := by
  obtain ⟨p, hvalue, rfl, rfl⟩ := h
  rw [ReadItems, items?, hvalue]
  dsimp only
  split
  · rename_i hclose
    cases hr.symm.trans hclose
    exact ⟨_, rfl, rfl, rfl⟩
  · rename_i hmore
    cases hr.symm.trans hmore
  · rename_i hne _
    exact absurd hr (hne _)

theorem readItems_cons (h : Read s j r) (hr : skipSpace r = ',' :: t) (hitems : ReadItems t js rest) :
    ReadItems s (j :: js) rest := by
  obtain ⟨p, hvalue, rfl, rfl⟩ := h
  obtain ⟨q, hitems, rfl, rfl⟩ := hitems
  rw [ReadItems, items?, hvalue]
  dsimp only
  split
  · rename_i hclose
    cases hr.symm.trans hclose
  · rename_i hmore
    cases hr.symm.trans hmore
    rw [hitems]
    exact ⟨_, rfl, rfl, rfl⟩
  · rename_i hne
    exact absurd hr (hne _)

theorem readMembers_last {v : List Char} (hk : key? s = some (k, v)) (h : Read v j r)
    (hr : skipSpace r = '\x7d' :: rest) : ReadMembers s [(k, j)] rest := by
  obtain ⟨p, hvalue, rfl, rfl⟩ := h
  rw [ReadMembers, members?]
  split
  · rename_i hnone
    cases hk.symm.trans hnone
  · rename_i hsome
    cases hk.symm.trans hsome
    rw [hvalue]
    dsimp only
    split
    · rename_i hclose
      cases hr.symm.trans hclose
      exact ⟨_, rfl, rfl, rfl⟩
    · rename_i hmore
      cases hr.symm.trans hmore
    · rename_i hne _
      exact absurd hr (hne _)

theorem readMembers_cons {v : List Char} (hk : key? s = some (k, v)) (h : Read v j r)
    (hr : skipSpace r = ',' :: t) (hmembers : ReadMembers t ms rest) : ReadMembers s ((k, j) :: ms) rest := by
  obtain ⟨p, hvalue, rfl, rfl⟩ := h
  obtain ⟨q, hmembers, rfl, rfl⟩ := hmembers
  rw [ReadMembers, members?]
  split
  · rename_i hnone
    cases hk.symm.trans hnone
  · rename_i hsome
    cases hk.symm.trans hsome
    rw [hvalue]
    dsimp only
    split
    · rename_i hclose
      cases hr.symm.trans hclose
    · rename_i hmore
      cases hr.symm.trans hmore
      rw [hmembers]
      exact ⟨_, rfl, rfl, rfl⟩
    · rename_i hne
      exact absurd hr (hne _)

/-! ### Trees that are written to be read -/

/-- Numbers are whole, and strings and keys spell texts. -/
inductive Plain : Json → Prop where
  | null : Plain .null
  | boolean (b : Bool) : Plain (.boolean b)
  | number (negative : Bool) (m : Nat) : Plain (.number (.signed negative m))
  | string (s : String) : Plain (.string (some s))
  | array {js : List Json} (hitems : ∀ j ∈ js, Plain j) : Plain (.array js)
  | object {ms : List (Option String × Json)} (hkeys : ∀ m ∈ ms, m.1.isSome) (hvalues : ∀ m ∈ ms, Plain m.2) :
      Plain (.object ms)

theorem isSpace_of_isDigit {c : Char} (h : c.isDigit = true) : isSpace c = false := by
  rw [isSpace]
  rcases hc : (c == ' ' || c == '\t' || c == '\n' || c == '\r') with _ | _
  · rfl
  · simp only [Bool.or_eq_true, beq_iff_eq] at hc
    rcases hc with ((rfl | rfl) | rfl) | rfl <;> exact absurd h (by decide)

theorem skipSpace_of_head {c : Char} (h : isSpace c = false) (t : List Char) : skipSpace (c :: t) = c :: t :=
  List.dropWhile_cons_of_neg (by simp [h])

theorem skipSpace_indent (depth : Nat) (t : List Char) : skipSpace (indent depth ++ t) = skipSpace t := by
  apply List.dropWhile_append_of_pos
  intro c hc
  rcases List.mem_cons.1 hc with rfl | hc
  · rfl
  · rw [List.eq_of_mem_replicate hc]
    rfl

theorem stops_indent (depth : Nat) (t : List Char) : Stops (indent depth ++ t) := by
  rintro c ⟨⟩
  decide

/-- No blank stands in front of a value, and no bracket that closes. -/
theorem Plain.pretty_head {j : Json} (hj : j.Plain) (depth : Nat) :
    ∃ c t, pretty depth j = c :: t ∧ isSpace c = false ∧ c ≠ ']' := by
  cases hj with
  | null => exact ⟨_, _, rfl, rfl, by decide⟩
  | boolean b => cases b <;> exact ⟨_, _, rfl, rfl, by decide⟩
  | number negative m =>
    cases negative with
    | true => exact ⟨'-', _, rfl, rfl, by decide⟩
    | false =>
      obtain ⟨d, ds, hds, hd⟩ := JsonNumber.head_toDigits m
      refine ⟨d, ds, by simp [pretty, JsonNumber.text, JsonNumber.signed, hds], isSpace_of_isDigit hd, ?_⟩
      rintro rfl
      exact absurd hd (by decide)
  | string s => exact ⟨_, _, rfl, rfl, by decide⟩
  | @array js hitems => cases js <;> exact ⟨_, _, rfl, rfl, by decide⟩
  | @object ms hkeys hvalues =>
    cases ms with
    | nil => exact ⟨_, _, rfl, rfl, by decide⟩
    | cons m ms => exact ⟨_, _, rfl, rfl, by decide⟩

theorem Plain.skipSpace_pretty {j : Json} (hj : j.Plain) (depth : Nat) (rest : List Char) :
    skipSpace (pretty depth j ++ rest) = pretty depth j ++ rest := by
  obtain ⟨c, t, hpretty, hc, -⟩ := hj.pretty_head depth
  rw [hpretty, List.cons_append, skipSpace_of_head hc]

/-! ### Values read back -/

/-- What is written for a tree is read as the tree, whatever blanks are in front and whatever comes behind. -/
def Rereads (j : Json) : Prop :=
  ∀ (depth : Nat) (s rest : List Char), Stops rest → skipSpace s = pretty depth j ++ rest → Read s j rest

theorem readItems_pretty {depth d : Nat} {rest : List Char} {js : List Json} (hplain : ∀ j ∈ js, j.Plain)
    (hjs : ∀ j ∈ js, j.Rereads) {j : Json} (hj : j.Rereads) {s : List Char}
    (hs : skipSpace s = pretty depth j ++ (moreItems depth js ++ (indent d ++ ']' :: rest))) :
    ReadItems s (j :: js) rest := by
  induction js generalizing j s with
  | nil =>
    have hread := hj depth s _ (stops_indent d (']' :: rest)) hs
    exact readItems_last hread (by rw [skipSpace_indent, skipSpace_of_head rfl])
  | cons i js ih =>
    rw [moreItems, List.append_assoc, List.append_assoc, List.cons_append] at hs
    have hread := hj depth s _ (by rintro c ⟨⟩; decide) hs
    refine readItems_cons hread (skipSpace_of_head rfl _) ?_
    apply ih (fun i hi => hplain i (List.mem_cons_of_mem _ hi)) (fun i hi => hjs i (List.mem_cons_of_mem _ hi))
      (hjs i List.mem_cons_self)
    rw [skipSpace_indent, (hplain i List.mem_cons_self).skipSpace_pretty]

theorem quote_append (k : String) (t : List Char) : quote k ++ t = '"' :: (k.toList.flatMap escape ++ '"' :: t) := by
  rw [quote, List.cons_append, List.cons_append, List.append_assoc, List.singleton_append]

theorem skipSpace_quote (k : String) (t : List Char) : skipSpace (quote k ++ t) = quote k ++ t := by
  rw [quote_append, skipSpace_of_head rfl]

theorem key?_quote {s rest : List Char} {k : String} (hs : skipSpace s = quote k ++ ':' :: rest) :
    key? s = some (some k, rest) := by
  rw [quote_append] at hs
  unfold key?
  simp only [hs, string?_escaped, skipSpace_of_head (c := ':') rfl]

/-- A key, its colon and a blank stand in front of the value of a member. -/
theorem Plain.readMember {j : Json} (hj : j.Plain) (hread : j.Rereads) {depth : Nat} {k : String} {s rest : List Char}
    (hrest : Stops rest) (hs : skipSpace s = quote k ++ ':' :: ' ' :: (pretty depth j ++ rest)) :
    ∃ v, key? s = some (some k, v) ∧ Read v j rest := by
  refine ⟨_, key?_quote hs, hread depth _ _ hrest ?_⟩
  rw [skipSpace, List.dropWhile_cons_of_pos (by rfl)]
  exact hj.skipSpace_pretty depth rest

theorem readMembers_pretty {depth d : Nat} {rest : List Char} {ms : List (Option String × Json)}
    (hkeys : ∀ m ∈ ms, m.1.isSome) (hplain : ∀ m ∈ ms, m.2.Plain) (hms : ∀ m ∈ ms, m.2.Rereads) {k : String}
    {j : Json} (hplainj : j.Plain) (hj : j.Rereads) {s : List Char}
    (hs : skipSpace s =
      quote k ++ ':' :: ' ' :: (pretty depth j ++ (moreMembers depth ms ++ (indent d ++ '\x7d' :: rest)))) :
    ReadMembers s ((some k, j) :: ms) rest := by
  induction ms generalizing k j s with
  | nil =>
    obtain ⟨v, hkey, hread⟩ := hplainj.readMember hj (stops_indent d ('\x7d' :: rest)) hs
    exact readMembers_last hkey hread (by rw [skipSpace_indent, skipSpace_of_head rfl])
  | cons m ms ih =>
    obtain ⟨k', i⟩ := m
    obtain ⟨k', rfl⟩ := Option.isSome_iff_exists.1 (hkeys _ List.mem_cons_self)
    simp only [moreMembers, Option.getD_some, List.cons_append, List.append_assoc, List.nil_append] at hs
    obtain ⟨v, hkey, hread⟩ := hplainj.readMember hj (by rintro c ⟨⟩; decide) hs
    refine readMembers_cons hkey hread (skipSpace_of_head rfl _) ?_
    apply ih (fun m hm => hkeys m (List.mem_cons_of_mem _ hm)) (fun m hm => hplain m (List.mem_cons_of_mem _ hm))
      (fun m hm => hms m (List.mem_cons_of_mem _ hm)) (hplain _ List.mem_cons_self) (hms _ List.mem_cons_self)
    rw [skipSpace_indent, skipSpace_quote]

/-- **What is written is read back.** -/
theorem Plain.rereads {j : Json} (hj : j.Plain) : j.Rereads := by
  induction hj with
  | null =>
    intro depth s rest _ hs
    exact read_scalar hs (by decide) (by decide) rfl
  | boolean b =>
    intro depth s rest _ hs
    cases b <;> exact read_scalar hs (by decide) (by decide) rfl
  | string t =>
    intro depth s rest _ hs
    rw [pretty, Option.getD_some, quote_append] at hs
    apply read_scalar hs (by decide) (by decide)
    rw [scalar?, string?_escaped, Option.map_some]
  | number negative m =>
    intro depth s rest hrest hs
    obtain ⟨c, t, hhead, harray, hobject, hscalar⟩ := scalar?_signed negative m hrest
    rw [pretty, hhead] at hs
    exact read_scalar hs harray hobject hscalar
  | @array js hitems ih =>
    intro depth s rest _ hs
    cases js with
    | nil => exact read_array_nil hs (skipSpace_of_head rfl _)
    | cons j js =>
      rw [pretty] at hs
      simp only [List.cons_append, List.append_assoc, List.nil_append] at hs
      have hplain := hitems j List.mem_cons_self
      have hfirst : skipSpace (indent (depth + 1) ++ (pretty (depth + 1) j ++ (moreItems (depth + 1) js ++
          (indent depth ++ ']' :: rest)))) =
            pretty (depth + 1) j ++ (moreItems (depth + 1) js ++ (indent depth ++ ']' :: rest)) := by
        rw [skipSpace_indent, hplain.skipSpace_pretty]
      refine read_array hs (fun r hr => ?_) (readItems_pretty (fun i hi => hitems i (List.mem_cons_of_mem _ hi))
        (fun i hi => ih i (List.mem_cons_of_mem _ hi)) (ih j List.mem_cons_self) hfirst)
      obtain ⟨c, t, hpretty, -, hc⟩ := hplain.pretty_head (depth + 1)
      rw [hfirst, hpretty, List.cons_append, List.cons.injEq] at hr
      exact hc hr.1
  | @object ms hkeys hvalues ih =>
    intro depth s rest _ hs
    cases ms with
    | nil => exact read_object_nil hs (skipSpace_of_head rfl _)
    | cons m ms =>
      obtain ⟨k, j⟩ := m
      obtain ⟨k, rfl⟩ := Option.isSome_iff_exists.1 (hkeys _ List.mem_cons_self)
      rw [pretty] at hs
      simp only [Option.getD_some, List.cons_append, List.append_assoc, List.nil_append] at hs
      have hfirst : skipSpace (indent (depth + 1) ++ (quote k ++ ':' :: ' ' :: (pretty (depth + 1) j ++
          (moreMembers (depth + 1) ms ++ (indent depth ++ '\x7d' :: rest))))) =
            quote k ++ ':' :: ' ' :: (pretty (depth + 1) j ++
              (moreMembers (depth + 1) ms ++ (indent depth ++ '\x7d' :: rest))) := by
        rw [skipSpace_indent, skipSpace_quote]
      refine read_object hs (fun r hr => ?_) (readMembers_pretty (fun m hm => hkeys m (List.mem_cons_of_mem _ hm))
        (fun m hm => hvalues m (List.mem_cons_of_mem _ hm)) (fun m hm => ih m (List.mem_cons_of_mem _ hm))
        (hvalues _ List.mem_cons_self) (ih _ List.mem_cons_self) hfirst)
      rw [hfirst, quote_append, List.cons.injEq] at hr
      exact absurd hr.1 (by decide)

end Footpath.Json