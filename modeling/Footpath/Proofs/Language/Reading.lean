import Footpath.Proofs.Language.Lexeme

/-! Reading lexemes.

`lexeme?` takes the lexeme at the start of a text, told by its first character. What it takes is spelled
so, it takes at least as much as any spelling there, and a spelling that is set off by a blank or a
parenthesis it takes whole; so what it takes is the longest match (`munches_iff`). The readers of
operands, comparisons and keywords are this one, restricted to some lexemes. -/
namespace Footpath
open Text Token Predicate

/-! ### Words -/

/-- What follows the word `k`, in any case of its letters. -/
def spelled? (k s : List Char) : Option (List Char) :=
  if (s.take k.length).map Char.toLower = k then some (s.drop k.length) else none

def word? (s : List Char) : Option (Lexeme × List Char) :=
  words.findSome? fun k => (spelled? k.1 s).map fun r => (k.2, r)

theorem spelled?_eq_some_iff {k s r : List Char} :
    spelled? k s = some r ↔ ∃ w, s = w ++ r ∧ w.map Char.toLower = k := by
  unfold spelled?
  constructor
  · intro h
    split at h
    · rename_i hk
      cases h
      exact ⟨s.take k.length, (List.take_append_drop _ _).symm, hk⟩
    · cases h
  · rintro ⟨w, rfl, rfl⟩
    rw [List.length_map, List.take_left, List.drop_left, if_pos rfl]

theorem endsWord_iff (s : List Char) : EndsWord s ↔ (!s.head?.any isNamePart) = true := by
  unfold EndsWord
  cases s with
  | nil => simp
  | cons c s => simp

theorem keyword?_eq_some_iff {k s r : List Char} :
    keyword? k s = some r ↔ ∃ w, skipBlank s = w ++ r ∧ w.map Char.toLower = k ∧ EndsWord r := by
  have hspelled : keyword? k s = (spelled? k (skipBlank s)).filter fun r => !r.head?.any isNamePart := by
    unfold keyword? spelled?
    by_cases hk : ((skipBlank s).take k.length).map Char.toLower = k
    · simp only [hk, beq_self_eq_true, Bool.true_and, if_pos, Option.filter_some]
    · simp only [beq_eq_false_iff_ne.2 hk, Bool.false_and, if_neg hk, Option.filter_none, Bool.false_eq_true,
        if_false]
  rw [hspelled, Option.filter_eq_some_iff, spelled?_eq_some_iff, ← endsWord_iff]
  constructor
  · rintro ⟨⟨w, hs, hw⟩, hend⟩
    exact ⟨w, hs, hw, hend⟩
  · rintro ⟨w, hs, hw, hend⟩
    exact ⟨⟨w, hs, hw⟩, hend⟩

/-- A word with another first letter is not there. -/
theorem spelled?_eq_none {a b : Char} {j k w : List Char} (hw : w.map Char.toLower = a :: k) (hab : a ≠ b)
    (t : List Char) : spelled? (b :: j) (w ++ t) = none := by
  rw [Option.eq_none_iff_forall_ne_some]
  intro r hr
  obtain ⟨v, hwv, hv⟩ := spelled?_eq_some_iff.1 hr
  obtain ⟨c, w, rfl, hc, -⟩ := List.map_eq_cons_iff.1 hw
  obtain ⟨d, v, rfl, hd, -⟩ := List.map_eq_cons_iff.1 hv
  have hcd : c = d := (List.cons.inj hwv).1
  rw [hcd, hd] at hc
  exact hab hc.symm

theorem word?_sound {s r : List Char} {x : Lexeme} (h : word? s = some (x, r)) :
    ∃ k w, (k, x) ∈ words ∧ s = w ++ r ∧ w.map Char.toLower = k := by
  obtain ⟨⟨k, y⟩, hk, he⟩ := List.exists_of_findSome?_eq_some h
  obtain ⟨r', hr, he⟩ := Option.map_eq_some_iff.1 he
  cases he
  obtain ⟨w, hs, hw⟩ := spelled?_eq_some_iff.1 hr
  exact ⟨k, w, hk, hs, hw⟩

theorem word?_append {k w : List Char} {x : Lexeme} (hx : (k, x) ∈ words) (hw : w.map Char.toLower = k)
    (t : List Char) : word? (w ++ t) = some (x, t) := by
  have hself : spelled? k (w ++ t) = some t := spelled?_eq_some_iff.2 ⟨w, rfl, hw⟩
  simp only [words, List.mem_cons, Prod.mk.injEq, List.not_mem_nil, or_false] at hx
  rcases hx with ⟨rfl, rfl⟩ | ⟨rfl, rfl⟩ | ⟨rfl, rfl⟩ | ⟨rfl, rfl⟩ <;>
    simp [word?, words, hself, spelled?_eq_none hw]

theorem isAlpha_of_toLower {c : Char} (h : c.toLower.isAlpha = true) : c.isAlpha = true := by
  by_cases hupper : c.val ≥ 'A'.val ∧ c.val ≤ 'Z'.val
  · exact Bool.or_eq_true_iff.2 (.inl (decide_eq_true hupper))
  · have hsame : c.toLower = c := dif_neg hupper
    rwa [hsame] at h

theorem isAlpha_of_mem_words {k w : List Char} {x : Lexeme} (hx : (k, x) ∈ words)
    (hw : w.map Char.toLower = k) : ∀ c ∈ w, c.isAlpha = true := by
  have hk : k.all Char.isAlpha = true := by
    simp only [words, List.mem_cons, Prod.mk.injEq, List.not_mem_nil, or_false] at hx
    rcases hx with ⟨rfl, -⟩ | ⟨rfl, -⟩ | ⟨rfl, -⟩ | ⟨rfl, -⟩ <;> rfl
  intro c hc
  apply isAlpha_of_toLower
  apply List.all_eq_true.1 hk
  rw [← hw]
  exact List.mem_map_of_mem hc

theorem isDigit_of_isAlpha {c : Char} (h : c.isAlpha = true) : c.isDigit = false := by
  have hletter := toNat_of_isAlpha h
  rw [Bool.eq_false_iff]
  intro hdigit
  have hrange : 48 ≤ c.toNat ∧ c.toNat ≤ 57 :=
    (Bool.and_eq_true_iff.1 hdigit).imp of_decide_eq_true of_decide_eq_true
  omega

/-! ### One reader for all lexemes -/

def lexeme? : List Char → Option (Lexeme × List Char)
  | [] => none
  | c :: cs =>
    if c = '(' then some (.opening, cs)
    else if c = ')' then some (.closing, cs)
    else if c = '@' then (name? cs).map fun (n, r) => (.operand (operandOfName n), r)
    else if c = '\'' || c = '"' then
      (quoted? c cs).map fun (t, r) => (.operand (.literal (.text (String.ofList t))), r)
    else if c.isDigit || c = '-' then
      (numeral? (c :: cs)).map fun (n, r) => (.operand (.literal n.value), r)
    else match comparison? (c :: cs) with
      | some (op, r) => some (.comparison op, r)
      | none => word? (c :: cs)

/-- A blank or a closing parenthesis comes next, if anything does. -/
def SetOff (s : List Char) : Prop := ∀ c, s.head? = some c → c = ' ' ∨ c = ')'

theorem setOff_nil : SetOff [] := fun _ h => by cases h

theorem SetOff.endsWord {s : List Char} (h : SetOff s) : EndsWord s := by
  intro c hc
  rcases h c hc with rfl | rfl <;> decide

theorem SetOff.endsNumeral {s : List Char} (h : SetOff s) : EndsNumeral s := by
  intro c hc
  rcases h c hc with rfl | rfl <;> decide

theorem spells_attribute {n : List Char} (hn : isName n = true) :
    Spells (.operand (operandOfName n)) ('@' :: n) := by
  unfold operandOfName
  split
  · rename_i h
    subst h
    exact .label
  · rename_i hlabel
    split
    · rename_i h
      subst h
      exact .identity
    · rename_i hid
      exact .property hn hlabel hid

theorem comparison?_sound {s r : List Char} {op : Comparison} (h : comparison? s = some (op, r)) :
    s = op.symbol.toList ++ r := by
  unfold comparison? at h
  split at h <;> cases h <;> rfl

/-- What is taken is spelled so. -/
theorem lexeme?_sound {s r : List Char} {x : Lexeme} (h : lexeme? s = some (x, r)) :
    ∃ w, s = w ++ r ∧ Spells x w := by
  unfold lexeme? at h
  split at h
  · cases h
  rename_i c cs
  split at h
  · rename_i hc
    cases h
    exact ⟨['('], by rw [hc]; rfl, .opening⟩
  split at h
  · rename_i hc
    cases h
    exact ⟨[')'], by rw [hc]; rfl, .closing⟩
  split at h
  · rename_i hc
    obtain ⟨⟨n, r'⟩, hn, he⟩ := Option.map_eq_some_iff.1 h
    cases he
    obtain ⟨rfl, hname⟩ := name?_sound hn
    exact ⟨'@' :: n, by rw [hc]; rfl, spells_attribute hname⟩
  split at h
  · rename_i hc
    obtain ⟨⟨t, r'⟩, ht, he⟩ := Option.map_eq_some_iff.1 h
    cases he
    have hq : c = '\'' ∨ c = '"' := by simpa using hc
    have hb : c ≠ '\\' := by rcases hq with rfl | rfl <;> decide
    obtain ⟨w, rfl, hw⟩ := (quoted?_eq_some_iff hb).1 ht
    exact ⟨c :: (w ++ [c]), by simp, .text hq hw⟩
  split at h
  · obtain ⟨⟨n, r'⟩, hn, he⟩ := Option.map_eq_some_iff.1 h
    cases he
    obtain ⟨w, hs, hw⟩ := numeral?_sound hn
    exact ⟨w, hs, .number hw⟩
  split at h
  · rename_i hc
    cases h
    exact ⟨_, comparison?_sound hc, .comparison _⟩
  · obtain ⟨k, w, hx, hs, hw⟩ := word?_sound h
    exact ⟨w, hs, .word hx hw⟩

/-! ### By the first character -/

theorem lexeme?_at (s : List Char) :
    lexeme? ('@' :: s) = (name? s).map fun (n, r) => (.operand (operandOfName n), r) := rfl

theorem lexeme?_quote {q : Char} (hq : q = '\'' ∨ q = '"') (s : List Char) :
    lexeme? (q :: s) = (quoted? q s).map fun (t, r) => (.operand (.literal (.text (String.ofList t))), r) := by
  rcases hq with rfl | rfl <;> rfl

theorem lexeme?_text {q : Char} {s w : List Char} (hq : q = '\'' ∨ q = '"') (hw : IsQuoted q s w)
    (t : List Char) :
    lexeme? (q :: (w ++ [q]) ++ t) = some (.operand (.literal (.text (String.ofList s))), t) := by
  have hb : q ≠ '\\' := by rcases hq with rfl | rfl <;> decide
  have hread : quoted? q (w ++ q :: t) = some (s, t) := (quoted?_eq_some_iff hb).2 ⟨w, rfl, hw⟩
  rw [List.cons_append, List.append_assoc, lexeme?_quote hq]
  exact congrArg _ hread

/-- No numeral starts with a quote. -/
theorem quote_eq_false {c : Char} (hc : (c.isDigit || c = '-') = true) :
    (decide (c = '\'') || decide (c = '"')) = false := by
  rw [Bool.or_eq_false_iff, decide_eq_false_iff_not, decide_eq_false_iff_not]
  constructor <;> rintro rfl <;> cases hc

theorem lexeme?_digit {c : Char} (hc : (c.isDigit || c = '-') = true) (s : List Char) :
    lexeme? (c :: s) = (numeral? (c :: s)).map fun (n, r) => (.operand (.literal n.value), r) := by
  have hne : c ≠ '(' ∧ c ≠ ')' ∧ c ≠ '@' := by
    refine ⟨?_, ?_, ?_⟩ <;> rintro rfl <;> cases hc
  rw [lexeme?, if_neg hne.1, if_neg hne.2.1, if_neg hne.2.2, quote_eq_false hc, if_neg Bool.false_ne_true, if_pos hc]

theorem lexeme?_letter {c : Char} (hc : c.isAlpha = true) (s : List Char) :
    lexeme? (c :: s) = word? (c :: s) := by
  have hne : ∀ d : Char, d.isAlpha = false → c ≠ d := by
    rintro d hd rfl
    exact Bool.false_ne_true (hd.symm.trans hc)
  have hquote : (decide (c = '\'') || decide (c = '"')) = false := by
    rw [decide_eq_false (hne _ rfl), decide_eq_false (hne _ rfl)]
    rfl
  have hnumber : (c.isDigit || decide (c = '-')) = false := by
    rw [isDigit_of_isAlpha hc, decide_eq_false (hne _ rfl)]
    rfl
  have hcomparison : comparison? (c :: s) = none := by
    unfold comparison?
    split <;> first | rfl | (rename_i h; cases h; cases hc)
  rw [lexeme?, if_neg (hne _ rfl), if_neg (hne _ rfl), if_neg (hne _ rfl), hquote, hnumber, hcomparison]
  rfl

theorem lexeme?_word {k w : List Char} {x : Lexeme} (hx : (k, x) ∈ words) (hw : w.map Char.toLower = k)
    (t : List Char) : lexeme? (w ++ t) = some (x, t) := by
  have hne : k ≠ [] := by
    rintro rfl
    simp [words] at hx
  have hword := word?_append hx hw t
  have hletters := isAlpha_of_mem_words hx hw
  cases w with
  | nil => exact absurd hw.symm hne
  | cons c w => exact (lexeme?_letter (hletters c List.mem_cons_self) (w ++ t)).trans hword

/-- A numeral starts with a digit or a minus. -/
theorem IsNumeral.head {n : Numeral} {w : List Char} (hw : IsNumeral n w) :
    ∃ c cs, w = c :: cs ∧ (c.isDigit || c = '-') = true := by
  cases hw with
  | mk negative hds hf hx =>
    obtain ⟨c, cs, rfl, hc⟩ := hds.head
    cases negative with
    | true => exact ⟨'-', _, rfl, rfl⟩
    | false => exact ⟨c, _, rfl, by rw [hc, Bool.true_or]⟩

theorem lexeme?_number {n : Numeral} {w : List Char} (hw : IsNumeral n w) (t : List Char) :
    lexeme? (w ++ t) = (numeral? (w ++ t)).map fun (n, r) => (.operand (.literal n.value), r) := by
  obtain ⟨c, cs, rfl, hc⟩ := hw.head
  exact lexeme?_digit hc (cs ++ t)

theorem lexeme?_comparison (op : Comparison) (t : List Char) :
    lexeme? (op.symbol.toList ++ t) =
      match comparison? (op.symbol.toList ++ t) with
      | some (op, r) => some (.comparison op, r)
      | none => word? (op.symbol.toList ++ t) := by
  cases op <;> rfl

/-- At least a sign that is there is taken; `>` and `<` take an equals sign behind them as well. -/
theorem comparison?_takes (op : Comparison) (t : List Char) :
    ∃ c r, comparison? (op.symbol.toList ++ t) = some (c, r) ∧ r.length ≤ t.length := by
  by_cases hop : (op = .gt ∨ op = .lt) ∧ ∃ u, t = '=' :: u
  · obtain ⟨rfl | rfl, u, rfl⟩ := hop <;> exact ⟨_, _, rfl, Nat.le_succ _⟩
  · refine ⟨op, t, ?_, Nat.le_refl _⟩
    cases t with
    | nil => cases op <;> rfl
    | cons d u => cases op <;> simp_all [Comparison.symbol, comparison?]

/-- A spelling that is set off is taken whole. -/
theorem lexeme?_append {x : Lexeme} {w t : List Char} (hw : Spells x w) (ht : SetOff t) :
    lexeme? (w ++ t) = some (x, t) := by
  cases hw with
  | opening => rfl
  | closing => rfl
  | comparison op =>
    rw [lexeme?_comparison]
    cases t with
    | nil => cases op <;> rfl
    | cons c t => rcases ht c rfl with rfl | rfl <;> cases op <;> rfl
  | label =>
    have hread := name?_append (n := ['l', 'a', 'b', 'e', 'l']) (by decide) ht.endsWord
    rw [List.cons_append, lexeme?_at, hread]
    rfl
  | identity =>
    have hread := name?_append (n := ['i', 'd']) (by decide) ht.endsWord
    rw [List.cons_append, lexeme?_at, hread]
    rfl
  | property hn hlabel hid =>
    rw [List.cons_append, lexeme?_at, name?_append hn ht.endsWord, Option.map_some]
    have hproperty : operandOfName _ = .property _ := (if_neg hlabel).trans (if_neg hid)
    rw [← hproperty]
  | text hq hw => exact lexeme?_text hq hw t
  | number hw => rw [lexeme?_number hw, numeral?_append hw ht.endsNumeral, Option.map_some]
  | word hx hw => exact lexeme?_word hx hw t

/-- Of any spelling, whatever follows it, at least all is taken. -/
theorem lexeme?_takes {x : Lexeme} {w : List Char} (hw : Spells x w) (t : List Char) :
    ∃ y r, lexeme? (w ++ t) = some (y, r) ∧ r.length ≤ t.length := by
  have hname : ∀ {n : List Char}, isName n = true →
      ∃ y r, lexeme? ('@' :: n ++ t) = some (y, r) ∧ r.length ≤ t.length := by
    intro n hn
    obtain ⟨m, r, hread, hlen⟩ := name?_takes hn t
    rw [List.cons_append, lexeme?_at, hread]
    exact ⟨_, _, rfl, hlen⟩
  cases hw with
  | opening => exact ⟨_, _, rfl, Nat.le_refl _⟩
  | closing => exact ⟨_, _, rfl, Nat.le_refl _⟩
  | comparison op =>
    obtain ⟨c, r, hread, hlen⟩ := comparison?_takes op t
    rw [lexeme?_comparison, hread]
    exact ⟨_, _, rfl, hlen⟩
  | label => exact hname (by decide)
  | identity => exact hname (by decide)
  | property hn _ _ => exact hname hn
  | text hq hw => exact ⟨_, _, lexeme?_text hq hw t, Nat.le_refl _⟩
  | number hw =>
    obtain ⟨m, r, hread, hlen⟩ := numeral?_takes hw t
    rw [lexeme?_number hw, hread]
    exact ⟨_, _, rfl, hlen⟩
  | word hx hw => exact ⟨_, _, lexeme?_word hx hw t, Nat.le_refl _⟩

/-! ### The longest match -/

/-- What is taken is the longest spelling that the text starts with. -/
theorem munches_iff {x : Lexeme} {w r : List Char} :
    Munches x w r ↔ lexeme? (w ++ r) = some (x, r) ∧ (x.isWord = true → EndsWord r) := by
  constructor
  · intro h
    refine ⟨?_, h.boundary⟩
    obtain ⟨y, r', hread, hlen⟩ := lexeme?_takes h.spells r
    obtain ⟨v, hsplit, hv⟩ := lexeme?_sound hread
    have hle := h.longest y v ⟨r', hsplit.symm⟩ hv
    have hlength := congrArg List.length hsplit
    rw [List.length_append, List.length_append] at hlength
    obtain ⟨rfl, rfl⟩ := List.append_inj hsplit (by omega)
    -- One spelling, so one lexeme.
    have hx := lexeme?_append h.spells setOff_nil
    have hy := lexeme?_append hv setOff_nil
    rw [hx] at hy
    cases hy
    exact hread
  · rintro ⟨hread, hboundary⟩
    obtain ⟨v, hsplit, hv⟩ := lexeme?_sound hread
    obtain rfl := List.append_cancel_right hsplit
    refine ⟨hv, ?_, hboundary⟩
    rintro y u ⟨t, ht⟩ hu
    obtain ⟨z, r', htaken, hlen⟩ := lexeme?_takes hu t
    rw [ht, hread] at htaken
    cases htaken
    have hlength := congrArg List.length ht
    rw [List.length_append, List.length_append] at hlength
    omega

end Footpath
