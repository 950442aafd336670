import Footpath.Proofs.Language.Reading

/-! Rows of lexemes.

A text reads as a row of lexemes where each is the longest match behind the blanks before it. A row is
taken apart at its front by the readers of the parser, one lemma for each kind of lexeme. -/
namespace Footpath
open Text Token Predicate

/-! ### Rows of lexemes -/

theorem Spells.head {x : Lexeme} {w : List Char} (h : Spells x w) : ∃ c cs, w = c :: cs ∧ isBlank c = false := by
  cases h with
  | opening => exact ⟨_, _, rfl, rfl⟩
  | closing => exact ⟨_, _, rfl, rfl⟩
  | comparison op => cases op <;> exact ⟨_, _, rfl, rfl⟩
  | label => exact ⟨_, _, rfl, rfl⟩
  | identity => exact ⟨_, _, rfl, rfl⟩
  | property => exact ⟨_, _, rfl, rfl⟩
  | text hq hw => rcases hq with rfl | rfl <;> exact ⟨_, _, rfl, rfl⟩
  | number hw =>
    obtain ⟨c, cs, rfl, hc⟩ := hw.head
    refine ⟨c, cs, rfl, ?_⟩
    rcases Bool.or_eq_true _ _ ▸ hc with hd | hm
    · exact isBlank_of_isDigit hd
    · rw [of_decide_eq_true hm]
      rfl
  | word hx hw =>
    have hletters := isAlpha_of_mem_words hx hw
    cases w with
    | nil =>
      subst hw
      simp [words] at hx
    | cons c w => exact ⟨c, w, rfl, isBlank_of_isAlpha (hletters c List.mem_cons_self)⟩

theorem skipBlank_blank {c : Char} (hc : isBlank c = true) (s : List Char) : skipBlank (c :: s) = skipBlank s :=
  List.dropWhile_cons_of_pos hc

theorem skipBlank_skipBlank (s : List Char) : skipBlank (skipBlank s) = skipBlank s := by
  induction s with
  | nil => rfl
  | cons c s ih =>
    by_cases hc : isBlank c = true
    · rw [skipBlank_blank hc]
      exact ih
    · have hself : skipBlank (c :: s) = c :: s := List.dropWhile_cons_of_neg hc
      rw [hself, hself]

theorem Spells.skipBlank_append {x : Lexeme} {w : List Char} (h : Spells x w) (s : List Char) :
    skipBlank (w ++ s) = w ++ s := by
  obtain ⟨c, cs, rfl, hc⟩ := h.head
  exact List.dropWhile_cons_of_neg (by rw [hc]; exact Bool.false_ne_true)

theorem Reads.of_skipBlank {s r : List Char} {xs : List Lexeme} (h : Reads (skipBlank s) xs r) : Reads s xs r := by
  induction s with
  | nil => exact h
  | cons c s ih =>
    by_cases hc : isBlank c = true
    · rw [skipBlank_blank hc] at h
      exact .blank hc (ih h)
    · rwa [skipBlank, List.dropWhile_cons_of_neg hc] at h

/-- A row starts with what is the longest match behind the blanks. -/
theorem reads_cons_iff {s r : List Char} {x : Lexeme} {xs : List Lexeme} :
    Reads s (x :: xs) r ↔ ∃ w m, skipBlank s = w ++ m ∧ Munches x w m ∧ Reads m xs r := by
  constructor
  · intro h
    generalize hys : x :: xs = ys at h
    induction h with
    | nil => cases hys
    | blank hc h ih =>
      rw [skipBlank_blank hc]
      exact ih hys
    | cons hx h =>
      cases hys
      exact ⟨_, _, hx.spells.skipBlank_append _, hx, h⟩
  · rintro ⟨w, m, hs, hx, h⟩
    apply Reads.of_skipBlank
    rw [hs]
    exact .cons hx h

/-- Only blanks are passed over between lexemes. -/
theorem skipBlank_of_reads_nil {s r : List Char} (h : Reads s [] r) : skipBlank s = skipBlank r := by
  generalize hys : ([] : List Lexeme) = ys at h
  induction h with
  | nil => rfl
  | blank hc h ih =>
    rw [skipBlank_blank hc]
    exact ih hys
  | cons => cases hys

theorem Reads.append {s m r : List Char} {xs ys : List Lexeme} (hx : Reads s xs m) (hy : Reads m ys r) :
    Reads s (xs ++ ys) r := by
  induction hx with
  | nil => exact hy
  | blank hc _ ih => exact .blank hc (ih hy)
  | cons hx _ ih => exact .cons hx (ih hy)

theorem reads_append_iff {s r : List Char} {xs ys : List Lexeme} :
    Reads s (xs ++ ys) r ↔ ∃ m, Reads s xs m ∧ Reads m ys r := by
  constructor
  · intro h
    induction xs generalizing s with
    | nil => exact ⟨s, .nil s, h⟩
    | cons x xs ih =>
      obtain ⟨w, m, hs, hx, h⟩ := reads_cons_iff.1 h
      obtain ⟨m', hxs, hys⟩ := ih h
      exact ⟨m', reads_cons_iff.2 ⟨w, m, hs, hx, hxs⟩, hys⟩
  · rintro ⟨m, hx, hy⟩
    exact hx.append hy

/-- Rows by the reader. -/
theorem reads_cons_iff_lexeme? {s r : List Char} {x : Lexeme} {xs : List Lexeme} :
    Reads s (x :: xs) r ↔
      ∃ m, lexeme? (skipBlank s) = some (x, m) ∧ (x.isWord = true → EndsWord m) ∧ Reads m xs r := by
  rw [reads_cons_iff]
  constructor
  · rintro ⟨w, m, hs, hx, h⟩
    obtain ⟨hread, hword⟩ := munches_iff.1 hx
    exact ⟨m, hs ▸ hread, hword, h⟩
  · rintro ⟨m, hread, hword, h⟩
    obtain ⟨w, hs, -⟩ := lexeme?_sound hread
    exact ⟨w, m, hs, munches_iff.2 ⟨hs ▸ hread, hword⟩, h⟩

/-! ### The readers of the parser -/

theorem isWord_operand {o : Operand} :
    (Lexeme.operand o).isWord = true ↔ ∃ b, o = .literal (.boolean b) := by
  simp only [Lexeme.isWord, words, List.any_cons, List.any_nil, Bool.or_false, Bool.or_eq_true,
    decide_eq_true_eq, reduceCtorEq, false_or, Lexeme.operand.injEq]
  constructor
  · rintro (h | h)
    · exact ⟨true, h.symm⟩
    · exact ⟨false, h.symm⟩
  · rintro ⟨b, rfl⟩
    cases b
    · exact .inr rfl
    · exact .inl rfl

theorem operandOfName_ne_literal (n : List Char) (v : Value) : operandOfName n ≠ .literal v := by
  unfold operandOfName
  split
  · exact Operand.noConfusion
  · split <;> exact Operand.noConfusion

theorem value_ne_boolean (n : Numeral) (b : Bool) : n.value ≠ .boolean b := by
  intro h
  unfold Numeral.value at h
  dsimp only at h
  split at h <;> split at h <;> cases h

/-- A word is spelled as nothing else is. -/
theorem Spells.toLower_of_mem_words {k w : List Char} {x : Lexeme} (h : Spells x w) (hx : (k, x) ∈ words) :
    w.map Char.toLower = k := by
  simp only [words, List.mem_cons, Prod.mk.injEq, List.not_mem_nil, or_false] at hx
  cases h with
  | opening | closing | comparison | label | identity | property | text => simp at hx
  | @number n w hw =>
    have := value_ne_boolean n
    simp_all
  | word hj hw =>
    simp only [words, List.mem_cons, Prod.mk.injEq, List.not_mem_nil, or_false] at hj
    rw [hw]
    rcases hx with ⟨rfl, rfl⟩ | ⟨rfl, rfl⟩ | ⟨rfl, rfl⟩ | ⟨rfl, rfl⟩ <;> simpa using hj

/-- A keyword is the lexeme of its word. -/
theorem keyword?_eq_some_iff_lexeme? {k s r : List Char} {x : Lexeme} (hx : (k, x) ∈ words) :
    keyword? k s = some r ↔ lexeme? (skipBlank s) = some (x, r) ∧ EndsWord r := by
  rw [keyword?_eq_some_iff]
  constructor
  · rintro ⟨w, hs, hw, hend⟩
    rw [hs]
    exact ⟨lexeme?_word hx hw r, hend⟩
  · rintro ⟨hread, hend⟩
    obtain ⟨w, hs, hw⟩ := lexeme?_sound hread
    exact ⟨w, hs, hw.toLower_of_mem_words hx, hend⟩

theorem truth?_eq_some_iff {s r : List Char} {b : Bool} :
    truth? s = some (b, r) ↔ lexeme? (skipBlank s) = some (.operand (.literal (.boolean b)), r) ∧ EndsWord r := by
  have htrue : ∀ r, keyword? ['t', 'r', 'u', 'e'] s = some r ↔
      lexeme? (skipBlank s) = some (.operand (.literal (.boolean true)), r) ∧ EndsWord r :=
    fun r => keyword?_eq_some_iff_lexeme? (by simp [words])
  have hfalse : ∀ r, keyword? ['f', 'a', 'l', 's', 'e'] s = some r ↔
      lexeme? (skipBlank s) = some (.operand (.literal (.boolean false)), r) ∧ EndsWord r :=
    fun r => keyword?_eq_some_iff_lexeme? (by simp [words])
  unfold truth?
  cases ht : keyword? ['t', 'r', 'u', 'e'] s with
  | some t =>
    have hread := (htrue t).1 ht
    simp only [hread.1, Option.some.injEq, Prod.mk.injEq, Lexeme.operand.injEq, Operand.literal.injEq,
      Value.boolean.injEq]
    constructor
    · rintro ⟨rfl, rfl⟩
      exact ⟨⟨rfl, rfl⟩, hread.2⟩
    · exact fun h => h.1
  | none =>
    cases b with
    | false =>
      rw [← hfalse]
      simp
    | true =>
      rw [← htrue, ht]
      simp

/-- The operand that a text starts with by its first character, where that is no letter. -/
theorem operand_eq_ok_iff_of_read {s r : List Char} {o p : Operand} (hp : ∀ b, p ≠ .literal (.boolean b)) :
    (Except.ok (p, s) : Except PredicateFlaw (Operand × List Char)) = .ok (o, r) ↔
      some (Lexeme.operand p, s) = some (.operand o, r) ∧ ((Lexeme.operand o).isWord = true → EndsWord r) := by
  constructor
  · intro h
    cases h
    refine ⟨rfl, fun hword => ?_⟩
    obtain ⟨b, hb⟩ := isWord_operand.1 hword
    exact absurd hb (hp b)
  · rintro ⟨h, -⟩
    cases h
    rfl

/-- By its first character every operand but a word is another kind. -/
theorem exists_boolean_of_lexeme? {c : Char} {cs r : List Char} {o : Operand} (hat : c ≠ '@')
    (hq : ¬(c = '\'' ∨ c = '"')) (hd : ¬(c.isDigit || decide (c = '-')) = true)
    (h : lexeme? (c :: cs) = some (.operand o, r)) : ∃ b, o = .literal (.boolean b) := by
  obtain ⟨w, hsplit, hw⟩ := lexeme?_sound h
  cases hw with
  | label | identity | property => exact absurd (List.cons.inj hsplit).1 hat
  | text hquote _ => exact absurd ((List.cons.inj hsplit).1 ▸ hquote) hq
  | number hn =>
    obtain ⟨d, ds, rfl, hdigit⟩ := hn.head
    exact absurd ((List.cons.inj hsplit).1 ▸ hdigit) hd
  | word hx _ => exact isWord_operand.1 (List.any_eq_true.2 ⟨_, hx, by simp⟩)

theorem operand_eq_ok_iff {s r : List Char} {o : Operand} :
    Predicate.operand s = .ok (o, r) ↔
      lexeme? (skipBlank s) = some (.operand o, r) ∧ ((Lexeme.operand o).isWord = true → EndsWord r) := by
  unfold Predicate.operand
  have hskip := skipBlank_skipBlank s
  cases hs : skipBlank s with
  | nil => simp [lexeme?]
  | cons c cs =>
    rw [hs] at hskip
    by_cases hat : c = '@'
    · subst hat
      simp only [if_pos, lexeme?_at]
      cases name? cs with
      | none => simp
      | some n => exact operand_eq_ok_iff_of_read fun b => operandOfName_ne_literal _ _
    by_cases hq : c = '\'' ∨ c = '"'
    · simp only [if_neg hat, Bool.or_eq_true, decide_eq_true_eq, if_pos hq, lexeme?_quote hq]
      cases quoted? c cs with
      | none => simp
      | some t => exact operand_eq_ok_iff_of_read fun b => by simp
    by_cases hd : (c.isDigit || decide (c = '-')) = true
    · simp only [if_neg hat, Bool.or_eq_true, decide_eq_true_eq, if_neg hq]
      rw [lexeme?_digit hd]
      simp only [Bool.or_eq_true, decide_eq_true_eq] at hd
      rw [if_pos hd]
      cases numeral? (c :: cs) with
      | none => simp
      | some n =>
        refine operand_eq_ok_iff_of_read fun b h => value_ne_boolean n.1 b ?_
        exact Operand.literal.inj h
    · simp only [if_neg hat, Bool.or_eq_true, decide_eq_true_eq, if_neg hq]
      have hd' : ¬ (c.isDigit = true ∨ c = '-') := by simpa using hd
      rw [if_neg hd']
      have htruth : ∀ b m, truth? (c :: cs) = some (b, m) ↔
          lexeme? (c :: cs) = some (.operand (.literal (.boolean b)), m) ∧ EndsWord m := by
        intro b m
        rw [truth?_eq_some_iff, hskip]
      constructor
      · intro h
        split at h
        · rename_i b m hb
          cases h
          exact ⟨((htruth _ _).1 hb).1, fun _ => ((htruth _ _).1 hb).2⟩
        · cases h
      · rintro ⟨hread, hword⟩
        obtain ⟨b, rfl⟩ := exists_boolean_of_lexeme? hat hq hd hread
        rw [(htruth b r).2 ⟨hread, hword (isWord_operand.2 ⟨b, rfl⟩)⟩]

theorem comparison?_eq_some_iff {s r : List Char} {op : Comparison} :
    comparison? s = some (op, r) ↔ lexeme? s = some (.comparison op, r) := by
  constructor
  · intro h
    have hs := comparison?_sound h
    rw [hs] at h ⊢
    rw [lexeme?_comparison, h]
  · intro h
    obtain ⟨w, rfl, hw⟩ := lexeme?_sound h
    cases hw with
    | comparison =>
      obtain ⟨c, m, hread, -⟩ := comparison?_takes op r
      rw [lexeme?_comparison, hread] at h
      cases h
      exact hread
    | word hx _ => simp [words] at hx

/-! ### Rows by the readers of the parser -/

section Rows

variable {s r : List Char} {xs : List Lexeme}

theorem reads_operand_iff {o : Operand} :
    Reads s (.operand o :: xs) r ↔ ∃ m, Predicate.operand s = .ok (o, m) ∧ Reads m xs r := by
  simp only [reads_cons_iff_lexeme?, operand_eq_ok_iff, and_assoc]

theorem reads_comparison_iff {op : Comparison} :
    Reads s (.comparison op :: xs) r ↔ ∃ m, comparison? (skipBlank s) = some (op, m) ∧ Reads m xs r := by
  have hword : (Lexeme.comparison op).isWord = false := by simp [Lexeme.isWord, words]
  simp only [reads_cons_iff_lexeme?, comparison?_eq_some_iff, hword, Bool.false_eq_true, false_implies,
    true_and]

theorem reads_keyword_iff {k : List Char} {x : Lexeme} (hx : (k, x) ∈ words) :
    Reads s (x :: xs) r ↔ ∃ m, keyword? k s = some m ∧ Reads m xs r := by
  have hword : x.isWord = true := List.any_eq_true.2 ⟨_, hx, by simp⟩
  simp only [reads_cons_iff_lexeme?, keyword?_eq_some_iff_lexeme? hx, hword, true_implies, and_assoc]

theorem reads_parenthesis_iff {x : Lexeme} {c : Char} (hx : x = .opening ∧ c = '(' ∨ x = .closing ∧ c = ')') :
    Reads s (x :: xs) r ↔ ∃ m, skipBlank s = c :: m ∧ Reads m xs r := by
  have hread : ∀ m, lexeme? (skipBlank s) = some (x, m) ↔ skipBlank s = c :: m := by
    intro m
    constructor
    · intro h
      obtain ⟨w, hs, hw⟩ := lexeme?_sound h
      rcases hx with ⟨rfl, rfl⟩ | ⟨rfl, rfl⟩
      · cases hw with
        | opening => exact hs
        | word hk _ => simp [words] at hk
      · cases hw with
        | closing => exact hs
        | word hk _ => simp [words] at hk
    · intro h
      rw [h]
      rcases hx with ⟨rfl, rfl⟩ | ⟨rfl, rfl⟩ <;> rfl
  have hword : x.isWord = false := by rcases hx with ⟨rfl, -⟩ | ⟨rfl, -⟩ <;> rfl
  simp only [reads_cons_iff_lexeme?, hread, hword, Bool.false_eq_true, false_implies, true_and]

end Rows

end Footpath
