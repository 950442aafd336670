import Mathlib
import Footpath.Proofs.Language.Rows

/-! The grammar of predicates, and that the parser reads it.

`Derives` says what a row of lexemes means: conjunctions joined by `or`, primaries joined by `and`, both
grouped to the left, and a primary is a comparison or a disjunction in parentheses. `Sentence` is a text
that reads as such a row from end to end.

The parser reads a chain from the left behind what it has already read; `IsChain` is the equation that its
two chains share. Sound: what is read derives (`IsChain.sound`, by the length of the text). Complete: what
derives is read (`Derives.complete`, by the derivation). -/
namespace Footpath.Predicate
open Text Token

inductive Level where
  | disjunction
  | conjunction
  | primary

/-- The row of lexemes has the meaning `p`. -/
inductive Derives : Level → List Lexeme → Predicate → Prop where
  | compare (l : Operand) (op : Comparison) (r : Operand) :
      Derives .primary [.operand l, .comparison op, .operand r] (.compare l op r)
  | group {xs : List Lexeme} {p : Predicate} (h : Derives .disjunction xs p) :
      Derives .primary (.opening :: (xs ++ [.closing])) p
  | factor {xs : List Lexeme} {p : Predicate} (h : Derives .primary xs p) : Derives .conjunction xs p
  | and {xs ys : List Lexeme} {p q : Predicate} (hp : Derives .conjunction xs p) (hq : Derives .primary ys q) :
      Derives .conjunction (xs ++ .and :: ys) (.and p q)
  | term {xs : List Lexeme} {p : Predicate} (h : Derives .conjunction xs p) : Derives .disjunction xs p
  | or {xs ys : List Lexeme} {p q : Predicate} (hp : Derives .disjunction xs p)
      (hq : Derives .conjunction ys q) : Derives .disjunction (xs ++ .or :: ys) (.or p q)

/-- A text that is a predicate from end to end. -/
def Sentence (s : List Char) (p : Predicate) : Prop := ∃ xs, Reads s xs [] ∧ Derives .disjunction xs p

/-! ### The readers without their proofs -/

abbrev Reading := Except PredicateFlaw (Predicate × List Char)

def taken {s : List Char} (e : Except PredicateFlaw (Parsed Predicate s)) : Reading :=
  e.map fun p => (p.value, p.rest)

/-- A group behind its opening parenthesis. -/
theorem taken_primary_of_opening {s t : List Char} (hs : skipBlank s = '(' :: t) :
    taken (primary s) =
      match taken (disjunction none t) with
      | .error e => .error e
      | .ok (p, r) =>
        match skipBlank r with
        | ')' :: rest => .ok (p, rest)
        | _ => .error .closingParenthesis := by
  rw [primary]
  unfold taken
  split
  · rename_i t' hs'
    rw [hs] at hs'
    cases hs'
    dsimp only
    cases disjunction none t with
    | error e => rfl
    | ok p =>
      obtain ⟨p, r, h⟩ := p
      dsimp only
      split
      · rename_i rest hr
        simp only [Except.map, hr]
      · simp only [Except.map]
  · rename_i hne
    exact absurd hs (hne t)

theorem taken_primary_of_ne {s : List Char} (hs : ∀ t, skipBlank s ≠ '(' :: t) :
    taken (primary s) = compared (skipBlank s) := by
  rw [primary]
  unfold taken
  split
  · rename_i t ht
    exact absurd ht (hs t)
  · split
    · rename_i e he
      exact he.symm
    · rename_i p rest he
      exact he.symm

/-- A reader `f` of chains: readings by `g`, joined by the keyword `k`, each behind those before it. -/
def IsChain (c : Predicate → Predicate → Predicate) (k : List Char) (g : List Char → Reading)
    (f : Option Predicate → List Char → Reading) : Prop :=
  ∀ before s, f before s =
    match g s with
    | .error e => .error e
    | .ok (p, r) =>
      match keyword? k r with
      | none => .ok (join c before p, r)
      | some t => f (some (join c before p)) t

theorem isChain_conjunction :
    IsChain .and ['a', 'n', 'd'] (fun s => taken (primary s)) (fun before s => taken (conjunction before s)) := by
  intro before s
  dsimp only
  rw [conjunction]
  unfold taken
  cases primary s with
  | error e => rfl
  | ok p =>
    obtain ⟨p, r, h⟩ := p
    dsimp only
    split
    · rename_i hk
      simp only [Except.map, hk]
    · rename_i t hk
      simp only [Except.map, hk]
      cases conjunction (some (join .and before p)) t <;> rfl

theorem isChain_disjunction :
    IsChain .or ['o', 'r'] (fun s => taken (conjunction none s)) (fun before s => taken (disjunction before s)) := by
  intro before s
  dsimp only
  rw [disjunction]
  unfold taken
  cases conjunction none s with
  | error e => rfl
  | ok p =>
    obtain ⟨p, r, h⟩ := p
    dsimp only
    split
    · rename_i hk
      simp only [Except.map, hk]
    · rename_i t hk
      simp only [Except.map, hk]
      cases disjunction (some (join .or before p)) t <;> rfl

/-! ### Soundness -/

/-- What a reading says: it took something, and what it took has the meaning it gives. -/
def Sound (level : Level) (s : List Char) (e : Reading) : Prop :=
  ∀ p r, e = .ok (p, r) → r.length < s.length ∧ ∃ xs, Reads s xs r ∧ Derives level xs p

/-- What a row means behind what was read before it. -/
def Behind (level : Level) (x : Lexeme) : Option Predicate → List Lexeme → Predicate → Prop
  | none, xs, p => Derives level xs p
  | some q, xs, p => ∀ ys, Derives level ys q → Derives level (ys ++ x :: xs) p

theorem Behind.trans {level : Level} {x : Lexeme} {before : Option Predicate} {p q : Predicate}
    {xs ys : List Lexeme} (hp : Behind level x before xs p) (hq : Behind level x (some p) ys q) :
    Behind level x before (xs ++ x :: ys) q := by
  cases before with
  | none => exact hq xs hp
  | some b =>
    intro zs hz
    have := hq _ (hp zs hz)
    rwa [List.append_assoc] at this

section Chains

variable {c : Predicate → Predicate → Predicate} {k : List Char} {x : Lexeme} {lower upper : Level}
  {g : List Char → Reading} {f : Option Predicate → List Char → Reading}

/-- A chain of sound readings is sound, told of all texts up to a length. -/
theorem IsChain.sound (hf : IsChain c k g f) (hx : (k, x) ∈ words)
    (hone : ∀ {xs p}, Derives lower xs p → Derives upper xs p)
    (hjoin : ∀ {xs ys p q}, Derives upper xs p → Derives lower ys q → Derives upper (xs ++ x :: ys) (c p q))
    (n : Nat) (hg : ∀ s, s.length ≤ n → Sound lower s (g s)) (s : List Char) (hs : s.length ≤ n)
    (before : Option Predicate) (p : Predicate) (r : List Char) (hread : f before s = .ok (p, r)) :
    r.length < s.length ∧ ∃ xs, Reads s xs r ∧ Behind upper x before xs p := by
  induction hlen : s.length using Nat.strongRecOn generalizing s before with
  | ind m ih =>
    rw [hf] at hread
    split at hread
    · cases hread
    · rename_i q rest hq
      obtain ⟨hshort, xs, hxs, hderives⟩ := hg s hs q rest hq
      have hfirst : Behind upper x before xs (join c before q) := by
        cases before with
        | none => exact hone hderives
        | some b => exact fun ys hys => hjoin hys hderives
      split at hread
      · cases hread
        exact ⟨hlen ▸ hshort, xs, hxs, hfirst⟩
      · rename_i t hk
        have hkey := length_of_keyword? hk (by rintro rfl; simp [words] at hx)
        obtain ⟨hrest, ys, hys, hbehind⟩ := ih t.length (by omega) t (by omega) _ hread rfl
        refine ⟨by omega, xs ++ x :: ys, hxs.append ?_, hfirst.trans hbehind⟩
        exact (reads_keyword_iff hx).2 ⟨t, hk, hys⟩

/-- A chain whose last reading gave `p` and left `r`: on behind the next keyword, or at its end. -/
def onward (k : List Char) (f : Option Predicate → List Char → Reading) (p : Predicate) (r : List Char) :
    Reading :=
  match keyword? k r with
  | none => .ok (p, r)
  | some t => f (some p) t

theorem onward_of_none {p : Predicate} {r : List Char} (hk : keyword? k r = none) :
    onward k f p r = .ok (p, r) := by
  rw [onward, hk]

theorem IsChain.first (hf : IsChain c k g f) {s r : List Char} {p : Predicate} (hp : g s = .ok (p, r)) :
    f none s = onward k f p r := by
  rw [hf, hp]
  rfl

theorem IsChain.next (hf : IsChain c k g f) {m t r : List Char} {p q : Predicate} (hk : keyword? k m = some t)
    (hq : g t = .ok (q, r)) : onward k f p m = onward k f (c p q) r := by
  rw [onward, hk]
  dsimp only
  rw [hf, hq]
  rfl

end Chains

theorem sound_compared (s : List Char) : Sound .primary s (compared s) := by
  intro p r h
  refine ⟨length_of_compared h, ?_⟩
  unfold compared at h
  split at h
  · cases h
  · rename_i left m hleft
    split at h
    · cases h
    · rename_i op t hop
      split at h
      · cases h
      · rename_i right rest hright
        cases h
        refine ⟨_, ?_, .compare left op right⟩
        exact reads_operand_iff.2 ⟨m, hleft, reads_comparison_iff.2
          ⟨t, hop, reads_operand_iff.2 ⟨_, hright, .nil _⟩⟩⟩

theorem Sound.of_skipBlank {level : Level} {s : List Char} {e : Reading} (h : Sound level (skipBlank s) e) :
    Sound level s e := by
  intro p r hread
  obtain ⟨hlen, xs, hxs, hderives⟩ := h p r hread
  exact ⟨Nat.lt_of_lt_of_le hlen (length_skipBlank_le s), xs, hxs.of_skipBlank, hderives⟩

theorem sound_primary {s : List Char}
    (hgroup : ∀ t, t.length < s.length → Sound .disjunction t (taken (disjunction none t))) :
    Sound .primary s (taken (primary s)) := by
  by_cases hs : ∃ t, skipBlank s = '(' :: t
  · obtain ⟨t, hs⟩ := hs
    have ht : t.length < s.length := by
      have := length_skipBlank_le s
      rw [hs] at this
      exact this
    rw [taken_primary_of_opening hs]
    intro p r h
    split at h
    · cases h
    · rename_i q m hq
      obtain ⟨hm, xs, hxs, hderives⟩ := hgroup t ht q m hq
      split at h
      · rename_i rest hr
        cases h
        have hlen := length_skipBlank_le m
        rw [hr, List.length_cons] at hlen
        refine ⟨by omega, _, ?_, .group hderives⟩
        have hclose : Reads m [.closing] r :=
          (reads_parenthesis_iff (.inr ⟨rfl, rfl⟩)).2 ⟨r, hr, .nil r⟩
        exact (reads_parenthesis_iff (.inl ⟨rfl, rfl⟩)).2 ⟨t, hs, hxs.append hclose⟩
      · cases h
  · rw [taken_primary_of_ne fun t ht => hs ⟨t, ht⟩]
    exact (sound_compared _).of_skipBlank

theorem mem_words_and : (['a', 'n', 'd'], .and) ∈ words := by simp [words]

theorem mem_words_or : (['o', 'r'], .or) ∈ words := by simp [words]

/-- **What the parser reads derives.** -/
theorem sound_disjunction (s : List Char) : Sound .disjunction s (taken (disjunction none s)) := by
  induction hlen : s.length using Nat.strongRecOn generalizing s with
  | ind n ih =>
    have hprimary : ∀ t, t.length ≤ n → Sound .primary t (taken (primary t)) :=
      fun t ht => sound_primary fun u hu => ih u.length (by omega) u rfl
    have hconjunction : ∀ t, t.length ≤ n → Sound .conjunction t (taken (conjunction none t)) :=
      fun t ht => isChain_conjunction.sound mem_words_and .factor .and n hprimary t ht none
    exact isChain_disjunction.sound mem_words_or .term .or n hconjunction s (Nat.le_of_eq hlen) none

/-! ### Completeness -/

theorem keyword?_congr (k : List Char) {s t : List Char} (h : skipBlank s = skipBlank t) :
    keyword? k s = keyword? k t := by
  unfold keyword?
  rw [h]

/-- Before another lexeme no keyword is found. -/
theorem keyword?_eq_none {k m r : List Char} {x y : Lexeme} {xs : List Lexeme} (hx : (k, x) ∈ words)
    (hy : Reads m (y :: xs) r) (hne : x ≠ y) : keyword? k m = none := by
  rw [Option.eq_none_iff_forall_ne_some]
  intro t ht
  obtain ⟨n, hread, -, -⟩ := reads_cons_iff_lexeme?.1 hy
  rw [((keyword?_eq_some_iff_lexeme? hx).1 ht).1] at hread
  cases hread
  exact hne rfl

/-- That a row with the meaning `p` is read as `p`, up to blanks behind it, wherever it stands. A
disjunction must not run on into a conjunction. -/
def Complete : Level → List Lexeme → Predicate → Prop
  | .primary, xs, p => ∀ s r, Reads s xs r →
    ∃ m, taken (primary s) = .ok (p, m) ∧ skipBlank m = skipBlank r
  | .conjunction, xs, p => ∀ s r, Reads s xs r →
    ∃ m, taken (conjunction none s) =
      onward ['a', 'n', 'd'] (fun before s => taken (conjunction before s)) p m ∧ skipBlank m = skipBlank r
  | .disjunction, xs, p => ∀ s r, Reads s xs r → keyword? ['a', 'n', 'd'] r = none →
    ∃ m, taken (disjunction none s) =
      onward ['o', 'r'] (fun before s => taken (disjunction before s)) p m ∧ skipBlank m = skipBlank r

theorem complete_compare (l : Operand) (op : Comparison) (o : Operand) :
    Complete .primary [.operand l, .comparison op, .operand o] (.compare l op o) := by
  intro s r hr
  obtain ⟨m, hl, hr⟩ := reads_operand_iff.1 hr
  obtain ⟨t, hop, hr⟩ := reads_comparison_iff.1 hr
  obtain ⟨n, ho, hr⟩ := reads_operand_iff.1 hr
  refine ⟨n, ?_, skipBlank_of_reads_nil hr⟩
  have hne : ∀ t, skipBlank s ≠ '(' :: t := by
    intro t ht
    have hread := (operand_eq_ok_iff.1 hl).1
    rw [ht] at hread
    cases hread
  have hskip : Predicate.operand (skipBlank s) = .ok (l, m) := by
    rw [operand_eq_ok_iff, skipBlank_skipBlank, ← operand_eq_ok_iff]
    exact hl
  rw [taken_primary_of_ne hne, compared, hskip]
  dsimp only
  rw [hop]
  dsimp only
  rw [ho]

/-- **What derives is what the parser reads.** -/
theorem Derives.complete {level : Level} {xs : List Lexeme} {p : Predicate} (h : Derives level xs p) :
    Complete level xs p := by
  induction h with
  | compare l op o => exact complete_compare l op o
  | @group xs p h ih =>
    intro s r hr
    obtain ⟨t, hs, hr⟩ := (reads_parenthesis_iff (.inl ⟨rfl, rfl⟩)).1 hr
    obtain ⟨m, hxs, hclosing⟩ := reads_append_iff.1 hr
    obtain ⟨rest, hm, hr⟩ := (reads_parenthesis_iff (.inr ⟨rfl, rfl⟩)).1 hclosing
    obtain ⟨m', hread, hblank⟩ := ih t m hxs (keyword?_eq_none mem_words_and hclosing (by simp))
    have hor : keyword? ['o', 'r'] m' = none := by
      rw [keyword?_congr _ hblank]
      exact keyword?_eq_none mem_words_or hclosing (by simp)
    rw [onward_of_none hor] at hread
    refine ⟨rest, ?_, skipBlank_of_reads_nil hr⟩
    rw [taken_primary_of_opening hs, hread]
    dsimp only
    rw [hblank, hm]
    rfl
  | factor h ih =>
    intro s r hr
    obtain ⟨m, hread, hblank⟩ := ih s r hr
    exact ⟨m, isChain_conjunction.first hread, hblank⟩
  | and hp hq ihp ihq =>
    intro s r hr
    obtain ⟨m, hxs, hys⟩ := reads_append_iff.1 hr
    obtain ⟨t, hk, hys⟩ := (reads_keyword_iff mem_words_and).1 hys
    obtain ⟨m', hread, hblank⟩ := ihp s m hxs
    obtain ⟨n, hq, hn⟩ := ihq t r hys
    rw [← keyword?_congr _ hblank] at hk
    exact ⟨n, hread.trans (isChain_conjunction.next hk hq), hn⟩
  | term h ih =>
    intro s r hr hand
    obtain ⟨m, hread, hblank⟩ := ih s r hr
    rw [← keyword?_congr _ hblank] at hand
    rw [onward_of_none hand] at hread
    exact ⟨m, isChain_disjunction.first hread, hblank⟩
  | or hp hq ihp ihq =>
    intro s r hr hand
    obtain ⟨m, hxs, hys⟩ := reads_append_iff.1 hr
    have hnone := keyword?_eq_none mem_words_and hys (by simp)
    obtain ⟨t, hk, hys⟩ := (reads_keyword_iff mem_words_or).1 hys
    obtain ⟨m', hread, hblank⟩ := ihp s m hxs hnone
    obtain ⟨n, hq, hn⟩ := ihq t r hys
    rw [← keyword?_congr _ hblank] at hk
    rw [← keyword?_congr _ hn] at hand
    rw [onward_of_none hand] at hq
    exact ⟨n, hread.trans (isChain_disjunction.next hk hq), hn⟩

/-! ### Whole texts -/

theorem Derives.ne_nil {level : Level} {xs : List Lexeme} {p : Predicate} (h : Derives level xs p) : xs ≠ [] := by
  induction h with
  | compare | group => exact List.cons_ne_nil _ _
  | factor _ ih | term _ ih => exact ih
  | and | or => exact List.append_ne_nil_of_right_ne_nil _ (List.cons_ne_nil _ _)

theorem keyword?_nil {k : List Char} {x : Lexeme} (hx : (k, x) ∈ words) : keyword? k [] = none := by
  rw [Option.eq_none_iff_forall_ne_some]
  intro t ht
  cases ((keyword?_eq_some_iff_lexeme? hx).1 ht).1

/-- A whole text is read exactly when the parser of a disjunction leaves blanks of it only. -/
theorem ofText_eq_ok_iff_taken {s : List Char} {p : Predicate} :
    ofText s = .ok p ↔
      skipBlank s ≠ [] ∧ ∃ m, taken (disjunction none (skipBlank s)) = .ok (p, m) ∧ skipBlank m = [] := by
  unfold ofText taken
  split
  · rename_i hs
    simp [hs]
  · rename_i hs
    have hne : skipBlank s ≠ [] := hs
    cases disjunction none (skipBlank s) with
    | error e => simp [Except.map]
    | ok q =>
      obtain ⟨q, m, h⟩ := q
      dsimp only
      split
      · rename_i hm
        simp [Except.map, hm, hne]
      · rename_i hm
        constructor
        · intro h
          cases h
        · rintro ⟨-, m', he, hm'⟩
          cases he
          exact absurd hm' hm

/-- The reader of whole texts reads the sentences and nothing else. -/
theorem ofText_eq_ok_iff {s : List Char} {p : Predicate} : ofText s = .ok p ↔ Sentence s p := by
  rw [ofText_eq_ok_iff_taken]
  constructor
  · rintro ⟨-, m, hread, hm⟩
    obtain ⟨-, xs, hxs, hderives⟩ := sound_disjunction _ _ _ hread
    have hblank : Reads m [] [] := Reads.of_skipBlank (hm ▸ .nil _)
    have hall := hxs.of_skipBlank.append hblank
    rw [List.append_nil] at hall
    exact ⟨xs, hall, hderives⟩
  · rintro ⟨xs, hxs, hderives⟩
    obtain ⟨x, ys, rfl⟩ := List.exists_cons_of_ne_nil hderives.ne_nil
    have hstart := reads_cons_iff_lexeme?.1 hxs
    rw [← skipBlank_skipBlank s] at hstart
    obtain ⟨m, hread, hm⟩ := hderives.complete _ _ (reads_cons_iff_lexeme?.2 hstart) (keyword?_nil mem_words_and)
    have hor : keyword? ['o', 'r'] m = none := by
      rw [keyword?_congr _ hm]
      exact keyword?_nil mem_words_or
    rw [onward_of_none hor] at hread
    refine ⟨fun hnil => ?_, m, hread, hm⟩
    rw [hnil] at hstart
    obtain ⟨_, hlexeme, -⟩ := hstart
    cases hlexeme

theorem parse_eq_ok_iff {text : String} {p : Predicate} :
    Predicate.parse text = .ok p ↔ Sentence text.toList p := by
  rw [← ofText_eq_ok_iff]
  unfold Predicate.parse
  cases ofText text.toList with
  | ok q => simp
  | error flaw => simp

/-- **A text is read as `p` exactly when it is a sentence with the meaning `p`**, and a sentence has one
meaning. -/
theorem parse_eq_ok_iff_sentence (text : String) :
    (∀ p, Predicate.parse text = .ok p ↔ Sentence text.toList p) ∧
      ∀ p q, Sentence text.toList p → Sentence text.toList q → p = q := by
  refine ⟨fun p => parse_eq_ok_iff, fun p q hp hq => ?_⟩
  have hread := parse_eq_ok_iff.2 hp
  rw [parse_eq_ok_iff.2 hq] at hread
  exact (Except.ok.inj hread).symm

/-- Words in any case, `and` before `or`, a bracket and an escape in a string, and the longest comparison. -/
theorem sentence_of_mixed :
    let text := "@a>=-1 Or (@id='x]\\'' AND\ttRUe!=false )"
    let p : Predicate := .or (.compare (.property "a") .ge (.literal (.integer (-1))))
      (.and (.compare .identity .eq (.literal (.text "x]'")))
        (.compare (.literal (.boolean true)) .ne (.literal (.boolean false))))
    Predicate.parse text = .ok p ∧ Sentence text.toList p ∧ ∀ q, Sentence text.toList q → p = q := by
  intro text p
  have hread : Predicate.parse text = .ok p := by cbv
  have hs : Sentence text.toList p := ((parse_eq_ok_iff_sentence text).1 p).1 hread
  exact ⟨hread, hs, fun q => (parse_eq_ok_iff_sentence text).2 p q hs⟩

end Footpath.Predicate
