import Mathlib.Data.List.TakeWhile
import Footpath.Language.Predicate.Parser

/-! The lexemes of predicates.

`Spells` says how a lexeme is written, and `Munches` when it is the one that a text starts with: no
longer start of the text is written as a lexeme, and a word does not run on into a name. `Reads` is a
text read as a row of lexemes, blanks passed over.

`lexeme?` takes one lexeme by its first character. It takes at least as much as any spelling
(`lexeme?_takes`) and only what is spelled (`lexeme?_sound`), so it takes the longest: `munches_iff`. -/
namespace Footpath
open Text Token

inductive Lexeme where
  | opening
  | closing
  | and
  | or
  | comparison (op : Comparison)
  | operand (o : Operand)
deriving DecidableEq

/-! ### Spellings -/

def IsDigits (ds : List Char) : Prop := ds ≠ [] ∧ ∀ c ∈ ds, c.isDigit = true

/-- The digits of a fraction and how they are written; there may be none. -/
inductive IsFraction : List Char → List Char → Prop where
  | none : IsFraction [] []
  | places {ds : List Char} (hds : IsDigits ds) : IsFraction ds ('.' :: ds)

inductive IsExponentSign : Bool → List Char → Prop where
  | none : IsExponentSign false []
  | plus : IsExponentSign false ['+']
  | minus : IsExponentSign true ['-']

inductive IsExponent : Option Int → List Char → Prop where
  | none : IsExponent none []
  | marked {c : Char} {negative : Bool} {sg ds : List Char} (hc : c = 'e' ∨ c = 'E')
      (hsign : IsExponentSign negative sg) (hds : IsDigits ds) :
      IsExponent (some (if negative then -(Nat.ofDigitChars 10 ds 0 : Int) else Nat.ofDigitChars 10 ds 0))
        (c :: (sg ++ ds))

/-- Digits, behind a minus or not, before a fraction or not, and before an exponent or not. -/
inductive IsNumeral : Numeral → List Char → Prop where
  | mk {ds places f x : List Char} {e : Option Int} (negative : Bool) (hds : IsDigits ds)
      (hf : IsFraction places f) (hx : IsExponent e x) :
      IsNumeral ⟨negative, ds ++ places, e.getD 0 - places.length, places.isEmpty && e.isNone⟩
        ((if negative then ['-'] else []) ++ (ds ++ (f ++ x)))

/-- A text and how it is written between the quotes `q`. -/
inductive IsQuoted (q : Char) : List Char → List Char → Prop where
  | nil : IsQuoted q [] []
  | plain {c : Char} {t w : List Char} (hq : c ≠ q) (hb : c ≠ '\\') (h : IsQuoted q t w) :
      IsQuoted q (c :: t) (c :: w)
  | escaped (c : Char) {t w : List Char} (h : IsQuoted q t w) : IsQuoted q (unescape c :: t) ('\\' :: c :: w)

/-- The words of predicates, in lower case. -/
def words : List (List Char × Lexeme) :=
  [(['a', 'n', 'd'], .and), (['o', 'r'], .or), (['t', 'r', 'u', 'e'], .operand (.literal (.boolean true))),
    (['f', 'a', 'l', 's', 'e'], .operand (.literal (.boolean false)))]

def Lexeme.isWord (x : Lexeme) : Bool := words.any fun k => k.2 = x

inductive Spells : Lexeme → List Char → Prop where
  | opening : Spells .opening ['(']
  | closing : Spells .closing [')']
  | comparison (op : Comparison) : Spells (.comparison op) op.symbol.toList
  | label : Spells (.operand .label) ['@', 'l', 'a', 'b', 'e', 'l']
  | identity : Spells (.operand .identity) ['@', 'i', 'd']
  | property {n : List Char} (hn : isName n = true) (hlabel : n ≠ ['l', 'a', 'b', 'e', 'l'])
      (hid : n ≠ ['i', 'd']) : Spells (.operand (.property (String.ofList n))) ('@' :: n)
  | text {q : Char} {t w : List Char} (hq : q = '\'' ∨ q = '"') (hw : IsQuoted q t w) :
      Spells (.operand (.literal (.text (String.ofList t)))) (q :: (w ++ [q]))
  | number {n : Numeral} {w : List Char} (hw : IsNumeral n w) : Spells (.operand (.literal n.value)) w
  | word {k w : List Char} {x : Lexeme} (hx : (k, x) ∈ words) (hw : w.map Char.toLower = k) : Spells x w

/-! ### Longest match -/

/-- No part of a name comes next. -/
def EndsWord (s : List Char) : Prop := ∀ c, s.head? = some c → isNamePart c = false

/-- Of all spellings that a text starts with, `w` is the longest, and it is not a word that runs on. -/
structure Munches (x : Lexeme) (w rest : List Char) : Prop where
  spells : Spells x w
  longest : ∀ y v, v <+: w ++ rest → Spells y v → v.length ≤ w.length
  boundary : x.isWord = true → EndsWord rest

/-- The text `s` is a row of lexemes and what is left behind them. -/
inductive Reads : List Char → List Lexeme → List Char → Prop where
  | nil (s : List Char) : Reads s [] s
  | blank {c : Char} {s r : List Char} {xs : List Lexeme} (hc : isBlank c = true) (h : Reads s xs r) :
      Reads (c :: s) xs r
  | cons {x : Lexeme} {w s r : List Char} {xs : List Lexeme} (hx : Munches x w s) (h : Reads s xs r) :
      Reads (w ++ s) (x :: xs) r

/-! ### Names -/

theorem isName_cons {c : Char} {cs : List Char} :
    isName (c :: cs) = true ↔ isNameStart c = true ∧ ∀ d ∈ cs, isNamePart d = true := by
  rw [isName, Bool.and_eq_true, List.all_eq_true]

theorem takeWhile_append_of_head {p : Char → Bool} {s t : List Char} (hs : ∀ c ∈ s, p c = true)
    (ht : ∀ c, t.head? = some c → p c = false) :
    (s ++ t).takeWhile p = s ∧ (s ++ t).dropWhile p = t := by
  rw [List.takeWhile_append_of_pos hs, List.dropWhile_append_of_pos hs]
  cases t with
  | nil => exact ⟨List.append_nil s, rfl⟩
  | cons c t =>
    have hc := ht c rfl
    rw [List.takeWhile_cons_of_neg (by rw [hc]; exact Bool.false_ne_true), List.append_nil,
      List.dropWhile_cons_of_neg (by rw [hc]; exact Bool.false_ne_true)]
    exact ⟨rfl, rfl⟩

theorem name?_sound {s n r : List Char} (h : name? s = some (n, r)) : s = n ++ r ∧ isName n = true := by
  refine ⟨eq_append_of_name? h, ?_⟩
  cases s with
  | nil => cases h
  | cons c cs =>
    simp only [name?] at h
    split at h
    · rename_i hc
      cases h
      exact isName_cons.2 ⟨hc, fun d hd => List.mem_takeWhile_imp hd⟩
    · cases h

theorem name?_append {n t : List Char} (hn : isName n = true) (ht : EndsWord t) :
    name? (n ++ t) = some (n, t) := by
  cases n with
  | nil => cases hn
  | cons c cs =>
    obtain ⟨hc, hcs⟩ := isName_cons.1 hn
    obtain ⟨htake, hdrop⟩ := takeWhile_append_of_head hcs ht
    rw [List.cons_append, name?, if_pos hc, htake, hdrop]

theorem name?_takes {n : List Char} (hn : isName n = true) (t : List Char) :
    ∃ m r, name? (n ++ t) = some (m, r) ∧ r.length ≤ t.length := by
  cases n with
  | nil => cases hn
  | cons c cs =>
    obtain ⟨hc, hcs⟩ := isName_cons.1 hn
    rw [List.cons_append, name?, if_pos hc, List.dropWhile_append_of_pos hcs]
    exact ⟨_, _, rfl, (List.dropWhile_sublist _).length_le⟩

/-! ### Quoted texts -/

theorem quoted?_close (q : Char) (s : List Char) : quoted? q (q :: s) = some ([], s) := by
  rw [quoted?.eq_def]
  exact if_pos rfl

theorem quoted?_plain {q c : Char} (hq : c ≠ q) (hb : c ≠ '\\') (s : List Char) :
    quoted? q (c :: s) = (quoted? q s).map fun (t, r) => (c :: t, r) := by
  rw [quoted?.eq_def]
  exact (if_neg hq).trans (if_neg hb)

theorem quoted?_escaped {q : Char} (hq : q ≠ '\\') (c : Char) (s : List Char) :
    quoted? q ('\\' :: c :: s) = (quoted? q s).map fun (t, r) => (unescape c :: t, r) := by
  rw [quoted?.eq_def]
  exact (if_neg hq.symm).trans (if_pos rfl)

theorem quoted?_eq_some_iff {q : Char} (hq : q ≠ '\\') {s t r : List Char} :
    quoted? q s = some (t, r) ↔ ∃ w, s = w ++ q :: r ∧ IsQuoted q t w := by
  constructor
  · intro h
    fun_induction quoted? q s generalizing t with
    | case1 => cases h
    | case2 cs =>
      cases h
      exact ⟨[], rfl, .nil⟩
    | case3 => cases h
    | case4 e es _ ih =>
      obtain ⟨⟨u, r'⟩, hu, he⟩ := Option.map_eq_some_iff.1 h
      cases he
      obtain ⟨w, rfl, hw⟩ := ih hu
      exact ⟨'\\' :: e :: w, rfl, .escaped e hw⟩
    | case5 c cs hc hb ih =>
      obtain ⟨⟨u, r'⟩, hu, he⟩ := Option.map_eq_some_iff.1 h
      cases he
      obtain ⟨w, rfl, hw⟩ := ih hu
      exact ⟨c :: w, rfl, .plain hc hb hw⟩
  · rintro ⟨w, rfl, hw⟩
    induction hw with
    | nil => exact quoted?_close q r
    | plain hc hb _ ih => rw [List.cons_append, quoted?_plain hc hb, ih, Option.map_some]
    | escaped c _ ih => rw [List.cons_append, List.cons_append, quoted?_escaped hq, ih, Option.map_some]

/-! ### Numerals -/

theorem IsDigits.head {ds : List Char} (h : IsDigits ds) : ∃ c cs, ds = c :: cs ∧ c.isDigit = true := by
  cases ds with
  | nil => exact absurd rfl h.1
  | cons c cs => exact ⟨c, cs, rfl, h.2 c List.mem_cons_self⟩

theorem IsDigits.any_head {ds : List Char} (h : IsDigits ds) (t : List Char) :
    (ds ++ t).head?.any Char.isDigit = true := by
  obtain ⟨c, cs, rfl, hc⟩ := h.head
  exact hc

/-- What the readers take off a text that starts with a digit is digits. -/
theorem isDigits_takeWhile {s : List Char} (h : s.head?.any Char.isDigit = true) :
    IsDigits (s.takeWhile Char.isDigit) := by
  refine ⟨?_, fun c hc => List.mem_takeWhile_imp hc⟩
  cases s with
  | nil => cases h
  | cons c cs =>
    have hc : c.isDigit = true := h
    rw [List.takeWhile_cons_of_pos hc]
    exact List.cons_ne_nil _ _

/-- Nothing comes next that a numeral could take in. -/
def EndsNumeral (s : List Char) : Prop :=
  ∀ c, s.head? = some c → c.isDigit = false ∧ c ≠ '.' ∧ c ≠ 'e' ∧ c ≠ 'E'

theorem sign_sound (s : List Char) : s = (if (sign s).1 then ['-'] else []) ++ (sign s).2 := by
  unfold sign
  split <;> rfl

theorem sign_append (negative : Bool) {ds : List Char} (hds : IsDigits ds) (t : List Char) :
    sign ((if negative then ['-'] else []) ++ (ds ++ t)) = (negative, ds ++ t) := by
  obtain ⟨c, cs, rfl, hc⟩ := hds.head
  cases negative with
  | true => rfl
  | false =>
    show sign (c :: (cs ++ t)) = _
    unfold sign
    split
    · rename_i h
      cases h
      cases hc
    · rfl

theorem fraction_sound (s : List Char) : ∃ f, s = f ++ (fraction s).2 ∧ IsFraction (fraction s).1 f := by
  unfold fraction
  split
  · split
    · rename_i r h
      exact ⟨_, by rw [List.cons_append, List.takeWhile_append_dropWhile], .places (isDigits_takeWhile h)⟩
    · exact ⟨[], rfl, .none⟩
  · exact ⟨[], rfl, .none⟩

theorem fraction_of_head {s : List Char} (hs : ∀ c, s.head? = some c → c ≠ '.') : fraction s = ([], s) := by
  unfold fraction
  split
  · exact absurd rfl (hs '.' rfl)
  · rfl

theorem fraction_append {ps f t : List Char} (hf : IsFraction ps f)
    (ht : ∀ c, t.head? = some c → c.isDigit = false ∧ c ≠ '.') : fraction (f ++ t) = (ps, t) := by
  cases hf with
  | none => exact fraction_of_head fun c hc => (ht c hc).2
  | places hds =>
    obtain ⟨htake, hdrop⟩ := takeWhile_append_of_head hds.2 fun c hc => (ht c hc).1
    rw [List.cons_append, fraction, if_pos (hds.any_head t), htake, hdrop]

theorem length_fraction_append_le {ps f : List Char} (hf : IsFraction ps f) (t : List Char) :
    (fraction (f ++ t)).2.length ≤ t.length := by
  cases hf with
  | none => exact length_fraction_le t
  | places hds =>
    rw [List.cons_append, fraction, if_pos (hds.any_head t), List.dropWhile_append_of_pos hds.2]
    exact (List.dropWhile_sublist _).length_le

theorem exponentSign_sound (s : List Char) :
    ∃ sg, s = sg ++ (exponentSign s).2 ∧ IsExponentSign (exponentSign s).1 sg := by
  unfold exponentSign
  split
  · exact ⟨['-'], rfl, .minus⟩
  · exact ⟨['+'], rfl, .plus⟩
  · exact ⟨[], rfl, .none⟩

theorem exponentSign_append {negative : Bool} {sg ds : List Char} (hsign : IsExponentSign negative sg)
    (hds : IsDigits ds) (t : List Char) : exponentSign (sg ++ (ds ++ t)) = (negative, ds ++ t) := by
  obtain ⟨c, cs, rfl, hc⟩ := hds.head
  cases hsign with
  | plus => rfl
  | minus => rfl
  | none =>
    show exponentSign (c :: (cs ++ t)) = _
    unfold exponentSign
    split
    · rename_i h
      cases h
      cases hc
    · rename_i h
      cases h
      cases hc
    · rfl

theorem exponent_sound (s : List Char) : ∃ x, s = x ++ (exponent s).2 ∧ IsExponent (exponent s).1 x := by
  cases s with
  | nil => exact ⟨[], rfl, .none⟩
  | cons c cs =>
    obtain ⟨sg, hcs, hsign⟩ := exponentSign_sound cs
    simp only [exponent]
    split
    · rename_i h
      simp only [Bool.and_eq_true, Bool.or_eq_true, decide_eq_true_eq] at h
      refine ⟨c :: (sg ++ (exponentSign cs).2.takeWhile Char.isDigit), ?_,
        .marked h.1 hsign (isDigits_takeWhile h.2)⟩
      rw [List.cons_append, List.append_assoc, List.takeWhile_append_dropWhile, ← hcs]
    · exact ⟨[], rfl, .none⟩

theorem exponent_marked {c : Char} {negative : Bool} {sg ds : List Char} (hc : c = 'e' ∨ c = 'E')
    (hsign : IsExponentSign negative sg) (hds : IsDigits ds) (t : List Char) :
    exponent (c :: (sg ++ ds) ++ t) =
      (let n : Int := Nat.ofDigitChars 10 ((ds ++ t).takeWhile Char.isDigit) 0
      (some (if negative then -n else n), t.dropWhile Char.isDigit)) := by
  have hmark : (decide (c = 'e') || decide (c = 'E')) = true := by
    rw [Bool.or_eq_true, decide_eq_true_eq, decide_eq_true_eq]
    exact hc
  simp only [List.cons_append, List.append_assoc, exponent, exponentSign_append hsign hds, hds.any_head, hmark,
    Bool.and_self, if_pos, List.dropWhile_append_of_pos hds.2]

theorem exponent_append {e : Option Int} {x t : List Char} (hx : IsExponent e x) (ht : EndsNumeral t) :
    exponent (x ++ t) = (e, t) := by
  cases hx with
  | none =>
    cases t with
    | nil => rfl
    | cons c t =>
      obtain ⟨-, -, he, hE⟩ := ht c rfl
      simp only [List.nil_append, exponent, decide_eq_false he, decide_eq_false hE, Bool.or_self,
        Bool.false_and, Bool.false_eq_true, if_false]
  | marked hc hsign hds =>
    obtain ⟨htake, hdrop⟩ := takeWhile_append_of_head hds.2 fun c hc => (ht c hc).1
    have hrest : t.dropWhile Char.isDigit = t := by
      rw [← List.dropWhile_append_of_pos hds.2, hdrop]
    rw [exponent_marked hc hsign hds, htake, hrest]

theorem length_exponent_append_le {e : Option Int} {x : List Char} (hx : IsExponent e x) (t : List Char) :
    (exponent (x ++ t)).2.length ≤ t.length := by
  cases hx with
  | none => exact length_exponent_le t
  | marked hc hsign hds =>
    rw [exponent_marked hc hsign hds]
    exact (List.dropWhile_sublist _).length_le

/-- An exponent that is there sets off what is before it. -/
theorem IsExponent.head {e : Option Int} {x : List Char} (hx : IsExponent e x) (hne : x ≠ []) (t : List Char) :
    ∀ c, (x ++ t).head? = some c → c.isDigit = false ∧ c ≠ '.' := by
  cases hx with
  | none => exact absurd rfl hne
  | marked hc hsign hds =>
    intro d hd
    cases hd
    rcases hc with rfl | rfl <;> decide

theorem numeral?_sound {s r : List Char} {n : Numeral} (h : numeral? s = some (n, r)) :
    ∃ w, s = w ++ r ∧ IsNumeral n w := by
  simp only [numeral?] at h
  split at h
  · cases h
  · rename_i hw
    simp only [Option.some.injEq, Prod.mk.injEq] at h
    obtain ⟨rfl, rfl⟩ := h
    obtain ⟨f, hfs, hf⟩ := fraction_sound ((sign s).2.dropWhile Char.isDigit)
    obtain ⟨x, hxs, hx⟩ := exponent_sound (fraction ((sign s).2.dropWhile Char.isDigit)).2
    have hds : IsDigits ((sign s).2.takeWhile Char.isDigit) :=
      ⟨by simpa using hw, fun c hc => List.mem_takeWhile_imp hc⟩
    refine ⟨_, ?_, .mk (sign s).1 hds hf hx⟩
    rw [List.append_assoc, List.append_assoc, List.append_assoc, ← hxs, ← hfs,
      List.takeWhile_append_dropWhile, ← sign_sound]

theorem numeral?_append {n : Numeral} {w t : List Char} (hw : IsNumeral n w) (ht : EndsNumeral t) :
    numeral? (w ++ t) = some (n, t) := by
  cases hw with
  | @mk ds places f x e negative hds hf hx =>
    have hxt : ∀ c, (x ++ t).head? = some c → c.isDigit = false ∧ c ≠ '.' := by
      cases x with
      | nil => exact fun c hc => ⟨(ht c hc).1, (ht c hc).2.1⟩
      | cons c x => exact hx.head (List.cons_ne_nil _ _) t
    have hfxt : ∀ c, (f ++ (x ++ t)).head? = some c → c.isDigit = false := by
      cases hf with
      | none => exact fun c hc => (hxt c hc).1
      | places hds =>
        intro c hc
        cases hc
        rfl
    obtain ⟨htake, hdrop⟩ := takeWhile_append_of_head hds.2 hfxt
    have hne : ds.isEmpty = false := List.isEmpty_eq_false_iff.2 hds.1
    simp only [numeral?, List.append_assoc, sign_append negative hds, htake, hdrop, hne, Bool.false_eq_true, if_false,
      fraction_append hf hxt, exponent_append hx ht]

theorem numeral?_takes {n : Numeral} {w : List Char} (hw : IsNumeral n w) (t : List Char) :
    ∃ m r, numeral? (w ++ t) = some (m, r) ∧ r.length ≤ t.length := by
  cases hw with
  | @mk ds places f x e negative hds hf hx =>
    have hne : ((ds ++ (f ++ (x ++ t))).takeWhile Char.isDigit).isEmpty = false := by
      rw [List.takeWhile_append_of_pos hds.2, List.isEmpty_eq_false_iff]
      exact List.append_ne_nil_of_left_ne_nil hds.1 _
    simp only [numeral?, List.append_assoc, sign_append negative hds, hne, Bool.false_eq_true, if_false,
      List.dropWhile_append_of_pos hds.2]
    refine ⟨_, _, rfl, ?_⟩
    by_cases hxe : x = []
    -- Without an exponent each reader may take more than was meant for it, and none leaves more.
    · subst hxe
      refine Nat.le_trans (length_exponent_le _) ?_
      cases hf with
      | none => exact Nat.le_trans (length_fraction_le _) (List.dropWhile_sublist _).length_le
      | places hds => exact length_fraction_append_le (.places hds) t
    · have hxt := hx.head hxe t
      have hdrop : (f ++ (x ++ t)).dropWhile Char.isDigit = f ++ (x ++ t) := by
        cases hf with
        | none => exact (takeWhile_append_of_head (by simp) fun c hc => (hxt c hc).1).2
        | places hds => rfl
      rw [hdrop, fraction_append hf hxt]
      exact length_exponent_append_le hx t

end Footpath
