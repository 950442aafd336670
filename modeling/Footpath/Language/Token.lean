import Footpath.Value
import Footpath.Text.Blank
import Footpath.Text.Letter
import Footpath.Decimal.Reading

/-! The tokens of the path language: names, keywords, quoted strings and numerals. Each reader
takes the longest token at the start of a text and gives back what it spells and the rest,
which is shorter. -/
namespace Footpath.Token
open Text

/-! ### Fixed texts and keywords -/

/-- What follows `p`, if the text starts with it. -/
def strip? (p s : List Char) : Option (List Char) :=
  if p.isPrefixOf s then some (s.drop p.length) else none

theorem strip?_eq_some_iff {p s r : List Char} : strip? p s = some r ↔ s = p ++ r := by
  unfold strip?
  split
  · rename_i h
    obtain ⟨t, rfl⟩ := List.isPrefixOf_iff_prefix.1 h
    simp [eq_comm]
  · rename_i h
    constructor
    · intro hn
      cases hn
    · intro hs
      exact absurd (List.isPrefixOf_iff_prefix.2 ⟨r, hs.symm⟩) h

/-! ### Names -/

def isNameStart (c : Char) : Bool := isAlphabetic c || c == '_'

def isNamePart (c : Char) : Bool := isAlphanumeric c || c == '_'

/-- Whether a whole text is a name. -/
def isName : List Char → Bool
  | [] => false
  | c :: cs => isNameStart c && cs.all isNamePart

def name? : List Char → Option (List Char × List Char)
  | [] => none
  | c :: cs =>
    if isNameStart c then some (c :: cs.takeWhile isNamePart, cs.dropWhile isNamePart) else none

theorem eq_append_of_name? {s n r : List Char} (h : name? s = some (n, r)) : s = n ++ r := by
  cases s with
  | nil => simp [name?] at h
  | cons c cs =>
    simp only [name?] at h
    split at h
    · simp only [Option.some.injEq, Prod.mk.injEq] at h
      rw [← h.1, ← h.2, List.cons_append, List.takeWhile_append_dropWhile]
    · cases h

theorem length_of_name? {s n r : List Char} (h : name? s = some (n, r)) : r.length < s.length := by
  cases s with
  | nil => simp [name?] at h
  | cons c cs =>
    simp only [name?] at h
    split at h
    · simp only [Option.some.injEq, Prod.mk.injEq] at h
      rw [← h.2]
      exact Nat.lt_succ_of_le (List.dropWhile_sublist _).length_le
    · cases h

/-- What follows the keyword `k` (written in lower case), blanks before it passed over. Letters
match in either case, and no part of a name may follow. -/
def keyword? (k s : List Char) : Option (List Char) :=
  let t := skipBlank s
  let r := t.drop k.length
  if (t.take k.length).map Char.toLower == k && !r.head?.any isNamePart then some r else none

theorem length_of_keyword? {k s r : List Char} (h : keyword? k s = some r) (hk : k ≠ []) :
    r.length < s.length := by
  simp only [keyword?] at h
  split at h
  · rename_i hc
    simp only [Option.some.injEq] at h
    simp only [Bool.and_eq_true, beq_iff_eq] at hc
    have hpos := List.length_pos_iff.2 hk
    have hlen := congrArg List.length hc.1
    have hs := length_skipBlank_le s
    rw [← h, List.length_drop]
    simp only [List.length_map, List.length_take] at hlen
    omega
  · cases h

/-! ### Quoted strings -/

/-- The character that a backslash before `c` stands for. -/
def unescape (c : Char) : Char :=
  if c = 'n' then '\n' else if c = 't' then '\t' else if c = 'r' then '\r' else c

/-- The text up to the quote `q`, with escapes resolved, and what follows the quote. -/
def quoted? (q : Char) : List Char → Option (List Char × List Char)
  | [] => none
  | c :: cs =>
    if c = q then some ([], cs)
    else if c = '\\' then
      match cs with
      | [] => none
      | e :: es => (quoted? q es).map fun (t, r) => (unescape e :: t, r)
    else (quoted? q cs).map fun (t, r) => (c :: t, r)

theorem length_of_quoted? {q : Char} {s t r : List Char} (h : quoted? q s = some (t, r)) :
    r.length < s.length := by
  fun_induction quoted? q s generalizing t with
  | case1 => cases h
  | case2 cs =>
    simp only [Option.some.injEq, Prod.mk.injEq] at h
    simp [h.2]
  | case3 => cases h
  | case4 hq e es ih =>
    obtain ⟨⟨t', r'⟩, hu, he⟩ := Option.map_eq_some_iff.1 h
    simp only [Prod.mk.injEq] at he
    have := ih (he.2 ▸ hu)
    simp only [List.length_cons]
    omega
  | case5 c cs hq hb ih =>
    obtain ⟨⟨t', r'⟩, hu, he⟩ := Option.map_eq_some_iff.1 h
    simp only [Prod.mk.injEq] at he
    have := ih (he.2 ▸ hu)
    simp only [List.length_cons]
    omega

/-! ### Numerals -/

/-- The sign, the digits and the scale of a numeral; `exact` if it has neither point nor exponent. -/
structure Numeral where
  negative : Bool
  digits : List Char
  exponent : Int
  exact : Bool
deriving DecidableEq

/-- A numeral without point and exponent is an integer if it fits 64 bits, and the nearest double
otherwise. -/
def Numeral.value (n : Numeral) : Value :=
  let magnitude := Nat.ofDigitChars 10 n.digits 0
  let whole : Int := if n.negative then -magnitude else magnitude
  if n.exact && Int64.minValue.toInt ≤ whole && whole ≤ Int64.maxValue.toInt then .integer (Int64.ofInt whole)
  else .float (Decimal.nearest n.negative magnitude n.exponent)

def sign : List Char → Bool × List Char
  | '-' :: r => (true, r)
  | s => (false, s)

/-- The digits behind a point; a point without a digit behind it is left. -/
def fraction : List Char → List Char × List Char
  | '.' :: r =>
    if r.head?.any Char.isDigit then (r.takeWhile Char.isDigit, r.dropWhile Char.isDigit)
    else ([], '.' :: r)
  | s => ([], s)

/-- The sign of an exponent. -/
def exponentSign : List Char → Bool × List Char
  | '-' :: r => (true, r)
  | '+' :: r => (false, r)
  | s => (false, s)

/-- The exponent behind an `e`; an `e` without digits behind it is left. -/
def exponent : List Char → Option Int × List Char
  | [] => (none, [])
  | c :: r =>
    let (negative, t) := exponentSign r
    if (c = 'e' || c = 'E') && t.head?.any Char.isDigit then
      let n : Int := Nat.ofDigitChars 10 (t.takeWhile Char.isDigit) 0
      (some (if negative then -n else n), t.dropWhile Char.isDigit)
    else (none, c :: r)

def numeral? (s : List Char) : Option (Numeral × List Char) :=
  let (negative, s) := sign s
  let whole := s.takeWhile Char.isDigit
  if whole.isEmpty then none
  else
    let (places, s) := fraction (s.dropWhile Char.isDigit)
    let (e, rest) := exponent s
    let n : Numeral :=
      ⟨negative, whole ++ places, e.getD 0 - places.length, places.isEmpty && e.isNone⟩
    some (n, rest)

theorem length_sign_le (s : List Char) : (sign s).2.length ≤ s.length := by
  unfold sign
  split <;> simp

theorem length_fraction_le (s : List Char) : (fraction s).2.length ≤ s.length := by
  unfold fraction
  split
  · split
    · exact Nat.le_succ_of_le (List.dropWhile_sublist _).length_le
    · exact Nat.le_refl _
  · exact Nat.le_refl _

theorem length_exponentSign_le (s : List Char) : (exponentSign s).2.length ≤ s.length := by
  unfold exponentSign
  split <;> simp

theorem length_exponent_le (s : List Char) : (exponent s).2.length ≤ s.length := by
  cases s with
  | nil => exact Nat.le_refl _
  | cons c cs =>
    have h₁ := length_exponentSign_le cs
    have h₂ : ((exponentSign cs).2.dropWhile Char.isDigit).length ≤ (exponentSign cs).2.length :=
      (List.dropWhile_sublist _).length_le
    simp only [exponent]
    split
    · simp only [List.length_cons]
      omega
    · exact Nat.le_refl _

theorem length_of_numeral? {s r : List Char} {n : Numeral} (h : numeral? s = some (n, r)) :
    r.length < s.length := by
  simp only [numeral?] at h
  split at h
  · cases h
  · rename_i hw
    simp only [Option.some.injEq, Prod.mk.injEq] at h
    have h₁ := length_sign_le s
    have h₂ := length_fraction_le ((sign s).2.dropWhile Char.isDigit)
    have h₃ := length_exponent_le (fraction ((sign s).2.dropWhile Char.isDigit)).2
    have h₄ : ((sign s).2.takeWhile Char.isDigit).length + ((sign s).2.dropWhile Char.isDigit).length =
        (sign s).2.length := by
      rw [← List.length_append, List.takeWhile_append_dropWhile]
    have h₅ : 0 < ((sign s).2.takeWhile Char.isDigit).length := by
      rw [List.length_pos_iff]
      simpa using hw
    rw [← h.2]
    omega

end Footpath.Token
