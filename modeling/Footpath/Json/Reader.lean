import Footpath.Json.Basic
import Footpath.Text.Parsed

/-! Reading JSON, in the strict grammar: no comments, no trailing commas, no leading zeros, and
only the four JSON blanks between tokens. -/
namespace Footpath.Json

def isSpace (c : Char) : Bool := c == ' ' || c == '\t' || c == '\n' || c == '\r'

def skipSpace (s : List Char) : List Char := s.dropWhile isSpace

theorem length_skipSpace_le (s : List Char) : (skipSpace s).length ≤ s.length :=
  (List.dropWhile_sublist _).length_le

/-! ### Strings -/

/-- A character of a string, or the number of a `\u` escape. -/
inductive Piece where
  | char (c : Char)
  | unit (n : Nat)
deriving DecidableEq

def hexValue? (c : Char) : Option Nat :=
  if c.isDigit then some (c.toNat - '0'.toNat)
  else if 'a' ≤ c && c ≤ 'f' then some (c.toNat - 'a'.toNat + 10)
  else if 'A' ≤ c && c ≤ 'F' then some (c.toNat - 'A'.toNat + 10)
  else none

def hexNumber? : List Char → Option Nat
  | [] => some 0
  | cs => cs.foldl (fun n c => n.bind fun n => (hexValue? c).map fun d => 16 * n + d) (some 0)

/-- What a one-letter escape stands for. -/
def unescape? (c : Char) : Option Char :=
  if c = '"' || c = '\\' || c = '/' then some c
  else if c = 'b' then some '\x08'
  else if c = 'f' then some '\x0c'
  else if c = 'n' then some '\n'
  else if c = 'r' then some '\r'
  else if c = 't' then some '\t'
  else none

/-- The pieces up to the closing quote, and what follows it. -/
def pieces? : List Char → Option (List Piece × List Char)
  | [] => none
  | c :: cs =>
    if c = '"' then some ([], cs)
    else if c = '\\' then
      match cs with
      | 'u' :: a :: b :: x :: y :: rest =>
        match hexNumber? [a, b, x, y] with
        | none => none
        | some n => (pieces? rest).map fun (ps, r) => (.unit n :: ps, r)
      | e :: rest =>
        match unescape? e with
        | none => none
        | some k => (pieces? rest).map fun (ps, r) => (.char k :: ps, r)
      | [] => none
    else if c.toNat < 0x20 then none
    else (pieces? cs).map fun (ps, r) => (.char c :: ps, r)

def isHighHalf (n : Nat) : Bool := 0xd800 ≤ n && n < 0xdc00

def isLowHalf (n : Nat) : Bool := 0xdc00 ≤ n && n < 0xe000

/-- The text that pieces spell: the two halves of a pair make one character, and a half that
stands alone makes none. -/
def spell? : List Piece → Option (List Char)
  | [] => some []
  | .char c :: ps => (spell? ps).map (c :: ·)
  | .unit n :: ps =>
    if isHighHalf n then
      match ps with
      | .unit m :: rest =>
        if isLowHalf m then
          (spell? rest).map (Char.ofNat (0x10000 + (n - 0xd800) * 0x400 + (m - 0xdc00)) :: ·)
        else none
      | _ => none
    else if isLowHalf n then none
    else (spell? ps).map (Char.ofNat n :: ·)

/-- The string whose opening quote was taken. -/
def string? (s : List Char) : Option (Option String × List Char) :=
  (pieces? s).map fun (ps, r) => ((spell? ps).map String.ofList, r)

theorem length_of_pieces? {s r : List Char} {ps : List Piece} (h : pieces? s = some (ps, r)) :
    r.length < s.length := by
  fun_induction pieces? s generalizing ps with
  | case2 =>
    simp only [Option.some.injEq, Prod.mk.injEq] at h
    simp [h.2]
  | case1 | case3 | case5 | case7 | case8 => cases h
  | case4 | case6 | case9 =>
    rename_i ih
    obtain ⟨⟨_, _⟩, hu, he⟩ := Option.map_eq_some_iff.1 h
    simp only [Prod.mk.injEq] at he
    have := ih (he.2 ▸ hu)
    simp only [List.length_cons]
    omega

theorem length_of_string? {s r : List Char} {t : Option String} (h : string? s = some (t, r)) :
    r.length < s.length := by
  obtain ⟨⟨ps, r'⟩, hp, he⟩ := Option.map_eq_some_iff.1 h
  simp only [Prod.mk.injEq] at he
  exact he.2 ▸ length_of_pieces? hp

/-! ### Numbers -/

/-- The digits at the start of a text, of which there has to be one. -/
def digits? (s : List Char) : Option (List Char × List Char) :=
  let ds := s.takeWhile Char.isDigit
  if ds.isEmpty then none else some (ds, s.dropWhile Char.isDigit)

/-- The whole part: no zero stands in front of another digit. -/
def whole? (s : List Char) : Option (List Char × List Char) :=
  match digits? s with
  | some ('0' :: _ :: _, _) => none
  | p => p

def fraction? : List Char → Option (List Char × List Char)
  | '.' :: r => digits? r
  | s => some ([], s)

def exponent? : List Char → Option (List Char × List Char)
  | [] => some ([], [])
  | c :: r =>
    if c = 'e' || c = 'E' then
      match r with
      | '-' :: t => (digits? t).map fun (ds, q) => ('-' :: ds, q)
      | '+' :: t => (digits? t).map fun (ds, q) => ('+' :: ds, q)
      | _ => digits? r
    else some ([], c :: r)

def number? (s : List Char) : Option (JsonNumber × List Char) :=
  let (negative, s) := match s with
    | '-' :: r => (true, r)
    | _ => (false, s)
  match whole? s with
  | none => none
  | some (whole, s) =>
    match fraction? s with
    | none => none
    | some (fraction, s) => (exponent? s).map fun (exponent, r) => (⟨negative, whole, fraction, exponent⟩, r)

theorem length_of_digits? {s ds r : List Char} (h : digits? s = some (ds, r)) : r.length < s.length := by
  simp only [digits?] at h
  split at h
  · cases h
  · rename_i hw
    simp only [Option.some.injEq, Prod.mk.injEq] at h
    have hl : (s.takeWhile Char.isDigit).length + (s.dropWhile Char.isDigit).length = s.length := by
      rw [← List.length_append, List.takeWhile_append_dropWhile]
    have : 0 < (s.takeWhile Char.isDigit).length := by
      rw [List.length_pos_iff]
      simpa using hw
    rw [← h.2]
    omega

theorem length_of_whole? {s ds r : List Char} (h : whole? s = some (ds, r)) : r.length < s.length := by
  unfold whole? at h
  split at h
  · cases h
  · exact length_of_digits? h

theorem length_of_fraction? {s ds r : List Char} (h : fraction? s = some (ds, r)) : r.length ≤ s.length := by
  unfold fraction? at h
  split at h
  · exact Nat.le_of_lt (Nat.lt_succ_of_lt (length_of_digits? h))
  · simp only [Option.some.injEq, Prod.mk.injEq] at h
    exact Nat.le_of_eq (congrArg List.length h.2.symm)

theorem length_of_exponent? {s ds r : List Char} (h : exponent? s = some (ds, r)) : r.length ≤ s.length := by
  unfold exponent? at h
  split at h
  · simp only [Option.some.injEq, Prod.mk.injEq] at h
    simp [← h.2]
  · split at h
    · split at h
      · obtain ⟨⟨_, _⟩, hd, he⟩ := Option.map_eq_some_iff.1 h
        simp only [Prod.mk.injEq] at he
        have := length_of_digits? (he.2 ▸ hd)
        simp only [List.length_cons]
        omega
      · obtain ⟨⟨_, _⟩, hd, he⟩ := Option.map_eq_some_iff.1 h
        simp only [Prod.mk.injEq] at he
        have := length_of_digits? (he.2 ▸ hd)
        simp only [List.length_cons]
        omega
      · exact Nat.le_of_lt (Nat.lt_succ_of_lt (length_of_digits? h))
    · simp only [Option.some.injEq, Prod.mk.injEq] at h
      exact Nat.le_of_eq (congrArg List.length h.2.symm)

theorem length_of_number? {s r : List Char} {n : JsonNumber} (h : number? s = some (n, r)) :
    r.length < s.length := by
  simp only [number?] at h
  split at h
  · cases h
  · rename_i hw
    split at h
    · cases h
    · rename_i hf
      obtain ⟨⟨_, _⟩, hd, he⟩ := Option.map_eq_some_iff.1 h
      simp only [Prod.mk.injEq] at he
      have h₁ := length_of_whole? hw
      have h₂ := length_of_fraction? hf
      have h₃ := length_of_exponent? (he.2 ▸ hd)
      split at h₁
      · simp only [List.length_cons] at h₁ ⊢
        omega
      · simp only at h₁
        omega

/-! ### Values -/

theorem length_of_skipSpace {s t : List Char} {c : Char} (h : skipSpace s = c :: t) : t.length < s.length := by
  have := length_skipSpace_le s
  simp only [h, List.length_cons] at this
  omega

/-- The three words. -/
def word? (s : List Char) : Option (Json × List Char) :=
  match s with
  | 'n' :: 'u' :: 'l' :: 'l' :: r => some (.null, r)
  | 't' :: 'r' :: 'u' :: 'e' :: r => some (.boolean true, r)
  | 'f' :: 'a' :: 'l' :: 's' :: 'e' :: r => some (.boolean false, r)
  | _ => none

theorem length_of_word? {s r : List Char} {j : Json} (h : word? s = some (j, r)) : r.length < s.length := by
  unfold word? at h
  split at h <;> simp_all <;> omega

/-- A string, a number or a word. -/
def scalar? (s : List Char) : Option (Json × List Char) :=
  match s with
  | '"' :: r => (string? r).map fun (t, r) => (.string t, r)
  | _ =>
    match word? s with
    | some p => some p
    | none => (number? s).map fun (n, r) => (.number n, r)

theorem length_of_scalar? {s r : List Char} {j : Json} (h : scalar? s = some (j, r)) :
    r.length < s.length := by
  unfold scalar? at h
  split at h
  · obtain ⟨⟨_, _⟩, hd, he⟩ := Option.map_eq_some_iff.1 h
    simp only [Prod.mk.injEq] at he
    exact Nat.lt_succ_of_lt (length_of_string? (he.2 ▸ hd))
  · split at h
    · rename_i hw
      cases h
      exact length_of_word? hw
    · obtain ⟨⟨_, _⟩, hd, he⟩ := Option.map_eq_some_iff.1 h
      simp only [Prod.mk.injEq] at he
      exact length_of_number? (he.2 ▸ hd)

/-- The key of a member, its colon taken with it. -/
def key? (s : List Char) : Option (Option String × List Char) :=
  match skipSpace s with
  | '"' :: r =>
    match string? r with
    | none => none
    | some (k, r) =>
      match skipSpace r with
      | ':' :: t => some (k, t)
      | _ => none
  | _ => none

theorem length_of_key? {s r : List Char} {k : Option String} (h : key? s = some (k, r)) :
    r.length < s.length := by
  unfold key? at h
  split at h
  · rename_i hq
    split at h
    · cases h
    · rename_i hs
      split at h
      · rename_i hc
        simp only [Option.some.injEq, Prod.mk.injEq] at h
        have h₁ := length_of_skipSpace hq
        have h₂ := length_of_string? hs
        have h₃ := length_of_skipSpace hc
        rw [← h.2]
        omega
      · cases h
  · cases h

mutual

/-- The value at the start of a text, blanks before it passed over. -/
def value? (s : List Char) : Option (Parsed Json s) :=
  match hs : skipSpace s with
  | [] => none
  | c :: t =>
    have ht : t.length < s.length := length_of_skipSpace hs
    if c = '[' then
      match hc : skipSpace t with
      | ']' :: r => some ⟨.array [], r, Nat.lt_trans (length_of_skipSpace hc) ht⟩
      | _ => (items? t).map fun p => ⟨.array p.value, p.rest, Nat.lt_trans p.shorter ht⟩
    else if c = '\x7b' then
      match hc : skipSpace t with
      | '\x7d' :: r => some ⟨.object [], r, Nat.lt_trans (length_of_skipSpace hc) ht⟩
      | _ => (members? t).map fun p => ⟨.object p.value, p.rest, Nat.lt_trans p.shorter ht⟩
    else
      match hc : scalar? (c :: t) with
      | none => none
      | some (j, r) => some ⟨j, r, Nat.lt_of_lt_of_le (length_of_scalar? hc) ht⟩
termination_by (s.length, 0)

/-- The values up to the closing bracket, of which there is at least one. -/
def items? (s : List Char) : Option (Parsed (List Json) s) :=
  match value? s with
  | none => none
  | some ⟨j, r, hr⟩ =>
    match hc : skipSpace r with
    | ']' :: t => some ⟨[j], t, Nat.lt_trans (length_of_skipSpace hc) hr⟩
    | ',' :: t =>
      have ht : t.length < s.length := Nat.lt_trans (length_of_skipSpace hc) hr
      (items? t).map fun p => ⟨j :: p.value, p.rest, Nat.lt_trans p.shorter ht⟩
    | _ => none
termination_by (s.length, 1)

/-- The members up to the closing brace, of which there is at least one. -/
def members? (s : List Char) : Option (Parsed (List (Option String × Json)) s) :=
  match hk : key? s with
  | none => none
  | some (k, v) =>
    have hv : v.length < s.length := length_of_key? hk
    match value? v with
    | none => none
    | some ⟨j, r, hr⟩ =>
      have hr : r.length < s.length := Nat.lt_trans hr hv
      match hc : skipSpace r with
      | '\x7d' :: t => some ⟨[(k, j)], t, Nat.lt_trans (length_of_skipSpace hc) hr⟩
      | ',' :: t =>
        have ht : t.length < s.length := Nat.lt_trans (length_of_skipSpace hc) hr
        (members? t).map fun p => ⟨(k, j) :: p.value, p.rest, Nat.lt_trans p.shorter ht⟩
      | _ => none
termination_by (s.length, 1)

end

/-- A text that is one value from end to end, blanks around it allowed. -/
def parse? (text : String) : Option Json :=
  match value? text.toList with
  | none => none
  | some p => if (skipSpace p.rest).isEmpty then some p.value else none

end Footpath.Json
