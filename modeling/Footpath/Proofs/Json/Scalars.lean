import Footpath.Json.Number
import Footpath.Json.Writer
import Mathlib.Data.List.TakeWhile

/-! Strings and numbers of JSON, written and read back.

A string is read back character by character: each is written as one piece, which spells it
(`pieces?_escape`). A whole number is read back by its digits, if nothing behind it goes on with the number
(`number?_signed`); it stands for the same 64 bits then, with a sign or without. -/
namespace Footpath.Json

/-! ### Strings -/

theorem hexNumber?_control : ∀ n < 0x20, hexNumber? ['0', '0', hexDigit (n / 16), hexDigit (n % 16)] = some n := by
  decide +kernel

/-- A character is written as a letter behind a backslash, as a number, or as itself. -/
theorem escape_cases (c : Char) :
    (∃ e, escape c = ['\\', e] ∧ unescape? e = some c) ∨
    (escape c = ['\\', 'u', '0', '0', hexDigit (c.toNat / 16), hexDigit (c.toNat % 16)] ∧ c.toNat < 0x20) ∨
    (escape c = [c] ∧ c ≠ '"' ∧ c ≠ '\\' ∧ ¬ c.toNat < 0x20) := by
  unfold escape
  split_ifs with hquote hslash hb hf hn hr ht hcontrol
  · exact .inl ⟨'"', rfl, by rw [hquote]; rfl⟩
  · exact .inl ⟨'\\', rfl, by rw [hslash]; rfl⟩
  · exact .inl ⟨'b', rfl, hb ▸ rfl⟩
  · exact .inl ⟨'f', rfl, hf ▸ rfl⟩
  · exact .inl ⟨'n', rfl, hn ▸ rfl⟩
  · exact .inl ⟨'r', rfl, hr ▸ rfl⟩
  · exact .inl ⟨'t', rfl, ht ▸ rfl⟩
  · exact .inr (.inl ⟨rfl, hcontrol⟩)
  · exact .inr (.inr ⟨rfl, hquote, hslash, hcontrol⟩)

theorem pieces?_quote (rest : List Char) : pieces? ('"' :: rest) = some ([], rest) := by
  rw [pieces?.eq_def]
  rfl

theorem pieces?_letter {e k : Char} (rest : List Char) (he : unescape? e = some k) :
    pieces? ('\\' :: e :: rest) = (pieces? rest).map fun (ps, r) => (.char k :: ps, r) := by
  rw [pieces?.eq_def]
  dsimp only
  rw [if_neg (by decide), if_pos rfl]
  split
  · rename_i heq
    obtain rfl := (List.cons.inj heq).1
    exact absurd (he.symm.trans (show unescape? 'u' = none from rfl)) (Option.some_ne_none k)
  · rename_i heq
    cases heq
    rw [he]
  · contradiction

theorem pieces?_unit {a b x y : Char} {n : Nat} (rest : List Char) (hn : hexNumber? [a, b, x, y] = some n) :
    pieces? ('\\' :: 'u' :: a :: b :: x :: y :: rest) = (pieces? rest).map fun (ps, r) => (.unit n :: ps, r) := by
  rw [pieces?, if_neg (by decide), if_pos rfl, hn]

theorem pieces?_plain {c : Char} (rest : List Char) (hquote : c ≠ '"') (hslash : c ≠ '\\')
    (hcontrol : ¬ c.toNat < 0x20) :
    pieces? (c :: rest) = (pieces? rest).map fun (ps, r) => (.char c :: ps, r) := by
  rw [pieces?.eq_def]
  dsimp only
  rw [if_neg hquote, if_neg hslash, if_neg hcontrol]

/-- A number below the surrogates stands for a character by itself. -/
theorem spell?_unit {n : Nat} (ps : List Piece) (hn : n < 0xd800) :
    spell? (.unit n :: ps) = (spell? ps).map (Char.ofNat n :: ·) := by
  have hhigh : isHighHalf n = false := by
    rw [isHighHalf, Bool.and_eq_false_iff]
    exact .inl (decide_eq_false (by omega))
  have hlow : isLowHalf n = false := by
    rw [isLowHalf, Bool.and_eq_false_iff]
    exact .inl (decide_eq_false (by omega))
  rw [spell?.eq_def]
  dsimp only
  rw [hhigh, hlow]
  rfl

/-- A character is one piece of a string, and spells itself. -/
theorem pieces?_escape (c : Char) (t : List Char) :
    ∃ p, pieces? (escape c ++ t) = (pieces? t).map (fun (ps, r) => (p :: ps, r)) ∧
      ∀ ps, spell? (p :: ps) = (spell? ps).map (c :: ·) := by
  rcases escape_cases c with ⟨e, hescape, he⟩ | ⟨hescape, hcontrol⟩ | ⟨hescape, hquote, hslash, hcontrol⟩
  · rw [hescape]
    exact ⟨.char c, pieces?_letter t he, fun _ => rfl⟩
  · rw [hescape]
    refine ⟨.unit c.toNat, pieces?_unit t (hexNumber?_control c.toNat hcontrol), fun ps => ?_⟩
    rw [spell?_unit ps (by omega), Char.ofNat_toNat]
  · rw [hescape]
    exact ⟨.char c, pieces?_plain t hquote hslash hcontrol, fun _ => rfl⟩

/-- A string is read back up to its closing quote. -/
theorem string?_escaped (s : String) (rest : List Char) :
    string? (s.toList.flatMap escape ++ '"' :: rest) = some (some s, rest) := by
  have hpieces : ∀ cs : List Char, ∃ ps, pieces? (cs.flatMap escape ++ '"' :: rest) = some (ps, rest) ∧
      spell? ps = some cs := by
    intro cs
    induction cs with
    | nil => exact ⟨[], pieces?_quote rest, rfl⟩
    | cons c cs ih =>
      obtain ⟨ps, hread, hspell⟩ := ih
      obtain ⟨p, hp, hc⟩ := pieces?_escape c (cs.flatMap escape ++ '"' :: rest)
      refine ⟨p :: ps, ?_, by rw [hc, hspell, Option.map_some]⟩
      rw [List.flatMap_cons, List.append_assoc, hp, hread, Option.map_some]
  obtain ⟨ps, hread, hspell⟩ := hpieces s.toList
  rw [string?, hread, Option.map_some]
  dsimp only
  rw [hspell, Option.map_some, String.ofList_toList]

/-! ### Numbers -/

/-- A text that goes on with no number. -/
def Stops (s : List Char) : Prop := ∀ c ∈ s.head?, c.isDigit = false ∧ c ≠ '.' ∧ c ≠ 'e' ∧ c ≠ 'E'

end Footpath.Json

namespace Footpath.JsonNumber

/-- The number of a magnitude and a sign. -/
def signed (negative : Bool) (m : Nat) : JsonNumber := ⟨negative, Nat.toDigits 10 m, [], []⟩

theorem head_toDigits (m : Nat) : ∃ d ds, Nat.toDigits 10 m = d :: ds ∧ d.isDigit = true := by
  cases hds : Nat.toDigits 10 m with
  | nil => exact absurd hds Nat.toDigits_ne_nil
  | cons d ds =>
    exact ⟨d, ds, rfl, Nat.isDigit_of_mem_toDigits (by decide) (by decide) (hds ▸ List.mem_cons_self)⟩

/-- Only zero is written with a zero in front. -/
theorem eq_zero_of_toDigits {m : Nat} {ds : List Char} (h : Nat.toDigits 10 m = '0' :: ds) : m = 0 := by
  induction m using Nat.strongRecOn generalizing ds with
  | ind m ih =>
    by_cases hm : m < 10
    · rw [Nat.toDigits_of_lt_base hm, List.cons.injEq] at h
      have hdigit : ∀ k < 10, Nat.digitChar k = '0' → k = 0 := by decide
      exact hdigit m hm h.1
    · rw [Nat.toDigits_eq_if (by decide), if_neg hm] at h
      obtain ⟨c, cs, hq, -⟩ := head_toDigits (m / 10)
      rw [hq, List.cons_append, List.cons.injEq] at h
      have hzero := ih (m / 10) (by omega) (h.1 ▸ hq)
      omega

end Footpath.JsonNumber

namespace Footpath.Json

theorem digits?_append {ds rest : List Char} (hne : ds ≠ []) (hds : ∀ c ∈ ds, c.isDigit = true) (hrest : Stops rest) :
    digits? (ds ++ rest) = some (ds, rest) := by
  have hstop : rest.takeWhile Char.isDigit = [] ∧ rest.dropWhile Char.isDigit = rest := by
    cases rest with
    | nil => exact ⟨rfl, rfl⟩
    | cons c rest =>
      have hc : c.isDigit = false := (hrest c rfl).1
      exact ⟨by rw [List.takeWhile_cons_of_neg (by simp [hc])], by rw [List.dropWhile_cons_of_neg (by simp [hc])]⟩
  rw [digits?, List.takeWhile_append_of_pos hds, List.dropWhile_append_of_pos hds, hstop.1, hstop.2, List.append_nil,
    if_neg (by simpa using hne)]

theorem whole?_toDigits (m : Nat) {rest : List Char} (hrest : Stops rest) :
    whole? (Nat.toDigits 10 m ++ rest) = some (Nat.toDigits 10 m, rest) := by
  have hdigits : digits? (Nat.toDigits 10 m ++ rest) = some (Nat.toDigits 10 m, rest) :=
    digits?_append Nat.toDigits_ne_nil (fun c hc => Nat.isDigit_of_mem_toDigits (by decide) (by decide) hc) hrest
  rw [whole?, hdigits]
  split
  · rename_i ds r heq
    simp only [Option.some.injEq, Prod.mk.injEq] at heq
    have hzero := JsonNumber.eq_zero_of_toDigits heq.1
    rw [hzero] at heq
    cases heq.1
  · rfl

theorem number?_signed (negative : Bool) (m : Nat) {rest : List Char} (hrest : Stops rest) :
    number? ((JsonNumber.signed negative m).text ++ rest) = some (.signed negative m, rest) := by
  have hfraction : fraction? rest = some ([], rest) := by
    unfold fraction?
    split
    · rename_i r
      exact absurd rfl (hrest '.' rfl).2.1
    · rfl
  have hexponent : exponent? rest = some ([], rest) := by
    cases rest with
    | nil => rfl
    | cons c rest =>
      obtain ⟨-, -, he, hE⟩ := hrest c rfl
      rw [exponent?.eq_def]
      dsimp only
      rw [if_neg (by simp [he, hE])]
  have hwhole := whole?_toDigits m hrest
  cases negative with
  | true =>
    have htext : (JsonNumber.signed true m).text ++ rest = '-' :: (Nat.toDigits 10 m ++ rest) := by
      simp [JsonNumber.text, JsonNumber.signed]
    rw [htext, number?]
    simp only [hwhole, hfraction, hexponent]
    rfl
  | false =>
    have htext : (JsonNumber.signed false m).text ++ rest = Nat.toDigits 10 m ++ rest := by
      simp [JsonNumber.text, JsonNumber.signed]
    have hsign : ∀ r, Nat.toDigits 10 m ++ rest ≠ '-' :: r := by
      intro r h
      obtain ⟨d, ds, hds, hd⟩ := JsonNumber.head_toDigits m
      rw [hds, List.cons_append, List.cons.injEq] at h
      rw [h.1] at hd
      exact absurd hd (by decide)
    rw [htext, number?]
    · simp only [hwhole, hfraction, hexponent]
      rfl
    · exact hsign

/-- The first character of a number tells it from all other values. -/
theorem scalar?_signed (negative : Bool) (m : Nat) {rest : List Char} (hrest : Stops rest) :
    ∃ c t, (JsonNumber.signed negative m).text ++ rest = c :: t ∧ c ≠ '[' ∧ c ≠ '\x7b' ∧
      scalar? (c :: t) = some (.number (.signed negative m), rest) := by
  obtain ⟨c, t, hhead, hc⟩ : ∃ c t, (JsonNumber.signed negative m).text ++ rest = c :: t ∧
      (c = '-' ∨ c.isDigit = true) := by
    cases negative with
    | true => exact ⟨'-', _, rfl, .inl rfl⟩
    | false =>
      obtain ⟨d, ds, hds, hd⟩ := JsonNumber.head_toDigits m
      exact ⟨d, ds ++ rest, by simp [JsonNumber.text, JsonNumber.signed, hds], .inr hd⟩
  have hne : ∀ d : Char, d ≠ '-' → d.isDigit = false → c ≠ d := by
    rintro d hminus hdigit rfl
    rcases hc with hc | hc
    · exact hminus hc
    · exact Bool.false_ne_true (hdigit.symm.trans hc)
  refine ⟨c, t, hhead, hne _ (by decide) rfl, hne _ (by decide) rfl, ?_⟩
  have hword : word? (c :: t) = none := by
    unfold word?
    split
    · rename_i heq
      exact absurd (List.cons.inj heq).1 (hne 'n' (by decide) rfl)
    · rename_i heq
      exact absurd (List.cons.inj heq).1 (hne 't' (by decide) rfl)
    · rename_i heq
      exact absurd (List.cons.inj heq).1 (hne 'f' (by decide) rfl)
    · rfl
  unfold scalar?
  split
  · rename_i heq
    exact absurd (List.cons.inj heq).1 (hne '"' (by decide) rfl)
  · rw [hword, ← hhead, number?_signed negative m hrest]
    rfl

end Footpath.Json

/-! ### Numbers of 64 bits -/

namespace Footpath.JsonNumber

theorem magnitude_signed (negative : Bool) (m : Nat) : (signed negative m).magnitude = m :=
  Nat.ofDigitChars_toDigits (by decide) (by decide)

theorem unsigned?_ofNat (n : UInt64) : (ofNat n.toNat).unsigned? = some n := by
  have hmagnitude : (ofNat n.toNat).magnitude = n.toNat := magnitude_signed false n.toNat
  rw [unsigned?, hmagnitude, UInt64.ofNat_toNat]
  exact if_pos (decide_eq_true n.toNat_lt)

theorem integer?_ofInt (n : Int64) : (ofInt n.toInt).integer? = some n := by
  have hmagnitude : (ofInt n.toInt).magnitude = n.toInt.natAbs := magnitude_signed _ _
  have hnegative : (ofInt n.toInt).negative = decide (n.toInt < 0) := rfl
  have hle := Int64.le_toInt n
  have hlt := Int64.toInt_lt n
  have hhalf : UInt64.size / 2 = 2 ^ 63 := rfl
  have hwhole : (ofInt n.toInt).isWhole = true := rfl
  rw [integer?, hmagnitude, hnegative, hhalf, hwhole, Bool.not_true, if_neg Bool.false_ne_true]
  by_cases hsign : n.toInt < 0
  · have habs : -(n.toInt.natAbs : Int) = n.toInt := by omega
    have hrange : (0 < n.toInt.natAbs && n.toInt.natAbs ≤ 2 ^ 63) = true := by
      rw [Bool.and_eq_true, decide_eq_true_eq, decide_eq_true_eq]
      omega
    rw [if_pos (decide_eq_true hsign), if_pos hrange, habs, Int64.ofInt_toInt]
  · have habs : (n.toInt.natAbs : Int) = n.toInt := by omega
    have hrange : n.toInt.natAbs < 2 ^ 63 := by omega
    rw [if_neg (by simpa using hsign), if_pos hrange, ← Int64.ofInt_eq_ofNat, habs, Int64.ofInt_toInt]

end Footpath.JsonNumber
