import Footpath.Language.Statement.Parser
import Footpath.Proofs.Language.Grammar

/-! The scan for a closing bracket and the predicates that it cuts out.

The scan knows quotes, escapes and nesting and nothing else. Behind each lexeme of a predicate it stands
where it stood before it, for the brackets and quotes that a lexeme has are those of a quoted text, which
the scan passes over as the reader of texts does. So of a predicate in brackets it finds the end
(`untilBracket_of_sentence`). -/
namespace Footpath
open Text Token

/-! ### Where the scan stands -/

/-- The scan goes over `w` and then stands at `after`, the bracket that it looks for not met. -/
def BracketScan.Passes (scan : BracketScan) (w : List Char) (after : BracketScan) : Prop :=
  w.foldlM BracketScan.next scan = some after

namespace BracketScan

theorem Passes.nil (scan : BracketScan) : scan.Passes [] scan := rfl

theorem Passes.cons {scan between after : BracketScan} {c : Char} {w : List Char}
    (hc : scan.next c = some between) (hw : between.Passes w after) : scan.Passes (c :: w) after := by
  rw [Passes, List.foldlM_cons, hc]
  exact hw

theorem Passes.append {scan between after : BracketScan} {v w : List Char} (hv : scan.Passes v between)
    (hw : between.Passes w after) : scan.Passes (v ++ w) after := by
  rw [Passes, List.foldlM_append, hv]
  exact hw

/-- What is passed over is part of what the scan cuts out. -/
theorem Passes.untilBracket_append {scan after : BracketScan} {w : List Char} (h : scan.Passes w after)
    (s : List Char) : untilBracket scan (w ++ s) = (untilBracket after s).map fun (t, r) => (w ++ t, r) := by
  induction w generalizing scan with
  | nil =>
    cases h
    simp
  | cons c w ih =>
    rw [Passes, List.foldlM_cons] at h
    obtain ⟨between, hc, hw⟩ := Option.bind_eq_some_iff.1 h
    simp only [List.cons_append, untilBracket, hc, ih hw, Option.map_map]
    rfl

end BracketScan

/-- The scan cuts at a closing bracket. -/
theorem eq_append_of_untilBracket {scan : BracketScan} {s t r : List Char}
    (h : untilBracket scan s = some (t, r)) : s = t ++ ']' :: r := by
  induction s generalizing scan t with
  | nil => cases h
  | cons c s ih =>
    simp only [untilBracket] at h
    split at h
    · rename_i hc
      cases h
      -- Nothing but a closing bracket outside of quotes ends the scan.
      have hbracket : c = ']' := by
        unfold BracketScan.next at hc
        split at hc <;> grind
      rw [hbracket]
      rfl
    · obtain ⟨⟨u, r'⟩, hu, he⟩ := Option.map_eq_some_iff.1 h
      cases he
      rw [ih hu]
      rfl

/-! ### Lexemes -/

/-- Not a bracket and not a quote. -/
def isInert (c : Char) : Bool := c != '[' && c != ']' && c != '\'' && c != '"'

/-- A property that brackets and quotes do not have. -/
theorem isInert_of {p : Char → Bool} (hopen : p '[' = false) (hclose : p ']' = false)
    (hsingle : p '\'' = false) (hdouble : p '"' = false) {c : Char} (hc : p c = true) : isInert c = true := by
  have hne : ∀ d, p d = false → c ≠ d := by
    rintro d hd rfl
    exact Bool.false_ne_true (hd.symm.trans hc)
  simp [isInert, hne _ hopen, hne _ hclose, hne _ hsingle, hne _ hdouble]

theorem isInert_of_isBlank {c : Char} (hc : isBlank c = true) : isInert c = true :=
  isInert_of rfl rfl rfl rfl hc

theorem all_isInert_of_isDigits {ds : List Char} (h : IsDigits ds) : ds.all isInert = true :=
  List.all_eq_true.2 fun c hc => isInert_of rfl rfl rfl rfl (h.2 c hc)

theorem all_isInert_of_isName {n : List Char} (hn : isName n = true) : n.all isInert = true := by
  cases n with
  | nil => rfl
  | cons c n =>
    obtain ⟨hc, hrest⟩ := isName_cons.1 hn
    have hparts : n.all isInert = true :=
      List.all_eq_true.2 fun d hd => isInert_of (by decide) (by decide) (by decide) (by decide) (hrest d hd)
    rw [List.all_cons, isInert_of (by decide) (by decide) (by decide) (by decide) hc, hparts]
    rfl

theorem all_isInert_of_isNumeral {n : Numeral} {w : List Char} (hw : IsNumeral n w) : w.all isInert = true := by
  cases hw with
  | @mk ds places f x e negative hds hf hx =>
    have hsign : (if negative then ['-'] else []).all isInert = true := by cases negative <;> rfl
    have hfraction : f.all isInert = true := by
      cases hf with
      | none => rfl
      | places hps =>
        rw [List.all_cons, all_isInert_of_isDigits hps]
        rfl
    have hexponent : x.all isInert = true := by
      cases hx with
      | none => rfl
      | @marked c sign sg es hc hsg hes =>
        have hmark : isInert c = true := by rcases hc with rfl | rfl <;> rfl
        have hsg : sg.all isInert = true := by cases hsg <;> rfl
        rw [List.all_cons, List.all_append, hmark, hsg, all_isInert_of_isDigits hes]
        rfl
    rw [List.all_append, List.all_append, List.all_append, hsign, all_isInert_of_isDigits hds, hfraction,
      hexponent]
    rfl

namespace BracketScan

theorem next_of_isInert {c : Char} (hc : isInert c = true) (depth : Nat) :
    (plain depth).next c = some (plain depth) := by
  simp only [isInert, Bool.and_eq_true, bne_iff_ne, ne_eq] at hc
  obtain ⟨⟨⟨hopen, hclose⟩, hsingle⟩, hdouble⟩ := hc
  simp [next, hopen, hclose, hsingle, hdouble]

theorem passes_of_isInert {w : List Char} (hw : w.all isInert = true) (depth : Nat) :
    (plain depth).Passes w (plain depth) := by
  induction w with
  | nil => exact .nil _
  | cons c w ih =>
    obtain ⟨hc, hw⟩ := Bool.and_eq_true_iff.1 (List.all_cons ▸ hw)
    exact .cons (next_of_isInert hc depth) (ih hw)

/-- Between the quotes the scan stays there. -/
theorem passes_of_isQuoted {q : Char} {t w : List Char} (h : IsQuoted q t w) (depth : Nat) :
    (quoted q depth).Passes w (quoted q depth) := by
  induction h with
  | nil => exact .nil _
  | @plain c t w hq hb _ ih =>
    have hstay : (quoted q depth).next c = some (quoted q depth) := (if_neg hb).trans (if_neg hq)
    exact .cons hstay ih
  | escaped c _ ih =>
    have hslash : (quoted q depth).next '\\' = some (escaped q depth) := rfl
    have hback : (escaped q depth).next c = some (quoted q depth) := rfl
    exact .cons hslash (.cons hback ih)

theorem passes_of_spells {x : Lexeme} {w : List Char} (h : Spells x w) (depth : Nat) :
    (plain depth).Passes w (plain depth) := by
  cases h with
  | opening => exact passes_of_isInert rfl depth
  | closing => exact passes_of_isInert rfl depth
  | comparison op => cases op <;> exact passes_of_isInert rfl depth
  | label => exact passes_of_isInert rfl depth
  | identity => exact passes_of_isInert rfl depth
  | property hn => exact passes_of_isInert (all_isInert_of_isName hn) depth
  | @text q t w hq hw =>
    have hopen : (plain depth).next q = some (quoted q depth) := if_pos (by simpa using hq)
    have hclose : (quoted q depth).next q = some (plain depth) := by
      rcases hq with rfl | rfl <;> rfl
    exact .cons hopen ((passes_of_isQuoted hw depth).append (.cons hclose (.nil _)))
  | number hw => exact passes_of_isInert (all_isInert_of_isNumeral hw) depth
  | word hx hw =>
    have hletters : w.all isInert = true :=
      List.all_eq_true.2 fun c hc => isInert_of rfl rfl rfl rfl (isAlpha_of_mem_words hx hw c hc)
    exact passes_of_isInert hletters depth

/-- What reads as lexemes is passed over. -/
theorem passes_of_reads {s r : List Char} {xs : List Lexeme} (h : Reads s xs r) (depth : Nat) :
    ∃ w, s = w ++ r ∧ (plain depth).Passes w (plain depth) := by
  induction h with
  | nil s => exact ⟨[], rfl, .nil _⟩
  | @blank c s r xs hc _ ih =>
    obtain ⟨w, rfl, hw⟩ := ih
    exact ⟨c :: w, rfl, .cons (next_of_isInert (isInert_of_isBlank hc) depth) hw⟩
  | @cons x v s r xs hx _ ih =>
    obtain ⟨w, rfl, hw⟩ := ih
    exact ⟨v ++ w, (List.append_assoc v w r).symm, (passes_of_spells hx.spells depth).append hw⟩

end BracketScan

/-! ### Filters -/

/-- Of a predicate in brackets the scan finds the end. -/
theorem untilBracket_of_sentence {t : List Char} {p : Predicate} (h : Predicate.Sentence t p) (r : List Char) :
    untilBracket (.plain 0) (t ++ ']' :: r) = some (t, r) := by
  obtain ⟨xs, hxs, -⟩ := h
  obtain ⟨w, rfl, hw⟩ := BracketScan.passes_of_reads hxs 0
  have hend : untilBracket (.plain 0) (']' :: r) = some ([], r) := rfl
  rw [List.append_nil, hw.untilBracket_append, hend]
  simp

/-- A filter and how it is written: not at all, or in brackets. -/
inductive IsFilter : Option Predicate → List Char → Prop where
  | none : IsFilter none []
  | bracketed {t : List Char} {p : Predicate} (h : Predicate.Sentence t p) :
      IsFilter (some p) ('[' :: (t ++ [']']))

theorem filter?_of_head {r : List Char} (hr : ∀ c, r.head? = some c → c ≠ '[') : filter? r = .ok (none, r) := by
  unfold filter?
  split
  · exact absurd rfl (hr '[' rfl)
  · rfl

/-- A filter is read as it is written, where no other bracket opens behind it. -/
theorem IsFilter.read {filter : Option Predicate} {w r : List Char} (h : IsFilter filter w)
    (hr : ∀ c, r.head? = some c → c ≠ '[') : filter? (w ++ r) = .ok (filter, r) := by
  cases h with
  | none => exact filter?_of_head hr
  | @bracketed t p h =>
    have hparse : Predicate.parse (String.ofList t) = .ok p := by
      rw [Predicate.parse_eq_ok_iff, String.toList_ofList]
      exact h
    rw [List.cons_append, List.append_assoc, List.singleton_append, filter?, untilBracket_of_sentence h]
    dsimp only
    rw [hparse]

/-- What is read as a filter is written as one. -/
theorem filter?_sound {s r : List Char} {filter : Option Predicate} (h : filter? s = .ok (filter, r)) :
    ∃ f, s = f ++ r ∧ IsFilter filter f := by
  unfold filter? at h
  split at h
  · split at h
    · cases h
    · rename_i inner rest hcut
      split at h
      · cases h
      · rename_i p hp
        cases h
        rw [Predicate.parse_eq_ok_iff, String.toList_ofList] at hp
        refine ⟨'[' :: (inner ++ [']']), ?_, .bracketed hp⟩
        rw [eq_append_of_untilBracket hcut]
        simp
  · cases h
    exact ⟨[], rfl, .none⟩

/-- A text in brackets is a filter exactly when it is a predicate by itself. -/
theorem filter?_brackets_iff {t : List Char} {filter : Option Predicate} :
    filter? ('[' :: (t ++ [']'])) = .ok (filter, []) ↔ ∃ p, filter = some p ∧ Predicate.Sentence t p := by
  constructor
  · intro h
    obtain ⟨f, hf, hfilter⟩ := filter?_sound h
    rw [List.append_nil] at hf
    cases hfilter with
    | none => cases hf
    | @bracketed u p hp =>
      -- Nothing is left behind the bracket, so it is the last one.
      obtain rfl := List.append_cancel_right (List.cons.inj hf).2
      exact ⟨p, rfl, hp⟩
  · rintro ⟨p, rfl, h⟩
    have hread := (IsFilter.bracketed h).read (r := []) fun c hc => by cases hc
    rwa [List.append_nil] at hread

end Footpath
