import Footpath.Proofs.Language.Writing

/-! Predicates as messages show them are read back.

A message writes a text between single quotes as it is, so a text with a quote or a backslash in it may read
as another, or not at all. Of all other predicates the shown text is the canonical one (`render_eq_written`):
every connective stands in parentheses, and blanks and parentheses set off operands and words. So it is read
back (`parse_render`), whatever the shape of the tree, and tells it from every other. -/
namespace Footpath
open Text Token

/-- What can be written, but no text in which a quote or a backslash stands. -/
def Operand.isPlain : Operand → Bool
  | .literal (.text s) => s.toList.all fun c => c != '\'' && c != '\\'
  | o => o.isWritable

def Predicate.isPlain : Predicate → Bool
  | .compare l _ r => l.isPlain && r.isPlain
  | .and p q => p.isPlain && q.isPlain
  | .or p q => p.isPlain && q.isPlain

/-- Nothing in a plain text is escaped. -/
theorem flatMap_escape {s : List Char} (hs : s.all (fun c => c != '\'' && c != '\\') = true) :
    s.flatMap escape = s := by
  induction s with
  | nil => rfl
  | cons c s ih =>
    obtain ⟨hc, hs⟩ := Bool.and_eq_true_iff.1 (List.all_cons ▸ hs)
    have hplain : escape c = [c] := by
      simp only [Bool.and_eq_true, bne_iff_ne, ne_eq] at hc
      simp [escape, hc.1, hc.2]
    rw [List.flatMap_cons, hplain, ih hs]
    rfl

namespace Operand

theorem isWritable_of_isPlain {o : Operand} (h : o.isPlain = true) : o.isWritable = true := by
  unfold isPlain at h
  split at h
  · rfl
  · exact h

theorem render_eq_written {o : Operand} (h : o.isPlain = true) : o.render = o.written := by
  unfold written
  split
  · rw [quote, flatMap_escape h, String.ofList_toList]
    rfl
  · rfl

end Operand

namespace Predicate

theorem isWritable_of_isPlain {p : Predicate} (h : p.isPlain = true) : p.isWritable = true := by
  induction p with
  | compare l op r =>
    obtain ⟨hl, hr⟩ := Bool.and_eq_true_iff.1 h
    exact Bool.and_eq_true_iff.2 ⟨Operand.isWritable_of_isPlain hl, Operand.isWritable_of_isPlain hr⟩
  | and p q ihp ihq | or p q ihp ihq =>
    obtain ⟨hp, hq⟩ := Bool.and_eq_true_iff.1 h
    exact Bool.and_eq_true_iff.2 ⟨ihp hp, ihq hq⟩

/-- What messages show of a plain predicate is its canonical text. -/
theorem render_eq_written {p : Predicate} (h : p.isPlain = true) : p.render = p.written := by
  induction p with
  | compare l op r =>
    obtain ⟨hl, hr⟩ := Bool.and_eq_true_iff.1 h
    rw [render, written, Operand.render_eq_written hl, Operand.render_eq_written hr]
  | and p q ihp ihq | or p q ihp ihq =>
    obtain ⟨hp, hq⟩ := Bool.and_eq_true_iff.1 h
    rw [render, written, ihp hp, ihq hq]

theorem parse_of_isPlain {p : Predicate} (h : p.isPlain = true) : Predicate.parse p.render = .ok p := by
  rw [render_eq_written h]
  exact parse_eq_ok_iff.2 (sentence_written (isWritable_of_isPlain h))

/-- **What is shown of a predicate is read back**, tree for tree, and so tells it from all others, where no text
in it has a quote or a backslash. -/
theorem parse_render :
    (∀ p : Predicate, p.isPlain = true → Predicate.parse p.render = .ok p) ∧
      ∀ p q : Predicate, p.isPlain = true → q.isPlain = true → p.render = q.render → p = q := by
  refine ⟨fun p hp => parse_of_isPlain hp, fun p q hp hq h => ?_⟩
  have hread := parse_of_isPlain hp
  rw [h, parse_of_isPlain hq] at hread
  exact (Except.ok.inj hread).symm

/-- Three comparisons joined by `and` in two ways, with a word, a bracket, a line end and a double quote in a text. -/
theorem parse_render_grouped :
    let a : Predicate := .compare (.property "and") .ne (.literal (.text " or ]\n\""))
    let b : Predicate := .or (.compare .label .eq .identity) (.compare (.literal (.boolean true)) .lt (.property "été"))
    let c : Predicate := .compare (.literal (.integer (-7))) .ge (.property "_1")
    let p := Predicate.and (.and a b) c
    let q := Predicate.and a (.and b c)
    p.render = "((@and != ' or ]\n\"' and (@label = @id or true < @été)) and -7 >= @_1)" ∧
      p.isPlain = true ∧ q.isPlain = true ∧ Predicate.parse p.render = .ok p ∧ p.render ≠ q.render := by
  intro a b c p q
  have hp : p.isPlain = true := by decide +kernel
  have hq : q.isPlain = true := by decide +kernel
  refine ⟨by decide +kernel, hp, hq, parse_render.1 p hp, fun h => ?_⟩
  exact absurd (parse_render.2 p q hp hq h) (by decide +kernel)

end Predicate

end Footpath
