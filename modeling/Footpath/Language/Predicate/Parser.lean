import Footpath.Fault
import Footpath.Language.Token
import Footpath.Text.Parsed

/-! Reading predicates. `and` binds tighter than `or`, chains of either group to the left, and
parentheses group as usual. Every reader gives back a rest that is shorter than its text, which
is why the recursion through parentheses ends. -/
namespace Footpath
open Text Token

namespace Predicate

/-! ### Operands and comparisons -/

def operandOfName (n : List Char) : Operand :=
  if n = ['l', 'a', 'b', 'e', 'l'] then .label
  else if n = ['i', 'd'] then .identity
  else .property (String.ofList n)

/-- A boolean in any case, told by the keyword that fits. -/
def truth? (s : List Char) : Option (Bool × List Char) :=
  match keyword? ['t', 'r', 'u', 'e'] s with
  | some r => some (true, r)
  | none => (keyword? ['f', 'a', 'l', 's', 'e'] s).map (false, ·)

/-- One side of a comparison, blanks before it passed over. -/
def operand (s : List Char) : Except PredicateFlaw (Operand × List Char) :=
  match skipBlank s with
  | [] => .error .unexpectedEnd
  | c :: cs =>
    if c = '@' then
      match name? cs with
      | some (n, r) => .ok (operandOfName n, r)
      | none => .error .propertyName
    else if c = '\'' || c = '"' then
      match quoted? c cs with
      | some (t, r) => .ok (.literal (.text (String.ofList t)), r)
      | none => .error .unclosedString
    else if c.isDigit || c = '-' then
      match numeral? (c :: cs) with
      | some (n, r) => .ok (.literal n.value, r)
      | none => .error .number
    else
      match truth? (c :: cs) with
      | some (b, r) => .ok (.literal (.boolean b), r)
      | none => .error (.unexpected (String.singleton c))

/-- The longest comparison sign. -/
def comparison? : List Char → Option (Comparison × List Char)
  | '!' :: '=' :: r => some (.ne, r)
  | '>' :: '=' :: r => some (.ge, r)
  | '<' :: '=' :: r => some (.le, r)
  | '>' :: r => some (.gt, r)
  | '<' :: r => some (.lt, r)
  | '=' :: r => some (.eq, r)
  | _ => none

/-- `operand sign operand`. -/
def compared (s : List Char) : Except PredicateFlaw (Predicate × List Char) :=
  match operand s with
  | .error e => .error e
  | .ok (left, r) =>
    match comparison? (skipBlank r) with
    | none => .error (.comparison left)
    | some (op, r) =>
      match operand r with
      | .error e => .error e
      | .ok (right, r) => .ok (.compare left op right, r)

/-! ### Each takes something -/

theorem length_of_truth? {s r : List Char} {b : Bool} (h : truth? s = some (b, r)) :
    r.length < s.length := by
  unfold truth? at h
  split at h
  · rename_i hk
    simp only [Option.some.injEq, Prod.mk.injEq] at h
    exact h.2 ▸ length_of_keyword? hk (by simp)
  · obtain ⟨r', hk, he⟩ := Option.map_eq_some_iff.1 h
    simp only [Prod.mk.injEq] at he
    exact he.2 ▸ length_of_keyword? hk (by simp)

theorem length_of_operand {s r : List Char} {o : Operand} (h : operand s = .ok (o, r)) :
    r.length < s.length := by
  have hs := length_skipBlank_le s
  unfold operand at h
  split at h
  · cases h
  · rename_i c cs ht
    rw [ht] at hs
    simp only [List.length_cons] at hs
    split at h
    · split at h
      · rename_i hn
        simp only [Except.ok.injEq, Prod.mk.injEq] at h
        have := length_of_name? hn
        rw [← h.2]
        omega
      · cases h
    · split at h
      · split at h
        · rename_i hq
          simp only [Except.ok.injEq, Prod.mk.injEq] at h
          have := length_of_quoted? hq
          rw [← h.2]
          omega
        · cases h
      · split at h
        · split at h
          · rename_i hn
            simp only [Except.ok.injEq, Prod.mk.injEq] at h
            have := length_of_numeral? hn
            simp only [List.length_cons] at this
            rw [← h.2]
            omega
          · cases h
        · split at h
          · rename_i hb
            simp only [Except.ok.injEq, Prod.mk.injEq] at h
            have := length_of_truth? hb
            simp only [List.length_cons] at this
            rw [← h.2]
            omega
          · cases h

theorem length_of_comparison? {s r : List Char} {c : Comparison} (h : comparison? s = some (c, r)) :
    r.length < s.length := by
  unfold comparison? at h
  split at h <;> cases h <;> simp only [List.length_cons] <;> omega

theorem length_of_compared {s r : List Char} {p : Predicate} (h : compared s = .ok (p, r)) :
    r.length < s.length := by
  unfold compared at h
  split at h
  · cases h
  · rename_i left r₁ h₁
    have h₀ := length_skipBlank_le r₁
    split at h
    · cases h
    · rename_i op r₂ h₂
      split at h
      · cases h
      · rename_i right r₃ h₃
        simp only [Except.ok.injEq, Prod.mk.injEq] at h
        have h₁ := length_of_operand h₁
        have h₂ := length_of_comparison? h₂
        have h₃ := length_of_operand h₃
        rw [← h.2]
        omega

/-! ### Connectives -/

/-- A predicate behind what stands to the left of it. -/
def join (connective : Predicate → Predicate → Predicate) : Option Predicate → Predicate → Predicate
  | none, p => p
  | some q, p => connective q p

mutual

/-- Conjunctions joined by `or`, behind `before`. -/
def disjunction (before : Option Predicate) (s : List Char) : Except PredicateFlaw (Parsed Predicate s) :=
  match conjunction none s with
  | .error e => .error e
  | .ok ⟨p, r, h⟩ =>
    match hk : keyword? ['o', 'r'] r with
    | none => .ok ⟨join .or before p, r, h⟩
    | some t =>
      have ht : t.length < s.length := Nat.lt_trans (length_of_keyword? hk (by simp)) h
      match disjunction (some (join .or before p)) t with
      | .error e => .error e
      | .ok q => .ok (q.widen (Nat.le_of_lt ht))
termination_by (s.length, 2)

/-- Primaries joined by `and`, behind `before`. -/
def conjunction (before : Option Predicate) (s : List Char) : Except PredicateFlaw (Parsed Predicate s) :=
  match primary s with
  | .error e => .error e
  | .ok ⟨p, r, h⟩ =>
    match hk : keyword? ['a', 'n', 'd'] r with
    | none => .ok ⟨join .and before p, r, h⟩
    | some t =>
      have ht : t.length < s.length := Nat.lt_trans (length_of_keyword? hk (by simp)) h
      match conjunction (some (join .and before p)) t with
      | .error e => .error e
      | .ok q => .ok (q.widen (Nat.le_of_lt ht))
termination_by (s.length, 1)

/-- A comparison, or a disjunction in parentheses. -/
def primary (s : List Char) : Except PredicateFlaw (Parsed Predicate s) :=
  match hs : skipBlank s with
  | '(' :: t =>
    have ht : t.length < s.length := by
      have := length_skipBlank_le s
      rw [hs] at this
      exact this
    match disjunction none t with
    | .error e => .error e
    | .ok ⟨p, r, h⟩ =>
      match hr : skipBlank r with
      | ')' :: rest =>
        .ok ⟨p, rest, by
          have := length_skipBlank_le r
          rw [hr, List.length_cons] at this
          omega⟩
      | _ => .error .closingParenthesis
  | t =>
    match hc : compared t with
    | .error e => .error e
    | .ok (p, rest) =>
      .ok ⟨p, rest, Nat.lt_of_lt_of_le (length_of_compared hc) (hs ▸ length_skipBlank_le s)⟩
termination_by (s.length, 0)

end

/-! ### Whole texts -/

/-- A text that is a predicate from end to end. -/
def ofText (s : List Char) : Except PredicateFlaw Predicate :=
  match skipBlank s with
  | [] => .error .empty
  | t =>
    match disjunction none t with
    | .error e => .error e
    | .ok p =>
      match skipBlank p.rest with
      | [] => .ok p.value
      | rest => .error (.unexpected (String.ofList rest))

def parse (text : String) : Except Fault Predicate :=
  match ofText text.toList with
  | .ok p => .ok p
  | .error flaw => .error (.predicate text flaw)

end Predicate

end Footpath
