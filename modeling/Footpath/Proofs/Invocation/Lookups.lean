import Footpath.Invocation
import Footpath.Proofs.Graph.Freshness
import Footpath.Proofs.Language.Writing

/-! Lookups by digits.

Digits between quotes are the text of an id themselves. Without quotes they are a numeral, and the text of
the id is that of its value. As long as the value is an integer both spell one number and find one element
(`lookup_digits`). Half of the numbers lie beyond the integers. A numeral for one of those is a double, and
the text of a double is the shortest that reads back as it, padded with zeros: mostly another number. -/
namespace Footpath
open Text Token

/-- What a lookup of a number yields, an error naming the id as `shown`. -/
def Graph.lookup (g : Graph) (n : UInt64) (shown : String) : Except Error Sequence :=
  if g.vertices.contains ⟨n⟩ then .ok [.vertex ⟨n⟩]
  else if g.edges.contains ⟨n⟩ then .ok [.edge ⟨n⟩]
  else .error (.ofFault (.missing (.named shown)))

theorem Expr.eval_lookup {text : String} {n : UInt64} (h : numberOfText? text = some n) (g : Graph)
    (call : Invoker) (scope : Scope) :
    (Expr.mk (.lookup text) none []).eval g call scope = g.lookup n text := by
  simp only [eval, start, Source.eval, Graph.fetch?, h, Graph.lookup]
  cases g.vertices.contains ⟨n⟩ with
  | true => rfl
  | false => cases g.edges.contains ⟨n⟩ <;> rfl

/-! ### Digits -/

theorem numberOfText?_of_value {d : String} {n : UInt64} (hd : IsDigits d.toList)
    (hn : Nat.ofDigitChars 10 d.toList 0 = n.toNat) : numberOfText? d = some n := by
  rw [numberOfText?_of_digits hd.1 hd.2, hn]
  dsimp only
  rw [if_pos n.toNat_lt, UInt64.ofNat_toNat]

theorem isQuoted_digits {ds : List Char} (hds : IsDigits ds) : IsQuoted '\'' ds ds := by
  obtain ⟨-, hdigit⟩ := hds
  induction ds with
  | nil => exact .nil
  | cons c ds ih =>
    have hc := hdigit c List.mem_cons_self
    refine .plain ?_ ?_ (ih fun e he => hdigit e (List.mem_cons_of_mem _ he))
    · rintro rfl
      cases hc
    · rintro rfl
      cases hc

section
variable {ds : List Char} {n : UInt64} (hn : Nat.ofDigitChars 10 ds 0 = n.toNat)
include hn

/-- Below 2^63 a numeral is an integer, and the text of that spells the number again. -/
theorem render_value_of_lt (hlt : n < 0x8000000000000000) :
    (⟨false, ds, 0, true⟩ : Numeral).value.render = toString n := by
  have hbound : n.toNat < 0x8000000000000000 := UInt64.lt_iff_toNat_lt.1 hlt
  have hint : (Int64.ofInt n.toNat).toInt = n.toNat := by
    apply Int64.toInt_ofInt_of_le
    · omega
    · omega
  have hvalue : (⟨false, ds, 0, true⟩ : Numeral).value = .integer (Int64.ofInt n.toNat) := by
    apply value_of_toInt
    rw [hn]
    exact hint
  rw [hvalue, Value.render, hint]
  rfl

/-- From 2^63 on a numeral is a double. -/
theorem value_of_le (hle : 0x8000000000000000 ≤ n) :
    (⟨false, ds, 0, true⟩ : Numeral).value = .float (Decimal.nearest false n.toNat 0) := by
  have hbound : 0x8000000000000000 ≤ n.toNat := UInt64.le_iff_toNat_le.1 hle
  have hlarge : ¬ (n.toNat : Int) ≤ Int64.maxValue.toInt := by
    rw [Int64.toInt_maxValue]
    omega
  rw [Numeral.value]
  dsimp only
  rw [hn, if_neg Bool.false_ne_true, decide_eq_false hlarge, Bool.and_false, if_neg Bool.false_ne_true]

end

/-! ### Statements -/

theorem parse_lookup_quoted {d : String} (hd : IsDigits d.toList) (line : Nat) :
    Statement.IsAlone ("g:id('" ++ d ++ "')") line ⟨.lookup d, none, []⟩ := by
  apply Statement.isAlone_of_isExpr
  have h := IsExpr.source (.lookup (isQuoted_digits hd)) .none []
  rw [String.ofList_toList] at h
  simpa [Link.texts] using h

theorem parse_lookup_numeral {d : String} (hd : IsDigits d.toList) (line : Nat) :
    Statement.IsAlone ("g:id(" ++ d ++ ")") line
      ⟨.lookup (⟨false, d.toList, 0, true⟩ : Numeral).value.render, none, []⟩ := by
  apply Statement.isAlone_of_isExpr
  have h := IsExpr.source (.numeral (isNumeral_digits false hd)) .none []
  simpa [Link.texts] using h

/-- **Lookups by digits.** Digits that spell a number are read with quotes and without. With quotes they
find the element of that number or report it missing. Without quotes so do numbers below 2^63; from there on
the text that is looked up is that of a double. -/
theorem lookup_digits (d : String) (n : UInt64) (hd : IsDigits d.toList)
    (hn : Nat.ofDigitChars 10 d.toList 0 = n.toNat) (line : Nat) :
    ∃ s t, Statement.parse ("g:id(" ++ d ++ ")") line = .ok s ∧
      Statement.parse ("g:id('" ++ d ++ "')") line = .ok t ∧
      (∀ g call scope, t.expr.eval g call scope = g.lookup n d) ∧
      (n < 0x8000000000000000 → ∀ g call scope, s.expr.eval g call scope = g.lookup n (toString n)) ∧
      (0x8000000000000000 ≤ n →
        s.expr = ⟨.lookup (Value.showFloat (Decimal.nearest false n.toNat 0)), none, []⟩) := by
  refine ⟨_, _, parse_lookup_numeral hd line, parse_lookup_quoted hd line,
    Expr.eval_lookup (numberOfText?_of_value hd hn), fun hlt => ?_, fun hle => ?_⟩
  · rw [render_value_of_lt hn hlt]
    exact Expr.eval_lookup (numberOfText?_toString n)
  · rw [value_of_le hn hle]
    rfl

/-- Leading zeros make no difference. -/
theorem lookup_digits_zeros :
    IsDigits "007".toList ∧ Nat.ofDigitChars 10 "007".toList 0 = (7 : UInt64).toNat ∧
      ∃ s t, Statement.parse "g:id(007)" 1 = .ok s ∧ Statement.parse "g:id('007')" 1 = .ok t ∧
        ∀ call scope, s.expr.eval (Graph.empty.run [.addVertexAt 7 "city"]) call scope = .ok [.vertex ⟨7⟩] ∧
          t.expr.eval (Graph.empty.run [.addVertexAt 7 "city"]) call scope = .ok [.vertex ⟨7⟩] := by
  have hd : IsDigits "007".toList := ⟨by decide, List.all_eq_true.1 (by decide +kernel)⟩
  have hn : Nat.ofDigitChars 10 "007".toList 0 = (7 : UInt64).toNat := by decide +kernel
  obtain ⟨s, t, hs, ht, hquoted, hplain, -⟩ := lookup_digits "007" 7 hd hn 1
  exact ⟨hd, hn, s, t, hs, ht, fun call scope =>
    ⟨hplain (by decide) _ call scope, hquoted _ call scope⟩⟩

/-- The largest number is found between quotes only. -/
theorem largest_found_quoted_only :
    ¬ ∀ (d : String) (n : UInt64), IsDigits d.toList → Nat.ofDigitChars 10 d.toList 0 = n.toNat →
      ∀ s t, Statement.parse ("g:id(" ++ d ++ ")") 1 = .ok s → Statement.parse ("g:id('" ++ d ++ "')") 1 = .ok t →
        ∀ g call scope,
          (∃ x, s.expr.eval g call scope = .ok [x] ∧ t.expr.eval g call scope = .ok [x]) ∨
            ∃ i j, s.expr.eval g call scope = .error (.ofFault (.missing (.named i))) ∧
              t.expr.eval g call scope = .error (.ofFault (.missing (.named j))) := by
  intro h
  have hd : IsDigits "18446744073709551615".toList := ⟨by decide, List.all_eq_true.1 (by decide +kernel)⟩
  have hn : Nat.ofDigitChars 10 "18446744073709551615".toList 0 = Graph.largest.toNat := by decide +kernel
  have hplain : Statement.parse "g:id(18446744073709551615)" 1 =
      .ok ⟨1, "g:id(18446744073709551615)", none, ⟨.lookup "18446744073709552000", none, []⟩⟩ := by decide +kernel
  let g := Graph.empty.run [.addVertexAt Graph.largest "city"]
  let call : Invoker := fun _ _ xs => .ok xs
  let scope := Scope.root .empty
  have hfound : (Expr.mk (.lookup "18446744073709551615") none []).eval g call scope =
      .ok [.vertex ⟨Graph.largest⟩] := Expr.eval_lookup (numberOfText?_of_value hd hn) g call scope
  rcases h _ _ hd hn _ _ hplain (parse_lookup_quoted hd 1) g call scope with ⟨x, hx, -⟩ | ⟨i, j, -, hj⟩
  · cases hx
  · cases hfound.symm.trans hj

end Footpath
