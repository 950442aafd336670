import Footpath.Filter
import Footpath.Proofs.Value.Doubles

/-! The order of numbers.

Two integers are compared as they are, any other two numbers as doubles. Each of these is a linear order, and
going from the one to the other keeps it; what may be lost is that two integers differ. So a comparison with a
float in the middle can be wrong about the two integers at its ends, if they have the same double
(`Value.Confused`), and this is the only way in which the comparisons of numbers are no order
(`comparisons_of_numbers`). -/
namespace Footpath

namespace Value

/-- An integer, or a float other than `NaN`. -/
def Numeric : Value → Prop
  | .integer _ => True
  | .float x => x.isNaN = false
  | _ => False

instance : DecidablePred Numeric
  | .integer _ => inferInstanceAs (Decidable True)
  | .float x => inferInstanceAs (Decidable (x.isNaN = false))
  | .boolean _ | .text _ => inferInstanceAs (Decidable False)

/-- The rank of a number as a double. -/
def rank : Value → Rank
  | .integer n => rankOf (Float.ofInt n.toInt)
  | .float x => rankOf x
  | _ => toLex (0, toLex (0, 0))

/-- The order behind the comparisons. -/
def AtMost : Value → Value → Prop
  | .integer m, .integer n => m.toInt ≤ n.toInt
  | a, b => a.rank ≤ b.rank

theorem inRange (n : Int64) : -2 ^ 64 < n.toInt ∧ n.toInt < 2 ^ 64 := by
  have hlow := n.le_toInt
  have hhigh := n.toInt_lt
  omega

theorem isNaN_integer (n : Int64) : (Float.ofInt n.toInt).isNaN = false :=
  isNaN_ofInt (inRange n).1 (inRange n).2

theorem Numeric.cases {v : Value} (h : v.Numeric) :
    (∃ n, v = .integer n) ∨ ∃ x, v = .float x ∧ x.isNaN = false := by
  cases v with
  | boolean _ => cases h
  | integer n => exact .inl ⟨n, rfl⟩
  | float x => exact .inr ⟨x, rfl, h⟩
  | text _ => cases h

/-- Two numbers have an order, which is that behind the comparisons. -/
theorem exists_compare? {a b : Value} (ha : a.Numeric) (hb : b.Numeric) :
    ∃ o, a.compare? b = some o ∧ (o ≠ .gt ↔ a.AtMost b) ∧ (o ≠ .lt ↔ b.AtMost a) := by
  have hfloats : ∀ {x y : Float}, x.isNaN = false → y.isNaN = false →
      ∃ o, compareFloats x y = some o ∧ (o ≠ .gt ↔ rankOf x ≤ rankOf y) ∧
        (o ≠ .lt ↔ rankOf y ≤ rankOf x) :=
    fun hx hy => ⟨_, compareFloats_eq hx hy, compare_le_iff_le, compare_ge_iff_ge⟩
  rcases ha.cases with ⟨m, rfl⟩ | ⟨x, rfl, hx⟩ <;> rcases hb.cases with ⟨n, rfl⟩ | ⟨y, rfl, hy⟩
  · exact ⟨_, rfl, compare_le_iff_le, compare_ge_iff_ge⟩
  · exact hfloats (isNaN_integer m) hy
  · exact hfloats hx (isNaN_integer n)
  · exact hfloats hx hy

end Value

/-! ### The comparisons -/

namespace Comparison

/-- The comparison is defined on the two values, and true. -/
def Holds (op : Comparison) (a b : Value) : Prop := op.compare a b = .ok true

theorem holds_iff {op : Comparison} {a b : Value} :
    op.Holds a b ↔ op.applies a b = true ∧ op.holds (a.compare? b) = true := by
  rw [Holds, compare]
  split
  · rename_i happlies
    rw [Except.ok.injEq, and_iff_right happlies]
  · rename_i happlies
    exact ⟨nofun, fun h => absurd h.1 happlies⟩

instance (op : Comparison) (a b : Value) : Decidable (op.Holds a b) := decidable_of_iff _ holds_iff.symm

section
variable {a b : Value} (ha : a.Numeric) (hb : b.Numeric)
include ha hb

theorem holds_iff_of_numeric {op : Comparison} : op.Holds a b ↔ op.holds (a.compare? b) = true := by
  have happlies : op.applies a b = true := by
    rcases ha.cases with ⟨m, rfl⟩ | ⟨x, rfl, -⟩ <;> rcases hb.cases with ⟨n, rfl⟩ | ⟨y, rfl, -⟩ <;> rfl
  rw [holds_iff, and_iff_right happlies]

theorem holds_le_iff : le.Holds a b ↔ a.AtMost b := by
  obtain ⟨o, ho, hle, -⟩ := Value.exists_compare? ha hb
  rw [holds_iff_of_numeric ha hb, ho, ← hle]
  exact bne_iff_ne

theorem holds_ge_iff : ge.Holds a b ↔ b.AtMost a := by
  obtain ⟨o, ho, -, hge⟩ := Value.exists_compare? ha hb
  rw [holds_iff_of_numeric ha hb, ho, ← hge]
  exact bne_iff_ne

theorem holds_eq_iff : eq.Holds a b ↔ a.AtMost b ∧ b.AtMost a := by
  obtain ⟨o, ho, hle, hge⟩ := Value.exists_compare? ha hb
  rw [holds_iff_of_numeric ha hb, ho, ← hle, ← hge]
  cases o <;> decide

end

end Comparison

/-! ### Laws of the order -/

namespace Value

theorem AtMost.refl (a : Value) : a.AtMost a := by
  cases a with
  | integer n => exact Int.le_refl n.toInt
  | boolean _ | float _ | text _ => exact le_refl (Value.rank _)

/-- Apart from two integers, numbers are in the order of their ranks. -/
theorem atMost_iff {a b : Value} (h : ∀ m n, a = .integer m → b ≠ .integer n) : a.AtMost b ↔ a.rank ≤ b.rank := by
  cases a with
  | integer m =>
    cases b with
    | integer n => exact absurd rfl (h m n rfl)
    | boolean _ | float _ | text _ => exact Iff.rfl
  | boolean _ | float _ | text _ => exact Iff.rfl

/-- Two integers in order have ranks in order. -/
theorem AtMost.rank_le {a b : Value} (h : a.AtMost b) : a.rank ≤ b.rank := by
  by_cases hints : ∃ m n, a = .integer m ∧ b = .integer n
  · obtain ⟨m, n, rfl, rfl⟩ := hints
    exact rankOf_ofInt_mono (inRange m).1 h (inRange n).2
  · push Not at hints
    exact (atMost_iff hints).1 h

theorem AtMost.total (a b : Value) : a.AtMost b ∨ b.AtMost a := by
  by_cases hints : ∃ m n, a = .integer m ∧ b = .integer n
  · obtain ⟨m, n, rfl, rfl⟩ := hints
    exact le_total m.toInt n.toInt
  · push Not at hints
    rw [atMost_iff hints, atMost_iff fun n m hb ha => hints m n ha hb]
    exact le_total a.rank b.rank

/-- Two integers that differ, and a float between them that equals both. They have more than 53 bits. -/
structure Confused (a b c : Value) : Prop where
  ends : ∃ m n : Int64, a = .integer m ∧ c = .integer n ∧ m ≠ n ∧ 2 ^ 53 ≤ m.toInt.natAbs ∧ 2 ^ 53 ≤ n.toInt.natAbs
  middle : ∃ x, b = .float x
  left : Comparison.eq.Holds a b
  right : Comparison.eq.Holds b c

theorem Confused.symm {a b c : Value} (ha : a.Numeric) (hb : b.Numeric) (hc : c.Numeric) (h : a.Confused b c) :
    c.Confused b a := by
  obtain ⟨⟨m, n, hm, hn, hne, hfar, hfar'⟩, hmiddle, hleft, hright⟩ := h
  rw [Comparison.holds_eq_iff ha hb] at hleft
  rw [Comparison.holds_eq_iff hb hc] at hright
  exact ⟨⟨n, m, hn, hm, hne.symm, hfar', hfar⟩, hmiddle, (Comparison.holds_eq_iff hc hb).2 hright.symm,
    (Comparison.holds_eq_iff hb ha).2 hleft.symm⟩

/-- The order is lost only between two integers with a float in the middle. -/
theorem AtMost.trans {a b c : Value} (hab : a.AtMost b) (hbc : b.AtMost c) (hb : b.Numeric) :
    a.AtMost c ∨ a.Confused b c := by
  have hranks := hab.rank_le.trans hbc.rank_le
  by_cases hints : ∃ m n, a = .integer m ∧ c = .integer n
  · obtain ⟨m, n, rfl, rfl⟩ := hints
    rcases hb.cases with ⟨k, rfl⟩ | ⟨x, rfl, hx⟩
    · exact .inl (Int.le_trans hab hbc)
    · rcases le_or_gt m.toInt n.toInt with hle | hlt
      · exact .inl hle
      · -- the greater integer has the lower rank, so all three ranks are one
        have hback : (Value.integer n).rank ≤ (Value.integer m).rank :=
          rankOf_ofInt_mono (inRange n).1 hlt.le (inRange m).2
        have hsame : (Value.integer m).rank = (Value.integer n).rank := le_antisymm hranks hback
        have hfar := far_of_rankOf_eq (inRange m) (inRange n) hsame hlt.ne'
        have hm : (Value.integer m).Numeric := trivial
        have hn : (Value.integer n).Numeric := trivial
        refine .inr ⟨⟨m, n, rfl, rfl, ?_, hfar⟩, ⟨x, rfl⟩, ?_, ?_⟩
        · rintro rfl
          exact lt_irrefl _ hlt
        · exact (Comparison.holds_eq_iff hm hb).2 ⟨hab, hbc.rank_le.trans hback⟩
        · exact (Comparison.holds_eq_iff hb hn).2 ⟨hbc, hback.trans hab.rank_le⟩
  · push Not at hints
    exact .inl ((atMost_iff hints).2 hranks)

end Value

/-- **The order of numbers, as far as it is one.** On integers and floats other than `NaN` the comparisons
`=`, `<=` and `>=` are those of a preorder, by which any two are in order and `=` is being so both ways; but a
float does not always pass them on from an integer to another one, where it equals both and they differ. Such
integers are not below `2 ^ 53` in size. -/
theorem comparisons_of_numbers (a b c : Value) (ha : a.Numeric) (hb : b.Numeric) (hc : c.Numeric) :
    Comparison.eq.Holds a a ∧
    (Comparison.eq.Holds a b → Comparison.eq.Holds b a) ∧
    (Comparison.eq.Holds a b ↔ Comparison.le.Holds a b ∧ Comparison.ge.Holds a b) ∧
    (Comparison.le.Holds a b ↔ Comparison.ge.Holds b a) ∧
    (Comparison.le.Holds a b ∨ Comparison.ge.Holds a b) ∧
    (∀ op : Comparison, op = .eq ∨ op = .le ∨ op = .ge → op.Holds a b → op.Holds b c → op.Holds a c ∨ a.Confused b c) ∧
    (a.Confused b c → ¬ Comparison.eq.Holds a c) := by
  have hle := Comparison.holds_le_iff ha hb
  have hge := Comparison.holds_ge_iff ha hb
  have heq := Comparison.holds_eq_iff ha hb
  refine ⟨(Comparison.holds_eq_iff ha ha).2 ⟨.refl a, .refl a⟩, fun h => ?_, ?_, ?_, ?_, ?_, fun h hsame => ?_⟩
  · exact (Comparison.holds_eq_iff hb ha).2 (heq.1 h).symm
  · rw [heq, hle, hge]
  · rw [hle, Comparison.holds_ge_iff hb ha]
  · rw [hle, hge]
    exact Value.AtMost.total a b
  · rintro op (rfl | rfl | rfl) hab hbc
    · rw [heq] at hab
      rw [Comparison.holds_eq_iff hb hc] at hbc
      rw [Comparison.holds_eq_iff ha hc]
      rcases hab.1.trans hbc.1 hb with hac | hconfused
      · exact (hbc.2.trans hab.2 hb).imp (⟨hac, ·⟩) (.symm hc hb ha)
      · exact .inr hconfused
    · rw [hle] at hab
      rw [Comparison.holds_le_iff hb hc] at hbc
      rw [Comparison.holds_le_iff ha hc]
      exact hab.trans hbc hb
    · rw [hge] at hab
      rw [Comparison.holds_ge_iff hb hc] at hbc
      rw [Comparison.holds_ge_iff ha hc]
      exact (hbc.trans hab hb).imp_right (.symm hc hb ha)
  · obtain ⟨m, n, rfl, rfl, hne, -⟩ := h.ends
    have horder := (Comparison.holds_eq_iff ha hc).1 hsame
    exact hne (Int64.toInt_inj.1 (le_antisymm horder.1 horder.2))

/-- Up to an integer of 54 bits the order goes by the float below it. -/
theorem comparisons_of_numbers_near :
    Comparison.le.Holds (.integer 9007199254740991) (.float 9007199254740992.0) ∧
      Comparison.le.Holds (.float 9007199254740992.0) (.integer 9007199254740993) ∧
      Comparison.le.Holds (.integer 9007199254740991) (.integer 9007199254740993) := by
  have ha : (Value.integer 9007199254740991).Numeric := by decide
  have hb : (Value.float 9007199254740992.0).Numeric := by decide +kernel
  have hc : (Value.integer 9007199254740993).Numeric := by decide
  have hab : Comparison.le.Holds (.integer 9007199254740991) (.float 9007199254740992.0) := by decide +kernel
  have hbc : Comparison.le.Holds (.float 9007199254740992.0) (.integer 9007199254740993) := by decide +kernel
  obtain ⟨-, -, -, -, -, htrans, -⟩ := comparisons_of_numbers _ _ _ ha hb hc
  refine ⟨hab, hbc, (htrans .le (.inr (.inl rfl)) hab hbc).resolve_right fun h => ?_⟩
  obtain ⟨m, n, hm, -, -, hfar, -⟩ := h.ends
  cases hm
  exact absurd hfar (by decide)

/-- Beyond 53 bits a float may equal two integers. -/
theorem float_equals_two_integers :
    Comparison.eq.Holds (.integer 9007199254740993) (.float 9007199254740992.0) ∧
      Comparison.eq.Holds (.float 9007199254740992.0) (.integer 9007199254740992) ∧
      ¬ Comparison.eq.Holds (.integer 9007199254740993) (.integer 9007199254740992) := by
  decide +kernel

end Footpath
