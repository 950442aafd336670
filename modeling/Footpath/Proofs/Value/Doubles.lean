import Footpath.Value
import Footpath.Proofs.Value.Rounding

/-! The order of the doubles, and the integers among them.

Apart from `NaN` the doubles are compared by their rank in a linear order: by sign, then by exponent, then by
mantissa (`compareFloats_eq`). Integers keep their order when they become doubles (`rankOf_ofInt_mono`), and
those below `2 ^ 53` are not confused with others (`far_of_rankOf_eq`). -/
namespace Footpath
open Float.Model Float.Model.UnpackedFloat

/-! ### Ranks -/

/-- A sign, and an exponent and a mantissa with that sign. -/
abbrev Rank := ℤ ×ₗ (ℤ ×ₗ ℤ)

def negated (p : ℤ ×ₗ ℤ) : ℤ ×ₗ ℤ := toLex (-(ofLex p).1, -(ofLex p).2)

theorem negated_mono {p q : ℤ ×ₗ ℤ} (h : p ≤ q) : negated q ≤ negated p := by
  rw [Prod.Lex.le_iff] at h
  rw [negated, negated, Prod.Lex.toLex_le_toLex]
  dsimp only
  omega

theorem negated_inj {p q : ℤ ×ₗ ℤ} (h : negated p = negated q) : p = q := by
  rw [negated, negated, toLex_inj, Prod.mk.injEq] at h
  exact Prod.ext (show (ofLex p).1 = (ofLex q).1 by omega) (show (ofLex p).2 = (ofLex q).2 by omega)

/-- The rank of what has a sign, an exponent and a mantissa. -/
def signedRank : Sign → ℤ ×ₗ ℤ → Rank
  | .positive, p => toLex (1, p)
  | .negative, p => toLex (-1, negated p)

/-- Where a double stands. That of no number means nothing. -/
def rank : UnpackedFloat → Rank
  | .infinity .positive => toLex (2, toLex (0, 0))
  | .finite sign c e _ => signedRank sign (toLex (e, (c : ℤ)))
  | .zero _ => toLex (0, toLex (0, 0))
  | .infinity .negative => toLex (-2, toLex (0, 0))
  | .notANumber => toLex (0, toLex (0, 0))

theorem compare_natCast (a b : ℕ) : compare (a : ℤ) b = compare a b := by
  rw [LinearOrder.compare_eq_compareOfLessAndEq, LinearOrder.compare_eq_compareOfLessAndEq, compareOfLessAndEq,
    compareOfLessAndEq]
  simp only [Int.ofNat_lt, Int.natCast_inj]

theorem compare_neg (a b : ℤ) : compare (-a) (-b) = (compare a b).swap := by
  rw [Int.compare_swap, LinearOrder.compare_eq_compareOfLessAndEq, LinearOrder.compare_eq_compareOfLessAndEq,
    compareOfLessAndEq, compareOfLessAndEq]
  simp only [Int.neg_lt_neg_iff, Int.neg_inj, eq_comm]

theorem compare_toLex (s e c s' e' c' : ℤ) :
    compare (toLex (s, toLex (e, c))) (toLex (s', toLex (e', c'))) =
      (compare s s').then ((compare e e').then (compare c c')) := by
  rw [Prod.Lex.compare_def]
  rfl

theorem compare_finite (sign : Sign) (c d : Nat) (e f : Int) (hc hd) :
    UnpackedFloat.compare (.finite sign c e hc) (.finite sign d f hd) =
      some (compare (signedRank sign (toLex (e, (c : ℤ)))) (signedRank sign (toLex (f, (d : ℤ))))) := by
  cases sign with
  | positive =>
    rw [signedRank, signedRank, compare_toLex, compare_natCast]
    rfl
  | negative =>
    rw [signedRank, signedRank, negated, negated, compare_toLex, ofLex_toLex, ofLex_toLex, compare_neg e f,
      compare_neg (c : ℤ) d, compare_natCast, ← Ordering.swap_then]
    rfl

theorem compare_rank {a b : UnpackedFloat} (ha : a ≠ .notANumber) (hb : b ≠ .notANumber) :
    a.compare b = some (compare (rank a) (rank b)) := by
  -- between two kinds the sign decides
  rcases a with (_ | _) | _ | _ | ⟨_ | _, c, e, hc⟩ <;> rcases b with (_ | _) | _ | _ | ⟨_ | _, d, f, hd⟩ <;>
    first | exact absurd rfl ha | exact absurd rfl hb | exact compare_finite _ _ _ _ _ _ _ | rfl

/-! ### Comparing doubles -/

section
variable {x y : Float}

def rankOf (x : Float) : Rank := rank x.toModel.unpack

theorem unpack_ne_of_isNaN (h : x.isNaN = false) : x.toModel.unpack ≠ .notANumber := by
  intro hnan
  have : x.isNaN = true := by
    show x.toModel.unpack.isNaN = true
    rw [hnan]
    rfl
  rw [h] at this
  cases this

theorem lt_iff_compare : x < y ↔ x.toModel.unpack.compare y.toModel.unpack = some .lt := by
  show decide ((x.toModel.unpack.compare y.toModel.unpack == some .lt) = true) = true ↔ _
  rw [decide_eq_true_eq, beq_iff_eq]

theorem beq_iff_compare : (x == y) = true ↔ x.toModel.unpack.compare y.toModel.unpack = some .eq := by
  show (x.toModel.unpack.compare y.toModel.unpack == some .eq) = true ↔ _
  rw [beq_iff_eq]

theorem compareFloats_eq (hx : x.isNaN = false) (hy : y.isNaN = false) :
    Value.compareFloats x y = some (compare (rankOf x) (rankOf y)) := by
  have hxy := compare_rank (unpack_ne_of_isNaN hx) (unpack_ne_of_isNaN hy)
  have hyx := compare_rank (unpack_ne_of_isNaN hy) (unpack_ne_of_isNaN hx)
  have hlt : x < y ↔ rankOf x < rankOf y := by
    rw [lt_iff_compare, hxy, Option.some.injEq, compare_lt_iff_lt]
    rfl
  have hgt : y < x ↔ rankOf y < rankOf x := by
    rw [lt_iff_compare, hyx, Option.some.injEq, compare_lt_iff_lt]
    rfl
  have heq : (x == y) = true ↔ rankOf x = rankOf y := by
    rw [beq_iff_compare, hxy, Option.some.injEq, compare_eq_iff_eq]
    rfl
  rw [Value.compareFloats]
  rcases lt_trichotomy (rankOf x) (rankOf y) with h | h | h
  · rw [if_pos (hlt.2 h), compare_lt_iff_lt.2 h]
  · rw [if_neg (mt hlt.1 h.not_lt), if_neg (mt hgt.1 h.not_gt), if_pos (heq.2 h), compare_eq_iff_eq.2 h]
  · rw [if_neg (mt hlt.1 h.not_gt), if_pos (hgt.2 h), compare_gt_iff_gt.2 h]

end

/-! ### Integers as doubles -/

/-- What `nearest` says of `n · 2 ^ 53`, for `n`. -/
def placed (p : ℕ ×ₗ ℕ) : ℤ ×ₗ ℤ := toLex (-53 + ((ofLex p).1 : ℤ), ((ofLex p).2 : ℤ))

theorem placed_mono {p q : ℕ ×ₗ ℕ} (h : p ≤ q) : placed p ≤ placed q := by
  rw [Prod.Lex.le_iff] at h
  rw [placed, placed, Prod.Lex.toLex_le_toLex]
  dsimp only
  omega

theorem placed_inj {p q : ℕ ×ₗ ℕ} (h : placed p = placed q) : p = q := by
  rw [placed, placed, toLex_inj, Prod.mk.injEq] at h
  exact Prod.ext (show (ofLex p).1 = (ofLex q).1 by omega) (show (ofLex p).2 = (ofLex q).2 by omega)

/-- The exponent and the mantissa that a number has as a double. -/
def magnitude (n : Nat) : ℤ ×ₗ ℤ := placed (nearest (n * 2 ^ 53))

theorem magnitude_mono {m n : Nat} (h0 : 0 < m) (h : m ≤ n) : magnitude m ≤ magnitude n :=
  placed_mono (nearest_mono (by omega) (Nat.mul_le_mul_right (2 ^ 53) h))

theorem far_of_magnitude_eq {m n : Nat} (hm : 0 < m) (hn : 0 < n) (h : magnitude m = magnitude n) (hne : m ≠ n) :
    2 ^ 53 ≤ m ∧ 2 ^ 53 ≤ n := by
  have hnearest := placed_inj h
  constructor
  · by_contra hlt
    exact hne (eq_of_nearest_eq hm (not_le.1 hlt) hn hnearest)
  · by_contra hlt
    exact hne (eq_of_nearest_eq hn (not_le.1 hlt) hm hnearest.symm).symm

theorem Shows.rankOf {x : Float} {sign : Sign} {c : Nat} {e : Int} (h : Shows x sign c e) :
    rankOf x = signedRank sign (toLex (e, (c : ℤ))) := by
  obtain ⟨hpos, hx⟩ := h.unpack
  rw [Footpath.rankOf, hx, rank]

section
variable {n : ℤ}

theorem shows_ofInt_of_pos (h0 : 0 < n) (hn : n < 2 ^ 64) :
    Shows (Float.ofInt n) .positive (ofLex (nearest (n.natAbs * 2 ^ 53))).2
      (-53 + (ofLex (nearest (n.natAbs * 2 ^ 53))).1) := by
  obtain ⟨k, rfl⟩ := Int.eq_ofNat_of_zero_le h0.le
  rw [Int.natAbs_natCast]
  exact shows_ofNat (by omega) (by omega)

theorem shows_ofInt_of_neg (h0 : n < 0) (hn : -2 ^ 64 < n) :
    Shows (Float.ofInt n) .negative (ofLex (nearest (n.natAbs * 2 ^ 53))).2
      (-53 + (ofLex (nearest (n.natAbs * 2 ^ 53))).1) := by
  obtain ⟨k, rfl⟩ := Int.eq_negSucc_of_lt_zero h0
  exact (shows_ofNat (Nat.succ_pos k) (by omega)).neg

theorem rankOf_ofInt_of_pos (h0 : 0 < n) (hn : n < 2 ^ 64) :
    rankOf (Float.ofInt n) = signedRank .positive (magnitude n.natAbs) := (shows_ofInt_of_pos h0 hn).rankOf

theorem rankOf_ofInt_of_neg (h0 : n < 0) (hn : -2 ^ 64 < n) :
    rankOf (Float.ofInt n) = signedRank .negative (magnitude n.natAbs) := (shows_ofInt_of_neg h0 hn).rankOf

theorem isNaN_ofInt (hlow : -2 ^ 64 < n) (hhigh : n < 2 ^ 64) : (Float.ofInt n).isNaN = false := by
  show (Float.ofInt n).toModel.unpack.isNaN = false
  rcases lt_trichotomy n 0 with h | rfl | h
  · obtain ⟨hpos, hn⟩ := (shows_ofInt_of_neg h hlow).unpack
    rw [hn]
    rfl
  · rfl
  · obtain ⟨hpos, hn⟩ := (shows_ofInt_of_pos h hhigh).unpack
    rw [hn]
    rfl

theorem sign_rankOf_ofInt (hlow : -2 ^ 64 < n) (hhigh : n < 2 ^ 64) :
    (ofLex (rankOf (Float.ofInt n))).1 = if n < 0 then -1 else if n = 0 then 0 else 1 := by
  rcases lt_trichotomy n 0 with h | rfl | h
  · rw [rankOf_ofInt_of_neg h hlow, if_pos h]
    rfl
  · rfl
  · rw [rankOf_ofInt_of_pos h hhigh, if_neg h.not_gt, if_neg h.ne']
    rfl

/-- Integers keep their order. -/
theorem rankOf_ofInt_mono {m : ℤ} (hlow : -2 ^ 64 < m) (hle : m ≤ n) (hhigh : n < 2 ^ 64) :
    rankOf (Float.ofInt m) ≤ rankOf (Float.ofInt n) := by
  have hm := sign_rankOf_ofInt hlow (hle.trans_lt hhigh)
  have hn := sign_rankOf_ofInt (hlow.trans_le hle) hhigh
  have hsides : (ofLex (rankOf (Float.ofInt m))).1 < (ofLex (rankOf (Float.ofInt n))).1 ∨
      n < 0 ∨ m = n ∨ 0 < m := by
    omega
  rcases hsides with hsign | hn | rfl | hm
  · exact Prod.Lex.le_iff.2 (.inl hsign)
  · have hmagnitude := magnitude_mono (show 0 < n.natAbs by omega) (show n.natAbs ≤ m.natAbs by omega)
    rw [rankOf_ofInt_of_neg (by omega) hlow, rankOf_ofInt_of_neg hn (by omega)]
    exact Prod.Lex.toLex_le_toLex.2 (.inr ⟨rfl, negated_mono hmagnitude⟩)
  · exact le_refl _
  · have hmagnitude := magnitude_mono (show 0 < m.natAbs by omega) (show m.natAbs ≤ n.natAbs by omega)
    rw [rankOf_ofInt_of_pos hm (by omega), rankOf_ofInt_of_pos (by omega) hhigh]
    exact Prod.Lex.toLex_le_toLex.2 (.inr ⟨rfl, hmagnitude⟩)

/-- Two integers with the same double have at least 54 bits each. -/
theorem far_of_rankOf_eq {m : ℤ} (hm : -2 ^ 64 < m ∧ m < 2 ^ 64) (hn : -2 ^ 64 < n ∧ n < 2 ^ 64)
    (h : rankOf (Float.ofInt m) = rankOf (Float.ofInt n)) (hne : m ≠ n) :
    2 ^ 53 ≤ m.natAbs ∧ 2 ^ 53 ≤ n.natAbs := by
  have hsign := (sign_rankOf_ofInt hm.1 hm.2).symm.trans (h ▸ sign_rankOf_ofInt hn.1 hn.2)
  have hsides : m < 0 ∧ n < 0 ∨ 0 < m ∧ 0 < n := by
    omega
  have hmagnitude : magnitude m.natAbs = magnitude n.natAbs := by
    rcases hsides with ⟨hm0, hn0⟩ | ⟨hm0, hn0⟩
    · rw [rankOf_ofInt_of_neg hm0 hm.1, rankOf_ofInt_of_neg hn0 hn.1, signedRank, signedRank, toLex_inj,
        Prod.mk.injEq] at h
      exact negated_inj h.2
    · rw [rankOf_ofInt_of_pos hm0 hm.2, rankOf_ofInt_of_pos hn0 hn.2, signedRank, signedRank, toLex_inj,
        Prod.mk.injEq] at h
      exact h.2
  exact far_of_magnitude_eq (by omega) (by omega) hmagnitude (by omega)

end

end Footpath
