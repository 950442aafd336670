import Mathlib

/-! How a number becomes a double.

Rounding shifts a mantissa down to 53 bits, keeps the last bit that it loses and whether there was a one
behind it, and decides by these two. Read with them as one number (`weight`), the mantissa keeps its order
while it is shifted; so rounding keeps the order (`nearest_mono`), and it leaves alone what has 53 bits
(`nearest_exact`). The conversion of a number is such a rounding (`shows_ofNat`), so below `2 ^ 53` different
numbers have different doubles (`eq_of_nearest_eq`). -/
namespace Footpath
open Float.Model Float.Model.UnpackedFloat

/-! ### Shifting -/

/-- A mantissa and its two residual bits, in quarters. -/
def weight (em : ExtendedMantissa) : Nat := 4 * em.mantissa + 2 * em.roundBit.toNat + em.stickyBit.toNat

theorem weight_shiftRightOne (em : ExtendedMantissa) :
    weight em.shiftRightOne = 2 * (weight em / 4) + min 1 (weight em % 4) := by
  obtain ⟨m, r, s⟩ := em
  rcases Nat.mod_two_eq_zero_or_one m with h | h <;> cases r <;> cases s <;>
    simp [weight, ExtendedMantissa.shiftRightOne, h] <;> omega

theorem shiftRight_succ (em : ExtendedMantissa) (k : Nat) : em >>> (k + 1) = (em >>> k).shiftRightOne := rfl

theorem weight_shiftRight_mono {em em' : ExtendedMantissa} (h : weight em ≤ weight em') (k : Nat) :
    weight (em >>> k) ≤ weight (em' >>> k) := by
  induction k with
  | zero => exact h
  | succ k ih =>
    rw [shiftRight_succ, shiftRight_succ, weight_shiftRightOne, weight_shiftRightOne]
    omega

theorem mantissa_shiftRight (em : ExtendedMantissa) (k : Nat) : (em >>> k).mantissa = em.mantissa / 2 ^ k := by
  induction k with
  | zero => exact (Nat.div_one _).symm
  | succ k ih =>
    show (em >>> k).mantissa / 2 = _
    rw [ih, Nat.div_div_eq_div_mul, Nat.pow_succ]

/-- Zeros leave nothing behind. -/
theorem shiftRight_exact (c k : Nat) :
    (⟨c * 2 ^ k, false, false⟩ : ExtendedMantissa) >>> k = ⟨c, false, false⟩ := by
  induction k generalizing c with
  | zero => rw [Nat.pow_zero, Nat.mul_one]; rfl
  | succ k ih =>
    have hhalf : (⟨c * 2, false, false⟩ : ExtendedMantissa).shiftRightOne = ⟨c, false, false⟩ := by
      rw [ExtendedMantissa.shiftRightOne]
      simp
    rw [shiftRight_succ, Nat.pow_succ', ← Nat.mul_assoc, ih, hhalf]

/-! ### Rounding -/

theorem le_roundedMantissa (em : ExtendedMantissa) : em.mantissa ≤ em.roundedMantissa := by
  obtain ⟨m, r, s⟩ := em
  cases r <;> cases s <;>
    simp [ExtendedMantissa.roundedMantissa, ExtendedMantissa.accuracy, Accuracy.roundToNearestEven]

theorem roundedMantissa_le (em : ExtendedMantissa) : em.roundedMantissa ≤ em.mantissa + 1 := by
  obtain ⟨m, r, s⟩ := em
  cases r <;> cases s <;>
    simp [ExtendedMantissa.roundedMantissa, ExtendedMantissa.accuracy, Accuracy.roundToNearestEven]
  omega

theorem roundedMantissa_mono {em em' : ExtendedMantissa} (h : weight em ≤ weight em') :
    em.roundedMantissa ≤ em'.roundedMantissa := by
  obtain ⟨m, r, s⟩ := em
  obtain ⟨m', r', s'⟩ := em'
  cases r <;> cases s <;> cases r' <;> cases s' <;>
    simp [weight, ExtendedMantissa.roundedMantissa, ExtendedMantissa.accuracy, Accuracy.roundToNearestEven] at * <;>
    omega

/-! ### The nearest mantissa of 53 bits -/

/-- `M` cut down to its first 53 bits and rounded. -/
def roundedAt53 (M : Nat) : Nat := ((⟨M, false, false⟩ : ExtendedMantissa) >>> (M.log2 - 52)).roundedMantissa

/-- The number `c · 2 ^ k` nearest to `M` in which `c` has 53 bits, as `k` and `c`; of two such numbers the
one with the lexicographically greater pair is the greater one. -/
def nearest (M : Nat) : Nat ×ₗ Nat :=
  if roundedAt53 M < 2 ^ 53 then toLex (M.log2 - 52, roundedAt53 M) else toLex (M.log2 - 52 + 1, 2 ^ 52)

section
variable {M M' : Nat}

theorem log2_bounds (h : 2 ^ 52 ≤ M) :
    52 ≤ M.log2 ∧ 2 ^ 52 * 2 ^ (M.log2 - 52) ≤ M ∧ M < 2 ^ 53 * 2 ^ (M.log2 - 52) := by
  have hne : M ≠ 0 := by omega
  have hlog : 52 ≤ M.log2 := (Nat.le_log2 hne).2 h
  rw [← Nat.pow_add, ← Nat.pow_add, show 52 + (M.log2 - 52) = M.log2 by omega,
    show 53 + (M.log2 - 52) = M.log2 + 1 by omega]
  exact ⟨hlog, Nat.log2_self_le hne, Nat.lt_log2_self⟩

theorem log2_shifted {c : Nat} (hlow : 2 ^ 52 ≤ c) (hhigh : c < 2 ^ 53) (t : Nat) : (c * 2 ^ t).log2 = 52 + t := by
  have hpos := Nat.two_pow_pos t
  rw [Nat.log2_eq_iff (Nat.mul_ne_zero (by omega) hpos.ne'), Nat.pow_add, show 52 + t + 1 = 53 + t by omega,
    Nat.pow_add]
  exact ⟨Nat.mul_le_mul_right _ hlow, Nat.mul_lt_mul_of_pos_right hhigh hpos⟩

theorem le_roundedAt53 (h : 2 ^ 52 ≤ M) : 2 ^ 52 ≤ roundedAt53 M := by
  obtain ⟨-, hlow, -⟩ := log2_bounds h
  refine le_trans ?_ (le_roundedMantissa _)
  rw [mantissa_shiftRight, Nat.le_div_iff_mul_le (Nat.two_pow_pos _)]
  exact hlow

theorem roundedAt53_le (h : 2 ^ 52 ≤ M) : roundedAt53 M ≤ 2 ^ 53 := by
  obtain ⟨-, -, hhigh⟩ := log2_bounds h
  have hcut : M / 2 ^ (M.log2 - 52) < 2 ^ 53 := by
    rw [Nat.div_lt_iff_lt_mul (Nat.two_pow_pos _)]
    exact hhigh
  have hround := roundedMantissa_le ((⟨M, false, false⟩ : ExtendedMantissa) >>> (M.log2 - 52))
  rw [mantissa_shiftRight] at hround
  exact hround.trans hcut

theorem nearest_bounds (h : 2 ^ 52 ≤ M) :
    2 ^ 52 ≤ (ofLex (nearest M)).2 ∧ (ofLex (nearest M)).2 < 2 ^ 53 := by
  have hlow := le_roundedAt53 h
  rw [nearest]
  split
  · rename_i hlt
    exact ⟨hlow, hlt⟩
  · exact ⟨le_refl _, show 2 ^ 52 < 2 ^ 53 by decide⟩

theorem le_nearest (h : 2 ^ 52 ≤ M) : toLex (M.log2 - 52, 2 ^ 52) ≤ nearest M := by
  have hlow := le_roundedAt53 h
  rw [nearest]
  split
  · exact Prod.Lex.toLex_le_toLex.2 (.inr ⟨rfl, hlow⟩)
  · exact Prod.Lex.toLex_le_toLex.2 (.inl (Nat.lt_succ_self _))

theorem nearest_le (M : Nat) : nearest M ≤ toLex (M.log2 - 52 + 1, 2 ^ 52) := by
  rw [nearest]
  split
  · exact Prod.Lex.toLex_le_toLex.2 (.inl (Nat.lt_succ_self _))
  · exact le_refl _

theorem nearest_fst_le (M : Nat) : (ofLex (nearest M)).1 ≤ M.log2 - 52 + 1 := by
  rw [nearest]
  split
  · exact Nat.le_succ _
  · exact le_refl _

/-- Rounding keeps the order. -/
theorem nearest_mono (h : 2 ^ 52 ≤ M) (hle : M ≤ M') : nearest M ≤ nearest M' := by
  have h' : 2 ^ 52 ≤ M' := h.trans hle
  have hlog : M.log2 ≤ M'.log2 := by
    rw [Nat.log2_eq_log_two, Nat.log2_eq_log_two]
    exact Nat.log_mono_right hle
  rcases hlog.lt_or_eq with hlt | heq
  · -- a power of two lies between
    have hstep : toLex (M.log2 - 52 + 1, 2 ^ 52) ≤ toLex (M'.log2 - 52, 2 ^ 52) := by
      obtain ⟨h52, -, -⟩ := log2_bounds h
      refine Prod.Lex.toLex_le_toLex.2 ?_
      omega
    exact (nearest_le M).trans (hstep.trans (le_nearest h'))
  · have hrounded : roundedAt53 M ≤ roundedAt53 M' := by
      rw [roundedAt53, roundedAt53, heq]
      apply roundedMantissa_mono
      apply weight_shiftRight_mono
      simpa [weight] using hle
    rw [nearest, nearest, heq]
    split
    · split
      · exact Prod.Lex.toLex_le_toLex.2 (.inr ⟨rfl, hrounded⟩)
      · exact Prod.Lex.toLex_le_toLex.2 (.inl (Nat.lt_succ_self _))
    · rw [if_neg (by omega)]

/-- What has 53 bits, apart from zeros behind them, is not changed. -/
theorem nearest_exact {c : Nat} (hlow : 2 ^ 52 ≤ c) (hhigh : c < 2 ^ 53) (t : Nat) :
    nearest (c * 2 ^ t) = toLex (t, c) := by
  have hlog := log2_shifted hlow hhigh t
  have hround : roundedAt53 (c * 2 ^ t) = c := by
    rw [roundedAt53, hlog, Nat.add_sub_cancel_left, shiftRight_exact]
    rfl
  rw [nearest, hround, hlog, Nat.add_sub_cancel_left, if_pos hhigh]

/-! ### Rounded doubles -/

theorem targetExponent_eq (m : Nat) (e : Int) :
    Format.binary64.targetExponent (totalExponent m e) = max (m.log2 + 1 + e - 53) (-1074) := by
  have hmin : Format.binary64.minExponent = -1074 := by decide
  rw [Format.targetExponent, totalExponent, hmin]
  rfl

theorem shiftToTargetExponent_eq (h : 2 ^ 52 ≤ M) {e : Int} (he : -1074 ≤ e) :
    shiftToTargetExponent .binary64 M e .exact =
      ((⟨M, false, false⟩ : ExtendedMantissa) >>> (M.log2 - 52), e + (M.log2 - 52 : Nat)) := by
  obtain ⟨h52, -, -⟩ := log2_bounds h
  have htarget : Format.binary64.targetExponent (totalExponent M e) - e = (M.log2 - 52 : Nat) := by
    rw [targetExponent_eq]
    omega
  rw [shiftToTargetExponent, shiftToExponent, htarget, Int.toNat_natCast]
  rfl

/-- Rounding to a double is going to the nearest number of 53 bits. -/
theorem roundWithAccuracy_eq (sign : Sign) (h : 2 ^ 52 ≤ M) {e : Int} (he : -1074 ≤ e) :
    ∃ hpos, roundWithAccuracy .binary64 sign M e .exact =
      .finite sign (ofLex (nearest M)).2 (e + (ofLex (nearest M)).1) hpos := by
  have hlow := le_roundedAt53 h
  have hround : (((⟨M, false, false⟩ : ExtendedMantissa) >>> (M.log2 - 52)).roundedMantissa) = roundedAt53 M := rfl
  have hagain : shiftToTargetExponent .binary64 (roundedAt53 M) (e + (M.log2 - 52 : Nat)) .exact =
      (⟨(ofLex (nearest M)).2, false, false⟩, e + (ofLex (nearest M)).1) := by
    rw [shiftToTargetExponent_eq hlow (by omega), nearest]
    split
    · rename_i hlt
      have hlog : (roundedAt53 M).log2 = 52 := (Nat.log2_eq_iff (by omega)).2 ⟨hlow, hlt⟩
      rw [hlog]
      exact Prod.ext rfl (Int.add_zero _)
    · have htop : roundedAt53 M = 2 ^ 53 := by
        have := roundedAt53_le h
        omega
      rw [htop, Nat.log2_two_pow]
      refine Prod.ext rfl ?_
      show e + ((M.log2 - 52 : Nat) : Int) + 1 = e + ((M.log2 - 52 + 1 : Nat) : Int)
      omega
  have hpos : 0 < (ofLex (nearest M)).2 := by
    have := (nearest_bounds h).1
    omega
  refine ⟨hpos, ?_⟩
  simp only [roundWithAccuracy, shiftToTargetExponent_eq h he, hround, hagain]
  rw [dif_neg hpos.ne']

end

/-! ### Stored doubles -/

section
variable {c : Nat} (hlow : 2 ^ 52 ≤ c) (hhigh : c < 2 ^ 53)
include hlow hhigh

/-- The leading bit of a mantissa is not stored. -/
theorem toNat_leading_append : (1#1 ++ BitVec.ofNat 52 c).toNat = c := by
  have hor := Nat.two_pow_add_eq_or_of_lt (Nat.mod_lt c (Nat.two_pow_pos 52)) 1
  rw [BitVec.toNat_append, BitVec.toNat_ofNat, BitVec.toNat_ofNat, Nat.shiftLeft_eq, Nat.mul_comm, ← hor]
  omega

theorem pack_finite (sign : Sign) {b : Nat} (hb : b < 2047) (hpos : 0 < c) :
    UnpackedFloat.pack .binary64 (.finite sign c (b - 1075) hpos) =
      packComponents .binary64 sign (BitVec.ofNat 11 b) (BitVec.ofNat 52 c) := by
  have hlog : c.log2 = 52 := (Nat.log2_eq_iff (by omega)).2 ⟨hlow, hhigh⟩
  have hbiased : ((b : Int) - 1075 + Format.binary64.exponentBias + (52 : Nat)).toNat = b := by
    rw [show Format.binary64.exponentBias = 1023 from by decide]
    omega
  rw [UnpackedFloat.pack]
  dsimp only
  rw [hbiased, if_neg (by omega), hlog, if_pos (by decide)]

theorem unpack_components (sign : Sign) {b : Nat} (h0 : 0 < b) (hb : b < 2047) (hpos : 0 < c) :
    UnpackedFloat.unpack .binary64 (packComponents .binary64 sign (BitVec.ofNat 11 b) (BitVec.ofNat 52 c)) =
      .finite sign c (b - 1075) hpos := by
  have hexponent : (BitVec.ofNat 11 b).toNat = b := by
    rw [BitVec.toNat_ofNat, Nat.mod_eq_of_lt (by omega)]
  have hne : ∀ v : BitVec 11, v.toNat ≠ b → BitVec.ofNat 11 b ≠ v := by
    rintro v hv rfl
    exact hv hexponent
  have hmantissa := toNat_leading_append hlow hhigh
  have hmax : (-1#11).toNat = 2047 := by decide
  rw [UnpackedFloat.unpack]
  simp only [unpackExponent_packComponents, unpackMantissa_packComponents, unpackSign_packComponents,
    Sign.ofBitVec_toBitVec]
  rw [if_neg (hne (-1#11) (by omega)), if_neg (hne 0#11 h0.ne)]
  congr 1
  rw [hexponent, show Format.binary64.exponentBias = 1023 from by decide]
  rfl

/-- What has 53 bits and an exponent in range is stored as it is. -/
theorem unpack_pack_finite (sign : Sign) {e : Int} (he : -1074 ≤ e) (he' : e ≤ 971) (hpos : 0 < c) :
    (Float.Model.pack (.finite sign c e hpos)).unpack = .finite sign c e hpos := by
  obtain ⟨b, rfl⟩ : ∃ b : Nat, e = b - 1075 := ⟨(e + 1075).toNat, by omega⟩
  show UnpackedFloat.unpack .binary64 (UnpackedFloat.pack .binary64 (.finite sign c (b - 1075) hpos)) = _
  rw [pack_finite hlow hhigh sign (by omega) hpos, unpack_components hlow hhigh sign (by omega) (by omega) hpos]

end

/-! ### Numbers as doubles -/

/-- The double is `± c · 2 ^ e`, with 53 bits in `c`. -/
structure Shows (x : Float) (sign : Sign) (c : Nat) (e : Int) : Prop where
  low : 2 ^ 52 ≤ c
  high : c < 2 ^ 53
  least : -1074 ≤ e
  greatest : e ≤ 971
  unpack : ∃ hpos, x.toModel.unpack = .finite sign c e hpos

section
variable {n : Nat}

theorem shows_of_rounded {x : Float} {sign : Sign} {M : Nat} {e : Int} (hM : 2 ^ 52 ≤ M) (hM' : M.log2 ≤ 1000)
    (he : -1074 ≤ e) (he' : e ≤ 0)
    (h : x = .ofModel (Float.Model.pack (roundWithAccuracy .binary64 sign M e .exact))) :
    Shows x sign (ofLex (nearest M)).2 (e + (ofLex (nearest M)).1) := by
  obtain ⟨hpos, hround⟩ := roundWithAccuracy_eq sign hM he
  obtain ⟨hlow, hhigh⟩ := nearest_bounds hM
  have hfirst := nearest_fst_le M
  refine ⟨hlow, hhigh, by omega, by omega, hpos, ?_⟩
  rw [h, hround]
  exact unpack_pack_finite hlow hhigh sign (by omega) (by omega) hpos

theorem Shows.neg {x : Float} {c : Nat} {e : Int} (h : Shows x .positive c e) : Shows x.neg .negative c e := by
  obtain ⟨hlow, hhigh, hleast, hgreatest, hpos, hx⟩ := h
  refine ⟨hlow, hhigh, hleast, hgreatest, hpos, ?_⟩
  show (Float.Model.pack x.toModel.unpack.neg).unpack = _
  rw [hx]
  exact unpack_pack_finite hlow hhigh .negative hleast hgreatest hpos

theorem shows_of_exact {x : Float} {sign : Sign} {c k : Nat} {e : Int} (hlow : 2 ^ 52 ≤ c) (hhigh : c < 2 ^ 53)
    (hk : k ≤ 900) (he : -1074 ≤ e) (he' : e ≤ 0)
    (h : x = .ofModel (Float.Model.pack (roundWithAccuracy .binary64 sign (c * 2 ^ k) e .exact))) :
    Shows x sign c (e + k) := by
  have hM : 2 ^ 52 ≤ c * 2 ^ k := hlow.trans (Nat.le_mul_of_pos_right c (Nat.two_pow_pos k))
  have hlog := log2_shifted hlow hhigh k
  have hshows := shows_of_rounded hM (by omega) he he' h
  rw [nearest_exact hlow hhigh k] at hshows
  exact hshows

/-- The number with zeros behind it that fill 53 bits. -/
theorem filled_bounds (h0 : 0 < n) (hn : n < 2 ^ 53) :
    2 ^ 52 ≤ n * 2 ^ (52 - n.log2) ∧ n * 2 ^ (52 - n.log2) < 2 ^ 53 := by
  have hlog : n.log2 < 53 := (Nat.log2_lt h0.ne').2 hn
  have hlow := Nat.mul_le_mul_right (2 ^ (52 - n.log2)) (Nat.log2_self_le h0.ne')
  have hhigh := Nat.mul_lt_mul_of_pos_right (Nat.lt_log2_self (n := n)) (Nat.two_pow_pos (52 - n.log2))
  rw [← Nat.pow_add, show n.log2 + (52 - n.log2) = 52 by omega] at hlow
  rw [← Nat.pow_add, show n.log2 + 1 + (52 - n.log2) = 53 by omega] at hhigh
  exact ⟨hlow, hhigh⟩

theorem shows_toFloat (h0 : 0 < n) (hn : n < 2 ^ 53) :
    Shows n.toUInt64.toFloat .positive (n * 2 ^ (52 - n.log2)) (n.log2 - 52) := by
  obtain ⟨hlow, hhigh⟩ := filled_bounds h0 hn
  have hlog : n.log2 < 53 := (Nat.log2_lt h0.ne').2 hn
  have hnat : n.toUInt64.toNat = n := Nat.mod_eq_of_lt (by omega)
  have hcompare : compare (n : Int) 0 = .gt := compare_gt_iff_gt.2 (by omega)
  have htarget : Format.binary64.targetExponent (totalExponent n 0) = -(52 - n.log2 : Nat) := by
    rw [targetExponent_eq]
    omega
  have hround : UnpackedFloat.normalize .binary64 n 0 .positive =
      roundWithAccuracy .binary64 .positive (n * 2 ^ (52 - n.log2)) (-(52 - n.log2 : Nat)) .exact := by
    rw [UnpackedFloat.normalize, hcompare]
    simp only [UnpackedFloat.round, Int.toNat_natCast, htarget, decreaseExponent, Int.zero_sub, Int.neg_neg,
      Nat.shiftLeft_eq]
  rw [show (n.log2 : Int) - 52 = -(52 - n.log2 : Nat) + (0 : Nat) by omega]
  refine shows_of_exact hlow hhigh (Nat.zero_le _) (by omega) (by omega) ?_
  rw [Nat.pow_zero, Nat.mul_one, ← hround]
  show Float.ofModel (Float.Model.pack (UnpackedFloat.normalize .binary64 n.toUInt64.toNat 0 .positive)) = _
  rw [hnat]

/-- Multiplying by one rounds a double to itself. -/
theorem Shows.mul_one {x : Float} {c : Nat} {e : Int} (h : Shows x .positive c e) (he : -1022 ≤ e) (he' : e ≤ 52) :
    Shows (x * Float.ofBits 0x3FF0000000000000) .positive c e := by
  obtain ⟨hlow, hhigh, -, -, hpos, hx⟩ := h
  have hone : (Float.ofBits 0x3FF0000000000000).toModel.unpack =
      .finite .positive (2 ^ 52) (-52) (Nat.two_pow_pos 52) := rfl
  rw [show e = e + -52 + (52 : Nat) by omega]
  refine shows_of_exact hlow hhigh (by decide) (by omega) (by omega) ?_
  show Float.ofModel (Float.Model.pack (UnpackedFloat.mul .binary64 x.toModel.unpack
    (Float.ofBits 0x3FF0000000000000).toModel.unpack)) = _
  rw [hx, hone]
  rfl

/-- A number that has 53 bits at most is converted and multiplied by one, the first power of ten. -/
theorem shows_ofNat_of_lt (h0 : 0 < n) (hn : n < 2 ^ 53) :
    Shows (Float.ofNat n) .positive (n * 2 ^ (52 - n.log2)) (n.log2 - 52) := by
  have hlog : n.log2 < 53 := (Nat.log2_lt h0.ne').2 hn
  have hproduct : Float.ofNat n = n.toUInt64.toFloat * Float.ofBits 0x3FF0000000000000 := by
    rw [Float.ofNat]
    show Float.ofScientific n false 0 = _
    rw [Float.ofScientific, dif_pos ⟨hn, by decide⟩]
    rfl
  rw [hproduct]
  exact (shows_toFloat h0 hn).mul_one (by omega) (by omega)

/-- A number of more bits is rounded once, with 53 zeros behind it. -/
theorem shows_ofNat_of_ge (hn : 2 ^ 53 ≤ n) (hn' : n < 2 ^ 64) :
    Shows (Float.ofNat n) .positive (ofLex (nearest (n * 2 ^ 53))).2
      (-53 + (ofLex (nearest (n * 2 ^ 53))).1) := by
  have hlog : (n * 2 ^ 53).log2 ≤ 1000 := by
    have : n * 2 ^ 53 < 2 ^ 1001 := by omega
    have := (Nat.log2_lt (by omega)).2 this
    omega
  refine shows_of_rounded (by omega) hlog (by decide) (by decide) ?_
  rw [Float.ofNat]
  show Float.ofScientific n false 0 = _
  rw [Float.ofScientific, dif_neg (by omega)]
  show Float.ofModel (Float.Model.ofScientific n 0) = _
  have hsmall : ¬ (0 : Int) < -((2 ^ Format.binary64.exponentBits : Int) + n.log2) := by
    rw [show (2 ^ Format.binary64.exponentBits : Int) = 2048 from by decide]
    omega
  rw [Float.Model.ofScientific, UnpackedFloat.ofScientific, dif_neg (by omega), if_neg (by decide),
    if_neg hsmall, if_pos (le_refl _), UnpackedFloat.mul, Nat.shiftLeft_eq, Int.toNat_zero, Nat.pow_zero,
    Nat.mul_one]
  rfl

theorem nearest_of_lt (h0 : 0 < n) (hn : n < 2 ^ 53) :
    nearest (n * 2 ^ 53) = toLex (n.log2 + 1, n * 2 ^ (52 - n.log2)) := by
  obtain ⟨hlow, hhigh⟩ := filled_bounds h0 hn
  have hlog : n.log2 < 53 := (Nat.log2_lt h0.ne').2 hn
  have hsplit : n * 2 ^ 53 = n * 2 ^ (52 - n.log2) * 2 ^ (n.log2 + 1) := by
    rw [Nat.mul_assoc, ← Nat.pow_add, show 52 - n.log2 + (n.log2 + 1) = 53 by omega]
  rw [hsplit, nearest_exact hlow hhigh]

/-- The conversion of a number goes to the nearest number of 53 bits. -/
theorem shows_ofNat (h0 : 0 < n) (hn : n < 2 ^ 64) :
    Shows (Float.ofNat n) .positive (ofLex (nearest (n * 2 ^ 53))).2
      (-53 + (ofLex (nearest (n * 2 ^ 53))).1) := by
  rcases lt_or_ge n (2 ^ 53) with hlt | hge
  · have hshows := shows_ofNat_of_lt h0 hlt
    rw [nearest_of_lt h0 hlt]
    show Shows _ _ (n * 2 ^ (52 - n.log2)) (-53 + (n.log2 + 1 : Nat))
    rw [show -53 + ((n.log2 + 1 : Nat) : Int) = n.log2 - 52 by omega]
    exact hshows
  · exact shows_ofNat_of_ge hge hn

/-- Only beyond 53 bits does a number share its double with others. -/
theorem eq_of_nearest_eq {m : Nat} (h0 : 0 < m) (hm : m < 2 ^ 53) (hn : 0 < n)
    (h : nearest (m * 2 ^ 53) = nearest (n * 2 ^ 53)) : m = n := by
  have hlog : m.log2 < 53 := (Nat.log2_lt h0.ne').2 hm
  rw [nearest_of_lt h0 hm] at h
  rcases lt_or_ge n (2 ^ 53) with hlt | hge
  · rw [nearest_of_lt hn hlt] at h
    have hfirst : m.log2 + 1 = n.log2 + 1 := congrArg (fun p => (ofLex p).1) h
    have hsecond : m * 2 ^ (52 - m.log2) = n * 2 ^ (52 - n.log2) := congrArg (fun p => (ofLex p).2) h
    rw [Nat.add_right_cancel hfirst] at hsecond
    exact Nat.mul_right_cancel (Nat.two_pow_pos _) hsecond
  · have hle := le_nearest (show 2 ^ 52 ≤ n * 2 ^ 53 by omega)
    rw [← h] at hle
    have hfar : 106 ≤ (n * 2 ^ 53).log2 := (Nat.le_log2 (by omega)).2 (by omega)
    have hfirst := Prod.Lex.toLex_le_toLex.1 hle
    dsimp only at hfirst
    omega

end

end Footpath
