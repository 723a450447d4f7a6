import Mathlib.Algebra.Order.Field.Power
import Mathlib.Data.Int.Log
import Mathlib.Data.Rat.Floor
import Mathlib.Tactic.FieldSimp
import Mathlib.Tactic.Linarith
import Mathlib.Tactic.NormNum
import Mathlib.Tactic.Positivity
import Swapchain.Number.Binary64

/-!
# Results that need no rounding

A word of the 64-bit format is a significand of 53 bits in a unit that is a power of two. The way
from a rational to the nearest word finds this unit again, so a number of the format is rounded to
itself. Whole numbers of up to 53 bits are such numbers. A number with a fraction is less than
`2 ^ 52` from zero, so it is still one after its fraction is dropped.

* `Binary64.Normal`: a significand and its unit, as the format has them;
* `Binary64.exponent_eq_log`: the unit that is chosen for a quotient;
* `Binary64.round_value`: rounding keeps the numbers of the format;
* `Binary64.Has`: these numbers, closed under `floor`, `ceil`, `least` and `greatest`.
-/

namespace Swapchain

theorem twoPow_eq (e : Int) : twoPow e = 2 ^ e := by
  unfold twoPow
  split
  · rename_i h
    obtain ⟨k, rfl⟩ := Int.eq_ofNat_of_zero_le h
    simp
  · rename_i h
    obtain ⟨k, rfl⟩ : ∃ k : Nat, e = -k := ⟨(-e).toNat, by omega⟩
    simp [Rat.mkRat_eq_div]

namespace Binary64

variable {m n d s : Nat} {e : Int} {q : Rat}

/-! ## Significands -/

/-- A significand and the exponent of its unit as the format has them: the significand has all its
53 bits, unless the unit is the finest. -/
structure Normal (m : Nat) (e : Int) : Prop where
  lt : m < 2 * binadeSize
  finest_le : finestStep ≤ e
  full : binadeSize ≤ m ∨ e = finestStep

/-- The steps from zero to a significand in its unit. -/
def stepsTo (m : Nat) (e : Int) : Nat := (e - finestStep).toNat * binadeSize + m

theorem normal_significand (s : Nat) : Normal (significand s).1 (significand s).2 := by
  unfold significand
  simp only
  split
  · exact ⟨by unfold binadeSize at *; omega, by simp, .inr rfl⟩
  · exact ⟨by unfold binadeSize at *; omega, by simp [finestStep], .inl (by omega)⟩

theorem stepsTo_significand (s : Nat) : stepsTo (significand s).1 (significand s).2 = s := by
  unfold significand stepsTo
  simp only
  split <;> unfold binadeSize at * <;> omega

theorem significand_stepsTo (h : Normal m e) : significand (stepsTo m e) = (m, e) := by
  obtain ⟨hlt, hle, hfull⟩ := h
  unfold significand stepsTo
  simp only
  split <;> unfold binadeSize finestStep at * <;> simp only [Prod.mk.injEq] <;> omega

theorem magnitude_eq (s : Nat) :
    magnitude s = (significand s).1 * 2 ^ (significand s).2 := by
  rw [← twoPow_eq]
  rfl

theorem magnitude_stepsTo (h : Normal m e) : magnitude (stepsTo m e) = m * 2 ^ e := by
  rw [magnitude_eq, significand_stepsTo h]

/-! ## Finding a significand -/

theorem two_zpow_log2 (hn : n ≠ 0) :
    (2 : Rat) ^ (Nat.log2 n : Int) ≤ n ∧ (n : Rat) < 2 ^ ((Nat.log2 n : Int) + 1) :=
  ⟨by exact_mod_cast Nat.log2_self_le hn, by exact_mod_cast Nat.lt_log2_self⟩

/-- The exponent of a quotient is that of its leading bit. -/
theorem exponent_eq_log (hn : n ≠ 0) (hd : d ≠ 0) : exponent n d = Int.log 2 (n / d : Rat) := by
  have hd0 : (0 : Rat) < d := by positivity
  have hq : (0 : Rat) < n / d := by positivity
  obtain ⟨hnl, hnu⟩ := two_zpow_log2 hn
  obtain ⟨hdl, hdu⟩ := two_zpow_log2 hd
  unfold exponent
  generalize (Nat.log2 n : Int) = l at *
  generalize (Nat.log2 d : Int) = k at *
  have hupper : Int.log 2 (n / d : Rat) < l - k + 1 := by
    refine (Int.lt_zpow_iff_log_lt one_lt_two hq).mp ((div_lt_iff₀ hd0).mpr ?_)
    calc (n : Rat) < 2 ^ (l - k + 1) * 2 ^ k := by
          rwa [← zpow_add₀ two_ne_zero, show l - k + 1 + k = l + 1 by omega]
      _ ≤ 2 ^ (l - k + 1) * d := by gcongr
  have hlower : l - k - 1 ≤ Int.log 2 (n / d : Rat) := by
    refine (Int.zpow_le_iff_le_log one_lt_two hq).mp ((le_div_iff₀ hd0).mpr ?_)
    calc (2 : Rat) ^ (l - k - 1) * d ≤ 2 ^ (l - k - 1) * 2 ^ (k + 1) := by gcongr
      _ = 2 ^ l := by rw [← zpow_add₀ two_ne_zero, show l - k - 1 + (k + 1) = l by omega]
      _ ≤ n := hnl
  have hleading : twoPow (l - k) * d ≤ n ↔ l - k ≤ Int.log 2 (n / d : Rat) := by
    rw [twoPow_eq, ← le_div_iff₀ hd0]
    exact Int.zpow_le_iff_le_log one_lt_two hq
  simp only [hleading]
  split <;> omega

theorem divNearest_mul (hd : d ≠ 0) (m : Nat) : divNearest (m * d) d = m := by
  have hpos : 0 < d := by omega
  have hdiv : m * d / d = m := Nat.mul_div_cancel m hpos
  have hmod : m * d % d = 0 := Nat.mul_mod_left ..
  simp only [divNearest, hdiv, hmod]
  split <;> omega

/-- The unit that is chosen for a quotient the format has. -/
theorem unit_eq (h : Normal m e) (hm : m ≠ 0) (hq : q = m * 2 ^ e) :
    max (Int.log 2 q - 52) finestStep = e := by
  have hpos : 0 < q := by
    rw [hq]
    positivity
  have hlt : Int.log 2 q < e + 53 := by
    refine (Int.lt_zpow_iff_log_lt one_lt_two hpos).mp ?_
    have hm53 : (m : Rat) < 2 ^ 53 := by exact_mod_cast h.lt
    calc q = m * 2 ^ e := hq
      _ < 2 ^ (53 : Int) * 2 ^ e := by gcongr; exact_mod_cast hm53
      _ = ((2 : Nat) : Rat) ^ (e + 53) := by
        rw [← zpow_add₀ (by norm_num), Int.add_comm, Nat.cast_ofNat]
  have hfinest := h.finest_le
  rcases h.full with hfull | hfull
  · have hle : e + 52 ≤ Int.log 2 q := by
      refine (Int.zpow_le_iff_le_log one_lt_two hpos).mp ?_
      have hm52 : (2 : Rat) ^ 52 ≤ m := by exact_mod_cast hfull
      calc ((2 : Nat) : Rat) ^ (e + 52) = 2 ^ (52 : Int) * 2 ^ e := by
            rw [← zpow_add₀ (by norm_num), Int.add_comm, Nat.cast_ofNat]
        _ ≤ m * 2 ^ e := by gcongr; exact_mod_cast hm52
        _ = q := hq.symm
    omega
  · omega

/-- A quotient that is a multiple of a unit is divided without a rest, on whichever side the power
of two has to go to. -/
theorem divNearest_unit (hd : d ≠ 0) (hq : (n : Rat) = m * 2 ^ e * d) :
    (if 0 ≤ e then divNearest n (d * Nat.pow 2 e.toNat)
      else divNearest (n * Nat.pow 2 (-e).toNat) d) = m := by
  split
  · rename_i he
    obtain ⟨k, rfl⟩ := Int.eq_ofNat_of_zero_le he
    have hnat : n = m * (d * 2 ^ k) := by
      have hcast : (n : Rat) = (m * (d * 2 ^ k) : Nat) := by
        rw [hq]
        push_cast
        rw [zpow_natCast]
        ring
      exact_mod_cast hcast
    rw [Int.toNat_natCast, hnat]
    exact divNearest_mul (by positivity) m
  · rename_i he
    obtain ⟨k, rfl⟩ : ∃ k : Nat, e = -k := ⟨(-e).toNat, by omega⟩
    have hnat : n * 2 ^ k = m * d := by
      have hcast : ((n * 2 ^ k : Nat) : Rat) = (m * d : Nat) := by
        push_cast
        rw [hq, zpow_neg, zpow_natCast]
        field_simp
      exact_mod_cast hcast
    rw [Int.neg_neg, Int.toNat_natCast]
    exact (congrArg (divNearest · d) hnat).trans (divNearest_mul hd m)

/-- The steps to a quotient that the format has. -/
theorem nearestMagnitude_eq (h : Normal m e) (hn : n ≠ 0) (hd : d ≠ 0)
    (hq : (n / d : Rat) = m * 2 ^ e) (hs : stepsTo m e ≤ infinityBits) :
    nearestMagnitude n d = stepsTo m e := by
  have hd0 : (d : Rat) ≠ 0 := by exact_mod_cast hd
  have hm : m ≠ 0 := by
    rintro rfl
    have hzero : (n : Rat) = 0 := by simpa [hd0] using hq
    exact hn (by exact_mod_cast hzero)
  have hunit := unit_eq h hm hq
  rw [← exponent_eq_log hn hd] at hunit
  have hdiv := divNearest_unit hd ((div_eq_iff hd0).mp hq)
  simp only [nearestMagnitude, if_neg hn, hunit, hdiv]
  exact Nat.min_eq_left hs

/-! ## Words -/

theorem lt_signBit (hs : s < infinityBits) : s < 2 ^ 63 := by
  unfold infinityBits at hs
  omega

theorem toNat_ofMagnitude (b : Bool) (hs : s < infinityBits) :
    (ofMagnitude b s).bits.toNat = (if b then 2 ^ 63 else 0) + s := by
  have hlt := lt_signBit hs
  have hmod : s % 2 ^ 64 = s := Nat.mod_eq_of_lt (by omega)
  cases b with
  | false =>
    simp only [ofMagnitude, Bool.false_eq_true, if_false, UInt64.toNat_or, UInt64.toNat_ofNat', hmod]
    simp
  | true =>
    have hor := Nat.two_pow_add_eq_or_of_lt hlt 1
    rw [Nat.mul_one] at hor
    simp only [ofMagnitude, if_true, UInt64.toNat_or, UInt64.toNat_ofNat', hmod]
    exact hor.symm

theorem steps_ofMagnitude (b : Bool) (hs : s < infinityBits) : (ofMagnitude b s).steps = s := by
  have hlt := lt_signBit hs
  rw [steps, UInt64.toNat_and, toNat_ofMagnitude b hs]
  show _ &&& (2 ^ 63 - 1) = s
  rw [Nat.and_two_pow_sub_one_eq_mod]
  split <;> omega

theorem negative_ofMagnitude (b : Bool) (hs : s < infinityBits) :
    (ofMagnitude b s).negative = b := by
  have hlt := lt_signBit hs
  rw [negative, Bool.eq_iff_iff, beq_iff_eq, ← UInt64.toNat_inj, UInt64.toNat_shiftRight,
    toNat_ofMagnitude b hs, Nat.shiftRight_eq_div_pow]
  cases b <;> simp <;> omega

theorem value_ofMagnitude (b : Bool) (hs : s < infinityBits) :
    (ofMagnitude b s).value = .finite (if b then -magnitude s else magnitude s) := by
  rw [value, steps_ofMagnitude b hs, negative_ofMagnitude b hs, if_neg (by omega),
    if_neg (by omega)]

/-- A word with a number is below the infinity, and the sign is read apart. -/
theorem magnitude_of_value {x : Binary64} (h : x.value = .finite q) :
    x.steps < infinityBits ∧ q = if x.negative then -magnitude x.steps else magnitude x.steps := by
  unfold value at h
  split at h
  · cases h
  · split at h
    · split at h <;> cases h
    · exact ⟨by omega, (Extended.finite.inj h).symm⟩

theorem magnitude_nonneg (s : Nat) : 0 ≤ magnitude s := by
  rw [magnitude_eq]
  positivity

/-- Every number of the format is the nearest to itself. -/
theorem round_value {x : Binary64} (h : x.value = .finite q) : round q = .finite q := by
  obtain ⟨hs, hq⟩ := magnitude_of_value h
  have hmag := magnitude_nonneg x.steps
  have habs : |q| = magnitude x.steps := by
    rw [hq]
    split
    · rw [abs_neg, abs_of_nonneg hmag]
    · rw [abs_of_nonneg hmag]
  by_cases hzero : q = 0
  · subst hzero
    decide +kernel
  · have hquot : (q.num.natAbs / q.den : Rat) = |q| := by
      conv_rhs => rw [← Rat.num_div_den q, abs_div, Nat.abs_cast]
      rw [Nat.cast_natAbs, Int.cast_abs]
    have hnearest : nearestMagnitude q.num.natAbs q.den = x.steps := by
      have hsteps := stepsTo_significand x.steps
      rw [habs, magnitude_eq] at hquot
      exact (nearestMagnitude_eq (normal_significand x.steps) (by simpa using hzero) q.den_nz hquot
        (by omega)).trans hsteps
    rw [round, nearest, hnearest, value_ofMagnitude _ hs, ← habs]
    congr 1
    by_cases hneg : q < 0
    · simp [hneg, abs_of_neg]
    · simp [hneg, abs_of_nonneg (not_lt.mp hneg)]

/-! ## Numbers of the format -/

/-- The numbers that a word stands for. -/
def Has (a : Extended) : Prop := ∃ x : Binary64, x.value = a

theorem Has.round_eq (h : Has (.finite q)) : round q = .finite q := by
  obtain ⟨x, hx⟩ := h
  exact round_value hx

theorem Has.neg (h : Has (.finite q)) : Has (.finite (-q)) := by
  obtain ⟨x, hx⟩ := h
  obtain ⟨hs, rfl⟩ := magnitude_of_value hx
  refine ⟨ofMagnitude (!x.negative) x.steps, ?_⟩
  rw [value_ofMagnitude _ hs]
  cases x.negative <;> simp

theorem has_zero : Has (.finite 0) := ⟨⟨0⟩, by decide +kernel⟩

/-- A whole number of up to 53 bits fills its significand once it is moved up. -/
theorem exists_normal (h0 : n ≠ 0) (hn : n < 2 ^ 53) : ∃ k : Nat, Normal (n * 2 ^ k) (-k) := by
  have hle := Nat.log2_self_le h0
  have hlt := Nat.lt_log2_self (n := n)
  have hlog : Nat.log2 n ≤ 52 := by
    have := (Nat.log2_lt h0).mpr hn
    omega
  obtain ⟨k, hk⟩ := Nat.exists_eq_add_of_le hlog
  have hpow : 2 ^ Nat.log2 n * 2 ^ k = binadeSize := by
    rw [← Nat.pow_add, ← hk]
    rfl
  refine ⟨k, ?_, ?_, .inl ?_⟩
  · calc n * 2 ^ k < 2 ^ (Nat.log2 n + 1) * 2 ^ k := by gcongr
      _ = 2 * binadeSize := by rw [Nat.pow_succ, ← hpow]; ring
  · unfold finestStep
    omega
  · rw [← hpow]
    gcongr

/-- Whole numbers of up to 53 bits are in the format. -/
theorem has_natCast (hn : n < 2 ^ 53) : Has (.finite n) := by
  by_cases h0 : n = 0
  · subst h0
    exact has_zero
  · obtain ⟨k, hnormal⟩ := exists_normal h0 hn
    have hs : stepsTo (n * 2 ^ k) (-k) < infinityBits := by
      have := hnormal.lt
      unfold stepsTo finestStep binadeSize infinityBits at *
      omega
    refine ⟨ofMagnitude false (stepsTo (n * 2 ^ k) (-k)), ?_⟩
    rw [value_ofMagnitude _ hs, magnitude_stepsTo hnormal]
    simp

theorem has_intCast {k : Int} (hk : k.natAbs < 2 ^ 53) : Has (.finite k) := by
  have hnat := has_natCast hk
  obtain ⟨i, rfl | rfl⟩ := k.eq_nat_or_neg
  · simpa using hnat
  · simpa using hnat.neg

theorem has_ofWord (w : UInt32) : Has (.ofWord w) := by
  have := w.toNat_lt
  exact has_natCast (by omega)

/-- A number of the format whose unit is not whole is small. -/
theorem Has.whole_or_small (h : Has (.finite q)) : (∃ k : Int, q = k) ∨ |q| < 2 ^ 52 := by
  obtain ⟨x, hx⟩ := h
  obtain ⟨-, hq⟩ := magnitude_of_value hx
  have hm := (normal_significand x.steps).lt
  rw [magnitude_eq] at hq
  generalize (significand x.steps).1 = m at *
  generalize (significand x.steps).2 = e at *
  by_cases he : 0 ≤ e
  · obtain ⟨k, rfl⟩ := Int.eq_ofNat_of_zero_le he
    refine .inl ⟨if x.negative then -(m * 2 ^ k : Nat) else (m * 2 ^ k : Nat), ?_⟩
    rw [hq]
    split <;> simp
  · have hsmall : (m : Rat) * 2 ^ e < 2 ^ 52 := by
      have hm53 : (m : Rat) < 2 ^ 53 := by exact_mod_cast hm
      calc (m : Rat) * 2 ^ e ≤ m * 2 ^ (-1 : Int) := by
            gcongr
            · exact one_le_two
            · omega
        _ < 2 ^ 53 * 2 ^ (-1 : Int) := by gcongr
        _ = 2 ^ 52 := by norm_num
    refine .inr ?_
    rw [hq]
    split
    · rwa [abs_neg, abs_of_nonneg (by positivity)]
    · rwa [abs_of_nonneg (by positivity)]

/-! ## Operations that need no rounding -/

variable {a b : Extended}

theorem Has.floor (h : Has a) : Has a.floor := by
  cases a with
  | nan | negInf | posInf => exact h
  | finite q =>
    rcases h.whole_or_small with ⟨k, rfl⟩ | hsmall
    · simpa [Extended.floor] using h
    · obtain ⟨hlower, hupper⟩ := abs_lt.mp hsmall
      have hle : q.floor < 2 ^ 52 := by
        have : (q.floor : Rat) < 2 ^ 52 := (Int.floor_le q).trans_lt hupper
        exact_mod_cast this
      have hge : -2 ^ 52 ≤ q.floor := Int.le_floor.mpr (by exact_mod_cast hlower.le)
      exact has_intCast (by omega)

theorem Has.ceil (h : Has a) : Has a.ceil := by
  cases a with
  | nan | negInf | posInf => exact h
  | finite q =>
    have hfloor : Has (.finite (-((-q).floor : Rat))) := h.neg.floor.neg
    rwa [Extended.ceil, Rat.ceil_eq_neg_floor_neg, Int.cast_neg]

theorem Has.least (ha : Has a) (hb : Has b) : Has (a.least b) := by
  unfold Extended.least
  split
  · exact hb
  · exact ha
  · split
    · exact ha
    · exact hb

theorem Has.greatest (ha : Has a) (hb : Has b) : Has (a.greatest b) := by
  unfold Extended.greatest
  split
  · exact hb
  · exact ha
  · split
    · exact hb
    · exact ha

end Binary64
end Swapchain
