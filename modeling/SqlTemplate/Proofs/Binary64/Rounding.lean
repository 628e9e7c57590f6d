import Mathlib.Data.Nat.Cast.Order.Field
import Mathlib.Tactic.Linarith
import SqlTemplate.Proofs.Numeral.Value

/-!
# Rounding to the nearest binary number

The codes of magnitudes go on past the code of the infinities, as if exponents had no end. On these
codes magnitudes grow strictly, so the nearest one to a number is one of its two neighbours, and a
tie goes to the even code. What is rounded to the code of the infinities, or past it, is rounded to
an infinity: these are the numbers that are at least as near to `2 ^ 1024` as to the largest finite
magnitude. Quotients and decimal numbers are both rounded like this.
-/
namespace SqlTemplate.Binary64

/-- A binade holds the multiples of a power of two between `stepsPerPower` and twice as many; the
first one begins at zero. -/
theorem units_binade {k m : ℕ} (hm : m ≤ 2 * stepsPerPower) (hk : k = 0 ∨ stepsPerPower ≤ m) :
    units (k * stepsPerPower + m) = m * 2 ^ k := by
  have hpos : 0 < stepsPerPower := by decide
  unfold units
  split_ifs with hsmall
  · obtain rfl : k = 0 := by
      by_contra hne
      have := Nat.le_mul_of_pos_left stepsPerPower (Nat.pos_of_ne_zero hne)
      omega
    simp
  · have hlow : stepsPerPower ≤ m := by
      obtain rfl | h := hk
      · omega
      · exact h
    obtain hlt | rfl : m < 2 * stepsPerPower ∨ m = 2 * stepsPerPower := by omega
    · have hcode : k * stepsPerPower + m = (m - stepsPerPower) + stepsPerPower * (k + 1) := by
        have : m = m - stepsPerPower + stepsPerPower := by omega
        calc k * stepsPerPower + m = k * stepsPerPower + (m - stepsPerPower + stepsPerPower) := by
              rw [← this]
          _ = (m - stepsPerPower) + stepsPerPower * (k + 1) := by ring
      have hrest : m - stepsPerPower < stepsPerPower := by omega
      rw [hcode, Nat.add_mul_mod_self_left, Nat.mod_eq_of_lt hrest, Nat.add_mul_div_left _ _ hpos,
        Nat.div_eq_of_lt hrest, Nat.pow_eq, Nat.zero_add, Nat.add_sub_cancel,
        Nat.add_sub_cancel' hlow]
    · have hcode : k * stepsPerPower + 2 * stepsPerPower = stepsPerPower * (k + 2) := by ring
      rw [hcode, Nat.mul_mod_right, Nat.mul_div_cancel_left _ hpos, Nat.pow_eq]
      have hexponent : k + 2 - 1 = k + 1 := by omega
      rw [hexponent, pow_succ]
      ring

/-- Every code lies in a binade, below its end. -/
theorem exists_binade (code : ℕ) :
    ∃ k m, code = k * stepsPerPower + m ∧ m < 2 * stepsPerPower ∧ (k = 0 ∨ stepsPerPower ≤ m) := by
  have hpos : 0 < stepsPerPower := by decide
  obtain hsmall | hlarge := Nat.lt_or_ge code stepsPerPower
  · exact ⟨0, code, by omega, by omega, .inl rfl⟩
  · obtain ⟨k, hk⟩ : ∃ k, code / stepsPerPower = k + 1 :=
      Nat.exists_eq_succ_of_ne_zero (Nat.div_pos hlarge hpos).ne'
    have hmod := Nat.mod_lt code hpos
    refine ⟨k, stepsPerPower + code % stepsPerPower, ?_, by omega, .inr (by omega)⟩
    have hsplit := Nat.div_add_mod code stepsPerPower
    rw [hk] at hsplit
    calc code = stepsPerPower * (k + 1) + code % stepsPerPower := hsplit.symm
      _ = k * stepsPerPower + (stepsPerPower + code % stepsPerPower) := by ring

theorem strictMono_units : StrictMono units := by
  refine strictMono_nat_of_lt_succ fun code => ?_
  obtain ⟨k, m, rfl, hm, hk⟩ := exists_binade code
  rw [units_binade hm.le hk, Nat.add_assoc, units_binade (by omega) (by omega)]
  exact Nat.mul_lt_mul_of_pos_right (by omega) (by positivity)

theorem strictMono_magnitude : StrictMono magnitude := by
  intro a b hab
  rw [magnitude_eq, magnitude_eq]
  exact div_lt_div_of_pos_right (Nat.cast_lt.mpr (strictMono_units hab))
    (Nat.cast_pos.mpr unitsPerOne_pos)

theorem magnitude_zero : magnitude 0 = 0 := by
  simp [magnitude]

/-- No magnitude is nearer to a number than that of a code, and if another one is as near, the code
is even. -/
structure IsNearest (code : ℕ) (q : ℚ) : Prop where
  nearest : ∀ other, |magnitude code - q| ≤ |magnitude other - q|
  even : ∀ other, other ≠ code → |magnitude other - q| = |magnitude code - q| → code % 2 = 0

section Neighbours

variable {lower other : ℕ} {q : ℚ}

/-- From the lower neighbour of a number downwards, magnitudes get farther from it. -/
theorem le_distance_of_le (hlower : magnitude lower ≤ q) (h : other ≤ lower) :
    q - magnitude lower ≤ |magnitude other - q| ∧
      (|magnitude other - q| = q - magnitude lower → other = lower) := by
  have hle := strictMono_magnitude.monotone h
  rw [abs_sub_comm, abs_of_nonneg (by linarith)]
  exact ⟨by linarith, fun heq => strictMono_magnitude.injective (by linarith)⟩

/-- From the upper neighbour of a number upwards, magnitudes get farther from it. -/
theorem le_distance_of_lt (hupper : q ≤ magnitude (lower + 1)) (h : lower < other) :
    magnitude (lower + 1) - q ≤ |magnitude other - q| ∧
      (|magnitude other - q| = magnitude (lower + 1) - q → other = lower + 1) := by
  have hle := strictMono_magnitude.monotone (Nat.succ_le_of_lt h)
  rw [abs_of_nonneg (by linarith)]
  exact ⟨by linarith, fun heq => strictMono_magnitude.injective (by linarith)⟩

theorem isNearest_lower (hlower : magnitude lower ≤ q) (hupper : q ≤ magnitude (lower + 1))
    (h : q - magnitude lower ≤ magnitude (lower + 1) - q)
    (heven : q - magnitude lower = magnitude (lower + 1) - q → lower % 2 = 0) :
    IsNearest lower q := by
  have hdistance : |magnitude lower - q| = q - magnitude lower := by
    rw [abs_sub_comm, abs_of_nonneg (by linarith)]
  constructor
  · intro other
    rw [hdistance]
    obtain hle | hlt := le_or_gt other lower
    · exact (le_distance_of_le hlower hle).1
    · exact h.trans (le_distance_of_lt hupper hlt).1
  · intro other hne heq
    rw [hdistance] at heq
    obtain hle | hlt := le_or_gt other lower
    · exact absurd ((le_distance_of_le hlower hle).2 heq) hne
    · exact heven (le_antisymm h (heq ▸ (le_distance_of_lt hupper hlt).1))

theorem isNearest_upper (hlower : magnitude lower ≤ q) (hupper : q ≤ magnitude (lower + 1))
    (h : magnitude (lower + 1) - q ≤ q - magnitude lower)
    (heven : q - magnitude lower = magnitude (lower + 1) - q → (lower + 1) % 2 = 0) :
    IsNearest (lower + 1) q := by
  have hdistance : |magnitude (lower + 1) - q| = magnitude (lower + 1) - q :=
    abs_of_nonneg (by linarith)
  constructor
  · intro other
    rw [hdistance]
    obtain hle | hlt := le_or_gt other lower
    · exact h.trans (le_distance_of_le hlower hle).1
    · exact (le_distance_of_lt hupper hlt).1
  · intro other hne heq
    rw [hdistance] at heq
    obtain hle | hlt := le_or_gt other lower
    · exact heven (le_antisymm (heq ▸ (le_distance_of_le hlower hle).1) h)
    · exact absurd ((le_distance_of_lt hupper hlt).2 heq) hne

/-- A number between two neighbours goes to the nearer one, or to the even one from the middle. Its
distances from them are `r` and `d - r` parts of some length. -/
theorem isNearest_neighbour {length : ℚ} {r d : ℕ} (hlength : 0 < length) (hr : r ≤ d)
    (hlower : q - magnitude lower = r * length)
    (hupper : magnitude (lower + 1) - q = (d - r) * length) :
    IsNearest (lower + if 2 * r < d then 0 else if d < 2 * r then 1 else lower % 2) q := by
  have hle : q - magnitude lower ≤ magnitude (lower + 1) - q ↔ 2 * r ≤ d := by
    rw [hlower, hupper, mul_le_mul_iff_of_pos_right hlength, le_sub_iff_add_le, ← two_mul]
    exact_mod_cast Iff.rfl
  have hge : magnitude (lower + 1) - q ≤ q - magnitude lower ↔ d ≤ 2 * r := by
    rw [hlower, hupper, mul_le_mul_iff_of_pos_right hlength, sub_le_iff_le_add, ← two_mul]
    exact_mod_cast Iff.rfl
  have hfrom : magnitude lower ≤ q := sub_nonneg.mp (hlower ▸ by positivity)
  have hto : q ≤ magnitude (lower + 1) := by
    have hrest : (0 : ℚ) ≤ d - r := sub_nonneg.mpr (Nat.cast_le.mpr hr)
    exact sub_nonneg.mp (hupper ▸ by positivity)
  split_ifs with hbelow habove
  · exact isNearest_lower hfrom hto (hle.mpr hbelow.le) fun heq => by
      have := hge.mp heq.ge
      omega
  · exact isNearest_upper hfrom hto (hge.mpr habove.le) fun heq => by
      have := hle.mp heq.le
      omega
  · obtain heven | hodd := Nat.mod_two_eq_zero_or_one lower
    · rw [heven]
      exact isNearest_lower hfrom hto (hle.mpr (by omega)) fun _ => heven
    · rw [hodd]
      exact isNearest_upper hfrom hto (hge.mpr (by omega)) fun _ => by omega

end Neighbours

/-- The binade of a quotient: with the power of two that its logarithm gives, the quotient has the
number of units that the binade asks for. -/
theorem quotient_binade (n d : ℕ) :
    let k := (n / d).log2 - 52
    n / (d * 2 ^ k) < 2 * stepsPerPower ∧ (k = 0 ∨ stepsPerPower ≤ n / (d * 2 ^ k)) := by
  intro k
  have hsteps : 2 * stepsPerPower = 2 ^ 53 ∧ stepsPerPower = 2 ^ 52 := by decide
  rw [hsteps.1, hsteps.2, ← Nat.div_div_eq_div_mul]
  constructor
  · rw [Nat.div_lt_iff_lt_mul (by positivity), ← pow_add]
    exact Nat.lt_log2_self.trans_le (Nat.pow_le_pow_right (by decide) (by omega))
  · rw [or_iff_not_imp_left]
    intro hk
    have hlog : 52 + k = (n / d).log2 := by omega
    rw [Nat.le_div_iff_mul_le (by positivity), ← pow_add, hlog]
    refine Nat.log2_self_le fun hzero => hk ?_
    simp [k, hzero]

theorem roundedQuotient_eq (n d : ℕ) :
    roundedQuotient n d =
      n / d + if 2 * (n % d) < d then 0 else if d < 2 * (n % d) then 1 else n / d % 2 := by
  unfold roundedQuotient
  dsimp only
  split_ifs <;> rfl

/-- The code of a quotient before codes are cut off is the nearest one. -/
theorem isNearest_quotient (n : ℕ) {d : ℕ} (hd : 0 < d) :
    let k := (n * unitsPerOne / d).log2 - 52
    IsNearest (k * stepsPerPower + roundedQuotient (n * unitsPerOne) (d * 2 ^ k)) (n / d) := by
  intro k
  obtain ⟨hend, hbegin⟩ := quotient_binade (n * unitsPerOne) d
  have hsplit := Nat.div_add_mod (n * unitsPerOne) (d * 2 ^ k)
  have hrest : n * unitsPerOne % (d * 2 ^ k) < d * 2 ^ k := Nat.mod_lt _ (by positivity)
  rw [roundedQuotient_eq]
  generalize n * unitsPerOne / (d * 2 ^ k) = m at hend hbegin hsplit ⊢
  generalize n * unitsPerOne % (d * 2 ^ k) = r at hsplit hrest ⊢
  have hparity : (k * stepsPerPower + m) % 2 = m % 2 := by
    simp only [stepsPerPower]
    omega
  have hdenominator : (0 : ℚ) < d := by exact_mod_cast hd
  have hunits : (0 : ℚ) < unitsPerOne := Nat.cast_pos.mpr unitsPerOne_pos
  have hsplitRat : (d * 2 ^ k * m + r : ℚ) = n * unitsPerOne := by exact_mod_cast hsplit
  rw [← hparity, ← Nat.add_assoc]
  refine isNearest_neighbour (one_div_pos.mpr (mul_pos hdenominator hunits)) hrest.le ?_ ?_
  · rw [magnitude_eq, units_binade hend.le hbegin]
    push_cast
    field_simp
    linarith
  · rw [Nat.add_assoc, magnitude_eq, units_binade (by omega) (by omega)]
    push_cast
    field_simp
    linarith

/-- The middle between the largest finite magnitude and the power of two that comes next. -/
def overflowBound : ℚ :=
  2 ^ 1024 - 2 ^ 970

/-- A number that is not negative, rounded to the magnitude with a code: to an infinity from the
bound on, and below it to the nearest finite magnitude, and to an even one if two are nearest. -/
structure RoundsTo (q : ℚ) (code : ℕ) : Prop where
  overflow : overflowBound ≤ q → code = infinityCode
  finite : q < overflowBound → code < infinityCode
  nearest : q < overflowBound → ∀ other < infinityCode,
    |magnitude code - q| ≤ |magnitude other - q|
  even : q < overflowBound → ∀ other < infinityCode, other ≠ code →
    |magnitude other - q| = |magnitude code - q| → code % 2 = 0

theorem magnitude_infinityCode : magnitude infinityCode = 2 ^ 970 * 2 ^ 54 := by
  have hexponent : infinityCode / stepsPerPower = 2047 := by decide
  have hfraction : infinityCode % stepsPerPower = 0 := by decide
  have hpower : ((2047 : ℕ) : ℤ) - 1023 = ((970 + 54 : ℕ) : ℤ) := by norm_num
  rw [magnitude, hexponent, hfraction, if_neg (by decide), hpower, zpow_natCast, pow_add]
  simp only [Nat.cast_zero, zero_div, add_zero, one_mul]

theorem magnitude_infinityCode_pred : magnitude (infinityCode - 1) = 2 ^ 970 * (2 ^ 54 - 2) := by
  have hexponent : (infinityCode - 1) / stepsPerPower = 2046 := by decide
  have hfraction : (infinityCode - 1) % stepsPerPower = 2 ^ 52 - 1 := by decide
  have hpower : ((2046 : ℕ) : ℤ) - 1023 = ((970 + 53 : ℕ) : ℤ) := by norm_num
  rw [magnitude, hexponent, hfraction, if_neg (by decide), hpower, zpow_natCast, pow_add]
  generalize (2 : ℚ) ^ 970 = p
  norm_num
  ring

theorem overflowBound_eq :
    magnitude (infinityCode - 1) + magnitude infinityCode = 2 * overflowBound := by
  have hpow : (2 : ℚ) ^ 1024 = 2 ^ 970 * 2 ^ 54 := pow_add 2 970 54
  rw [magnitude_infinityCode_pred, magnitude_infinityCode, overflowBound, hpow]
  generalize (2 : ℚ) ^ 970 = p
  ring

/-- The nearest code, cut off at the infinities, is where a number is rounded to. The codes on
either side of the cut are an odd and an even one, so that the middle between them is rounded up. -/
theorem IsNearest.roundsTo {code : ℕ} {q : ℚ} (h : IsNearest code q) :
    RoundsTo q (min infinityCode code) := by
  have hbound := overflowBound_eq
  have hlast : magnitude (infinityCode - 1) < magnitude infinityCode :=
    strictMono_magnitude (by decide)
  have hoverflow (hq : overflowBound ≤ q) : infinityCode ≤ code := by
    by_contra hsmall
    have hle : magnitude code ≤ magnitude (infinityCode - 1) :=
      strictMono_magnitude.monotone (by omega)
    have hdistance : |magnitude code - q| = q - magnitude code := by
      rw [abs_sub_comm, abs_of_nonneg (by linarith)]
    have hnearest := h.nearest infinityCode
    rw [hdistance] at hnearest
    obtain ⟨habs, -⟩ | ⟨habs, -⟩ := abs_cases (magnitude infinityCode - q)
    · -- No number from the bound on is nearer to the largest finite magnitude.
      have hcode : code = infinityCode - 1 := strictMono_magnitude.injective (by linarith)
      have heven := h.even infinityCode (by omega) (by linarith)
      rw [hcode] at heven
      exact absurd heven (by decide)
    · linarith
  have hfinite (hq : q < overflowBound) : code < infinityCode := by
    by_contra hlarge
    have hle : magnitude infinityCode ≤ magnitude code :=
      strictMono_magnitude.monotone (not_lt.mp hlarge)
    have hnearest := h.nearest (infinityCode - 1)
    rw [abs_of_nonneg (by linarith)] at hnearest
    obtain ⟨habs, -⟩ | ⟨habs, -⟩ := abs_cases (magnitude (infinityCode - 1) - q)
    · linarith
    · linarith
  have hmin (hq : q < overflowBound) : min infinityCode code = code := min_eq_right (hfinite hq).le
  exact
    { overflow := fun hq => min_eq_left (hoverflow hq)
      finite := fun hq => (hmin hq).symm ▸ hfinite hq
      nearest := fun hq other _ => (hmin hq).symm ▸ h.nearest other
      even := fun hq other _ => (hmin hq).symm ▸ h.even other }

theorem roundsTo_codeOfQuotient (n : ℕ) {d : ℕ} (hd : 0 < d) :
    RoundsTo (n / d) (codeOfQuotient n d) :=
  (isNearest_quotient n hd).roundsTo

theorem roundsTo_zero {q : ℚ} (hq : 0 ≤ q) (hsmall : 2 * q < magnitude 1) : RoundsTo q 0 := by
  have hzero := magnitude_zero
  have hnearest : IsNearest 0 q :=
    isNearest_lower (by linarith) (by linarith) (by linarith) fun _ => rfl
  exact hnearest.roundsTo

theorem roundsTo_infinityCode {q : ℚ} (h : overflowBound ≤ q) : RoundsTo q infinityCode where
  overflow _ := rfl
  finite hq := absurd hq (not_lt.mpr h)
  nearest hq := absurd hq (not_lt.mpr h)
  even hq := absurd hq (not_lt.mpr h)

/-- Less than half of the least magnitude. -/
theorem roundsTo_zero_of_lt {q : ℚ} (hq : 0 ≤ q) (h : q < 10 ^ (-331 : ℤ)) : RoundsTo q 0 := by
  have hunits : (0 : ℚ) < unitsPerOne := Nat.cast_pos.mpr unitsPerOne_pos
  have hleast : units 1 = 1 := by decide
  have hpow : (2 * unitsPerOne : ℚ) ≤ 10 ^ (331 : ℤ) := by
    rw [zpow_ofNat]
    exact_mod_cast (by decide +kernel : 2 * unitsPerOne ≤ 10 ^ 331)
  refine roundsTo_zero hq ?_
  rw [magnitude_eq, hleast, Nat.cast_one, lt_div_iff₀ hunits]
  calc 2 * q * unitsPerOne = q * (2 * unitsPerOne) := by ring
    _ ≤ q * 10 ^ (331 : ℤ) := mul_le_mul_of_nonneg_left hpow hq
    _ < 10 ^ (-331 : ℤ) * 10 ^ (331 : ℤ) :=
      mul_lt_mul_of_pos_right h (zpow_pos (by norm_num) _)
    _ = 1 := by rw [← zpow_add₀ (by norm_num), neg_add_cancel, zpow_zero]

/-- More than the largest finite magnitude. -/
theorem roundsTo_infinityCode_of_le {q : ℚ} (h : 10 ^ (310 : ℤ) ≤ q) :
    RoundsTo q infinityCode := by
  have hpow : (2 : ℚ) ^ 1024 ≤ 10 ^ (310 : ℤ) := by
    rw [zpow_ofNat]
    exact_mod_cast (by decide +kernel : 2 ^ 1024 ≤ 10 ^ 310)
  have hbound : overflowBound ≤ 2 ^ 1024 := sub_le_self _ (pow_pos two_pos 970).le
  exact roundsTo_infinityCode (hbound.trans (hpow.trans h))

/-- A decimal number is rounded exactly, also where its power of ten is not worked out. -/
theorem roundsTo_codeOfDecimal (c : ℕ) (e : ℤ) : RoundsTo (c * 10 ^ e) (codeOfDecimal c e) := by
  have hnonneg : (0 : ℚ) ≤ c * 10 ^ e :=
    mul_nonneg (Nat.cast_nonneg c) (zpow_pos (by norm_num) e).le
  unfold codeOfDecimal
  dsimp only
  split_ifs with hsmall hlarge he
  · refine roundsTo_zero_of_lt hnonneg ?_
    obtain rfl | hsize := hsmall
    · rw [Nat.cast_zero, zero_mul]
      exact zpow_pos (by norm_num) _
    · exact (Numeral.natCast_mul_zpow_lt c e).trans_le
        (zpow_le_zpow_right₀ (by norm_num) (by omega))
  · have hpow : (10 : ℚ) ^ (310 : ℤ) ≤ 10 ^ (Numeral.length c + e - 1) :=
      zpow_le_zpow_right₀ (by norm_num) (by omega)
    exact roundsTo_infinityCode_of_le
      (hpow.trans (Numeral.le_natCast_mul_zpow (not_or.mp hsmall).1 e))
  · rw [Numeral.natCast_mul_zpow, Int.toNat_of_nonpos (by omega : -e ≤ 0), pow_zero]
    exact roundsTo_codeOfQuotient _ one_pos
  · rw [Numeral.natCast_mul_zpow, Int.toNat_of_nonpos (by omega : e ≤ 0), pow_zero, Nat.mul_one]
    exact roundsTo_codeOfQuotient _ (by positivity)

theorem magnitude_lt_overflowBound {code : ℕ} (h : code < infinityCode) :
    magnitude code < overflowBound := by
  have hbound := overflowBound_eq
  have hlast : magnitude (infinityCode - 1) < magnitude infinityCode :=
    strictMono_magnitude (by decide)
  have hle : magnitude code ≤ magnitude (infinityCode - 1) :=
    strictMono_magnitude.monotone (by omega)
  linarith

/-- A number is rounded to one code only. Of two codes that are both even and as near, the one that
follows the first would be nearer. -/
theorem RoundsTo.lt_infinityCode_iff {q : ℚ} {code : ℕ} (h : RoundsTo q code) :
    code < infinityCode ↔ q < overflowBound := by
  constructor
  · intro hcode
    by_contra hbound
    exact hcode.ne (h.overflow (not_lt.mp hbound))
  · exact h.finite

theorem RoundsTo.unique {q : ℚ} {code other : ℕ} (h : RoundsTo q code) (h' : RoundsTo q other) :
    code = other := by
  by_cases hq : overflowBound ≤ q
  · rw [h.overflow hq, h'.overflow hq]
  · have hbound := not_le.mp hq
    by_contra hne
    wlog hlt : code < other generalizing code other
    · exact this h' h (Ne.symm hne) (by omega)
    have hcode := h.finite hbound
    have hother := h'.finite hbound
    have hdistance : |magnitude code - q| = |magnitude other - q| :=
      le_antisymm (h.nearest hbound other hother) (h'.nearest hbound code hcode)
    have heven := h.even hbound other hother (Ne.symm hne) hdistance.symm
    have heven' := h'.even hbound code hcode hne hdistance
    have hbelow : magnitude code < magnitude (code + 1) := strictMono_magnitude (by omega)
    have habove : magnitude (code + 1) < magnitude other := strictMono_magnitude (by omega)
    have hmiddle : magnitude code - q = -(magnitude other - q) := by
      obtain hsame | hopposite := abs_eq_abs.mp hdistance
      · linarith
      · exact hopposite
    have hnearer : |magnitude (code + 1) - q| < q - magnitude code := by
      rw [abs_lt]
      constructor <;> linarith
    have hnearest := h.nearest hbound (code + 1) (by omega)
    rw [abs_sub_comm, abs_of_nonneg (by linarith)] at hnearest
    linarith

/-- An integer is rounded to the code of its magnitude, or has no binary number. -/
theorem ofInt?_of_roundsTo {n : ℤ} {code : ℕ} (h : RoundsTo n.natAbs code) :
    ofInt? n = if code < infinityCode then some ⟨decide (n < 0), code⟩ else none := by
  have hquotient := roundsTo_codeOfQuotient n.natAbs one_pos
  rw [Nat.cast_one, div_one] at hquotient
  rw [h.unique hquotient]
  rfl

/-- Where a number is the value of a finite code, it is rounded to this code. -/
theorem RoundsTo.eq_of_magnitude {code exact : ℕ} (h : RoundsTo (magnitude exact) code)
    (hexact : exact < infinityCode) : code = exact := by
  have hnearest := h.nearest (magnitude_lt_overflowBound hexact) exact hexact
  rw [sub_self, abs_zero] at hnearest
  have hdistance := abs_eq_zero.mp (le_antisymm hnearest (abs_nonneg _))
  exact strictMono_magnitude.injective (sub_eq_zero.mp hdistance)

/-- Without its fraction, every finite number is short enough to be written. -/
theorem isShort_truncated {x : Binary64} (h : x.isFinite = true) :
    Numeral.isShort x.truncated = true := by
  have hsmall : magnitude x.code < 10 ^ (310 : ℤ) := by
    by_contra hlarge
    have hfinite : x.code < infinityCode := of_decide_eq_true h
    have := (roundsTo_infinityCode_of_le (not_lt.mp hlarge)).eq_of_magnitude hfinite
    omega
  have hquotient : ((units x.code / unitsPerOne : ℕ) : ℚ) < 10 ^ (Numeral.digitLimit : ℤ) :=
    calc ((units x.code / unitsPerOne : ℕ) : ℚ) ≤ magnitude x.code := by
          rw [magnitude_eq]
          exact Nat.cast_div_le
      _ < 10 ^ (310 : ℤ) := hsmall
      _ ≤ 10 ^ (Numeral.digitLimit : ℤ) := zpow_le_zpow_right₀ (by norm_num) (by decide)
  rw [truncated, Numeral.isShort_signed, decide_eq_true_iff]
  exact_mod_cast hquotient

end SqlTemplate.Binary64
