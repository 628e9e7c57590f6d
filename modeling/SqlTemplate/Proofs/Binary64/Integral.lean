import SqlTemplate.Proofs.Binary64.Rounding

/-!
# Natural numbers among the magnitudes

Up to `2 ^ 53` every natural number is a magnitude, and from `2 ^ 52` on every magnitude is a
natural number. So a natural number is rounded to a natural number, which is the same one only if it
is a magnitude itself.
-/
namespace SqlTemplate.Binary64

/-- Multiples of a power of two that fit into a binade are magnitudes: they double until they reach
the binade that they belong to. -/
theorem exists_units_eq (k : ℕ) {m : ℕ} (hm : m < 2 * stepsPerPower) :
    ∃ code < (k + 2) * stepsPerPower, units code = m * 2 ^ k := by
  induction k generalizing m with
  | zero =>
    refine ⟨m, by omega, ?_⟩
    simpa using units_binade (k := 0) hm.le (.inl rfl)
  | succ k ih =>
    by_cases hlow : stepsPerPower ≤ m
    · refine ⟨(k + 1) * stepsPerPower + m, ?_, units_binade hm.le (.inr hlow)⟩
      rw [Nat.add_mul (k + 1) 2]
      exact Nat.add_lt_add_left hm _
    · obtain ⟨code, hcode, hunits⟩ := ih (m := 2 * m) (by omega)
      refine ⟨code, hcode.trans_le (Nat.mul_le_mul_right _ (by omega)), ?_⟩
      rw [hunits, pow_succ]
      ring

/-- Natural numbers below `2 ^ 53` are magnitudes. -/
theorem exists_magnitude_eq {n : ℕ} (hn : n < 2 * stepsPerPower) :
    ∃ code < infinityCode, magnitude code = n := by
  obtain ⟨k, hk⟩ : ∃ k, 1074 = k := ⟨_, rfl⟩
  obtain ⟨code, hcode, hunits⟩ := exists_units_eq k hn
  have hone : (unitsPerOne : ℚ) ≠ 0 := Nat.cast_ne_zero.mpr unitsPerOne_pos.ne'
  have hlast : (k + 2) * stepsPerPower ≤ infinityCode := by
    rw [← hk]
    decide
  refine ⟨code, hcode.trans_le hlast, ?_⟩
  rw [magnitude_eq, hunits, ← unitsPerOne_eq hk, Nat.cast_mul, mul_div_cancel_right₀ _ hone]

/-- From `2 ^ 52` on, magnitudes are natural numbers. -/
theorem exists_natCast_of_le {code : ℕ} (hcode : 1075 * stepsPerPower ≤ code) :
    ∃ m : ℕ, magnitude code = m := by
  obtain ⟨u, hu⟩ : ∃ u, 1074 = u := ⟨_, rfl⟩
  have hone : (unitsPerOne : ℚ) ≠ 0 := Nat.cast_ne_zero.mpr unitsPerOne_pos.ne'
  obtain ⟨k, m, rfl, hm, hk⟩ := exists_binade code
  have hexponent : u ≤ k := by
    by_contra hsmall
    have : (k + 2) * stepsPerPower ≤ 1075 * stepsPerPower := Nat.mul_le_mul_right _ (by omega)
    rw [Nat.add_mul] at this
    omega
  refine ⟨m * 2 ^ (k - u), ?_⟩
  have hunits : m * 2 ^ k = m * 2 ^ (k - u) * unitsPerOne := by
    rw [unitsPerOne_eq hu, Nat.mul_assoc, ← pow_add, Nat.sub_add_cancel hexponent]
  rw [magnitude_eq, units_binade hm.le hk, hunits, Nat.cast_mul, mul_div_cancel_right₀ _ hone]

theorem magnitude_stepsPerPower : magnitude (1075 * stepsPerPower) = stepsPerPower := by
  have hexponent : 1075 * stepsPerPower / stepsPerPower = 1075 := by decide
  have hfraction : 1075 * stepsPerPower % stepsPerPower = 0 := by decide
  rw [magnitude, hexponent, hfraction, if_neg (by decide)]
  norm_num [stepsPerPower]

/-- A natural number is rounded to a natural number. -/
theorem RoundsTo.exists_natCast {n code : ℕ} (h : RoundsTo n code) (hcode : code < infinityCode) :
    ∃ m : ℕ, magnitude code = m := by
  obtain hsmall | hlarge := Nat.lt_or_ge n (2 * stepsPerPower)
  · obtain ⟨exact, hexact, hvalue⟩ := exists_magnitude_eq hsmall
    rw [← hvalue] at h
    exact ⟨n, h.eq_of_magnitude hexact ▸ hvalue⟩
  · -- What is smaller than `2 ^ 52` is farther away.
    refine exists_natCast_of_le (by_contra fun hless => ?_)
    have hbound : (n : ℚ) < overflowBound := h.lt_infinityCode_iff.mp hcode
    have hbelow : magnitude code < stepsPerPower := by
      rw [← magnitude_stepsPerPower]
      exact strictMono_magnitude (not_le.mp hless)
    have habove : (stepsPerPower : ℚ) ≤ n := by exact_mod_cast (by omega : stepsPerPower ≤ n)
    have hnearest := h.nearest hbound (1075 * stepsPerPower) (by decide)
    rw [magnitude_stepsPerPower, abs_sub_comm, abs_of_nonneg (by linarith), abs_sub_comm,
      abs_of_nonneg (by linarith)] at hnearest
    linarith

/-- It is the same number only if that is a magnitude. -/
theorem RoundsTo.eq_iff {n m code : ℕ} (h : RoundsTo n code) (hcode : code < infinityCode)
    (hm : magnitude code = m) : m = n ↔ ∃ exact < infinityCode, magnitude exact = n := by
  constructor
  · rintro rfl
    exact ⟨code, hcode, hm⟩
  · rintro ⟨exact, hexact, hvalue⟩
    have hself : RoundsTo (magnitude exact) code := hvalue ▸ h
    rw [hself.eq_of_magnitude hexact, hvalue] at hm
    exact_mod_cast hm.symm

/-- What is a natural number up to its sign is truncated to itself. -/
theorem towardZero_toRat {x : Binary64} {m : ℕ} (h : magnitude x.code = m) :
    Numeral.towardZero x.toRat = Numeral.signed x.negative m := by
  have hquotient := Numeral.towardZero_sign_mul x.negative m 1
  rwa [Nat.cast_one, div_one, Nat.div_one, ← h] at hquotient

end SqlTemplate.Binary64
