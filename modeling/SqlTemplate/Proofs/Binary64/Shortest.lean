import SqlTemplate.Proofs.Binary64.Rounding
import SqlTemplate.Proofs.Numeral.Denotation

/-!
# The shortest text of a binary number

The digits of a magnitude are searched on grids of one digit, two, up to seventeen, for a multiple
that is rounded back to it. The search never fails: on the last grid the nearer of the two multiples
around the magnitude lies within half of the steps to the magnitudes beside it. Hence the text of a
finite number is read back as this number, and denotes a number that is rounded to it.
-/
namespace SqlTemplate.Binary64

open Numeral

/-- The step from a magnitude to the next one, against the larger of the two. -/
theorem magnitude_succ_le (code : ℕ) :
    magnitude (code + 1) ≤ 2 ^ 53 * (magnitude (code + 1) - magnitude code) := by
  have hunits : (units (code + 1) : ℚ) ≤ 2 ^ 53 * (units (code + 1) - units code) := by
    obtain ⟨k, m, rfl, hm, hk⟩ := exists_binade code
    have hnext : (m + 1 : ℚ) ≤ 2 ^ 53 := by
      exact_mod_cast (by simpa [stepsPerPower] using hm : m < 2 ^ 53)
    rw [Nat.add_assoc, units_binade hm.le hk, units_binade (by omega) (by omega)]
    push_cast
    calc ((m : ℚ) + 1) * 2 ^ k ≤ 2 ^ 53 * 2 ^ k :=
          mul_le_mul_of_nonneg_right hnext (by positivity)
      _ = 2 ^ 53 * ((m + 1) * 2 ^ k - m * 2 ^ k) := by ring
  rw [magnitude_eq, magnitude_eq, ← sub_div, ← mul_div_assoc]
  exact div_le_div_of_nonneg_right hunits (Nat.cast_nonneg unitsPerOne)

/-- A number that is close to a magnitude is rounded to it. -/
theorem roundsTo_of_close {code : ℕ} {q : ℚ} (hpos : 0 < code) (hcode : code < infinityCode)
    (hclose : 2 ^ 54 * |q - magnitude code| < magnitude code) : RoundsTo q code := by
  have hnearest : IsNearest code q := by
    by_cases hq : q ≤ magnitude code
    · obtain ⟨lower, rfl⟩ : ∃ lower, code = lower + 1 := ⟨code - 1, by omega⟩
      have hstep := magnitude_succ_le lower
      rw [abs_sub_comm, abs_of_nonneg (by linarith)] at hclose
      apply isNearest_upper
      · linarith
      · exact hq
      · linarith
      · intro heq
        linarith
    · have hstep := magnitude_succ_le code
      have hbelow : magnitude code < magnitude (code + 1) := strictMono_magnitude (by omega)
      rw [abs_of_nonneg (by linarith)] at hclose
      apply isNearest_lower
      · linarith
      · linarith
      · linarith
      · intro heq
        linarith
  have hrounds := hnearest.roundsTo
  rwa [min_eq_right hcode.le] at hrounds

/-- A magnitude is not below the power of ten of its first digit. -/
theorem zpow_pointOf_le {code : ℕ} (hpos : 0 < code) :
    (10 : ℚ) ^ (pointOf code - 1) ≤ magnitude code := by
  have hone : (0 : ℚ) < unitsPerOne := Nat.cast_pos.mpr unitsPerOne_pos
  have hunits : 0 < units code := by
    have := strictMono_units hpos
    omega
  rw [magnitude_eq, pointOf]
  split_ifs with hlarge
  · -- At least one: the digits in front of the point are counted.
    have hquotient : units code / unitsPerOne ≠ 0 := (Nat.div_pos hlarge unitsPerOne_pos).ne'
    have hpow := le_natCast_mul_zpow hquotient 0
    rw [zpow_zero, mul_one, add_zero] at hpow
    exact hpow.trans Nat.cast_div_le
  · -- Less than one: the digits of the inverse are counted.
    have hlength : (unitsPerOne : ℚ) < 10 ^ length (unitsPerOne / units code) * units code := by
      exact_mod_cast (Nat.div_lt_iff_lt_mul hunits).mp (lt_pow_length _)
    rw [le_div_iff₀ hone, sub_right_comm, sub_self, zero_sub, zpow_neg, zpow_natCast,
      inv_mul_le_iff₀ (by positivity)]
    exact hlength.le

/-- How many times a power of ten fits into a magnitude, worked out with natural numbers whatever
the sign of the exponent. -/
def multipleBelow (code : ℕ) (e : ℤ) : ℕ :=
  units code * Nat.pow 10 (-e).toNat / (unitsPerOne * Nat.pow 10 e.toNat)

theorem multipleBelow_le (code : ℕ) (e : ℤ) : multipleBelow code e * 10 ^ e ≤ magnitude code := by
  have hone : (0 : ℚ) < unitsPerOne := Nat.cast_pos.mpr unitsPerOne_pos
  have hquotient : multipleBelow code e * (unitsPerOne * 10 ^ e.toNat) ≤
      units code * 10 ^ (-e).toNat :=
    Nat.div_mul_le_self _ _
  rw [natCast_mul_zpow, magnitude_eq, div_le_div_iff₀ (by positivity) hone]
  exact_mod_cast (by linarith :
    multipleBelow code e * 10 ^ e.toNat * unitsPerOne ≤ units code * 10 ^ (-e).toNat)

theorem lt_multipleBelow_succ (code : ℕ) (e : ℤ) :
    magnitude code < (multipleBelow code e + 1 : ℕ) * 10 ^ e := by
  have hone : (0 : ℚ) < unitsPerOne := Nat.cast_pos.mpr unitsPerOne_pos
  have hgrid : 0 < unitsPerOne * 10 ^ e.toNat := Nat.mul_pos unitsPerOne_pos (by positivity)
  have hquotient : units code * 10 ^ (-e).toNat <
      (multipleBelow code e + 1) * (unitsPerOne * 10 ^ e.toNat) :=
    (Nat.div_lt_iff_lt_mul hgrid).mp (Nat.lt_succ_self _)
  rw [natCast_mul_zpow, magnitude_eq, div_lt_div_iff₀ hone (by positivity)]
  exact_mod_cast (by linarith :
    units code * 10 ^ (-e).toNat < (multipleBelow code e + 1) * 10 ^ e.toNat * unitsPerOne)

/-- What is found on a grid is rounded back. -/
theorem codeOfDecimal_of_onGrid? {code t : ℕ} {e : ℤ} (h : onGrid? code e = some t) :
    codeOfDecimal t e = code := by
  simp only [onGrid?] at h
  split at h
  · rename_i hbelow habove
    split_ifs at h
    · exact Option.some.inj h ▸ eq_of_beq hbelow
    · exact Option.some.inj h ▸ eq_of_beq habove
  · rename_i hbelow _
    exact Option.some.inj h ▸ eq_of_beq hbelow
  · rename_i _ habove
    exact Option.some.inj h ▸ eq_of_beq habove
  · cases h

/-- Where nothing is found, neither of the two multiples around the magnitude is rounded to it. -/
theorem ne_of_onGrid?_eq_none {code : ℕ} {e : ℤ} (h : onGrid? code e = none) :
    codeOfDecimal (multipleBelow code e) e ≠ code ∧
      codeOfDecimal (multipleBelow code e + 1) e ≠ code := by
  simp only [onGrid?] at h
  split at h
  · cases h
  · cases h
  · cases h
  · rename_i hbelow habove
    exact ⟨ne_of_beq_false hbelow, ne_of_beq_false habove⟩

/-- With seventeen digits a multiple is found. -/
theorem onGrid?_ne_none {code : ℕ} (hpos : 0 < code) (hcode : code < infinityCode) :
    onGrid? code (pointOf code - 17) ≠ none := by
  intro hnone
  obtain ⟨e, he⟩ : ∃ e, e = pointOf code - 17 := ⟨_, rfl⟩
  rw [← he] at hnone
  obtain ⟨hbelow, habove⟩ := ne_of_onGrid?_eq_none hnone
  have hgrid : (10 : ℚ) ^ e * 10 ^ 16 ≤ magnitude code := by
    have hexponent : e + (16 : ℕ) = pointOf code - 1 := by omega
    rw [← zpow_natCast, ← zpow_add₀ (by norm_num), hexponent]
    exact zpow_pointOf_le hpos
  have hstep : (0 : ℚ) < 10 ^ e := zpow_pos (by norm_num) e
  have hfrom := multipleBelow_le code e
  have hto := lt_multipleBelow_succ code e
  have hrounds (t : ℕ) (hclose : 2 ^ 54 * |t * 10 ^ e - magnitude code| < magnitude code) :
      codeOfDecimal t e = code :=
    (roundsTo_codeOfDecimal t e).unique (roundsTo_of_close hpos hcode hclose)
  push_cast at hto
  -- The nearer of the two multiples is at most half of a step of the grid away.
  by_cases hnear : 2 * (magnitude code - multipleBelow code e * 10 ^ e) ≤ 10 ^ e
  · refine hbelow (hrounds _ ?_)
    rw [abs_sub_comm, abs_of_nonneg (by linarith)]
    linarith
  · refine habove (hrounds _ ?_)
    push_cast
    rw [abs_of_nonneg (by linarith)]
    linarith

/-- The digits that a magnitude is written with are rounded back to it. -/
theorem codeOfDecimal_shortest {code : ℕ} (hpos : 0 < code) (hcode : code < infinityCode) :
    codeOfDecimal (shortest code).1 (shortest code).2 = code := by
  unfold shortest
  dsimp only
  cases hfound : (List.range 17).findSome? fun n : ℕ =>
      (onGrid? code (pointOf code - (n + 1))).map (·, pointOf code - ((n : ℤ) + 1)) with
  | none =>
    have hlast := List.findSome?_eq_none_iff.mp hfound 16 (by simp)
    rw [Option.map_eq_none_iff] at hlast
    exact absurd hlast (onGrid?_ne_none hpos hcode)
  | some found =>
    obtain ⟨n, -, hn⟩ := List.exists_of_findSome?_eq_some hfound
    obtain ⟨t, ht, rfl⟩ := Option.map_eq_some_iff.mp hn
    exact codeOfDecimal_of_onGrid? ht

theorem valueOf_append_zeros (t : Text) (k : ℕ) : valueOf (t ++ zeros k) = valueOf t * 10 ^ k := by
  have hzeros := valueOf_zeros_append k []
  rw [List.append_nil] at hzeros
  rw [valueOf_append, hzeros, zeros, List.length_replicate]
  rfl

/-- What is dropped at the end of digits is zeros. -/
theorem exists_append_zeros (t : Text) :
    ∃ k, t = (t.reverse.dropWhile (· = '0')).reverse ++ zeros k := by
  have hzeros : (t.reverse.takeWhile (· = '0')).reverse =
      zeros (t.reverse.takeWhile (· = '0')).reverse.length := by
    apply List.eq_replicate_of_mem
    intro c hc
    simpa using List.all_eq_true.mp List.all_takeWhile c (List.mem_reverse.mp hc)
  refine ⟨(t.reverse.takeWhile (· = '0')).reverse.length, ?_⟩
  rw [← hzeros, ← List.reverse_append, List.takeWhile_append_dropWhile, List.reverse_reverse]

/-- Zeros at the end of digits are a power of ten. -/
theorem valueOf_withoutTrailingZeros (t : Text) :
    (valueOf t : ℚ) = valueOf (withoutTrailingZeros t) *
      10 ^ ((t.length : ℤ) - (withoutTrailingZeros t).length) := by
  obtain ⟨k, ht⟩ := exists_append_zeros t
  rw [withoutTrailingZeros]
  generalize (t.reverse.dropWhile (· = '0')).reverse = kept at ht ⊢
  have hvalue := valueOf_append_zeros kept k
  rw [← ht] at hvalue
  rw [hvalue]
  cases kept with
  | nil => simp [valueOf]
  | cons c rest =>
    have hlength : (t.length : ℤ) - (c :: rest).length = k := by
      rw [ht, List.length_append, zeros, List.length_replicate]
      omega
    rw [hlength, zpow_natCast]
    push_cast
    rfl

/-- The text of a magnitude reads as the number with its shortest digits, whatever the layout. -/
theorem fractional?_magnitudeText {code : ℕ} (hpos : 0 < code) :
    ∃ c k, fractional? (magnitudeText code) = some (c, k) ∧
      (c * 10 ^ k : ℚ) = (shortest code).1 * 10 ^ (shortest code).2 := by
  unfold magnitudeText
  rw [if_neg hpos.ne']
  obtain ⟨t, e⟩ := shortest code
  dsimp only
  have hdigits := isDigits_withoutTrailingZeros (isDigits_ofNat t)
  have hvalue := valueOf_withoutTrailingZeros (ofNat t)
  rw [valueOf_ofNat] at hvalue
  generalize withoutTrailingZeros (ofNat t) = digits at hdigits hvalue ⊢
  obtain ⟨point, hpoint⟩ : ∃ point, point = e + (ofNat t).length := ⟨_, rfl⟩
  rw [← hpoint]
  have hsame : (valueOf digits * 10 ^ (point - digits.length) : ℚ) = t * 10 ^ e := by
    have hexponent : point - digits.length = (ofNat t).length - digits.length + e := by omega
    rw [hvalue, hexponent, zpow_add₀ (by norm_num), mul_assoc]
  split_ifs with hpositional hwhole
  · have hlength := List.length_pos_iff.mpr hdigits.1
    refine ⟨_, _, fractional?_point_nil (isDigits_positional hdigits hwhole) isDigits_zero.2, ?_⟩
    have hzero : ['0'] = zeros 1 := rfl
    obtain ⟨k, hk⟩ := Int.eq_ofNat_of_zero_le (sub_nonneg.mpr hwhole)
    rw [positional, if_neg (by omega), if_pos hwhole, hzero, valueOf_append_zeros,
      valueOf_append_zeros, ← hsame, hk, Int.toNat_natCast, zpow_natCast]
    push_cast
    simp [zeros]
  · rw [List.append_nil]
    exact ⟨_, _, fractional?_positional hdigits (by omega), hsame⟩
  · refine ⟨valueOf digits, point - 1 + 1 - digits.length, ?_, ?_⟩
    · rw [fractional?_leading hdigits (by simp), power?_exponent (.inl rfl)]
      rfl
    · rw [sub_add_cancel, hsame]

/-- Whatever is read from the text of a finite magnitude is rounded back to it. -/
theorem codeOfDecimal_magnitudeText {code : ℕ} (h : code < infinityCode) :
    ∃ c k, fractional? (magnitudeText code) = some (c, k) ∧ codeOfDecimal c k = code ∧
      (code = 0 → c = 0) := by
  by_cases hpos : 0 < code
  · obtain ⟨c, k, hread, hvalue⟩ := fractional?_magnitudeText hpos
    have hrounds := roundsTo_codeOfDecimal (shortest code).1 (shortest code).2
    rw [codeOfDecimal_shortest hpos h, ← hvalue] at hrounds
    exact ⟨c, k, hread, (roundsTo_codeOfDecimal c k).unique hrounds, by omega⟩
  · obtain rfl : code = 0 := by omega
    exact ⟨0, -1, by decide, by decide, fun _ => rfl⟩

theorem toText_of_lt {code : ℕ} (h : code < infinityCode) (negative : Bool) :
    toText ⟨negative, code⟩ = Numeral.minus negative ++ magnitudeText code := by
  simp [toText, isNaN, isFinite, h, h.le]

/-- A finite binary number is read back from its text. -/
theorem ofNumeral?_toText {code : ℕ} (h : code < infinityCode) (negative : Bool) :
    (Decimal.ofNumeral? (toText ⟨negative, code⟩)).bind ofDecimal? = some ⟨negative, code⟩ := by
  obtain ⟨c, k, hread, hcode, -⟩ := codeOfDecimal_magnitudeText h
  have hplain : (toText ⟨negative, code⟩).IsPlain :=
    (isLiteral_toText (x := ⟨negative, code⟩) (decide_eq_true h)).isPlain
  have hsign : splitSign (toText ⟨negative, code⟩) = (negative, magnitudeText code) := by
    rw [toText_of_lt h]
    exact splitSign_minus_append negative (isMagnitude_magnitudeText code)
  rw [Decimal.ofNumeral?_of_fractional? (plain?_eq_self hplain) hplain hsign hread,
    Option.bind_some, ofDecimal?, hcode]

/-- The text of a finite binary number denotes one number, which has its sign and is rounded to it.
For both of the zeros this is zero. -/
theorem exists_denotes_toText {code : ℕ} (h : code < infinityCode) :
    ∃ m : ℚ, 0 ≤ m ∧ RoundsTo m code ∧ (code = 0 → m = 0) ∧
      ∀ negative q, Denotes (toText ⟨negative, code⟩) q ↔ q = sign negative * m := by
  obtain ⟨c, k, hread, hcode, hzero⟩ := codeOfDecimal_magnitudeText h
  have hnonneg : (0 : ℚ) ≤ c * 10 ^ k :=
    mul_nonneg (Nat.cast_nonneg c) (zpow_pos (by norm_num) k).le
  refine ⟨c * 10 ^ k, hnonneg, ?_, fun hnull => ?_, fun negative q => ?_⟩
  · have hrounds := roundsTo_codeOfDecimal c k
    rwa [hcode] at hrounds
  · rw [hzero hnull, Nat.cast_zero, zero_mul]
  · rw [toText_of_lt h]
    exact denotes_iff_of_fractional? (isMagnitude_magnitudeText code) hread negative q

end SqlTemplate.Binary64
