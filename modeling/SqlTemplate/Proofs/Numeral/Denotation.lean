import SqlTemplate.Proofs.Decimal.Reading
import SqlTemplate.Proofs.Numeral.Value

/-!
# What numerals denote

A numeral denotes a rational number: its digits are worth what their places say, those behind the
point tenths and less, and a power of ten multiplies the whole. Every literal denotes exactly one
number. Integers and decimal numbers are written as literals that denote just them.
-/
namespace SqlTemplate

namespace Numeral

/-- What digits denote, with digits behind a point or without. -/
inductive DenotesMantissa : Text → ℚ → Prop
  | whole {digits : Text} (h : IsDigits digits) : DenotesMantissa digits (valueOf digits)
  | fraction {digits more : Text} (h : IsDigits digits) (hmore : IsDigits more) :
      DenotesMantissa (digits ++ '.' :: more) (valueOf digits + valueOf more / 10 ^ more.length)

/-- The exponent that a power of ten denotes, zero where there is none. -/
inductive DenotesPower : Text → ℤ → Prop
  | absent : DenotesPower [] 0
  | bare {letter : Char} {digits : Text} (hletter : letter = 'e' ∨ letter = 'E')
      (h : IsDigits digits) : DenotesPower (letter :: digits) (valueOf digits)
  | plus {letter : Char} {digits : Text} (hletter : letter = 'e' ∨ letter = 'E')
      (h : IsDigits digits) : DenotesPower (letter :: '+' :: digits) (valueOf digits)
  | minus {letter : Char} {digits : Text} (hletter : letter = 'e' ∨ letter = 'E')
      (h : IsDigits digits) : DenotesPower (letter :: '-' :: digits) (-valueOf digits)

/-- The rational number that a literal denotes. -/
inductive Denotes : Text → ℚ → Prop
  | mk (negative : Bool) {mantissa power : Text} {m : ℚ} {e : ℤ}
      (hmantissa : DenotesMantissa mantissa m) (hpower : DenotesPower power e) :
      Denotes (Numeral.minus negative ++ (mantissa ++ power)) (sign negative * (m * 10 ^ e))

theorem DenotesMantissa.isMantissa {t : Text} {m : ℚ} (h : DenotesMantissa t m) : IsMantissa t := by
  cases h with
  | whole h => exact .whole h
  | fraction h hmore => exact .fraction h hmore

theorem IsMantissa.exists_denotes {t : Text} (h : IsMantissa t) : ∃ m, DenotesMantissa t m := by
  cases h with
  | whole h => exact ⟨_, .whole h⟩
  | fraction h hmore => exact ⟨_, .fraction h hmore⟩

theorem DenotesPower.isPower {t : Text} {e : ℤ} (h : DenotesPower t e) : IsPower t := by
  cases h with
  | absent => exact .absent
  | @bare letter digits hletter h => exact @IsPower.given letter [] digits hletter (.inl rfl) h
  | @plus letter digits hletter h =>
    exact @IsPower.given letter ['+'] digits hletter (.inr (.inl rfl)) h
  | @minus letter digits hletter h =>
    exact @IsPower.given letter ['-'] digits hletter (.inr (.inr rfl)) h

theorem IsPower.exists_denotes {t : Text} (h : IsPower t) : ∃ e, DenotesPower t e := by
  cases h with
  | absent => exact ⟨_, .absent⟩
  | given hletter hsign h =>
    obtain rfl | rfl | rfl := hsign
    · exact ⟨_, .bare hletter h⟩
    · exact ⟨_, .plus hletter h⟩
    · exact ⟨_, .minus hletter h⟩

/-- A power of ten begins with its letter. -/
theorem DenotesPower.head? {t : Text} {e : ℤ} (h : DenotesPower t e) :
    ∀ c ∈ t.head?, c.isDigit = false ∧ c ≠ '.' := by
  have hfirst {letter : Char} (hletter : letter = 'e' ∨ letter = 'E') :
      letter.isDigit = false ∧ letter ≠ '.' := by
    obtain rfl | rfl := hletter <;> decide
  cases h with
  | absent => simp
  | bare hletter | plus hletter | minus hletter => simpa using hfirst hletter

/-- A power of ten is read as the exponent that it denotes. -/
theorem DenotesPower.power? {t : Text} {e : ℤ} (h : DenotesPower t e) :
    Numeral.power? t = some e := by
  cases h with
  | absent => rfl
  | bare hletter h =>
    have hsign := h.splitSign []
    simp only [List.append_nil] at hsign
    simp [power?_letter hletter, hsign, natural?_of_isDigits h, signed]
  | plus hletter h => simp [power?_letter hletter, splitSign, natural?_of_isDigits h, signed]
  | minus hletter h => simp [power?_letter hletter, splitSign, natural?_of_isDigits h, signed]

theorem valueOf_append (t u : Text) : valueOf (t ++ u) = valueOf t * 10 ^ u.length + valueOf u := by
  induction u using List.reverseRecOn with
  | nil => simp [valueOf]
  | append_singleton front c ih =>
    rw [← List.append_assoc]
    simp only [valueOf, List.foldl_append, List.foldl_cons, List.foldl_nil, List.length_append,
      List.length_cons, List.length_nil] at ih ⊢
    rw [ih]
    ring

/-- What is read from digits and a power of ten is what they denote. -/
theorem DenotesMantissa.fractional? {mantissa power : Text} {m : ℚ} {e : ℤ}
    (hmantissa : DenotesMantissa mantissa m) (hpower : DenotesPower power e) :
    ∃ c k, Numeral.fractional? (mantissa ++ power) = some (c, k) ∧ m * 10 ^ e = (c * 10 ^ k : ℚ) := by
  cases hmantissa with
  | whole h =>
    refine ⟨_, e, ?_, rfl⟩
    rw [fractional?_whole h hpower.head?, hpower.power?]
    rfl
  | @fraction digits more h hmore =>
    refine ⟨valueOf (digits ++ more), e - more.length, ?_, ?_⟩
    · have hread := fractional?_point h hmore.2 fun c hc => (hpower.head? c hc).1
      rw [hpower.power?] at hread
      simpa using hread
    · rw [valueOf_append, zpow_sub₀ (by norm_num), zpow_natCast]
      push_cast
      field_simp

/-- A magnitude is read, and behind a sign it denotes just what is read from it. -/
theorem IsMagnitude.denotes_iff {t : Text} (h : IsMagnitude t) :
    ∃ c k, Numeral.fractional? t = some (c, k) ∧
      ∀ negative q, Denotes (Numeral.minus negative ++ t) q ↔ q = sign negative * (c * 10 ^ k) := by
  obtain ⟨hmantissa, hpower⟩ := h
  obtain ⟨m, hm⟩ := hmantissa.exists_denotes
  obtain ⟨e, he⟩ := hpower.exists_denotes
  obtain ⟨c, k, hread, hvalue⟩ := hm.fractional? he
  refine ⟨c, k, hread, fun negative q => ⟨fun hq => ?_, ?_⟩⟩
  · -- However the text is taken apart, the sign and the magnitude are the same.
    generalize ht : Numeral.minus negative ++ _ = t at hq
    cases hq with
    | mk other hm' he' =>
      have hsplit := splitSign_minus_append other (.mk hm'.isMantissa he'.isPower)
      rw [← ht, splitSign_minus_append negative (.mk hmantissa hpower), Prod.mk.injEq] at hsplit
      obtain ⟨rfl, hsame⟩ := hsplit
      obtain ⟨c', k', hread', hvalue'⟩ := hm'.fractional? he'
      rw [← hsame, hread] at hread'
      cases hread'
      rw [hvalue']
  · rintro rfl
    rw [← hvalue]
    exact .mk negative hm he

theorem denotes_iff_of_fractional? {t : Text} {c : ℕ} {k : ℤ} (h : IsMagnitude t)
    (hread : fractional? t = some (c, k)) (negative : Bool) (q : ℚ) :
    Denotes (Numeral.minus negative ++ t) q ↔ q = sign negative * (c * 10 ^ k) := by
  obtain ⟨c', k', hread', hdenotes⟩ := h.denotes_iff
  rw [hread] at hread'
  cases hread'
  exact hdenotes negative q

/-- The text of an integer denotes the integer. -/
theorem denotes_ofInt_iff (n : ℤ) (q : ℚ) : Denotes (ofInt n) q ↔ q = n := by
  have hdigits := isDigits_ofNat n.natAbs
  rw [ofInt_eq, denotes_iff_of_fractional? (IsMantissa.whole hdigits).isMagnitude
    (fractional?_whole_nil hdigits), valueOf_ofNat, zpow_zero, mul_one]
  obtain hn | hn := lt_or_ge n 0
  · simp [sign, hn, Nat.cast_natAbs, abs_of_neg hn]
  · simp [sign, not_lt.mpr hn, Nat.cast_natAbs, abs_of_nonneg hn]

end Numeral

/-- The text of a finite decimal number denotes the number. -/
theorem Decimal.denotes_toText_iff {d : Decimal} {r : ℚ} (h : d.toRat? = some r) (q : ℚ) :
    Numeral.Denotes d.toText q ↔ q = r := by
  cases d with
  | finite negative coefficient e =>
    cases h
    exact Numeral.denotes_iff_of_fractional? (isMagnitude_magnitudeText coefficient e)
      (fractional?_magnitudeText coefficient e) negative q
  | infinity | nan => cases h

end SqlTemplate
