import SqlTemplate.Proofs.Numeral.Canonical

/-!
# Readings of numerals

An integer may be written in the digits of any script, with single low lines between digits, behind
a sign. It is read as the number that the values of its digits give, but only up to the limit; as a
fractional numeral it is read with any number of digits. Plain digits with a point and a power of
ten are read as the coefficient that all of the digits give, whether they stand in front of the
point or behind it, and zeros in front do not change it.
-/
namespace SqlTemplate

namespace Text

/-- An ASCII digit is the digit of its own value. -/
theorem digitChar_of_digitValue? {c : Char} {d : ℕ} (hc : c.isDigit = true)
    (h : digitValue? c = some d) : digitChar d = c := by
  obtain ⟨k, hk, rfl⟩ := exists_digitChar hc
  rw [digitValue?_digitChar hk] at h
  rw [Option.some.inj h]

theorem strip_eq_self {t : Text} (h : ∀ c ∈ t, isBlank c = false) : strip t = t := by
  have hdrop {u : Text} (hu : ∀ c ∈ u, isBlank c = false) : u.dropWhile isBlank = u := by
    cases u with
    | nil => rfl
    | cons c rest => exact List.dropWhile_cons_of_neg (by simp [hu c List.mem_cons_self])
  rw [strip, hdrop h, hdrop fun c hc => h c (List.mem_reverse.mp hc), List.reverse_reverse]

end Text

namespace Numeral

/-- A run of decimal digits of any script, perhaps with single low lines between digits, and the
values of its digits. -/
inductive IsRun : Text → List ℕ → Prop
  | single {c : Char} {d : ℕ} (h : Text.digitValue? c = some d) : IsRun [c] [d]
  | cons {c : Char} {d : ℕ} {t : Text} {ds : List ℕ} (h : Text.digitValue? c = some d)
      (ht : IsRun t ds) : IsRun (c :: t) (d :: ds)
  | spaced {c : Char} {d : ℕ} {t : Text} {ds : List ℕ} (h : Text.digitValue? c = some d)
      (ht : IsRun t ds) : IsRun (c :: '_' :: t) (d :: ds)

/-- A run of digits behind an optional sign, the flag telling whether that is a minus sign. -/
inductive IsInteger : Text → Bool → List ℕ → Prop
  | bare {t : Text} {ds : List ℕ} (h : IsRun t ds) : IsInteger t false ds
  | plus {t : Text} {ds : List ℕ} (h : IsRun t ds) : IsInteger ('+' :: t) false ds
  | minus {t : Text} {ds : List ℕ} (h : IsRun t ds) : IsInteger ('-' :: t) true ds

/-- The number whose digits have the given values, most significant digit first. -/
def ofValues (ds : List ℕ) : ℕ :=
  Nat.ofDigits 10 ds.reverse

theorem natural?_of_isDigits {t : Text} (h : IsDigits t) : natural? t = some (valueOf t) := by
  have hall : t.all Char.isDigit = true := List.all_eq_true.mpr h.2
  simp [natural?, hall, h.1]

theorem natural?_eq_none {t : Text} {c : Char} (hc : c ∈ t) (h : c.isDigit = false) :
    natural? t = none := by
  have hall : t.all Char.isDigit = false := List.all_eq_false.mpr ⟨c, hc, by simp [h]⟩
  simp [natural?, hall]

theorem valueOf_map_digitChar {ds : List ℕ} (h : ∀ d ∈ ds, d < 10) :
    valueOf (ds.map Text.digitChar) = ofValues ds := by
  induction ds using List.reverseRecOn with
  | nil => rfl
  | append_singleton ds d ih =>
    obtain ⟨hds, hd⟩ := List.forall_mem_append.mp h
    rw [List.map_append, List.map_singleton,
      valueOf_append_digitChar _ (hd d (List.mem_singleton_self d)), ih hds, ofValues, ofValues,
      List.reverse_concat, Nat.ofDigits_cons, Nat.add_comm]

theorem ofValues_lt {ds : List ℕ} (h : ∀ d ∈ ds, d < 10) : ofValues ds < 10 ^ ds.length := by
  rw [← List.length_reverse]
  exact Nat.ofDigits_lt_base_pow_length (by decide) fun d hd => h d (List.mem_reverse.mp hd)

/-- Zeros in front of digits do not change what they denote. -/
theorem valueOf_zeros_append (n : ℕ) (t : Text) : valueOf (zeros n ++ t) = valueOf t := by
  induction n with
  | zero => rfl
  | succ n ih => exact ih

/-- Behind digits, what is not a digit ends the run. -/
theorem span_digits {digits rest : Text} (hdigits : ∀ c ∈ digits, c.isDigit = true)
    (hrest : ∀ c ∈ rest.head?, c.isDigit = false) :
    (digits ++ rest).takeWhile Char.isDigit = digits ∧
      (digits ++ rest).dropWhile Char.isDigit = rest := by
  have htake : rest.takeWhile Char.isDigit = [] ∧ rest.dropWhile Char.isDigit = rest := by
    cases rest with
    | nil => exact ⟨rfl, rfl⟩
    | cons c rest => simp [hrest c rfl]
  rw [List.takeWhile_append_of_pos hdigits, List.dropWhile_append_of_pos hdigits, htake.1, htake.2,
    List.append_nil]
  exact ⟨rfl, rfl⟩

theorem splitSign_of_isDigit {c : Char} (hc : c.isDigit = true) (rest : Text) :
    splitSign (c :: rest) = (false, c :: rest) := by
  unfold splitSign
  split
  · rename_i h
    exact absurd ((List.cons.inj h).1 ▸ hc) (by decide)
  · rename_i h
    exact absurd ((List.cons.inj h).1 ▸ hc) (by decide)
  · rfl

theorem IsDigits.splitSign {digits : Text} (h : IsDigits digits) (rest : Text) :
    Numeral.splitSign (digits ++ rest) = (false, digits ++ rest) := by
  obtain ⟨hne, hdigits⟩ := h
  cases digits with
  | nil => exact absurd rfl hne
  | cons c digits => exact splitSign_of_isDigit (hdigits c List.mem_cons_self) _

theorem IsMagnitude.splitSign {magnitude : Text} (h : IsMagnitude magnitude) :
    Numeral.splitSign magnitude = (false, magnitude) := by
  obtain ⟨hmantissa, -⟩ := h
  cases hmantissa with
  | whole h => exact h.splitSign _
  | fraction h _ =>
    rw [List.append_assoc]
    exact h.splitSign _

theorem splitSign_minus_append (negative : Bool) {magnitude : Text} (h : IsMagnitude magnitude) :
    splitSign (minus negative ++ magnitude) = (negative, magnitude) := by
  cases negative with
  | true => rfl
  | false => exact h.splitSign

/-- Different integers have different texts. -/
theorem ofInt_injective : Function.Injective ofInt := by
  intro m n h
  have hsplit (k : ℤ) : splitSign (ofInt k) = (decide (k < 0), ofNat k.natAbs) := by
    rw [ofInt_eq]
    exact splitSign_minus_append _ (IsMantissa.whole (isDigits_ofNat _)).isMagnitude
  have hparts := congrArg splitSign h
  rw [hsplit, hsplit, Prod.mk.injEq, decide_eq_decide] at hparts
  have hvalue := congrArg valueOf hparts.2
  rw [valueOf_ofNat, valueOf_ofNat] at hvalue
  omega

/-! ### Integers of any script -/

section Integers

variable {t : Text} {negative : Bool} {ds : List ℕ}

theorem withoutLowLines?_cons {c : Char} (hc : c.isDigit = true) (afterDigit : Bool) (t : Text) :
    withoutLowLines? afterDigit (c :: t) = (withoutLowLines? true t).map (c :: ·) := by
  have hne : c ≠ '_' := by
    rintro rfl
    exact absurd hc (by decide)
  rw [withoutLowLines?, if_neg hne, hc]
  exact fun _ _ h => absurd h hne

theorem withoutLowLines?_spaced {c : Char} (hc : c.isDigit = true) (t : Text) :
    withoutLowLines? true ('_' :: c :: t) = (withoutLowLines? true t).map (c :: ·) := by
  rw [withoutLowLines?, hc]
  rfl

theorem asciiDigits_cons_of_digitValue? {c : Char} {d : ℕ} (h : Text.digitValue? c = some d)
    (t : Text) : Text.asciiDigits (c :: t) = Text.digitChar d :: Text.asciiDigits t := by
  simp [Text.asciiDigits, h]

theorem IsRun.forall_lt (h : IsRun t ds) : ∀ d ∈ ds, d < 10 := by
  induction h with
  | single h => simpa using Text.digitValue?_lt h
  | cons h _ ih | spaced h _ ih => exact List.forall_mem_cons.mpr ⟨Text.digitValue?_lt h, ih⟩

theorem IsRun.isDigits (h : IsRun t ds) : IsDigits (ds.map Text.digitChar) := by
  constructor
  · cases h <;> exact List.cons_ne_nil _ _
  · rw [List.forall_mem_map]
    exact fun d hd => Text.isDigit_digitChar (h.forall_lt d hd)

/-- ASCII digits are a run. -/
theorem IsDigits.exists_isRun {digits : Text} (h : IsDigits digits) :
    ∃ ds, IsRun digits ds ∧ ds.map Text.digitChar = digits := by
  obtain ⟨hne, hdigits⟩ := h
  induction digits with
  | nil => exact absurd rfl hne
  | cons c rest ih =>
    obtain ⟨hc, hrest⟩ := List.forall_mem_cons.mp hdigits
    obtain ⟨d, hd, rfl⟩ := Text.exists_digitChar hc
    have hvalue := Text.digitValue?_digitChar hd
    by_cases hnil : rest = []
    · subst hnil
      exact ⟨[d], .single hvalue, rfl⟩
    · obtain ⟨ds, hrun, hmap⟩ := ih hnil hrest
      exact ⟨d :: ds, .cons hvalue hrun, by rw [List.map_cons, hmap]⟩

/-- A run begins with a digit. -/
theorem IsRun.asciiDigits_eq (h : IsRun t ds) :
    ∃ c rest, Text.asciiDigits t = c :: rest ∧ c.isDigit = true := by
  cases h with
  | single h | cons h _ | spaced h _ =>
    exact ⟨_, _, asciiDigits_cons_of_digitValue? h _,
      Text.isDigit_digitChar (Text.digitValue?_lt h)⟩

/-- Of a run, the digits are left, wherever it stands. -/
theorem IsRun.withoutLowLines? (h : IsRun t ds) (afterDigit : Bool) :
    Numeral.withoutLowLines? afterDigit (Text.asciiDigits t) = some (ds.map Text.digitChar) := by
  induction h generalizing afterDigit with
  | single h =>
    rw [asciiDigits_cons_of_digitValue? h,
      withoutLowLines?_cons (Text.isDigit_digitChar (Text.digitValue?_lt h))]
    rfl
  | cons h _ ih =>
    rw [asciiDigits_cons_of_digitValue? h,
      withoutLowLines?_cons (Text.isDigit_digitChar (Text.digitValue?_lt h)), ih]
    rfl
  | @spaced _ d t ds h ht ih =>
    have hline : Text.asciiDigits ('_' :: t) = '_' :: Text.asciiDigits t := rfl
    rw [asciiDigits_cons_of_digitValue? h, hline,
      withoutLowLines?_cons (Text.isDigit_digitChar (Text.digitValue?_lt h))]
    obtain ⟨c, rest, hrun, hc⟩ := ht.asciiDigits_eq
    rw [hrun, withoutLowLines?_spaced hc, ← withoutLowLines?_cons hc true, ← hrun, ih]
    rfl

theorem IsInteger.exists_isRun (h : IsInteger t negative ds) : ∃ u, IsRun u ds := by
  cases h with
  | bare h | plus h | minus h => exact ⟨_, h⟩

/-- Of an integer, the sign and the digits are left. -/
theorem IsInteger.plain? (h : IsInteger t negative ds) :
    ∃ p, Numeral.plain? t = some p ∧ p.IsPlain ∧
      splitSign p = (negative, ds.map Text.digitChar) := by
  obtain ⟨u, hu⟩ := h.exists_isRun
  have hdigits : ds.map Text.digitChar ⊆ Text.numberChars :=
    fun c hc => Text.mem_numberChars_of_isDigit (hu.isDigits.2 c hc)
  cases h with
  | bare h =>
    refine ⟨_, h.withoutLowLines? false, Text.isPlain_of_subset hdigits, ?_⟩
    simpa using h.isDigits.splitSign []
  | @plus t _ h =>
    have hsign : Numeral.plain? ('+' :: t) = (Numeral.plain? t).map ('+' :: ·) := rfl
    exact ⟨_, hsign.trans (congrArg (Option.map _) (h.withoutLowLines? false)),
      Text.isPlain_of_subset (List.cons_subset.mpr ⟨by decide, hdigits⟩), rfl⟩
  | @minus t _ h =>
    have hsign : Numeral.plain? ('-' :: t) = (Numeral.plain? t).map ('-' :: ·) := rfl
    exact ⟨_, hsign.trans (congrArg (Option.map _) (h.withoutLowLines? false)),
      Text.isPlain_of_subset (List.cons_subset.mpr ⟨by decide, hdigits⟩), rfl⟩

theorem IsRun.valueOf_eq (h : IsRun t ds) : valueOf (ds.map Text.digitChar) = ofValues ds :=
  valueOf_map_digitChar h.forall_lt

/-- An integer is read exactly, up to the limit. -/
theorem IsInteger.integer?_eq (h : IsInteger t negative ds) :
    integer? t =
      if ds.length ≤ digitLimit then some (signed negative (ofValues ds)) else none := by
  obtain ⟨p, hplain, -, hsign⟩ := h.plain?
  obtain ⟨u, hu⟩ := h.exists_isRun
  simp only [integer?, hplain, hsign, natural?_of_isDigits hu.isDigits, hu.valueOf_eq,
    Option.bind_eq_bind, Option.bind_some, List.length_map, Option.map_some]

end Integers

/-! ### Fractional numerals -/

theorem fractional?_whole {whole power : Text} (hwhole : IsDigits whole)
    (hpower : ∀ c ∈ power.head?, c.isDigit = false ∧ c ≠ '.') :
    fractional? (whole ++ power) = (power? power).map fun e => (valueOf whole, e) := by
  obtain ⟨htake, hdrop⟩ := span_digits hwhole.2 fun c hc => (hpower c hc).1
  have hpoint : ∀ after, power ≠ '.' :: after := by
    rintro after rfl
    exact (hpower '.' rfl).2 rfl
  simp only [fractional?, htake, hdrop, List.append_nil, natural?_of_isDigits hwhole]
  cases power? power <;> simp

/-- Digits alone denote themselves. -/
theorem fractional?_whole_nil {whole : Text} (hwhole : IsDigits whole) :
    fractional? whole = some (valueOf whole, 0) := by
  have hnil : ∀ c ∈ ([] : Text).head?, c.isDigit = false ∧ c ≠ '.' := by simp
  have hread := fractional?_whole hwhole hnil
  rwa [List.append_nil] at hread

/-- Digits behind the point belong to the coefficient, and each of them takes one from the power. -/
theorem fractional?_point {whole fraction power : Text} (hwhole : IsDigits whole)
    (hfraction : ∀ c ∈ fraction, c.isDigit = true)
    (hpower : ∀ c ∈ power.head?, c.isDigit = false) :
    fractional? (whole ++ '.' :: fraction ++ power) =
      (power? power).map fun e : ℤ => (valueOf (whole ++ fraction), e - fraction.length) := by
  have hpoint : ∀ c ∈ ('.' :: (fraction ++ power)).head?, c.isDigit = false := by simp
  obtain ⟨htake, hdrop⟩ := span_digits hwhole.2 hpoint
  obtain ⟨htake', hdrop'⟩ := span_digits hfraction hpower
  simp only [fractional?, List.append_assoc, List.cons_append, htake, hdrop, htake', hdrop',
    natural?_of_isDigits (hwhole.append hfraction)]
  cases power? power <;> simp

/-- A numeral with a point and no power of its own. -/
theorem fractional?_point_nil {whole fraction : Text} (hwhole : IsDigits whole)
    (hfraction : ∀ c ∈ fraction, c.isDigit = true) :
    fractional? (whole ++ '.' :: fraction) =
      some (valueOf (whole ++ fraction), -(fraction.length : ℤ)) := by
  have hnil : ∀ c ∈ ([] : Text).head?, c.isDigit = false := by simp
  have hread := fractional?_point hwhole hfraction hnil
  rw [List.append_nil] at hread
  rw [hread, power?, Option.map_some, zero_sub]

/-- Digits with the point in front of them, between them or right behind them. Zeros that fill a gap
do not count. -/
theorem fractional?_positional {digits : Text} (h : IsDigits digits) {point : ℤ}
    (hpoint : point ≤ digits.length) :
    fractional? (positional digits point) = some (valueOf digits, point - digits.length) := by
  unfold positional
  split_ifs with hleft hright
  · have hfraction : ∀ c ∈ zeros (-point).toNat ++ digits, c.isDigit = true :=
      (h.append_left isDigit_of_mem_zeros).2
    have hvalue : valueOf (['0'] ++ (zeros (-point).toNat ++ digits)) = valueOf digits :=
      (valueOf_zeros_append 1 _).trans (valueOf_zeros_append _ digits)
    have hlength : (-(zeros (-point).toNat ++ digits).length : ℤ) = point - digits.length := by
      rw [List.length_append, zeros, List.length_replicate]
      omega
    rw [← hvalue, ← hlength]
    exact fractional?_point_nil isDigits_zero hfraction
  · obtain rfl : point = digits.length := le_antisymm hpoint hright
    rw [sub_self, Int.toNat_zero]
    exact (congrArg fractional? (List.append_nil digits)).trans (fractional?_whole_nil h)
  · obtain ⟨k, rfl⟩ := Int.eq_ofNat_of_zero_le (by omega : 0 ≤ point)
    have hwhole : IsDigits (digits.take k) := h.take (by omega)
    rw [Int.toNat_natCast, fractional?_point_nil hwhole fun c hc => h.2 c (List.mem_of_mem_drop hc),
      List.take_append_drop, List.length_drop]
    congr 2
    omega

/-- Digits with the point behind the first of them, and a power of ten. -/
theorem fractional?_leading {digits power : Text} (h : IsDigits digits)
    (hpower : ∀ c ∈ power.head?, c.isDigit = false ∧ c ≠ '.') :
    fractional? (leading digits ++ power) =
      (power? power).map fun e : ℤ => (valueOf digits, e + 1 - digits.length) := by
  match digits with
  | [] => exact absurd rfl h.1
  | [d] => simpa [leading] using fractional?_whole h hpower
  | d :: d' :: rest =>
    obtain ⟨hd, hrest⟩ := List.forall_mem_cons.mp h.2
    have hfirst : IsDigits [d] := ⟨List.cons_ne_nil d [], by simpa using hd⟩
    have hread := fractional?_point hfirst hrest fun c hc => (hpower c hc).1
    have hlength (e : ℤ) : e - (d' :: rest).length = e + 1 - (d :: d' :: rest).length := by
      simp only [List.length_cons]
      omega
    simp only [hlength] at hread
    exact hread

/-- Behind its letter, a power of ten is a sign and digits. -/
theorem power?_letter {letter : Char} (h : letter = 'e' ∨ letter = 'E') (rest : Text) :
    power? (letter :: rest) = (natural? (splitSign rest).2).map (signed (splitSign rest).1) := by
  obtain rfl | rfl := h
  · rfl
  · rfl

/-- A power of ten is read as its exponent. -/
theorem power?_exponent {letter : Char} (hletter : letter = 'e' ∨ letter = 'E') (width : ℕ)
    (e : ℤ) : power? (letter :: exponent width e) = some e := by
  obtain ⟨digits, hdigits⟩ : ∃ t, t = zeros (width - (ofNat e.natAbs).length) ++ ofNat e.natAbs :=
    ⟨_, rfl⟩
  have hnatural : natural? digits = some e.natAbs := by
    rw [hdigits, natural?_of_isDigits ((isDigits_ofNat _).append_left isDigit_of_mem_zeros),
      valueOf_zeros_append, valueOf_ofNat]
  have hexponent : exponent width e = (if e < 0 then '-' else '+') :: digits := hdigits ▸ rfl
  rw [power?_letter hletter, hexponent]
  split_ifs with h
  · rw [splitSign, hnatural, Option.map_some, Option.some_inj, signed, if_pos rfl]
    omega
  · rw [splitSign, hnatural, Option.map_some, Option.some_inj, signed, if_neg Bool.false_ne_true]
    omega

end Numeral
end SqlTemplate
