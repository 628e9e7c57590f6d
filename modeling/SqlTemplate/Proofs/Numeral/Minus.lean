import Mathlib.Data.List.Chain
import SqlTemplate.Proofs.Numeral.Canonical

/-!
# Minus signs

Where minus signs stand in the text of a number, and what they come to side by side.

## Comments

Two minus signs side by side begin a comment, whatever stands in front of them. A text that is put
together from pieces without a comment has one exactly where a piece ends with a minus sign and the
next one begins with it.
-/
namespace SqlTemplate.Text

/-- What a comment begins with. -/
def commentMark : Text := ['-', '-']

/-- No two minus signs stand side by side. -/
def IsUncommented (t : Text) : Prop :=
  t.IsChain fun c d => ¬(c = '-' ∧ d = '-')

theorem isUncommented_iff (t : Text) : IsUncommented t ↔ ¬commentMark <:+: t := by
  rw [IsUncommented, List.isChain_iff_forall_rel_of_append_cons_cons]
  constructor
  · rintro h ⟨front, back, rfl⟩
    have hsplit : front ++ commentMark ++ back = front ++ '-' :: '-' :: back := by simp [commentMark]
    exact h hsplit ⟨rfl, rfl⟩
  · rintro h _ _ front back rfl ⟨rfl, rfl⟩
    exact h ⟨front, back, by simp [commentMark]⟩

theorem isUncommented_of_not_mem {t : Text} (h : '-' ∉ t) : IsUncommented t := by
  rw [isUncommented_iff]
  intro hmark
  exact h (hmark.subset (by simp [commentMark]))

/-- Texts side by side are without a comment if they do not touch with minus signs. -/
theorem IsUncommented.append {t u : Text} (ht : IsUncommented t) (hu : IsUncommented u)
    (htouch : t.getLast? ≠ some '-' ∨ u.head? ≠ some '-') : IsUncommented (t ++ u) := by
  refine List.isChain_append.mpr ⟨ht, hu, ?_⟩
  rintro c hc d hd ⟨rfl, rfl⟩
  obtain h | h := htouch
  · exact h hc
  · exact h hd

/-- A comment in a text of several pieces begins across the border of two neighbours. -/
theorem commentMark_infix_flatMap_iff {α : Type} {f : α → Text} {l : List α}
    (hne : ∀ a ∈ l, f a ≠ []) (h : ∀ a ∈ l, IsUncommented (f a)) :
    commentMark <:+: l.flatMap f ↔
      ∃ front a b back, l = front ++ a :: b :: back ∧ (f a).getLast? = some '-' ∧
        (f b).head? = some '-' := by
  have hchain : IsUncommented (l.flatMap f) ↔
      l.IsChain fun a b => ∀ c ∈ (f a).getLast?, ∀ d ∈ (f b).head?, ¬(c = '-' ∧ d = '-') := by
    rw [IsUncommented, List.flatMap_def, List.isChain_flatten (by simpa using hne),
      List.isChain_map]
    exact and_iff_right (List.forall_mem_map.mpr h)
  rw [List.isChain_iff_forall_rel_of_append_cons_cons] at hchain
  constructor
  · intro hmark
    by_contra hnone
    refine (isUncommented_iff _).mp (hchain.mpr ?_) hmark
    rintro a b front back hsplit c ha d hb ⟨rfl, rfl⟩
    exact hnone ⟨front, a, b, back, hsplit, ha, hb⟩
  · rintro ⟨front, a, b, back, hsplit, ha, hb⟩
    by_contra hnone
    exact hchain.mp ((isUncommented_iff _).mpr hnone) hsplit '-' ha '-' hb ⟨rfl, rfl⟩

end SqlTemplate.Text

/-!
## Minus signs in numbers

A number is written with a minus sign in front if it is negative, and may have another one in its
power. It never ends with one, and never has two side by side. What a number meets the text in front
of it with is thus told by its sign alone, and the sign outlives rounding, but not always
truncation.
-/

namespace SqlTemplate

namespace Numeral

open Text

theorem IsDigits.minus_not_mem {digits : Text} (h : IsDigits digits) : '-' ∉ digits :=
  fun hc => absurd (h.2 '-' hc) (by decide)

theorem IsMantissa.minus_not_mem {t : Text} (h : IsMantissa t) : '-' ∉ t := by
  cases h with
  | whole h => exact h.minus_not_mem
  | fraction h hmore => simp [h.minus_not_mem, hmore.minus_not_mem]

theorem IsDigits.getLast?_ne {digits : Text} (h : IsDigits digits) : digits.getLast? ≠ some '-' :=
  fun hlast => h.minus_not_mem (List.mem_of_getLast? hlast)

theorem IsDigits.head?_ne {digits : Text} (h : IsDigits digits) : digits.head? ≠ some '-' :=
  fun hhead => h.minus_not_mem (List.mem_of_head? hhead)

/-- A number without a sign has minus signs in its power only, in front of digits. -/
theorem IsMagnitude.isUncommented {t : Text} (h : IsMagnitude t) : IsUncommented t := by
  obtain ⟨hmantissa, hpower⟩ := h
  have hfront := hmantissa.minus_not_mem
  refine (isUncommented_of_not_mem hfront).append ?_
    (.inl fun hlast => hfront (List.mem_of_getLast? hlast))
  cases hpower with
  | absent => exact isUncommented_of_not_mem (by simp)
  | @given letter sign digits hletter hsign hdigits =>
    refine IsUncommented.append ?_ (isUncommented_of_not_mem hdigits.minus_not_mem)
      (.inr hdigits.head?_ne)
    obtain rfl | rfl := hletter <;> obtain rfl | rfl | rfl := hsign <;>
      exact (isUncommented_iff _).mpr (by decide)

theorem IsMagnitude.getLast?_ne {t : Text} (h : IsMagnitude t) : t.getLast? ≠ some '-' := by
  obtain ⟨hmantissa, hpower⟩ := h
  cases hpower with
  | absent =>
    rw [List.append_nil]
    exact fun hlast => hmantissa.minus_not_mem (List.mem_of_getLast? hlast)
  | given _ _ hdigits =>
    rw [← List.append_assoc, List.getLast?_append_of_ne_nil _ hdigits.1]
    exact hdigits.getLast?_ne

theorem IsMantissa.ne_nil {t : Text} (h : IsMantissa t) : t ≠ [] := by
  cases h with
  | whole h => exact h.1
  | fraction => simp

theorem IsMagnitude.ne_nil {t : Text} (h : IsMagnitude t) : t ≠ [] := by
  obtain ⟨hmantissa, -⟩ := h
  exact List.append_ne_nil_of_left_ne_nil hmantissa.ne_nil _

theorem IsMagnitude.head?_ne {t : Text} (h : IsMagnitude t) : t.head? ≠ some '-' := by
  obtain ⟨hmantissa, -⟩ := h
  rw [List.head?_append_of_ne_nil _ hmantissa.ne_nil]
  exact fun hhead => hmantissa.minus_not_mem (List.mem_of_head? hhead)

end Numeral

/-- A text without a comment, which meets what stands behind it with no minus sign, and what stands
in front of it with one if it is negative. -/
structure Text.Meets (negative : Bool) (t : Text) : Prop where
  ne_nil : t ≠ []
  isUncommented : IsUncommented t
  getLast?_ne : t.getLast? ≠ some '-'
  head?_eq_iff : t.head? = some '-' ↔ negative = true

namespace Numeral

theorem IsMagnitude.meets {magnitude : Text} (h : IsMagnitude magnitude) (negative : Bool) :
    Text.Meets negative (minus negative ++ magnitude) where
  ne_nil := List.append_ne_nil_of_right_ne_nil _ h.ne_nil
  isUncommented := by
    have hminus : Text.IsUncommented (minus negative) := by
      cases negative <;> exact (Text.isUncommented_iff _).mpr (by decide)
    exact hminus.append h.isUncommented (.inr h.head?_ne)
  getLast?_ne := by
    rw [List.getLast?_append_of_ne_nil _ h.ne_nil]
    exact h.getLast?_ne
  head?_eq_iff := by
    cases negative with
    | true => simp [minus]
    | false => simpa [minus] using h.head?_ne

theorem meets_ofInt (n : ℤ) : Text.Meets (decide (n < 0)) (ofInt n) := by
  rw [ofInt_eq]
  exact (IsMantissa.whole (isDigits_ofNat n.natAbs)).isMagnitude.meets _

end Numeral

namespace Number

/-- Whether a number has a minus sign, as a zero may. A NaN has none. -/
def hasMinus : Number → Bool
  | binary x => x.negative
  | decimal (.finite negative _ _) | decimal (.infinity negative) => negative
  | decimal (.nan ..) => false

/-- The nearest binary number has the sign of the number. -/
theorem negative_toBinary64? {x : Number} {y : Binary64} (h : x.toBinary64? = some y) :
    y.negative = x.hasMinus := by
  cases x with
  | binary =>
    cases h
    rfl
  | decimal d =>
    rcases d with _ | _ | ⟨negative, _ | _, payload⟩ <;> cases h <;> rfl

/-- Whether the number without its fraction is negative. -/
def truncatesBelowZero : Number → Bool
  | binary x => x.truncated < 0
  | decimal (.finite negative coefficient e) =>
    (Decimal.truncated? negative coefficient e).any (· < 0)
  | decimal _ => false

theorem meets_toText {x : Number} (h : x.isFinite = true) : Text.Meets x.hasMinus x.toText := by
  cases x with
  | binary x =>
    have hnan : x.isNaN = false := by
      simp only [isFinite, Binary64.isFinite, Binary64.isNaN, decide_eq_true_eq,
        decide_eq_false_iff_not] at h ⊢
      omega
    have hfinite : x.isFinite = true := h
    rw [toText, Binary64.toText, hnan, hfinite, if_neg Bool.false_ne_true, if_pos rfl]
    exact (Binary64.isMagnitude_magnitudeText x.code).meets x.negative
  | decimal d =>
    cases d with
    | finite negative coefficient e =>
      exact (Decimal.isMagnitude_magnitudeText coefficient e).meets negative
    | infinity | nan => cases h

end Number

theorem negative_ofInt? {n : ℤ} {x : Binary64} (h : Binary64.ofInt? n = some x) :
    x.negative = decide (n < 0) := by
  unfold Binary64.ofInt? at h
  dsimp only at h
  split at h
  · cases h
    rfl
  · cases h

end SqlTemplate
