import SqlTemplate.Proofs.Token.Canonical

/-!
# Where placeholders stand

The index and the offset of a placeholder tell its place in the template: behind so many question
marks and so many code points, there is its text.
-/
namespace SqlTemplate.Token

/-- The question marks of a template are those of its placeholders. -/
theorem count_text {t : Token} (h : t.IsRead true) :
    t.text.count '?' = if t.isPlaceholder then 1 else 0 := by
  cases t with
  | literal x => exact List.count_eq_zero.mpr (h.2.2.2 rfl)
  | placeholder tag index offset =>
    obtain ⟨-, rfl | ⟨c, hc, rfl⟩⟩ := h
    · rfl
    · have hne : c ≠ '?' := (ne_of_isTypeLetter hc).2.2
      simp [text, isPlaceholder, hne]
  | openBrace x | closeBrace x =>
    cases h
    rfl
  | rendered | skipMark => exact h.elim

theorem count_concat {tokens : List Token} (h : ∀ t ∈ tokens, t.IsRead true) :
    (concat tokens).count '?' = placeholderCount tokens := by
  induction tokens with
  | nil => rfl
  | cons t rest ih =>
    obtain ⟨ht, hrest⟩ := List.forall_mem_cons.mp h
    rw [concat_cons, List.count_append, count_text ht, ih hrest, placeholderCount_cons]

/-- The tokens in front of a placeholder end where its offset says, and hold as many question marks
as its index says. -/
theorem place_of_read_eq {template tag : Text} {index offset : ℕ} {front back : List Token}
    (h : read template = front ++ placeholder tag index offset :: back) :
    template = concat front ++ '?' :: (tag ++ concat back) ∧ template.take offset = concat front ∧
      (template.take offset).count '?' = index := by
  have htemplate : template = concat front ++ '?' :: (tag ++ concat back) := by
    rw [← concat_read template true, h, concat_append]
    rfl
  have hread : ∀ t ∈ front, t.IsRead true := by
    intro t ht
    refine isRead_readFrom true 0 0 template t ?_
    change t ∈ read template
    rw [h]
    exact List.mem_append_left _ ht
  obtain ⟨hindex, hoffset⟩ := countsFrom_readFrom true 0 0 template front tag index offset back h
  rw [Nat.zero_add] at hindex hoffset
  have htake : template.take offset = concat front := by
    rw [htemplate, hoffset, List.take_left]
  exact ⟨htemplate, htake, by rw [htake, count_concat hread, hindex]⟩

/-- At its offset, behind as many question marks as its index, the text of a placeholder stands in
the template. -/
theorem place_of_mem_read {template tag : Text} {index offset : ℕ}
    (h : placeholder tag index offset ∈ read template) :
    (placeholder tag index offset).text <+: template.drop offset ∧
      (template.take offset).count '?' = index := by
  obtain ⟨front, back, hsplit⟩ := List.mem_iff_append.mp h
  obtain ⟨htemplate, htake, hcount⟩ := place_of_read_eq hsplit
  refine ⟨⟨concat back, ?_⟩, hcount⟩
  have hdrop : concat front ++ '?' :: (tag ++ concat back) = concat front ++ template.drop offset := by
    rw [← htemplate, ← htake, List.take_append_drop]
  exact List.append_cancel_left hdrop

/-- What stands right in front of a placeholder is the end of the token there. -/
theorem getLast?_take_of_read_eq {template tag : Text} {index offset : ℕ} {front back : List Token}
    {t : Token} (h : read template = front ++ t :: placeholder tag index offset :: back) :
    (template.take offset).getLast? = t.text.getLast? := by
  have hmem : t ∈ read template := by simp [h]
  have ht : t.text ≠ [] := (isRead_readFrom true 0 0 template t hmem).text_ne_nil
  rw [List.append_cons] at h
  obtain ⟨-, htake, -⟩ := place_of_read_eq h
  rw [htake, concat_append, concat_cons, concat_nil, List.append_nil,
    List.getLast?_append_of_ne_nil _ ht]

/-- Something stands in front of a placeholder only if a token does. -/
theorem exists_of_getLast?_take {template tag : Text} {index offset : ℕ} {c : Char}
    (hmem : placeholder tag index offset ∈ read template)
    (hc : (template.take offset).getLast? = some c) :
    ∃ front t back, read template = front ++ t :: placeholder tag index offset :: back ∧
      t.text.getLast? = some c := by
  obtain ⟨front, back, h⟩ := List.append_of_mem hmem
  obtain rfl | ⟨front, t, rfl⟩ := List.eq_nil_or_concat front
  · rw [(place_of_read_eq h).2.1] at hc
    cases hc
  · have hread : read template = front ++ t :: placeholder tag index offset :: back := by
      simpa using h
    exact ⟨front, t, back, hread, by rw [← getLast?_take_of_read_eq hread, hc]⟩

end SqlTemplate.Token
