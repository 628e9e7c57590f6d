import Mathlib.Data.List.Forall2
import SqlTemplate.Text

/-!
# Reading lists back

A reader takes one item off the front of a text. A list is read item by item, with a separator
between neighbours. What is written so that each item is read wherever it stands in a list is read
as the list of these items, however long it is.
-/
namespace SqlTemplate

/-- Takes an item off the front of a text, and leaves what stands behind it. -/
structure Reader (α : Type) where
  read : Text → Option (α × Text)
  suffix : ∀ {t rest : Text} {a : α}, read t = some (a, rest) → rest <:+ t

namespace Reader

variable {α β : Type}

/-- One item or more, up to the end of a text. -/
def items (r : Reader α) (t : Text) : Option (List α) :=
  match _hread : r.read t with
  | some (a, []) => some [a]
  | some (a, ',' :: ' ' :: rest) => (r.items rest).map (a :: ·)
  | _ => none
termination_by t.length
decreasing_by
  have hle := (r.suffix _hread).length_le
  simp only [List.length_cons] at hle
  omega

/-- Any number of items. There are none in the empty text. -/
def list (r : Reader α) (t : Text) : Option (List α) :=
  if t.isEmpty then some [] else r.items t

theorem items_of_end {r : Reader α} {t : Text} {a : α} (h : r.read t = some (a, [])) :
    r.items t = some [a] := by
  rw [items]
  split <;> simp_all

theorem items_of_separator {r : Reader α} {t rest : Text} {a : α}
    (h : r.read t = some (a, ',' :: ' ' :: rest)) :
    r.items t = (r.items rest).map (a :: ·) := by
  rw [items]
  split <;> simp_all

/-- What can stand behind an item of a list: nothing, or a separator and more. -/
def IsBehind (k : Text) : Prop :=
  k = [] ∨ ∃ rest, k = ',' :: ' ' :: rest

/-- A text is read as an item, wherever it stands in a list. -/
def Reads (r : Reader α) (written : Text) (a : α) : Prop :=
  ∀ k, IsBehind k → r.read (written ++ k) = some (a, k)

/-- Texts that are read as items are read one by one when they stand in a list. -/
theorem items_commaSeparated {r : Reader α} {written : List Text} {l : List α}
    (h : List.Forall₂ r.Reads written l) (hne : written ≠ []) :
    r.items (Text.commaSeparated written) = some l := by
  induction h with
  | nil => exact absurd rfl hne
  | @cons first a others l hfirst hothers ih =>
    cases others with
    | nil =>
      cases hothers
      have hread := hfirst [] (.inl rfl)
      rw [List.append_nil] at hread
      simpa using items_of_end hread
    | cons second others =>
      have hrest := ih (List.cons_ne_nil second others)
      have hread := hfirst _ (.inr ⟨Text.commaSeparated (second :: others), rfl⟩)
      rw [Text.commaSeparated_cons_cons, items_of_separator hread, hrest]
      rfl

theorem list_commaSeparated {r : Reader α} {written : List Text} {l : List α}
    (h : List.Forall₂ r.Reads written l) (hwritten : ∀ t ∈ written, t ≠ []) :
    r.list (Text.commaSeparated written) = some l := by
  cases h with
  | nil => rfl
  | cons hfirst hothers =>
    -- Only the empty list is written as nothing, since no item is.
    rw [list, if_neg (by simp [Text.commaSeparated_eq_nil_iff hwritten])]
    exact items_commaSeparated (.cons hfirst hothers) (List.cons_ne_nil _ _)

/-- A name in quotes. The next quote ends it, so that a name holds none. -/
def name (quote : Char) : Reader Text where
  read
    | [] => none
    | c :: rest =>
      if c = quote then
        match rest.dropWhile (· != quote) with
        | [] => none
        | _ :: after => some (rest.takeWhile (· != quote), after)
      else none
  suffix := by
    intro t rest a h
    cases t with
    | nil => cases h
    | cons c t =>
      dsimp only at h
      split at h
      · split at h
        · cases h
        · rename_i d after hdrop
          cases h
          have hsuffix : d :: rest <:+ t := hdrop ▸ List.dropWhile_suffix _
          exact ((List.suffix_cons d rest).trans hsuffix).trans (List.suffix_cons c t)
      · cases h

/-- One item, a mark and another item. -/
def pair (first : Reader α) (mark : Text) (second : Reader β) : Reader (α × β) where
  read t := do
    let (a, behind) ← first.read t
    let (b, rest) ← second.read (← mark.isPrefixOf? behind)
    return ((a, b), rest)
  suffix := by
    intro t rest ab h
    simp only [Option.bind_eq_bind, Option.bind_eq_some_iff] at h
    obtain ⟨⟨a, behind⟩, hfirst, unmarked, hmark, ⟨b, rest'⟩, hsecond, h⟩ := h
    cases h
    have hbehind : unmarked <:+ behind := ⟨mark, List.isPrefixOf?_eq_some_iff_append_eq.mp hmark⟩
    exact ((second.suffix hsecond).trans hbehind).trans (first.suffix hfirst)

theorem read_name {quote : Char} {t : Text} (h : quote ∉ t) (k : Text) :
    (name quote).read ([quote] ++ t ++ [quote] ++ k) = some (t, k) := by
  have hinside : ∀ c ∈ t, (c != quote) = true := by
    intro c hc
    have hne : c ≠ quote := by
      rintro rfl
      exact h hc
    simpa using hne
  have hdrop : (t ++ quote :: k).dropWhile (· != quote) = quote :: k := by
    rw [List.dropWhile_append_of_pos hinside]
    simp
  have htake : (t ++ quote :: k).takeWhile (· != quote) = t := by
    rw [List.takeWhile_append_of_pos hinside]
    simp
  simp [name, hdrop, htake]

/-- The first item has to be read in front of the mark, the second one in a list. -/
theorem reads_pair {first : Reader α} {mark : Text} {second : Reader β} {written₁ written₂ : Text}
    {a : α} {b : β} (h₁ : ∀ k, first.read (written₁ ++ k) = some (a, k))
    (h₂ : second.Reads written₂ b) :
    (pair first mark second).Reads (written₁ ++ mark ++ written₂) (a, b) := by
  intro k hk
  have hmark : mark.isPrefixOf? (mark ++ (written₂ ++ k)) = some (written₂ ++ k) :=
    List.isPrefixOf?_eq_some_iff_append_eq.mpr rfl
  have hfirst := h₁ (mark ++ (written₂ ++ k))
  simp [pair, hfirst, hmark, h₂ k hk]

end Reader
end SqlTemplate
