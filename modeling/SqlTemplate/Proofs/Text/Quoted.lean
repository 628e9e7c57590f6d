import Mathlib.Algebra.Group.Nat.Defs
import Mathlib.Tactic.SplitIfs
import SqlTemplate.Proofs.Text.Reader
import SqlTemplate.Text.Quoted

/-!
# Reading quoted texts back

Messages show texts in quotes, with escapes for what could not be seen. A reader undoes the escapes
and stops at the quote that it began with. It reads what messages show as the texts that they show,
so that a list in a message says which texts it lists, and in which order.
-/
namespace SqlTemplate

namespace Hexadecimal

/-- The value of a digit. -/
def valueOf? (c : Char) : Option ℕ :=
  if '0' ≤ c ∧ c ≤ '9' then some (c.toNat - '0'.toNat)
  else if 'a' ≤ c ∧ c ≤ 'f' then some (c.toNat - 'a'.toNat + 10)
  else none

/-- The number that digits stand for. -/
def number? (digits : Text) : Option ℕ :=
  digits.foldlM (fun n c => (valueOf? c).map (16 * n + ·)) 0

theorem valueOf?_digitChar : ∀ n < 16, valueOf? n.digitChar = some n := by
  decide

theorem number?_concat {digits : Text} {n : ℕ} (h : number? digits = some n) (c : Char) :
    number? (digits ++ [c]) = (valueOf? c).map (16 * n + ·) := by
  rw [number?] at h
  rw [number?, List.foldlM_append, h]
  simp

theorem number?_toDigits (n : ℕ) : number? (Nat.toDigits 16 n) = some n := by
  induction n using Nat.strongRecOn with
  | ind n ih =>
    by_cases hn : n < 16
    · rw [Nat.toDigits_of_lt_base hn]
      simp [number?, valueOf?_digitChar n hn]
    · have hlast : n % 16 < 16 := Nat.mod_lt n (by decide)
      rw [Nat.toDigits_of_base_le (by decide) (by omega),
        number?_concat (ih (n / 16) (by omega)), valueOf?_digitChar _ hlast, Option.map_some,
        Nat.div_add_mod]

/-- Zeros in front do not count. -/
theorem number?_replicate_append (k : ℕ) (digits : Text) :
    number? (List.replicate k '0' ++ digits) = number? digits := by
  induction k with
  | zero => rfl
  | succ k ih =>
    rw [← ih]
    rfl

theorem number?_hexadecimal (width n : ℕ) : number? (Text.hexadecimal width n) = some n := by
  rw [Text.hexadecimal, number?_replicate_append, number?_toDigits]

theorem length_hexadecimal {width n : ℕ} (hwidth : 0 < width) (hn : n < 16 ^ width) :
    (Text.hexadecimal width n).length = width := by
  have hle : (Nat.toDigits 16 n).length ≤ width :=
    (Nat.length_toDigits_le_iff (by decide) hwidth).mpr hn
  rw [Text.hexadecimal, List.length_append, List.length_replicate]
  omega

end Hexadecimal

namespace Quoted

/-- How many digits of a code point follow a letter behind a backslash. -/
def widthOf? (c : Char) : Option ℕ :=
  if c = 'x' then some 2
  else if c = 'u' then some 4
  else if c = 'U' then some 8
  else none

/-- What other characters behind a backslash stand for. -/
def unescaped? (c : Char) : Option Char :=
  if c = 't' then some '\t'
  else if c = 'n' then some '\n'
  else if c = 'r' then some '\r'
  else if c = '\\' ∨ c = Text.singleQuote ∨ c = Text.doubleQuote then some c
  else none

/-- Reads a code point with the given number of digits. -/
def codePoint? (width : ℕ) (t : Text) : Option (Char × Text) := do
  let n ← Hexadecimal.number? (t.take width)
  if width ≤ t.length ∧ n.isValidChar then some (Char.ofNat n, t.drop width) else none

/-- Reads what stands behind a backslash. -/
def escape? : Text → Option (Char × Text)
  | [] => none
  | c :: rest =>
    match widthOf? c with
    | some width => codePoint? width rest
    | none => (unescaped? c).map (·, rest)

/-- Reads one character. -/
def character? : Text → Option (Char × Text)
  | [] => none
  | c :: rest => if c = '\\' then escape? rest else some (c, rest)

theorem codePoint?_suffix {width : ℕ} {t behind : Text} {d : Char}
    (h : codePoint? width t = some (d, behind)) : behind <:+ t := by
  obtain ⟨n, -, h⟩ := Option.bind_eq_some_iff.mp h
  split at h
  · cases h
    exact List.drop_suffix width t
  · cases h

theorem escape?_suffix {t behind : Text} {d : Char} (h : escape? t = some (d, behind)) :
    behind <:+ t := by
  cases t with
  | nil => cases h
  | cons c rest =>
    rw [escape?] at h
    split at h
    · exact (codePoint?_suffix h).trans (List.suffix_cons c rest)
    · obtain ⟨e, -, he⟩ := Option.map_eq_some_iff.mp h
      cases he
      exact List.suffix_cons c behind

/-- A character takes at least one place. -/
theorem character?_suffix {c d : Char} {rest behind : Text}
    (h : character? (c :: rest) = some (d, behind)) : behind <:+ rest := by
  rw [character?] at h
  split at h
  · exact escape?_suffix h
  · cases h
    exact List.suffix_rfl

/-- Reads a text from behind its opening quote up to the closing one. -/
def inside (quote : Char) : Text → Option (Text × Text)
  | [] => none
  | c :: rest =>
    if c = quote then some ([], rest)
    else
      match _hread : character? (c :: rest) with
      | some (d, behind) => (inside quote behind).map (Prod.map (d :: ·) id)
      | none => none
termination_by t => t.length
decreasing_by
  have hle := (character?_suffix _hread).length_le
  rw [List.length_cons]
  omega

theorem inside_suffix {quote : Char} {t rest u : Text} (h : inside quote t = some (u, rest)) :
    rest <:+ t := by
  fun_induction inside quote t generalizing u with
  | case1 => cases h
  | case2 =>
    cases h
    exact List.suffix_cons _ _
  | case3 c after _ d behind hread ih =>
    obtain ⟨⟨v, left⟩, hinside, hleft⟩ := Option.map_eq_some_iff.mp h
    cases hleft
    exact ((ih hinside).trans (character?_suffix hread)).trans (List.suffix_cons c after)
  | case4 => cases h

/-!
## What messages show
-/

variable {quote c : Char}

theorem character?_escape {marker : Char} (h : unescaped? marker = some c)
    (hwidth : widthOf? marker = none) (k : Text) :
    character? ('\\' :: marker :: k) = some (c, k) := by
  rw [character?, if_pos rfl, escape?]
  simp only [hwidth, h, Option.map_some]

theorem character?_codePoint {marker : Char} {width : ℕ} (h : widthOf? marker = some width)
    (hwidth : 0 < width) (hc : c.toNat < 16 ^ width) (k : Text) :
    character? ('\\' :: marker :: Text.hexadecimal width c.toNat ++ k) = some (c, k) := by
  have hlength := Hexadecimal.length_hexadecimal hwidth hc
  have hvalid : c.toNat.isValidChar := c.valid
  have htake : (Text.hexadecimal width c.toNat ++ k).take width =
      Text.hexadecimal width c.toNat := List.take_left' hlength
  have hdrop : (Text.hexadecimal width c.toNat ++ k).drop width = k := List.drop_left' hlength
  rw [List.cons_append, List.cons_append, character?, if_pos rfl, escape?]
  simp only [h, codePoint?, htake, hdrop, Hexadecimal.number?_hexadecimal]
  simp [hlength, hvalid, Char.ofNat_toNat]

/-- Every character is read as itself, however it is shown. -/
theorem character?_quotedChar (hquote : quote = Text.singleQuote ∨ quote = Text.doubleQuote)
    (c : Char) (k : Text) : character? (Text.quotedChar quote c ++ k) = some (c, k) := by
  unfold Text.quotedChar
  split_ifs with hself htab hline hreturn _ hbyte hword
  · have hmarker : c = '\\' ∨ c = Text.singleQuote ∨ c = Text.doubleQuote := by
      simp only [Bool.or_eq_true, decide_eq_true_eq] at hself
      obtain hself | rfl := hself
      · exact .inl hself
      · exact .inr hquote
    have hread : unescaped? c = some c ∧ widthOf? c = none := by
      obtain rfl | rfl | rfl := hmarker <;> decide
    exact character?_escape hread.1 hread.2 k
  · subst htab
    exact character?_escape (by decide) (by decide) k
  · subst hline
    exact character?_escape (by decide) (by decide) k
  · subst hreturn
    exact character?_escape (by decide) (by decide) k
  · have hplain : c ≠ '\\' := by
      rintro rfl
      simp at hself
    rw [List.singleton_append, character?, if_neg hplain]
  · exact character?_codePoint (by decide) (by decide) (by omega) k
  · exact character?_codePoint (by decide) (by decide) (by omega) k
  · have hc : c.toNat < 0x110000 := by
      have hvalid := c.valid
      simp only [UInt32.isValidChar, Nat.isValidChar] at hvalid
      show c.val.toNat < 0x110000
      omega
    exact character?_codePoint (by decide) (by decide) (by omega) k

/-- What stands for a character does not begin with the quote. -/
theorem exists_quotedChar (hquote : quote = Text.singleQuote ∨ quote = Text.doubleQuote)
    (c : Char) : ∃ first rest, Text.quotedChar quote c = first :: rest ∧ first ≠ quote := by
  have hbackslash : '\\' ≠ quote := by
    obtain rfl | rfl := hquote <;> decide
  have hescaped (t : Text) : ∃ first rest, '\\' :: t = first :: rest ∧ first ≠ quote :=
    ⟨'\\', t, rfl, hbackslash⟩
  unfold Text.quotedChar
  split_ifs with hself
  · exact hescaped [c]
  · exact hescaped ['t']
  · exact hescaped ['n']
  · exact hescaped ['r']
  · have hne : c ≠ quote := by
      rintro rfl
      simp at hself
    exact ⟨c, [], rfl, hne⟩
  · exact hescaped _
  · exact hescaped _
  · exact hescaped _

theorem inside_quotedChar (hquote : quote = Text.singleQuote ∨ quote = Text.doubleQuote) (c : Char)
    (k : Text) :
    inside quote (Text.quotedChar quote c ++ k) =
      (inside quote k).map (Prod.map (c :: ·) id) := by
  obtain ⟨first, rest, hfirst, hne⟩ := exists_quotedChar hquote c
  have hread := character?_quotedChar hquote c k
  rw [hfirst, List.cons_append] at hread ⊢
  rw [inside, if_neg hne]
  split <;> simp_all

theorem inside_flatMap (hquote : quote = Text.singleQuote ∨ quote = Text.doubleQuote) (t k : Text) :
    inside quote (t.flatMap (Text.quotedChar quote) ++ quote :: k) = some (t, k) := by
  induction t with
  | nil => rw [List.flatMap_nil, List.nil_append, inside, if_pos rfl]
  | cons c t ih =>
    rw [List.flatMap_cons, List.append_assoc, inside_quotedChar hquote, ih]
    rfl

theorem quoteFor_eq (t : Text) :
    Text.quoteFor t = Text.singleQuote ∨ Text.quoteFor t = Text.doubleQuote := by
  unfold Text.quoteFor
  split
  · exact .inr rfl
  · exact .inl rfl

end Quoted

/-- A text in quotes of either kind. -/
def Reader.quoted : Reader Text where
  read
    | [] => none
    | c :: rest =>
      if c = Text.singleQuote ∨ c = Text.doubleQuote then Quoted.inside c rest else none
  suffix := by
    intro t rest a h
    cases t with
    | nil => cases h
    | cons c t =>
      dsimp only at h
      split at h
      · exact (Quoted.inside_suffix h).trans (List.suffix_cons c t)
      · cases h

/-- A text in quotes is read as the text, whatever stands behind it. -/
theorem Reader.read_quoted (t k : Text) :
    Reader.quoted.read (Text.quoted t ++ k) = some (t, k) := by
  have hquote := Quoted.quoteFor_eq t
  have hinside := Quoted.inside_flatMap hquote t k
  simpa [Reader.quoted, Text.quoted, hquote] using hinside

/-- Texts in quotes are read one by one when they stand in a list. -/
theorem Reader.list_quoted (ts : List Text) :
    Reader.quoted.list (Text.commaSeparated (ts.map Text.quoted)) = some ts := by
  apply list_commaSeparated
  · rw [List.forall₂_map_left_iff, List.forall₂_same]
    exact fun t _ k _ => read_quoted t k
  · intro written hwritten
    obtain ⟨t, -, rfl⟩ := List.mem_map.mp hwritten
    exact List.cons_ne_nil _ _

end SqlTemplate
