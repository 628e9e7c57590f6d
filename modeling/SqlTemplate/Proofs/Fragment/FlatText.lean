import SqlTemplate.Proofs.Fragment.Matching
import SqlTemplate.Proofs.Token.Concatenation

/-!
# Tokens and their flat text

Resolution looks at braces and markers, and of the tokens between them at their text only.

## Runs between braces

Resolution stops at braces only. A run of other tokens is copied, or waits as a whole; and where no
fragment is left open, what comes next is resolved as if nothing stood before it.
-/
namespace SqlTemplate

namespace Fragment

namespace Resolution

/-- What is left of two token sequences that were resolved one after the other. -/
def append (r s : Resolution) : Resolution :=
  ⟨r.text ++ s.text, r.dropped + s.dropped⟩

@[simp] theorem text_append (r s : Resolution) : (r.append s).text = r.text ++ s.text := rfl

theorem prepend_append (front : Text) (r s : Resolution) :
    (r.append s).prepend front = (r.prepend front).append s := by
  simp [append, prepend]

theorem countDropped_append (r s : Resolution) :
    (r.append s).countDropped = r.countDropped.append s := by
  simp [append, countDropped, Nat.add_right_comm]

end Resolution

/-- Outside a fragment a run is copied. -/
theorem resolveFrom_none_append (marker : Text) (run rest : List Token)
    (hrun : ∀ t ∈ run, t.isBrace = false) :
    resolveFrom marker none (run ++ rest) =
      (resolveFrom marker none rest).prepend (Token.concat run) := by
  induction run with
  | nil => rfl
  | cons t run ih =>
    rw [List.forall_mem_cons] at hrun
    rw [List.cons_append, resolveFrom_none_cons _ _ _ hrun.1, ih hrun.2]
    simp [Resolution.prepend]

/-- Inside a fragment a run joins what waits. -/
theorem resolveFrom_some_append (marker : Text) (fragment run rest : List Token)
    (hrun : ∀ t ∈ run, t.isBrace = false) :
    resolveFrom marker (some fragment) (run ++ rest) =
      resolveFrom marker (some (fragment ++ run)) rest := by
  induction run generalizing fragment with
  | nil => simp
  | cons t run ih =>
    rw [List.forall_mem_cons] at hrun
    rw [List.cons_append, resolveFrom_some_cons _ _ _ _ hrun.1, ih _ hrun.2, List.append_assoc]
    rfl

/-- Without braces there is nothing to resolve. -/
theorem resolve_run (marker : Text) (run : List Token) (hrun : ∀ t ∈ run, t.isBrace = false) :
    resolve marker run = ⟨Token.concat run, 0⟩ := by
  have h := resolveFrom_none_append marker run [] hrun
  simpa [resolve, resolveFrom, unclosed, Resolution.prepend] using h

/-- A fragment in front of other tokens is dropped or kept, and leaves none open. -/
theorem resolve_fragment (marker x y : Text) (run rest : List Token)
    (hrun : ∀ t ∈ run, t.isBrace = false) :
    (resolve marker (.openBrace x :: (run ++ .closeBrace y :: rest))).text =
      (if isDropped marker run then [] else Token.concat run) ++ (resolve marker rest).text := by
  have hwait := resolveFrom_some_append marker [] run (.closeBrace y :: rest) hrun
  rw [List.nil_append] at hwait
  simp only [resolve, resolveFrom, unclosed, hwait]
  split_ifs <;> rfl

/-- The last brace so far, where a pending fragment comes with the open one in front of it. -/
def lastBrace? (pending : Option (List Token)) (tokens : List Token) : Option Char :=
  (Token.braces tokens).getLast?.or (pending.map fun _ => '{')

theorem lastBrace?_openBrace (pending : Option (List Token)) (x : Text) (tokens : List Token) :
    lastBrace? pending (.openBrace x :: tokens) = lastBrace? (some []) tokens := by
  simp [lastBrace?, List.getLast?_cons]

theorem lastBrace?_closeBrace_ne (pending : Option (List Token)) (x : Text)
    (tokens : List Token) :
    lastBrace? pending (.closeBrace x :: tokens) ≠ some '{' ↔
      lastBrace? none tokens ≠ some '{' := by
  cases h : (Token.braces tokens).getLast? <;> simp [lastBrace?, List.getLast?_cons, h]

theorem lastBrace?_cons (pending : Option (List Token)) {t : Token} (h : t.isBrace = false)
    (tokens : List Token) : lastBrace? pending (t :: tokens) = lastBrace? pending tokens := by
  rw [lastBrace?, lastBrace?, Token.braces_cons h]

/-- Tokens that leave no fragment open are resolved on their own. -/
theorem resolveFrom_append (marker : Text) (pending : Option (List Token))
    (front back : List Token) (h : lastBrace? pending front ≠ some '{') :
    resolveFrom marker pending (front ++ back) =
      (resolveFrom marker pending front).append (resolve marker back) := by
  induction front generalizing pending with
  | nil =>
    cases pending with
    | none => simp [resolveFrom, unclosed, Resolution.append, resolve]
    | some fragment => exact absurd rfl h
  | cons t front ih =>
    obtain ⟨x, rfl⟩ | ⟨x, rfl⟩ | ht := t.brace_cases
    · rw [lastBrace?_openBrace] at h
      simp only [List.cons_append, resolveFrom, ih _ h, Resolution.prepend_append]
    · rw [lastBrace?_closeBrace_ne] at h
      cases pending with
      | none => simp only [List.cons_append, resolveFrom, ih _ h, Resolution.prepend_append]
      | some fragment =>
        simp only [List.cons_append, resolveFrom, ih _ h]
        split_ifs
        · rw [Resolution.countDropped_append]
        · rw [Resolution.prepend_append]
    · rw [lastBrace?_cons _ ht] at h
      cases pending with
      | none =>
        rw [List.cons_append, resolveFrom_none_cons _ _ _ ht, resolveFrom_none_cons _ _ _ ht,
          ih _ h, Resolution.prepend_append]
      | some fragment =>
        rw [List.cons_append, resolveFrom_some_cons _ _ _ _ ht, resolveFrom_some_cons _ _ _ _ ht]
        exact ih _ h

end Fragment

/-!
## Reading the flat text again

Once tokens have become text, only braces and markers can be told from the rest. Read again, the
text has one literal for each run between braces. Resolution then does what it does to the tokens,
as long as the marker stands in the text of a run exactly if it has the fragment dropped.
-/

namespace Token

/-- A token whose text holds a brace only if it is that brace. -/
def IsFlat : Token → Prop
  | openBrace t => t = ['{']
  | closeBrace t => t = ['}']
  | t => '{' ∉ t.text ∧ '}' ∉ t.text

theorem IsFlat.of_not_isBrace {t : Token} (h : t.IsFlat) (ht : t.isBrace = false) :
    '{' ∉ t.text ∧ '}' ∉ t.text := by
  cases t with
  | openBrace | closeBrace => cases ht
  | _ => exact h

theorem not_mem_concat {run : List Token} (hflat : ∀ t ∈ run, t.IsFlat)
    (hrun : ∀ t ∈ run, t.isBrace = false) : '{' ∉ concat run ∧ '}' ∉ concat run := by
  simp only [concat, List.mem_flatMap, not_exists, not_and]
  exact ⟨fun t ht => ((hflat t ht).of_not_isBrace (hrun t ht)).1,
    fun t ht => ((hflat t ht).of_not_isBrace (hrun t ht)).2⟩

/-- Text as a literal, if there is any. -/
def solid (t : Text) : List Token :=
  if t.isEmpty then [] else [literal t]

@[simp] theorem concat_solid (t : Text) : concat (solid t) = t := by
  cases t with
  | nil => rfl
  | cons c t => simp [solid, text]

theorem isBrace_of_mem_solid (t : Text) : ∀ u ∈ solid t, u.isBrace = false := by
  cases t <;> simp [solid, isBrace]

/-- Without braces, text in which question marks have no meaning is one literal. -/
theorem readFrom_solid {t : Text} (hopen : '{' ∉ t) (hclose : '}' ∉ t) (index offset : ℕ) :
    readFrom false index offset t = solid t := by
  induction t generalizing offset with
  | nil => rfl
  | cons c t ih =>
    rw [List.mem_cons, not_or] at hopen hclose
    rw [readFrom_literal (Ne.symm hopen.1) (Ne.symm hclose.1) (by simp), ih hopen.2 hclose.2]
    cases t <;> rfl

/-- The text of a run and a brace is read as one literal and the brace. -/
theorem readFrom_concat_run {run : List Token} {t : Token} (hflat : ∀ u ∈ run, u.IsFlat)
    (hrun : ∀ u ∈ run, u.isBrace = false) (hbrace : t.IsFlat) (ht : t.isBrace = true)
    (index offset : ℕ) (rest : Text) :
    ∃ i o, readFrom false index offset (concat run ++ (t.text ++ rest)) =
      solid (concat run) ++ t :: readFrom false i o rest := by
  have hmem := not_mem_concat hflat hrun
  have hbare : BeginsBare (t.text ++ rest) := by
    cases t with
    | openBrace x => cases hbrace; simp [BeginsBare, text]
    | closeBrace x => cases hbrace; simp [BeginsBare, text]
    | _ => cases ht
  rw [readFrom_append _ _ _ _ hbare, readFrom_solid hmem.1 hmem.2]
  cases t with
  | openBrace x => cases hbrace; exact ⟨_, _, rfl⟩
  | closeBrace x => cases hbrace; exact ⟨_, _, rfl⟩
  | _ => cases ht

/-- What holds of the tokens after a brace may be assumed when the run before it is added. -/
theorem induction_on_runs {motive : List Token → Prop}
    (run : ∀ run, (∀ t ∈ run, t.isBrace = false) → motive run)
    (brace : ∀ run t rest, (∀ t ∈ run, t.isBrace = false) → t.isBrace = true → motive rest →
      motive (run ++ t :: rest)) (tokens : List Token) : motive tokens := by
  suffices h : ∀ front, (∀ t ∈ front, t.isBrace = false) → motive (front ++ tokens) from
    h [] (by simp)
  induction tokens with
  | nil => simpa using run
  | cons t rest ih =>
    intro front hfront
    cases ht : t.isBrace with
    | true => exact brace front t rest hfront ht (ih [] (by simp))
    | false =>
      have h := ih (front ++ [t]) (by simpa [or_imp, forall_and, ht] using hfront)
      simpa using h

end Token

namespace Fragment

/-- In every run the marker stands in the text exactly if a token has the fragment dropped. -/
def ShowsMarker (marker : Text) (tokens : List Token) : Prop :=
  ∀ run, run <:+: tokens → (∀ t ∈ run, t.isBrace = false) →
    (marker <:+: Token.concat run ↔ isDropped marker run = true)

theorem ShowsMarker.of_part {marker : Text} {part tokens : List Token}
    (h : ShowsMarker marker tokens) (hpart : part <:+: tokens) : ShowsMarker marker part :=
  fun run hrun => h run (List.IsInfix.trans hrun hpart)

theorem isDropped_solid {marker : Text} {run : List Token} (h : ShowsMarker marker run)
    (hrun : ∀ t ∈ run, t.isBrace = false) :
    isDropped marker (Token.solid (Token.concat run)) = isDropped marker run := by
  have hempty := h [] List.nil_infix (by simp)
  rw [Bool.eq_iff_iff, ← h run List.infix_rfl hrun]
  cases hconcat : Token.concat run with
  | nil => exact hempty.symm
  | cons c t => simp [isDropped, Token.solid, drops, Text.occursIn_iff]

/-- A run and the literal of its text are resolved alike in front of a brace, if what follows the
brace is. -/
theorem resolveFrom_solid_brace {marker : Text} {run rest rest' : List Token} {t : Token}
    (hrun : ∀ u ∈ run, u.isBrace = false) (ht : t.isBrace = true)
    (hdropped : isDropped marker (Token.solid (Token.concat run)) = isDropped marker run)
    (hnone : resolveFrom marker none rest' = resolveFrom marker none rest)
    (hsome : resolveFrom marker (some []) rest' = resolveFrom marker (some []) rest) :
    resolveFrom marker none (Token.solid (Token.concat run) ++ t :: rest') =
        resolveFrom marker none (run ++ t :: rest) ∧
      resolveFrom marker (some []) (Token.solid (Token.concat run) ++ t :: rest') =
        resolveFrom marker (some []) (run ++ t :: rest) := by
  have hsolid := Token.isBrace_of_mem_solid (Token.concat run)
  rw [resolveFrom_none_append _ _ _ hsolid, resolveFrom_none_append _ _ _ hrun,
    resolveFrom_some_append _ _ _ _ hsolid, resolveFrom_some_append _ _ _ _ hrun,
    Token.concat_solid]
  cases t with
  | openBrace x =>
    simp only [resolveFrom, hsome, unclosed, List.nil_append, Token.concat_solid, and_self]
  | closeBrace x =>
    simp only [resolveFrom, hnone, hdropped, List.nil_append, Token.concat_solid, and_self]
  | _ => cases ht

/-- Flat text is resolved like its tokens, whether a fragment has just been opened or none is. -/
theorem resolveFrom_readFrom_concat {marker : Text} {tokens : List Token}
    (hflat : ∀ t ∈ tokens, t.IsFlat) (hshows : ShowsMarker marker tokens) (index offset : ℕ) :
    resolveFrom marker none (Token.readFrom false index offset (Token.concat tokens)) =
        resolveFrom marker none tokens ∧
      resolveFrom marker (some []) (Token.readFrom false index offset (Token.concat tokens)) =
        resolveFrom marker (some []) tokens := by
  induction tokens using Token.induction_on_runs generalizing index offset with
  | run run hrun =>
    have hmem := Token.not_mem_concat hflat hrun
    have hsolid := Token.isBrace_of_mem_solid (Token.concat run)
    rw [Token.readFrom_solid hmem.1 hmem.2]
    constructor
    · have h := resolve_run marker _ hsolid
      rw [Token.concat_solid] at h
      exact h.trans (resolve_run marker run hrun).symm
    · have h := resolveFrom_some_append marker [] _ [] hsolid
      have h' := resolveFrom_some_append marker [] run [] hrun
      rw [List.append_nil] at h h'
      rw [h, h']
      simp [resolveFrom, unclosed]
  | brace run t rest hrun ht ih =>
    rw [List.forall_mem_append, List.forall_mem_cons] at hflat
    obtain ⟨hflatRun, hflatBrace, hflatRest⟩ := hflat
    have hdropped := isDropped_solid (hshows.of_part List.infix_append_left) hrun
    have hrest : ShowsMarker marker rest := hshows.of_part ⟨run ++ [t], [], by simp⟩
    obtain ⟨i, o, hread⟩ :=
      Token.readFrom_concat_run hflatRun hrun hflatBrace ht index offset (Token.concat rest)
    obtain ⟨hnone, hsome⟩ := ih hflatRest hrest i o
    rw [Token.concat_append, Token.concat_cons, hread]
    exact resolveFrom_solid_brace hrun ht hdropped hnone hsome

/-- Flat text is resolved like its tokens. -/
theorem resolveText_concat {marker : Text} {tokens : List Token} (hflat : ∀ t ∈ tokens, t.IsFlat)
    (hshows : ShowsMarker marker tokens) :
    resolveText marker (Token.concat tokens) = resolve marker tokens :=
  (resolveFrom_readFrom_concat hflat hshows 0 0).1

end Fragment
end SqlTemplate
