import Mathlib.Data.List.Infix
import SqlTemplate.Fragment

/-!
# Matched braces

What fragment resolution means, position by position and without a pending fragment. An open brace
is matched when the next brace after it closes, a close brace when the previous brace opens. The
tokens between a matched pair stand or fall together, matched braces vanish, and everything else
stays. The automaton that resolves fragments in one pass leaves exactly the tokens that stay.
-/
namespace SqlTemplate
namespace Token

def opens : Token → Bool
  | openBrace _ => true
  | _ => false

def closes : Token → Bool
  | closeBrace _ => true
  | _ => false

/-- What a token leaves in the text if it stays. A brace that opens nothing is a plain one, whatever
text it came with. -/
def residue : Token → Text
  | openBrace _ => ['{']
  | t => t.text

@[simp] theorem isBrace_openBrace (x : Text) : (openBrace x).isBrace = true := rfl

@[simp] theorem isBrace_closeBrace (x : Text) : (closeBrace x).isBrace = true := rfl

@[simp] theorem opens_openBrace (x : Text) : (openBrace x).opens = true := rfl

@[simp] theorem opens_closeBrace (x : Text) : (closeBrace x).opens = false := rfl

@[simp] theorem closes_openBrace (x : Text) : (openBrace x).closes = false := rfl

@[simp] theorem closes_closeBrace (x : Text) : (closeBrace x).closes = true := rfl

/-- Another text for a rendered value and another tag for a placeholder. -/
def retext (g : Text → Text) : Token → Token
  | rendered t => rendered (g t)
  | placeholder tag index offset => placeholder (g tag) index offset
  | t => t

@[simp] theorem opens_retext (g : Text → Text) (t : Token) : (t.retext g).opens = t.opens := by
  cases t <;> rfl

@[simp] theorem closes_retext (g : Text → Text) (t : Token) : (t.retext g).closes = t.closes := by
  cases t <;> rfl

/-- A token opens, closes or is no brace. -/
theorem brace_cases (t : Token) :
    (∃ x, t = .openBrace x) ∨ (∃ x, t = .closeBrace x) ∨ t.isBrace = false := by
  cases t <;> simp [isBrace]

theorem isBrace_eq (t : Token) : t.isBrace = (t.opens || t.closes) := by
  cases t <;> rfl

theorem residue_of_not_isBrace {t : Token} (h : t.isBrace = false) : t.residue = t.text := by
  cases t <;> simp_all [isBrace, residue]

theorem flatMap_residue {tokens : List Token} (h : ∀ t ∈ tokens, t.isBrace = false) :
    tokens.flatMap residue = concat tokens := by
  induction tokens with
  | nil => rfl
  | cons t rest ih =>
    rw [List.forall_mem_cons] at h
    simp [residue_of_not_isBrace h.1, ih h.2]

end Token

namespace Fragment

/-- A position in a token sequence: the tokens before it with the nearest one first, the token that
stands there, and the tokens after it. -/
structure Site where
  before : List Token
  token : Token
  after : List Token

namespace Site

/-- The previous brace opens. -/
def behindOpen (s : Site) : Bool :=
  (s.before.find? Token.isBrace).any Token.opens

/-- The next brace closes. -/
def aheadOfClose (s : Site) : Bool :=
  (s.after.find? Token.isBrace).any Token.closes

/-- The tokens from the previous brace to the next one, both left out. -/
def surroundings (s : Site) : List Token :=
  (s.before.takeWhile (!·.isBrace)).reverse ++ s.token :: s.after.takeWhile (!·.isBrace)

/-- The position lies between a matched pair together with a token that has the pair dropped. -/
def isDropped (drops : Token → Bool) (s : Site) : Bool :=
  s.behindOpen && s.aheadOfClose && s.surroundings.any drops

/-- The token at a position stays: a brace if it is not matched, any other if it is not dropped. -/
def isKept (drops : Token → Bool) (s : Site) : Bool :=
  if s.token.opens then !s.aheadOfClose
  else if s.token.closes then !s.behindOpen
  else !s.isDropped drops

theorem isKept_of_not_isBrace (drops : Token → Bool) {s : Site} (h : s.token.isBrace = false) :
    s.isKept drops = !s.isDropped drops := by
  simp_all [isKept, Token.isBrace_eq]

/-- The position after every token has been replaced. -/
def map (f : Token → Token) (s : Site) : Site :=
  ⟨s.before.map f, f s.token, s.after.map f⟩

/-- Replacing tokens moves nothing, as long as braces stay braces and the same tokens have the pair
around them dropped. -/
theorem isKept_map {f : Token → Token} {drops drops' : Token → Bool} {s : Site}
    (hopens : ∀ t, (f t).opens = t.opens) (hcloses : ∀ t, (f t).closes = t.closes)
    (hdrops : ∀ t ∈ s.surroundings, drops' (f t) = drops t) :
    (s.map f).isKept drops' = s.isKept drops := by
  have hbrace : ∀ t, (f t).isBrace = t.isBrace := by
    simp [Token.isBrace_eq, hopens, hcloses]
  have hfind (ts : List Token) :
      (ts.map f).find? Token.isBrace = (ts.find? Token.isBrace).map f := by
    simp only [List.find?_map, Function.comp_def, hbrace]
  have hbehind : (s.map f).behindOpen = s.behindOpen := by
    simp only [behindOpen, map, hfind, Option.any_map, hopens]
  have hahead : (s.map f).aheadOfClose = s.aheadOfClose := by
    simp only [aheadOfClose, map, hfind, Option.any_map, hcloses]
  have hsurroundings : (s.map f).surroundings = s.surroundings.map f := by
    simp [surroundings, map, List.takeWhile_map, Function.comp_def, hbrace]
  have hdropped : (s.map f).isDropped drops' = s.isDropped drops := by
    have hany : (s.surroundings.map f).any drops' = s.surroundings.any drops := by
      rw [List.any_map, Bool.eq_iff_iff]
      simp only [List.any_eq_true, Function.comp_apply]
      exact exists_congr fun t => and_congr_right fun ht => by rw [hdrops t ht]
    rw [isDropped, isDropped, hbehind, hahead, hsurroundings, hany]
  simp only [isKept, hbehind, hahead, hdropped]
  simp only [map, hopens, hcloses]

end Site

/-- The positions of some tokens that follow the tokens `before`, of which the nearest is first. -/
def sitesFrom (before : List Token) : List Token → List Site
  | [] => []
  | t :: after => ⟨before, t, after⟩ :: sitesFrom (t :: before) after

/-- The tokens that stay, where `drops` tells which tokens have the pair around them dropped. -/
def keptFrom (drops : Token → Bool) (before tokens : List Token) : List Token :=
  ((sitesFrom before tokens).filter (Site.isKept drops)).map Site.token

/-- The tokens of a whole sequence that stay. -/
def kept (drops : Token → Bool) (tokens : List Token) : List Token :=
  keptFrom drops [] tokens

theorem map_token_sitesFrom (before tokens : List Token) :
    (sitesFrom before tokens).map Site.token = tokens := by
  induction tokens generalizing before with
  | nil => rfl
  | cons t after ih => rw [sitesFrom, List.map_cons, ih]

theorem kept_sublist (drops : Token → Bool) (tokens : List Token) :
    (kept drops tokens).Sublist tokens := by
  have h : ((sitesFrom [] tokens).filter (Site.isKept drops)).Sublist (sitesFrom [] tokens) :=
    List.filter_sublist
  have hmap := h.map Site.token
  rwa [map_token_sitesFrom] at hmap

/-- A skip mark and a literal with the marker in it have the pair around them dropped. Rendered
values and placeholders never do, whatever their texts are. -/
def decides (marker : Text) : Token → Bool
  | .skipMark _ => true
  | .literal t => decide (marker <:+: t)
  | _ => false

theorem drops_eq_decides (marker : Text) : drops marker = decides marker := by
  funext t
  cases t with
  | literal t => rw [Bool.eq_iff_iff]; simp [drops, decides, Text.occursIn_iff]
  | _ => rfl

@[simp] theorem keptFrom_nil (drops : Token → Bool) (before : List Token) :
    keptFrom drops before [] = [] := rfl

theorem keptFrom_cons (drops : Token → Bool) (before : List Token) (t : Token)
    (after : List Token) :
    keptFrom drops before (t :: after) =
      (if Site.isKept drops ⟨before, t, after⟩ then [t] else []) ++
        keptFrom drops (t :: before) after := by
  unfold keptFrom
  by_cases h : Site.isKept drops ⟨before, t, after⟩ = true <;> simp [sitesFrom, h]

theorem keptFrom_map {f : Token → Token} {drops drops' : Token → Bool}
    (before tokens : List Token) (hopens : ∀ t, (f t).opens = t.opens)
    (hcloses : ∀ t, (f t).closes = t.closes)
    (hdrops : ∀ t ∈ before ++ tokens, drops' (f t) = drops t) :
    keptFrom drops' (before.map f) (tokens.map f) = (keptFrom drops before tokens).map f := by
  induction tokens generalizing before with
  | nil => rfl
  | cons t after ih =>
    have hrest := ih (t :: before) (by simpa [or_left_comm] using hdrops)
    have hsite : Site.isKept drops' (Site.map f ⟨before, t, after⟩) =
        Site.isKept drops ⟨before, t, after⟩ := by
      apply Site.isKept_map hopens hcloses
      intro u hu
      apply hdrops
      simp only [Site.surroundings, List.mem_append, List.mem_reverse, List.mem_cons] at hu ⊢
      obtain hu | rfl | hu := hu
      · exact .inl (List.takeWhile_subset _ hu)
      · exact .inr (.inl rfl)
      · exact .inr (.inr (List.takeWhile_subset _ hu))
    simp only [Site.map] at hsite
    rw [List.map_cons, keptFrom_cons, keptFrom_cons, hsite, ← List.map_cons, hrest]
    by_cases h : Site.isKept drops ⟨before, t, after⟩ = true <;> simp [h]

theorem kept_map {f : Token → Token} {drops drops' : Token → Bool} (tokens : List Token)
    (hopens : ∀ t, (f t).opens = t.opens) (hcloses : ∀ t, (f t).closes = t.closes)
    (hdrops : ∀ t ∈ tokens, drops' (f t) = drops t) :
    kept drops' (tokens.map f) = (kept drops tokens).map f :=
  keptFrom_map [] tokens hopens hcloses hdrops

/-- A stretch without braces lies between a matched pair, with a token that has it dropped. -/
def falls (drops : Token → Bool) (before run after : List Token) : Bool :=
  (before.find? Token.isBrace).any Token.opens && (after.find? Token.isBrace).any Token.closes &&
    (before.takeWhile (!·.isBrace) ++ run ++ after.takeWhile (!·.isBrace)).any drops

theorem isDropped_eq_falls (drops : Token → Bool) (s : Site) :
    s.isDropped drops = falls drops s.before [s.token] s.after := by
  simp [Site.isDropped, Site.behindOpen, Site.aheadOfClose, Site.surroundings, falls]

/-- Tokens without braces may be counted to the stretch or to what comes after it. -/
theorem falls_append_after (drops : Token → Bool) (before run more after : List Token)
    (h : ∀ t ∈ more, t.isBrace = false) :
    falls drops before run (more ++ after) = falls drops before (run ++ more) after := by
  have hfind : more.find? Token.isBrace = none := by simpa using h
  have htake : (more ++ after).takeWhile (!·.isBrace) = more ++ after.takeWhile (!·.isBrace) :=
    List.takeWhile_append_of_pos (by simpa using h)
  simp only [falls, List.find?_append, hfind, Option.none_or, htake, List.append_assoc]

/-- A token that is no brace may be counted to the stretch or to what comes before it. -/
theorem falls_cons_before (drops : Token → Bool) (before run after : List Token) (t : Token)
    (h : t.isBrace = false) :
    falls drops (t :: before) run after = falls drops before (t :: run) after := by
  simp [falls, h, Bool.or_left_comm]

/-- A stretch without braces stays or falls as a whole. -/
theorem keptFrom_run (drops : Token → Bool) (before run rest : List Token)
    (hrun : ∀ t ∈ run, t.isBrace = false) :
    keptFrom drops before (run ++ rest) =
      (if falls drops before run rest then [] else run) ++
        keptFrom drops (run.reverse ++ before) rest := by
  induction run generalizing before with
  | nil => simp
  | cons t run ih =>
    rw [List.forall_mem_cons] at hrun
    obtain ⟨ht, hrun⟩ := hrun
    have hsite : Site.isKept drops ⟨before, t, run ++ rest⟩ =
        !falls drops before (t :: run) rest := by
      rw [Site.isKept_of_not_isBrace drops ht, isDropped_eq_falls,
        falls_append_after _ _ _ _ _ hrun]
      rfl
    rw [List.cons_append, keptFrom_cons, hsite, ih (t :: before) hrun,
      falls_cons_before _ _ _ _ _ ht]
    by_cases h : falls drops before (t :: run) rest = true <;> simp [h]

/-- Between a matched pair all tokens stay, or none. -/
theorem keptFrom_open_close (drops : Token → Bool) (before run rest : List Token) (x y : Text)
    (hrun : ∀ t ∈ run, t.isBrace = false) :
    keptFrom drops before (.openBrace x :: (run ++ .closeBrace y :: rest)) =
      (if run.any drops then [] else run) ++
        keptFrom drops (.closeBrace y :: (run.reverse ++ .openBrace x :: before)) rest := by
  have hfind : run.find? Token.isBrace = none := by simpa using hrun
  have hopen : Site.isKept drops ⟨before, .openBrace x, run ++ .closeBrace y :: rest⟩ =
      false := by
    simp [Site.isKept, Site.aheadOfClose, hfind, List.find?_cons]
  have hclose : Site.isKept drops ⟨run.reverse ++ .openBrace x :: before, .closeBrace y, rest⟩ =
      false := by
    have hback : run.reverse.find? Token.isBrace = none := by simpa using hrun
    simp [Site.isKept, Site.behindOpen, hback, List.find?_cons]
  have hfalls : falls drops (.openBrace x :: before) run (.closeBrace y :: rest) =
      run.any drops := by
    simp [falls, List.find?_cons]
  rw [keptFrom_cons, hopen, keptFrom_run _ _ _ _ hrun, hfalls, keptFrom_cons, hclose]
  simp

/-- An open brace that the next brace does not close stays, and so do the tokens up to that
brace. -/
theorem keptFrom_open_run (drops : Token → Bool) (before run rest : List Token) (x : Text)
    (hrun : ∀ t ∈ run, t.isBrace = false)
    (hrest : (rest.find? Token.isBrace).any Token.closes = false) :
    keptFrom drops before (.openBrace x :: (run ++ rest)) =
      .openBrace x :: (run ++ keptFrom drops (run.reverse ++ .openBrace x :: before) rest) := by
  have hfind : run.find? Token.isBrace = none := by simpa using hrun
  have hopen : Site.isKept drops ⟨before, .openBrace x, run ++ rest⟩ = true := by
    simp [Site.isKept, Site.aheadOfClose, hfind, hrest]
  have hfalls : falls drops (.openBrace x :: before) run rest = false := by
    simp [falls, hrest]
  rw [keptFrom_cons, hopen, keptFrom_run _ _ _ _ hrun, hfalls]
  simp

/-- A token behind no open brace stays, unless it opens. -/
theorem keptFrom_outside (drops : Token → Bool) (before rest : List Token) (t : Token)
    (hbefore : (before.find? Token.isBrace).any Token.opens = false) (ht : t.opens = false) :
    keptFrom drops before (t :: rest) = t :: keptFrom drops (t :: before) rest := by
  have hkept : Site.isKept drops ⟨before, t, rest⟩ = true := by
    cases t <;> simp_all [Site.isKept, Site.isDropped, Site.behindOpen, Token.opens]
  rw [keptFrom_cons, hkept]
  rfl

theorem resolveFrom_none_cons (marker : Text) (t : Token) (rest : List Token)
    (h : t.isBrace = false) :
    resolveFrom marker none (t :: rest) = (resolveFrom marker none rest).prepend t.text := by
  cases t <;> simp_all [resolveFrom, Token.isBrace]

theorem resolveFrom_some_cons (marker : Text) (fragment : List Token) (t : Token)
    (rest : List Token) (h : t.isBrace = false) :
    resolveFrom marker (some fragment) (t :: rest) =
      resolveFrom marker (some (fragment ++ [t])) rest := by
  cases t <;> simp_all [resolveFrom, Token.isBrace]

/-- The invariant of the pass. Without a pending fragment the previous brace does not open; a
pending fragment has the same outcome as its open brace and its tokens would have if they were read
again. -/
structure Resolves (marker : Text) (tokens : List Token) : Prop where
  outside : ∀ before : List Token, (before.find? Token.isBrace).any Token.opens = false →
    (resolveFrom marker none tokens).text =
      (keptFrom (decides marker) before tokens).flatMap Token.residue
  inside : ∀ (before : List Token) (x : Text) (fragment : List Token),
    (∀ t ∈ fragment, t.isBrace = false) →
    (resolveFrom marker (some fragment) tokens).text =
      (keptFrom (decides marker) before (.openBrace x :: (fragment ++ tokens))).flatMap
        Token.residue

/-- The end leaves a pending fragment with its open brace. -/
theorem resolves_nil (marker : Text) : Resolves marker [] where
  outside := fun _ _ => rfl
  inside := by
    intro before x fragment hfragment
    rw [keptFrom_open_run _ _ _ _ _ hfragment rfl]
    simp [resolveFrom, unclosed, Token.residue, Token.flatMap_residue hfragment]

/-- An open brace leaves a pending fragment with its own and begins another one. -/
theorem resolves_openBrace {marker : Text} {rest : List Token} (h : Resolves marker rest)
    (y : Text) : Resolves marker (.openBrace y :: rest) where
  outside := by
    intro before _
    have hinside := h.inside before y [] (by simp)
    simpa [resolveFrom, unclosed] using hinside
  inside := by
    intro before x fragment hfragment
    have hinside := h.inside (fragment.reverse ++ .openBrace x :: before) y [] (by simp)
    rw [List.nil_append] at hinside
    rw [keptFrom_open_run _ _ _ _ _ hfragment rfl]
    simp [resolveFrom, unclosed, hinside, Token.residue, Token.flatMap_residue hfragment]

/-- A close brace ends a pending fragment, which stays or is dropped. -/
theorem resolves_closeBrace {marker : Text} {rest : List Token} (h : Resolves marker rest)
    (y : Text) : Resolves marker (.closeBrace y :: rest) where
  outside := by
    intro before hbefore
    have houtside := h.outside (.closeBrace y :: before) rfl
    rw [keptFrom_outside _ _ _ _ hbefore rfl]
    simp [resolveFrom, houtside, Token.residue, Token.text]
  inside := by
    intro before x fragment hfragment
    have houtside := h.outside (.closeBrace y :: (fragment.reverse ++ .openBrace x :: before)) rfl
    rw [← drops_eq_decides] at houtside
    rw [keptFrom_open_close _ _ _ _ _ _ hfragment, ← drops_eq_decides]
    by_cases hdrop : fragment.any (drops marker) = true
    · simp [resolveFrom, isDropped, hdrop, houtside]
    · simp [resolveFrom, isDropped, hdrop, houtside, Token.flatMap_residue hfragment]

/-- A token that is no brace stays, or joins a pending fragment. -/
theorem resolves_cons {marker : Text} {rest : List Token} (h : Resolves marker rest) {t : Token}
    (ht : t.isBrace = false) : Resolves marker (t :: rest) where
  outside := by
    intro before hbefore
    have hopens : t.opens = false := by simp_all [Token.isBrace_eq]
    have houtside := h.outside (t :: before) (by simpa [ht] using hbefore)
    rw [resolveFrom_none_cons _ _ _ ht, keptFrom_outside _ _ _ _ hbefore hopens]
    simp [houtside, Token.residue_of_not_isBrace ht]
  inside := by
    intro before x fragment hfragment
    have hinside := h.inside before x (fragment ++ [t])
      (by simpa [or_imp, forall_and, ht] using hfragment)
    rw [resolveFrom_some_cons _ _ _ _ ht]
    simpa using hinside

theorem resolves (marker : Text) (tokens : List Token) : Resolves marker tokens := by
  induction tokens with
  | nil => exact resolves_nil marker
  | cons t rest ih =>
    obtain ⟨y, rfl⟩ | ⟨y, rfl⟩ | ht := t.brace_cases
    · exact resolves_openBrace ih y
    · exact resolves_closeBrace ih y
    · exact resolves_cons ih ht

/-- Resolution leaves the tokens that stay, in order. -/
theorem text_resolve (marker : Text) (tokens : List Token) :
    (resolve marker tokens).text = (kept (decides marker) tokens).flatMap Token.residue :=
  (resolves marker tokens).outside [] rfl

/-- In nested braces only the inner pair is matched, and the outer braces stay. -/
example :
    (resolve ['!'] [.openBrace ['{'], .literal ['a'], .openBrace ['{'], .literal ['b'],
      .skipMark ['!'], .closeBrace ['}'], .closeBrace ['}']]).text = "\x7ba\x7d".toList := rfl

/-- Resolution leaves the tokens that stay, in order, and which ones stay does not hang on the texts
of rendered values and placeholders. -/
theorem text_resolve_eq_kept (marker : Text) (tokens : List Token) :
    (resolve marker tokens).text = (kept (decides marker) tokens).flatMap Token.residue ∧
    ∀ g : Text → Text, (resolve marker (tokens.map (Token.retext g))).text =
      ((kept (decides marker) tokens).map (Token.retext g)).flatMap Token.residue := by
  refine ⟨text_resolve marker tokens, fun g => ?_⟩
  rw [text_resolve, kept_map tokens (Token.opens_retext g) (Token.closes_retext g)]
  intro t _
  cases t <;> rfl

end Fragment
end SqlTemplate
