import SqlTemplate.Proofs.Builder.Refusal
import SqlTemplate.Proofs.Builder.Skeleton

/-!
# The first failure of a build

A build goes through the placeholders in order and stops at the first one whose argument cannot be
rendered, in a fragment or not, dropped or not. The failure comes out with the number and the tag of
that placeholder, and no argument behind it has a say.
-/
namespace SqlTemplate.Builder

/-- Rendering fails on a placeholder of the template, whose argument does not skip it. -/
structure FailsAt (b : Builder) (template : Text) (args : List Argument) (tag : Text) (index : ℕ)
    (failure : Failure) : Prop where
  mem : ∃ offset, .placeholder tag index offset ∈ Token.read template
  kept : (args.getD index .null).isSkip = false
  failed : b.renderAt args tag index = .error failure

/-- Rendering fails on a placeholder, and on none before it. -/
structure FailsFirstAt (b : Builder) (template : Text) (args : List Argument) (tag : Text)
    (index : ℕ) (failure : Failure) : Prop extends FailsAt b template args tag index failure where
  first : ∀ tag' index' failure', b.FailsAt template args tag' index' failure' → index ≤ index'

theorem bindAt_eq_error_iff {b : Builder} {args : List Argument} {t : Token} {r : Refused} :
    b.bindAt args t = .error r ↔
      t = .placeholder r.tag r.index r.offset ∧ (args.getD r.index .null).isSkip = false ∧
        b.renderAt args r.tag r.index = .error r.failure := by
  constructor
  · intro h
    cases t with
    | placeholder tag index offset =>
      rw [bindAt_placeholder] at h
      split_ifs at h with hskip
      cases hrender : b.renderAt args tag index with
      | ok t => rw [hrender] at h; cases h
      | error failure =>
        rw [hrender] at h
        cases h
        exact ⟨rfl, Bool.eq_false_iff.mpr hskip, hrender⟩
    | _ => cases h
  · rintro ⟨rfl, hskip, hrender⟩
    rw [bindAt_placeholder, hskip, hrender]
    rfl

/-- Binding looks at the argument of the placeholder's own number only. -/
theorem bindAt_congr (b : Builder) {args args' : List Argument} {tag : Text} {index offset : ℕ}
    (h : args'.getD index .null = args.getD index .null) :
    b.bindAt args' (.placeholder tag index offset) =
      b.bindAt args (.placeholder tag index offset) := by
  rw [bindAt, bindAt, h]

theorem failsAt_iff {b : Builder} {template tag : Text} {args : List Argument} {index : ℕ}
    {failure : Failure} :
    b.FailsAt template args tag index failure ↔
      ∃ offset, .placeholder tag index offset ∈ Token.read template ∧
        b.bindAt args (.placeholder tag index offset) = .error ⟨tag, index, offset, failure⟩ := by
  constructor
  · rintro ⟨⟨offset, hmem⟩, hkept, hfailed⟩
    exact ⟨offset, hmem, bindAt_eq_error_iff.mpr ⟨rfl, hkept, hfailed⟩⟩
  · rintro ⟨offset, hmem, hbind⟩
    obtain ⟨-, hkept, hfailed⟩ := bindAt_eq_error_iff.mp hbind
    exact ⟨⟨offset, hmem⟩, hkept, hfailed⟩

/-- A failure of substitution is a failure at a placeholder. -/
theorem failsAt_of_substitute {b : Builder} {template : Text} {args : List Argument} {r : Refused}
    (h : b.substitute (Token.read template) args = .error r) :
    b.FailsAt template args r.tag r.index r.failure := by
  rw [substitute_read] at h
  obtain ⟨t, hmem, hbind⟩ := exists_of_mapM_eq_error h
  obtain ⟨rfl, -, -⟩ := bindAt_eq_error_iff.mp hbind
  exact failsAt_iff.mpr ⟨r.offset, hmem, hbind⟩

/-- A failure at a placeholder is enough for substitution to fail. -/
theorem exists_substitute_of_failsAt {b : Builder} {template tag : Text} {args : List Argument}
    {index : ℕ} {failure : Failure} (h : b.FailsAt template args tag index failure) :
    ∃ r, b.substitute (Token.read template) args = .error r := by
  obtain ⟨offset, hmem, hbind⟩ := failsAt_iff.mp h
  cases hs : b.substitute (Token.read template) args with
  | error r => exact ⟨r, rfl⟩
  | ok substituted =>
    have hok := (eq_placed_of_substitute hs).1 _ hmem
    rw [hbind] at hok
    cases hok

/-- Substitution stops at the first failure, for all arguments that are the same up to there. -/
theorem substitute_of_failsAt {b : Builder} {template tag : Text} {args args' : List Argument}
    {index : ℕ} {failure : Failure} (h : b.FailsFirstAt template args tag index failure)
    (hsame : ∀ i ≤ index, args'.getD i .null = args.getD i .null) :
    ∃ offset, b.substitute (Token.read template) args' = .error ⟨tag, index, offset, failure⟩ := by
  obtain ⟨offset, hmem, hbind⟩ := failsAt_iff.mp h.toFailsAt
  obtain ⟨front, back, hsplit⟩ := List.mem_iff_append.mp hmem
  refine ⟨offset, ?_⟩
  rw [substitute_read, hsplit]
  refine mapM_append_of_error (fun t ht => ?_) ((bindAt_congr b (hsame index le_rfl)).trans hbind)
  -- A token in front that fails would be an earlier failure.
  cases hat : b.bindAt args' t with
  | ok u => exact ⟨u, rfl⟩
  | error r =>
    obtain ⟨rfl, -, -⟩ := bindAt_eq_error_iff.mp hat
    have hlt : r.index < index := Token.index_lt_of_read_eq hsplit ht
    rw [bindAt_congr b (hsame r.index hlt.le)] at hat
    have hmem' : .placeholder r.tag r.index r.offset ∈ Token.read template := by
      rw [hsplit]
      exact List.mem_append_left _ ht
    have hle := h.first r.tag r.index r.failure (failsAt_iff.mpr ⟨r.offset, hmem', hat⟩)
    omega

/-- How the failure of a placeholder comes out of a build: a format error keeps its problem, hence
its message, and its kind of value, and it keeps its tag and its position if it has them, or else
gets those of the placeholder; any other failure comes out as it is. -/
def PassesOn (tag : Text) (index : ℕ) : Failure → Failure → Prop
  | .format e, .format out =>
    out.problem = e.problem ∧ out.message = e.message ∧ out.kind = e.kind ∧
      out.tag = some (e.tag.getD tag) ∧ out.position = some (e.position.getD index)
  | failure, out => out = failure

theorem passesOn_annotate (tag : Text) (index : ℕ) (failure : Failure) :
    PassesOn tag index failure (failure.annotate (some tag) (some index)) := by
  cases failure with
  | format e =>
    refine ⟨rfl, rfl, rfl, ?_, ?_⟩
    · cases htag : e.tag <;> simp [FormatError.annotate, htag]
    · cases hposition : e.position <;> simp [FormatError.annotate, hposition]
  | _ => rfl

/-- With an escaper of the library, and if names can be quoted, no format error knows another
placeholder than its own. -/
theorem tag_position_of_failsAt {b : Builder} {template tag : Text} {args : List Argument}
    {index : ℕ} {e out : FormatError} (hescape : Escaping.IsOwn b.compiler.escape)
    (hquotes : b.compiler.dialect.Quotes)
    (h : b.FailsAt template args tag index (.format e))
    (hout : PassesOn tag index (.format e) (.format out)) :
    out.tag = some tag ∧ out.position = some (index : Int) := by
  obtain ⟨e', he, hposition, htag⟩ | ⟨rule, -, hdefeats⟩ :=
    failsOnly_render hescape hquotes _ tag _ h.failed
  · cases he
    obtain ⟨-, -, -, houtTag, houtPosition⟩ := hout
    exact ⟨by rw [houtTag, htag]; rfl, by rw [houtPosition, hposition]; rfl⟩
  · cases hdefeats

/-- The leftmost failure decides. Where the counts pass, a build fails exactly if rendering fails on
some placeholder; its failure is that of the first such placeholder, passed on, and stays the same
for all arguments that are the same up to there. -/
theorem build_fails_first {b : Builder} {template : Text} {args : List Argument}
    (hcount : b.CountFits template args) :
    ((∃ failure, (b.build template args).outcome = .error failure) ↔
      ∃ tag index failure, b.FailsAt template args tag index failure) ∧
    ∀ tag index failure, b.FailsFirstAt template args tag index failure →
      ∃ out, PassesOn tag index failure out ∧
        (Escaping.IsOwn b.compiler.escape → b.compiler.dialect.Quotes → ∀ e, out = .format e →
          e.tag = some tag ∧ e.position = some (index : Int)) ∧
        ∀ args' : List Argument, b.CountFits template args' →
          (∀ i ≤ index, args'.getD i .null = args.getD i .null) →
          (b.build template args').outcome = .error out := by
  refine ⟨⟨?_, ?_⟩, fun tag index failure h => ?_⟩
  · rintro ⟨failure, h⟩
    obtain ⟨r, hs, -⟩ := (outcome_build_eq_error_iff hcount).mp h
    exact ⟨_, _, _, failsAt_of_substitute hs⟩
  · rintro ⟨tag, index, failure, h⟩
    obtain ⟨r, hs⟩ := exists_substitute_of_failsAt h
    exact ⟨_, (outcome_build_eq_error_iff hcount).mpr ⟨r, hs, rfl⟩⟩
  · refine ⟨_, passesOn_annotate tag index failure, ?_, fun args' hcount' hsame => ?_⟩
    · intro hescape hquotes e he
      cases failure with
      | format e' =>
        have hpass := passesOn_annotate tag index (.format e')
        rw [he] at hpass
        exact tag_position_of_failsAt hescape hquotes h.toFailsAt hpass
      | _ => cases he
    · obtain ⟨offset, hs⟩ := substitute_of_failsAt h hsame
      exact (outcome_build_eq_error_iff hcount').mpr ⟨_, hs, rfl⟩

/-- A failure inside a fragment that a later argument would drop, and another one behind it. The
arguments behind the first failure may be anything, or missing. -/
theorem build_fails_first_dropped :
    let b : Builder := ⟨⟨.mysql, none⟩, .default, Decimal.mostDigits⟩
    let template : Text := "?\x7b?a ?\x7d?a".toList
    let args : List Argument := [.bool true, .null, .skip, .null]
    let told (position : Option Int) : Failure :=
      .format ⟨.notCollection, some ['a'], position, some "NoneType".toList⟩
    b.CountFits template args ∧ b.FailsFirstAt template args ['a'] 1 (told none) ∧
      (b.build template args).outcome = .error (told (some 1)) ∧
      (b.build template [.bool true]).outcome = .error (told (some 1)) := by
  intro b template args told
  have hread : Token.read template =
      [.placeholder [] 0 0, .openBrace ['{'], .placeholder ['a'] 1 2, .literal [' '],
        .placeholder [] 2 5, .closeBrace ['}'], .placeholder ['a'] 3 7] := rfl
  have hcount (args : List Argument) : b.CountFits template args := nofun
  have hfails : b.FailsFirstAt template args ['a'] 1 (told none) := by
    refine ⟨⟨⟨2, by simp [hread]⟩, rfl, rfl⟩, ?_⟩
    rintro tag (_ | index) failure ⟨⟨offset, hmem⟩, -, hfailed⟩
    · obtain ⟨rfl, -⟩ : tag = [] ∧ offset = 0 := by simpa [hread] using hmem
      cases hfailed
    · omega
  obtain ⟨-, hleftmost⟩ := build_fails_first (hcount args)
  obtain ⟨out, hpass, -, hout⟩ := hleftmost _ _ _ hfails
  have htold : out = told (some 1) := by
    cases out with
    | format e =>
      obtain ⟨problem, tag, position, kind⟩ := e
      obtain ⟨rfl, -, rfl, rfl, rfl⟩ := hpass
      rfl
    | _ => cases hpass
  subst htold
  refine ⟨hcount args, hfails, hout args (hcount _) fun _ _ => rfl, ?_⟩
  refine hout [.bool true] (hcount _) fun i hi => ?_
  obtain rfl | rfl := Nat.le_one_iff_eq_zero_or_eq_one.mp hi
  · rfl
  · rfl

end SqlTemplate.Builder
