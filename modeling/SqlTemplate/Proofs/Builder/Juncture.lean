import SqlTemplate.Proofs.Builder.Concatenation
import SqlTemplate.Proofs.Builder.FirstFailure
import SqlTemplate.Proofs.Builder.Outcome

/-!
# Queries cut anywhere

A build is a homomorphism: two templates side by side, with their arguments side by side, are built
to the two queries side by side. It is enough that the first template leaves no fragment open and no
question mark without the type that follows it. Where a literal run is cut, nothing is lost, because
outside fragments nothing depends on literal runs being whole. A failure in the second part is
told with the number that its placeholder has in the whole.
-/
namespace SqlTemplate.Builder

theorem isBrace_of_bind {b : Builder} {tag : Text} {index offset : ℕ} {value : Argument} {u : Token}
    (h : b.bind tag index offset value = .ok u) : u.isBrace = false := by
  unfold bind at h
  split at h
  · cases h
    rfl
  · split at h
    · cases h
      rfl
    · cases h

/-- Substitution neither makes nor removes braces. -/
theorem braces_of_substitute {b : Builder} {tokens : List Token} {args : List Argument}
    {substituted : List Token} (h : b.substitute tokens args = .ok substituted) :
    Token.braces substituted = Token.braces tokens := by
  induction tokens generalizing args substituted with
  | nil =>
    cases h
    rfl
  | cons t rest ih =>
    cases hindex : t.index? with
    | none =>
      rw [substitute_cons _ _ _ _ hindex] at h
      obtain ⟨us, hus, h⟩ := bind_eq_ok.mp h
      cases h
      have hrest : us.filterMap Token.brace? = rest.filterMap Token.brace? := ih hus
      rw [Token.braces, Token.braces, List.filterMap_cons, List.filterMap_cons, hrest]
    | some index =>
      cases t with
      | placeholder tag index offset =>
        obtain ⟨u, hu, h⟩ := bind_eq_ok.mp h
        obtain ⟨us, hus, h⟩ := bind_eq_ok.mp h
        cases h
        rw [Token.braces_cons (isBrace_of_bind hu), ih hus, Token.braces_placeholder]
      | _ => cases hindex

/-- Tokens that leave no fragment open are compiled on their own. -/
theorem compile_append (b : Builder) {front back : List Token} {A B : List Argument}
    (hA : A.length = Token.placeholderCount front)
    (hclosed : (Token.braces front).getLast? ≠ some '{') :
    b.compile (front ++ back) (A ++ B) =
      b.compile front A >>= fun x => (b.compile back B).map (x ++ ·) := by
  rw [compile, compile, compile, substitute_append _ _ _ _ _ hA]
  cases hfirst : b.substitute front A with
  | error r => rfl
  | ok first =>
    cases b.substitute back B with
    | error r => rfl
    | ok second =>
      have hlast : Fragment.lastBrace? none first ≠ some '{' := by
        rw [Fragment.lastBrace?, braces_of_substitute hfirst]
        simpa using hclosed
      have happend := Fragment.resolveFrom_append b.profile.marker none first second hlast
      exact congrArg (fun r => Except.ok r.text) happend

/-- Outside fragments a literal run is copied. -/
theorem compile_literal (b : Builder) (t : Text) (rest : List Token) (args : List Argument) :
    b.compile (.literal t :: rest) args = (b.compile rest args).map (t ++ ·) := by
  rw [compile, compile, substitute_cons _ _ _ _ rfl]
  cases b.substitute rest args <;> rfl

/-- Where tokens stand matters to the failures on them only. -/
theorem compile_map_shift (b : Builder) (index offset : ℕ) (tokens : List Token)
    (args : List Argument) :
    b.compile (tokens.map (Token.shift index offset)) args =
      (b.compile tokens args).mapError (Refused.shift index offset) := by
  rw [compile, compile, substitute_map_shift]
  cases b.substitute tokens args <;> rfl

/-- Outside fragments it does not matter whether a literal run is cut. -/
theorem compile_join (b : Builder) {front back : List Token} {A B : List Argument}
    (happart : front.IsChain Token.Apart) (hA : A.length = Token.placeholderCount front)
    (hclosed : (Token.braces front).getLast? ≠ some '{') :
    b.compile (Token.join front back) (A ++ B) = b.compile (front ++ back) (A ++ B) := by
  obtain hjoin | ⟨before, t, u, after, rfl, rfl, hjoin⟩ := Token.join_cases happart back
  · rw [hjoin]
  · have hcount : A.length = Token.placeholderCount before := by
      rw [hA, Token.placeholderCount, List.countP_append]
      rfl
    have hbefore : (Token.braces before).getLast? ≠ some '{' := by
      simpa [Token.braces, Token.brace?] using hclosed
    rw [hjoin, List.append_assoc, List.singleton_append, compile_append b hcount hbefore,
      compile_append b hcount hbefore, compile_literal, compile_literal, compile_literal]
    cases b.compile after B <;> simp [Except.map]

/-- A template that leaves no fragment open and no question mark without its type is compiled on its
own, and the one behind it as if it stood alone. -/
theorem compile_read_append (b : Builder) {front back : Text} {A B : List Argument}
    (hA : A.length = Token.placeholderCount (Token.read front))
    (hclosed : (front.filter Token.isBraceChar).getLast? ≠ some '{')
    (hcut : ¬(front.getLast? = some '?' ∧ ∃ c ∈ back.head?, Token.isTypeLetter c = true)) :
    b.compile (Token.read (front ++ back)) (A ++ B) =
      b.compile (Token.read front) A >>= fun x =>
        ((b.compile (Token.read back) B).mapError
          (Refused.shift (Token.placeholderCount (Token.read front)) front.length)).map
            (x ++ ·) := by
  have happart : (Token.read front).IsChain Token.Apart := Token.isChain_readFrom true 0 0 front
  have hbraces : (Token.braces (Token.read front)).getLast? ≠ some '{' := by
    rwa [Token.read, Token.braces_readFrom]
  rw [Token.read_append hcut, compile_join b happart hA hbraces, compile_append b hA hbraces,
    compile_map_shift]

/-- The builder with a compiler that fails where it did, but with other failures. -/
def withFailures (b : Builder) (replace : Failure → Failure) : Builder :=
  { b with compiler :=
    { dialect :=
        { b.compiler.dialect with
          quote := fun name => (b.compiler.dialect.quote name).mapError replace }
      injected := some fun t => (b.compiler.escape t).mapError replace } }

/-- A failure of rendering is the library's own: one of its escapers is in use, and every name can
be quoted; or the failure stays the same whatever the compiler's failures are replaced by. -/
def IsOwnFailure (b : Builder) (value : Argument) (tag : Text) (failure : Failure) : Prop :=
  Escaping.IsOwn b.compiler.escape ∧ b.compiler.dialect.Quotes ∨
    ∀ replace, (b.withFailures replace).render value tag = .error failure

/-- The failure of a build is the library's own. -/
def FailsItself (b : Builder) (template : Text) (args : List Argument) : Prop :=
  ∃ tag index failure, b.FailsFirstAt template args tag index failure ∧
    b.IsOwnFailure (args.getD index .null) tag failure

/-- The library knows no position until a build tells it. -/
theorem position_of_isOwnFailure {b : Builder} {value : Argument} {tag : Text} {e : FormatError}
    (hrender : b.render value tag = .error (.format e))
    (h : b.IsOwnFailure value tag (.format e)) : e.position = none := by
  obtain ⟨hescape, hquotes⟩ | hstays := h
  · obtain ⟨e', he, hposition, -⟩ | ⟨rule, -, hdefeats⟩ :=
      failsOnly_render hescape hquotes value tag _ hrender
    · cases he
      exact hposition
    · cases hdefeats
  · -- With no format errors from the compiler, this one can only come from a rule.
    obtain ⟨raised, he, (hrefusal | ⟨t, ht⟩ | ⟨name, hname⟩) | ⟨rule, -, hdefeats⟩⟩ :=
      failsOnly_render_annotated value tag _ (hstays fun _ => .signalingNaN)
    · obtain ⟨e', he', hposition, -⟩ := annotate_of_isRefusal hrefusal
      rw [he'] at he
      cases he
      exact hposition
    · change (b.compiler.escape t).mapError _ = .error raised at ht
      obtain ⟨failure, -, rfl⟩ := mapError_eq_error.mp ht
      cases he
    · change (b.compiler.dialect.quote name).mapError _ = .error raised at hname
      obtain ⟨failure, -, rfl⟩ := mapError_eq_error.mp hname
      cases he
    · rw [annotate_of_defeats hdefeats] at he
      subst he
      cases hdefeats

/-- The failure of a part, told for the whole. -/
theorem annotated_shift {r : Refused} {e : FormatError} (index offset : ℕ)
    (h : r.annotated = .format e)
    (hposition : ∀ raised, r.failure = .format raised → raised.position = none) :
    e.position = some (r.index : Int) ∧
      (r.shift index offset).annotated =
        .format { e with position := some ((index : Int) + r.index) } := by
  obtain ⟨tag, number, place, failure⟩ := r
  cases failure with
  | format raised =>
    cases h
    have hraised := hposition raised rfl
    constructor
    · simp [FormatError.annotate, hraised]
    · simp [Refused.annotated, Refused.shift, Failure.annotate, FormatError.annotate, hraised]
  | _ => cases h

/-- Templates and arguments side by side. The first template leaves no fragment open, takes its own
arguments and gets no type for a question mark at its end. Then the whole is built exactly if both
parts are, to the two queries side by side; a failure of the first part is the failure of the whole;
and a format error of the library in the second part is told by the whole with the position moved
behind the placeholders of the first. -/
theorem build_append {b : Builder} {front back : Text} {A B : List Argument}
    (hstrict : b.profile.strict = false)
    (hA : A.length = Token.placeholderCount (Token.read front))
    (hclosed : (front.filter Token.isBraceChar).getLast? ≠ some '{')
    (hcut : ¬(front.getLast? = some '?' ∧ ∃ c ∈ back.head?, Token.isTypeLetter c = true)) :
    (∀ out, (b.build (front ++ back) (A ++ B)).outcome = .ok out ↔
      ∃ x y, (b.build front A).outcome = .ok x ∧ (b.build back B).outcome = .ok y ∧
        out = x ++ y) ∧
    (∀ failure, (b.build front A).outcome = .error failure →
      (b.build (front ++ back) (A ++ B)).outcome = .error failure) ∧
    ∀ x e, (b.build front A).outcome = .ok x → (b.build back B).outcome = .error (.format e) →
      b.FailsItself back B →
      ∃ position : Int, e.position = some position ∧
        (b.build (front ++ back) (A ++ B)).outcome = .error (.format
          { e with position := some (Token.placeholderCount (Token.read front) + position) }) := by
  have hlenient (template : Text) (args : List Argument) :
      (b.build template args).outcome =
        (b.compile (Token.read template) args).mapError Refused.annotated :=
    outcome_build (countFits_of_lenient hstrict template args)
  rw [hlenient, hlenient, hlenient, compile_read_append b hA hclosed hcut]
  refine ⟨fun out => ?_, fun failure h => ?_, ?_⟩
  · simp only [mapError_eq_ok, bind_eq_ok, map_eq_ok]
    constructor
    · rintro ⟨x, hx, y, hy, rfl⟩
      exact ⟨x, y, hx, hy, rfl⟩
    · rintro ⟨x, y, hx, hy, rfl⟩
      exact ⟨x, hx, y, hy, rfl⟩
  · obtain ⟨r, hr, rfl⟩ := mapError_eq_error.mp h
    rw [hr]
    rfl
  · rintro x e hx he ⟨tag, index, failure, hfirst, hown⟩
    have hfront := mapError_eq_ok.mp hx
    obtain ⟨r, hback, hannotated⟩ := mapError_eq_error.mp he
    -- Substitution stops at the placeholder whose failure is the library's own.
    obtain ⟨offset, hsubstitute⟩ := substitute_of_failsAt hfirst fun _ _ => rfl
    obtain rfl : r = ⟨tag, index, offset, failure⟩ := by
      rw [compile, map_eq_error, hsubstitute] at hback
      exact (Except.error.inj hback).symm
    have hposition : ∀ raised, failure = .format raised → raised.position = none := by
      rintro raised rfl
      exact position_of_isOwnFailure hfirst.failed hown
    obtain ⟨hindex, hshift⟩ := annotated_shift (Token.placeholderCount (Token.read front))
      front.length hannotated hposition
    refine ⟨index, hindex, ?_⟩
    rw [hfront, hback]
    exact congrArg Except.error hshift

/-- A cut through a marker, with a stray brace on both sides of it. Outside fragments the marker has
no meaning; the failure behind the skipped fragment is the third placeholder of the whole. -/
theorem build_append_cut :
    let b : Builder := ⟨⟨.mysql, none⟩, .default, Decimal.mostDigits⟩
    let front : Text := "a\x7d ? /*sk".toList
    let back : Text := "ip*/\x7d\x7b?\x7d?a".toList
    let A : List Argument := [.text ['?']]
    let told (position : Int) : Failure :=
      .format ⟨.notCollection, some ['a'], some position, some "NoneType".toList⟩
    b.profile.strict = false ∧ A.length = Token.placeholderCount (Token.read front) ∧
      (front.filter Token.isBraceChar).getLast? ≠ some '{' ∧
      ¬(front.getLast? = some '?' ∧ ∃ c ∈ back.head?, Token.isTypeLetter c = true) ∧
      (b.build front A).outcome = .ok "a\x7d '?' /*sk".toList ∧
      (b.build back [.skip, .sequence .list []]).outcome = .ok "ip*/\x7d".toList ∧
      (b.build (front ++ back) (A ++ [.skip, .sequence .list []])).outcome =
        .ok "a\x7d '?' /*skip*/\x7d".toList ∧
      (b.build back [.skip, .null]).outcome = .error (told 1) ∧
      b.FailsItself back [.skip, .null] ∧
      (b.build (front ++ back) (A ++ [.skip, .null])).outcome = .error (told 2) := by
  intro b front back A told
  have hclosed : (front.filter Token.isBraceChar).getLast? ≠ some '{' := by decide
  have hcut : ¬(front.getLast? = some '?' ∧ ∃ c ∈ back.head?, Token.isTypeLetter c = true) := by
    rintro ⟨hlast, -⟩
    exact absurd hlast (by decide)
  have hfront : (b.build front A).outcome = .ok "a\x7d '?' /*sk".toList := rfl
  have hback : (b.build back [.skip, .sequence .list []]).outcome = .ok "ip*/\x7d".toList := rfl
  have hfails : (b.build back [.skip, .null]).outcome = .error (told 1) := rfl
  have hread : Token.read back =
      [.literal "ip*/".toList, .closeBrace ['}'], .openBrace ['{'], .placeholder [] 0 6,
        .closeBrace ['}'], .placeholder ['a'] 1 8] := rfl
  have hown : b.FailsItself back [.skip, .null] := by
    refine ⟨['a'], 1, _, ⟨⟨⟨8, by simp [hread]⟩, rfl, rfl⟩, ?_⟩,
      .inl ⟨.inl ⟨_, rfl⟩, fun _ => ⟨_, rfl⟩⟩⟩
    rintro tag (_ | index) failure ⟨-, hkept, -⟩
    · cases hkept
    · omega
  have happend (B : List Argument) := @build_append b front back A B rfl rfl hclosed hcut
  obtain ⟨hok, -, -⟩ := happend [.skip, .sequence .list []]
  obtain ⟨-, -, herror⟩ := happend [.skip, .null]
  obtain ⟨position, hposition, hwhole⟩ := herror _ _ hfront hfails hown
  cases hposition
  exact ⟨rfl, rfl, hclosed, hcut, hfront, hback, (hok _).mpr ⟨_, _, hfront, hback, rfl⟩, hfails,
    hown, hwhole⟩

end SqlTemplate.Builder
