import SqlTemplate.Builder.Query
import SqlTemplate.Proofs.Token.Form

/-!
# The outcome of a build

What substitution does to a template, and that it decides what a build gives.

## Substitution by number

Substitution walks the tokens and the arguments side by side. Because the lexer numbers placeholders
in order, this is the same as giving each placeholder the argument of its own number.
-/
namespace SqlTemplate

theorem bind_eq_ok {α β ε : Type} {x : Except ε α} {f : α → Except ε β} {b : β} :
    (x >>= f) = .ok b ↔ ∃ a, x = .ok a ∧ f a = .ok b := by
  cases x <;> simp [bind, Except.bind]

theorem bind_eq_error {α β ε : Type} {x : Except ε α} {f : α → Except ε β} {e : ε} :
    (x >>= f) = .error e ↔ x = .error e ∨ ∃ a, x = .ok a ∧ f a = .error e := by
  cases x <;> simp [bind, Except.bind]

theorem map_eq_ok {α β ε : Type} {x : Except ε α} {f : α → β} {b : β} :
    x.map f = .ok b ↔ ∃ a, x = .ok a ∧ f a = b := by
  cases x <;> simp [Except.map]

theorem map_eq_error {α β ε : Type} {x : Except ε α} {f : α → β} {e : ε} :
    x.map f = .error e ↔ x = .error e := by
  cases x <;> simp [Except.map]

theorem mapError_eq_ok {α ε ε' : Type} {x : Except ε α} {f : ε → ε'} {a : α} :
    x.mapError f = .ok a ↔ x = .ok a := by
  constructor
  · intro h
    cases x with
    | ok =>
      cases h
      rfl
    | error => cases h
  · rintro rfl
    rfl

theorem mapError_eq_error {α ε ε' : Type} {x : Except ε α} {f : ε → ε'} {e' : ε'} :
    x.mapError f = .error e' ↔ ∃ e, x = .error e ∧ f e = e' := by
  constructor
  · intro h
    cases x with
    | ok => cases h
    | error e =>
      cases h
      exact ⟨e, rfl, rfl⟩
  · rintro ⟨e, rfl, rfl⟩
    rfl

/-- Going through a list succeeds where every element does, and gives their results in order. -/
theorem mapM_eq_ok_iff {α β ε : Type} {f : α → Except ε β} {l : List α} {r : List β} :
    l.mapM f = .ok r ↔ l.map f = r.map .ok := by
  induction l generalizing r with
  | nil => cases r <;> simp [pure, Except.pure]
  | cons a l ih =>
    rw [List.mapM_cons, bind_eq_ok]
    constructor
    · rintro ⟨b, hb, h⟩
      obtain ⟨bs, hbs, h⟩ := bind_eq_ok.mp h
      cases h
      rw [List.map_cons, List.map_cons, hb, ih.mp hbs]
    · intro h
      cases r with
      | nil => cases h
      | cons b bs =>
        rw [List.map_cons, List.map_cons, List.cons.injEq] at h
        exact ⟨b, h.1, bind_eq_ok.mpr ⟨bs, ih.mpr h.2, rfl⟩⟩

theorem mapM_succeeds_iff {α β ε : Type} {f : α → Except ε β} {l : List α} :
    (∃ r, l.mapM f = .ok r) ↔ ∀ a ∈ l, ∃ b, f a = .ok b := by
  induction l with
  | nil => simp [pure, Except.pure]
  | cons a l ih =>
    rw [List.forall_mem_cons, ← ih]
    simp only [List.mapM_cons, bind_eq_ok]
    constructor
    · rintro ⟨_, b, hb, bs, hbs, -⟩
      exact ⟨⟨b, hb⟩, bs, hbs⟩
    · rintro ⟨⟨b, hb⟩, bs, hbs⟩
      exact ⟨b :: bs, b, hb, bs, hbs, rfl⟩

/-- Going through a list depends on what is done with its elements only. -/
theorem mapM_congr_left {α β ε : Type} {f g : α → Except ε β} {l : List α}
    (h : ∀ a ∈ l, f a = g a) : l.mapM f = l.mapM g := by
  induction l with
  | nil => rfl
  | cons a l ih =>
    rw [List.forall_mem_cons] at h
    rw [List.mapM_cons, List.mapM_cons, h.1, ih h.2]

/-- Going through a list stops at the first element that fails. -/
theorem mapM_append_of_error {α β ε : Type} {f : α → Except ε β} {e : ε}
    {front back : List α} {a : α} (hfront : ∀ x ∈ front, ∃ y, f x = .ok y)
    (ha : f a = .error e) : (front ++ a :: back).mapM f = .error e := by
  induction front with
  | nil =>
    rw [List.nil_append, List.mapM_cons, ha]
    rfl
  | cons x front ih =>
    obtain ⟨⟨y, hy⟩, hrest⟩ := List.forall_mem_cons.mp hfront
    rw [List.cons_append, List.mapM_cons, hy, ih hrest]
    rfl

/-- A failure of going through a list is the failure of an element. -/
theorem exists_of_mapM_eq_error {α β ε : Type} {f : α → Except ε β} {e : ε} {l : List α}
    (h : l.mapM f = .error e) : ∃ a ∈ l, f a = .error e := by
  induction l with
  | nil => cases h
  | cons x l ih =>
    rw [List.mapM_cons] at h
    obtain hx | ⟨y, -, h⟩ := bind_eq_error.mp h
    · exact ⟨x, List.mem_cons_self, hx⟩
    · obtain hl | ⟨ys, -, h⟩ := bind_eq_error.mp h
      · obtain ⟨a, ha, hfa⟩ := ih hl
        exact ⟨a, List.mem_cons_of_mem x ha, hfa⟩
      · cases h

namespace Builder

/-- The token that takes the place of a token, where a placeholder gets the argument of its
number. -/
def bindAt (b : Builder) (args : List Argument) : Token → Except Refused Token
  | .placeholder tag index offset => b.bind tag index offset (args.getD index .null)
  | t => .ok t

theorem headD_drop (args : List Argument) (start : ℕ) :
    (args.drop start).headD .null = args.getD start .null := by
  rw [List.headD_eq_head?_getD, List.head?_drop, List.getD_eq_getElem?_getD]

theorem substitute_cons (b : Builder) (t : Token) (rest : List Token) (args : List Argument)
    (h : t.index? = none) :
    b.substitute (t :: rest) args = b.substitute rest args >>= fun tokens => .ok (t :: tokens) := by
  cases t with
  | placeholder => cases h
  | _ => rfl

/-- Tokens whose placeholders are numbered from `start` on take their arguments from there on. -/
theorem substitute_drop (b : Builder) (args : List Argument) (tokens : List Token) (start n : ℕ)
    (h : Token.indexes tokens = List.range' start n) :
    b.substitute tokens (args.drop start) = tokens.mapM (b.bindAt args) := by
  induction tokens generalizing start n with
  | nil => rfl
  | cons t rest ih =>
    cases hindex : t.index? with
    | none =>
      have hrest := ih start n (by simpa [hindex] using h)
      rw [substitute_cons b t rest _ hindex, hrest, List.mapM_cons]
      cases t with
      | placeholder => cases hindex
      | _ => rfl
    | some index =>
      cases n with
      | zero => simp [hindex] at h
      | succ n =>
        rw [Token.indexes_cons, hindex, List.range'_succ] at h
        obtain ⟨rfl, hnext⟩ := List.cons.inj h
        have hrest := ih (index + 1) n hnext
        rw [← List.tail_drop] at hrest
        rw [List.mapM_cons]
        cases t with
        | placeholder tag number offset =>
          cases hindex
          rw [substitute, headD_drop, hrest]
          rfl
        | _ => cases hindex

/-- A template's placeholders take the arguments of their numbers. -/
theorem substitute_read (b : Builder) (template : Text) (args : List Argument) :
    b.substitute (Token.read template) args = (Token.read template).mapM (b.bindAt args) := by
  obtain ⟨n, hn⟩ := Token.indexes_readFrom true 0 0 template
  exact substitute_drop b args (Token.read template) 0 n hn

/-!
## Counting the arguments

A build counts the arguments if its profile is strict. Where the count passes, nothing but
substitution and resolution decides the outcome; where it does not, nothing else happens.
-/

/-- There is an argument for each placeholder and no other, if the profile asks for that. -/
def CountFits (b : Builder) (template : Text) (args : List Argument) : Prop :=
  b.profile.strict = true → Token.placeholderCount (Token.read template) = args.length

/-- A lenient profile takes any number of arguments. -/
theorem countFits_of_lenient {b : Builder} (h : b.profile.strict = false) (template : Text)
    (args : List Argument) : b.CountFits template args := by
  intro hstrict
  rw [h] at hstrict
  cases hstrict

/-- What tokens and arguments come to where their number is not asked for. -/
def compile (b : Builder) (tokens : List Token) (args : List Argument) : Except Refused Text :=
  (b.substitute tokens args).map fun substituted =>
    (Fragment.resolve b.profile.marker substituted).text

/-- Without a fitting number of arguments, a build tells the two numbers and does no more. -/
theorem build_of_not_countFits {b : Builder} {template : Text} {args : List Argument}
    (hcount : ¬b.CountFits template args) :
    b.build template args =
      ⟨refusal (.argumentCount (Token.placeholderCount (Token.read template)) args.length), []⟩ := by
  obtain ⟨hstrict, hne⟩ := Classical.not_imp.mp hcount
  unfold build
  dsimp only
  rw [if_pos (by simp [hstrict, hne])]

/-- What is told of the numbers, before any placeholder is looked at. -/
def opening (placeholders arguments : Nat) : List Event :=
  countEvents placeholders arguments ++ [.compiling placeholders arguments]

/-- Where the count passes, a build tells the numbers, and then goes by what substitution gives. -/
theorem build_of_countFits {b : Builder} {template : Text} {args : List Argument}
    (hcount : b.CountFits template args) :
    b.build template args =
      match b.substitute (Token.read template) args with
      | .error refused =>
        ⟨.error refused.annotated,
          opening (Token.placeholderCount (Token.read template)) args.length ++ refused.events⟩
      | .ok substituted =>
        ⟨.ok (Fragment.resolve b.profile.marker substituted).text,
          opening (Token.placeholderCount (Token.read template)) args.length ++
            dropEvents (Fragment.resolve b.profile.marker substituted).dropped⟩ := by
  have hpass : (b.profile.strict &&
      Token.placeholderCount (Token.read template) != args.length) = false := by
    simpa [CountFits] using hcount
  unfold build
  dsimp only
  rw [hpass, if_neg Bool.false_ne_true]
  cases b.substitute (Token.read template) args <;> rfl

/-- Where the count passes, a build compiles the tokens of the template. -/
theorem outcome_build {b : Builder} {template : Text} {args : List Argument}
    (hcount : b.CountFits template args) :
    (b.build template args).outcome =
      (b.compile (Token.read template) args).mapError Refused.annotated := by
  rw [build_of_countFits hcount, compile]
  cases b.substitute (Token.read template) args <;> rfl

/-- Under one profile, a build is decided by what substitution gives. -/
theorem build_congr {b c : Builder} (hprofile : b.profile = c.profile) {template : Text}
    {args : List Argument}
    (h : b.substitute (Token.read template) args = c.substitute (Token.read template) args) :
    b.build template args = c.build template args := by
  rw [build, build, hprofile, h]

/-- A build succeeds where the counts pass and substitution succeeds, and resolves what that
gives. -/
theorem outcome_build_eq_ok_iff {b : Builder} {template out : Text} {args : List Argument} :
    (b.build template args).outcome = .ok out ↔
      b.CountFits template args ∧
      ∃ substituted, b.substitute (Token.read template) args = .ok substituted ∧
        (Fragment.resolve b.profile.marker substituted).text = out := by
  by_cases hcount : b.CountFits template args
  · rw [outcome_build hcount, mapError_eq_ok, compile, map_eq_ok, and_iff_right hcount]
  · simp [build_of_not_countFits hcount, refusal, hcount]

/-- Where the counts pass, a build fails with the failure of substitution. -/
theorem outcome_build_eq_error_iff {b : Builder} {template : Text} {args : List Argument}
    {failure : Failure} (hcount : b.CountFits template args) :
    (b.build template args).outcome = .error failure ↔
      ∃ r, b.substitute (Token.read template) args = .error r ∧ r.annotated = failure := by
  simp only [outcome_build hcount, mapError_eq_error, compile, map_eq_error]

end Builder
end SqlTemplate
