import SqlTemplate.Proofs.Builder.Outcome

/-!
# Strict and lenient profiles

A strict profile asks for one argument for each placeholder. Apart from that it makes no difference:
a lenient build is the strict one with the arguments that the template takes, cut off or filled up
with nulls. The arguments are counted before anything is rendered, so that no value and no escaper
has a say in what a strict build makes of a wrong number.
-/
namespace SqlTemplate

/-- The list with exactly `n` arguments, of which missing ones are null. -/
def fitted (n : ℕ) (args : List Argument) : List Argument :=
  args.take n ++ List.replicate (n - args.length) .null

@[simp] theorem length_fitted (n : ℕ) (args : List Argument) : (fitted n args).length = n := by
  rw [fitted, List.length_append, List.length_take, List.length_replicate]
  omega

theorem getD_fitted {n i : ℕ} (h : i < n) (args : List Argument) :
    (fitted n args).getD i .null = args.getD i .null := by
  rw [fitted, List.getD_eq_getElem?_getD, List.getD_eq_getElem?_getD]
  by_cases hi : i < args.length
  · have htake : i < (args.take n).length := by
      rw [List.length_take]
      omega
    rw [List.getElem?_append_left htake, List.getElem?_take_of_lt h]
  · have htake : (args.take n).length = args.length := by
      rw [List.length_take]
      omega
    rw [List.getElem?_append_right (by omega), List.getElem?_eq_none (Nat.le_of_not_lt hi), htake,
      List.getElem?_replicate, if_pos (by omega)]
    rfl

namespace Builder

/-- The builder with the same compiler and the same choices, but for strictness. -/
def inMode (b : Builder) (strict : Bool) : Builder :=
  { b with profile := { b.profile with strict } }

theorem bind_inMode (b : Builder) (strict : Bool) (tag : Text) (index offset : ℕ)
    (value : Argument) :
    (b.inMode strict).bind tag index offset value = b.bind tag index offset value := rfl

/-- Strictness makes no difference to what is compiled. -/
theorem compile_inMode (b : Builder) (strict : Bool) (tokens : List Token)
    (args : List Argument) : (b.inMode strict).compile tokens args = b.compile tokens args := by
  have hsubstitute (tokens : List Token) (args : List Argument) :
      (b.inMode strict).substitute tokens args = b.substitute tokens args := by
    induction tokens generalizing args with
    | nil => rfl
    | cons t rest ih => cases t <;> simp only [substitute, bind_inMode, ih]
  rw [compile, hsubstitute]
  rfl

/-- A template takes as many arguments as it has placeholders, and missing ones are null. -/
theorem compile_fitted (b : Builder) (template : Text) (args : List Argument) :
    b.compile (Token.read template)
        (fitted (Token.placeholderCount (Token.read template)) args) =
      b.compile (Token.read template) args := by
  rw [compile, compile, substitute_read, substitute_read]
  refine congrArg _ (mapM_congr_left fun t ht => ?_)
  cases t with
  | placeholder tag index offset =>
    rw [bindAt, bindAt, getD_fitted (Token.index_lt_of_mem_read ht)]
  | _ => rfl

/-- A format error that comes from a placeholder has its position. -/
theorem annotated_ne (r : Refused) (problem : FormatProblem) :
    r.annotated ≠ .format ⟨problem, none, none, none⟩ := by
  intro h
  cases hfailure : r.failure with
  | format e =>
    rw [Refused.annotated, hfailure] at h
    have hposition := congrArg FormatError.position (Failure.format.inj h)
    rw [FormatError.annotate] at hposition
    cases he : e.position <;> simp [he] at hposition
  | _ =>
    rw [Refused.annotated, hfailure] at h
    cases h

/-- Strict and lenient profiles mean the same. A lenient build is the strict one with the arguments
fitted to the template. A strict build fails with the two numbers, as an error that belongs to no
placeholder, exactly if they differ; it has rendered nothing then, whatever the values are, whatever
the compiler does with them and however much memory there is. Otherwise it is the lenient one. -/
theorem build_inMode (b : Builder) (template : Text) (args : List Argument) :
    let n := Token.placeholderCount (Token.read template)
    ((b.inMode false).build template args).outcome =
        ((b.inMode true).build template (fitted n args)).outcome ∧
      (((b.inMode true).build template args).outcome =
          refusal (.argumentCount n args.length) ↔ args.length ≠ n) ∧
      (args.length ≠ n → ∀ (compiler : Compiler) (memory : ℕ) (args' : List Argument),
        args'.length = args.length →
        build ⟨compiler, (b.inMode true).profile, memory⟩ template args' =
          ⟨refusal (.argumentCount n args.length), []⟩) ∧
      (args.length = n → ((b.inMode true).build template args).outcome =
        ((b.inMode false).build template args).outcome) := by
  intro n
  have hlenient : ((b.inMode false).build template args).outcome =
      (b.compile (Token.read template) args).mapError Refused.annotated := by
    rw [outcome_build (countFits_of_lenient rfl template args), compile_inMode]
  have hstrict {args' : List Argument} (h : args'.length = n) :
      ((b.inMode true).build template args').outcome =
        (b.compile (Token.read template) args').mapError Refused.annotated := by
    rw [outcome_build fun _ => h.symm, compile_inMode]
  refine ⟨?_, ⟨fun hrefused hlength => ?_, fun hlength => ?_⟩,
    fun hlength compiler memory args' hargs => ?_, fun hlength => ?_⟩
  · rw [hlenient, hstrict (length_fitted n args), compile_fitted]
  · rw [hstrict hlength] at hrefused
    obtain ⟨r, -, hannotated⟩ := mapError_eq_error.mp hrefused
    exact annotated_ne r _ hannotated
  · rw [build_of_not_countFits fun h => hlength (h rfl).symm]
  · rw [← hargs] at hlength ⊢
    exact build_of_not_countFits fun h => hlength (h rfl).symm
  · rw [hlenient, hstrict hlength]

/-- A template with two placeholders. With values for both of them the builds are the same, and a
lenient one drops a value too many. With values that fit neither of them both builds fail. One
argument is null for the other placeholder, but none for a strict profile, which does not look at
it. -/
theorem build_inMode_unfit :
    let b : Builder := ⟨⟨.mysql, none⟩, .default, Decimal.mostDigits⟩
    let template : Text := "?d\x7b ?a\x7d".toList
    let unfit : Argument := .sequence .list [.skip]
    let refused : Except Failure Text :=
      .error (.format ⟨.notCollection, some ['a'], some 1, some "NoneType".toList⟩)
    let fit : List Argument := [.bool true, .sequence .tuple [.null, .text ['n']]]
    ((b.inMode false).build template (fit ++ [unfit])).outcome = .ok "1 NULL, 'n'".toList ∧
      ((b.inMode true).build template fit).outcome = .ok "1 NULL, 'n'".toList ∧
      ((b.inMode false).build template [.bool true]).outcome = refused ∧
      ((b.inMode true).build template [.bool true, .null]).outcome = refused ∧
      (b.inMode true).build template [unfit] = ⟨refusal (.argumentCount 2 1), []⟩ ∧
      ((b.inMode true).build template [unfit, unfit]).outcome =
        ((b.inMode false).build template [unfit, unfit]).outcome := by
  intro b template unfit refused fit
  obtain ⟨hfitted, -, hmiscount, -⟩ := build_inMode b template [.bool true]
  obtain ⟨hdropped, -⟩ := build_inMode b template (fit ++ [unfit])
  have hstrict : ((b.inMode true).build template fit).outcome = .ok "1 NULL, 'n'".toList := rfl
  have hrefused : ((b.inMode false).build template [.bool true]).outcome = refused := rfl
  refine ⟨?_, hstrict, hrefused, ?_, ?_, ?_⟩
  · rw [← hstrict]
    exact hdropped
  · rw [← hrefused]
    exact hfitted.symm
  · exact hmiscount (by decide) b.compiler b.memory [unfit] rfl
  · exact (build_inMode b template [unfit, unfit]).2.2.2 rfl

end Builder
end SqlTemplate
