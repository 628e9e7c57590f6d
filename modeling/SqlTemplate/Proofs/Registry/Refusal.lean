import SqlTemplate.Proofs.Builder.ExactNumber
import SqlTemplate.Proofs.Builder.FirstFailure
import SqlTemplate.Registry

/-!
# What callers have to expect

With a dialect that is there from the start and its own escaper, whatever goes wrong with a query or
a value is told as a format error. Two failures of another kind get through, of which nothing makes
a format error. A signaling NaN, asked for as a float, fails inside the number itself; and a decimal
number, asked for as an integer, fails where the memory has no room for its digits.
-/
namespace SqlTemplate

namespace Builder

variable {b : Builder}

/-- With an escaper of the library and a dialect that can quote every name, rendering gives a text,
fails with a format error or fails on a number that fails itself. -/
theorem render_cases (hescape : Escaping.IsOwn b.compiler.escape)
    (hquotes : b.compiler.dialect.Quotes) (value : Argument) (tag : Text) :
    (∃ out, b.render value tag = .ok out) ∨ (∃ e, b.render value tag = .error (.format e)) ∨
      ∃ rule failure, tag = rule.text ∧ value.Defeats b.memory rule failure ∧
        b.render value tag = .error failure := by
  cases hrender : b.render value tag with
  | ok out => exact .inl ⟨out, rfl⟩
  | error failure =>
    obtain ⟨e, rfl, -, -⟩ | ⟨rule, htag, hdefeats⟩ :=
      failsOnly_render hescape hquotes value tag _ hrender
    · exact .inr (.inl ⟨e, rfl⟩)
    · exact .inr (.inr ⟨rule, failure, htag, hdefeats, rfl⟩)

/-- A failure that is no format error is that of a number which fails itself. -/
theorem render_eq_error_iff_defeats (hescape : Escaping.IsOwn b.compiler.escape)
    (hquotes : b.compiler.dialect.Quotes) {value : Argument} {tag : Text} {failure : Failure}
    (hforeign : ∀ e, failure ≠ .format e) :
    b.render value tag = .error failure ↔
      ∃ rule, tag = rule.text ∧ value.Defeats b.memory rule failure := by
  constructor
  · intro hrender
    obtain ⟨e, he, -, -⟩ | hdefeats := failsOnly_render hescape hquotes value tag _ hrender
    · exact absurd he (hforeign e)
    · exact hdefeats
  · rintro ⟨rule, rfl, hdefeats⟩
    exact b.render_of_defeats hdefeats

theorem render_eq_signalingNaN_iff (hescape : Escaping.IsOwn b.compiler.escape)
    (hquotes : b.compiler.dialect.Quotes) (value : Argument) (tag : Text) :
    b.render value tag = .error .signalingNaN ↔
      tag = Tag.float.text ∧ value.isSignaling = true := by
  rw [render_eq_error_iff_defeats hescape hquotes (by simp)]
  constructor
  · rintro ⟨rule, htag, hdefeats⟩
    cases hdefeats with
    | signaling hsignaling => exact ⟨htag, hsignaling⟩
  · rintro ⟨htag, hsignaling⟩
    exact ⟨.float, htag, .signaling hsignaling⟩

theorem render_eq_outOfMemory_iff (hescape : Escaping.IsOwn b.compiler.escape)
    (hquotes : b.compiler.dialect.Quotes) (value : Argument) (tag : Text) :
    b.render value tag = .error .outOfMemory ↔
      tag = Tag.integer.text ∧ value.Exhausts b.memory := by
  rw [render_eq_error_iff_defeats hescape hquotes (by simp), ← Argument.exhausts_iff]
  constructor
  · rintro ⟨rule, htag, hdefeats⟩
    cases hdefeats with
    | tooLarge htooLarge => exact ⟨htag, htooLarge⟩
  · rintro ⟨htag, htooLarge⟩
    exact ⟨.integer, htag, .tooLarge htooLarge⟩

/-- With an escaper of the library and a dialect that can quote every name, a build gives a query or
fails with a format error, unless a placeholder asks for a number that fails itself. -/
theorem build_cases (hescape : Escaping.IsOwn b.compiler.escape)
    (hquotes : b.compiler.dialect.Quotes) (template : Text) (args : List Argument) :
    (∃ out, (b.build template args).outcome = .ok out) ∨
      (∃ e, (b.build template args).outcome = .error (.format e)) ∨
      ∃ rule index offset failure, .placeholder rule.text index offset ∈ Token.read template ∧
        (args.getD index .null).Defeats b.memory rule failure ∧
        (b.build template args).outcome = .error failure := by
  by_cases hcount : b.CountFits template args
  · cases houtcome : (b.build template args).outcome with
    | ok out => exact .inl ⟨out, rfl⟩
    | error failure =>
      obtain ⟨r, hs, rfl⟩ := (outcome_build_eq_error_iff hcount).mp houtcome
      obtain ⟨⟨offset, hmem⟩, -, hfailed⟩ := failsAt_of_substitute hs
      rw [Refused.annotated]
      obtain ⟨e, he, -, -⟩ | ⟨rule, htag, hdefeats⟩ :=
        failsOnly_render hescape hquotes _ _ _ hfailed
      · rw [he]
        exact .inr (.inl ⟨_, rfl⟩)
      · rw [htag] at hmem
        rw [annotate_of_defeats hdefeats]
        exact .inr (.inr ⟨rule, r.index, offset, r.failure, hmem, hdefeats, rfl⟩)
  · rw [build_of_not_countFits hcount]
    exact .inr (.inl ⟨_, rfl⟩)

end Builder

namespace Registry

variable {escapeString : Text → Text}

theorem find?_builtIn {name : Text}
    (h : name ∈ (Dialect.builtIn escapeString).map Dialect.name) :
    ∃ d ∈ Dialect.builtIn escapeString, (builtIn escapeString).find? name = some d := by
  obtain ⟨d, hd, rfl⟩ := List.mem_map.mp h
  refine ⟨d, hd, ?_⟩
  obtain rfl | rfl | rfl := Dialect.mem_builtIn.mp hd <;> rfl

theorem isOwn_escaper {d : Dialect} (h : d ∈ Dialect.builtIn escapeString) :
    Escaping.IsOwn d.escaper := by
  obtain rfl | rfl | rfl := Dialect.mem_builtIn.mp h
  · exact .inl ⟨escapeString, rfl⟩
  · exact .inr rfl
  · exact .inr rfl

theorem quotes_of_mem {d : Dialect} (h : d ∈ Dialect.builtIn escapeString) : d.Quotes := by
  intro name
  obtain rfl | rfl | rfl := Dialect.mem_builtIn.mp h <;> exact ⟨_, rfl⟩

/-- A profile for a dialect that is there from the start gets a builder with this dialect, its own
escaper and the memory of the host. -/
theorem builder_builtIn {host : Host} {fields : Option Fields} {given : Option Profile}
    (hgiven : Profile.given host.validation fields = .ok given)
    (htarget : (given.getD .default).target ∈
      (Dialect.builtIn host.escapeString).map Dialect.name) :
    ∃ d ∈ Dialect.builtIn host.escapeString,
      (builtIn host.escapeString).builder fields .absent host =
        .ok ⟨⟨d, none⟩, given.getD .default, host.memory⟩ := by
  obtain ⟨d, hd, hfind⟩ := find?_builtIn htarget
  refine ⟨d, hd, ?_⟩
  rw [builder, hgiven]
  change ((builtIn host.escapeString).create (given.getD .default).target none).map _ = _
  rw [create, hfind]
  rfl

/-- Every value by every tag, and every template with every list of arguments, for every profile
with a dialect that is there from the start: either there is a text, or the failure is a format
error, or a number fails itself, and then it was asked for as what it fails on: a signaling NaN as a
float, or a decimal number as an integer, with more digits than the memory has room for. For a
single value these are exactly the cases of a failure of another kind. -/
theorem builtIn_failures {host : Host} {fields : Option Fields} {given : Option Profile}
    (hgiven : Profile.given host.validation fields = .ok given)
    (htarget : (given.getD .default).target ∈
      (Dialect.builtIn host.escapeString).map Dialect.name) :
    (∀ (value : Argument) (tag : Text),
      let answer := (builtIn host.escapeString).formatValue value tag fields .absent host
      ((∃ out, answer = .ok out) ∨ (∃ e, answer = .error (.format e)) ∨
        answer = .error .signalingNaN ∨ answer = .error .outOfMemory) ∧
      (answer = .error .signalingNaN ↔ tag = Tag.float.text ∧ value.isSignaling = true) ∧
      (answer = .error .outOfMemory ↔
        tag = Tag.integer.text ∧ value.Exhausts host.memory)) ∧
    ∀ (template : Text) (kind : CollectionKind) (args : List Argument),
      let outcome :=
        ((builtIn host.escapeString).query template (.sequence kind args) fields .absent
          host).outcome
      (∃ out, outcome = .ok out) ∨ (∃ e, outcome = .error (.format e)) ∨
        (outcome = .error .signalingNaN ∧
          ∃ index offset, .placeholder Tag.float.text index offset ∈ Token.read template ∧
            (args.getD index .null).isSignaling = true) ∨
        (outcome = .error .outOfMemory ∧
          ∃ index offset, .placeholder Tag.integer.text index offset ∈ Token.read template ∧
            (args.getD index .null).Exhausts host.memory) := by
  obtain ⟨d, hd, hbuilder⟩ := builder_builtIn hgiven htarget
  let b : Builder := ⟨⟨d, none⟩, given.getD .default, host.memory⟩
  have hescape : Escaping.IsOwn b.compiler.escape := isOwn_escaper hd
  have hquotes : b.compiler.dialect.Quotes := quotes_of_mem hd
  constructor
  · intro value tag answer
    have hanswer : answer = b.render value tag := by
      show (builtIn host.escapeString).formatValue value tag fields .absent host = _
      rw [formatValue, hbuilder]
      rfl
    rw [hanswer]
    refine ⟨?_, Builder.render_eq_signalingNaN_iff hescape hquotes value tag,
      Builder.render_eq_outOfMemory_iff hescape hquotes value tag⟩
    obtain hok | hformat | ⟨rule, failure, -, hdefeats, hfailed⟩ :=
      Builder.render_cases hescape hquotes value tag
    · exact .inl hok
    · exact .inr (.inl hformat)
    · cases hdefeats with
      | signaling => exact .inr (.inr (.inl hfailed))
      | tooLarge => exact .inr (.inr (.inr hfailed))
  · intro template kind args outcome
    have houtcome : outcome = (b.build template args).outcome := by
      show ((builtIn host.escapeString).query template (.sequence kind args) fields .absent
        host).outcome = _
      rw [query, hbuilder]
      rfl
    rw [houtcome]
    obtain hok | hformat | ⟨rule, index, offset, failure, hmem, hdefeats, hfailed⟩ :=
      Builder.build_cases hescape hquotes template args
    · exact .inl hok
    · exact .inr (.inl hformat)
    · cases hdefeats with
      | signaling hsignaling =>
        exact .inr (.inr (.inl ⟨hfailed, index, offset, hmem, hsignaling⟩))
      | tooLarge htooLarge =>
        have hexhausts := Argument.exhausts_iff.mp htooLarge
        exact .inr (.inr (.inr ⟨hfailed, index, offset, hmem, hexhausts⟩))

/-- A strict profile for a dialect whose literals cannot hold the NUL character: the character is
refused as an element of a collection, and so is a signaling NaN there, but not as a float. -/
theorem builtIn_failures_strict :
    let fields : Fields :=
      [(Profile.targetField, .text Dialect.sqlite.name), (Profile.strictField, .bool true)]
    let given : Profile := { target := Dialect.sqlite.name, strict := true }
    let signaling : Argument := .decimal (.nan false true 0)
    let items : Argument := .sequence .tuple [.text [Escaping.nul], signaling]
    Profile.given Host.usual.validation (some fields) = .ok (some given) ∧
      given.target ∈ (Dialect.builtIn Host.usual.escapeString).map Dialect.name ∧
      (∃ e, (builtIn.query "\x7b?a\x7d".toList (.sequence .list [items]) (some fields)
        .absent).outcome = .error (.format e)) ∧
      builtIn.formatValue signaling Tag.float.text (some fields) .absent =
        .error .signalingNaN := by
  intro fields given signaling items
  have hgiven : Profile.given Host.usual.validation (some fields) = .ok (some given) := rfl
  have htarget : given.target ∈ (Dialect.builtIn Host.usual.escapeString).map Dialect.name := by
    decide
  obtain ⟨hvalue, hquery⟩ := builtIn_failures hgiven htarget
  obtain ⟨-, hsignaling, -⟩ := hvalue signaling Tag.float.text
  refine ⟨hgiven, htarget, ?_, hsignaling.mpr ⟨rfl, rfl⟩⟩
  obtain ⟨out, hout⟩ | hformat | ⟨hsignaling, -⟩ | ⟨hmemory, -⟩ :=
    hquery "\x7b?a\x7d".toList .list [items]
  · cases hout
  · exact hformat
  · cases hsignaling
  · cases hmemory

/-- A placeholder that asks for a signaling NaN as a float, and the value alone: the failure is no
format error. -/
theorem query_signalingNaN :
    let value : Argument := .decimal (.nan false true 0)
    let outcome := (builtIn.query "?f".toList (.sequence .list [value]) none .absent).outcome
    outcome = .error .signalingNaN ∧
      ¬((∃ out, outcome = .ok out) ∨ ∃ e, outcome = .error (.format e)) ∧
      builtIn.formatValue value Tag.float.text none .absent = .error .signalingNaN := by
  intro value outcome
  have houtcome : outcome = .error .signalingNaN := rfl
  refine ⟨houtcome, ?_, rfl⟩
  rw [houtcome]
  rintro (⟨out, hout⟩ | ⟨e, he⟩)
  · cases hout
  · cases he

end Registry
end SqlTemplate
