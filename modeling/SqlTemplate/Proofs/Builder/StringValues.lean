import SqlTemplate.Proofs.Builder.Numeric
import SqlTemplate.Proofs.Builder.Outcome
import SqlTemplate.Proofs.Builder.Skeleton

/-!
# What an escaper gets to see

A rendered value is a row of parts, each of which is fixed before any escaper is asked or is the
literal of a string. The strings are the values in the place of a bare placeholder and those inside
of collections; names, keys of mappings, numbers in the form of strings and the text of the template
are none of them. So an escaper matters by what it makes of these strings only.
-/
namespace SqlTemplate

/-- A part of a rendered value: an outcome that does not depend on the escaper, or a string that the
escaper gets. -/
inductive Part where
  | fixed (outcome : Except Failure Text)
  | quoted (t : Text)

namespace Part

/-- The text of a part. A string is what the escaper makes of it, between single quotes. -/
def fill (escape : Escaper) : Part → Except Failure Text
  | fixed outcome => outcome
  | quoted t => (escape t).map fun inside => Text.singleQuote :: inside ++ [Text.singleQuote]

/-- The text of several parts, up to the first one that fails. -/
def fillAll (escape : Escaper) (parts : List Part) : Except Failure Text :=
  (parts.mapM (fill escape)).map List.flatten

@[simp] theorem fillAll_singleton (escape : Escaper) (part : Part) :
    fillAll escape [part] = part.fill escape := by
  rw [fillAll, List.mapM_cons]
  cases part.fill escape with
  | error => rfl
  | ok t => exact congrArg Except.ok t.append_nil

theorem fillAll_append (escape : Escaper) (parts more : List Part) :
    fillAll escape (parts ++ more) = do
      let t ← fillAll escape parts
      let u ← fillAll escape more
      return t ++ u := by
  rw [fillAll, fillAll, fillAll, List.mapM_append]
  cases parts.mapM (fill escape) with
  | error => rfl
  | ok ts =>
    cases more.mapM (fill escape) with
    | error => rfl
    | ok us => exact congrArg Except.ok List.flatten_append

theorem fillAll_cons (escape : Escaper) (part : Part) (parts : List Part) :
    fillAll escape (part :: parts) = do
      let t ← part.fill escape
      let u ← fillAll escape parts
      return t ++ u := by
  rw [← List.singleton_append, fillAll_append, fillAll_singleton]

/-- Two escapers that agree on the strings among some parts give the same text. -/
theorem fillAll_congr {escape other : Escaper} {parts : List Part}
    (h : ∀ t, quoted t ∈ parts → escape t = other t) :
    fillAll escape parts = fillAll other parts := by
  have hfill : ∀ part ∈ parts, part.fill escape = part.fill other := by
    intro part hpart
    cases part with
    | fixed => rfl
    | quoted t => rw [fill, fill, h t hpart]
  rw [fillAll, fillAll, mapM_congr_left hfill]

/-- Rows of parts with a comma and a blank between neighbours. -/
def separated (rows : List (List Part)) : List Part :=
  [fixed (.ok [',', ' '])].intercalate rows

theorem separated_cons_cons (row next : List Part) (rest : List (List Part)) :
    separated (row :: next :: rest) =
      row ++ fixed (.ok [',', ' ']) :: separated (next :: rest) := by
  simp [separated, List.intercalate_cons_cons]

theorem fillAll_separated (escape : Escaper) (rows : List (List Part)) :
    fillAll escape (separated rows) =
      (rows.mapM (fillAll escape)).map Text.commaSeparated := by
  induction rows with
  | nil => rfl
  | cons row rest ih =>
    rw [List.mapM_cons]
    cases rest with
    | nil =>
      rw [separated, List.intercalate_singleton]
      cases fillAll escape row with
      | error => rfl
      | ok t => exact congrArg Except.ok (Text.commaSeparated_singleton t).symm
    | cons next rest =>
      -- The first row that fails decides, so the cases follow the order of the rows.
      rw [separated_cons_cons, fillAll_append, fillAll_cons, ih, List.mapM_cons]
      cases fillAll escape row with
      | error => rfl
      | ok t =>
        cases fillAll escape next with
        | error => rfl
        | ok u =>
          cases rest.mapM (fillAll escape) with
          | error => rfl
          | ok us => exact congrArg Except.ok (Text.commaSeparated_cons_cons t u us).symm

theorem quoted_mem_separated {t : Text} {rows : List (List Part)} :
    quoted t ∈ separated rows ↔ ∃ row ∈ rows, quoted t ∈ row := by
  induction rows with
  | nil => simp [separated]
  | cons row rest ih =>
    cases rest with
    | nil => simp [separated]
    | cons next rest => simp [separated_cons_cons, ih]

end Part

/-- A string is the value itself in the place of a bare placeholder, or an item or the value of an
entry in the place of a collection. The keys of a mapping are none of these. -/
inductive Argument.IsStringValue : Argument → Tag → Text → Prop
  | bare (t : Text) : IsStringValue (.text t) .bare t
  | item (kind : CollectionKind) {items : List Argument} {t : Text} (h : .text t ∈ items) :
    IsStringValue (.sequence kind items) .array t
  | entry (kind : CollectionKind) {entries : List (Argument × Argument)} {t : Text}
    (h : .text t ∈ entries.map Prod.snd) : IsStringValue (.mapping kind entries) .array t

/-- A string is among the values of an argument, by the rule of the placeholder that takes it. -/
def HasStringValue (template : Text) (args : List Argument) (t : Text) : Prop :=
  ∃ (rule : Tag) (index offset : ℕ), .placeholder rule.text index offset ∈ Token.read template ∧
    (args.getD index .null).IsStringValue rule t

namespace Builder

/-- The builder with an escaper in place of the dialect's own. -/
def escapingBy (b : Builder) (escape : Escaper) : Builder :=
  { b with compiler := ⟨b.compiler.dialect, some escape⟩ }

/-- What the bare rule makes of a value. -/
def part (b : Builder) : Argument → Part
  | .text t => .quoted t
  | value => .fixed (b.renderBare value)

/-- What a mapping's entry is made of. Its key is none of the escaper's business. -/
def entryParts (b : Builder) (entry : Argument × Argument) : List Part :=
  [.fixed (b.quoteName entry.1), .fixed (.ok " = ".toList), b.part entry.2]

/-- What a rendered collection is made of. Without items there is nothing to escape. -/
def arrayParts (b : Builder) (value : Argument) : List Part :=
  match value.shape? with
  | some (.sequence (item :: items)) =>
    Part.separated ((item :: items).map fun item => [b.part item])
  | some (.mapping entries) => Part.separated (entries.map b.entryParts)
  | _ => [.fixed (b.renderArray value)]

/-- What a rendered value is made of. -/
def parts (b : Builder) (value : Argument) : Tag → List Part
  | .bare => [b.part value]
  | .array => b.arrayParts value
  | rule => [.fixed (b.renderBy value rule)]

variable (b : Builder) (escape : Escaper)

theorem quoted_eq_part_iff {t : Text} {value : Argument} :
    .quoted t = b.part value ↔ .text t = value := by
  cases value <;> simp [part]

theorem fill_part (value : Argument) :
    (b.part value).fill escape = (b.escapingBy escape).renderBare value := by
  cases value with
  | mapping kind entries =>
    change b.renderBare _ = _
    rw [renderBare, renderBare, Argument.shape?]
    split_ifs <;> rfl
  | _ => rfl

theorem fillAll_entryParts (entry : Argument × Argument) :
    Part.fillAll escape (b.entryParts entry) = (b.escapingBy escape).renderEntry entry := by
  have hname : (b.escapingBy escape).quoteName entry.1 = b.quoteName entry.1 := rfl
  rw [entryParts, Part.fillAll_cons, Part.fillAll_cons, Part.fillAll_singleton, fill_part,
    renderEntry, hname, Part.fill]
  cases b.quoteName entry.1 with
  | error => rfl
  | ok key =>
    cases (b.escapingBy escape).renderBare entry.2 with
    | error => rfl
    | ok value => exact congrArg Except.ok (List.append_assoc key _ value).symm

theorem fillAll_arrayParts (value : Argument) :
    Part.fillAll escape (b.arrayParts value) = (b.escapingBy escape).renderArray value := by
  rw [arrayParts]
  split
  · rename_i item items hshape
    rw [Part.fillAll_separated, List.mapM_map, renderArray, hshape]
    exact congrArg _ (mapM_congr_left fun item _ => by simp [fill_part])
  · rename_i entries hshape
    rw [Part.fillAll_separated, List.mapM_map, renderArray, hshape]
    exact congrArg _ (mapM_congr_left fun entry _ => b.fillAll_entryParts escape entry)
  · rename_i hsequence hmapping
    -- Of the collections only the empty list is left, on which the profile decides alone.
    rw [Part.fillAll_singleton, Part.fill, renderArray, renderArray]
    cases hshape : value.shape? with
    | none => rfl
    | some shape =>
      cases shape with
      | sequence items =>
        cases items with
        | nil => rfl
        | cons item items => exact absurd hshape (hsequence item items)
      | mapping entries => exact absurd hshape (hmapping entries)
      | _ => rfl

theorem fillAll_parts (value : Argument) (rule : Tag) :
    Part.fillAll escape (b.parts value rule) = (b.escapingBy escape).renderBy value rule := by
  cases rule with
  | bare => exact (Part.fillAll_singleton _ _).trans (b.fill_part escape value)
  | array => exact b.fillAll_arrayParts escape value
  | _ => exact Part.fillAll_singleton _ _

theorem quoted_mem_arrayParts_of_items {value : Argument} {items : List Argument} {t : Text}
    (h : value.shape? = some (.sequence items)) :
    .quoted t ∈ b.arrayParts value ↔ .text t ∈ items := by
  rw [arrayParts, h]
  cases items with
  | nil => simp
  | cons item items => simp [Part.quoted_mem_separated, quoted_eq_part_iff]

theorem quoted_mem_arrayParts_mapping {kind : CollectionKind}
    {entries : List (Argument × Argument)} {t : Text} :
    .quoted t ∈ b.arrayParts (.mapping kind entries) ↔ .text t ∈ entries.map Prod.snd := by
  by_cases hcounted : Argument.isCounted 0 entries
  · exact b.quoted_mem_arrayParts_of_items (by rw [Argument.shape?, if_pos hcounted])
  · have hentry (entry : Argument × Argument) :
        .quoted t ∈ b.entryParts entry ↔ entry.2 = .text t := by
      simp [entryParts, quoted_eq_part_iff, eq_comm (a := Argument.text t)]
    rw [arrayParts, Argument.shape?, if_neg hcounted]
    simp [Part.quoted_mem_separated, hentry]

/-- What the escaper gets are the string values. -/
theorem quoted_mem_parts_iff {value : Argument} {rule : Tag} {t : Text} :
    .quoted t ∈ b.parts value rule ↔ value.IsStringValue rule t := by
  constructor
  · intro h
    cases rule with
    | bare =>
      obtain rfl := b.quoted_eq_part_iff.mp (List.mem_singleton.mp h)
      exact .bare t
    | array =>
      cases value with
      | sequence kind items => exact .item kind ((b.quoted_mem_arrayParts_of_items rfl).mp h)
      | mapping kind entries => exact .entry kind (b.quoted_mem_arrayParts_mapping.mp h)
      | _ => simp [parts, arrayParts, Argument.shape?] at h
    | _ => simp [parts] at h
  · intro h
    cases h with
    | bare => exact List.mem_singleton_self _
    | item kind h => exact (b.quoted_mem_arrayParts_of_items rfl).mpr h
    | entry kind h => exact b.quoted_mem_arrayParts_mapping.mpr h

theorem render_escapingBy (value : Argument) (rule : Tag) :
    (b.escapingBy escape).render value rule.text =
      (Part.fillAll escape (b.parts value rule)).mapError (·.annotate (some rule.text) none) := by
  rw [render_rule, fillAll_parts]

/-- An escaper counts for a rendered value by what it makes of the value's strings. -/
theorem render_congr {escape other : Escaper} {value : Argument} {tag : Text}
    (h : ∀ rule t, Tag.text rule = tag → value.IsStringValue rule t → escape t = other t) :
    (b.escapingBy escape).render value tag = (b.escapingBy other).render value tag := by
  cases hrule : Tag.ofText? tag with
  | none => simp only [render, hrule]
  | some rule =>
    obtain rfl := Tag.eq_text_of_ofText? hrule
    rw [render_escapingBy, render_escapingBy,
      Part.fillAll_congr fun t ht => h rule t rfl (b.quoted_mem_parts_iff.mp ht)]

theorem substitute_congr {escape other : Escaper} {template : Text} {args : List Argument}
    (h : ∀ t, HasStringValue template args t → escape t = other t) :
    (b.escapingBy escape).substitute (Token.read template) args =
      (b.escapingBy other).substitute (Token.read template) args := by
  rw [substitute_read, substitute_read]
  refine mapM_congr_left fun token htoken => ?_
  cases token with
  | placeholder tag index offset =>
    have hrender : (b.escapingBy escape).renderAt args tag index =
        (b.escapingBy other).renderAt args tag index := by
      refine b.render_congr fun rule t hrule ht => h t ⟨rule, index, offset, ?_, ht⟩
      rw [hrule]
      exact htoken
    rw [bindAt_placeholder, bindAt_placeholder, hrender]
    rfl
  | _ => rfl

/-- An escaper sees string values and nothing else of a build. Two escapers that agree on the
strings in the place of bare placeholders and inside of collections build the same, down to the
events. A rendered value is made of parts that no escaper has a say in and of the literals of its
strings, in which the escaper's text stands between single quotes. Integers, floats and names have
no such string, whatever they are read from. -/
theorem escaper_sees_string_values_only (b : Builder) :
    (∀ (template : Text) (args : List Argument) (escape other : Escaper),
      (∀ t, HasStringValue template args t → escape t = other t) →
        (b.escapingBy escape).build template args = (b.escapingBy other).build template args) ∧
      (∀ (value : Argument) (rule : Tag), ∃ parts : List Part,
        (∀ t, .quoted t ∈ parts ↔ value.IsStringValue rule t) ∧
          ∀ escape : Escaper, (b.escapingBy escape).render value rule.text =
            (Part.fillAll escape parts).mapError (·.annotate (some rule.text) none)) ∧
      ∀ (value : Argument) (tag : Text), tag ≠ Tag.bare.text → tag ≠ Tag.array.text →
        ∀ escape other : Escaper,
          (b.escapingBy escape).render value tag = (b.escapingBy other).render value tag := by
  refine ⟨fun template args escape other h => ?_, fun value rule => ?_,
    fun value tag hbare harray escape other => ?_⟩
  · have hprofile : (b.escapingBy escape).profile = (b.escapingBy other).profile := rfl
    exact build_congr hprofile (b.substitute_congr h)
  · exact ⟨b.parts value rule, fun t => b.quoted_mem_parts_iff,
      fun escape => b.render_escapingBy escape value rule⟩
  · refine b.render_congr fun rule t hrule ht => ?_
    cases ht with
    | bare => exact absurd hrule.symm hbare
    | item | entry => exact absurd hrule.symm harray

/-- One string is for the escaper; the text of the template, a name, a number in the form of a
string, a key and a value that is a number are not. An escaper that refuses everything else builds
the same. -/
theorem escaper_sees_string_values_only_one :
    let b : Builder := ⟨⟨.mysql, none⟩, .default, Decimal.mostDigits⟩
    let template := "UPDATE ?# SET ?a WHERE n = 'x' AND i = ?d".toList
    let args : List Argument := [.text "t".toList, .mapping .plain
      [(.text "k".toList, .text "it's".toList), (.text "n".toList, .int 1)], .text " 5 ".toList]
    let picky : Escaper := fun t =>
      if t = "it's".toList then .ok "it''s".toList else .error (.raised [] t)
    (∀ t, HasStringValue template args t → picky t = Escaping.doubling t) ∧
      (b.escapingBy picky).build template args =
        (b.escapingBy Escaping.doubling).build template args ∧
      ((b.escapingBy picky).build template args).outcome =
        .ok "UPDATE `t` SET `k` = 'it''s', `n` = 1 WHERE n = 'x' AND i = 5".toList := by
  intro b template args picky
  have hread : Token.read template =
      [.literal "UPDATE ".toList, .placeholder ['#'] 0 7, .literal " SET ".toList,
        .placeholder ['a'] 1 14, .literal " WHERE n = 'x' AND i = ".toList,
        .placeholder ['d'] 2 39] := by
    decide +kernel
  have hagree : ∀ t, HasStringValue template args t → picky t = Escaping.doubling t := by
    rintro t ⟨rule, index, offset, hmem, hvalue⟩
    have hplaces : rule.text = ['#'] ∧ index = 0 ∧ offset = 7 ∨
        rule.text = ['a'] ∧ index = 1 ∧ offset = 14 ∨
          rule.text = ['d'] ∧ index = 2 ∧ offset = 39 := by
      simpa [hread] using hmem
    obtain ⟨htext, rfl, -⟩ | ⟨htext, rfl, -⟩ | ⟨htext, rfl, -⟩ := hplaces <;>
      cases rule <;> cases htext
    · cases hvalue
    · cases hvalue with
      | entry kind h =>
        obtain rfl : t = "it's".toList := by simpa using h
        decide +kernel
    · cases hvalue
  have hbuild := (escaper_sees_string_values_only b).1 template args picky Escaping.doubling hagree
  refine ⟨hagree, hbuild, ?_⟩
  rw [hbuild]
  decide +kernel

end Builder
end SqlTemplate
