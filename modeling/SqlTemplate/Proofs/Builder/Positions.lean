import SqlTemplate.Proofs.Builder.Collection

/-!
# Mappings in the place of lists

A mapping from the positions `0`, `1`, ... in this order stands for the list of its values, whatever
the tag is and whether rendering succeeds or not. No other mapping stands for anything but itself:
in the place of a collection it is written as assignments, one for each entry, and no other
placeholder takes it.
-/
namespace SqlTemplate.Builder

variable {b : Builder}

/-- What becomes of two values: the same, or refusals that differ only in the kind they name, which
is that of the value itself. -/
inductive Agree (kind kind' : Text) : Except Failure Text → Except Failure Text → Prop
  | same (outcome : Except Failure Text) : Agree kind kind' outcome outcome
  | own (problem : FormatProblem) (tag : Option Text) (position : Option Int) :
      Agree kind kind' (.error (.format ⟨problem, tag, position, some kind⟩))
        (.error (.format ⟨problem, tag, position, some kind'⟩))

theorem Agree.annotate {kind kind' : Text} {x y : Except Failure Text} (h : Agree kind kind' x y)
    (tag : Option Text) (position : Option Int) :
    Agree kind kind' (x.mapError (·.annotate tag position)) (y.mapError (·.annotate tag position)) := by
  cases h with
  | same => exact .same _
  | own => exact .own _ _ _

/-- No rule tells lists of the same items apart, but by their kinds in its refusals. -/
theorem renderBy_agree {value value' : Argument} {items : List Argument}
    (h : value.IsListOf items) (h' : value'.IsListOf items) (rule : Tag) :
    Agree value.kindName value'.kindName (b.renderBy value rule) (b.renderBy value' rule) := by
  have hshape := Argument.shape?_eq_sequence_iff.mpr h
  have hshape' := Argument.shape?_eq_sequence_iff.mpr h'
  cases rule with
  | bare =>
    simp only [renderBy, renderBare, hshape, hshape']
    exact .own _ _ _
  | integer =>
    simp only [renderBy, renderInteger, hshape, hshape']
    exact .own _ _ _
  | float =>
    simp only [renderBy, renderFloat, hshape, hshape']
    exact .own _ _ _
  | array =>
    simp only [renderBy, renderArray, hshape, hshape']
    split
    · exact .own _ _ _
    · exact .same _
  | identifier =>
    simp only [renderBy, renderIdentifier_list h, renderIdentifier_list h']
    exact .same _

theorem render_agree {value value' : Argument} {items : List Argument}
    (h : value.IsListOf items) (h' : value'.IsListOf items) (tag : Text) :
    Agree value.kindName value'.kindName (b.render value tag) (b.render value' tag) := by
  unfold render
  split
  · exact .same _
  · exact (renderBy_agree h h' _).annotate _ _

/-- A keyed collection has its place in a collection only. -/
theorem renderBy_of_isKeyed {value : Argument} {entries : List (Argument × Argument)}
    (h : value.IsKeyed entries) {rule : Tag} (hrule : rule ≠ .array) :
    ∃ e, b.renderBy value rule = .error (.format e) := by
  have hshape := Argument.shape?_eq_mapping_iff.mpr h
  cases rule with
  | bare =>
    simp only [renderBy, renderBare, hshape]
    exact ⟨_, rfl⟩
  | integer =>
    simp only [renderBy, renderInteger, hshape]
    exact ⟨_, rfl⟩
  | float =>
    simp only [renderBy, renderFloat, hshape]
    exact ⟨_, rfl⟩
  | array => exact absurd rfl hrule
  | identifier =>
    simp only [renderBy, renderIdentifier, hshape]
    cases h with
    | mapping => exact ⟨_, rfl⟩

theorem render_of_isKeyed {value : Argument} {entries : List (Argument × Argument)}
    (h : value.IsKeyed entries) {tag : Text} (htag : tag ≠ Tag.array.text) :
    ∃ e, b.render value tag = .error (.format e) := by
  unfold render
  split
  · exact ⟨_, rfl⟩
  · rename_i rule hrule
    obtain rfl := Tag.eq_text_of_ofText? hrule
    have hother : rule ≠ .array := by
      rintro rfl
      exact htag rfl
    obtain ⟨e, he⟩ := b.renderBy_of_isKeyed h hother
    rw [he]
    exact ⟨_, rfl⟩

/-- What a key is written as: a string as it is, an integer by its digits. -/
inductive Spells : Argument → Text → Prop
  | text (t : Text) : Spells (.text t) t
  | int (n : Int) : Spells (.int n) (Numeral.ofInt n)

/-- A value as a query holds it: null, a number, or a string in quotes. -/
def IsQueryLiteral (t : Text) : Prop :=
  IsNumeric t ∨ ∃ inside, t = Text.singleQuote :: inside ++ [Text.singleQuote]

/-- An assignment of an entry's value to its key: an identifier, the sign between them, and a
literal, which is what the bare rule gives. -/
inductive IsAssignment (b : Builder) : Argument × Argument → Text → Prop
  | mk {key value : Argument} {name quoted literal : Text} (hname : Spells key name)
      (hquoted : b.compiler.quoteIdentifier name = .ok quoted)
      (hvalue : b.renderBare value = .ok literal) (hliteral : IsQueryLiteral literal) :
      IsAssignment b (key, value) (quoted ++ " = ".toList ++ literal)

theorem exists_spells_of_quoteName {key : Argument} {out : Text} (h : b.quoteName key = .ok out) :
    ∃ name, Spells key name ∧ b.compiler.quoteIdentifier name = .ok out := by
  cases key with
  | text t => exact ⟨t, .text t, h⟩
  | int n => exact ⟨_, .int n, (quoteName_int_eq_ok_iff.mp h).2⟩
  | _ => cases h

theorem isQueryLiteral_of_renderBare {value : Argument} {out : Text} (h : b.renderBare value = .ok out) :
    IsQueryLiteral out := by
  by_cases htext : ∃ t, value = .text t
  · obtain ⟨t, rfl⟩ := htext
    obtain ⟨inside, -, hout⟩ := map_eq_ok.mp h
    exact .inr ⟨inside, hout.symm⟩
  · exact .inl (b.yields_renderBare (fun t ht => htext ⟨t, ht⟩) out h)

theorem isAssignment_of_renderEntry {entry : Argument × Argument} {part : Text}
    (h : b.renderEntry entry = .ok part) : b.IsAssignment entry part := by
  obtain ⟨key, hkey, h⟩ := bind_eq_ok.mp h
  obtain ⟨literal, hliteral, h⟩ := bind_eq_ok.mp h
  obtain ⟨name, hname, hquoted⟩ := exists_spells_of_quoteName hkey
  cases h
  exact .mk hname hquoted hliteral (isQueryLiteral_of_renderBare hliteral)

/-- In the place of a collection, a keyed one is written as its assignments. -/
theorem renderArray_keyed {value : Argument} {entries : List (Argument × Argument)}
    (hentries : value.IsKeyed entries) {out : Text} (h : b.renderArray value = .ok out) :
    ∃ parts, List.Forall₂ b.IsAssignment entries parts ∧ Text.commaSeparated parts = out := by
  rw [renderArray, Argument.shape?_eq_mapping_iff.mpr hentries] at h
  obtain ⟨parts, hparts, hout⟩ := map_eq_ok.mp h
  rw [mapM_eq_ok_iff, ← List.forall₂_eq_eq_eq, List.forall₂_map_left_iff,
    List.forall₂_map_right_iff] at hparts
  exact ⟨parts, hparts.imp fun _ _ => isAssignment_of_renderEntry, hout⟩

/-- Mappings from positions and lists are interchangeable, and no other mappings are. A mapping from
the positions in order and the list of its values come to the same under every tag: to the same
text, or to the same failure up to the name of their own kinds. Every other mapping is refused under
every tag but that of collections, and under that one comes, if to any text at all, to one
assignment for each entry. -/
theorem positions_as_list (b : Builder) (kind : CollectionKind)
    (entries : List (Argument × Argument)) :
    (Argument.HasPositions 0 entries → ∀ tag,
      Agree kind.name CollectionKind.list.name (b.render (.mapping kind entries) tag)
        (b.render (.sequence .list (entries.map Prod.snd)) tag)) ∧
    (¬Argument.HasPositions 0 entries →
      (∀ tag ≠ Tag.array.text, ∃ e, b.render (.mapping kind entries) tag = .error (.format e)) ∧
      ∀ out, b.render (.mapping kind entries) Tag.array.text = .ok out →
        ∃ parts, List.Forall₂ b.IsAssignment entries parts ∧ Text.commaSeparated parts = out) := by
  constructor
  · intro hpositions tag
    exact render_agree (.mapping kind hpositions) (.sequence .list _) tag
  · intro hkeys
    have hkeyed : (Argument.mapping kind entries).IsKeyed entries := .mapping kind hkeys
    refine ⟨fun tag htag => render_of_isKeyed hkeyed htag, fun out hout => ?_⟩
    exact renderArray_keyed hkeyed (render_text_eq_ok_iff.mp hout)

/-- Positions in order, as a list and as a value, and the same positions the other way round. -/
theorem positions_as_list_reversed :
    let b : Builder := ⟨⟨.mysql, none⟩, .default, Decimal.mostDigits⟩
    let entries : List (Argument × Argument) := [(.int 0, .text ['x']), (.int 1, .null)]
    let listed := "'x', NULL".toList
    let assigned := "\x601\x60 = NULL, \x600\x60 = 'x'".toList
    Argument.HasPositions 0 entries ∧
      b.render (.mapping .ordered entries) Tag.array.text = .ok listed ∧
      b.render (.sequence .list [.text ['x'], .null]) Tag.array.text = .ok listed ∧
      ¬Argument.HasPositions 0 entries.reverse ∧
      b.render (.mapping .plain entries.reverse) Tag.array.text = .ok assigned ∧
      (∃ parts, List.Forall₂ b.IsAssignment entries.reverse parts ∧
        Text.commaSeparated parts = assigned) ∧
      ∃ e, b.render (.mapping .plain entries.reverse) Tag.identifier.text = .error (.format e) := by
  intro b entries listed assigned
  have hpositions : Argument.HasPositions 0 entries := rfl
  have hreversed : ¬Argument.HasPositions 0 entries.reverse := fun h => by
    cases (List.cons.inj h).1
  have hlisted : b.render (.mapping .ordered entries) Tag.array.text = .ok listed := by
    decide +kernel
  have hassigned : b.render (.mapping .plain entries.reverse) Tag.array.text = .ok assigned := by
    decide +kernel
  have hlist : b.render (.sequence .list [.text ['x'], .null]) Tag.array.text = .ok listed := by
    have hagree := (positions_as_list b .ordered entries).1 hpositions Tag.array.text
    rw [hlisted] at hagree
    generalize hother : b.render _ Tag.array.text = other at hagree
    cases hagree
    exact hother
  obtain ⟨hrefused, hwritten⟩ := (positions_as_list b .plain entries.reverse).2 hreversed
  exact ⟨hpositions, hlisted, hlist, hreversed, hassigned, hwritten _ hassigned,
    hrefused _ (by decide)⟩

end SqlTemplate.Builder
