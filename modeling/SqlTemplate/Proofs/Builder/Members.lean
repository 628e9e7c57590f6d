import Mathlib.Algebra.Group.Nat.Defs
import SqlTemplate.Proofs.Builder.Collection

/-!
# The first bad member of a collection

A collection is written member by member: the items of a list by the bare rule, and of a keyed
collection each key as a name and then its value by the bare rule. It is written if every member is.
Otherwise the first member that fails decides, and its failure comes out as it is, but for the tag.
-/
namespace SqlTemplate

/-- The failure of a computation that fails. -/
def failure? {α ε : Type} : Except ε α → Option ε
  | .ok _ => none
  | .error e => some e

theorem failure?_eq_none_iff {α ε : Type} {x : Except ε α} :
    failure? x = none ↔ ∃ a, x = .ok a := by
  cases x <;> simp [failure?]

theorem failure?_eq_some_iff {α ε : Type} {x : Except ε α} {e : ε} :
    failure? x = some e ↔ x = .error e := by
  cases x <;> simp [failure?]

@[simp] theorem failure?_map {α β ε : Type} (x : Except ε α) (f : α → β) :
    failure? (x.map f) = failure? x := by
  cases x <;> rfl

/-- Going through a list fails with the first failure on the way. -/
theorem failure?_mapM {α β ε : Type} (f : α → Except ε β) (l : List α) :
    failure? (l.mapM f) = l.findSome? fun a => failure? (f a) := by
  induction l with
  | nil => rfl
  | cons a l ih =>
    rw [List.mapM_cons, List.findSome?_cons, ← ih]
    cases f a with
    | error => rfl
    | ok b => cases l.mapM f <;> rfl

theorem findSome?_flatMap {α β γ : Type} (f : β → Option γ) (g : α → List β) (l : List α) :
    (l.flatMap g).findSome? f = l.findSome? fun a => (g a).findSome? f := by
  induction l with
  | nil => rfl
  | cons a l ih =>
    rw [List.flatMap_cons, List.findSome?_append, List.findSome?_cons, ih]
    cases (g a).findSome? f <;> rfl

/-- A member of a collection: the key of an entry, which is a name, or a value. -/
inductive Member where
  | name (key : Argument)
  | element (value : Argument)

namespace Member

def argument : Member → Argument
  | name key => key
  | element value => value

/-- The two members of an entry, the key first. -/
def ofEntry (entry : Argument × Argument) : List Member :=
  [name entry.1, element entry.2]

end Member

namespace Argument

/-- Sequences and mappings. -/
def IsCollection : Argument → Prop
  | sequence .. | mapping .. => True
  | _ => False

/-- Values that may be members of a collection: all but collections, the mark that skips, bytes and
foreign values. -/
def IsAtom : Argument → Prop
  | null | bool _ | int _ | binary _ | decimal _ | text _ => True
  | _ => False

/-- The members of a collection in their order. The positions of a list are no members. -/
inductive HasMembers : Argument → List Member → Prop
  | list {value : Argument} {items : List Argument} (h : value.IsListOf items) :
      HasMembers value (items.map .element)
  | keyed {value : Argument} {entries : List (Argument × Argument)} (h : value.IsKeyed entries) :
      HasMembers value (entries.flatMap Member.ofEntry)

theorem IsCollection.exists_hasMembers {value : Argument} (h : value.IsCollection) :
    ∃ members, value.HasMembers members := by
  cases value with
  | sequence kind items => exact ⟨_, .list (.sequence kind items)⟩
  | mapping kind entries =>
    by_cases hpositions : HasPositions 0 entries
    · exact ⟨_, .list (.mapping kind hpositions)⟩
    · exact ⟨_, .keyed (.mapping kind hpositions)⟩
  | _ => cases h

end Argument

/-- A format error that names no tag. -/
def Failure.IsUntagged : Failure → Prop
  | .format e => e.tag = none
  | _ => False

theorem Failure.IsUntagged.exists_format {failure : Failure} (h : failure.IsUntagged) :
    ∃ e, failure = .format e ∧ e.tag = none := by
  cases failure with
  | format e => exact ⟨e, rfl, h⟩
  | _ => exact h.elim

namespace Builder

variable {b : Builder}

/-- Renders a member of a collection. -/
def renderMember (b : Builder) : Member → Except Failure Text
  | .name key => b.quoteName key
  | .element value => b.renderBare value

/-- An entry fails with the first of its members that does. -/
theorem failure?_renderEntry (b : Builder) (entry : Argument × Argument) :
    failure? (b.renderEntry entry) =
      (Member.ofEntry entry).findSome? fun m => failure? (b.renderMember m) := by
  simp only [Member.ofEntry, List.findSome?_cons, List.findSome?_nil, renderMember, renderEntry]
  cases b.quoteName entry.1 with
  | error => rfl
  | ok key => cases b.renderBare entry.2 <;> rfl

/-- A collection fails with the first of its members that does. -/
theorem failure?_renderArray (hempty : b.profile.allowEmpty = true) {value : Argument}
    {members : List Member} (h : value.HasMembers members) :
    failure? (b.renderArray value) = members.findSome? fun m => failure? (b.renderMember m) := by
  cases h with
  | list h =>
    simp only [renderArray, Argument.shape?_eq_sequence_iff.mpr h, hempty, Bool.not_true,
      Bool.and_false, Bool.false_eq_true, if_false, failure?_map, failure?_mapM, List.findSome?_map]
    rfl
  | keyed h =>
    simp only [renderArray, Argument.shape?_eq_mapping_iff.mpr h, failure?_map, failure?_mapM,
      failure?_renderEntry, findSome?_flatMap]

theorem integerText_eq_error {n : Int} {failure : Failure} (h : integerText n = .error failure) :
    failure = .format ⟨.longInteger, none, none, some "int".toList⟩ := by
  unfold integerText at h
  split at h
  · cases h
  · exact (Except.error.inj h).symm

theorem numberText_eq_error {x : Number} {failure : Failure} (h : numberText x = .error failure) :
    failure = .format ⟨.noLiteral x.quoted, none, none, some x.kindName⟩ := by
  unfold numberText at h
  split at h
  · cases h
  · exact (Except.error.inj h).symm

/-- A collection, a mark that skips and a value of no kind of ours are no members. -/
theorem renderMember_of_not_isAtom {m : Member} (h : ¬m.argument.IsAtom) :
    ∃ problem, b.renderMember m = refusal problem (some m.argument.kindName) := by
  cases m with
  | name key =>
    cases key with
    | sequence | mapping | skip | bytes | foreign => exact ⟨_, rfl⟩
    | _ => exact absurd trivial h
  | element value =>
    cases value with
    | sequence | skip | bytes | foreign => exact ⟨_, rfl⟩
    | mapping kind entries =>
      refine ⟨.unfitValue, ?_⟩
      rw [renderMember, renderBare, Argument.shape?]
      split_ifs <;> rfl
    | _ => exact absurd trivial h

/-- The failure of a member comes from the compiler: where it escapes a string, or where it quotes a
name. -/
def ComesFromCompiler (b : Builder) (failure : Failure) : Member → Prop
  | .element value => ∃ t, value = .text t ∧ b.compiler.escape t = .error failure
  | .name _ => ∃ name, b.compiler.quoteIdentifier name = .error failure

theorem isUntagged_of_comesFromCompiler
    (hescape : ∀ t, FailsOnly Failure.IsUntagged (b.compiler.escape t))
    (hquote : ∀ name, FailsOnly Failure.IsUntagged (b.compiler.quoteIdentifier name)) {m : Member}
    {failure : Failure} (h : b.ComesFromCompiler failure m) : failure.IsUntagged := by
  cases m with
  | element value =>
    obtain ⟨t, -, hfailed⟩ := h
    exact hescape t failure hfailed
  | name key =>
    obtain ⟨name, hfailed⟩ := h
    exact hquote name failure hfailed

/-- A member that fails does so with a format error that names no tag and the kind of the member,
unless the failure comes from the compiler. -/
theorem refused_of_renderMember {m : Member} {failure : Failure}
    (h : b.renderMember m = .error failure) :
    (∃ problem, failure = .format ⟨problem, none, none, some m.argument.kindName⟩) ∨
      b.ComesFromCompiler failure m := by
  by_cases hatom : m.argument.IsAtom
  · cases m with
    | name key =>
      cases key with
      | text t => exact .inr ⟨t, h⟩
      | int n =>
        have hbind : integerText n >>= b.compiler.quoteIdentifier = .error failure := h
        obtain hlong | ⟨t, -, hfailed⟩ := bind_eq_error.mp hbind
        · exact .inl ⟨_, integerText_eq_error hlong⟩
        · exact .inr ⟨t, hfailed⟩
      | null | bool | binary | decimal =>
        cases h
        exact .inl ⟨_, rfl⟩
      | _ => exact absurd hatom id
    | element value =>
      cases value with
      | null | bool => cases h
      | int n =>
        have hlong : integerText n = .error failure := h
        exact .inl ⟨_, integerText_eq_error hlong⟩
      | binary x => exact .inl ⟨_, numberText_eq_error (x := .binary x) h⟩
      | decimal d => exact .inl ⟨_, numberText_eq_error (x := .decimal d) h⟩
      | text t => exact .inr ⟨t, rfl, map_eq_error.mp h⟩
      | _ => exact absurd hatom id
  · obtain ⟨problem, hrefused⟩ := renderMember_of_not_isAtom (b := b) hatom
    rw [hrefused] at h
    cases h
    exact .inl ⟨problem, rfl⟩

/-- Positions can be quoted, as long as they can be written and the dialect quotes every name. -/
theorem quoteName_of_hasPositions (hquotes : b.compiler.dialect.Quotes)
    {entries : List (Argument × Argument)} (h : Argument.HasPositions 0 entries)
    (hlength : entries.length ≤ 10 ^ Numeral.digitLimit) :
    ∀ entry ∈ entries, ∃ t, b.quoteName entry.1 = .ok t := by
  intro entry hentry
  have hkey : entry.1 ∈ entries.map Prod.fst := List.mem_map_of_mem hentry
  rw [h] at hkey
  obtain ⟨k, hk, hposition⟩ : ∃ k < entries.length, Argument.int k = entry.1 := by
    simpa using hkey
  have hshort : Numeral.isShort k = true := by
    rw [Numeral.isShort, decide_eq_true_iff, Nat.pow_eq, Int.natAbs_natCast]
    omega
  rw [← hposition]
  obtain ⟨t, ht⟩ := hquotes (Numeral.ofInt k)
  exact ⟨t, quoteName_int_eq_ok_iff.mpr ⟨hshort, ht⟩⟩

/-- A collection is rendered exactly if all of its members are, and otherwise fails on the first one
that is not. For every sequence and every mapping, where empty collections are allowed and the
compiler fails with format errors that name no tag: the failure is that of the first member that
fails, with its own message and the kind of this member, and with the tag of collections.
Collections, marks that skip and foreign values fail as members wherever they stand. The keys of a
mapping that is a list do not count as members, and none of them would fail in a dialect that quotes
every name. -/
theorem render_fails_at_first_member (hempty : b.profile.allowEmpty = true)
    (hescape : ∀ t, FailsOnly Failure.IsUntagged (b.compiler.escape t))
    (hquote : ∀ name, FailsOnly Failure.IsUntagged (b.compiler.quoteIdentifier name))
    {value : Argument} (hvalue : value.IsCollection) :
    ∃ members, value.HasMembers members ∧
      ((∃ out, b.render value Tag.array.text = .ok out) ↔
        ∀ m ∈ members, ∃ t, b.renderMember m = .ok t) ∧
      (∀ before m after failure, members = before ++ m :: after →
        (∀ good ∈ before, ∃ t, b.renderMember good = .ok t) →
        b.renderMember m = .error failure →
          ∃ e, failure = .format e ∧
            b.render value Tag.array.text =
              .error (.format { e with tag := some Tag.array.text }) ∧
            (e.kind = some m.argument.kindName ∨ b.ComesFromCompiler failure m)) ∧
      (∀ m ∈ members, ¬m.argument.IsAtom →
        ∃ e, b.renderMember m = .error (.format e) ∧ e.kind = some m.argument.kindName) ∧
      ∀ kind entries, value = .mapping kind entries → Argument.HasPositions 0 entries →
        b.compiler.dialect.Quotes → entries.length ≤ 10 ^ Numeral.digitLimit →
          ∀ entry ∈ entries, ∃ t, b.quoteName entry.1 = .ok t := by
  obtain ⟨members, hmembers⟩ := hvalue.exists_hasMembers
  have hfirst := failure?_renderArray hempty hmembers
  refine ⟨members, hmembers, ?_, ?_, ?_, ?_⟩
  · simp only [render_rule, renderBy, mapError_eq_ok, ← failure?_eq_none_iff, hfirst,
      List.findSome?_eq_none_iff]
  · intro before m after failure hsplit hbefore hm
    have hreason := refused_of_renderMember hm
    obtain ⟨e, rfl, htag⟩ : ∃ e, failure = .format e ∧ e.tag = none := by
      obtain ⟨problem, rfl⟩ | hcompiler := hreason
      · exact ⟨_, rfl, rfl⟩
      · exact (isUntagged_of_comesFromCompiler hescape hquote hcompiler).exists_format
    have hkind : e.kind = some m.argument.kindName ∨ b.ComesFromCompiler (.format e) m := by
      obtain ⟨problem, he⟩ | hcompiler := hreason
      · rw [Failure.format.inj he]
        exact .inl rfl
      · exact .inr hcompiler
    refine ⟨e, rfl, ?_, hkind⟩
    have hfailed : b.renderArray value = .error (.format e) := by
      rw [← failure?_eq_some_iff, hfirst, List.findSome?_eq_some_iff]
      exact ⟨before, m, after, hsplit, failure?_eq_some_iff.mpr hm, fun good hgood =>
        failure?_eq_none_iff.mpr (hbefore good hgood)⟩
    have hannotate : e.annotate (some Tag.array.text) none =
        { e with tag := some Tag.array.text } := by
      simp [FormatError.annotate, htag]
    rw [render_rule, renderBy, hfailed, ← hannotate]
    rfl
  · intro m _ hatom
    obtain ⟨problem, hrefused⟩ := renderMember_of_not_isAtom (b := b) hatom
    exact ⟨_, hrefused, rfl⟩
  · intro kind entries _ hpositions hquotes hlength
    exact quoteName_of_hasPositions hquotes hpositions hlength

/-- A tuple inside a mapping, with a good entry before it and a mark that skips after it. -/
theorem render_fails_at_first_member_nested :
    let b : Builder := ⟨⟨.postgres, none⟩, .default, Decimal.mostDigits⟩
    let entries : List (Argument × Argument) :=
      [(.text ['k'], .text ['v']), (.text ['n'], .sequence .tuple []), (.text ['s'], .skip)]
    b.profile.allowEmpty = true ∧
      (∀ t, FailsOnly Failure.IsUntagged (b.compiler.escape t)) ∧
      (∀ name, FailsOnly Failure.IsUntagged (b.compiler.quoteIdentifier name)) ∧
      (Argument.mapping .plain entries).IsCollection ∧
      b.render (.mapping .plain entries) Tag.array.text =
        .error (.format ⟨.unfitValue, some ['a'], none, some "tuple".toList⟩) := by
  intro b entries
  have hescape : ∀ t, FailsOnly Failure.IsUntagged (b.compiler.escape t) := by
    intro t
    show FailsOnly Failure.IsUntagged (Escaping.doubling t)
    unfold Escaping.doubling
    split
    · exact (FailsOnly.error_iff _).mpr rfl
    · exact .ok _
  have hquote : ∀ name, FailsOnly Failure.IsUntagged (b.compiler.quoteIdentifier name) :=
    fun name => .ok _
  have hvalue : (Argument.mapping .plain entries).IsCollection := trivial
  refine ⟨rfl, hescape, hquote, hvalue, ?_⟩
  obtain ⟨members, hmembers, -, hfirst, -⟩ :=
    render_fails_at_first_member (b := b) rfl hescape hquote hvalue
  -- The keys are no positions, so the keys and the values are the members.
  have hkeyed : members = entries.flatMap Member.ofEntry := by
    cases hmembers with
    | list h =>
      cases h with
      | mapping _ hpositions => cases (List.cons.inj hpositions).1
    | keyed h =>
      cases h
      rfl
  obtain ⟨e, he, hrender, -⟩ := hfirst
    [.name (.text ['k']), .element (.text ['v']), .name (.text ['n'])]
    (.element (.sequence .tuple [])) [.name (.text ['s']), .element .skip]
    (.format ⟨.unfitValue, none, none, some "tuple".toList⟩) hkeyed
    (by
      intro good hgood
      simp only [List.mem_cons, List.not_mem_nil, or_false] at hgood
      obtain rfl | rfl | rfl := hgood <;> exact ⟨_, rfl⟩)
    rfl
  obtain rfl := Failure.format.inj he
  exact hrender

end Builder
end SqlTemplate
