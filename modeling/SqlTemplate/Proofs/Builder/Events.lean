import Mathlib.Data.Nat.Find
import SqlTemplate.Proofs.Builder.FirstFailure
import SqlTemplate.Proofs.Fragment.Dropping
import SqlTemplate.Proofs.Token.Place

/-!
# The log of a build

The log tells what a build did, and nothing else: the numbers of placeholders and arguments, then
the placeholder that failed first, or how many fragments were dropped. What it tells of the template
is found there by position, without going through the build again.
-/
namespace SqlTemplate

namespace Event

/-- Every event is told from the level of debugging on. -/
theorem recordsFrom_debug (events : List Event) :
    recordsFrom .debug events = events.map record := by
  rw [recordsFrom, List.filter_eq_self, List.forall_mem_map]
  intro e _
  cases e <;> rfl

end Event

namespace Builder

/-- Where rendering fails at some placeholder, there is a first one. -/
theorem exists_failsFirstAt {b : Builder} {template tag : Text} {args : List Argument} {index : ℕ}
    {failure : Failure} (h : b.FailsAt template args tag index failure) :
    ∃ tag index failure, b.FailsFirstAt template args tag index failure := by
  classical
  have hsome : ∃ n tag failure, b.FailsAt template args tag n failure := ⟨index, tag, failure, h⟩
  obtain ⟨first, failed, hfirst⟩ := Nat.find_spec hsome
  refine ⟨first, Nat.find hsome, failed, ⟨hfirst, ?_⟩⟩
  intro tag' index' failure' h'
  exact Nat.find_min' hsome ⟨tag', failure', h'⟩

/-- A failure of substitution belongs to a placeholder of the template. -/
theorem mem_read_of_substitute {b : Builder} {template : Text} {args : List Argument} {r : Refused}
    (h : b.substitute (Token.read template) args = .error r) :
    .placeholder r.tag r.index r.offset ∈ Token.read template := by
  rw [substitute_read] at h
  obtain ⟨t, hmem, hbind⟩ := exists_of_mapM_eq_error h
  obtain ⟨rfl, -, -⟩ := bindAt_eq_error_iff.mp hbind
  exact hmem

/-- The number of matched pairs of a template that hold a skipped placeholder or a literal run with
the marker in it. -/
def droppedCount (b : Builder) (template : Text) (args : List Argument) : ℕ :=
  Fragment.droppedPairs (Token.skips b.profile.marker (skippedIndexes template args))
    (Token.read template)

/-- Resolution drops what the template and the skipped placeholders determine. -/
theorem dropped_resolve_of_substitute {b : Builder} {template : Text} {args : List Argument}
    {substituted : List Token}
    (h : b.substitute (Token.read template) args = .ok substituted) :
    (Fragment.resolve b.profile.marker substituted).dropped = b.droppedCount template args := by
  have hopens (t : Token) : (b.placed args t).opens = t.opens := (b.braces_placed args t).1
  have hcloses (t : Token) : (b.placed args t).closes = t.closes := (b.braces_placed args t).2
  rw [Fragment.dropped_resolve, (eq_placed_of_substitute h).2, droppedCount]
  exact Fragment.droppedPairs_map hopens hcloses fun t ht => decides_placed b args ht

/-- The records that open the log of a build: a warning if arguments are missing, a note if some are
left over, and in any case the two numbers. -/
def openingRecords (placeholders arguments : ℕ) : List Record :=
  (if arguments < placeholders then
      [⟨.warning, Logger.builder, (Event.missingArguments placeholders arguments).message⟩]
    else if placeholders < arguments then
      [⟨.debug, Logger.builder, (Event.extraArguments (arguments - placeholders)).message⟩]
    else []) ++
  [⟨.debug, Logger.builder, (Event.compiling placeholders arguments).message⟩]

/-- The record of a placeholder that fails, if it fails with a format error. -/
def failureRecords (text : Text) (index offset : ℕ) : Failure → List Record
  | .format e =>
    [⟨.debug, Logger.builder, (Event.placeholderFailed text index offset e.message).message⟩]
  | _ => []

/-- The record of the dropped fragments, if there are any. -/
def dropRecords (dropped : ℕ) : List Record :=
  if 0 < dropped then
    [⟨.debug, Logger.conditional, (Event.fragmentsDropped dropped).message⟩]
  else []

theorem map_record_opening (placeholders arguments : ℕ) :
    (opening placeholders arguments).map Event.record = openingRecords placeholders arguments := by
  unfold opening countEvents openingRecords
  split_ifs <;> rfl

theorem map_record_events (tag : Text) (index offset : ℕ) (failure : Failure) :
    (Refused.events ⟨tag, index, offset, failure⟩).map Event.record =
      failureRecords (Token.placeholder tag index offset).text index offset failure := by
  cases failure <;> rfl

theorem map_record_dropEvents (dropped : ℕ) :
    (dropEvents dropped).map Event.record = dropRecords dropped := by
  cases dropped <;> rfl

/-- The log of a build tells exactly what it did. Without a fitting number of arguments it is empty.
Else it opens with the numbers. If rendering fails, the placeholder that fails first follows, with
its text, its index and the offset where it stands in the template, as long as the failure is a
format error; if it does not fail, the number of the matched pairs that were dropped follows, unless
there are none. -/
theorem records_build (b : Builder) (template : Text) (args : List Argument) :
    let placeholders := Token.placeholderCount (Token.read template)
    let records := Event.recordsFrom .debug (b.build template args).events
    (b.profile.strict = true ∧ placeholders ≠ args.length → records = []) ∧
    (¬(b.profile.strict = true ∧ placeholders ≠ args.length) →
      (∀ tag index failure, b.FailsFirstAt template args tag index failure →
        ∃ offset, .placeholder tag index offset ∈ Token.read template ∧
          (Token.placeholder tag index offset).text <+: template.drop offset ∧
          (template.take offset).count '?' = index ∧
          records = openingRecords placeholders args.length ++
            failureRecords (Token.placeholder tag index offset).text index offset failure) ∧
      (∀ out, (b.build template args).outcome = .ok out →
        records = openingRecords placeholders args.length ++
          dropRecords (b.droppedCount template args)) ∧
      ((∃ tag index failure, b.FailsFirstAt template args tag index failure) ∨
        ∃ out, (b.build template args).outcome = .ok out)) := by
  intro placeholders records
  have hrecords : records = (b.build template args).events.map Event.record :=
    Event.recordsFrom_debug _
  constructor
  · intro hmismatch
    have hnot : ¬b.CountFits template args := Classical.not_imp.mpr hmismatch
    rw [hrecords, build_of_not_countFits hnot]
    rfl
  · intro hfits
    have hcount : b.CountFits template args := Classical.not_not.mp fun h =>
      hfits (Classical.not_imp.mp h)
    refine ⟨fun tag index failure hfirst => ?_, fun out hout => ?_, ?_⟩
    · obtain ⟨offset, hs⟩ := substitute_of_failsAt hfirst fun _ _ => rfl
      have hmem := mem_read_of_substitute hs
      obtain ⟨htext, hindex⟩ := Token.place_of_mem_read hmem
      refine ⟨offset, hmem, htext, hindex, ?_⟩
      rw [hrecords, build_of_countFits hcount, hs]
      dsimp only
      rw [List.map_append, map_record_opening, map_record_events]
    · obtain ⟨-, substituted, hs, -⟩ := outcome_build_eq_ok_iff.mp hout
      rw [hrecords, build_of_countFits hcount, hs]
      dsimp only
      rw [List.map_append, map_record_opening, map_record_dropEvents,
        dropped_resolve_of_substitute hs]
    · cases hs : b.substitute (Token.read template) args with
      | error r => exact .inl (exists_failsFirstAt (failsAt_of_substitute hs))
      | ok substituted => exact .inr ⟨_, outcome_build_eq_ok_iff.mpr ⟨hcount, _, hs, rfl⟩⟩

/-- A skipped placeholder and the marker each have the pair around them dropped, inside of braces
that are not matched, and the third argument is missing. A third argument that has no text ends the
log at its placeholder. -/
theorem records_build_nested :
    let b : Builder := ⟨⟨.mysql, none⟩, .default, Decimal.mostDigits⟩
    let template : Text := "\x7ba ?\x7bb ?d\x7d\x7bc/*skip*/\x7d\x7d?f".toList
    let args : List Argument := [.bool true, .skip]
    let more : List Argument := [.bool true, .skip, .bytes []]
    Event.recordsFrom .debug (b.build template args).events =
      [⟨.warning, Logger.builder, ("Template has 3 placeholder(s) but only 2 argument(s); " ++
        "missing values render as NULL").toList⟩,
       ⟨.debug, Logger.builder,
        "Compiling template with 3 placeholder(s) and 2 argument(s)".toList⟩,
       ⟨.debug, Logger.conditional, "Dropped 2 conditional fragment(s)".toList⟩] ∧
    Event.recordsFrom .debug (b.build template more).events =
      [⟨.debug, Logger.builder,
        "Compiling template with 3 placeholder(s) and 3 argument(s)".toList⟩,
       ⟨.debug, Logger.builder,
        "Placeholder ?f #2 at offset 22 failed: Invalid type for placeholder".toList⟩] := by
  intro b template args more
  constructor
  · obtain ⟨-, h⟩ := records_build b template args
    obtain ⟨-, hbuilt, -⟩ := h (by simp [b, Profile.default])
    have hout : (b.build template args).outcome = .ok "\x7ba 1\x7dNULL".toList := rfl
    exact (hbuilt _ hout).trans (by decide +kernel)
  · obtain ⟨-, h⟩ := records_build b template more
    obtain ⟨hfailed, -, -⟩ := h (by simp [b, Profile.default])
    have hread : Token.read template =
        [.openBrace ['{'], .literal "a ".toList, .placeholder [] 0 3, .openBrace ['{'],
          .literal "b ".toList, .placeholder ['d'] 1 7, .closeBrace ['}'], .openBrace ['{'],
          .literal "c/*skip*/".toList, .closeBrace ['}'], .closeBrace ['}'],
          .placeholder ['f'] 2 22] := rfl
    have hfirst : b.FailsFirstAt template more ['f'] 2
        (.format ⟨.unfitValue, some ['f'], none, some "bytes".toList⟩) := by
      refine ⟨⟨⟨22, by simp [hread]⟩, rfl, rfl⟩, ?_⟩
      rintro tag (_ | _ | index) failure ⟨⟨offset, hmem⟩, hkept, hrender⟩
      · obtain ⟨rfl, -⟩ : tag = [] ∧ offset = 3 := by simpa [hread] using hmem
        cases hrender
      · cases hkept
      · omega
    obtain ⟨offset, hmem, -, -, hrecords⟩ := hfailed _ _ _ hfirst
    obtain rfl : offset = 22 := by simpa [hread] using hmem
    exact hrecords.trans (by decide +kernel)

end Builder
end SqlTemplate
