import Mathlib.Data.Finset.Filter
import Mathlib.Data.Finset.Range
import SqlTemplate.Proofs.Builder.Outcome
import SqlTemplate.Proofs.Fragment.Matching
import SqlTemplate.Proofs.Token.Form

/-!
# The skeleton of a query

A template, a marker and the numbers of the skipped placeholders determine a skeleton: the text that
stays, and a hole for each placeholder that stays and is not skipped. Whatever the values are, a
query that is built is the skeleton with each hole filled by the rendering of its own argument.
Braces, question marks and markers inside values are never read again.
-/
namespace SqlTemplate

/-- A piece of a skeleton: fixed text, or the hole of a placeholder. -/
inductive Piece where
  | text (text : Text)
  | hole (tag : Text) (index : ℕ)
  deriving DecidableEq, Repr

/-- The text of a piece, where `value` fills the holes. -/
def Piece.fill (value : Text → ℕ → Except Failure Text) : Piece → Except Failure Text
  | text t => .ok t
  | hole tag index => value tag index

namespace Token

/-- A skipped placeholder has the pair around it dropped, and so has a literal with the marker in
it. -/
def skips (marker : Text) (skipped : Finset ℕ) : Token → Bool
  | placeholder _ index _ => decide (index ∈ skipped)
  | t => Fragment.decides marker t

/-- What a token of a template becomes: the marker for a skipped placeholder, a hole for any other,
and its own text for all else. -/
def piece (marker : Text) (skipped : Finset ℕ) : Token → Piece
  | placeholder tag index _ => if index ∈ skipped then .text marker else .hole tag index
  | t => .text t.text

end Token

/-- The pieces that stay of a template whose placeholders with the numbers in `skipped` are
skipped. -/
def skeleton (template marker : Text) (skipped : Finset ℕ) : List Piece :=
  (Fragment.kept (Token.skips marker skipped) (Token.read template)).map
    (Token.piece marker skipped)

/-- The text of a skeleton with filled holes. -/
def fill (value : Text → ℕ → Except Failure Text) (pieces : List Piece) : Except Failure Text :=
  (pieces.mapM (Piece.fill value)).map List.flatten

/-- The numbers of the placeholders whose argument skips them. -/
def skippedIndexes (template : Text) (args : List Argument) : Finset ℕ :=
  (Finset.range (Token.placeholderCount (Token.read template))).filter
    fun index => (args.getD index .null).isSkip

namespace Builder

/-- The rendering of the argument with the given number, which is null if it is missing. -/
def renderAt (b : Builder) (args : List Argument) (tag : Text) (index : ℕ) : Except Failure Text :=
  b.render (args.getD index .null) tag

/-- The token that takes the place of a token. Where there is none, nothing depends on it. -/
def placed (b : Builder) (args : List Argument) (t : Token) : Token :=
  match b.bindAt args t with
  | .ok u => u
  | .error _ => .rendered []

theorem placed_of_bindAt {b : Builder} {args : List Argument} {t u : Token}
    (h : b.bindAt args t = .ok u) : b.placed args t = u := by
  rw [placed, h]

/-- A placeholder gives way to a skip mark, to a rendered value or to nothing. -/
theorem bindAt_placeholder (b : Builder) (args : List Argument) (tag : Text) (index offset : ℕ) :
    b.bindAt args (.placeholder tag index offset) =
      if (args.getD index .null).isSkip then .ok (.skipMark b.profile.marker)
      else
        match b.renderAt args tag index with
        | .ok t => .ok (.rendered t)
        | .error failure => .error ⟨tag, index, offset, failure⟩ := by
  rw [bindAt, renderAt]
  cases args.getD index .null <;> rfl

theorem placed_placeholder (b : Builder) (args : List Argument) (tag : Text) (index offset : ℕ) :
    b.placed args (.placeholder tag index offset) = .skipMark b.profile.marker ∨
      ∃ t, b.placed args (.placeholder tag index offset) = .rendered t := by
  rw [placed, bindAt_placeholder]
  split_ifs
  · exact .inl rfl
  · cases b.renderAt args tag index <;> exact .inr ⟨_, rfl⟩

/-- No brace is placed that was not there, and none is taken away. -/
theorem braces_placed (b : Builder) (args : List Argument) (t : Token) :
    (b.placed args t).opens = t.opens ∧ (b.placed args t).closes = t.closes := by
  cases t with
  | placeholder tag index offset =>
    obtain ht | ⟨t, ht⟩ := b.placed_placeholder args tag index offset
    · rw [ht]
      exact ⟨rfl, rfl⟩
    · rw [ht]
      exact ⟨rfl, rfl⟩
  | _ => exact ⟨rfl, rfl⟩

theorem mem_skippedIndexes {template tag : Text} (args : List Argument) {index offset : ℕ}
    (h : .placeholder tag index offset ∈ Token.read template) :
    index ∈ skippedIndexes template args ↔ (args.getD index .null).isSkip = true := by
  simp [skippedIndexes, Token.index_lt_of_mem_read h]

/-- What is placed decides about the pair around it as its token does in the template. -/
theorem decides_placed (b : Builder) {template : Text} (args : List Argument) {t : Token}
    (h : t ∈ Token.read template) :
    Fragment.decides b.profile.marker (b.placed args t) =
      Token.skips b.profile.marker (skippedIndexes template args) t := by
  cases t with
  | placeholder tag index offset =>
    have hmem := mem_skippedIndexes args h
    rw [placed, bindAt_placeholder, Token.skips]
    split_ifs with hskip
    · simp [Fragment.decides, hmem.mpr hskip]
    · have hnot : index ∉ skippedIndexes template args := fun hin => hskip (hmem.mp hin)
      cases b.renderAt args tag index <;> simp [Fragment.decides, hnot]
  | _ => rfl

/-- What is placed leaves the text of the token's piece. -/
theorem fill_piece (b : Builder) {template : Text} (args : List Argument) {t u : Token}
    (h : t ∈ Token.read template) (hbind : b.bindAt args t = .ok u) :
    (t.piece b.profile.marker (skippedIndexes template args)).fill (b.renderAt args) =
      .ok u.residue := by
  cases t with
  | placeholder tag index offset =>
    have hmem := mem_skippedIndexes args h
    rw [bindAt_placeholder] at hbind
    split_ifs at hbind with hskip
    · cases hbind
      rw [Token.piece, if_pos (hmem.mpr hskip)]
      rfl
    · have hnot : index ∉ skippedIndexes template args := fun hin => hskip (hmem.mp hin)
      rw [Token.piece, if_neg hnot, Piece.fill]
      cases hrender : b.renderAt args tag index with
      | ok t => rw [hrender] at hbind; cases hbind; rfl
      | error failure => rw [hrender] at hbind; cases hbind
  | openBrace x =>
    cases hbind
    have hplain : x = ['{'] := Token.isRead_readFrom true 0 0 template _ h
    rw [hplain]
    rfl
  | _ => cases hbind; rfl

/-- Where substitution succeeds, every token has a token in its place. -/
theorem eq_placed_of_substitute {b : Builder} {template : Text} {args : List Argument}
    {substituted : List Token}
    (h : b.substitute (Token.read template) args = .ok substituted) :
    (∀ t ∈ Token.read template, b.bindAt args t = .ok (b.placed args t)) ∧
      substituted = (Token.read template).map (b.placed args) := by
  rw [substitute_read, mapM_eq_ok_iff] at h
  have hbind : ∀ t ∈ Token.read template, b.bindAt args t = .ok (b.placed args t) := by
    intro t ht
    have hmem : b.bindAt args t ∈ substituted.map .ok := h ▸ List.mem_map_of_mem ht
    obtain ⟨u, _, hu⟩ := List.mem_map.mp hmem
    rw [placed_of_bindAt hu.symm, hu]
  refine ⟨hbind, ?_⟩
  have hmap : (Token.read template).map (b.bindAt args) =
      ((Token.read template).map (b.placed args)).map .ok := by
    rw [List.map_map]
    exact List.map_congr_left hbind
  exact List.map_injective_iff.mpr (fun _ _ => Except.ok.inj) (h.symm.trans hmap)

/-- The result of a build is the skeleton with filled holes. -/
theorem fill_skeleton {b : Builder} {template out : Text} {args : List Argument}
    (h : (b.build template args).outcome = .ok out) :
    fill (b.renderAt args)
      (skeleton template b.profile.marker (skippedIndexes template args)) = .ok out := by
  obtain ⟨-, substituted, hs, rfl⟩ := outcome_build_eq_ok_iff.mp h
  obtain ⟨hbind, rfl⟩ := eq_placed_of_substitute hs
  have hopens (t : Token) : (b.placed args t).opens = t.opens := (b.braces_placed args t).1
  have hcloses (t : Token) : (b.placed args t).closes = t.closes := (b.braces_placed args t).2
  rw [Fragment.text_resolve,
    Fragment.kept_map _ hopens hcloses (fun t ht => decides_placed b args ht)]
  have hfill : (skeleton template b.profile.marker (skippedIndexes template args)).mapM
      (Piece.fill (b.renderAt args)) = .ok
        ((Fragment.kept (Token.skips b.profile.marker (skippedIndexes template args))
          (Token.read template)).map fun t => (b.placed args t).residue) := by
    rw [mapM_eq_ok_iff, skeleton, List.map_map, List.map_map]
    refine List.map_congr_left fun t ht => ?_
    have hmem := (Fragment.kept_sublist _ _).subset ht
    exact fill_piece b args hmem (hbind t hmem)
  rw [fill, hfill, List.flatMap_map]
  rfl

/-- Values fill holes and change nothing else. A query that is built is the skeleton of its
template, its marker and the placeholders that are skipped, with the rendering of its own argument
in each hole; so is the query of any other arguments that skip the same placeholders, in any
dialect. -/
theorem build_fills_skeleton {b : Builder} {template out : Text} {args : List Argument}
    (h : (b.build template args).outcome = .ok out) :
    fill (b.renderAt args)
        (skeleton template b.profile.marker (skippedIndexes template args)) = .ok out ∧
      ∀ (b' : Builder) (args' : List Argument) (out' : Text),
        b'.profile.marker = b.profile.marker →
        skippedIndexes template args' = skippedIndexes template args →
        (b'.build template args').outcome = .ok out' →
        fill (b'.renderAt args')
          (skeleton template b.profile.marker (skippedIndexes template args)) = .ok out' := by
  refine ⟨fill_skeleton h, fun b' args' out' hmarker hskipped h' => ?_⟩
  rw [← hmarker, ← hskipped]
  exact fill_skeleton h'

/-- Hostile values: braces, question marks, quotes and the marker inside a value leave the skeleton
as it is, and so do tame values in their place. -/
theorem build_fills_skeleton_hostile :
    let b : Builder := ⟨⟨.mysql, none⟩, .default, Decimal.mostDigits⟩
    let template : Text := "a = ?\x7b b ?a\x7d\x7b c ? ?\x7d\x7b?".toList
    let hostile : List Argument := [.text "\x7bx\x7d?/*skip*/'".toList,
      .sequence .list [.text "\x7d".toList, .bool true], .skip, .text "\x7d".toList]
    let tame : List Argument := [.null, .sequence .list [], .skip, .bool true, .null]
    let pieces : List Piece := [.text "a = ".toList, .hole [] 0, .text " b ".toList, .hole ['a'] 1,
      .text ['{'], .hole [] 4]
    (b.build template hostile).outcome =
        .ok "a = '\x7bx\x7d?/*skip*/\\'' b '\x7d', 1\x7bNULL".toList ∧
      (b.build template tame).outcome = .ok "a = NULL b \x7bNULL".toList ∧
      skeleton template b.profile.marker (skippedIndexes template hostile) = pieces ∧
      skippedIndexes template tame = skippedIndexes template hostile ∧
      fill (b.renderAt hostile) pieces =
        .ok "a = '\x7bx\x7d?/*skip*/\\'' b '\x7d', 1\x7bNULL".toList ∧
      fill (b.renderAt tame) pieces = .ok "a = NULL b \x7bNULL".toList := by
  intro b template hostile tame pieces
  have hhostile : (b.build template hostile).outcome =
      .ok "a = '\x7bx\x7d?/*skip*/\\'' b '\x7d', 1\x7bNULL".toList := rfl
  have htame : (b.build template tame).outcome = .ok "a = NULL b \x7bNULL".toList := rfl
  have hpieces : skeleton template b.profile.marker (skippedIndexes template hostile) = pieces := by
    decide
  have hskipped : skippedIndexes template tame = skippedIndexes template hostile := by decide
  have h := build_fills_skeleton hhostile
  rw [hpieces] at h
  exact ⟨hhostile, htame, hpieces, hskipped, h.1, h.2 b tame _ rfl hskipped htame⟩

end Builder
end SqlTemplate
