import Mathlib.Tactic.SplitIfs
import SqlTemplate.Escaping

/-!
# Connections that reply with bytes

A connection may reply with bytes where another replies with a text. If the bytes are the UTF-8 of
that text, the two connections escape alike, as long as the connection names UTF-8 or no encoding at
all. One that names ASCII goes as far as the text is ASCII: it refuses the first byte of the first
other character, whose index is the position of that byte.
-/
namespace SqlTemplate

/-- A text of ASCII characters only. -/
def Text.IsAscii (t : Text) : Prop :=
  ∀ c ∈ t, c.toNat < 128

/-- Every text is ASCII, or has a first character that is not. -/
theorem Text.isAscii_or_split (t : Text) :
    t.IsAscii ∨ ∃ front c back, t = front ++ c :: back ∧ IsAscii front ∧ 128 ≤ c.toNat := by
  induction t with
  | nil => exact .inl nofun
  | cons c rest ih =>
    by_cases hc : c.toNat < 128
    · obtain hrest | ⟨front, d, back, rfl, hfront, hd⟩ := ih
      · exact .inl (List.forall_mem_cons.mpr ⟨hc, hrest⟩)
      · exact .inr ⟨c :: front, d, back, rfl, List.forall_mem_cons.mpr ⟨hc, hfront⟩, hd⟩
    · exact .inr ⟨[], c, rest, rfl, nofun, Nat.not_lt.mp hc⟩

namespace Encoding

theorem utf8Bytes_append (t u : Text) : utf8Bytes (t ++ u) = utf8Bytes t ++ utf8Bytes u :=
  List.flatMap_append

/-- An ASCII text has one byte for each character, which is the character's number. -/
theorem utf8Bytes_of_isAscii {t : Text} (h : t.IsAscii) :
    utf8Bytes t = t.map fun c => UInt8.ofNat c.toNat := by
  induction t with
  | nil => rfl
  | cons c rest ih =>
    obtain ⟨hc, hrest⟩ := List.forall_mem_cons.mp h
    have hle : c.val.toNat ≤ 127 := Nat.le_of_lt_succ hc
    have hbyte : String.utf8EncodeChar c = [UInt8.ofNat c.toNat] := by
      rw [String.utf8EncodeChar, if_pos hle]
      rfl
    rw [utf8Bytes, List.flatMap_cons, hbyte, ← utf8Bytes, ih hrest]
    rfl

theorem toNat_ofNat_of_isAscii {t : Text} (h : t.IsAscii) {c : Char} (hc : c ∈ t) :
    (UInt8.ofNat c.toNat).toNat = c.toNat :=
  UInt8.toNat_ofNat_of_lt' (Nat.lt_trans (h c hc) (by decide))

/-- The bytes of an ASCII text are the numbers of its characters. -/
theorem charactersOf_utf8Bytes {t : Text} (h : t.IsAscii) : charactersOf (utf8Bytes t) = t := by
  rw [utf8Bytes_of_isAscii h, charactersOf, List.map_map]
  refine (List.map_congr_left fun c hc => ?_).trans (List.map_id t)
  rw [Function.comp_apply, toNat_ofNat_of_isAscii h hc, Char.ofNat_toNat, id]

/-- No byte of an ASCII text is refused. -/
theorem findIdx?_utf8Bytes {t : Text} (h : t.IsAscii) :
    (utf8Bytes t).findIdx? (fun b => decide (128 ≤ b)) = none := by
  rw [List.findIdx?_eq_none_iff, utf8Bytes_of_isAscii h, List.forall_mem_map]
  intro c hc
  rw [decide_eq_false_iff_not, UInt8.le_iff_toNat_le, toNat_ofNat_of_isAscii h hc]
  exact Nat.not_le.mpr (h c hc)

/-- A character that is not ASCII begins with a byte that is refused. -/
theorem exists_utf8Bytes {c : Char} (h : 128 ≤ c.toNat) :
    ∃ byte more, utf8Bytes [c] = byte :: more ∧ 128 ≤ byte := by
  have hlead {n : Nat} (hlow : 128 ≤ n) (hhigh : n < 256) : 128 ≤ UInt8.ofNat n := by
    rw [UInt8.le_iff_toNat_le, UInt8.toNat_ofNat_of_lt' hhigh]
    exact hlow
  have hval : ¬c.val.toNat ≤ 127 := Nat.not_le.mpr h
  rw [utf8Bytes, List.flatMap_singleton, String.utf8EncodeChar, if_neg hval]
  split_ifs
  all_goals
    refine ⟨_, _, rfl, hlead ?_ ?_⟩
    · omega
    · omega

/-- UTF-8 is read back as the text it was made from. -/
theorem decode_utf8_utf8Bytes (t : Text) : decode (utf8Bytes t) .utf8 = .ok t := by
  rw [decode, utf8Text?_utf8Bytes]

/-- An ASCII text is read back from its UTF-8 as ASCII. -/
theorem decode_ascii_utf8Bytes {t : Text} (h : t.IsAscii) :
    decode (utf8Bytes t) .ascii = .ok t := by
  rw [decode, findIdx?_utf8Bytes h, charactersOf_utf8Bytes h]

/-- Reading UTF-8 as ASCII stops at the first byte of the first character that is not ASCII. -/
theorem decode_ascii_utf8Bytes_append {front : Text} (hfront : front.IsAscii) {c : Char}
    (back : Text) {byte : UInt8} {more : List UInt8} (hbytes : utf8Bytes [c] = byte :: more)
    (hbyte : 128 ≤ byte) :
    decode (utf8Bytes (front ++ c :: back)) .ascii = .error front.length ∧
      (utf8Bytes (front ++ c :: back)).getD front.length 0 = byte := by
  have hsplit : utf8Bytes (front ++ c :: back) =
      utf8Bytes front ++ byte :: (more ++ utf8Bytes back) := by
    rw [← List.singleton_append, utf8Bytes_append, utf8Bytes_append, hbytes, List.cons_append]
  have hlength : (utf8Bytes front).length = front.length := by
    rw [utf8Bytes_of_isAscii hfront, List.length_map]
  have hfound : (utf8Bytes (front ++ c :: back)).findIdx? (fun b => decide (128 ≤ b)) =
      some front.length := by
    rw [hsplit, List.findIdx?_append, findIdx?_utf8Bytes hfront, List.findIdx?_cons,
      decide_eq_true hbyte, hlength]
    simp
  constructor
  · rw [decode, hfound]
  · simp [hsplit, ← hlength]

end Encoding

namespace Connection

/-- The names by which a connection says that its bytes are UTF-8. No name and the empty one do. -/
def utf8Names : List (Option Text) :=
  [none, some [], some "utf-8".toList, some "utf8".toList]

/-- The connection with another escape method. -/
def withMethod (c : Connection) (method : Text → Reply) : Connection :=
  { c with escape? := some method }

/-- Bytes in UTF-8 as the answer of an escape method. -/
def utf8Reply (t : Text) : Reply :=
  .bytes (Encoding.utf8Bytes t)

theorem textOfReply_bytes {c : Connection} {encoding : Encoding}
    (h : Encoding.ofName? c.encodingName = some encoding) (bytes : List UInt8) :
    c.textOfReply (.bytes bytes) = decode encoding bytes := by
  rw [textOfReply, h]

theorem ofName?_of_mem_utf8Names {c : Connection} (h : c.encoding ∈ utf8Names) :
    Encoding.ofName? c.encodingName = some .utf8 := by
  simp only [utf8Names, List.mem_cons, List.not_mem_nil, or_false] at h
  obtain h | h | h | h := h
  all_goals
    rw [encodingName, h]
    rfl

theorem ofName?_of_ascii {c : Connection} (h : c.encoding = some "ascii".toList) :
    Encoding.ofName? c.encodingName = some .ascii := by
  rw [encodingName, h]
  rfl

/-- The bytes of a text in UTF-8 stand for that text where the connection names UTF-8 or nothing. -/
theorem textOfReply_utf8Reply {c : Connection} (h : c.encoding ∈ utf8Names) (t : Text) :
    c.textOfReply (utf8Reply t) = .ok t := by
  rw [utf8Reply, textOfReply_bytes (ofName?_of_mem_utf8Names h), decode,
    Encoding.decode_utf8_utf8Bytes]

theorem textOfReply_utf8Reply_of_isAscii {c : Connection}
    (h : c.encoding = some "ascii".toList) {t : Text} (ht : t.IsAscii) :
    c.textOfReply (utf8Reply t) = .ok t := by
  rw [utf8Reply, textOfReply_bytes (ofName?_of_ascii h), decode,
    Encoding.decode_ascii_utf8Bytes ht]

/-- Under the name of ASCII, the first character beyond it is told by its first byte and its
index. -/
theorem textOfReply_utf8Reply_append {c : Connection} (h : c.encoding = some "ascii".toList)
    {front : Text} (hfront : front.IsAscii) {d : Char} (back : Text) {byte : UInt8}
    {more : List UInt8} (hbytes : Encoding.utf8Bytes [d] = byte :: more) (hbyte : 128 ≤ byte) :
    c.textOfReply (utf8Reply (front ++ d :: back)) =
      .error (.undecodable .ascii byte front.length) := by
  obtain ⟨hdecode, hget⟩ := Encoding.decode_ascii_utf8Bytes_append hfront back hbytes hbyte
  rw [utf8Reply, textOfReply_bytes (ofName?_of_ascii h)]
  simp only [decode, hdecode, hget]

/-- A connection that replies with the UTF-8 of a text escapes like one that replies with the text,
if it names UTF-8 or nothing. If it names ASCII it gives the text as long as that is ASCII, and else
tells the first byte of the first character that is not, at the index of that character. -/
theorem escaper_of_utf8Reply (c : Connection) (e : Text → Text) :
    ∃ fromBytes fromText : Escaper,
      (c.withMethod fun t => utf8Reply (e t)).escaper = .ok fromBytes ∧
      (c.withMethod fun t => .text (e t)).escaper = .ok fromText ∧
      (∀ t, fromText t = .ok (e t)) ∧
      (c.encoding ∈ utf8Names → ∀ t, fromBytes t = .ok (e t) ∧ fromBytes t = fromText t) ∧
      (c.encoding = some "ascii".toList → ∀ t,
        ((e t).IsAscii → fromBytes t = .ok (e t)) ∧
        (¬(e t).IsAscii → ∃ front d back byte more,
          e t = front ++ d :: back ∧ Text.IsAscii front ∧ 128 ≤ d.toNat ∧
          Encoding.utf8Bytes [d] = byte :: more ∧
          fromBytes t = .error (.undecodable .ascii byte front.length))) := by
  let replying := c.withMethod fun t => utf8Reply (e t)
  refine ⟨fun t => replying.textOfReply (utf8Reply (e t)),
    fun t => (c.withMethod fun t => .text (e t)).textOfReply (.text (e t)),
    rfl, rfl, fun t => rfl, ?_, ?_⟩
  · intro hname t
    have hbytes : replying.textOfReply (utf8Reply (e t)) = .ok (e t) :=
      textOfReply_utf8Reply hname (e t)
    exact ⟨hbytes, hbytes⟩
  · intro hname t
    refine ⟨textOfReply_utf8Reply_of_isAscii hname, fun hnot => ?_⟩
    obtain hall | ⟨front, d, back, hsplit, hfront, hd⟩ := (e t).isAscii_or_split
    · exact absurd hall hnot
    · obtain ⟨byte, more, hbytes, hbyte⟩ := Encoding.exists_utf8Bytes hd
      refine ⟨front, d, back, byte, more, hsplit, hfront, hd, hbytes, ?_⟩
      change replying.textOfReply (utf8Reply (e t)) = _
      rw [hsplit]
      exact textOfReply_utf8Reply_append hname hfront back hbytes hbyte

/-- A quote in front of characters of two, three and four bytes. Under the empty name all of them
are read back; under the name of ASCII the first of them is refused, behind the two quotes that the
one has become. -/
theorem escaper_of_utf8Reply_mixed :
    let e : Text → Text := fun t => t.flatMap Escaping.doubled
    let unnamed : Connection := ⟨"Connection".toList, none, some []⟩
    let ascii : Connection := ⟨"Connection".toList, none, some "ascii".toList⟩
    let t : Text := "'é€𝄞".toList
    (∃ escaper : Escaper, (unnamed.withMethod fun t => utf8Reply (e t)).escaper = .ok escaper ∧
      escaper t = .ok "''é€𝄞".toList) ∧
    ∃ escaper : Escaper, (ascii.withMethod fun t => utf8Reply (e t)).escaper = .ok escaper ∧
      escaper ['\''] = .ok ['\'', '\''] ∧ escaper t = .error (.undecodable .ascii 0xc3 2) := by
  intro e unnamed ascii t
  constructor
  · obtain ⟨escaper, _, hescaper, -, -, hutf8, -⟩ := escaper_of_utf8Reply unnamed e
    exact ⟨escaper, hescaper, (hutf8 (by decide) t).1⟩
  · obtain ⟨escaper, _, hescaper, -, -, -, hascii⟩ := escaper_of_utf8Reply ascii e
    have hall : ∀ c ∈ ['\'', '\''], c.toNat < 128 := by simp
    have hquotes : Text.IsAscii (e ['\'']) := hall
    refine ⟨escaper, hescaper, (hascii rfl _).1 hquotes, ?_⟩
    have hmixed : ¬Text.IsAscii (e t) := fun h => absurd (h 'é' (by decide)) (by decide)
    obtain ⟨front, d, back, byte, more, hsplit, hfront, hd, hbytes, hfailed⟩ :=
      (hascii rfl t).2 hmixed
    have hdoubled : e t = ['\'', '\'', 'é', '€', '𝄞'] := rfl
    rw [hdoubled] at hsplit
    match front with
    | [] | [_] =>
      simp only [List.nil_append, List.cons_append, List.cons.injEq] at hsplit
      simp [← hsplit] at hd
    | [_, _] =>
      obtain ⟨-, -, rfl, -⟩ : '\'' = _ ∧ '\'' = _ ∧ 'é' = d ∧ ['€', '𝄞'] = back := by
        simpa using hsplit
      obtain rfl : 0xc3 = byte := by
        simpa using congrArg List.head? (show [0xc3, 0xa9] = byte :: more from hbytes)
      exact hfailed
    | _ :: _ :: c :: _ =>
      obtain ⟨-, -, rfl, -⟩ : '\'' = _ ∧ '\'' = _ ∧ 'é' = c ∧ _ := by simpa using hsplit
      exact absurd (hfront 'é' (by simp)) (by decide)

end Connection
end SqlTemplate
