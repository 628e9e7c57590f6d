import SqlTemplate.Proofs.Argument.Collection
import SqlTemplate.Proofs.Dialect.Grammar

/-!
# Reading collections back

A rendered collection is cut into its members by the grammar of the dialect: values at the
separators outside of string literals, names at their quotes. What comes out is what went in, member
by member, whatever separators, quotes and backslashes the members hold.
-/
namespace SqlTemplate.Builder

variable {b : Builder} {g : Grammar}

theorem ne_comma_quote_of_isNumeric {t : Text} (h : IsNumeric t) :
    ∀ c ∈ t, c ≠ ',' ∧ c ≠ Text.singleQuote := by
  obtain rfl | h := h
  · simp [nullText, Text.singleQuote]
  · refine h.forall_mem ?_ (by simp [Text.singleQuote])
    intro c hc
    constructor <;> rintro rfl <;> exact absurd hc (by decide)

theorem IsNumeric.ne_nil {t : Text} (h : IsNumeric t) : t ≠ [] := by
  obtain rfl | h := h
  · simp [nullText]
  · exact h.ne_nil

/-- A string literal is read whole, whatever list it stands in. -/
theorem reads_quoteString (hg : g.Fits b.compiler.dialect) (hown : b.compiler.injected = none)
    {s out : Text} (h : b.compiler.quoteString s = .ok out) :
    (Reader.value g.escapes).Reads out out := by
  obtain ⟨inside, hinside, rfl⟩ := map_eq_ok.mp h
  rw [Compiler.escape, hown] at hinside
  apply Reader.reads_value
  intro k hk
  -- A quote right behind the closing one would make the two an escaped quote.
  have hquote : k.head? ≠ some Text.singleQuote := by
    obtain rfl | ⟨rest, rfl⟩ := hk
    · simp
    · simp [Text.singleQuote]
  exact Literal.fromSeparator_literal (hg.literal hinside hquote)

theorem quoteString_ne_nil {s out : Text} (h : b.compiler.quoteString s = .ok out) : out ≠ [] := by
  obtain ⟨inside, -, rfl⟩ := map_eq_ok.mp h
  simp

/-- What the bare rule gives is read whole: a string as a literal, all else as it holds neither a
comma nor a quote. -/
theorem reads_renderBare (hg : g.Fits b.compiler.dialect) (hown : b.compiler.injected = none)
    {value : Argument} {out : Text} (h : b.renderBare value = .ok out) :
    (Reader.value g.escapes).Reads out out ∧ out ≠ [] := by
  by_cases htext : ∃ t, value = .text t
  · obtain ⟨t, rfl⟩ := htext
    exact ⟨reads_quoteString hg hown h, quoteString_ne_nil h⟩
  · have hnumeric := b.yields_renderBare (fun t ht => htext ⟨t, ht⟩) out h
    refine ⟨Reader.reads_value fun k _ => ?_, hnumeric.ne_nil⟩
    exact Literal.fromSeparator_plain (ne_comma_quote_of_isNumeric hnumeric) k

/-- A collection placeholder writes the items of a list by the bare rule, with separators. -/
theorem renderArray_list {value : Argument} {items : List Argument} (hitems : value.IsListOf items)
    {out : Text} (h : b.renderArray value = .ok out) :
    (items = [] → b.profile.allowEmpty = true) ∧
      ∃ parts, items.map b.renderBare = parts.map .ok ∧ Text.commaSeparated parts = out := by
  rw [renderArray, Argument.shape?_eq_sequence_iff.mpr hitems] at h
  dsimp only at h
  split at h
  · cases h
  · rename_i hallowed
    obtain ⟨parts, hparts, hout⟩ := map_eq_ok.mp h
    refine ⟨?_, parts, mapM_eq_ok_iff.mp hparts, hout⟩
    rintro rfl
    simpa using hallowed

/-- A list in the place of a collection can be read back. For every dialect that is there from the
start, with its own escaper and a client that escapes with backslashes: the parts of the text
between separators outside of string literals are what the bare rule gives for the items, one by one
and in order. The text is empty only for the empty list, which only a profile that allows empty
collections lets through. -/
theorem list_reads_back {escapeString : Text → Text}
    (hclient : Escaping.IsBackslashing escapeString)
    (hd : (b.compiler.dialect, g) ∈ Grammar.builtIn escapeString)
    (hown : b.compiler.injected = none) {value : Argument} {items : List Argument}
    (hitems : value.IsListOf items) {out : Text} (h : b.render value Tag.array.text = .ok out) :
    (∃ parts, (Reader.value g.escapes).list out = some parts ∧
      items.map b.renderBare = parts.map .ok) ∧
    (out = [] ↔ items = []) ∧ (items = [] → b.profile.allowEmpty = true) := by
  have hg := Grammar.fits_of_mem hclient hd
  obtain ⟨hempty, parts, hparts, rfl⟩ := renderArray_list hitems (render_text_eq_ok_iff.mp h)
  have hreads : ∀ part ∈ parts, (Reader.value g.escapes).Reads part part ∧ part ≠ [] := by
    intro part hpart
    have hmem : Except.ok part ∈ parts.map (Except.ok (ε := Failure)) := List.mem_map_of_mem hpart
    rw [← hparts] at hmem
    obtain ⟨item, -, hitem⟩ := List.mem_map.mp hmem
    exact reads_renderBare hg hown hitem
  have hlist : List.Forall₂ (Reader.value g.escapes).Reads parts parts :=
    List.forall₂_same.mpr fun part hpart => (hreads part hpart).1
  have hne : ∀ part ∈ parts, part ≠ [] := fun part hpart => (hreads part hpart).2
  have hnil : parts = [] ↔ items = [] := by
    rw [← List.map_eq_nil_iff, ← hparts, List.map_eq_nil_iff]
  refine ⟨⟨parts, Reader.list_commaSeparated hlist hne, hparts⟩, ?_, hempty⟩
  rw [Text.commaSeparated_eq_nil_iff hne, hnil]

/-- A list with separators, quotes and backslashes inside a string, by way of a mapping. -/
theorem list_reads_back_hostile :
    let b : Builder := ⟨⟨.mysql, none⟩, .default, Decimal.mostDigits⟩
    let items : List Argument := [.text "a', 'b\\".toList, .null, .int (-5)]
    let value : Argument :=
      .mapping .ordered [(.int 0, .text "a', 'b\\".toList), (.int 1, .null), (.int 2, .int (-5))]
    let out := "'a\\', \\'b\\\\', NULL, -5".toList
    Escaping.IsBackslashing Escaping.withBackslashes ∧
      (.mysql, .backslashed) ∈ Grammar.builtIn ∧ value.IsListOf items ∧
      b.render value Tag.array.text = .ok out ∧
      (Reader.value true).list out =
        some ["'a\\', \\'b\\\\'".toList, "NULL".toList, "-5".toList] := by
  intro b items value out
  have hclient := Escaping.isBackslashing_withBackslashes
  have hd : (.mysql, .backslashed) ∈ Grammar.builtIn := List.mem_cons_self
  have hitems : value.IsListOf items := .mapping .ordered rfl
  have hout : b.render value Tag.array.text = .ok out := by decide +kernel
  obtain ⟨⟨parts, hread, hparts⟩, -⟩ := list_reads_back (b := b) hclient hd rfl hitems hout
  have hrendered : items.map b.renderBare =
      ["'a\\', \\'b\\\\'".toList, "NULL".toList, "-5".toList].map .ok := by decide +kernel
  rw [hrendered, List.map_inj_right fun _ _ => Except.ok.inj] at hparts
  exact ⟨hclient, hd, hitems, hout, hparts ▸ hread⟩

/-- A name and its text: a string without the quote, or an integer. -/
inductive IsName (quote : Char) : Argument → Text → Prop
  | text {t : Text} (h : quote ∉ t) : IsName quote (.text t) t
  | int (n : Int) : IsName quote (.int n) (Numeral.ofInt n)

theorem IsName.quote_not_mem {d : Dialect} (hg : g.Fits d) {name : Argument} {text : Text}
    (h : IsName g.quote name text) : g.quote ∉ text := by
  cases h with
  | text h => exact h
  | int n => exact hg.numberless n

theorem quoteIdentifier_eq (hg : g.FitsNames b.compiler.dialect) (name : Text) :
    b.compiler.quoteIdentifier name = .ok (g.quote :: name ++ [g.quote]) :=
  hg.quotes name

theorem quoteName_int_eq_ok_iff {n : Int} {out : Text} :
    b.quoteName (.int n) = .ok out ↔
      Numeral.isShort n = true ∧ b.compiler.quoteIdentifier (Numeral.ofInt n) = .ok out := by
  rw [quoteName, bind_eq_ok, integerText]
  split
  · rename_i hshort
    simp [hshort]
  · rename_i hlong
    simp [refusal, hlong]

/-- A name is quoted as the grammar has it, unless it is an integer that is too long. -/
theorem quoteName_eq_ok_iff (hg : g.FitsNames b.compiler.dialect) {name : Argument} {text : Text}
    (hname : IsName g.quote name text) (out : Text) :
    b.quoteName name = .ok out ↔
      (∀ n, name = .int n → Numeral.isShort n = true) ∧ g.quote :: text ++ [g.quote] = out := by
  cases hname with
  | text => simp [quoteName, quoteIdentifier_eq hg]
  | int n => simp [quoteName_int_eq_ok_iff, quoteIdentifier_eq hg]

/-- A quoted name is read wherever it stands. -/
theorem read_quoteName (hg : g.Fits b.compiler.dialect) {name : Argument} {text out : Text}
    (hname : IsName g.quote name text) (h : b.quoteName name = .ok out) (k : Text) :
    (Reader.name g.quote).read (out ++ k) = some (text, k) := by
  obtain ⟨-, rfl⟩ := (quoteName_eq_ok_iff hg.toFitsNames hname out).mp h
  exact Reader.read_name (hname.quote_not_mem hg) k

theorem quoteName_ne_nil (hg : g.Fits b.compiler.dialect) {name : Argument} {text out : Text}
    (hname : IsName g.quote name text) (h : b.quoteName name = .ok out) : out ≠ [] := by
  have hread := read_quoteName hg hname h []
  rintro rfl
  cases hread

/-- Names are all quoted unless an integer among them is too long. -/
theorem mapM_quoteName_succeeds_iff (hg : g.FitsNames b.compiler.dialect) {names : List Argument}
    {texts : List Text} (hnames : List.Forall₂ (IsName g.quote) names texts) :
    (∃ written, names.mapM b.quoteName = .ok written) ↔
      ∀ n, .int n ∈ names → Numeral.isShort n = true := by
  rw [mapM_succeeds_iff]
  induction hnames with
  | nil => simp
  | cons hname _ ih =>
    rw [List.forall_mem_cons, ih]
    cases hname with
    | text => simp [quoteName, quoteIdentifier_eq hg]
    | int n => simp [quoteName_int_eq_ok_iff, quoteIdentifier_eq hg, or_imp, forall_and]

theorem reads_quoteNames (hg : g.Fits b.compiler.dialect) {names : List Argument}
    {texts written : List Text} (hnames : List.Forall₂ (IsName g.quote) names texts)
    (h : names.map b.quoteName = written.map .ok) :
    List.Forall₂ (Reader.name g.quote).Reads written texts ∧ ∀ t ∈ written, t ≠ [] := by
  induction hnames generalizing written with
  | nil =>
    obtain rfl : written = [] := by simpa using h.symm
    exact ⟨.nil, by simp⟩
  | cons hname _ ih =>
    obtain ⟨first, rest, rfl, hfirst, hrest⟩ := List.map_eq_cons_iff.mp h.symm
    obtain ⟨hreads, hne⟩ := ih hrest.symm
    refine ⟨.cons (fun k _ => read_quoteName hg hname hfirst.symm k) hreads, ?_⟩
    exact List.forall_mem_cons.mpr ⟨quoteName_ne_nil hg hname hfirst.symm, hne⟩

/-- An entry is read as its name with what the bare rule gives for its value. -/
theorem reads_renderEntry (hg : g.Fits b.compiler.dialect) (hown : b.compiler.injected = none)
    {entry : Argument × Argument} {key written : Text} (hkey : IsName g.quote entry.1 key)
    (h : b.renderEntry entry = .ok written) :
    written ≠ [] ∧ ∃ value, b.renderBare entry.2 = .ok value ∧ g.entry.Reads written (key, value) := by
  obtain ⟨quoted, hquoted, h⟩ := bind_eq_ok.mp h
  obtain ⟨value, hvalue, h⟩ := bind_eq_ok.mp h
  cases h
  refine ⟨by simp, value, hvalue, ?_⟩
  exact Reader.reads_pair (read_quoteName hg hkey hquoted) (reads_renderBare hg hown hvalue).1

theorem reads_renderEntries (hg : g.Fits b.compiler.dialect) (hown : b.compiler.injected = none)
    {entries : List (Argument × Argument)} {keys written : List Text}
    (hkeys : List.Forall₂ (fun entry key => IsName g.quote entry.1 key) entries keys)
    (h : entries.map b.renderEntry = written.map .ok) :
    ∃ values, entries.map (fun entry => b.renderBare entry.2) = values.map .ok ∧
      List.Forall₂ g.entry.Reads written (keys.zip values) ∧ ∀ t ∈ written, t ≠ [] := by
  induction hkeys generalizing written with
  | nil =>
    obtain rfl : written = [] := by simpa using h.symm
    exact ⟨[], rfl, .nil, by simp⟩
  | cons hkey _ ih =>
    obtain ⟨first, rest, rfl, hfirst, hrest⟩ := List.map_eq_cons_iff.mp h.symm
    obtain ⟨hne, value, hvalue, hread⟩ := reads_renderEntry hg hown hkey hfirst.symm
    obtain ⟨values, hvalues, hreads, hothers⟩ := ih hrest.symm
    refine ⟨value :: values, ?_, .cons hread hreads, List.forall_mem_cons.mpr ⟨hne, hothers⟩⟩
    rw [List.map_cons, List.map_cons, hvalue, hvalues]

theorem renderIdentifier_list {value : Argument} {names : List Argument}
    (hnames : value.IsListOf names) :
    b.renderIdentifier value = (names.mapM b.quoteName).map Text.commaSeparated := by
  rw [renderIdentifier, Argument.shape?_eq_sequence_iff.mpr hnames]

/-- Assignment lists and lists of names can be read back. For every dialect that is there from the
start, with its own escaper: the entries of a keyed collection are read as the texts of their keys
with what the bare rule gives for their values, and a list of names, which is rendered unless an
integer in it is too long, is read as their texts; all of them in order. -/
theorem assignments_read_back {escapeString : Text → Text}
    (hclient : Escaping.IsBackslashing escapeString)
    (hd : (b.compiler.dialect, g) ∈ Grammar.builtIn escapeString)
    (hown : b.compiler.injected = none) :
    (∀ {value : Argument} {entries : List (Argument × Argument)} {keys : List Text} {out : Text},
      value.IsKeyed entries →
      List.Forall₂ (fun entry key => IsName g.quote entry.1 key) entries keys →
      b.render value Tag.array.text = .ok out →
        ∃ values, g.entry.list out = some (keys.zip values) ∧
          entries.map (fun entry => b.renderBare entry.2) = values.map .ok) ∧
    ∀ {value : Argument} {names : List Argument} {texts : List Text},
      value.IsListOf names → List.Forall₂ (IsName g.quote) names texts →
        ((∃ out, b.render value Tag.identifier.text = .ok out) ↔
          ∀ n, .int n ∈ names → Numeral.isShort n = true) ∧
        ∀ out, b.render value Tag.identifier.text = .ok out →
          (Reader.name g.quote).list out = some texts := by
  have hg := Grammar.fits_of_mem hclient hd
  simp only [render_text_eq_ok_iff, renderBy]
  constructor
  · intro value entries keys out hentries hkeys h
    rw [renderArray, Argument.shape?_eq_mapping_iff.mpr hentries] at h
    obtain ⟨written, hwritten, rfl⟩ := map_eq_ok.mp h
    obtain ⟨values, hvalues, hreads, hne⟩ :=
      reads_renderEntries hg hown hkeys (mapM_eq_ok_iff.mp hwritten)
    exact ⟨values, Reader.list_commaSeparated hreads hne, hvalues⟩
  · intro value names texts hlist hnames
    simp only [renderIdentifier_list hlist, map_eq_ok]
    constructor
    · rw [← mapM_quoteName_succeeds_iff hg.toFitsNames hnames]
      constructor
      · rintro ⟨_, written, hwritten, -⟩
        exact ⟨written, hwritten⟩
      · rintro ⟨written, hwritten⟩
        exact ⟨_, written, hwritten, rfl⟩
    · rintro out ⟨written, hwritten, rfl⟩
      obtain ⟨hreads, hne⟩ := reads_quoteNames hg hnames (mapM_eq_ok_iff.mp hwritten)
      exact Reader.list_commaSeparated hreads hne

/-- A key and a value that hold what stands between keys, values and entries, and an integer. -/
theorem assignments_read_back_hostile :
    let b : Builder := ⟨⟨.postgres, none⟩, .default, Decimal.mostDigits⟩
    let names : List Argument := [.text "a', = b".toList, .int 3]
    let texts := ["a', = b".toList, "3".toList]
    let entries := names.zip [.text "x', \x22 = \\".toList, .null]
    let assigned := "\x22a', = b\x22 = 'x'', \x22 = \\', \x223\x22 = NULL".toList
    let listed := "\x22a', = b\x22, \x223\x22".toList
    Escaping.IsBackslashing Escaping.withBackslashes ∧
      (.postgres, .standard) ∈ Grammar.builtIn ∧
      (Argument.mapping .plain entries).IsKeyed entries ∧
      List.Forall₂ (IsName Text.doubleQuote) names texts ∧
      b.render (.mapping .plain entries) Tag.array.text = .ok assigned ∧
      Grammar.standard.entry.list assigned =
        some (texts.zip ["'x'', \x22 = \\'".toList, "NULL".toList]) ∧
      b.render (.sequence .tuple names) Tag.identifier.text = .ok listed ∧
      (Reader.name Text.doubleQuote).list listed = some texts := by
  intro b names texts entries assigned listed
  have hclient := Escaping.isBackslashing_withBackslashes
  have hd : (.postgres, .standard) ∈ Grammar.builtIn := by simp [Grammar.builtIn]
  have hkeyed : (Argument.mapping .plain entries).IsKeyed entries :=
    .mapping .plain fun h => by cases (List.cons.inj h).1
  have hnames : List.Forall₂ (IsName Text.doubleQuote) names texts :=
    .cons (.text (by decide)) (.cons (.int 3) .nil)
  have hkeys : List.Forall₂ (fun entry key => IsName Text.doubleQuote entry.1 key) entries texts :=
    .cons (.text (by decide)) (.cons (.int 3) .nil)
  have hassigned : b.render (.mapping .plain entries) Tag.array.text = .ok assigned := by
    decide +kernel
  have hlisted : b.render (.sequence .tuple names) Tag.identifier.text = .ok listed := by
    decide +kernel
  obtain ⟨hentries, hlist⟩ := assignments_read_back (b := b) hclient hd rfl
  obtain ⟨values, hread, hvalues⟩ := hentries hkeyed hkeys hassigned
  have hrendered : entries.map (fun entry => b.renderBare entry.2) =
      ["'x'', \x22 = \\'".toList, "NULL".toList].map .ok := by decide +kernel
  rw [hrendered, List.map_inj_right fun _ _ => Except.ok.inj] at hvalues
  subst hvalues
  exact ⟨hclient, hd, hkeyed, hnames, hassigned, hread, hlisted,
    (hlist (.sequence .tuple names) hnames).2 listed hlisted⟩

end SqlTemplate.Builder
