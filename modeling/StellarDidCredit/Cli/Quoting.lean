import StellarDidCredit.Cli.Csv

/-!
# Reading back a quoted batch

A batch is written with each field bare, or in quotes with its quotes doubled, with either line
break after each line, and with blank lines anywhere. `parseBatchCsv` reads the entries back. The
loop over a line is followed chunk by chunk, each with any rest of the line behind it.
-/

namespace StellarDidCredit.Cli

/-- A field that a batch can carry. -/
structure Plain (field : JsString) : Prop where
  nonempty : field ≠ []
  trimmed : Text.Trimmed isWhitespace field
  unbroken : ∀ c ∈ field, c ≠ carriageReturn ∧ c ≠ lineFeed

/-- The three fields of an entry can be carried. -/
structure BatchEntry.Plain (entry : BatchEntry) : Prop where
  subject : Cli.Plain entry.subject
  vcHashHex : Cli.Plain entry.vcHashHex
  credentialType : Cli.Plain entry.credentialType

/-- Every quote twice. -/
def doubled (field : JsString) : JsString :=
  field.flatMap (fun c => if c = quote then [quote, quote] else [c])

/-- The two ways to write a field. -/
inductive WritesField (field : JsString) : JsString → Prop
  | bare (hcomma : comma ∉ field) (hquote : quote ∉ field) : WritesField field field
  | quoted : WritesField field (quote :: doubled field ++ [quote])

/-- A line that carries an entry. -/
inductive WritesEntry (entry : BatchEntry) : JsString → Prop
  | row {subject vcHashHex credentialType : JsString} (hsubject : WritesField entry.subject subject)
      (hhash : WritesField entry.vcHashHex vcHashHex) (htype : WritesField entry.credentialType credentialType) :
      WritesEntry entry (subject ++ comma :: vcHashHex ++ comma :: credentialType)

/-- Lines with blank lines put anywhere between them. -/
inductive WithBlanks : List JsString → List JsString → Prop
  | nil : WithBlanks [] []
  | blank {line : JsString} {lines spaced : List JsString} (h : ∀ c ∈ line, isWhitespace c)
      (hfree : ∀ c ∈ line, c ≠ carriageReturn ∧ c ≠ lineFeed) (rest : WithBlanks lines spaced) :
      WithBlanks lines (line :: spaced)
  | line {line : JsString} {lines spaced : List JsString} (rest : WithBlanks lines spaced) :
      WithBlanks (line :: lines) (line :: spaced)

/-- The required header as it is written. -/
def headerLine : JsString := [comma].intercalate REQUIRED_HEADERS

/-- A text that carries a batch under the required header. -/
structure WritesBatch (entries : List BatchEntry) (csv : JsString) : Prop where
  written : ∃ rows ended last, List.Forall₂ WritesEntry entries rows ∧
    WithBlanks (headerLine :: rows) (ended.map Prod.fst ++ [last]) ∧
    csv = Text.joinLines carriageReturn lineFeed ended last

namespace parseCsvLine

/-- A doubled quote inside quotes is one quote of the value. -/
theorem loop_quote_quote (rest : JsString) (values : List JsString) (value : JsString) :
    loop (quote :: quote :: rest) values value true = loop rest values (value ++ [quote]) true := by
  rw [loop.eq_def]
  exact (if_pos rfl).trans (if_pos ⟨rfl, rfl⟩)

/-- A quote that is not doubled opens or closes. -/
theorem loop_quote {rest : JsString} {quoted : Bool} (h : quoted = true → rest.head? ≠ some quote)
    (values : List JsString) (value : JsString) :
    loop (quote :: rest) values value quoted = loop rest values value (!quoted) := by
  rw [loop.eq_def]
  refine (if_pos rfl).trans ?_
  cases rest with
  | nil => rfl
  | cons next rest => exact if_neg (fun hnext => h hnext.1 (by rw [hnext.2]; rfl))

/-- A comma outside quotes ends a column. -/
theorem loop_comma (rest : JsString) (values : List JsString) (value : JsString) :
    loop (comma :: rest) values value false = loop rest (values ++ [trim value]) [] false := by
  rw [loop.eq_def]
  exact (if_neg (by decide)).trans (if_pos ⟨rfl, rfl⟩)

/-- Any other character is added to the value. -/
theorem loop_other {c : CodeUnit} {quoted : Bool} (hquote : c ≠ quote) (hcomma : quoted = false → c ≠ comma)
    (rest : JsString) (values : List JsString) (value : JsString) :
    loop (c :: rest) values value quoted = loop rest values (value ++ [c]) quoted := by
  rw [loop.eq_def]
  exact (if_neg hquote).trans (if_neg (fun h => hcomma h.2 h.1))

/-- Outside quotes, characters that are no comma and no quote are added to the value. -/
theorem loop_bare {chunk : JsString} (hcomma : comma ∉ chunk) (hquote : quote ∉ chunk) (rest : JsString)
    (values : List JsString) (value : JsString) :
    loop (chunk ++ rest) values value false = loop rest values (value ++ chunk) false := by
  induction chunk generalizing value with
  | nil => simp
  | cons c chunk ih =>
    have hc : c ≠ comma := fun h => hcomma (h ▸ List.mem_cons_self)
    have hc' : c ≠ quote := fun h => hquote (h ▸ List.mem_cons_self)
    rw [List.cons_append, loop_other hc' (fun _ => hc),
      ih (fun h => hcomma (List.mem_cons_of_mem _ h)) (fun h => hquote (List.mem_cons_of_mem _ h))]
    simp

/-- Inside quotes, a text with its quotes doubled is added to the value. -/
theorem loop_doubled (field rest : JsString) (values : List JsString) (value : JsString) :
    loop (doubled field ++ rest) values value true = loop rest values (value ++ field) true := by
  induction field generalizing value with
  | nil => simp [doubled]
  | cons c field ih =>
    have hsplit : doubled (c :: field) ++ rest =
        (if c = quote then [quote, quote] else [c]) ++ (doubled field ++ rest) := by
      simp [doubled]
    rw [hsplit]
    by_cases hc : c = quote
    · rw [if_pos hc, List.cons_append, List.cons_append, loop_quote_quote, List.nil_append, ih, hc]
      simp
    · rw [if_neg hc, List.cons_append, loop_other hc (by simp), List.nil_append, ih]
      simp

/-- A field can end here. -/
inductive Ends : JsString → Prop
  | line : Ends []
  | column (rest : JsString) : Ends (comma :: rest)

/-- Either way to write a field puts the field in the value. -/
theorem loop_field {field written rest : JsString} (h : WritesField field written) (hrest : Ends rest)
    (values : List JsString) :
    loop (written ++ rest) values [] false = loop rest values field false := by
  cases h with
  | bare hcomma hquote => exact loop_bare hcomma hquote rest values []
  | quoted =>
    have hends : rest.head? ≠ some quote := by cases hrest <;> simp [comma, quote, CodeUnit.ofChar]
    rw [List.append_assoc, List.cons_append, loop_quote (by simp), Bool.not_false, loop_doubled,
      List.singleton_append, loop_quote (fun _ => hends)]
    rfl

end parseCsvLine

/-- The columns of a written line are the fields. -/
theorem parseCsvLine_of_writesEntry {entry : BatchEntry} {line : JsString} (hplain : entry.Plain)
    (h : WritesEntry entry line) :
    parseCsvLine line = .ok [entry.subject, entry.vcHashHex, entry.credentialType] := by
  cases h with
  | @row subject vcHashHex credentialType hsubject hhash htype =>
    have htype' := parseCsvLine.loop_field htype .line [entry.subject, entry.vcHashHex]
    rw [List.append_nil] at htype'
    rw [parseCsvLine, List.append_assoc, List.cons_append, parseCsvLine.loop_field hsubject (.column _),
      parseCsvLine.loop_comma, parseCsvLine.loop_field hhash (.column _), parseCsvLine.loop_comma,
      trim, Text.trim_eq_self hplain.subject.trimmed, trim, Text.trim_eq_self hplain.vcHashHex.trimmed]
    simp only [List.nil_append, List.singleton_append]
    rw [htype', parseCsvLine.loop, if_neg (by decide), trim, Text.trim_eq_self hplain.credentialType.trimmed]
    rfl

/-- A written line is read as its entry. -/
theorem parseRow_of_writesEntry {entry : BatchEntry} {line : JsString} (hplain : entry.Plain)
    (h : WritesEntry entry line) (index : ℕ) : parseRow line index = .ok entry := by
  have hempty : [entry.subject, entry.vcHashHex, entry.credentialType].any List.isEmpty = false := by
    simp [hplain.subject.nonempty, hplain.vcHashHex.nonempty, hplain.credentialType.nonempty]
  rw [parseRow, parseCsvLine_of_writesEntry hplain h]
  change (if _ then _ else _) = _
  rw [hempty]
  rfl

/-- Written lines are read as their entries, whatever their first index. -/
theorem mapM_parseRow {entries : List BatchEntry} {rows : List JsString} (hplain : ∀ entry ∈ entries, entry.Plain)
    (h : List.Forall₂ WritesEntry entries rows) (first : ℕ) :
    (rows.zipIdx first).mapM (fun row => parseRow row.1 row.2) = .ok entries := by
  induction h generalizing first with
  | nil => rfl
  | cons hrow hrows ih =>
    obtain ⟨hentry, hplain⟩ := List.forall_mem_cons.mp hplain
    rw [List.zipIdx_cons, List.mapM_cons, parseRow_of_writesEntry hentry hrow, ih hplain]
    rfl

/-- A line with a comma is no blank line. -/
theorem trim_ne_nil {line : JsString} (h : comma ∈ line) : 0 < (trim line).length := by
  rw [List.length_pos_iff]
  intro hnil
  exact absurd (Text.trim_eq_nil_iff.mp hnil _ h) (by decide)

/-- Exactly the blank lines are filtered out. -/
theorem filter_withBlanks {lines spaced : List JsString} (h : WithBlanks lines spaced)
    (hlines : ∀ line ∈ lines, comma ∈ line) :
    spaced.filter (fun line => (trim line).length > 0) = lines := by
  induction h with
  | nil => rfl
  | blank hblank _ _ ih =>
    rw [List.filter_cons_of_neg (by rw [trim, Text.trim_eq_nil_iff.mpr hblank]; decide), ih hlines]
  | line _ ih =>
    obtain ⟨hline, hlines⟩ := List.forall_mem_cons.mp hlines
    rw [List.filter_cons_of_pos (by simpa using trim_ne_nil hline), ih hlines]

/-- No line of a spaced text has a break when no line of the text has one. -/
theorem unbroken_withBlanks {lines spaced : List JsString} (h : WithBlanks lines spaced)
    (hlines : ∀ line ∈ lines, ∀ c ∈ line, c ≠ carriageReturn ∧ c ≠ lineFeed) :
    ∀ line ∈ spaced, ∀ c ∈ line, c ≠ carriageReturn ∧ c ≠ lineFeed := by
  induction h with
  | nil => simp
  | blank _ hfree _ ih => exact List.forall_mem_cons.mpr ⟨hfree, ih hlines⟩
  | line _ ih =>
    obtain ⟨hline, hlines⟩ := List.forall_mem_cons.mp hlines
    exact List.forall_mem_cons.mpr ⟨hline, ih hlines⟩

/-- A quotation mark breaks no line. -/
theorem quote_free : quote ≠ carriageReturn ∧ quote ≠ lineFeed := by decide

/-- Nor does a comma. -/
theorem comma_free : comma ≠ carriageReturn ∧ comma ≠ lineFeed := by decide

/-- Writing a field puts no break into it. -/
theorem WritesField.unbroken {field written : JsString} (h : WritesField field written)
    (hfield : ∀ c ∈ field, c ≠ carriageReturn ∧ c ≠ lineFeed) :
    ∀ c ∈ written, c ≠ carriageReturn ∧ c ≠ lineFeed := by
  cases h with
  | bare => exact hfield
  | quoted =>
    intro c hc
    simp only [List.cons_append, List.mem_cons, List.mem_append, doubled, List.mem_flatMap,
      List.not_mem_nil, or_false] at hc
    obtain rfl | ⟨d, hd, hc⟩ | rfl := hc
    · exact quote_free
    · split at hc
      · have hquote : c = quote := by simpa using hc
        exact hquote ▸ quote_free
      · have hself : c = d := by simpa using hc
        exact hself ▸ hfield d hd
    · exact quote_free

/-- The line of a plain entry is not broken. -/
theorem WritesEntry.unbroken {entry : BatchEntry} {line : JsString} (h : WritesEntry entry line)
    (hplain : entry.Plain) : ∀ c ∈ line, c ≠ carriageReturn ∧ c ≠ lineFeed := by
  cases h with
  | row hsubject hhash htype =>
    have hsubject := hsubject.unbroken hplain.subject.unbroken
    have hhash := hhash.unbroken hplain.vcHashHex.unbroken
    have htype := htype.unbroken hplain.credentialType.unbroken
    simp only [List.append_assoc, List.cons_append, List.forall_mem_append, List.forall_mem_cons]
    exact ⟨hsubject, comma_free, hhash, comma_free, htype⟩

/-- The line of an entry has a comma, so it is not blank. -/
theorem WritesEntry.comma_mem {entry : BatchEntry} {line : JsString} (h : WritesEntry entry line) :
    comma ∈ line := by
  cases h
  simp

/-- Each written line carries one of the entries. -/
theorem exists_writesEntry {entries : List BatchEntry} {rows : List JsString}
    (h : List.Forall₂ WritesEntry entries rows) : ∀ line ∈ rows, ∃ entry ∈ entries, WritesEntry entry line := by
  induction h with
  | nil => simp
  | cons hrow _ ih =>
    refine List.forall_mem_cons.mpr ⟨⟨_, List.mem_cons_self, hrow⟩, fun line hline => ?_⟩
    obtain ⟨entry, hentry, hwrites⟩ := ih line hline
    exact ⟨entry, List.mem_cons_of_mem _ hentry, hwrites⟩

/-- The header is read as it is required. -/
theorem parseCsvLine_headerLine : parseCsvLine headerLine = .ok REQUIRED_HEADERS := by rfl

/-- The header has a comma as well. -/
theorem headerLine_comma : comma ∈ headerLine := by decide

/-- The header is one line. -/
theorem headerLine_unbroken : ∀ c ∈ headerLine, c ≠ carriageReturn ∧ c ≠ lineFeed := by
  simp [headerLine, REQUIRED_HEADERS, List.intercalate, CodeUnit.ofChar, comma, carriageReturn, lineFeed]

/-- The required columns are in lower case. -/
theorem required_headers_lower : REQUIRED_HEADERS.map toLowerCase = REQUIRED_HEADERS := by decide

/-- Under the required header the entries are those of the other lines. -/
theorem parseBatchCsv_of_lines {csv : JsString} {rows : List JsString}
    (h : (Text.splitLines carriageReturn lineFeed csv).filter (fun line => (trim line).length > 0) =
      headerLine :: rows) :
    parseBatchCsv csv = rows.zipIdx.mapM (fun row => parseRow row.1 row.2) := by
  rw [parseBatchCsv, h]
  dsimp only
  rw [parseCsvLine_headerLine]
  dsimp only [Bind.bind, Except.bind]
  rw [if_neg (not_not.mpr required_headers_lower)]

/-- A batch is read back: whichever fields are quoted, whichever line breaks are used, and wherever
blank lines are put, the entries come out in order. -/
theorem parseBatchCsv_writesBatch {entries : List BatchEntry} {csv : JsString}
    (hplain : ∀ entry ∈ entries, entry.Plain) (h : WritesBatch entries csv) :
    parseBatchCsv csv = .ok entries := by
  obtain ⟨rows, ended, last, hrows, hblanks, rfl⟩ := h.written
  have hcomma : ∀ line ∈ headerLine :: rows, comma ∈ line := by
    refine List.forall_mem_cons.mpr ⟨headerLine_comma, fun line hline => ?_⟩
    obtain ⟨_, _, hwrites⟩ := exists_writesEntry hrows line hline
    exact hwrites.comma_mem
  have hfree : ∀ line ∈ headerLine :: rows, ∀ c ∈ line, c ≠ carriageReturn ∧ c ≠ lineFeed := by
    refine List.forall_mem_cons.mpr ⟨headerLine_unbroken, fun line hline => ?_⟩
    obtain ⟨entry, hentry, hwrites⟩ := exists_writesEntry hrows line hline
    exact hwrites.unbroken (hplain entry hentry)
  have hspaced := unbroken_withBlanks hblanks hfree
  rw [List.forall_mem_append, List.forall_mem_map] at hspaced
  have hlines : Text.splitLines carriageReturn lineFeed (Text.joinLines carriageReturn lineFeed ended last) =
      ended.map Prod.fst ++ [last] :=
    Text.splitLines_joinLines (by decide) hspaced.1 (List.forall_mem_singleton.mp hspaced.2)
  rw [parseBatchCsv_of_lines (hlines ▸ filter_withBlanks hblanks hcomma)]
  exact mapM_parseRow hplain hrows 0

/-- Two rows with a comma and a quote in a field, a blank first line and both line breaks. -/
theorem parseBatchCsv_writesBatch_two :
    parseBatchCsv (carriageReturn :: lineFeed :: headerLine ++ [lineFeed] ++
      ['a', ',', 'b', ',', '"', 'x', ',', 'y', '"'].map CodeUnit.ofChar ++
        [carriageReturn, lineFeed, 0x20, lineFeed] ++
      ['"', 'q', '"', '"', '"', ',', 'h', ',', 't'].map CodeUnit.ofChar) =
    .ok [⟨[.ofChar 'a'], [.ofChar 'b'], ['x', ',', 'y'].map .ofChar⟩,
      ⟨['q', '"'].map .ofChar, [.ofChar 'h'], [.ofChar 't']⟩] := by
  have bare (c : CodeUnit) (hcomma : comma ≠ c) (hquote : quote ≠ c) : WritesField [c] [c] :=
    .bare (by simpa using hcomma) (by simpa using hquote)
  have plain (field : JsString) (hne : field ≠ []) (hfirst : ∀ c ∈ field.head?, ¬ isWhitespace c)
      (hlast : ∀ c ∈ field.getLast?, ¬ isWhitespace c)
      (hfree : field.all (fun c => c ≠ carriageReturn ∧ c ≠ lineFeed)) : Plain field :=
    ⟨hne, ⟨hfirst, hlast⟩, fun c hc => by simpa using List.all_eq_true.mp hfree c hc⟩
  have hplain : ∀ entry ∈ ([⟨[.ofChar 'a'], [.ofChar 'b'], ['x', ',', 'y'].map .ofChar⟩,
      ⟨['q', '"'].map .ofChar, [.ofChar 'h'], [.ofChar 't']⟩] : List BatchEntry), entry.Plain := by
    simp only [List.forall_mem_cons, List.not_mem_nil, false_implies, implies_true, and_true]
    constructor <;> constructor <;> exact plain _ (by decide) (by simp; decide) (by simp; decide) (by decide)
  exact parseBatchCsv_writesBatch hplain ⟨_, [([], .crlf), (headerLine, .lf), (_, .crlf), ([0x20], .lf)], _,
    .cons (.row (bare _ (by decide) (by decide)) (bare _ (by decide) (by decide)) .quoted)
      (.cons (.row .quoted (bare _ (by decide) (by decide)) (bare _ (by decide) (by decide))) .nil),
    .blank (by simp) (by simp) (.line (.line (.blank (by simp; decide) (by simp; decide) (.line .nil)))), rfl⟩

end StellarDidCredit.Cli
