import StellarDidCredit.Lib.Text

/-!
# Reading a batch of credentials

`parseBatchCsv` reads the file of a batch command. The text is a sequence of UTF-16 code units, as
the scanner of `parseCsvLine` indexes it. Lines of white space are dropped, the first remaining
line is the header, and each other line is one entry.
-/

namespace StellarDidCredit.Cli

/-- A UTF-16 code unit. -/
abbrev CodeUnit := BitVec 16

/-- A string of the source. -/
abbrev JsString := List CodeUnit

/-- The code unit of a character of the basic plane. -/
def CodeUnit.ofChar (c : Char) : CodeUnit := BitVec.ofNat 16 c.toNat

def quote : CodeUnit := .ofChar '"'
def comma : CodeUnit := .ofChar ','
def carriageReturn : CodeUnit := 13
def lineFeed : CodeUnit := 10

/-- The white space and the line terminators that `String.prototype.trim` removes. -/
def isWhitespace (c : CodeUnit) : Bool :=
  (9 ≤ c ∧ c ≤ 13) ∨ c ∈ [0x20, 0xA0, 0x1680, 0x2028, 0x2029, 0x202F, 0x205F, 0x3000, 0xFEFF] ∨
    (0x2000 ≤ c ∧ c ≤ 0x200A)

/-- `String.prototype.trim`. -/
def trim (text : JsString) : JsString := Text.trim isWhitespace text

/-- `String.prototype.toLowerCase` on the Latin capitals. The other characters that it changes are
never changed into a string of the characters of `REQUIRED_HEADERS`, so a comparison with these
does not depend on them. -/
def toLowerCase (text : JsString) : JsString :=
  text.map (fun c => if 65 ≤ c ∧ c ≤ 90 then c + 32 else c)

/-- One line of the batch. -/
structure BatchEntry where
  subject : JsString
  vcHashHex : JsString
  credentialType : JsString
  deriving DecidableEq, Repr

def REQUIRED_HEADERS : List JsString :=
  [['s', 'u', 'b', 'j', 'e', 'c', 't'].map .ofChar,
    ['v', 'c', '_', 'h', 'a', 's', 'h', '_', 'h', 'e', 'x'].map .ofChar,
    ['c', 'r', 'e', 'd', 'e', 'n', 't', 'i', 'a', 'l', '_', 't', 'y', 'p', 'e'].map .ofChar]

/-- The loop over the characters of a line. A doubled quote inside quotes is read at once. -/
def parseCsvLine.loop : JsString → List JsString → JsString → Bool → Except String (List JsString)
  | [], values, value, quoted =>
    if quoted then .error "CSV contains an unterminated quoted field" else .ok (values ++ [trim value])
  | character :: rest, values, value, quoted =>
    if character = quote then
      match rest with
      | [] => loop [] values value (!quoted)
      | next :: rest =>
        if quoted ∧ next = quote then loop rest values (value ++ [quote]) quoted
        else loop (next :: rest) values value (!quoted)
    else if character = comma ∧ quoted = false then loop rest (values ++ [trim value]) [] quoted
    else loop rest values (value ++ [character]) quoted

/-- The columns of a line. -/
def parseCsvLine (line : JsString) : Except String (List JsString) :=
  parseCsvLine.loop line [] [] false

/-- The entry of the line with an index among the lines after the header. -/
def parseRow (line : JsString) (index : ℕ) : Except String BatchEntry := do
  let values ← parseCsvLine line
  match values with
  | [subject, vcHashHex, credentialType] =>
    if values.any List.isEmpty then
      throw s!"CSV row {index + 2} must contain three non-empty columns"
    pure ⟨subject, vcHashHex, credentialType⟩
  | _ => throw s!"CSV row {index + 2} must contain three non-empty columns"

/-- The entries of a file. -/
def parseBatchCsv (csv : JsString) : Except String (List BatchEntry) := do
  let lines := (Text.splitLines carriageReturn lineFeed csv).filter (fun line => (trim line).length > 0)
  match lines with
  | [] => throw "CSV file is empty"
  | header :: rows =>
    let headers := (← parseCsvLine header).map toLowerCase
    if headers ≠ REQUIRED_HEADERS then
      throw "CSV header must be: subject,vc_hash_hex,credential_type"
    rows.zipIdx.mapM (fun row => parseRow row.1 row.2)

end StellarDidCredit.Cli
