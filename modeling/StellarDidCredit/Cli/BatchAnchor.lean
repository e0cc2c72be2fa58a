import StellarDidCredit.Cli.Csv
import StellarDidCredit.Network.Queries
import StellarDidCredit.Sdk.Issuing

/-!
# Anchoring a file of credentials

`batch-anchor-vc` goes through the rows of a file, one after the other. A credential that is active already
is skipped, any other one is anchored, and a row that fails does not stop the next ones. After each row the
result file is written anew. The type in the third column is only printed.

Every request may go unanswered, and the command then stays where it is. So its outcome is the list of the
files that it has written, each with the state of the server at that time.
-/

namespace StellarDidCredit.Cli

open Sdk (IdentityServer JsNumber verifyVC issueVC getErrorMessage)

/-! ## The columns of a row -/

/-- The value of a hexadecimal digit. -/
def hexDigit (c : CodeUnit) : Option ℕ :=
  if 48 ≤ c ∧ c ≤ 57 then some (c.toNat - 48)
  else if 65 ≤ c ∧ c ≤ 70 then some (c.toNat - 55)
  else if 97 ≤ c ∧ c ≤ 102 then some (c.toNat - 87)
  else none

/-- `Buffer.from` of pairs of digits. -/
def hexBytes : JsString → List UInt8
  | high :: low :: rest => UInt8.ofNat (16 * (hexDigit high).getD 0 + (hexDigit low).getD 0) :: hexBytes rest
  | _ => []

def parseBatchVcHash (hex : JsString) : Except String (List UInt8) :=
  if hex.length = 64 ∧ hex.all (fun c => (hexDigit c).isSome) then .ok (hexBytes hex)
  else .error "vc_hash_hex must be a 64-character hex string (32 bytes)"

/-- The letters beyond the Latin alphabet whose capitals are Latin letters: the sharp s, the dotless i, the
long s and the ligatures of f and of s with t. -/
def latinCapitals : List (CodeUnit × JsString) :=
  [(0xDF, [83, 83]), (0x131, [73]), (0x17F, [83]), (0xFB00, [70, 70]), (0xFB01, [70, 73]), (0xFB02, [70, 76]),
    (0xFB03, [70, 70, 73]), (0xFB04, [70, 70, 76]), (0xFB05, [83, 84]), (0xFB06, [83, 84])]

/-- `String.prototype.toUpperCase`. The capitals of the other characters have something in them that is no
letter of an address, so the check of an address does not depend on them. -/
def toUpperCase (text : JsString) : JsString :=
  text.flatMap fun c => if 97 ≤ c ∧ c ≤ 122 then [c - 32] else (latinCapitals.lookup c).getD [c]

/-- `[A-Z2-7]` -/
def isBase32 (c : CodeUnit) : Bool := (65 ≤ c ∧ c ≤ 90) ∨ (50 ≤ c ∧ c ≤ 55)

def validateBatchSubject (subject : JsString) : Except String JsString :=
  let upper := toUpperCase subject
  if upper.head? = some 71 ∧ upper.length = 56 ∧ upper.all isBase32 then .ok upper
  else .error "subject must be a valid Stellar G... address"

/-- The first column in capitals, and the bytes of the second one. -/
def readRow (entry : BatchEntry) : Except String (JsString × List UInt8) := do
  let upperSubject ← validateBatchSubject entry.subject
  let vcHash ← parseBatchVcHash entry.vcHashHex
  .ok (upperSubject, vcHash)

/-- Two digits are one byte. -/
theorem length_hexBytes : ∀ (n : ℕ) (hex : JsString), hex.length = 2 * n → (hexBytes hex).length = n
  | 0, [], _ => rfl
  | n + 1, _ :: _ :: rest, h => by
    rw [List.length_cons, List.length_cons] at h
    rw [hexBytes, List.length_cons, length_hexBytes n rest (by omega)]

/-- A hash that is read has 32 bytes. -/
theorem length_of_readRow {entry : BatchEntry} {upperSubject : JsString} {vcHash : List UInt8}
    (h : readRow entry = .ok (upperSubject, vcHash)) : vcHash.length = 32 := by
  unfold readRow at h
  cases hsubject : validateBatchSubject entry.subject with
  | error message =>
    rw [hsubject] at h
    cases h
  | ok upper =>
    rw [hsubject, parseBatchVcHash] at h
    split at h
    case isTrue hhex =>
      cases h
      exact length_hexBytes 32 _ hhex.1
    case isFalse => cases h

/-! ## The command -/

inductive BatchStatus where
  | success (txHash : String)
  | failed (error : String)
  | skipped
  deriving DecidableEq, Repr

/-- One object of the result file. -/
structure BatchResult where
  subject : JsString
  vcHash : JsString
  status : BatchStatus
  deriving DecidableEq, Repr

/-- What the SDK has been set up with: how the Stellar library reads an address, and the number of retries. -/
structure Client where
  toAddress : JsString → Except String Address
  maxRetries : ℕ

section Command

variable {σ : Type} (client : Client) (server : IdentityServer JsString σ)

/-- One row, unless a request is never answered. -/
def anchorEntry (entry : BatchEntry) (s : σ) : Option (BatchStatus × σ) :=
  match readRow entry with
  | .error message => some (.failed message, s)
  | .ok (upperSubject, vcHash) => do
    let (verdict, s) ← verifyVC client.toAddress server upperSubject vcHash s
    match verdict with
    | .error error => some (.failed (getErrorMessage error), s)
    | .ok true => some (.skipped, s)
    | .ok false => do
      let (answer, s) ← issueVC client.toAddress server client.maxRetries upperSubject vcHash none s
      match answer with
      | .ok txHash => some (.success txHash, s)
      | .error error => some (.failed (getErrorMessage error), s)

/-- The line of a row in the result file. -/
def BatchEntry.result (entry : BatchEntry) (status : BatchStatus) : BatchResult where
  subject := entry.subject
  vcHash := entry.vcHashHex
  status

/-- The rows, and the files that are written. What the server does during the pauses belongs to its next
answer. -/
def anchorEntries : List BatchEntry → List BatchResult → σ → List (List BatchResult × σ)
  | [], _, _ => []
  | entry :: rest, results, s =>
    match anchorEntry client server entry s with
    | none => []
    | some (status, s) =>
      (results ++ [entry.result status], s) :: anchorEntries rest (results ++ [entry.result status]) s

/-- What the command does: it is refused with a message, or goes through the rows. -/
inductive CommandOutcome (σ : Type) where
  | refused (message : String)
  | ran (entries : List BatchEntry) (written : List (List BatchResult × σ))

/-- The command, with the number that the delay is read as, and with the text of the file, if it can be
read. -/
def batchAnchorVc (delayMs : JsNumber) (file : Except String JsString) (s : σ) : CommandOutcome σ :=
  if delayMs.isInteger = false ∨ delayMs.toInt < 0 then
    .refused "Error: delay-ms must be a non-negative integer."
  else
    match file >>= parseBatchCsv with
    | .error message => .refused ("Failed to read CSV: " ++ message)
    | .ok entries => .ran entries (anchorEntries client server entries [] s)

end Command

/-- A command that is not refused goes through the rows of its file. -/
theorem batchAnchorVc_ran {σ : Type} {client : Client} {server : IdentityServer JsString σ} {s : σ}
    {delayMs : JsNumber} {file : Except String JsString} {entries : List BatchEntry}
    {written : List (List BatchResult × σ)}
    (h : batchAnchorVc client server delayMs file s = .ran entries written) :
    written = anchorEntries client server entries [] s ∧
      ∀ s', batchAnchorVc client server delayMs file s' =
        .ran entries (anchorEntries client server entries [] s') := by
  unfold batchAnchorVc at h ⊢
  split at h
  case isTrue => cases h
  case isFalse hdelay =>
    cases hparse : file >>= parseBatchCsv with
    | error message =>
      rw [hparse] at h
      cases h
    | ok parsed =>
      rw [hparse] at h
      cases h
      exact ⟨rfl, fun s' => if_neg hdelay⟩

end StellarDidCredit.Cli
