import StellarDidCredit.Cli.BatchAnchor
import StellarDidCredit.IdentityOracle.Records
import StellarDidCredit.Network.Anchoring
import StellarDidCredit.Network.Attribution

/-!
# What the result files vouch for

A row that succeeds was anchored by a transaction, and a row that is skipped was active while the command
asked. No record is ever dropped, so both are on record from then on, whoever else calls the contracts in the
meantime and afterwards, and wherever the command stops. A row that fails vouches for nothing: its
transaction may still be applied.
-/

namespace StellarDidCredit.Network

open IdentityOracle (anchorsOf IsAnchor anchorRecord)

variable {w w' : World} {e : Event} {a x issuer : Address} {vcHash : BytesN 32}

/-- Transactions lead from one state of the network to the other. -/
def Reaches (w w' : World) : Prop := ∃ history, Run Step w history w'

/-- No call leads to the same state. -/
theorem Reaches.refl (w : World) : Reaches w w := ⟨[], .nil⟩

/-- Runs are put together. -/
theorem Reaches.trans {w₁ w₂ w₃ : World} (h : Reaches w₁ w₂) (h' : Reaches w₂ w₃) : Reaches w₁ w₃ := by
  obtain ⟨_, hfirst⟩ := h
  obtain ⟨_, hrest⟩ := h'
  exact ⟨_, hfirst.append hrest⟩

/-- A step leaves a record of an issuer and a hash where it is. -/
theorem credential_step (h : Step w e w') (hholds : HoldsAt w.contracts a (.credential issuer x vcHash)) :
    HoldsAt w'.contracts a (.credential issuer x vcHash) := by
  obtain ⟨contract, hcontract, hcredential⟩ := hholds
  cases contract with
  | identityOracle s =>
    obtain ⟨record, hmem, hanchor⟩ := hcredential
    obtain ⟨s', hs', hcalled⟩ := identity_called h hcontract
    have hextends : IdentityOracle.Extends (anchorsOf s x) (anchorsOf s' x) := by
      rcases hcalled.exec with rfl | ⟨host, env, call, others, hexec⟩
      · exact .refl _
      · exact (IdentityOracle.exec_writes hexec).extends x
    obtain ⟨i, hi⟩ := List.mem_iff_getElem?.mp hmem
    obtain ⟨record', hrecord', hkept⟩ := hextends i record hi
    exact ⟨.identityOracle s', hs', record', List.mem_of_getElem? hrecord', hkept.vcHash.trans hanchor.1,
      hkept.issuer.trans hanchor.2⟩
  | _ => cases hcredential

/-- A record of the issuer stays. -/
theorem Reaches.credential (h : Reaches w w') (hholds : HoldsAt w.contracts a (.credential issuer x vcHash)) :
    HoldsAt w'.contracts a (.credential issuer x vcHash) := by
  obtain ⟨history, hrun⟩ := h
  exact hrun.invariant (fun w => HoldsAt w.contracts a (.credential issuer x vcHash))
    (fun _ _ _ hholds hstep => credential_step hstep hholds) hholds

/-- A successful anchoring leaves the record, which may have been there before. -/
theorem credential_of_anchoring {now : Ledger} {signers : List Address}
    (h : Step w (.invoke now signers a (.identityOracle (.anchorVc issuer x vcHash))) w') :
    HoldsAt w'.contracts a (.credential issuer x vcHash) := by
  obtain ⟨s, hs⟩ : ∃ s, w.contracts a = some (.identityOracle s) := by
    cases step_spec h with
    | invoked hledger hsigners hinvoked =>
      cases hinvoked with
      | identity hs hexec hothers => exact ⟨_, hs⟩
  rcases anchoring_step rfl hs h with ⟨⟨record, hmem, hanchor⟩, hsame⟩ | ⟨-, -, s', hset, -, -, hanchors, -⟩
  · exact ⟨.identityOracle s, hsame ▸ hs, record, hmem, hanchor⟩
  · refine ⟨.identityOracle s', ?_, anchorRecord (.signedBy now a signers) issuer vcHash, ?_, rfl, rfl⟩
    · rw [hset, Storage.set_self]
    · rw [hanchors]
      exact List.mem_append_right _ List.mem_cons_self

/-- A hash that is verified is on record. -/
theorem credential_of_verifyVc (h : w.verifyVc a x vcHash = some true) :
    ∃ issuer, HoldsAt w.contracts a (.credential issuer x vcHash) := by
  obtain ⟨-, s, hs, hanswer⟩ := onIdentity_eq_some.mp h
  have hany := Outcome.anyE_ok (q := fun record =>
      decide (record.vcHash = vcHash) && IdentityOracle.isActive (statusOf w.contracts s) record)
    (fun record _ b hb => by
      split at hb
      case isTrue hhash =>
        simp only [Outcome.bind_eq_ok, Except.ok.injEq] at hb
        obtain ⟨revoked, hrevoked, rfl⟩ := hb
        rw [IdentityOracle.isRecordRevoked_ok (sees_statusOf s) hrevoked]
        simp [hhash]
      case isFalse hhash =>
        cases hb
        simp [hhash]) (Outcome.toOption_eq_some.mp hanswer)
  obtain ⟨record, hmem, hfound⟩ := List.any_eq_true.mp hany.symm
  simp only [Bool.and_eq_true, decide_eq_true_eq] at hfound
  exact ⟨record.issuer, .identityOracle s, hs, record, hmem, hfound.1, rfl⟩

end StellarDidCredit.Network

namespace StellarDidCredit.Cli

open Network (World Event Step Reaches HoldsAt)
open Sdk (IdentityServer JsNumber verifyVC issueVC getErrorMessage)

variable {σ : Type} {client : Client} {server : IdentityServer JsString σ} {world : σ → World}
  {a issuer : Address} {s s' : σ} {entry : BatchEntry} {status : BatchStatus}

/-! ## An honest server -/

/-- The row has this subject and this hash. -/
def Client.Names (client : Client) (entry : BatchEntry) (x : Address) (vcHash : BytesN 32) : Prop :=
  ∃ upperSubject bytes, readRow entry = .ok (upperSubject, bytes) ∧ client.toAddress upperSubject = .ok x ∧
    BytesN.fromArray bytes = vcHash

/-- What the server answers about a hash was so at some moment while it answered. It reports an anchoring as
successful only if the transaction was applied while it was asked. Others may call the contracts all the
time. -/
structure Honest (client : Client) (world : σ → World) (a issuer : Address)
    (server : IdentityServer JsString σ) : Prop where
  verifyVc : ∀ subject x vcHash s response s', client.toAddress subject = .ok x →
    server.verifyVc subject vcHash s = some (response, s') →
    ∃ moment, Reaches (world s) moment ∧ Reaches moment (world s') ∧
      ∀ verdict, response = .returned (some verdict) →
        moment.verifyVc a x (BytesN.fromArray vcHash) = some verdict
  anchorVc : ∀ subject x vcHash s, client.toAddress subject = .ok x →
    ∃ history, Run Step (world s) history (world (server.anchorVc subject vcHash none s).2) ∧
      ((∃ poll ∈ (server.anchorVc subject vcHash none s).1.exchange.polls, poll.answer = .ok .success) →
        ∃ t ∈ history, ∃ now signers, t.event = .invoke now signers a
          (.identityOracle (.anchorVc issuer x (BytesN.fromArray vcHash))))

/-- What a line of the result file says about the network in the state `final`, for a command that ran
from `first` to `last`. -/
inductive Vouched (client : Client) (a issuer : Address) (first last final : World) (entry : BatchEntry) :
    BatchStatus → Prop
  | success {txHash : String} {x : Address} {vcHash : BytesN 32} (hnames : client.Names entry x vcHash)
      (hholds : HoldsAt final.contracts a (.credential issuer x vcHash)) :
      Vouched client a issuer first last final entry (.success txHash)
  | skipped {x other : Address} {vcHash : BytesN 32} {moment : World} (hnames : client.Names entry x vcHash)
      (hbefore : Reaches first moment) (hafter : Reaches moment last)
      (hverified : moment.verifyVc a x vcHash = some true)
      (hholds : HoldsAt final.contracts a (.credential other x vcHash)) :
      Vouched client a issuer first last final entry .skipped
  | failed {error : String} : Vouched client a issuer first last final entry (.failed error)

/-- It holds over a longer time, and ever after. -/
theorem Vouched.mono {first first' last last' final final' : World}
    (h : Vouched client a issuer first last final entry status) (hfirst : Reaches first' first)
    (hlast : Reaches last last') (hfinal : Reaches final final') :
    Vouched client a issuer first' last' final' entry status := by
  cases h with
  | success hnames hholds => exact .success hnames (hfinal.credential hholds)
  | skipped hnames hbefore hafter hverified hholds =>
    exact .skipped hnames (hfirst.trans hbefore) (hafter.trans hlast) hverified (hfinal.credential hholds)
  | failed => exact .failed

/-! ## One row -/

/-- A row takes the network along a run, and its line holds at the end of it. -/
theorem anchorEntry_vouched (hserver : Honest client world a issuer server)
    (h : anchorEntry client server entry s = some (status, s')) :
    Reaches (world s) (world s') ∧ Vouched client a issuer (world s) (world s') (world s') entry status := by
  unfold anchorEntry at h
  split at h
  next message hread =>
    obtain ⟨rfl, rfl⟩ := Prod.mk.inj (Option.some.inj h)
    exact ⟨.refl _, .failed⟩
  next upperSubject bytes hread =>
    have hlength := length_of_readRow hread
    obtain ⟨⟨verdict, s₁⟩, hverdict, h⟩ := Option.bind_eq_some_iff.mp h
    cases haddress : client.toAddress upperSubject with
    | error message =>
      rw [verifyVC, if_neg (not_not.mpr hlength), haddress] at hverdict
      obtain ⟨rfl, rfl⟩ := Prod.mk.inj (Option.some.inj hverdict)
      obtain ⟨rfl, rfl⟩ := Prod.mk.inj (Option.some.inj h)
      exact ⟨.refl _, .failed⟩
    | ok x =>
      have hnames : client.Names entry x (BytesN.fromArray bytes) := ⟨upperSubject, bytes, hread, haddress, rfl⟩
      rw [Sdk.verifyVC_sent hlength haddress] at hverdict
      obtain ⟨⟨response, s₂⟩, hresponse, hanswered⟩ := Option.map_eq_some_iff.mp hverdict
      obtain ⟨hsaid, rfl⟩ := Prod.mk.inj hanswered
      obtain ⟨moment, hbefore, hafter, hmoment⟩ := hserver.verifyVc _ _ _ _ _ _ haddress hresponse
      have hasked : Reaches (world s) (world s₂) := hbefore.trans hafter
      cases verdict with
      | error error =>
        obtain ⟨rfl, rfl⟩ := Prod.mk.inj (Option.some.inj h)
        exact ⟨hasked, .failed⟩
      | ok verdict =>
        cases verdict with
        | true =>
          obtain ⟨rfl, rfl⟩ := Prod.mk.inj (Option.some.inj h)
          have hverified := hmoment true (Sdk.verdictOf_eq_true.mp hsaid)
          obtain ⟨other, hholds⟩ := Network.credential_of_verifyVc hverified
          exact ⟨hasked, .skipped hnames hbefore hafter hverified (hafter.credential hholds)⟩
        | false =>
          obtain ⟨⟨answer, s₃⟩, hissued, h⟩ := Option.bind_eq_some_iff.mp h
          obtain ⟨rfl, hanswer⟩ := Sdk.issueVC_sent hlength hissued
          obtain ⟨history, hrun, happlied⟩ := hserver.anchorVc upperSubject x bytes s₂ haddress
          have hthen := hasked.trans ⟨history, hrun⟩
          cases answer with
          | error error =>
            obtain ⟨rfl, rfl⟩ := Prod.mk.inj (Option.some.inj h)
            exact ⟨hthen, .failed⟩
          | ok txHash =>
            obtain ⟨rfl, rfl⟩ := Prod.mk.inj (Option.some.inj h)
            obtain ⟨t, ht, now, signers, hevent⟩ := happlied (Sdk.submitIssueVC_confirmed hanswer)
            obtain ⟨_, later, -, -, hstep, hrest⟩ := hrun.exists_around ht
            rw [hevent] at hstep
            have hholds := Network.credential_of_anchoring hstep
            exact ⟨hthen, .success hnames (Reaches.credential ⟨later, hrest⟩ hholds)⟩

/-! ## All rows -/

/-- The rows one after the other, if every request is answered. -/
def anchorAll (client : Client) (server : IdentityServer JsString σ) :
    List BatchEntry → σ → Option (List BatchResult × σ)
  | [], s => some ([], s)
  | entry :: rest, s => do
    let (status, s) ← anchorEntry client server entry s
    let (results, s) ← anchorAll client server rest s
    some (entry.result status :: results, s)

/-- The files are what these rows bring, up to each of them. -/
theorem anchorEntries_getElem? {entries : List BatchEntry} {results after : List BatchResult} {k : ℕ} :
    (anchorEntries client server entries results s)[k]? = some (after, s') ↔
      k < entries.length ∧ ∃ added, anchorAll client server (entries.take (k + 1)) s = some (added, s') ∧
        after = results ++ added := by
  induction entries generalizing results s k with
  | nil => simp [anchorEntries]
  | cons entry rest ih =>
    rw [anchorEntries, List.take_succ_cons, anchorAll]
    cases hentry : anchorEntry client server entry s with
    | none => simp
    | some row =>
      obtain ⟨status, s₁⟩ := row
      cases k with
      | zero =>
        simp only [List.getElem?_cons_zero, List.take_zero, anchorAll, Option.bind_eq_bind, Option.bind_some,
          Option.some.injEq, Prod.mk.injEq, List.length_cons, Nat.zero_lt_succ, true_and]
        constructor
        · rintro ⟨rfl, rfl⟩
          exact ⟨_, ⟨rfl, rfl⟩, rfl⟩
        · rintro ⟨_, ⟨rfl, rfl⟩, rfl⟩
          exact ⟨rfl, rfl⟩
      | succ k =>
        rw [List.getElem?_cons_succ, ih, List.length_cons, Nat.succ_lt_succ_iff]
        simp only [Option.bind_eq_bind, Option.bind_some, Option.bind_eq_some_iff, Option.some.injEq, Prod.mk.injEq,
          Prod.exists]
        refine and_congr_right fun _ => ?_
        constructor
        · rintro ⟨added, hadded, rfl⟩
          exact ⟨entry.result status :: added, ⟨added, s', hadded, rfl, rfl⟩, by rw [List.append_assoc]; rfl⟩
        · rintro ⟨_, ⟨added, _, hadded, rfl, rfl⟩, rfl⟩
          exact ⟨added, hadded, by rw [List.append_assoc]; rfl⟩

/-- There is a line for every row, whatever the server answers. -/
theorem anchorAll_lines {entries : List BatchEntry} {results : List BatchResult}
    (h : anchorAll client server entries s = some (results, s')) :
    List.Forall₂ (fun entry result => ∃ status, result = BatchEntry.result entry status) entries results := by
  induction entries generalizing s results with
  | nil =>
    obtain ⟨rfl, rfl⟩ := Prod.mk.inj (Option.some.inj h)
    exact .nil
  | cons entry rest ih =>
    obtain ⟨⟨status, s₁⟩, hentry, h⟩ := Option.bind_eq_some_iff.mp h
    obtain ⟨⟨others, s₂⟩, hrest, h⟩ := Option.bind_eq_some_iff.mp h
    obtain ⟨rfl, rfl⟩ := Prod.mk.inj (Option.some.inj h)
    exact .cons ⟨status, rfl⟩ (ih hrest)

/-- Every line holds at the end of the rows. -/
theorem anchorAll_vouched (hserver : Honest client world a issuer server) {entries : List BatchEntry}
    {results : List BatchResult} (h : anchorAll client server entries s = some (results, s')) :
    Reaches (world s) (world s') ∧ List.Forall₂ (fun entry result => ∃ status, result = entry.result status ∧
      Vouched client a issuer (world s) (world s') (world s') entry status) entries results := by
  induction entries generalizing s results with
  | nil =>
    obtain ⟨rfl, rfl⟩ := Prod.mk.inj (Option.some.inj h)
    exact ⟨.refl _, .nil⟩
  | cons entry rest ih =>
    obtain ⟨⟨status, s₁⟩, hentry, h⟩ := Option.bind_eq_some_iff.mp h
    obtain ⟨⟨others, s₂⟩, hrest, h⟩ := Option.bind_eq_some_iff.mp h
    obtain ⟨rfl, rfl⟩ := Prod.mk.inj (Option.some.inj h)
    obtain ⟨hfirst, hvouched⟩ := anchorEntry_vouched hserver hentry
    obtain ⟨hlater, hothers⟩ := ih hrest
    refine ⟨hfirst.trans hlater, .cons ⟨status, rfl, hvouched.mono (.refl _) hlater hlater⟩ ?_⟩
    refine hothers.imp ?_
    rintro other result ⟨status, hresult, hvouched⟩
    exact ⟨status, hresult, hvouched.mono hfirst (.refl _) (.refl _)⟩

/-- The rows up to an earlier one bring the same lines. -/
theorem anchorAll_take {entries : List BatchEntry} {results : List BatchResult} (j : ℕ)
    (h : anchorAll client server entries s = some (results, s')) :
    ∃ s₁, anchorAll client server (entries.take j) s = some (results.take j, s₁) ∧
      anchorAll client server (entries.drop j) s₁ = some (results.drop j, s') := by
  induction entries generalizing s results j with
  | nil =>
    obtain ⟨rfl, rfl⟩ := Prod.mk.inj (Option.some.inj h)
    exact ⟨s, by simp [anchorAll], by simp [anchorAll]⟩
  | cons entry rest ih =>
    cases j with
    | zero => exact ⟨s, by simp [anchorAll], h⟩
    | succ j =>
      obtain ⟨⟨status, s₁⟩, hentry, h⟩ := Option.bind_eq_some_iff.mp h
      obtain ⟨⟨others, s₂⟩, hrest, h⟩ := Option.bind_eq_some_iff.mp h
      obtain ⟨rfl, rfl⟩ := Prod.mk.inj (Option.some.inj h)
      obtain ⟨middle, htaken, hdropped⟩ := ih j hrest
      refine ⟨middle, ?_, hdropped⟩
      simp only [List.take_succ_cons, anchorAll, hentry, htaken, Option.bind_eq_bind, Option.bind_some]

/-- Whatever the server answers, and wherever the command stops: each file that it writes has a line for each
of the rows so far, in order, and begins with the lines of the earlier files. With an honest server, and
whoever else calls the contracts, the issuer has a record of every credential that is reported as a success,
and every credential that is reported as skipped was active at some moment of the command and is on record, in
every state of the network that follows. -/
theorem batchAnchorVc_vouches {delayMs : JsNumber} {file : Except String JsString} {entries : List BatchEntry}
    {written : List (List BatchResult × σ)}
    (h : batchAnchorVc client server delayMs file s = .ran entries written) {k : ℕ} {results : List BatchResult}
    (hfile : written[k]? = some (results, s')) :
    List.Forall₂ (fun entry result => ∃ status, result = BatchEntry.result entry status)
        (entries.take (k + 1)) results ∧
      (∀ j < k, ∃ s₁, written[j]? = some (results.take (j + 1), s₁) ∧
        (Honest client world a issuer server → Reaches (world s₁) (world s'))) ∧
      (Honest client world a issuer server → ∀ final, Reaches (world s') final →
        List.Forall₂ (fun entry result => ∃ status, result = BatchEntry.result entry status ∧
          Vouched client a issuer (world s) (world s') final entry status) (entries.take (k + 1)) results) := by
  obtain ⟨rfl, -⟩ := batchAnchorVc_ran h
  obtain ⟨hk, added, hall, hresults⟩ := anchorEntries_getElem?.mp hfile
  rw [List.nil_append] at hresults
  subst hresults
  refine ⟨anchorAll_lines hall, ?_, ?_⟩
  · intro j hj
    obtain ⟨s₁, htaken, hdropped⟩ := anchorAll_take (j + 1) hall
    rw [List.take_take, min_eq_left (by omega)] at htaken
    refine ⟨s₁, anchorEntries_getElem?.mpr ⟨by omega, _, htaken, (List.nil_append _).symm⟩, ?_⟩
    exact fun hserver => (anchorAll_vouched hserver hdropped).1
  · intro hserver final hfinal
    refine (anchorAll_vouched hserver hall).2.imp ?_
    rintro entry result ⟨status, hresult, hline⟩
    exact ⟨status, hresult, hline.mono (.refl _) (.refl _) hfinal⟩

/-! ## A server that answers at once -/

/-- A server in front of the network that nobody else uses. The issuer signs its transactions. -/
def promptServer (client : Client) (a issuer : Address) (refusal txHash : String) :
    IdentityServer JsString World where
  verifyVc subject vcHash w :=
    match client.toAddress subject with
    | .error _ => none
    | .ok x =>
      match w.verifyVc a x (BytesN.fromArray vcHash) with
      | some verdict => some (.returned (some verdict), w)
      | none => some (.simulationError refusal, w)
  anchorVc subject vcHash type w :=
    match client.toAddress subject, type with
    | .ok x, none =>
      match w.next (.invoke w.ledger [issuer] a
        (.identityOracle (.anchorVc issuer x (BytesN.fromArray vcHash)))) with
      | some w' => (Sdk.appliedAnswers txHash, w')
      | none => (Sdk.refusedAnswers refusal, w)
    | _, _ => (Sdk.refusedAnswers refusal, w)

/-- The server that answers at once is honest. -/
theorem honest_promptServer (client : Client) (a issuer : Address) (refusal txHash : String) :
    Honest client id a issuer (promptServer client a issuer refusal txHash) where
  verifyVc subject x vcHash w response w' haddress h := by
    simp only [promptServer, haddress] at h
    cases hverdict : w.verifyVc a x (BytesN.fromArray vcHash) with
    | none =>
      rw [hverdict] at h
      obtain ⟨rfl, rfl⟩ := Prod.mk.inj (Option.some.inj h)
      exact ⟨w, .refl _, .refl _, fun verdict hnone => nomatch hnone⟩
    | some verdict =>
      rw [hverdict] at h
      obtain ⟨rfl, rfl⟩ := Prod.mk.inj (Option.some.inj h)
      refine ⟨w, .refl _, .refl _, ?_⟩
      rintro _ ⟨⟩
      exact hverdict
  anchorVc subject x vcHash w haddress := by
    simp only [promptServer, haddress]
    cases hnext : w.next (.invoke w.ledger [issuer] a
        (.identityOracle (.anchorVc issuer x (BytesN.fromArray vcHash)))) with
    | none =>
      refine ⟨[], .nil, ?_⟩
      rintro ⟨poll, hpoll, -⟩
      exact absurd hpoll List.not_mem_nil
    | some w' =>
      exact ⟨[_], Run.nil.snoc hnext, fun _ => ⟨_, List.mem_singleton_self _, w.ledger, [issuer], rfl⟩⟩

/-- The address of the sample subject. -/
def sampleSubject : JsString :=
  "GAAAAAAAAAAAAAAAAAAAAAAAAAAAAAAAAAAAAAAAAAAAAAAAAAAAGO6V".toList.map CodeUnit.ofChar

def sampleClient : Client where
  toAddress subject := if subject = sampleSubject then .ok (.account 3) else .error "Unsupported address type"
  maxRetries := 3

/-- A file with the hash that the sample deployment has anchored, another one, and a row with no address. -/
def sampleFile : JsString :=
  ["subject,vc_hash_hex,credential_type",
    "GAAAAAAAAAAAAAAAAAAAAAAAAAAAAAAAAAAAAAAAAAAAAAAAAAAAGO6V," ++
      "0000000000000000000000000000000000000000000000000000000000000007,kyc",
    "gaaaaaaaaaaaaaaaaaaaaaaaaaaaaaaaaaaaaaaaaaaaaaaaaaaago6v," ++
      "0000000000000000000000000000000000000000000000000000000000000008,kyc",
    "alice,0000000000000000000000000000000000000000000000000000000000000009,kyc"].flatMap
      fun line => line.toList.map CodeUnit.ofChar ++ [lineFeed]

/-- The server in front of the sample deployment. -/
def sampleServer : IdentityServer JsString World :=
  promptServer sampleClient (.contract 21) (.account 2) "" "hash"

/-- How the rows have ended in the file that is written after row `k`. -/
def CommandOutcome.statuses (k : ℕ) : CommandOutcome σ → Option (List BatchStatus)
  | .refused _ => none
  | .ran _ written => written[k]?.map fun file => file.1.map (·.status)

/-- The statuses of a file are those of its lines. -/
theorem CommandOutcome.statuses_eq_some {outcome : CommandOutcome σ} {k : ℕ} {ends : List BatchStatus}
    (h : outcome.statuses k = some ends) : ∃ entries written results s, outcome = .ran entries written ∧
      written[k]? = some (results, s) ∧ results.map (·.status) = ends := by
  cases outcome with
  | refused message => cases h
  | ran entries written =>
    obtain ⟨⟨results, s⟩, hfile, hends⟩ := Option.map_eq_some_iff.mp h
    exact ⟨entries, written, results, s, rfl, hfile, hends⟩

/-- The first row is skipped, the second one succeeds, and the third one fails. -/
theorem sampleFile_run : ∃ history w k entries written results w', Run Step (.genesis (.numbered 0)) history w ∧
    w.contracts (.contract 21) = some (.identityOracle k) ∧
    batchAnchorVc sampleClient sampleServer (.finite 200) (.ok sampleFile) w = .ran entries written ∧
    written[2]? = some (results, w') ∧
    results.map (·.status) =
      [.skipped, .success "hash", .failed "subject must be a valid Stellar G... address"] := by
  obtain ⟨history, w, hrun, hobserved⟩ := Run.exists_of_replay
    (show (replay World.next (.genesis (.numbered 0)) (Network.sampleDeployment (.numbered 0))).map
        (fun r => ((batchAnchorVc sampleClient sampleServer (.finite 200) (.ok sampleFile) r.2).statuses 2,
          Network.onIdentity [] r.2.contracts (.contract 21) fun _ => some ())) =
      some (some [.skipped, .success "hash", .failed "subject must be a valid Stellar G... address"], some ())
      from by decide +kernel)
  obtain ⟨hlast, hdeployed⟩ := Prod.mk.inj hobserved
  obtain ⟨-, k, hk, -⟩ := Network.onIdentity_eq_some.mp hdeployed
  obtain ⟨entries, written, results, w', hran, hfile, hstatuses⟩ := CommandOutcome.statuses_eq_some hlast
  exact ⟨history, w, k, entries, written, results, w', hrun, hk, hran, hfile, hstatuses⟩

/-- The lines about the sample file hold. -/
theorem batchAnchorVc_vouches_sample : ∃ w entries w', ∃ results : List BatchResult,
    results.map (·.status) =
      [.skipped, .success "hash", .failed "subject must be a valid Stellar G... address"] ∧
    List.Forall₂ (fun entry result => ∃ status, result = BatchEntry.result entry status ∧
      Vouched sampleClient (.contract 21) (.account 2) w w' w' entry status) (List.take 3 entries) results := by
  obtain ⟨history, w, k, entries, written, results, w', -, -, hran, hfile, hstatuses⟩ := sampleFile_run
  obtain ⟨-, -, hvouched⟩ := batchAnchorVc_vouches hran hfile
  exact ⟨w, entries, w', results, hstatuses,
    hvouched (honest_promptServer sampleClient (.contract 21) (.account 2) "" "hash") _ (.refl _)⟩

end StellarDidCredit.Cli
