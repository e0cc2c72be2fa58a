import StellarDidCredit.Cli.Vouching
import StellarDidCredit.Network.Admission

/-!
# Running the command again

With a server that answers at once, and as long as nobody else calls the contracts, a row is settled as soon as
it has been processed: what is active stays active, what is on record stays on record, and what was refused is
refused again, because the rows in between only take away room. A second run over the same file therefore
leaves the contracts as the first one did, also when the first one was interrupted.
-/

namespace StellarDidCredit.Cli

open Network (World Contracts Move Step Reaches TakesFrom HasRecord HasActive stateAfter anchoringOf)
open IdentityOracle (Room)
open Sdk (IdentityServer JsNumber verifyVC issueVC getErrorMessage appliedAnswers refusedAnswers)

variable {σ : Type} {client : Client} {server : IdentityServer JsString σ} {world : σ → World}
  {a issuer x y : Address} {vcHash hash : BytesN 32} {s s' : σ} {w w' : World} {k : IdentityOracle.State}
  {entry other : BatchEntry} {status status' : BatchStatus} {ledger now : Ledger} {history : List Move}

/-! ## Settled rows -/

/-- In this state of the contracts a row for the hash ends like this, and leaves them as they are. -/
inductive Settles (contracts : Contracts) (k : IdentityOracle.State) (issuer x : Address) (vcHash : BytesN 32) :
    BatchStatus → Prop
  | skipped (hactive : HasActive contracts k x vcHash) : Settles contracts k issuer x vcHash .skipped
  | success {txHash : String} (htakes : TakesFrom contracts k issuer) (hhas : HasRecord k issuer x vcHash) :
      Settles contracts k issuer x vcHash (.success txHash)
  | failed {error : String} (hactive : ¬HasActive contracts k x vcHash)
      (hrefuses : ¬(TakesFrom contracts k issuer ∧
        (HasRecord k issuer x vcHash ∨ Room (Network.statusOf contracts k) k x vcHash))) :
      Settles contracts k issuer x vcHash (.failed error)

/-- The anchoring of another row changes nothing about it. -/
theorem Settles.step (h : Settles w.contracts k issuer y hash status)
    (hrun : Run Step (.genesis ledger) history w) (hk : w.contracts a = some (.identityOracle k))
    (hstep : Step w (anchoringOf now a issuer x vcHash) w') :
    ∃ k', w'.contracts a = some (.identityOracle k') ∧ Settles w'.contracts k' issuer y hash status := by
  obtain ⟨-, htakes, ⟨-, rfl⟩ | ⟨hnot, hroom, rfl⟩⟩ := (Network.anchoring_iff hrun hk).mp hstep
  · exact ⟨k, hk, h⟩
  · refine ⟨_, Storage.set_self _ _ _, ?_⟩
    cases h with
    | skipped hactive => exact .skipped ((Network.hasActive_stateAfter hk).mpr (Or.inl hactive))
    | success htakes hhas =>
      exact .success ((Network.takesFrom_stateAfter hk).mpr htakes) (Network.hasRecord_stateAfter.mpr (Or.inl hhas))
    | failed hactive hrefuses =>
      have hother : ¬(y = x ∧ hash = vcHash) := by
        rintro ⟨rfl, rfl⟩
        exact hrefuses ⟨htakes, Or.inr hroom⟩
      refine .failed ?_ ?_
      · rw [Network.hasActive_stateAfter hk]
        rintro (hold | ⟨rfl, rfl, -⟩)
        · exact hactive hold
        · exact hother ⟨rfl, rfl⟩
      · rw [Network.takesFrom_stateAfter hk, Network.hasRecord_stateAfter, Network.statusOf_stateAfter hk]
        rintro ⟨htakes, (hold | hnew) | hleft⟩
        · exact hrefuses ⟨htakes, Or.inl hold⟩
        · exact hother hnew
        · exact hrefuses ⟨htakes, Or.inr hleft.before⟩

/-- A row that names nothing has failed; any other one is settled for what it names. -/
def Settled (client : Client) (a issuer : Address) (contracts : Contracts) (entry : BatchEntry)
    (status : BatchStatus) : Prop :=
  ((∀ x vcHash, ¬client.Names entry x vcHash) ∧ ∃ error, status = .failed error) ∨
  ∃ x vcHash k, client.Names entry x vcHash ∧ contracts a = some (.identityOracle k) ∧
    Settles contracts k issuer x vcHash status

/-- A row names one subject and one hash. -/
theorem Client.Names.eq (h : client.Names entry x vcHash) (h' : client.Names entry y hash) :
    x = y ∧ vcHash = hash := by
  obtain ⟨upperSubject, bytes, hread, haddress, rfl⟩ := h
  obtain ⟨upperSubject', bytes', hread', haddress', rfl⟩ := h'
  obtain ⟨rfl, rfl⟩ := Prod.mk.inj (Except.ok.inj (hread.symm.trans hread'))
  exact ⟨Except.ok.inj (haddress.symm.trans haddress'), rfl⟩

/-! ## A prompt server -/

/-- The server answers at once, the issuer signs, and nobody else calls the contracts. -/
structure Prompt (client : Client) (world : σ → World) (a issuer : Address)
    (server : IdentityServer JsString σ) : Prop where
  verifyVc : ∀ subject x vcHash s verdict, client.toAddress subject = .ok x →
    (world s).verifyVc a x (BytesN.fromArray vcHash) = some verdict →
    ∃ s', server.verifyVc subject vcHash s = some (.returned (some verdict), s') ∧ world s' = world s
  anchorVc : ∀ subject x vcHash s, client.toAddress subject = .ok x →
    ∃ now, (world s).ledger.NotAfter now ∧
      ((∃ txHash, (server.anchorVc subject vcHash none s).1 = appliedAnswers txHash ∧
          Step (world s) (anchoringOf now a issuer x (BytesN.fromArray vcHash))
            (world (server.anchorVc subject vcHash none s).2)) ∨
        (∃ text, (server.anchorVc subject vcHash none s).1 = refusedAnswers text ∧
          (∀ w', ¬Step (world s) (anchoringOf now a issuer x (BytesN.fromArray vcHash)) w') ∧
          world (server.anchorVc subject vcHash none s).2 = world s))

/-- What one row does. -/
inductive Row (client : Client) (a issuer : Address) (w w' : World) (k : IdentityOracle.State)
    (entry : BatchEntry) : BatchStatus → Prop
  | unnamed {error : String} (hnot : ∀ x vcHash, ¬client.Names entry x vcHash) (hsame : w' = w) :
      Row client a issuer w w' k entry (.failed error)
  | skipped {x : Address} {vcHash : BytesN 32} (hnames : client.Names entry x vcHash)
      (hactive : HasActive w.contracts k x vcHash) (hsame : w' = w) : Row client a issuer w w' k entry .skipped
  | applied {x : Address} {vcHash : BytesN 32} {now : Ledger} {txHash : String}
      (hnames : client.Names entry x vcHash) (hactive : ¬HasActive w.contracts k x vcHash)
      (hstep : Step w (anchoringOf now a issuer x vcHash) w') :
      Row client a issuer w w' k entry (.success txHash)
  | refused {x : Address} {vcHash : BytesN 32} {error : String} (hnames : client.Names entry x vcHash)
      (hactive : ¬HasActive w.contracts k x vcHash)
      (hrefuses : ¬(TakesFrom w.contracts k issuer ∧
        (HasRecord k issuer x vcHash ∨ Room (Network.statusOf w.contracts k) k x vcHash))) (hsame : w' = w) :
      Row client a issuer w w' k entry (.failed error)

/-- A prompt server answers every row. -/
theorem anchorEntry_prompt (hserver : Prompt client world a issuer server)
    (hrun : Run Step (.genesis ledger) history (world s))
    (hk : (world s).contracts a = some (.identityOracle k)) (entry : BatchEntry) :
    ∃ status s', anchorEntry client server entry s = some (status, s') ∧
      Row client a issuer (world s) (world s') k entry status := by
  cases hread : readRow entry with
  | error message =>
    refine ⟨.failed message, s, by rw [anchorEntry, hread], .unnamed ?_ rfl⟩
    rintro x vcHash ⟨upperSubject, bytes, hread', -⟩
    cases hread.symm.trans hread'
  | ok row =>
    obtain ⟨upperSubject, bytes⟩ := row
    have hlength := length_of_readRow hread
    cases haddress : client.toAddress upperSubject with
    | error message =>
      refine ⟨.failed message, s, ?_, .unnamed ?_ rfl⟩
      · simp only [anchorEntry, hread, verifyVC, hlength, haddress, ne_eq, not_true, if_false, Option.bind_eq_bind,
          Option.bind_some, getErrorMessage]
      · rintro x vcHash ⟨upperSubject', bytes', hread', haddress', -⟩
        obtain ⟨rfl, rfl⟩ := Prod.mk.inj (Except.ok.inj (hread.symm.trans hread'))
        cases haddress.symm.trans haddress'
    | ok x =>
      have hnames : client.Names entry x (BytesN.fromArray bytes) := ⟨upperSubject, bytes, hread, haddress, rfl⟩
      obtain ⟨verdict, hverdict, hactive⟩ := Network.verifyVc_eq_some x (BytesN.fromArray bytes) hrun hk
      obtain ⟨s₁, hanswered, hsame⟩ := hserver.verifyVc upperSubject x bytes s verdict haddress hverdict
      have hverified : verifyVC client.toAddress server upperSubject bytes s = some (.ok verdict, s₁) := by
        rw [Sdk.verifyVC_sent hlength haddress, hanswered]
        rfl
      cases verdict with
      | true =>
        refine ⟨.skipped, s₁, ?_, .skipped hnames (hactive.mp rfl) hsame⟩
        simp only [anchorEntry, hread, hverified, Option.bind_eq_bind, Option.bind_some]
      | false =>
        have hnot : ¬HasActive (world s).contracts k x (BytesN.fromArray bytes) :=
          fun hnow => Bool.false_ne_true (hactive.mpr hnow)
        obtain ⟨now, hnow, hcases⟩ := hserver.anchorVc upperSubject x bytes s₁ haddress
        rw [hsame] at hnow hcases
        rcases hcases with ⟨txHash, hanswers, hstep⟩ | ⟨text, hanswers, hnever, hquiet⟩
        · refine ⟨.success txHash, _, ?_, .applied hnames hnot hstep⟩
          simp only [anchorEntry, hread, hverified, Option.bind_eq_bind, Option.bind_some,
            Sdk.issueVC_applied hlength haddress hanswers]
        · refine ⟨.failed (getErrorMessage (.contractError (Sdk.throwContractError text .identityOracle))), _, ?_,
            .refused hnames hnot ?_ hquiet⟩
          · simp only [anchorEntry, hread, hverified, Option.bind_eq_bind, Option.bind_some,
              Sdk.issueVC_refused hlength haddress hanswers]
          · rintro ⟨htakes, hcan⟩
            by_cases hhas : HasRecord k issuer x (BytesN.fromArray bytes)
            · exact hnever _ ((Network.anchoring_iff hrun hk).mpr ⟨hnow, htakes, Or.inl ⟨hhas, rfl⟩⟩)
            · exact hnever _ ((Network.anchoring_iff hrun hk).mpr
                ⟨hnow, htakes, Or.inr ⟨hhas, hcan.resolve_left hhas, rfl⟩⟩)

/-- Afterwards the row is settled. -/
theorem Row.settled (h : Row client a issuer w w' k entry status) (hrun : Run Step (.genesis ledger) history w)
    (hk : w.contracts a = some (.identityOracle k)) : Settled client a issuer w'.contracts entry status := by
  cases h with
  | unnamed hnot hsame => exact Or.inl ⟨hnot, _, rfl⟩
  | @skipped x vcHash hnames hactive hsame =>
    subst hsame
    exact Or.inr ⟨x, vcHash, k, hnames, hk, .skipped hactive⟩
  | @applied x vcHash now txHash hnames hactive hstep =>
    obtain ⟨-, htakes, ⟨hhas, rfl⟩ | ⟨-, -, rfl⟩⟩ := (Network.anchoring_iff hrun hk).mp hstep
    · exact Or.inr ⟨x, vcHash, k, hnames, hk, .success htakes hhas⟩
    · exact Or.inr ⟨x, vcHash, _, hnames, Storage.set_self _ _ _, .success
        ((Network.takesFrom_stateAfter hk).mpr htakes) (Network.hasRecord_stateAfter.mpr (Or.inr ⟨rfl, rfl⟩))⟩
  | @refused x vcHash error hnames hactive hrefuses hsame =>
    subst hsame
    exact Or.inr ⟨x, vcHash, k, hnames, hk, .failed hactive hrefuses⟩

/-- A row leaves the other ones settled. -/
theorem Row.keeps (h : Row client a issuer w w' k entry status) (hrun : Run Step (.genesis ledger) history w)
    (hsettled : Settled client a issuer w.contracts other status') :
    Settled client a issuer w'.contracts other status' := by
  cases h with
  | unnamed hnot hsame => exact hsame ▸ hsettled
  | skipped hnames hactive hsame => exact hsame ▸ hsettled
  | refused hnames hactive hrefuses hsame => exact hsame ▸ hsettled
  | applied hnames hactive hstep =>
    rcases hsettled with hunnamed | ⟨y, hash, k, hnames, hk, hsettles⟩
    · exact Or.inl hunnamed
    · obtain ⟨k', hk', hsettles'⟩ := hsettles.step hrun hk hstep
      exact Or.inr ⟨y, hash, k', hnames, hk', hsettles'⟩

/-- The network goes on from where it was, and the identity oracle is still there. -/
theorem Row.goesOn (h : Row client a issuer w w' k entry status) (hrun : Run Step (.genesis ledger) history w)
    (hk : w.contracts a = some (.identityOracle k)) :
    ∃ history' k', Run Step (.genesis ledger) history' w' ∧ w'.contracts a = some (.identityOracle k') := by
  cases h with
  | unnamed hnot hsame => exact ⟨history, k, hsame ▸ hrun, hsame ▸ hk⟩
  | skipped hnames hactive hsame => exact ⟨history, k, hsame ▸ hrun, hsame ▸ hk⟩
  | refused hnames hactive hrefuses hsame => exact ⟨history, k, hsame ▸ hrun, hsame ▸ hk⟩
  | applied hnames hactive hstep =>
    obtain ⟨k', hk', -⟩ := Network.identity_called hstep hk
    exact ⟨_, k', hrun.snoc hstep, hk'⟩

/-! ## The second time -/

/-- How a row that ended like this ends the next time: what succeeded is skipped, or succeeds without effect
where the record of the issuer is revoked. -/
inductive Repeats : BatchStatus → BatchStatus → Prop
  | skipped : Repeats .skipped .skipped
  | done {txHash : String} : Repeats (.success txHash) .skipped
  | again {txHash txHash' : String} : Repeats (.success txHash) (.success txHash')
  | failed {error error' : String} : Repeats (.failed error) (.failed error')

/-- A settled row repeats its end and changes nothing. -/
theorem Row.again (h : Row client a issuer w w' k entry status') (hrun : Run Step (.genesis ledger) history w)
    (hk : w.contracts a = some (.identityOracle k)) (hsettled : Settled client a issuer w.contracts entry status) :
    w'.contracts = w.contracts ∧ Repeats status status' := by
  rcases hsettled with ⟨hnot, error, rfl⟩ | ⟨x, vcHash, k', hnames, hk', hsettles⟩
  · cases h with
    | unnamed hnot' hsame => exact ⟨congrArg World.contracts hsame, .failed⟩
    | skipped hnames => exact absurd hnames (hnot _ _)
    | applied hnames => exact absurd hnames (hnot _ _)
    | refused hnames => exact absurd hnames (hnot _ _)
  · cases hk.symm.trans hk'
    cases h with
    | unnamed hnot => exact absurd hnames (hnot x vcHash)
    | skipped hnames' hactive hsame =>
      obtain ⟨rfl, rfl⟩ := hnames.eq hnames'
      refine ⟨congrArg World.contracts hsame, ?_⟩
      cases hsettles with
      | skipped => exact .skipped
      | success => exact .done
      | failed hnone => exact absurd hactive hnone
    | applied hnames' hactive hstep =>
      obtain ⟨rfl, rfl⟩ := hnames.eq hnames'
      obtain ⟨-, htakes, hcases⟩ := (Network.anchoring_iff hrun hk).mp hstep
      cases hsettles with
      | skipped hnow => exact absurd hnow hactive
      | success htakes hhas =>
        obtain ⟨-, rfl⟩ | ⟨hnot, -⟩ := hcases
        · exact ⟨rfl, .again⟩
        · exact absurd hhas hnot
      | failed hnone hrefuses =>
        refine absurd ⟨htakes, ?_⟩ hrefuses
        rcases hcases with ⟨hhas, -⟩ | ⟨-, hroom, -⟩
        · exact Or.inl hhas
        · exact Or.inr hroom
    | refused hnames' hactive hrefuses hsame =>
      obtain ⟨rfl, rfl⟩ := hnames.eq hnames'
      refine ⟨congrArg World.contracts hsame, ?_⟩
      cases hsettles with
      | skipped hnow => exact absurd hnow hactive
      | success htakes hhas => exact absurd ⟨htakes, Or.inl hhas⟩ hrefuses
      | failed => exact .failed

/-- A prompt server answers all rows, and at the end all of them are settled. -/
theorem anchorAll_prompt (hserver : Prompt client world a issuer server) (entries : List BatchEntry)
    (hrun : Run Step (.genesis ledger) history (world s))
    (hk : (world s).contracts a = some (.identityOracle k)) :
    ∃ results s', anchorAll client server entries s = some (results, s') ∧
      (∃ history' k', Run Step (.genesis ledger) history' (world s') ∧
        (world s').contracts a = some (.identityOracle k')) ∧
      (∀ other status, Settled client a issuer (world s).contracts other status →
        Settled client a issuer (world s').contracts other status) ∧
      List.Forall₂ (fun entry result => Settled client a issuer (world s').contracts entry result.status)
        entries results := by
  induction entries generalizing s history k with
  | nil => exact ⟨[], s, rfl, ⟨history, k, hrun, hk⟩, fun _ _ hsettled => hsettled, .nil⟩
  | cons entry rest ih =>
    obtain ⟨status, s₁, hentry, hrow⟩ := anchorEntry_prompt hserver hrun hk entry
    obtain ⟨history₁, k₁, hrun₁, hk₁⟩ := hrow.goesOn hrun hk
    obtain ⟨results, s₂, hrest, hgoesOn, hkeeps, hsettled⟩ := ih hrun₁ hk₁
    refine ⟨entry.result status :: results, s₂, ?_, hgoesOn, fun other status hother => ?_, .cons ?_ hsettled⟩
    · simp only [anchorAll, hentry, hrest, Option.bind_eq_bind, Option.bind_some]
    · exact hkeeps other status (hrow.keeps hrun hother)
    · exact hkeeps entry status (hrow.settled hrun hk)

/-- Rows that are settled all repeat their ends and change nothing. -/
theorem anchorAll_again (hserver : Prompt client world a issuer server) {entries : List BatchEntry}
    {results : List BatchResult} (hrun : Run Step (.genesis ledger) history (world s))
    (hk : (world s).contracts a = some (.identityOracle k))
    (hsettled : List.Forall₂ (fun entry result => Settled client a issuer (world s).contracts entry result.status)
      entries results) :
    ∃ results' s', anchorAll client server entries s = some (results', s') ∧
      (world s').contracts = (world s).contracts ∧
      List.Forall₂ (fun result result' => Repeats result.status result'.status) results results' := by
  induction entries generalizing s history k results with
  | nil =>
    cases hsettled
    exact ⟨[], s, rfl, rfl, .nil⟩
  | cons entry rest ih =>
    cases hsettled with
    | @cons _ result _ others hfirst hothers =>
      obtain ⟨status, s₁, hentry, hrow⟩ := anchorEntry_prompt hserver hrun hk entry
      obtain ⟨hsame, hrepeats⟩ := hrow.again hrun hk hfirst
      obtain ⟨history₁, k₁, hrun₁, hk₁⟩ := hrow.goesOn hrun hk
      rw [← hsame] at hothers
      obtain ⟨results', s₂, hrest, hsame', hrepeat⟩ := ih hrun₁ hk₁ hothers
      refine ⟨entry.result status :: results', s₂, ?_, hsame'.trans hsame, .cons hrepeats hrepeat⟩
      simp only [anchorAll, hentry, hrest, Option.bind_eq_bind, Option.bind_some]

/-- As long as nobody else calls the contracts, and with a server that answers at once: the command goes
through all rows of its file. If it is run again after any of its rows, over the same file, the rows that it had
done leave the contracts as they are. What was skipped is skipped again, what succeeded does not fail now, and
what failed fails again. -/
theorem batchAnchorVc_again (hserver : Prompt client world a issuer server)
    (hrun : Run Step (.genesis ledger) history (world s)) (hk : (world s).contracts a = some (.identityOracle k))
    {delayMs : JsNumber} {file : Except String JsString} {entries : List BatchEntry}
    {written : List (List BatchResult × σ)}
    (h : batchAnchorVc client server delayMs file s = .ran entries written) :
    (∀ n < entries.length, ∃ (results : List BatchResult) (s₁ : σ), written[n]? = some (results, s₁)) ∧
    ∀ (n : ℕ) (results : List BatchResult) (s₁ s₂ : σ), written[n]? = some (results, s₁) → world s₂ = world s₁ →
      ∃ written', batchAnchorVc client server delayMs file s₂ = .ran entries written' ∧
        ∀ j ≤ n, ∃ results' s₃, written'[j]? = some (results', s₃) ∧
          (world s₃).contracts = (world s₁).contracts ∧
          List.Forall₂ (fun result result' => Repeats result.status result'.status) (results.take (j + 1))
            results' := by
  obtain ⟨rfl, hran⟩ := batchAnchorVc_ran h
  constructor
  · intro n hn
    obtain ⟨results, s₁, hall, -⟩ := anchorAll_prompt hserver (entries.take (n + 1)) hrun hk
    exact ⟨results, s₁, anchorEntries_getElem?.mpr ⟨hn, results, hall, (List.nil_append _).symm⟩⟩
  · intro n results s₁ s₂ hfile hquiet
    obtain ⟨hn, added, hadded, hresults⟩ := anchorEntries_getElem?.mp hfile
    rw [List.nil_append] at hresults
    subst hresults
    obtain ⟨results, s₁', hall, ⟨history₁, k₁, hrun₁, hk₁⟩, -, hsettled⟩ :=
      anchorAll_prompt hserver (entries.take (n + 1)) hrun hk
    obtain ⟨rfl, rfl⟩ := Prod.mk.inj (Option.some.inj (hall.symm.trans hadded))
    rw [← hquiet] at hrun₁ hk₁ hsettled
    refine ⟨_, hran s₂, fun j hj => ?_⟩
    have hearlier := List.forall₂_take (j + 1) hsettled
    rw [List.take_take, min_eq_left (by omega)] at hearlier
    obtain ⟨results', s₃, hagain, hsame, hrepeats⟩ := anchorAll_again hserver hrun₁ hk₁ hearlier
    exact ⟨results', s₃, anchorEntries_getElem?.mpr ⟨by omega, results', hagain, (List.nil_append _).symm⟩,
      hquiet ▸ hsame, hrepeats⟩

/-! ## A second run of the sample file -/

/-- The server that answers at once is prompt. -/
theorem prompt_promptServer (client : Client) (a issuer : Address) (refusal txHash : String) :
    Prompt client id a issuer (promptServer client a issuer refusal txHash) where
  verifyVc subject x vcHash w verdict haddress hverdict := by
    have hknown : w.verifyVc a x (BytesN.fromArray vcHash) = some verdict := hverdict
    exact ⟨w, by simp only [promptServer, haddress, hknown], rfl⟩
  anchorVc subject x vcHash w haddress := by
    refine ⟨w.ledger, .refl w.ledger, ?_⟩
    simp only [promptServer, haddress]
    cases hnext : w.next (anchoringOf w.ledger a issuer x (BytesN.fromArray vcHash)) with
    | none =>
      refine Or.inr ⟨refusal, rfl, ?_, rfl⟩
      intro w' hstep
      cases hnext.symm.trans hstep
    | some w' => exact Or.inl ⟨txHash, rfl, hnext⟩

/-- After all three rows, a second run leaves the contracts as they are. -/
theorem batchAnchorVc_again_sample : ∃ entries written' w₁ w₂, ∃ results results' : List BatchResult,
    results.map (·.status) =
      [.skipped, .success "hash", .failed "subject must be a valid Stellar G... address"] ∧
    batchAnchorVc sampleClient sampleServer (.finite 200) (.ok sampleFile) w₁ = .ran entries written' ∧
    written'[2]? = some (results', w₂) ∧ w₂.contracts = w₁.contracts ∧
    List.Forall₂ (fun result result' => Repeats result.status result'.status) (results.take 3) results' := by
  obtain ⟨history, w, k, entries, written, results, w₁, hrun, hk, hran, hfile, hstatuses⟩ := sampleFile_run
  obtain ⟨-, hagain⟩ := batchAnchorVc_again
    (prompt_promptServer sampleClient (.contract 21) (.account 2) "" "hash") hrun hk hran
  obtain ⟨written', hran', hall⟩ := hagain 2 results w₁ w₁ hfile rfl
  obtain ⟨results', w₂, hfile', hsame, hrepeats⟩ := hall 2 le_rfl
  exact ⟨entries, written', w₁, w₂, results, results', hstatuses, hran', hfile', hsame, hrepeats⟩

end StellarDidCredit.Cli
