import Mathlib.Algebra.Order.BigOperators.Group.List
import StellarDidCredit.CreditOracle.Points
import StellarDidCredit.Network.Standalone
import StellarDidCredit.Network.Freshness

/-!
# The score before and after an anchoring

A credential is labelled by its hash, and the label of a hash is shared by the records of all
issuers. An anchoring appends a record and writes the label of its hash, so the records that
other issuers anchored under the same hash are scored by the new label from then on. The score
drops when their loss exceeds what the new record adds, unless the division that averages the
components drops the difference.
-/

namespace StellarDidCredit.IdentityOracle

/-- The label that an anchoring call writes. -/
def Call.anchoredType : Call → CredentialType
  | .anchorVcTyped _ _ _ credentialType => credentialType
  | _ => genericCredentialType

/-- Both anchoring calls are `anchor_vc_typed` with that label. -/
theorem exec_anchoring {κ : Type} {host : Host κ} {env : Env} {call : Call} {s s' : State} {world world' : κ}
    {issuer subject : Address} {vcHash : BytesN 32} (hcall : call.anchoring = some (issuer, subject, vcHash))
    (h : exec host env call s world = .ok (s', world')) :
    anchorVcTyped host env issuer subject vcHash call.anchoredType s world = .ok s' ∧ world' = world := by
  cases call with
  | anchorVc =>
    cases hcall
    exact alone_eq_ok.mp h
  | anchorVcTyped =>
    cases hcall
    exact alone_eq_ok.mp h
  | _ => cases hcall

end StellarDidCredit.IdentityOracle

namespace StellarDidCredit.Network

open IdentityOracle (activeOf anchorsOf anchorRecord getVcCredentialType)
open CreditOracle (linkedPoints)

variable {w w' : World} {a c x issuer : Address} {s s' : IdentityOracle.State} {k : CreditOracle.State}
  {ledger now : Ledger} {history : List Move} {vcHash : BytesN 32} {signers : List Address} {v : ℕ}

/-! ## The score without the cooldown -/

/-- The score that `compute_score` returns in a ledger, the cooldown aside. -/
def World.scoreAt (w : World) (now : Ledger) (c x : Address) : Option ℕ :=
  onCredit [] w.contracts c fun k =>
    (CreditOracle.computeScore (creditHost (.signedBy now c []) [c]) (.signedBy now c []) x
      { k with computeCooldownLedgers := none } w.contracts).toOption.map (·.1)

/-- It is the score that a computation returns, when the cooldown lets it start. -/
theorem scoreAt_of_computeScore (h : w.computeScore now c x = some (v, w')) : w.scoreAt now c x = some v := by
  simp only [World.computeScore, onCredit_eq_some, Option.bind_eq_bind, Option.bind_eq_some_iff,
    Outcome.toOption_eq_some, Option.some.injEq, Prod.mk.injEq] at h
  obtain ⟨-, k, hk, ⟨_, k'⟩, hcompute, rfl, -⟩ := h
  obtain ⟨k'', hfree⟩ := CreditOracle.computeScore_without_cooldown hcompute
  refine onCredit_eq_some.mpr ⟨by simp, k, hk, ?_⟩
  rw [hfree]
  rfl

/-- The records that a credit oracle is told of. -/
def activeRecordsOf (w : World) (s : IdentityOracle.State) (x : Address) : List IdentityVCRecord :=
  activeOf (statusOf w.contracts s) (anchorsOf s x)

/-- In a reachable state an identity oracle answers every call of a credit oracle. -/
theorem answers_reachable (hrun : Run Step (.genesis ledger) history w)
    (hk : w.contracts c = some (.creditOracle k)) (hs : w.contracts a = some (.identityOracle s))
    (hfew : (activeRecordsOf w s x).length ≤ U32.max) :
    CreditOracle.Answers (creditHost (.signedBy now c []) [c]) w.contracts a x
      (IdentityOracle.isDeactivated s x) (activeRecordsOf w s x) (getVcCredentialType s x) := by
  have hfree : a ∉ [c] := by
    intro hmem
    rw [List.mem_singleton.mp hmem] at hs
    cases hs.symm.trans hk
  have hbusy : ∀ b ∈ [a, c], registryAt w.contracts b = none := by
    simp [registryAt_identity hs, registryAt_credit hk]
  have hdeployed := fun r (hr : s.revocationRegistryId = some r) => linkedRegistry_deployed hrun hs hr
  refine ⟨?_, ?_, ?_, ?_, hfew⟩
  · exact onIdentity_eq_some.mpr ⟨hfree, s, hs, rfl⟩
  · refine onIdentity_eq_some.mpr ⟨hfree, s, hs, ?_⟩
    rw [getVcDetails_query hbusy hdeployed]
    rfl
  · intro record hmem
    obtain ⟨hanchored, hactive⟩ := List.mem_filter.mp hmem
    refine onIdentity_eq_some.mpr ⟨hfree, s, hs, ?_⟩
    rw [verifyVc_query hbusy hdeployed, List.any_eq_true.mpr ⟨record, hanchored, by simp [hactive]⟩]
    rfl
  · intro record hmem
    exact onIdentity_eq_some.mpr ⟨hfree, s, hs, rfl⟩

/-- The points of the subject's active records. -/
def pointsOf (w : World) (now : Ledger) (k : CreditOracle.State) (s : IdentityOracle.State)
    (c x : Address) : ℕ :=
  linkedPoints (.signedBy now c []) k (getVcCredentialType s x) (activeRecordsOf w s x)

/-- The score in a reachable state. -/
theorem scoreAt_eq_some (hrun : Run Step (.genesis ledger) history w)
    (hk : w.contracts c = some (.creditOracle k)) (hlinked : k.identityOracleId = some a)
    (hs : w.contracts a = some (.identityOracle s)) (hfew : (activeRecordsOf w s x).length ≤ U32.max) :
    w.scoreAt now c x = some v ↔ k.paused.getD false = false ∧
      ∃ repayment, CreditOracle.loadRepaymentForScore k x = .ok repayment ∧
        if IdentityOracle.isDeactivated s x then v = minScore else
          ∃ weights, k.config = some weights ∧ CreditOracle.CanStore k x ∧
            v = CreditOracle.scoreWith k x repayment weights (pointsOf w now k s c x) := by
  refine Iff.trans (b := ∃ k', CreditOracle.computeScore (creditHost (.signedBy now c []) [c])
      (.signedBy now c []) x { k with computeCooldownLedgers := none } w.contracts = .ok (v, k')) ?_
    (CreditOracle.computeScore_returns_iff (s := { k with computeCooldownLedgers := none }) hlinked rfl
      (answers_reachable hrun hk hs hfew))
  simp only [World.scoreAt, onCredit_eq_some, Option.map_eq_some_iff, Outcome.toOption_eq_some]
  constructor
  · rintro ⟨-, k', hk', ⟨_, after⟩, hcompute, rfl⟩
    cases hk.symm.trans hk'
    exact ⟨after, hcompute⟩
  · rintro ⟨after, hcompute⟩
    exact ⟨by simp, k, hk, (v, after), hcompute, rfl⟩

/-! ## The anchoring -/

/-- A successful anchoring is a repetition that changes nothing, or appends a record that the
issuer did not have and writes the label of its hash. -/
theorem anchoring_step {call : IdentityOracle.Call} (hcall : call.anchoring = some (issuer, x, vcHash))
    (hs : w.contracts a = some (.identityOracle s))
    (h : Step w (.invoke now signers a (.identityOracle call)) w') :
    ((∃ record ∈ anchorsOf s x, IdentityOracle.IsAnchor issuer vcHash record) ∧ w'.contracts = w.contracts) ∨
    ((∀ record ∈ anchorsOf s x, ¬IdentityOracle.IsAnchor issuer vcHash record) ∧
      (activeRecordsOf w s x).length < IdentityOracle.maxVcsPerSubject ∧
      ∃ s', w'.contracts = w.contracts.set a (.identityOracle s') ∧
        s'.revocationRegistryId = s.revocationRegistryId ∧
        s'.deactivated = s.deactivated ∧
        anchorsOf s' x = anchorsOf s x ++ [anchorRecord (.signedBy now a signers) issuer vcHash] ∧
        getVcCredentialType s' x = Function.update (getVcCredentialType s x) vcHash call.anchoredType) := by
  have hexec : ∃ s', w'.contracts = w.contracts.set a (.identityOracle s') ∧
      IdentityOracle.anchorVcTyped (identityHost (.signedBy now a signers) [a]) (.signedBy now a signers)
        issuer x vcHash call.anchoredType s w.contracts = .ok s' := by
    cases step_spec h with
    | invoked hledger hsigners hinvoked =>
      cases hinvoked with
      | @identity call t s' others ht hexec hothers =>
        cases hs.symm.trans ht
        obtain ⟨hanchor, rfl⟩ := IdentityOracle.exec_anchoring hcall hexec
        exact ⟨s', rfl, hanchor⟩
  obtain ⟨s', hset, hexec⟩ := hexec
  obtain ⟨-, -, ⟨hexists, rfl⟩ | ⟨hnew, hfew, protocolStats, rfl⟩⟩ :=
    IdentityOracle.anchorVcTyped_spec (sees_statusOf s) hexec
  · exact Or.inl ⟨hexists, by rw [hset, Storage.set_eq_self hs]⟩
  · refine Or.inr ⟨hnew, hfew, _, hset, rfl, rfl, ?_, ?_⟩
    · simp only [anchorsOf, Storage.set_self, Option.getD_some]
    · funext hash
      by_cases hhash : hash = vcHash
      · subst hhash
        simp only [getVcCredentialType, Storage.set_self, Option.getD_some, Function.update_self]
      · have hkey : (x, hash) ≠ (x, vcHash) := fun heq => hhash (Prod.mk.inj heq).2
        rw [Function.update_of_ne hhash]
        simp only [getVcCredentialType, Storage.set_of_ne _ _ hkey]

/-- The active records right after the anchoring, with the new one unless its hash is revoked. -/
def activeRecordsAfter (w : World) (now : Ledger) (s : IdentityOracle.State) (c x issuer : Address)
    (vcHash : BytesN 32) : List IdentityVCRecord :=
  activeOf (statusOf w.contracts s) (anchorsOf s x ++ [anchorRecord (.signedBy now c []) issuer vcHash])

/-- The points of these records, with the new label for all records of the hash. -/
def pointsAfter (w : World) (now : Ledger) (k : CreditOracle.State) (s : IdentityOracle.State)
    (c x issuer : Address) (vcHash : BytesN 32) (credentialType : CredentialType) : ℕ :=
  linkedPoints (.signedBy now c []) k (Function.update (getVcCredentialType s x) vcHash credentialType)
    (activeRecordsAfter w now s c x issuer vcHash)

/-- The score right after the anchoring of a new record. -/
theorem scoreAt_anchored {call : IdentityOracle.Call} {s' : IdentityOracle.State}
    (hrun : Run Step (.genesis ledger) history w) (hk : w.contracts c = some (.creditOracle k))
    (hlinked : k.identityOracleId = some a) (hs : w.contracts a = some (.identityOracle s))
    (h : Step w (.invoke now signers a (.identityOracle call)) w')
    (hfew : (activeRecordsOf w s x).length < IdentityOracle.maxVcsPerSubject)
    (hset : w'.contracts = w.contracts.set a (.identityOracle s'))
    (hlink : s'.revocationRegistryId = s.revocationRegistryId)
    (hdeactivated : s'.deactivated = s.deactivated)
    (hanchors : anchorsOf s' x =
      anchorsOf s x ++ [anchorRecord (.signedBy now a signers) issuer vcHash])
    (hlabel : getVcCredentialType s' x =
      Function.update (getVcCredentialType s x) vcHash call.anchoredType) :
    w'.scoreAt now c x = some v ↔ k.paused.getD false = false ∧
      ∃ repayment, CreditOracle.loadRepaymentForScore k x = .ok repayment ∧
        if IdentityOracle.isDeactivated s x then v = minScore else
          ∃ weights, k.config = some weights ∧ CreditOracle.CanStore k x ∧
            v = CreditOracle.scoreWith k x repayment weights
              (pointsAfter w now k s c x issuer vcHash call.anchoredType) := by
  have hk' : w'.contracts c = some (.creditOracle k) := by
    rw [hset, set_of_code hs hk (by simp)]
  have hs' : w'.contracts a = some (.identityOracle s') := by
    rw [hset, Storage.set_self]
  have hstatus : statusOf w'.contracts s' = statusOf w.contracts s := by
    rw [statusOf_congr hlink, statusOf_eq h (linkedRevocations_eq_nil s (by simp))]
  have hactive : activeRecordsOf w' s' x = activeRecordsAfter w now s c x issuer vcHash := by
    rw [activeRecordsOf, hstatus, hanchors]
    rfl
  have hpoints : pointsOf w' now k s' c x =
      pointsAfter w now k s c x issuer vcHash call.anchoredType := by
    rw [pointsOf, hactive, hlabel, pointsAfter]
  have hsame : IdentityOracle.isDeactivated s' x = IdentityOracle.isDeactivated s x := by
    simp only [IdentityOracle.isDeactivated, hdeactivated]
  have hfew' : (activeRecordsOf w' s' x).length ≤ U32.max := by
    have hadded : (activeRecordsOf w' s' x).length ≤ (activeRecordsOf w s x).length + 1 := by
      rw [hactive, activeRecordsAfter, activeOf, List.filter_append, List.length_append]
      exact Nat.add_le_add_left (List.length_filter_le _ _) _
    have hmax : IdentityOracle.maxVcsPerSubject ≤ U32.max := by decide
    omega
  rw [← hsame, ← hpoints]
  exact scoreAt_eq_some (hrun.snoc h) hk' hlinked hs' hfew'

/-- The anchoring of the hash with this label does not lower the score: the identity is
deactivated, or the issuer has anchored the hash already, or the points that are lost because
the records of the hash are labelled anew, times their weight, are no more than what the
division by 100 drops from the weighted sum. -/
def Harmless (w : World) (now : Ledger) (k : CreditOracle.State) (s : IdentityOracle.State)
    (c x issuer : Address) (vcHash : BytesN 32) (credentialType : CredentialType) : Prop :=
  IdentityOracle.isDeactivated s x = true ∨
  (∃ record ∈ anchorsOf s x, IdentityOracle.IsAnchor issuer vcHash record) ∨
  ∀ repayment weights, CreditOracle.loadRepaymentForScore k x = .ok repayment → k.config = some weights →
    (min (pointsOf w now k s c x) 100 - min (pointsAfter w now k s c x issuer vcHash credentialType) 100) *
        weights.vcWeight ≤
      weightedSum (pointsOf w now k s c x)
        (txScoreOf (CreditOracle.loadTxStats k x).volume30d (CreditOracle.loadTxStats k x).avgCounterparties)
        (repayScoreOf repayment.onTimeCount repayment.totalCount repayment.totalRepaid) weights % 100

/-- No points are lost when the other active records of the hash get a label of no smaller
weight, in particular when there are none. -/
theorem pointsOf_le_pointsAfter {credentialType : CredentialType}
    (hweight : ∀ record ∈ activeRecordsOf w s x, record.vcHash = vcHash →
      CreditOracle.getVcTypeWeight k (getVcCredentialType s x vcHash) ≤
        CreditOracle.getVcTypeWeight k credentialType) :
    pointsOf w now k s c x ≤ pointsAfter w now k s c x issuer vcHash credentialType := by
  have hsplit : activeRecordsAfter w now s c x issuer vcHash = activeRecordsOf w s x ++
      activeOf (statusOf w.contracts s) [anchorRecord (.signedBy now c []) issuer vcHash] :=
    List.filter_append _ _
  unfold pointsOf pointsAfter linkedPoints
  rw [hsplit, List.map_append, List.sum_append]
  refine (List.sum_le_sum fun record hmem => ?_).trans (Nat.le_add_right _ _)
  by_cases hhash : record.vcHash = vcHash
  · rw [hhash, Function.update_self]
    exact CreditOracle.recordPoints_mono (hweight record hmem hhash) record
  · rw [Function.update_of_ne hhash]

/-- Such an anchoring is harmless. -/
theorem harmless_of_points {credentialType : CredentialType}
    (h : pointsOf w now k s c x ≤ pointsAfter w now k s c x issuer vcHash credentialType) :
    Harmless w now k s c x issuer vcHash credentialType := by
  refine Or.inr (Or.inr fun repayment weights _ _ => ?_)
  rw [Nat.sub_eq_zero_of_le (min_le_min_right 100 h), Nat.zero_mul]
  exact Nat.zero_le _

/-- In a reachable state a successful anchoring leaves the score of its subject computable, and
the score is no lower exactly when the anchoring is harmless. -/
theorem anchoring_score {call : IdentityOracle.Call} (hrun : Run Step (.genesis ledger) history w)
    (hk : w.contracts c = some (.creditOracle k)) (hlinked : k.identityOracleId = some a)
    (hs : w.contracts a = some (.identityOracle s)) (hcall : call.anchoring = some (issuer, x, vcHash))
    (h : Step w (.invoke now signers a (.identityOracle call)) w') (hv : w.scoreAt now c x = some v) :
    ∃ v', w'.scoreAt now c x = some v' ∧
      (v ≤ v' ↔ Harmless w now k s c x issuer vcHash call.anchoredType) := by
  rcases anchoring_step hcall hs h with ⟨hexists, hsame⟩ |
    ⟨hnew, hfew, s', hset, hlink, hdeactivated, hanchors, hlabel⟩
  · refine ⟨v, ?_, iff_of_true le_rfl (Or.inr (Or.inl hexists))⟩
    rw [← hv]
    simp only [World.scoreAt, hsame]
  · obtain ⟨hpaused, repayment, hload, hvalue⟩ :=
      (scoreAt_eq_some hrun hk hlinked hs (hfew.le.trans (by decide))).mp hv
    have hafter {v' : ℕ} : w'.scoreAt now c x = some v' ↔ _ :=
      scoreAt_anchored hrun hk hlinked hs h hfew hset hlink hdeactivated hanchors hlabel
    cases hflag : IdentityOracle.isDeactivated s x with
    | true =>
      rw [hflag, if_pos rfl] at hvalue
      refine ⟨v, hafter.mpr ⟨hpaused, repayment, hload, ?_⟩, iff_of_true le_rfl (Or.inl hflag)⟩
      rw [hflag, if_pos rfl, hvalue]
    | false =>
      rw [hflag, if_neg Bool.false_ne_true] at hvalue
      obtain ⟨weights, hweights, hroom, rfl⟩ := hvalue
      refine ⟨CreditOracle.scoreWith k x repayment weights
        (pointsAfter w now k s c x issuer vcHash call.anchoredType),
        hafter.mpr ⟨hpaused, repayment, hload, ?_⟩, ?_⟩
      · rw [hflag, if_neg Bool.false_ne_true]
        exact ⟨weights, hweights, hroom, rfl⟩
      · rw [CreditOracle.scoreWith_le_iff ((credit_weightsOk hrun hk).config weights hweights)
          (CreditOracle.loadRepaymentForScore_counters (credit_countersOk hrun hk) hload)]
        constructor
        · intro hlost
          refine Or.inr (Or.inr fun repayment' weights' hload' hweights' => ?_)
          cases hload.symm.trans hload'
          cases hweights.symm.trans hweights'
          exact hlost
        · rintro (hdeactivated | ⟨record, hmem, hanchor⟩ | hlost)
          · exact absurd (hflag.symm.trans hdeactivated) Bool.false_ne_true
          · exact absurd hanchor (hnew record hmem)
          · exact hlost repayment weights hload hweights

/-- The sample issuer anchors another hash for the sample subject. -/
theorem anchoring_score_other_hash : ∃ (w w' : World) (v v' : ℕ),
    Step w (.invoke (.numbered 0) [.account 2] (.contract 21)
      (.identityOracle (.anchorVcTyped (.account 2) (.account 3) 8 "kyc"))) w' ∧
    w.scoreAt (.numbered 0) (.contract 22) (.account 3) = some v ∧
    w'.scoreAt (.numbered 0) (.contract 22) (.account 3) = some v' ∧ v ≤ v' := by
  let ledger : Ledger := .numbered 0
  let anchored : IdentityVCRecord := { vcHash := 7, issuer := .account 2, anchoredAt := 0, revoked := false }
  obtain ⟨history, w, hrun, hobserved⟩ := Run.exists_of_replay
    (show (replay World.next (.genesis ledger) (sampleDeployment ledger)).map
      (fun r => (onCredit [] r.2.contracts (.contract 22) fun k => k.identityOracleId,
        (onIdentity [] r.2.contracts (.contract 21) fun s => s.vcAnchors (.account 3)),
        (r.2.scoreAt ledger (.contract 22) (.account 3)).isSome,
        (r.2.next (.invoke ledger [.account 2] (.contract 21)
          (.identityOracle (.anchorVcTyped (.account 2) (.account 3) 8 "kyc")))).isSome)) =
      some (some (.contract 21), some [anchored], true, true) by decide +kernel)
  simp only [Prod.mk.injEq] at hobserved
  obtain ⟨hlink, hanchors, hscored, hnext⟩ := hobserved
  obtain ⟨-, k, hk, hlinked⟩ := onCredit_eq_some.mp hlink
  obtain ⟨-, s, hs, hanchors⟩ := onIdentity_eq_some.mp hanchors
  obtain ⟨v, hv⟩ := Option.isSome_iff_exists.mp hscored
  obtain ⟨w', h⟩ := Option.isSome_iff_exists.mp hnext
  obtain ⟨v', hv', hle⟩ := anchoring_score hrun hk hlinked hs rfl h hv
  refine ⟨w, w', v, v', h, hv, hv', hle.mpr (harmless_of_points (pointsOf_le_pointsAfter ?_))⟩
  intro record hmem hhash
  have hrecord : record ∈ anchorsOf s (.account 3) := List.mem_of_mem_filter hmem
  rw [anchorsOf, hanchors] at hrecord
  rw [List.mem_singleton.mp hrecord] at hhash
  exact absurd hhash (by decide)

/-- The sample subject has a second credential of a type that counts three times, and there is
a second issuer. -/
def sampleRelabelling (ledger : Ledger) : List Event :=
  sampleDeployment ledger ++
  [ .invoke ledger [.account 1] (.contract 22) (.creditOracle (.setVcTypeWeight (.account 1) "kyc" 300)),
    .invoke ledger [.account 1] (.contract 21) (.identityOracle (.registerIssuer (.account 4))),
    .invoke ledger [.account 2] (.contract 21)
      (.identityOracle (.anchorVcTyped (.account 2) (.account 3) 8 "kyc")) ]

/-- Another issuer anchors the hash of that credential without a type, and the score drops. -/
theorem not_anchoring_score_relabelled :
    ∃ (ledger now : Ledger) (history : List Move) (w w' : World) (c a x issuer : Address) (vcHash : BytesN 32)
      (v v' : ℕ), Run Step (.genesis ledger) history w ∧ LinkedTo w c a ∧
    Step w (.invoke now [issuer] a (.identityOracle (.anchorVc issuer x vcHash))) w' ∧
    w.scoreAt now c x = some v ∧ w'.scoreAt now c x = some v' ∧ v' < v := by
  let ledger : Ledger := .numbered 0
  obtain ⟨history, w, hrun, hobserved⟩ := Run.exists_of_replay
    (show (replay World.next (.genesis ledger) (sampleRelabelling ledger)).map
      (fun r => (onCredit [] r.2.contracts (.contract 22) fun k => k.identityOracleId,
        (r.2.isDeactivated (.contract 21) (.account 3)).isSome,
        r.2.scoreAt ledger (.contract 22) (.account 3),
        (r.2.next (.invoke ledger [.account 4] (.contract 21)
          (.identityOracle (.anchorVc (.account 4) (.account 3) 8)))).bind
          fun w' => w'.scoreAt ledger (.contract 22) (.account 3))) =
      some (some (.contract 21), true, some 476, some 432) by decide +kernel)
  simp only [Prod.mk.injEq] at hobserved
  obtain ⟨hlink, hdeployed, hv, hnext⟩ := hobserved
  obtain ⟨w', h, hv'⟩ := Option.bind_eq_some_iff.mp hnext
  exact ⟨ledger, ledger, history, w, w', _, _, _, _, _, _, _, hrun, linkedTo_of_queries hlink hdeployed, h, hv,
    hv', by decide⟩

end StellarDidCredit.Network
