import StellarDidCredit.IdentityOracle.Admission
import StellarDidCredit.Network.Anchoring
import StellarDidCredit.Network.Enactment

/-!
# What an issuer can anchor

In every reachable state a transaction of an issuer either anchors its credential, or finds it anchored, or is
refused. Another anchoring of the same issuer in between only takes away room: what was refused is refused
again, and what was on record stays there.
-/

namespace StellarDidCredit.Network

open IdentityOracle (anchorsOf IsAnchor isTrustedIssuer isActive Room anchored anchorRecord genericCredentialType)

variable {w w' : World} {contracts : Contracts} {now ledger : Ledger} {history : List Move} {a x y issuer : Address}
  {vcHash hash : BytesN 32} {s : IdentityOracle.State}

/-- The identity oracle takes the transactions of the issuer. -/
structure TakesFrom (contracts : Contracts) (s : IdentityOracle.State) (issuer : Address) : Prop where
  account : contracts issuer = none
  notPaused : s.paused.getD false = false
  trusted : isTrustedIssuer s issuer = true

/-- The issuer has a record of the hash. -/
def HasRecord (s : IdentityOracle.State) (issuer x : Address) (vcHash : BytesN 32) : Prop :=
  ∃ record ∈ anchorsOf s x, IsAnchor issuer vcHash record

/-- Somebody has an active record of the hash. -/
def HasActive (contracts : Contracts) (s : IdentityOracle.State) (x : Address) (vcHash : BytesN 32) : Prop :=
  ∃ record ∈ anchorsOf s x, record.vcHash = vcHash ∧ isActive (statusOf contracts s) record = true

/-- The state after the issuer has anchored the hash. -/
def stateAfter (contracts : Contracts) (now : Ledger) (a issuer x : Address) (vcHash : BytesN 32)
    (s : IdentityOracle.State) : IdentityOracle.State :=
  anchored (.signedBy now a [issuer]) (statusOf contracts s) issuer x vcHash genericCredentialType s

/-- The transaction that anchors it. -/
abbrev anchoringOf (now : Ledger) (a issuer x : Address) (vcHash : BytesN 32) : Event :=
  .invoke now [issuer] a (.identityOracle (.anchorVc issuer x vcHash))

/-- `verify_vc` in a reachable state. -/
theorem verifyVc_eq_some (x : Address) (vcHash : BytesN 32) (hrun : Run Step (.genesis ledger) history w)
    (hs : w.contracts a = some (.identityOracle s)) :
    ∃ verdict, w.verifyVc a x vcHash = some verdict ∧ (verdict = true ↔ HasActive w.contracts s x vcHash) := by
  refine ⟨_, verifyVc_eq hrun hs x vcHash, ?_⟩
  simp only [List.any_eq_true, Bool.and_eq_true, decide_eq_true_eq, HasActive]

/-- The call from an account is the entry point of the identity oracle. -/
theorem invoke_anchorVc (hs : contracts a = some (.identityOracle s)) {after : Contracts} :
    invoke (.signedBy now a [issuer]) (.identityOracle (.anchorVc issuer x vcHash)) contracts = some after ↔
      ∃ s', IdentityOracle.anchorVcTyped (identityHost (.signedBy now a [issuer]) [a]) (.signedBy now a [issuer])
        issuer x vcHash genericCredentialType s contracts = .ok s' ∧
          after = contracts.set a (.identityOracle s') := by
  have hcallable : callable [] contracts a = some (.identityOracle s) := by rw [callable, if_neg (by simp), hs]
  simp only [invoke, onIdentity, Env.signedBy, hcallable, IdentityOracle.exec, IdentityOracle.anchorVc,
    Option.bind_eq_bind, Option.bind_eq_some_iff, Outcome.toOption_eq_some, IdentityOracle.alone_eq_ok,
    Option.some.injEq, Prod.exists]
  constructor
  · rintro ⟨s', _, ⟨hanchored, rfl⟩, rfl⟩
    exact ⟨s', hanchored, rfl⟩
  · rintro ⟨s', hanchored, rfl⟩
    exact ⟨s', _, ⟨hanchored, rfl⟩, rfl⟩

/-- When the transaction succeeds, and what it does. -/
theorem anchoring_iff (hrun : Run Step (.genesis ledger) history w)
    (hs : w.contracts a = some (.identityOracle s)) :
    Step w (anchoringOf now a issuer x vcHash) w' ↔ w.ledger.NotAfter now ∧ TakesFrom w.contracts s issuer ∧
      (HasRecord s issuer x vcHash ∧ w' = ⟨w.contracts, now⟩ ∨
        ¬HasRecord s issuer x vcHash ∧ Room (statusOf w.contracts s) s x vcHash ∧
          w' = ⟨w.contracts.set a (.identityOracle (stateAfter w.contracts now a issuer x vcHash s)), now⟩) := by
  have hanswers (record : IdentityVCRecord) :
      IdentityOracle.isRecordRevoked (identityHost (.signedBy now a [issuer]) [a]) w.contracts s record =
        .ok (!isActive (statusOf w.contracts s) record) :=
    isRecordRevoked_query (by simp [registryAt_identity hs]) (fun r hr => linkedRegistry_deployed hrun hs hr) record
  have hnew : (∀ record ∈ anchorsOf s x, ¬IsAnchor issuer vcHash record) ↔ ¬HasRecord s issuer x vcHash := by
    simp [HasRecord]
  have hauth : (Env.signedBy now a [issuer]).Authorized issuer := Or.inl (List.mem_singleton_self issuer)
  rw [step_invoke_iff]
  simp only [List.mem_singleton, forall_eq, invoke_anchorVc hs, IdentityOracle.anchorVcTyped_eq_ok hanswers, hnew]
  constructor
  · rintro ⟨hnow, haccount, _, ⟨s', ⟨hadmits, hcases⟩, rfl⟩, rfl⟩
    refine ⟨hnow, ⟨haccount, hadmits.notPaused, hadmits.trusted⟩, ?_⟩
    rcases hcases with ⟨hhas, rfl⟩ | ⟨hnot, hroom, rfl⟩
    · exact Or.inl ⟨hhas, by rw [Storage.set_eq_self hs]⟩
    · exact Or.inr ⟨hnot, hroom, rfl⟩
  · rintro ⟨hnow, htakes, hcases⟩
    refine ⟨hnow, htakes.account, ?_⟩
    rcases hcases with ⟨hhas, rfl⟩ | ⟨hnot, hroom, rfl⟩
    · exact ⟨_, ⟨s, ⟨⟨htakes.notPaused, hauth, htakes.trusted⟩, Or.inl ⟨hhas, rfl⟩⟩, rfl⟩,
        by rw [Storage.set_eq_self hs]⟩
    · exact ⟨_, ⟨_, ⟨⟨htakes.notPaused, hauth, htakes.trusted⟩, Or.inr ⟨hnot, hroom, rfl⟩⟩, rfl⟩, rfl⟩

/-! ## After another anchoring -/

section After

variable (hs : contracts a = some (.identityOracle s))
include hs

/-- The flags of the registries are the same. -/
theorem statusOf_stateAfter :
    statusOf (contracts.set a (.identityOracle (stateAfter contracts now a issuer x vcHash s)))
      (stateAfter contracts now a issuer x vcHash s) = statusOf contracts s := by
  funext h
  have hlink : (stateAfter contracts now a issuer x vcHash s).revocationRegistryId = s.revocationRegistryId := rfl
  rw [statusOf_congr hlink]
  unfold statusOf
  cases s.revocationRegistryId with
  | none => rfl
  | some r => exact registryStatus_set rfl hs rfl r h

/-- After the anchoring the oracle takes from the same issuers. -/
theorem takesFrom_stateAfter :
    TakesFrom (contracts.set a (.identityOracle (stateAfter contracts now a issuer x vcHash s)))
      (stateAfter contracts now a issuer x vcHash s) issuer ↔ TakesFrom contracts s issuer := by
  constructor
  · rintro ⟨haccount, hpaused, htrusted⟩
    refine ⟨?_, hpaused, htrusted⟩
    by_cases hissuer : issuer = a
    · rw [hissuer, Storage.set_self] at haccount
      cases haccount
    · rwa [Storage.set_of_ne _ _ hissuer] at haccount
  · rintro ⟨haccount, hpaused, htrusted⟩
    refine ⟨?_, hpaused, htrusted⟩
    have hissuer : issuer ≠ a := by
      rintro rfl
      cases hs.symm.trans haccount
    rwa [Storage.set_of_ne _ _ hissuer]

end After

/-- The records are the ones before, and the new one. -/
theorem mem_stateAfter {record : IdentityVCRecord} :
    record ∈ anchorsOf (stateAfter contracts now a issuer x vcHash s) y ↔
      record ∈ anchorsOf s y ∨ y = x ∧ record = anchorRecord (.signedBy now a [issuer]) issuer vcHash := by
  rw [stateAfter, IdentityOracle.anchorsOf_anchored]
  split
  case isTrue hy =>
    subst hy
    rw [List.mem_append, List.mem_singleton]
    simp only [true_and]
  case isFalse hy => simp only [hy, false_and, or_false]

/-- It adds one active credential, if the registry has not revoked it. -/
theorem hasActive_stateAfter (hs : contracts a = some (.identityOracle s)) :
    HasActive (contracts.set a (.identityOracle (stateAfter contracts now a issuer x vcHash s)))
        (stateAfter contracts now a issuer x vcHash s) y hash ↔
      HasActive contracts s y hash ∨ y = x ∧ hash = vcHash ∧ statusOf contracts s vcHash = false := by
  simp only [HasActive, mem_stateAfter, statusOf_stateAfter hs]
  constructor
  · rintro ⟨record, hold | ⟨rfl, rfl⟩, rfl, hactive⟩
    · exact Or.inl ⟨record, hold, rfl, hactive⟩
    · exact Or.inr ⟨rfl, rfl, by simpa [isActive, anchorRecord] using hactive⟩
  · rintro (⟨record, hold, hhash, hactive⟩ | ⟨rfl, rfl, hunlisted⟩)
    · exact ⟨record, Or.inl hold, hhash, hactive⟩
    · exact ⟨_, Or.inr ⟨rfl, rfl⟩, rfl, by simp [isActive, anchorRecord, hunlisted]⟩

/-- It adds one record. -/
theorem hasRecord_stateAfter : HasRecord (stateAfter contracts now a issuer x vcHash s) issuer y hash ↔
    HasRecord s issuer y hash ∨ y = x ∧ hash = vcHash := by
  simp only [HasRecord, mem_stateAfter]
  constructor
  · rintro ⟨record, hold | ⟨rfl, rfl⟩, hanchor⟩
    · exact Or.inl ⟨record, hold, hanchor⟩
    · exact Or.inr ⟨rfl, hanchor.1.symm⟩
  · rintro (⟨record, hold, hanchor⟩ | ⟨rfl, rfl⟩)
    · exact ⟨record, Or.inl hold, hanchor⟩
    · exact ⟨_, Or.inr ⟨rfl, rfl⟩, rfl, rfl⟩

end StellarDidCredit.Network
