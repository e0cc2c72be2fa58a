import StellarDidCredit.Network.Revocation

/-!
# The read paths of the identity oracle

Five scans over the credentials of a subject, each of which asks for the status of a record on its
own. They all ask the same question of the same registry, so they sort the records alike: what
`get_vc_details` returns and what `list_revoked_for_subject` returns are the two parts of the list.
-/

namespace StellarDidCredit.Network

variable {w : World} {a x : Address} {s : IdentityOracle.State}

/-- `list_revoked_for_subject` of an identity oracle. -/
def World.listRevoked (w : World) (a x : Address) : Option (List (BytesN 32)) :=
  onIdentity [] w.contracts a fun s =>
    (IdentityOracle.listRevokedForSubject (identityHost (w.query a) [a]) w.contracts s x).toOption

/-- `get_total_vc_count` of an identity oracle. -/
def World.totalVcCount (w : World) (a x : Address) : Option ℕ :=
  onIdentity [] w.contracts a fun s => some (IdentityOracle.getTotalVcCount s x)

/-- Two lists are what a test picks from a list and what it leaves, both in order. -/
def Splits {α : Type} (as picked left : List α) : Prop :=
  ∃ p : α → Bool, picked = as.filter p ∧ left = as.filter fun a => !p a

/-- The parts have all the members between them. -/
theorem Splits.length_add {α : Type} {as picked left : List α} (h : Splits as picked left) :
    picked.length + left.length = as.length := by
  obtain ⟨p, rfl, rfl⟩ := h
  have hcount := List.length_eq_countP_add_countP p (l := as)
  simp only [Bool.not_eq_true, Bool.decide_eq_false] at hcount
  rw [← List.countP_eq_length_filter, ← List.countP_eq_length_filter, hcount]

section Reads

variable {env : Env} {busy : List Address} (hbusy : ∀ b ∈ busy, registryAt w.contracts b = none)
  (hdeployed : ∀ r, s.revocationRegistryId = some r → ∃ q, w.contracts r = some (.revocationRegistry q))
include hbusy hdeployed

/-- The hashes that are listed are those of the records that are not active. -/
theorem listRevoked_query (x : Address) :
    IdentityOracle.listRevokedForSubject (identityHost env busy) w.contracts s x =
      .ok (((IdentityOracle.anchorsOf s x).filter fun record =>
        !IdentityOracle.isActive (statusOf w.contracts s) record).map (·.vcHash)) := by
  have hfilter : Outcome.filterE (IdentityOracle.isRecordRevoked (identityHost env busy) w.contracts s)
      (IdentityOracle.anchorsOf s x) = .ok ((IdentityOracle.anchorsOf s x).filter fun record =>
        !IdentityOracle.isActive (statusOf w.contracts s) record) :=
    Outcome.filterE_eq_filter fun record _ => isRecordRevoked_query hbusy hdeployed record
  rw [IdentityOracle.listRevokedForSubject, hfilter]
  rfl

/-- A subject that is not deactivated is verified when one of its records is active. -/
theorem isVerified_query (x : Address) :
    IdentityOracle.isVerified (identityHost env busy) w.contracts s x =
      .ok (!IdentityOracle.isDeactivated s x &&
        (IdentityOracle.anchorsOf s x).any (IdentityOracle.isActive (statusOf w.contracts s))) := by
  unfold IdentityOracle.isVerified
  split
  case isTrue hdeactivated => rw [hdeactivated, Bool.not_true, Bool.false_and]
  case isFalse hnot =>
    rw [Bool.eq_false_of_not_eq_true hnot, Bool.not_false, Bool.true_and]
    refine Outcome.anyE_eq_any fun record _ => ?_
    rw [isRecordRevoked_query hbusy hdeployed]
    simp only [bind, Except.bind, Bool.not_not]

end Reads

/-- Some member is picked exactly when the picked ones are not none. -/
theorem any_eq_true_iff_filter_ne_nil {α : Type} {p : α → Bool} {as : List α} :
    as.any p = true ↔ as.filter p ≠ [] := by
  rw [List.any_eq_true, ne_eq, List.filter_eq_nil_iff]
  push Not
  rfl

/-- What the read paths of a subject return: `active` and `revoked` are the two parts of its records. -/
structure ReadsAgree (w : World) (a x : Address) (active revoked : List IdentityVCRecord) : Prop where
  details : w.vcDetails a x = some active
  listed : w.listRevoked a x = some (revoked.map (·.vcHash))
  total : w.totalVcCount a x = some (active.length + revoked.length)
  verifyVc : ∀ vcHash, w.verifyVc a x vcHash = some (decide (∃ record ∈ active, record.vcHash = vcHash))
  isVerified : w.isVerified a x = (w.isDeactivated a x).map fun deactivated => !deactivated && decide (active ≠ [])

/-- In every reachable state the read paths of an identity oracle agree: the records of a subject split
into those that `get_vc_details` returns and those whose hashes `list_revoked_for_subject` returns,
and a hash or a subject is verified by what the first returns. -/
theorem read_paths_agree {ledger : Ledger} {history : List Move} (hrun : Run Step (.genesis ledger) history w)
    (hs : w.contracts a = some (.identityOracle s)) (x : Address) :
    ∃ active revoked, Splits (IdentityOracle.anchorsOf s x) active revoked ∧ ReadsAgree w a x active revoked := by
  have hdeployed := fun r (hr : s.revocationRegistryId = some r) => linkedRegistry_deployed hrun hs hr
  have hbusy : ∀ b ∈ [a], registryAt w.contracts b = none := by simp [registryAt_identity hs]
  have hsplits : Splits (IdentityOracle.anchorsOf s x)
      ((IdentityOracle.anchorsOf s x).filter (IdentityOracle.isActive (statusOf w.contracts s)))
      ((IdentityOracle.anchorsOf s x).filter fun record =>
        !IdentityOracle.isActive (statusOf w.contracts s) record) := ⟨_, rfl, rfl⟩
  refine ⟨_, _, hsplits, ?_⟩
  constructor
  case details => exact vcDetails_eq hrun hs x
  case listed =>
    refine onIdentity_eq_some.mpr ⟨by simp, s, hs, ?_⟩
    rw [listRevoked_query hbusy hdeployed]
    rfl
  case total =>
    refine onIdentity_eq_some.mpr ⟨by simp, s, hs, ?_⟩
    rw [hsplits.length_add, IdentityOracle.getTotalVcCount]
  case verifyVc =>
    intro vcHash
    rw [verifyVc_eq hrun hs x vcHash, Option.some.injEq, Bool.eq_iff_iff, List.any_eq_true, decide_eq_true_iff]
    simp only [List.mem_filter, Bool.and_eq_true, decide_eq_true_eq]
    exact exists_congr fun record => ⟨fun h => ⟨⟨h.1, h.2.2⟩, h.2.1⟩, fun h => ⟨h.1.1, h.2, h.1.2⟩⟩
  case isVerified =>
    rw [isDeactivated_eq hs, Option.map_some]
    refine onIdentity_eq_some.mpr ⟨by simp, s, hs, ?_⟩
    rw [isVerified_query hbusy hdeployed]
    have hany : (IdentityOracle.anchorsOf s x).any (IdentityOracle.isActive (statusOf w.contracts s)) =
        decide ((IdentityOracle.anchorsOf s x).filter (IdentityOracle.isActive (statusOf w.contracts s)) ≠ []) := by
      rw [Bool.eq_iff_iff, any_eq_true_iff_filter_ne_nil, decide_eq_true_iff]
    rw [hany]
    rfl

/-- A second issuer anchors the hash of the sample credential, and the first one revokes its record
of it in the identity oracle only. -/
def sampleShared (ledger : Ledger) : List Event :=
  [ .invoke ledger [.account 1] (.contract 21) (.identityOracle (.registerIssuer (.account 4))),
    .invoke ledger [.account 4] (.contract 21) (.identityOracle (.anchorVc (.account 4) (.account 3) 7)),
    .invoke ledger [.account 2] (.contract 21) (.identityOracle (.markVcRevoked (.account 2) (.account 3) 7)) ]

/-- One of the two records of the hash is listed as revoked, and the hash is verified by the other. -/
theorem read_paths_agree_shared : ∃ w active revoked,
    w.listRevoked (.contract 21) (.account 3) = some [7] ∧
    w.verifyVc (.contract 21) (.account 3) 7 = some true ∧
    ReadsAgree w (.contract 21) (.account 3) active revoked := by
  let ledger : Ledger := .numbered 0
  obtain ⟨history, w, hrun, hobserved⟩ := Run.exists_of_replay
    (show (replay World.next (.genesis ledger) (sampleDeployment ledger ++ sampleShared ledger)).map
      (fun r => (onIdentity [] r.2.contracts (.contract 21) fun s => some s.admin.isSome,
        r.2.listRevoked (.contract 21) (.account 3), r.2.verifyVc (.contract 21) (.account 3) 7)) =
      some (some true, some [7], some true) from rfl)
  simp only [Prod.mk.injEq] at hobserved
  obtain ⟨hdeployed, hlisted, hverified⟩ := hobserved
  obtain ⟨-, s, hs, -⟩ := onIdentity_eq_some.mp hdeployed
  obtain ⟨active, revoked, -, hagree⟩ := read_paths_agree hrun hs (.account 3)
  exact ⟨w, active, revoked, hlisted, hverified, hagree⟩

end StellarDidCredit.Network
