import StellarDidCredit.Network.CreditSteps

/-!
# Queries between transactions

What anyone reads from the deployed contracts after a transaction, in the same ledger. A
linked registry stays deployed and always answers, so a subject's credentials can be read in
every reachable state.
-/

namespace StellarDidCredit.Network

variable {w w' : World} {e : Event} {a c x : Address} {s : IdentityOracle.State}

/-- The environment of a query, which nobody signs. -/
def World.query (w : World) (callee : Address) : Env := .signedBy w.ledger callee []

/-- `get_vc_details` of an identity oracle. -/
def World.vcDetails (w : World) (a x : Address) : Option (List IdentityVCRecord) :=
  onIdentity [] w.contracts a fun s =>
    (IdentityOracle.getVcDetails (identityHost (w.query a) [a]) w.contracts s x).toOption

/-- `verify_vc` of an identity oracle. -/
def World.verifyVc (w : World) (a x : Address) (vcHash : BytesN 32) : Option Bool :=
  onIdentity [] w.contracts a fun s =>
    (IdentityOracle.verifyVc (identityHost (w.query a) [a]) w.contracts s x vcHash).toOption

/-- `is_verified` of an identity oracle. -/
def World.isVerified (w : World) (a x : Address) : Option Bool :=
  onIdentity [] w.contracts a fun s =>
    (IdentityOracle.isVerified (identityHost (w.query a) [a]) w.contracts s x).toOption

/-- `is_deactivated` of an identity oracle. -/
def World.isDeactivated (w : World) (a x : Address) : Option Bool :=
  onIdentity [] w.contracts a fun s => some (IdentityOracle.isDeactivated s x)

/-- `get_active_vc_count` of an identity oracle. -/
def World.activeVcCount (w : World) (a x : Address) : Option ℕ :=
  onIdentity [] w.contracts a fun s =>
    (IdentityOracle.getActiveVcCount (identityHost (w.query a) [a]) x s w.contracts).toOption.map (·.1)

/-- `is_record_revoked` for the record of an issuer and a hash. -/
def World.recordRevoked (w : World) (a x issuer : Address) (vcHash : BytesN 32) : Option Bool :=
  onIdentity [] w.contracts a fun s => do
    let record ← (IdentityOracle.anchorsOf s x).find? fun record => IdentityOracle.IsAnchor issuer vcHash record
    (IdentityOracle.isRecordRevoked (identityHost (w.query a) [a]) w.contracts s record).toOption

/-- `get_score` of a credit oracle. -/
def World.getScore (w : World) (c x : Address) : Option (Option CreditOracle.ScoreRecord) :=
  onCredit [] w.contracts c fun s =>
    some (CreditOracle.getScore (creditHost (w.query c) [c]) (w.query c) w.contracts s x)

/-! ## Linked registries -/

/-- In every reachable state the registry linked to an identity oracle is deployed. -/
theorem linkedRegistry_deployed {ledger : Ledger} {history : List Move}
    (hrun : Run Step (.genesis ledger) history w) (hs : w.contracts a = some (.identityOracle s))
    {r : Address} (hr : s.revocationRegistryId = some r) :
    ∃ q, w.contracts r = some (.revocationRegistry q) := by
  refine hrun.invariant (fun w => ∀ s, w.contracts a = some (.identityOracle s) →
    ∀ r, s.revocationRegistryId = some r → ∃ q, w.contracts r = some (.revocationRegistry q))
    ?_ (by simp) s hs r hr
  intro w e w' hbefore h s' hs' r hr
  have hkept {q : RevocationRegistry.State} (hq : w.contracts r = some (.revocationRegistry q)) :
      ∃ q', w'.contracts r = some (.revocationRegistry q') := by
    obtain ⟨q', hq', -⟩ := registry_step h hq
    exact ⟨q', hq'⟩
  rcases identity_origin h hs' with ⟨-, rfl⟩ | ⟨s, hs, hchange⟩
  · cases hr
  · cases hchange with
    | idle hcall =>
      obtain ⟨q, hq⟩ := hbefore _ hs r hr
      exact hkept hq
    | relinked hcall hadmin hauth hregistry =>
      obtain ⟨q, hq⟩ := hregistry
      cases hr
      exact hkept hq
    | acted hcall hnotLink heffects =>
      obtain ⟨q, hq⟩ := hbefore s hs r (heffects.link ▸ hr)
      exact hkept hq

/-- There is no registry at the address of an identity oracle. -/
theorem registryAt_identity (hs : w.contracts a = some (.identityOracle s)) :
    registryAt w.contracts a = none := by
  simp only [registryAt, hs, Option.bind_some, Contract.asRegistry]

/-- Nor at the address of a credit oracle. -/
theorem registryAt_credit {k : CreditOracle.State} (hk : w.contracts c = some (.creditOracle k)) :
    registryAt w.contracts c = none := by
  simp only [registryAt, hk, Option.bind_some, Contract.asRegistry]

section Reads

variable {env : Env} {busy : List Address} (hbusy : ∀ b ∈ busy, registryAt w.contracts b = none)
  (hdeployed : ∀ r, s.revocationRegistryId = some r → ∃ q, w.contracts r = some (.revocationRegistry q))
include hbusy hdeployed

/-- A query of the linked registry, while no registry is being executed, answers with the flag
that is seen. -/
theorem isRecordRevoked_query (record : IdentityVCRecord) :
    IdentityOracle.isRecordRevoked (identityHost env busy) w.contracts s record =
      .ok (!IdentityOracle.isActive (statusOf w.contracts s) record) := by
  have hanswers : ∃ b, IdentityOracle.isRecordRevoked (identityHost env busy) w.contracts s record = .ok b := by
    unfold IdentityOracle.isRecordRevoked
    split
    · exact ⟨_, rfl⟩
    · cases hr : s.revocationRegistryId with
      | none => exact ⟨_, rfl⟩
      | some r =>
        obtain ⟨q, hq⟩ := hdeployed r hr
        have hfree : r ∉ busy := by
          intro hmem
          have hnone := hbusy r hmem
          simp only [registryAt, hq, Option.bind_some, Contract.asRegistry, reduceCtorEq] at hnone
        refine ⟨RevocationRegistry.isRevoked q record.vcHash, ?_⟩
        simp only [Outcome.okOr_eq_ok, identityHost, onRegistry_eq_some]
        exact ⟨hfree, q, hq, rfl⟩
  obtain ⟨b, hb⟩ := hanswers
  rw [hb, IdentityOracle.isRecordRevoked_ok (sees_statusOf s) hb]

/-- The credentials that are read are the active ones. -/
theorem getVcDetails_query (x : Address) :
    IdentityOracle.getVcDetails (identityHost env busy) w.contracts s x =
      .ok (IdentityOracle.activeOf (statusOf w.contracts s) (IdentityOracle.anchorsOf s x)) := by
  refine Outcome.filterE_eq_filter fun record _ => ?_
  rw [isRecordRevoked_query hbusy hdeployed]
  simp only [bind, Except.bind, Bool.not_not]

/-- A hash is verified when one of its records is active. -/
theorem verifyVc_query (x : Address) (vcHash : BytesN 32) :
    IdentityOracle.verifyVc (identityHost env busy) w.contracts s x vcHash =
      .ok ((IdentityOracle.anchorsOf s x).any fun record =>
        decide (record.vcHash = vcHash) && IdentityOracle.isActive (statusOf w.contracts s) record) := by
  refine Outcome.anyE_eq_any fun record _ => ?_
  by_cases hhash : record.vcHash = vcHash
  · rw [if_pos hhash, isRecordRevoked_query hbusy hdeployed, decide_eq_true hhash]
    simp only [bind, Except.bind, Bool.not_not, Bool.true_and]
  · rw [if_neg hhash, decide_eq_false hhash, Bool.false_and]

end Reads

section Reachable

variable {ledger : Ledger} {history : List Move} (hrun : Run Step (.genesis ledger) history w)
  (hs : w.contracts a = some (.identityOracle s))
include hrun hs

/-- `get_vc_details` in a reachable state. -/
theorem vcDetails_eq (x : Address) :
    w.vcDetails a x =
      some (IdentityOracle.activeOf (statusOf w.contracts s) (IdentityOracle.anchorsOf s x)) := by
  refine onIdentity_eq_some.mpr ⟨by simp, s, hs, ?_⟩
  rw [getVcDetails_query (by simp [registryAt_identity hs]) (fun r hr => linkedRegistry_deployed hrun hs hr)]
  rfl

/-- `verify_vc` in a reachable state. -/
theorem verifyVc_eq (x : Address) (vcHash : BytesN 32) :
    w.verifyVc a x vcHash = some ((IdentityOracle.anchorsOf s x).any fun record =>
      decide (record.vcHash = vcHash) && IdentityOracle.isActive (statusOf w.contracts s) record) := by
  refine onIdentity_eq_some.mpr ⟨by simp, s, hs, ?_⟩
  rw [verifyVc_query (by simp [registryAt_identity hs]) (fun r hr => linkedRegistry_deployed hrun hs hr)]
  rfl

/-- `get_active_vc_count` in a reachable state. -/
theorem activeVcCount_eq (x : Address) :
    w.activeVcCount a x = some ((s.activeVCCount x).getD
      (IdentityOracle.activeOf (statusOf w.contracts s) (IdentityOracle.anchorsOf s x)).length) := by
  refine onIdentity_eq_some.mpr ⟨by simp, s, hs, ?_⟩
  have hdetails : IdentityOracle.getVcDetails (identityHost (w.query a) [a]) w.contracts s x = .ok _ :=
    getVcDetails_query (by simp [registryAt_identity hs]) (fun r hr => linkedRegistry_deployed hrun hs hr) x
  unfold IdentityOracle.getVcDetails at hdetails
  unfold IdentityOracle.getActiveVcCount
  cases s.activeVCCount x with
  | some count => rfl
  | none =>
    simp only [IdentityOracle.seedActiveVcCount, IdentityOracle.computeActiveVcCount, hdetails]
    rfl

/-- `is_record_revoked` in a reachable state, for a record that was anchored. -/
theorem recordRevoked_eq_some {issuer : Address} {vcHash : BytesN 32} {b : Bool} :
    w.recordRevoked a x issuer vcHash = some b ↔ ∃ record ∈ IdentityOracle.anchorsOf s x,
      IdentityOracle.IsAnchor issuer vcHash record ∧
      b = !IdentityOracle.isActive (statusOf w.contracts s) record := by
  have hdeployed := fun r (hr : s.revocationRegistryId = some r) => linkedRegistry_deployed hrun hs hr
  have hbusy : ∀ b ∈ [a], registryAt w.contracts b = none := by simp [registryAt_identity hs]
  simp only [World.recordRevoked, onIdentity_eq_some, hs, Option.some.injEq, Contract.identityOracle.injEq,
    Option.bind_eq_bind, Option.bind_eq_some_iff, Outcome.toOption_eq_some]
  constructor
  · rintro ⟨-, _, rfl, record, hfound, hstatus⟩
    rw [isRecordRevoked_query hbusy hdeployed] at hstatus
    have hanchor := List.find?_some hfound
    exact ⟨record, List.mem_of_find?_eq_some hfound, by simpa using hanchor, (Except.ok.inj hstatus).symm⟩
  · rintro ⟨record, hmem, hanchor, rfl⟩
    refine ⟨by simp, s, rfl, record, ?_, isRecordRevoked_query hbusy hdeployed record⟩
    have hsome : ((IdentityOracle.anchorsOf s x).find?
        fun record => IdentityOracle.IsAnchor issuer vcHash record).isSome := by
      rw [List.find?_isSome]
      exact ⟨record, hmem, by simpa using hanchor⟩
    obtain ⟨found, hfound⟩ := Option.isSome_iff_exists.mp hsome
    have hfoundAnchor : IdentityOracle.IsAnchor issuer vcHash found := by
      simpa using List.find?_some hfound
    have hsame := (identity_distinct hrun hs x).eq hmem (List.mem_of_find?_eq_some hfound)
      (hfoundAnchor.2.trans hanchor.2.symm) (hfoundAnchor.1.trans hanchor.1.symm)
    rw [hfound, hsame]

end Reachable

/-- `is_deactivated`, at an address of an identity oracle. -/
theorem isDeactivated_eq (hs : w.contracts a = some (.identityOracle s)) (x : Address) :
    w.isDeactivated a x = some (IdentityOracle.isDeactivated s x) :=
  onIdentity_eq_some.mpr ⟨by simp, s, hs, rfl⟩

/-- `is_verified` of a deactivated subject. -/
theorem isVerified_deactivated (hs : w.contracts a = some (.identityOracle s)) {x : Address}
    (hdeactivated : IdentityOracle.isDeactivated s x = true) : w.isVerified a x = some false := by
  refine onIdentity_eq_some.mpr ⟨by simp, s, hs, ?_⟩
  rw [IdentityOracle.isVerified, if_pos hdeactivated]
  rfl

end StellarDidCredit.Network
