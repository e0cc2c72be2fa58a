import StellarDidCredit.Network.Deactivation

/-!
# Anchoring a credential again

Anchoring a hash that the issuer anchored before is a no-op that succeeds, also when the
record carries its own flag. Flags are never cleared, so a credential that was revoked, or
swept by a deactivation, cannot be restored by its issuer under the same hash.
-/

namespace StellarDidCredit.Network

open IdentityOracle (anchorsOf IsAnchor Marked)

variable {w w' : World} {e : Event} {a x issuer : Address} {vcHash : BytesN 32} {s : IdentityOracle.State}
  {ledger now : Ledger} {signers : List Address} {history : List Move}

/-! ## Restored credentials -/

/-- `verify_vc` accepts the hash and `get_vc_details` lists an unrevoked record of the issuer. -/
structure Restored (w : World) (a x issuer : Address) (vcHash : BytesN 32) : Prop where
  verified : w.verifyVc a x vcHash = some true
  listed : ∃ records, w.vcDetails a x = some records ∧
    ∃ record ∈ records, IsAnchor issuer vcHash record ∧ record.revoked = false

/-- What `get_vc_details` lists carries no flag. -/
theorem unmarked_of_listed (hrun : Run Step (.genesis ledger) history w)
    (hs : w.contracts a = some (.identityOracle s)) (hrestored : Restored w a x issuer vcHash) :
    ∃ record ∈ anchorsOf s x, IsAnchor issuer vcHash record ∧ record.revoked = false := by
  obtain ⟨records, hrecords, record, hmem, hanchor, hunmarked⟩ := hrestored.listed
  rw [vcDetails_eq hrun hs, Option.some.injEq] at hrecords
  subst hrecords
  exact ⟨record, (List.mem_filter.mp hmem).1, hanchor, hunmarked⟩

/-- In a reachable state whose registry does not list the hash, the credential is there exactly
when the issuer's record carries no flag. -/
theorem restored_iff (hrun : Run Step (.genesis ledger) history w)
    (hs : w.contracts a = some (.identityOracle s)) (hunlisted : statusOf w.contracts s vcHash = false) :
    Restored w a x issuer vcHash ↔
      ∃ record ∈ anchorsOf s x, IsAnchor issuer vcHash record ∧ record.revoked = false := by
  refine ⟨unmarked_of_listed hrun hs, ?_⟩
  rintro ⟨record, hmem, hanchor, hunmarked⟩
  have hactive : IdentityOracle.isActive (statusOf w.contracts s) record = true := by
    rw [IdentityOracle.isActive, hunmarked, hanchor.1, hunlisted]
    rfl
  refine ⟨?_, _, vcDetails_eq hrun hs x, record, List.mem_filter.mpr ⟨hmem, hactive⟩, hanchor, hunmarked⟩
  rw [verifyVc_eq hrun hs, List.any_eq_true.mpr ⟨record, hmem, ?_⟩]
  rw [hactive, hanchor.1, decide_eq_true rfl]
  rfl

/-- The issuer's record of a hash is the only one. -/
theorem unmarked_iff (hrun : Run Step (.genesis ledger) history w)
    (hs : w.contracts a = some (.identityOracle s))
    (hexists : ∃ record ∈ anchorsOf s x, IsAnchor issuer vcHash record) :
    (∃ record ∈ anchorsOf s x, IsAnchor issuer vcHash record ∧ record.revoked = false) ↔
      ¬Marked issuer vcHash (s.slice x) := by
  constructor
  · rintro ⟨record, hmem, hanchor, hunmarked⟩ ⟨marked, hmem', hanchor', hmarked⟩
    have hsame := (identity_distinct hrun hs x).eq hmem hmem' (hanchor'.2.trans hanchor.2.symm)
      (hanchor'.1.trans hanchor.1.symm)
    rw [hsame, hunmarked] at hmarked
    cases hmarked
  · intro hnone
    obtain ⟨record, hmem, hanchor⟩ := hexists
    refine ⟨record, hmem, hanchor, ?_⟩
    cases hrevoked : record.revoked with
    | false => rfl
    | true => exact (hnone ⟨record, hmem, hanchor, hrevoked⟩).elim

/-- A successful anchoring of a hash that the registry does not list restores the credential
exactly when the issuer has no record of the hash that carries its own flag. -/
theorem reanchoring {call : IdentityOracle.Call} (hrun : Run Step (.genesis ledger) history w)
    (hs : w.contracts a = some (.identityOracle s)) (hcall : call.anchoring = some (issuer, x, vcHash))
    (h : Step w (.invoke now signers a (.identityOracle call)) w')
    (hunlisted : statusOf w.contracts s vcHash = false) :
    Restored w' a x issuer vcHash ↔ ¬Marked issuer vcHash (s.slice x) := by
  have hidentity : identityCall w.contracts a (.invoke now signers a (.identityOracle call)) = some call :=
    if_pos rfl
  obtain ⟨-, hstatus⟩ := anchoring_call h hidentity hcall
  rw [← hstatus] at hunlisted
  rcases anchoring_step hcall hs h with ⟨hexists, hsame⟩ | ⟨hnew, -, s', hset, hlink, -, hanchors, -⟩
  · have hs' : w'.contracts a = some (.identityOracle s) := by rw [hsame, hs]
    rw [restored_iff (hrun.snoc h) hs' hunlisted, unmarked_iff hrun hs hexists]
  · have hs' : w'.contracts a = some (.identityOracle s') := by rw [hset, Storage.set_self]
    rw [← statusOf_congr hlink] at hunlisted
    rw [restored_iff (hrun.snoc h) hs' hunlisted]
    refine iff_of_true ⟨IdentityOracle.anchorRecord (.signedBy now a signers) issuer vcHash, ?_, ?_, rfl⟩ ?_
    · rw [hanchors]
      exact List.mem_append_right _ (List.mem_singleton_self _)
    · exact ⟨rfl, rfl⟩
    · rintro ⟨record, hmem, hanchor, -⟩
      exact hnew record hmem hanchor

/-! ## After a deactivation -/

/-- A flag that is set stays set over a run. -/
theorem marked_run {later : List Move} (hlater : Run Step w later w')
    (hs : w.contracts a = some (.identityOracle s)) (hmarked : Marked issuer vcHash (s.slice x)) :
    ∃ s', w'.contracts a = some (.identityOracle s') ∧ Marked issuer vcHash (s'.slice x) := by
  refine hlater.invariant
    (fun w => ∃ s, w.contracts a = some (.identityOracle s) ∧ Marked issuer vcHash (s.slice x)) ?_
    ⟨s, hs, hmarked⟩
  rintro w e w' ⟨s, hs, hmarked⟩ h
  obtain ⟨s', hs', hchange⟩ := identity_step h hs
  refine ⟨s', hs', ?_⟩
  cases hchange with
  | idle => exact hmarked
  | relinked => exact hmarked
  | acted hcall hnotLink heffects => exact (heffects.slice x).marked hmarked

/-- A deactivation marks every record of the subject. -/
theorem deactivation_step {call : IdentityOracle.Call} (hcall : call.deactivation = some x)
    (hs : w.contracts a = some (.identityOracle s))
    (h : Step w (.invoke now signers a (.identityOracle call)) w') :
    ∃ s', w'.contracts a = some (.identityOracle s') ∧
      anchorsOf s' x = (anchorsOf s x).map IdentityOracle.markRecord := by
  have hcore {env : Env} {count : ℕ} {after : IdentityOracle.State}
      (hdeactivated : IdentityOracle.deactivateCore env x s = .ok (count, after)) :
      anchorsOf after x = (anchorsOf s x).map IdentityOracle.markRecord := by
    obtain ⟨-, _, _, -, hmarked, rfl⟩ := IdentityOracle.deactivateCore_spec hdeactivated
    exact hmarked
  cases step_spec h with
  | invoked hledger hsigners hinvoked =>
    cases hinvoked with
    | @identity call t s' others ht hexec hothers =>
      cases hs.symm.trans ht
      refine ⟨s', Storage.set_self _ _ _, ?_⟩
      cases call with
      | deactivateDid subject =>
        cases hcall
        obtain ⟨-, count, after, hdeactivated, rfl⟩ :=
          IdentityOracle.deactivateDid_spec (IdentityOracle.alone_eq_ok.mp hexec).1
        have hmarked := hcore hdeactivated
        exact hmarked
      | deactivateIdentity subject =>
        cases hcall
        obtain ⟨count, hdeactivated⟩ := Outcome.map_snd_eq_ok.mp (IdentityOracle.alone_eq_ok.mp hexec).1
        exact hcore (IdentityOracle.deactivateIdentity_spec hdeactivated).2
      | _ => cases hcall

/-- A credential that a deactivation swept is not there in any later state, whatever the subject
and the issuer do in between: the issuer's anchorings of the hash succeed without an effect. -/
theorem not_restored_after_deactivation {call : IdentityOracle.Call} {w₀ w₁ : World} {later : List Move}
    (hrun : Run Step (.genesis ledger) history w₀) (hs : w₀.contracts a = some (.identityOracle s))
    (hcall : call.deactivation = some x) (hexists : ∃ record ∈ anchorsOf s x, IsAnchor issuer vcHash record)
    (h : Step w₀ (.invoke now signers a (.identityOracle call)) w₁) (hlater : Run Step w₁ later w) :
    ¬Restored w a x issuer vcHash := by
  obtain ⟨s₁, hs₁, hanchors⟩ := deactivation_step hcall hs h
  obtain ⟨record, hmem, hanchor⟩ := hexists
  have hswept : Marked issuer vcHash (s₁.slice x) := by
    refine ⟨IdentityOracle.markRecord record, ?_, hanchor, rfl⟩
    change IdentityOracle.markRecord record ∈ anchorsOf s₁ x
    rw [hanchors]
    exact List.mem_map_of_mem hmem
  obtain ⟨s', hs', marked, hmem', hanchor', hmarked⟩ := marked_run hlater hs₁ hswept
  have hreach := (hrun.snoc h).append hlater
  intro hrestored
  have hunmarked := unmarked_of_listed hreach hs' hrestored
  exact (unmarked_iff hreach hs' ⟨marked, hmem', hanchor'⟩).mp hunmarked ⟨marked, hmem', hanchor', hmarked⟩

/-! ## The sample credential -/

/-- The issuer of the sample credential anchors a hash for its subject. -/
def sampleAnchoring (ledger : Ledger) (vcHash : BytesN 32) : Event :=
  .invoke ledger [.account 2] (.contract 21) (.identityOracle (.anchorVc (.account 2) (.account 3) vcHash))

/-- A first anchoring is effective. -/
theorem reanchoring_first : ∃ w, Restored w (.contract 21) (.account 3) (.account 2) 8 := by
  let ledger : Ledger := .numbered 0
  obtain ⟨history, w, hrun, hobserved⟩ := Run.exists_of_replay
    (show (replay World.next (.genesis ledger) (sampleDeployment ledger)).map
      (fun r => (onIdentity [] r.2.contracts (.contract 21) fun s =>
          some ((anchorsOf s (.account 3)).map (·.vcHash), statusOf r.2.contracts s 8),
        (r.2.next (sampleAnchoring ledger 8)).isSome)) = some (some ([7], false), true) from rfl)
  obtain ⟨hslice, hnext⟩ := Prod.mk.inj hobserved
  obtain ⟨w', h⟩ := Option.isSome_iff_exists.mp hnext
  obtain ⟨-, s, hs, hobserved⟩ := onIdentity_eq_some.mp hslice
  obtain ⟨hhashes, hunlisted⟩ := Prod.mk.inj (Option.some.inj hobserved)
  refine ⟨w', (reanchoring hrun hs rfl h hunlisted).mpr ?_⟩
  rintro ⟨record, hmem, hanchor, -⟩
  have hhash : record.vcHash ∈ (anchorsOf s (.account 3)).map (·.vcHash) := List.mem_map_of_mem hmem
  rw [hhashes, hanchor.1] at hhash
  exact absurd hhash (by decide)

/-- After a deactivation and a reactivation the issuer anchors the credential again: the call
succeeds, the hash is not listed by the registry, and the credential is not verified. -/
theorem not_reanchoring_reactivated : ∃ ledger history w s w' a x issuer vcHash,
    Run Step (.genesis ledger) history w ∧ w.contracts a = some (.identityOracle s) ∧
    Step w (.invoke ledger [issuer] a (.identityOracle (.anchorVc issuer x vcHash))) w' ∧
    IdentityOracle.isDeactivated s x = false ∧ statusOf w.contracts s vcHash = false ∧
    w'.verifyVc a x vcHash = some false ∧ ¬Restored w' a x issuer vcHash := by
  let ledger : Ledger := .numbered 0
  let reactivation : Event :=
    .invoke ledger [.account 3] (.contract 21) (.identityOracle (.reactivateIdentity (.account 3)))
  obtain ⟨history, w, hrun, hobserved⟩ := Run.exists_of_replay
    (show (replay World.next (.genesis ledger)
        (sampleDeployment ledger ++ [sampleDeactivation ledger, reactivation])).map
      (fun r => (onIdentity [] r.2.contracts (.contract 21) fun s =>
          some (IdentityOracle.isDeactivated s (.account 3), statusOf r.2.contracts s 7),
        (r.2.next (sampleAnchoring ledger 7)).bind
          fun w' => w'.verifyVc (.contract 21) (.account 3) 7)) = some (some (false, false), some false) from rfl)
  obtain ⟨hslice, hnext⟩ := Prod.mk.inj hobserved
  obtain ⟨w', h, hverified⟩ := Option.bind_eq_some_iff.mp hnext
  obtain ⟨-, s, hs, hobserved⟩ := onIdentity_eq_some.mp hslice
  obtain ⟨hactive, hunlisted⟩ := Prod.mk.inj (Option.some.inj hobserved)
  refine ⟨ledger, history, w, s, w', _, _, _, 7, hrun, hs, h, hactive, hunlisted, hverified, ?_⟩
  intro hrestored
  cases hrestored.verified.symm.trans hverified

end StellarDidCredit.Network
