import StellarDidCredit.IdentityOracle.Deactivation
import StellarDidCredit.Network.Anchoring

/-!
# What a deactivation hides

A deactivation sets a flag and sweeps the subject's records once. Only `is_verified` reads the
flag; the other reads go by the records, so they stay silent until a credential is anchored for
the deactivated subject, or a registry is linked that does not list a record the sweep missed.
-/

namespace StellarDidCredit.Network

open IdentityOracle (activeOf anchorsOf IsAnchor AnchorsNoneActive Suppressed)

variable {w w' : World} {e : Event} {a x : Address} {s : IdentityOracle.State} {ledger : Ledger}
  {history : List Move}

/-! ## Silence -/

/-- Every read of the subject's credentials finds none. -/
structure Silent (w : World) (a x : Address) : Prop where
  isVerified : w.isVerified a x = some false
  verifyVc : ∀ vcHash, w.verifyVc a x vcHash = some false
  vcDetails : w.vcDetails a x = some []
  activeVcCount : w.activeVcCount a x = some 0

/-- A deactivated subject is silent. -/
def SilentWhenDeactivated (w : World) (a x : Address) : Prop :=
  w.isDeactivated a x = some true → Silent w a x

/-- In a reachable state a deactivated subject is silent when nothing is active. -/
theorem silentWhenDeactivated_iff (hrun : Run Step (.genesis ledger) history w)
    (hs : w.contracts a = some (.identityOracle s)) :
    SilentWhenDeactivated w a x ↔
      (IdentityOracle.isDeactivated s x = true → Suppressed (statusOf w.contracts s) (s.slice x)) := by
  unfold SilentWhenDeactivated
  rw [isDeactivated_eq hs, Option.some.injEq]
  refine imp_congr_right fun hdeactivated => ?_
  have hcount := activeVcCount_eq hrun hs x
  constructor
  · intro hsilent
    have hinactive : activeOf (statusOf w.contracts s) (anchorsOf s x) = [] := by
      rw [← Option.some.injEq, ← vcDetails_eq hrun hs, hsilent.vcDetails]
    refine ⟨hinactive, ?_⟩
    intro count hcached
    have hcached : s.activeVCCount x = some count := hcached
    rw [hsilent.activeVcCount, hcached, Option.getD_some] at hcount
    exact (Option.some.inj hcount).symm
  · intro hsuppressed
    have hinactive : activeOf (statusOf w.contracts s) (anchorsOf s x) = [] := hsuppressed.inactive
    refine ⟨isVerified_deactivated hs hdeactivated, ?_, ?_, ?_⟩
    · intro vcHash
      rw [verifyVc_eq hrun hs, Option.some.injEq, List.any_eq_false]
      intro record hmem
      have hnot := List.filter_eq_nil_iff.mp hinactive record hmem
      simp only [Bool.and_eq_true, not_and]
      exact fun _ => hnot
    · rw [vcDetails_eq hrun hs, hinactive]
    · rw [hcount, hinactive]
      cases hcached : s.activeVCCount x with
      | none => rfl
      | some count => rw [hsuppressed.uncounted count hcached, Option.getD_some]

/-! ## One step -/

/-- While the subject is deactivated, the step anchors no credential for it that would be active,
and a registry that is linked lists every record without a flag of its own. -/
def KeepsSilent (a x : Address) (t : Move) : Prop :=
  ∀ s, t.before.contracts a = some (.identityOracle s) → IdentityOracle.isDeactivated s x = true →
    (∀ call, identityCall t.before.contracts a t.event = some call →
      AnchorsNoneActive (statusOf t.before.contracts s) x (s.slice x) call) ∧
    ∀ r, identityCall t.before.contracts a t.event = some (.setRevocationRegistry r) →
      ∀ record ∈ anchorsOf s x, record.revoked = false →
        registryStatus t.before.contracts r record.vcHash = true

/-- An anchoring call comes from the issuer itself, and the registry does not change. -/
theorem anchoring_call {call : IdentityOracle.Call} {issuer : Address} {vcHash : BytesN 32} (h : Step w e w')
    (hcall : identityCall w.contracts a e = some call) (hanchoring : call.anchoring = some (issuer, x, vcHash)) :
    (∃ now signers, e = .invoke now signers a (.identityOracle call)) ∧
      ∀ s, statusOf w'.contracts s = statusOf w.contracts s := by
  rcases identityCall_cases hcall with ⟨now, signers, rfl⟩ | ⟨_, _, _, _, _, _, _, _, _, _, rfl⟩ |
    ⟨_, _, _, _, _, rfl⟩
  · exact ⟨⟨now, signers, rfl⟩, fun s =>
      statusOf_eq h (linkedRevocations_eq_nil s fun _ hother => by cases hother)⟩
  · cases hanchoring
  · cases hanchoring

/-- A step that keeps the subject silent leaves nothing active. -/
theorem silent_step (hrun : Run Step (.genesis ledger) history w) (h : Step w e w')
    (hs : w.contracts a = some (.identityOracle s)) (hsilent : SilentWhenDeactivated w a x)
    (hkeeps : KeepsSilent a x ⟨w, e, w'⟩) : SilentWhenDeactivated w' a x := by
  rw [silentWhenDeactivated_iff hrun hs] at hsilent
  obtain ⟨s', hs', hchange⟩ := identity_step h hs
  rw [silentWhenDeactivated_iff (hrun.snoc h) hs']
  intro hafter
  cases hchange with
  | idle => exact (hsilent hafter).mono (statusOf_mono h s)
  | @relinked r admin hcall =>
    refine ⟨?_, (hsilent hafter).uncounted⟩
    rw [statusOf_relinked h hcall, IdentityOracle.activeOf_eq_nil]
    exact (hkeeps s hs hafter).2 r hcall
  | @acted call _ hcall hnotLink heffects =>
    rw [statusOf_congr heffects.link]
    cases hbefore : IdentityOracle.isDeactivated s x with
    | false => exact (heffects.slice x).suppressed_of_flag hbefore hafter
    | true =>
      refine (heffects.slice x).suppressed ((hsilent hbefore).mono (statusOf_mono h s)) ?_
      intro issuer vcHash hanchoring hnew
      exact statusOf_mono h s vcHash ((hkeeps s hs hbefore).1 call hcall issuer vcHash hanchoring hnew)

/-- In a run whose steps all keep the subject silent, it is silent at the end. -/
theorem silent_run (hrun : Run Step (.genesis ledger) history w) (hkeeps : ∀ t ∈ history, KeepsSilent a x t) :
    SilentWhenDeactivated w a x := by
  induction hrun with
  | nil =>
    intro hdeactivated
    obtain ⟨-, s, hs, -⟩ := onIdentity_eq_some.mp hdeactivated
    cases hs
  | @snoc history w e w' hbefore h ih =>
    have hsilent := ih (fun t ht => hkeeps t (List.mem_append_left _ ht))
    intro hdeactivated
    obtain ⟨-, s', hs', hflag⟩ := onIdentity_eq_some.mp hdeactivated
    rcases identity_origin h hs' with ⟨-, rfl⟩ | ⟨s, hs, -⟩
    · cases hflag
    · exact silent_step hbefore h hs hsilent (hkeeps _ (List.mem_append_right _ List.mem_cons_self))
        hdeactivated

/-- A step after which the subject is silent kept it silent. -/
theorem keepsSilent_of_silent (hrun : Run Step (.genesis ledger) history w) (h : Step w e w')
    (hsilent : SilentWhenDeactivated w' a x) : KeepsSilent a x ⟨w, e, w'⟩ := by
  intro s hs hdeactivated
  obtain ⟨s', hs', hchange⟩ := identity_step h hs
  rw [silentWhenDeactivated_iff (hrun.snoc h) hs'] at hsilent
  refine ⟨?_, ?_⟩
  · intro call hcall issuer vcHash hanchoring hnew
    obtain ⟨⟨now, signers, rfl⟩, hstatus⟩ := anchoring_call h hcall hanchoring
    rcases anchoring_step hanchoring hs h with ⟨⟨record, hmem, hanchor⟩, -⟩ |
      ⟨-, -, after, hset, hlink, hflags, hanchors, -⟩
    · exact absurd hanchor (hnew record hmem)
    · rw [hset, Storage.set_self] at hs'
      cases hs'
      have hafter : IdentityOracle.isDeactivated s' x = true := by
        rw [IdentityOracle.isDeactivated, hflags]
        exact hdeactivated
      have hinactive := (hsilent hafter).inactive
      rw [statusOf_congr hlink, hstatus] at hinactive
      have hmem : IdentityOracle.anchorRecord (.signedBy now a signers) issuer vcHash ∈ anchorsOf s' x := by
        rw [hanchors]
        exact List.mem_append_right _ (List.mem_singleton_self _)
      exact IdentityOracle.activeOf_eq_nil.mp hinactive _ hmem rfl
  · intro r hcall
    cases hchange with
    | idle hidle => cases hidle.symm.trans hcall
    | relinked hlink =>
      cases hlink.symm.trans hcall
      have hinactive := (hsilent hdeactivated).inactive
      rw [statusOf_relinked h hcall] at hinactive
      exact IdentityOracle.activeOf_eq_nil.mp hinactive
    | acted hacted hnotLink => exact absurd (Option.some.inj (hacted.symm.trans hcall)) (hnotLink r)

/-- A deactivated subject stays deactivated until it reactivates its identity. -/
theorem reactivation_step (h : Step w e w') (hbefore : w.isDeactivated a x = some true)
    (hafter : w'.isDeactivated a x ≠ some true) :
    x ∈ signersOf e ∧ identityCall w.contracts a e = some (.reactivateIdentity x) := by
  obtain ⟨-, s, hs, hflag⟩ := onIdentity_eq_some.mp hbefore
  have hbefore : IdentityOracle.isDeactivated s x = true := Option.some.inj hflag
  obtain ⟨s', hs', hchange⟩ := identity_step h hs
  rw [isDeactivated_eq hs', ne_eq, Option.some.injEq, Bool.not_eq_true] at hafter
  cases hchange with
  | idle => cases hbefore.symm.trans hafter
  | relinked => cases hbefore.symm.trans hafter
  | acted hcall hnotLink heffects =>
    obtain ⟨rfl, hauth⟩ := (heffects.slice x).reactivates hbefore hafter
    exact ⟨authorized_signedBy hauth, hcall⟩

/-! ## Main result -/

/-- In a run whose steps all keep a deactivated subject silent, a deactivated subject is silent,
and the next step leaves it silent exactly when it keeps it silent. The flag is cleared by the
subject's reactivation only. -/
theorem deactivation_silence (hrun : Run Step (.genesis ledger) history w) :
    ((∀ t ∈ history, KeepsSilent a x t) → SilentWhenDeactivated w a x ∧
      ∀ e w', Step w e w' → (SilentWhenDeactivated w' a x ↔ KeepsSilent a x ⟨w, e, w'⟩)) ∧
    ∀ e w', Step w e w' → w.isDeactivated a x = some true → w'.isDeactivated a x ≠ some true →
      x ∈ signersOf e ∧ identityCall w.contracts a e = some (.reactivateIdentity x) := by
  refine ⟨?_, fun e w' h => reactivation_step h⟩
  intro hkeeps
  have hsilent := silent_run hrun hkeeps
  refine ⟨hsilent, fun e w' h => ⟨keepsSilent_of_silent hrun h, ?_⟩⟩
  intro hkeep
  refine silent_run (hrun.snoc h) (List.forall_mem_append.mpr ⟨hkeeps, ?_⟩)
  exact List.forall_mem_singleton.mpr hkeep

/-- There is nothing to keep while the subject is not deactivated. -/
theorem keepsSilent_of_active {t : Move} (h : t.before.isDeactivated a x ≠ some true) : KeepsSilent a x t := by
  intro s hs hdeactivated
  rw [isDeactivated_eq hs, hdeactivated] at h
  exact absurd rfl h

/-- The subject of the sample credential deactivates its identity. -/
def sampleDeactivation (ledger : Ledger) : Event :=
  .invoke ledger [.account 3] (.contract 21) (.identityOracle (.deactivateIdentity (.account 3)))

/-- Right after the deactivation the subject is silent. -/
theorem deactivation_silence_sample : ∃ w, w.isDeactivated (.contract 21) (.account 3) = some true ∧
    Silent w (.contract 21) (.account 3) := by
  let ledger : Ledger := .numbered 0
  obtain ⟨history, w, hrun, hobserved⟩ := Run.exists_of_replay
    (show (replay World.next (.genesis ledger) (sampleDeployment ledger ++ [sampleDeactivation ledger])).map
      (fun r => (r.1.all fun t => !(t.before.isDeactivated (.contract 21) (.account 3) == some true),
        r.2.isDeactivated (.contract 21) (.account 3))) = some (true, some true) from rfl)
  obtain ⟨hactive, hdeactivated⟩ := Prod.mk.inj hobserved
  refine ⟨w, hdeactivated, ((deactivation_silence hrun).1 ?_).1 hdeactivated⟩
  intro t ht
  have hbefore := List.all_eq_true.mp hactive t ht
  exact keepsSilent_of_active (by simpa using hbefore)

/-- An issuer anchors another credential for the deactivated subject, which is verified and counted. -/
theorem not_deactivation_silence_anchored : ∃ ledger history w a x vcHash, Run Step (.genesis ledger) history w ∧
    w.isDeactivated a x = some true ∧ w.verifyVc a x vcHash = some true ∧ w.activeVcCount a x = some 1 ∧
    w.vcDetails a x ≠ some [] := by
  let ledger : Ledger := .numbered 0
  let e : Event := .invoke ledger [.account 2] (.contract 21)
    (.identityOracle (.anchorVc (.account 2) (.account 3) 8))
  obtain ⟨history, w, hrun, hobserved⟩ := Run.exists_of_replay
    (show (replay World.next (.genesis ledger) (sampleDeployment ledger ++ [sampleDeactivation ledger, e])).map
      (fun r => (r.2.isDeactivated (.contract 21) (.account 3), r.2.verifyVc (.contract 21) (.account 3) 8,
        r.2.activeVcCount (.contract 21) (.account 3),
        (r.2.vcDetails (.contract 21) (.account 3)).map List.length)) =
      some (some true, some true, some 1, some 1) from rfl)
  simp only [Prod.mk.injEq] at hobserved
  obtain ⟨hdeactivated, hverified, hcount, hdetails⟩ := hobserved
  refine ⟨ledger, history, w, _, _, 8, hrun, hdeactivated, hverified, hcount, ?_⟩
  intro hnone
  rw [hnone] at hdetails
  cases hdetails

end StellarDidCredit.Network
