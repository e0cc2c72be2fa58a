import StellarDidCredit.Network.Queries

/-!
# Who can turn off a credential

A record is revoked by its own flag or by the flag of its hash in the linked registry. The
own flag is set by the record's issuer or its subject. The flag of the registry belongs to
the first address that revokes the hash. For a single hash the linked identity oracle is asked
whether that address has anchored it, for a batch nobody is: whoever comes first turns off
every record of the hash, whoever issued it.
-/

namespace StellarDidCredit.Network

variable {w w' : World} {e : Event} {a x issuer : Address} {vcHash : BytesN 32}

/-! ## Authorities -/

/-- The issuer marked the subject's record, or revoked the hash in a registry. -/
def ByIssuer (e : Event) (a x issuer : Address) (vcHash : BytesN 32) : Prop :=
  issuer ∈ signersOf e ∧ ∃ ledger signers,
    e = .invoke ledger signers a (.identityOracle (.markVcRevoked issuer x vcHash)) ∨
    ∃ r call vcHashes, e = .invoke ledger signers r (.revocationRegistry call) ∧
      call.revocation = some (issuer, vcHashes) ∧ vcHash ∈ vcHashes

/-- The subject deactivated its identity. -/
def BySubject (e : Event) (a x : Address) : Prop :=
  x ∈ signersOf e ∧ ∃ ledger signers call,
    e = .invoke ledger signers a (.identityOracle call) ∧ call.deactivation = some x

/-- The admin of the identity oracle linked another registry. -/
def ByAdmin (w : World) (e : Event) (a : Address) : Prop :=
  ∃ s admin ledger signers r, w.contracts a = some (.identityOracle s) ∧ s.admin = some admin ∧
    admin ∈ signersOf e ∧ e = .invoke ledger signers a (.identityOracle (.setRevocationRegistry r))

/-- The hash had no registered issuer in the linked registry, and whoever revoked it there is
its registered issuer now. -/
def ByFirstRevoker (w : World) (e : Event) (w' : World) (a : Address) (vcHash : BytesN 32) : Prop :=
  ∃ s r q q' revoker ledger signers call vcHashes, w.contracts a = some (.identityOracle s) ∧
    s.revocationRegistryId = some r ∧ w.contracts r = some (.revocationRegistry q) ∧
    w'.contracts r = some (.revocationRegistry q') ∧ revoker ∈ signersOf e ∧
    e = .invoke ledger signers r (.revocationRegistry call) ∧
    call.revocation = some (revoker, vcHashes) ∧ vcHash ∈ vcHashes ∧
    q.registeredVCIssuer vcHash = none ∧ q'.registeredVCIssuer vcHash = some revoker

/-- The event revokes the hash in the linked registry for the first time, and not for the record's
issuer. -/
def FirstRevokedByOther (w : World) (e : Event) (a issuer : Address) (vcHash : BytesN 32) : Prop :=
  ∃ s r q revoker ledger signers call vcHashes, w.contracts a = some (.identityOracle s) ∧
    s.revocationRegistryId = some r ∧ w.contracts r = some (.revocationRegistry q) ∧
    e = .invoke ledger signers r (.revocationRegistry call) ∧
    call.revocation = some (revoker, vcHashes) ∧ vcHash ∈ vcHashes ∧
    q.registeredVCIssuer vcHash = none ∧ revoker ≠ issuer

section Reachable

variable {ledger : Ledger} {history : List Move} {s : IdentityOracle.State}

/-- A hash that becomes revoked in the linked registry was revoked there for the first time. -/
theorem byFirstRevoker_of_status (hrun : Run Step (.genesis ledger) history w) (h : Step w e w')
    (hs : w.contracts a = some (.identityOracle s)) (hbefore : statusOf w.contracts s vcHash = false)
    (hafter : statusOf w'.contracts s vcHash = true) : ByFirstRevoker w e w' a vcHash := by
  rw [statusOf_step h, hbefore, Bool.false_or, decide_eq_true_iff] at hafter
  unfold linkedRevocations at hafter
  split at hafter
  case h_1 r hr =>
    obtain ⟨ledger', signers, call, revoker, vcHashes, q, q', rfl, hcall, hmem, hsigned, hq, hq', hrevokes⟩ :=
      revokedAt_spec h hafter
    have hunflagged : RevocationRegistry.isRevoked q vcHash = false := by
      rw [← registryStatus_eq hq, ← hbefore]
      simp only [statusOf, hr]
    have hunregistered : q.registeredVCIssuer vcHash = none := by
      rw [registry_consistent hrun hq, Option.isSome_eq_false_iff, Option.isNone_iff_eq_none] at hunflagged
      exact hunflagged
    have hregistered : q'.registeredVCIssuer vcHash = some revoker := by
      rw [hrevokes.registered, if_pos hmem]
    exact ⟨s, r, q, q', revoker, ledger', signers, call, vcHashes, hs, hr, hq, hq', hsigned, rfl, hcall,
      hmem, hunregistered, hregistered⟩
  case h_2 => cases hafter

/-- A record that is active before a step and revoked after it was turned off by its issuer,
by its subject, by the admin linking another registry, or by the first address that revoked
its hash in the linked registry. -/
theorem revocation_cases (hrun : Run Step (.genesis ledger) history w) (h : Step w e w')
    (hactive : w.recordRevoked a x issuer vcHash = some false)
    (hrevoked : w'.recordRevoked a x issuer vcHash = some true) :
    ByIssuer e a x issuer vcHash ∨ BySubject e a x ∨ ByAdmin w e a ∨ ByFirstRevoker w e w' a vcHash := by
  obtain ⟨-, s, hs, -⟩ := onIdentity_eq_some.mp hactive
  obtain ⟨s', hs', hchange⟩ := identity_step h hs
  obtain ⟨record, hmem, ⟨rfl, rfl⟩, hon⟩ := (recordRevoked_eq_some hrun hs).mp hactive
  obtain ⟨record', hmem', ⟨hhash, hissuer⟩, hoff⟩ :=
    (recordRevoked_eq_some (hrun.snoc h) hs').mp hrevoked
  have hdistinct := identity_distinct hrun hs x
  -- a record that did not change itself became revoked through the linked registry
  have hunchanged (hsame : record' = record) (hlink : s'.revocationRegistryId = s.revocationRegistryId) :
      ByFirstRevoker w e w' a record.vcHash := by
    rw [hsame, statusOf_congr hlink] at hoff
    have hbefore : record.revoked = false ∧ statusOf w.contracts s record.vcHash = false := by
      simpa [IdentityOracle.isActive] using hon
    have hafter : statusOf w'.contracts s record.vcHash = true := by
      simpa [IdentityOracle.isActive, hbefore.1] using hoff
    exact byFirstRevoker_of_status hrun h hs hbefore.2 hafter
  cases hchange with
  | idle hcall =>
    exact Or.inr (Or.inr (Or.inr (hunchanged (hdistinct.eq hmem hmem' hissuer hhash) rfl)))
  | @relinked r admin hcall hadmin hauth hregistry =>
    rcases identityCall_cases hcall with ⟨ledger', signers, rfl⟩ | ⟨_, _, _, _, _, _, _, _, _, _, hother⟩ |
      ⟨_, _, _, _, _, hother⟩
    · exact Or.inr (Or.inr (Or.inl ⟨s, admin, ledger', signers, r, hs, hadmin, hauth, rfl⟩))
    · cases hother
    · cases hother
  | @acted call _ hcall hnotLink heffects =>
    rcases (heffects.slice x).record_cases hdistinct hmem hmem' hissuer hhash with
      hsame | ⟨rfl, hauth⟩ | ⟨hdeactivation, hauth⟩
    · exact Or.inr (Or.inr (Or.inr (hunchanged hsame heffects.link)))
    · refine Or.inl ⟨authorized_signedBy hauth, ?_⟩
      rcases identityCall_cases hcall with ⟨ledger', signers, rfl⟩ |
        ⟨ledger', signers, r, q, _, _, _, rfl, hq, hlinked, hmark⟩ | ⟨_, _, _, _, _, hother⟩
      · exact ⟨ledger', signers, Or.inl rfl⟩
      · cases hmark
        exact ⟨ledger', signers, Or.inr ⟨r, _, _, rfl, rfl, List.mem_singleton_self _⟩⟩
      · cases hother
    · refine Or.inr (Or.inl ⟨authorized_signedBy hauth, ?_⟩)
      rcases identityCall_cases hcall with ⟨ledger', signers, rfl⟩ |
        ⟨_, _, _, _, _, _, _, _, _, _, rfl⟩ | ⟨_, _, _, _, _, rfl⟩
      · exact ⟨ledger', signers, call, rfl, hdeactivation⟩
      · cases hdeactivation
      · cases hdeactivation

/-- A revocation in the linked registry turns off every record of the hash. -/
theorem recordRevoked_of_listed {record : IdentityVCRecord} (hrun : Run Step (.genesis ledger) history w)
    (h : Step w e w') (hs : w.contracts a = some (.identityOracle s))
    (hmem : record ∈ IdentityOracle.anchorsOf s x) (hlisted : record.vcHash ∈ linkedRevocations s e) :
    w'.recordRevoked a x record.issuer record.vcHash = some true := by
  obtain ⟨s', hs', hchange⟩ := identity_step h hs
  have hkept : s'.revocationRegistryId = s.revocationRegistryId ∧
      ∃ record' ∈ IdentityOracle.anchorsOf s' x, IdentityOracle.IsAnchor record.issuer record.vcHash record' := by
    cases hchange with
    | idle => exact ⟨rfl, record, hmem, rfl, rfl⟩
    | relinked hcall =>
      -- a step that links a registry revokes nothing there
      rcases identityCall_cases hcall with ⟨_, _, rfl⟩ | ⟨_, _, _, _, _, _, _, _, _, _, hother⟩ |
        ⟨_, _, _, _, _, hother⟩
      · cases hregistry : s.revocationRegistryId <;> simp [linkedRevocations, revokedAt, hregistry] at hlisted
      · cases hother
      · cases hother
    | acted hcall hnotLink heffects => exact ⟨heffects.link, (heffects.slice x).exists_kept hmem⟩
  obtain ⟨hlink, record', hmem', hanchor⟩ := hkept
  refine (recordRevoked_eq_some (hrun.snoc h) hs').mpr ⟨record', hmem', hanchor, ?_⟩
  have hflag : statusOf w'.contracts s' record'.vcHash = true := by
    rw [hanchor.1, statusOf_congr hlink, statusOf_step h, decide_eq_true hlisted, Bool.or_true]
  simp [IdentityOracle.isActive, hflag]

/-- In a reachable state, a step turns off an active record on the authority of its issuer, its subject or
the admin only, exactly when it is not the first revocation of the hash by another address. -/
theorem revocation_authority (hrun : Run Step (.genesis ledger) history w) (h : Step w e w')
    (hactive : w.recordRevoked a x issuer vcHash = some false) :
    (w'.recordRevoked a x issuer vcHash = some true →
        ByIssuer e a x issuer vcHash ∨ BySubject e a x ∨ ByAdmin w e a) ↔
      ¬FirstRevokedByOther w e a issuer vcHash := by
  constructor
  · rintro hauthorised ⟨s, r, q, revoker, ledger', signers, call, vcHashes, hs, hr, hq, rfl, hcall, hmem,
      hunregistered, hother⟩
    obtain ⟨record, hrecord, ⟨rfl, rfl⟩, -⟩ := (recordRevoked_eq_some hrun hs).mp hactive
    have hlisted : record.vcHash ∈
        linkedRevocations s (.invoke ledger' signers r (.revocationRegistry call)) := by
      simpa [linkedRevocations, hr, revokedAt, RevocationRegistry.Call.revokedHashes, hcall] using hmem
    rcases hauthorised (recordRevoked_of_listed hrun h hs hrecord hlisted) with
      ⟨-, _, _, hmark | ⟨_, call', _, hrevocation, hcall', -⟩⟩ | ⟨-, _, _, _, hdeactivation, -⟩ |
        ⟨_, _, _, _, _, -, -, -, hlink⟩
    · cases hmark
    · cases hrevocation
      cases hcall.symm.trans hcall'
      exact hother rfl
    · cases hdeactivation
    · cases hlink
  · intro hnone hrevoked
    rcases revocation_cases hrun h hactive hrevoked with hissuer | hsubject | hadmin |
      ⟨s, r, q, q', revoker, ledger', signers, call, vcHashes, hs, hr, hq, hq', hsigned, rfl, hcall, hmem,
        hunregistered, hregistered⟩
    · exact Or.inl hissuer
    · exact Or.inr (Or.inl hsubject)
    · exact Or.inr (Or.inr hadmin)
    · by_cases hrevoker : revoker = issuer
      · subst hrevoker
        exact Or.inl ⟨hsigned, ledger', signers, Or.inr ⟨r, call, vcHashes, rfl, hcall, hmem⟩⟩
      · exact absurd ⟨s, r, q, revoker, ledger', signers, call, vcHashes, hs, hr, hq, rfl, hcall, hmem,
          hunregistered, hrevoker⟩ hnone

end Reachable

/-! ## The first revoker -/

/-- An identity oracle at the address 21, linked to a registry at 20 and serving a credit oracle
at 22, with one credential of the subject 3 from the issuer 2. Their admin is the account 1. -/
def sampleDeployment (ledger : Ledger) : List Event :=
  [ .deploy ledger (.contract 20) .revocationRegistry,
    .deploy ledger (.contract 21) .identityOracle,
    .deploy ledger (.contract 22) .creditOracle,
    .invoke ledger [.account 1] (.contract 20) (.revocationRegistry (.initializeContract (.account 1))),
    .invoke ledger [.account 1] (.contract 21) (.identityOracle (.initializeContract (.account 1))),
    .invoke ledger [.account 1] (.contract 22) (.creditOracle (.initializeContract (.account 1))),
    .invoke ledger [.account 1] (.contract 21) (.identityOracle (.setRevocationRegistry (.contract 20))),
    .invoke ledger [.account 1] (.contract 21) (.identityOracle (.registerIssuer (.account 2))),
    .invoke ledger [.account 1] (.contract 22)
      (.creditOracle (.setIdentityOracle (.account 1) (.contract 21))),
    .invoke ledger [.account 2] (.contract 21)
      (.identityOracle (.anchorVc (.account 2) (.account 3) 7)) ]

/-- An account without any role revokes the hash of that credential. -/
def sampleFirstRevocation (ledger : Ledger) : Event :=
  .invoke ledger [.account 9] (.contract 20) (.revocationRegistry (.batchRevoke (.account 9) [7]))

/-- The credential is turned off. -/
theorem sampleFirstRevocation_run : ∃ ledger history w w', Run Step (.genesis ledger) history w ∧
    Step w (sampleFirstRevocation ledger) w' ∧
    w.recordRevoked (.contract 21) (.account 3) (.account 2) 7 = some false ∧
    w'.recordRevoked (.contract 21) (.account 3) (.account 2) 7 = some true := by
  let ledger : Ledger := .numbered 0
  obtain ⟨history, w, hrun, hobserved⟩ := Run.exists_of_replay
    (show (replay World.next (.genesis ledger) (sampleDeployment ledger)).map
      (fun r => (r.2.recordRevoked (.contract 21) (.account 3) (.account 2) 7,
        (r.2.next (sampleFirstRevocation ledger)).bind
          fun w' => w'.recordRevoked (.contract 21) (.account 3) (.account 2) 7)) =
      some (some false, some true) from rfl)
  obtain ⟨hactive, hnext⟩ := Prod.mk.inj hobserved
  obtain ⟨w', hstep, hrevoked⟩ := Option.bind_eq_some_iff.mp hnext
  exact ⟨ledger, history, w, w', hrun, hstep, hactive, hrevoked⟩

/-- The first revocation of the sample is by somebody else. -/
theorem revocation_authority_firstRevoker : ∃ w e w', Step w e w' ∧
    ((w'.recordRevoked (.contract 21) (.account 3) (.account 2) 7 = some true →
        ByIssuer e (.contract 21) (.account 3) (.account 2) 7 ∨ BySubject e (.contract 21) (.account 3) ∨
          ByAdmin w e (.contract 21)) ↔
      ¬FirstRevokedByOther w e (.contract 21) (.account 2) 7) := by
  obtain ⟨ledger, history, w, w', hrun, hstep, hactive, -⟩ := sampleFirstRevocation_run
  exact ⟨w, _, w', hstep, revocation_authority hrun hstep hactive⟩

/-- The first revoker of a hash need be none of the record's issuer, its subject and the admin. -/
theorem not_revocation_authority_issuer : ∃ ledger history w e w' a x issuer vcHash,
    Run Step (.genesis ledger) history w ∧ Step w e w' ∧
    w.recordRevoked a x issuer vcHash = some false ∧ w'.recordRevoked a x issuer vcHash = some true ∧
    ¬(ByIssuer e a x issuer vcHash ∨ BySubject e a x ∨ ByAdmin w e a) := by
  obtain ⟨ledger, history, w, w', hrun, hstep, hactive, hrevoked⟩ := sampleFirstRevocation_run
  refine ⟨ledger, history, w, _, w', _, _, _, _, hrun, hstep, hactive, hrevoked, ?_⟩
  rintro (⟨hsigned, -⟩ | ⟨hsigned, -⟩ | ⟨s, admin, _, _, r, -, -, -, hcall⟩)
  · exact absurd (List.mem_singleton.mp hsigned) (by decide)
  · exact absurd (List.mem_singleton.mp hsigned) (by decide)
  · cases hcall

end StellarDidCredit.Network
