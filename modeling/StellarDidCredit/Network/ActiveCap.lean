import StellarDidCredit.IdentityOracle.Limit
import StellarDidCredit.Network.Revocation

/-!
# The cap on active credentials

The list of a subject's records grows without bound; what is limited is how many of them are active,
with the flags of the linked registry. An anchoring raises that number by one and needs it to be
below the limit. Nothing else raises it, as long as the link stays where it is: flags are only set,
in the identity oracle and in the registry. A first link only adds flags.
-/

namespace StellarDidCredit.Network

variable {w w' : World} {e : Event} {a x : Address} {s s' : IdentityOracle.State} {ledger : Ledger}
  {history : List Move}

/-- The records of a subject that are active in a state. -/
def activeRecordsAt (contracts : Contracts) (s : IdentityOracle.State) (x : Address) : List IdentityVCRecord :=
  IdentityOracle.activeOf (statusOf contracts s) (IdentityOracle.anchorsOf s x)

/-- The step does not move the link of the identity oracle from one registry to another. -/
def KeepsRegistry (a : Address) (t : Move) : Prop :=
  ∀ s s', t.before.contracts a = some (.identityOracle s) → t.after.contracts a = some (.identityOracle s') →
    ∀ r, s.revocationRegistryId = some r → s'.revocationRegistryId = some r

/-! ## One step -/

/-- A first link, or the same one again, adds flags only. -/
theorem active_le_relinked (h : Step w e w') {r : Address}
    (hcall : identityCall w.contracts a e = some (.setRevocationRegistry r))
    (hkeeps : ∀ r', s.revocationRegistryId = some r' → r = r') :
    (activeRecordsAt w'.contracts { s with revocationRegistryId := some r } x).length ≤
      (activeRecordsAt w.contracts s x).length := by
  refine IdentityOracle.activeOf_length_anti (fun vcHash hflagged => ?_) _
  rw [statusOf_relinked h hcall]
  unfold statusOf at hflagged
  cases hlink : s.revocationRegistryId with
  | none =>
    rw [hlink] at hflagged
    cases hflagged
  | some r' =>
    rw [hlink] at hflagged
    rwa [hkeeps r' hlink]

/-- An anchoring that appends a record found fewer active ones than the limit. -/
theorem active_lt_of_anchoring (h : Step w e w') (hs : w.contracts a = some (.identityOracle s))
    {call : IdentityOracle.Call} {issuer : Address} {vcHash : BytesN 32}
    (hcall : identityCall w.contracts a e = some call) (hanchors : call.anchoring = some (issuer, x, vcHash))
    (hnew : ∀ record ∈ IdentityOracle.anchorsOf s x, ¬IdentityOracle.IsAnchor issuer vcHash record) :
    (activeRecordsAt w.contracts s x).length < IdentityOracle.maxVcsPerSubject := by
  obtain ⟨s', -, hcalled⟩ := identity_called h hs
  have hlimit {env : Env} {s' : IdentityOracle.State} {credentialType : CredentialType}
      (hanchored : IdentityOracle.anchorVcTyped (identityHost env [a]) env issuer x vcHash credentialType s
        w.contracts = .ok s') : (activeRecordsAt w.contracts s x).length < IdentityOracle.maxVcsPerSubject := by
    obtain ⟨-, -, ⟨⟨record, hmem, hanchor⟩, -⟩ | ⟨-, hbelow, -⟩⟩ :=
      IdentityOracle.anchorVcTyped_spec (sees_statusOf s) hanchored
    · exact absurd hanchor (hnew record hmem)
    · exact hbelow
  cases hcalled with
  | idle hidle => cases hidle.symm.trans hcall
  | @own ledger signers executed _ _ he hexec =>
    subst he
    have hsame : some executed = some call := (if_pos rfl).symm.trans hcall
    obtain rfl := Option.some.inj hsame
    cases executed with
    | anchorVc issuer' subject vcHash' =>
      cases hanchors
      exact hlimit (IdentityOracle.alone_eq_ok.mp hexec).1
    | anchorVcTyped issuer' subject vcHash' credentialType =>
      cases hanchors
      exact hlimit (IdentityOracle.alone_eq_ok.mp hexec).1
    | _ => cases hanchors
  | probed he =>
    subst he
    have hsame : some (IdentityOracle.Call.getActiveVcCount _) = some call := (if_pos rfl).symm.trans hcall
    cases Option.some.inj hsame
    cases hanchors
  | forwarded he hq hlink =>
    subst he
    rw [identityCall_revoke hq, if_pos hlink] at hcall
    cases Option.some.inj hcall
    cases hanchors

/-- A step that keeps the link keeps the number of active records within the limit. -/
theorem active_le_step (h : Step w e w') (hs : w.contracts a = some (.identityOracle s))
    (hs' : w'.contracts a = some (.identityOracle s')) (hkeeps : KeepsRegistry a ⟨w, e, w'⟩)
    (hlimit : (activeRecordsAt w.contracts s x).length ≤ IdentityOracle.maxVcsPerSubject) :
    (activeRecordsAt w'.contracts s' x).length ≤ IdentityOracle.maxVcsPerSubject := by
  have hflags := IdentityOracle.activeOf_length_anti (statusOf_mono h s) (IdentityOracle.anchorsOf s x)
  have hlink := hkeeps s s' hs hs'
  obtain ⟨after, hafter, hchange⟩ := identity_step h hs
  cases hafter.symm.trans hs'
  cases hchange with
  | idle => exact hflags.trans hlimit
  | relinked hcall =>
    exact (active_le_relinked h hcall fun r' hr' => Option.some.inj (hlink r' hr')).trans hlimit
  | @acted call _ hcall hnotLink heffects =>
    unfold activeRecordsAt
    rw [statusOf_congr heffects.link]
    rcases (heffects.slice x).active_cases with ⟨issuer, vcHash, hanchors, hnew, happended⟩ | hle
    · -- one record more at most, and the recount found room for it
      have hroom := hflags.trans_lt (active_lt_of_anchoring h hs hcall hanchors hnew)
      change (IdentityOracle.activeOf _ (s'.slice x).anchors).length ≤ _
      rw [happended, IdentityOracle.activeOf_append_anchorRecord]
      split
      · exact hroom.le
      · exact hroom
    · exact hle.trans (hflags.trans hlimit)

/-! ## Every run -/

/-- In every run that keeps the link, no subject has more active records than the limit. -/
theorem active_le_of_run (hrun : Run Step (.genesis ledger) history w)
    (hkeeps : ∀ t ∈ history, KeepsRegistry a t) (hs : w.contracts a = some (.identityOracle s)) (x : Address) :
    (activeRecordsAt w.contracts s x).length ≤ IdentityOracle.maxVcsPerSubject := by
  refine hrun.invariant_where (fun w => ∀ s, w.contracts a = some (.identityOracle s) →
    (activeRecordsAt w.contracts s x).length ≤ IdentityOracle.maxVcsPerSubject) (KeepsRegistry a)
    ?_ (by simp) hkeeps s hs
  intro w e w' hbefore h hkeeps s' hs'
  rcases identity_origin h hs' with ⟨-, rfl⟩ | ⟨s, hs, -⟩
  · exact Nat.zero_le _
  · exact active_le_step h hs hs' hkeeps (hbefore s hs)

/-- In every run that does not move the link of an identity oracle from one registry to another, every
subject has at most 100 active records, and an anchoring of a new record that passes the checks of
its caller is refused for the limit exactly when there are 100. -/
theorem active_cap (hrun : Run Step (.genesis ledger) history w) (hkeeps : ∀ t ∈ history, KeepsRegistry a t)
    (hs : w.contracts a = some (.identityOracle s)) (x : Address) :
    ∃ active, w.vcDetails a x = some active ∧ active.length ≤ 100 ∧
      ∀ env call issuer vcHash, call.anchoring = some (issuer, x, vcHash) →
        (∀ record ∈ IdentityOracle.anchorsOf s x, ¬IdentityOracle.IsAnchor issuer vcHash record) →
        (IdentityOracle.exec (identityHost env [a]) env call s w.contracts = .error (.error .vcLimitReached) ↔
          IdentityOracle.Admits env issuer s ∧ active.length = 100) := by
  have hlimit := active_le_of_run hrun hkeeps hs x
  refine ⟨activeRecordsAt w.contracts s x, vcDetails_eq hrun hs x, hlimit, ?_⟩
  intro env call issuer vcHash hanchors hnew
  have hanswers (record : IdentityVCRecord) :
      IdentityOracle.isRecordRevoked (identityHost env [a]) w.contracts s record =
        .ok (!IdentityOracle.isActive (statusOf w.contracts s) record) :=
    isRecordRevoked_query (by simp [registryAt_identity hs])
      (fun r hr => linkedRegistry_deployed hrun hs hr) record
  have hfull : IdentityOracle.maxVcsPerSubject ≤ (activeRecordsAt w.contracts s x).length ↔
      (activeRecordsAt w.contracts s x).length = 100 :=
    ⟨fun hreached => le_antisymm hlimit hreached, fun hexact => hexact.ge⟩
  have hrefused {credentialType : CredentialType} :
      IdentityOracle.alone (IdentityOracle.anchorVcTyped (identityHost env [a]) env issuer x vcHash credentialType
        s w.contracts) w.contracts = .error (.error .vcLimitReached) ↔
          IdentityOracle.Admits env issuer s ∧ (activeRecordsAt w.contracts s x).length = 100 := by
    rw [← hfull]
    refine Iff.trans ?_ (IdentityOracle.anchorVcTyped_limited_iff hanswers hnew credentialType)
    simp only [IdentityOracle.alone, Outcome.bind_eq_error, reduceCtorEq, and_false, exists_false, or_false]
  cases call with
  | anchorVc =>
    cases hanchors
    exact hrefused
  | anchorVcTyped =>
    cases hanchors
    exact hrefused
  | _ => cases hanchors

/-- The link of the identity oracle at an address. -/
def World.linkOf (w : World) (a : Address) : Option Address :=
  onIdentity [] w.contracts a fun s => s.revocationRegistryId

/-- A link that is the same afterwards, where there was one, is kept. -/
theorem keepsRegistry_of_linkOf {t : Move}
    (h : (t.before.linkOf a).isNone || decide (t.after.linkOf a = t.before.linkOf a)) : KeepsRegistry a t := by
  intro s s' hs hs' r hr
  have hbefore : t.before.linkOf a = some r := onIdentity_eq_some.mpr ⟨by simp, s, hs, hr⟩
  simp only [hbefore, Option.isNone_some, Bool.false_or, decide_eq_true_eq] at h
  obtain ⟨-, after, hafter, hlink⟩ := onIdentity_eq_some.mp h
  cases hafter.symm.trans hs'
  exact hlink

/-- After the sample deployment its subject has one active record, and another anchoring is not refused
for the limit. -/
theorem active_cap_single : ∃ (w : World) (s : IdentityOracle.State) (active : List IdentityVCRecord),
    w.contracts (.contract 21) = some (.identityOracle s) ∧
    w.vcDetails (.contract 21) (.account 3) = some active ∧ active.length = 1 ∧
    IdentityOracle.exec (identityHost (.signedBy w.ledger (.contract 21) [.account 2]) [.contract 21])
      (.signedBy w.ledger (.contract 21) [.account 2]) (.anchorVc (.account 2) (.account 3) 8) s w.contracts ≠
        .error (.error .vcLimitReached) := by
  let ledger : Ledger := .numbered 0
  let record : IdentityVCRecord := { vcHash := 7, issuer := .account 2, anchoredAt := 0, revoked := false }
  obtain ⟨history, w, hrun, hobserved⟩ := Run.exists_of_replay
    (show (replay World.next (.genesis ledger) (sampleDeployment ledger)).map
      (fun r => (r.1.all fun t => (t.before.linkOf (.contract 21)).isNone ||
          decide (t.after.linkOf (.contract 21) = t.before.linkOf (.contract 21)),
        onIdentity [] r.2.contracts (.contract 21) fun s => some (IdentityOracle.anchorsOf s (.account 3)),
        r.2.vcDetails (.contract 21) (.account 3))) = some (true, some [record], some [record]) from rfl)
  simp only [Prod.mk.injEq] at hobserved
  obtain ⟨hlinks, hanchors, hdetails⟩ := hobserved
  obtain ⟨-, s, hs, hanchors⟩ := onIdentity_eq_some.mp hanchors
  have hkeeps : ∀ t ∈ history, KeepsRegistry (.contract 21) t :=
    fun t ht => keepsRegistry_of_linkOf (List.all_eq_true.mp hlinks t ht)
  obtain ⟨active, hactive, -, hrefused⟩ := active_cap hrun hkeeps hs (.account 3)
  obtain rfl := Option.some.inj (hdetails.symm.trans hactive)
  refine ⟨w, s, [record], hs, hdetails, rfl, ?_⟩
  rw [ne_eq, hrefused _ (.anchorVc (.account 2) (.account 3) 8) (.account 2) 8 rfl ?_]
  · rintro ⟨-, hlength⟩
    cases hlength
  · rw [Option.some.inj hanchors]
    intro other hmem hanchor
    rw [List.mem_singleton.mp hmem] at hanchor
    exact absurd hanchor.1 (by decide)

end StellarDidCredit.Network
