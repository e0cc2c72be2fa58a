import StellarDidCredit.IdentityOracle.Changes
import StellarDidCredit.Network.ActiveCount
import StellarDidCredit.Network.Freshness

/-!
# Stored scores after a change of the identity

A stored score is reported stale as soon as the identity oracle noted a change in a ledger
after the computation. A step goes unnoticed when it changes the identity in the ledger of
the computation, when the linked registry flags an active credential without telling the
identity oracle to mark one of the subject's records, or when another registry is linked.
-/

namespace StellarDidCredit.Network

variable {w w' : World} {e : Event} {a c x : Address} {ledger : Ledger} {history : List Move} {computedAt : ℕ}

/-! ## Noted changes -/

/-- The identity oracle noted a change of the subject after the ledger. -/
def Noted (w : World) (a x : Address) (computedAt : ℕ) : Prop :=
  ∃ s n, w.contracts a = some (.identityOracle s) ∧ s.lastStateChange x = some n ∧ computedAt < n

/-- The step changes the subject's active credentials or its deactivation flag. -/
def ChangesIdentity (a x : Address) (t : Move) : Prop :=
  t.after.vcDetails a x ≠ t.before.vcDetails a x ∨ t.after.isDeactivated a x ≠ t.before.isDeactivated a x

/-- A change was noted before, or the score is too old in the ledger of the step, or the step
notes what it changes: it comes in a later ledger when its call changes the identity, the
identity oracle is told when an active credential is flagged, and a registry that is linked
instead leaves the same credentials active. -/
def NotesChanges (a x : Address) (computedAt : ℕ) (t : Move) : Prop :=
  Noted t.before a x computedAt ∨
  CreditOracle.staleLedgerAge < (ledgerOf t.event).sequence - computedAt ∨
  ∀ s, t.before.contracts a = some (.identityOracle s) →
    IdentityOracle.Notes (statusOf t.before.contracts s) (linkedRevocations s t.event) x (s.slice x) computedAt
      (ledgerOf t.event).sequence (identityCall t.before.contracts a t.event) ∧
    ∀ r, identityCall t.before.contracts a t.event = some (.setRevocationRegistry r) →
      IdentityOracle.activeOf (registryStatus t.before.contracts r) (IdentityOracle.anchorsOf s x) =
      IdentityOracle.activeOf (statusOf t.before.contracts s) (IdentityOracle.anchorsOf s x)

/-- A score that was computed in the ledger is reported stale. -/
def Outdated (w : World) (a x : Address) (computedAt : ℕ) : Prop :=
  Noted w a x computedAt ∨ CreditOracle.staleLedgerAge < w.ledger.sequence - computedAt

/-- Once a change is noted, it stays noted. -/
theorem Noted.step (hnoted : Noted w a x computedAt) (hrun : Run Step (.genesis ledger) history w)
    (h : Step w e w') : Noted w' a x computedAt := by
  obtain ⟨s, n, hs, hn, hlater⟩ := hnoted
  have hpast := identity_lastChange hrun hs hn
  have hledger : w.ledger.sequence ≤ w'.ledger.sequence := h.ledger.1
  obtain ⟨s', hs', hchange⟩ := identity_step h hs
  cases hchange with
  | idle => exact ⟨s, n, hs', hn, hlater⟩
  | relinked => exact ⟨_, n, hs', hn, hlater⟩
  | acted hcall hnotLink heffects =>
    rcases (heffects.slice x).lastChange_cases with hsame | hnow
    · exact ⟨s', n, hs', hsame.trans hn, hlater⟩
    · refine ⟨s', _, hs', hnow, ?_⟩
      change computedAt < w'.ledger.sequence
      omega

/-- An outdated score stays outdated. -/
theorem Outdated.step (houtdated : Outdated w a x computedAt) (hrun : Run Step (.genesis ledger) history w)
    (h : Step w e w') : Outdated w' a x computedAt := by
  rcases houtdated with hnoted | hold
  · exact Or.inl (hnoted.step hrun h)
  · have hledger : w.ledger.sequence ≤ w'.ledger.sequence := h.ledger.1
    exact Or.inr (by omega)

/-- A step that notes what it changes makes the score outdated. -/
theorem outdated_of_changes (hrun : Run Step (.genesis ledger) history w) (h : Step w e w')
    {s : IdentityOracle.State} (hs : w.contracts a = some (.identityOracle s))
    (hnotes : NotesChanges a x computedAt ⟨w, e, w'⟩) (hchanged : ChangesIdentity a x ⟨w, e, w'⟩) :
    Outdated w' a x computedAt := by
  rcases hnotes with hnoted | hold | hnotes
  · exact Or.inl (hnoted.step hrun h)
  · rw [← h.ledger_eq] at hold
    exact Or.inr hold
  obtain ⟨hnotes, hrelink⟩ := hnotes s hs
  obtain ⟨s', hs', hchange⟩ := identity_step h hs
  have hchanged : IdentityOracle.Changed (statusOf w.contracts s) (statusOf w'.contracts s') (s.slice x)
      (s'.slice x) := by
    simp only [ChangesIdentity, vcDetails_eq hrun hs, vcDetails_eq (hrun.snoc h) hs', isDeactivated_eq hs,
      isDeactivated_eq hs', ne_eq, Option.some.injEq] at hchanged
    exact hchanged
  cases hchange with
  | idle hcall =>
    refine absurd hchanged (hnotes.not_changed (statusOf_step h s) ?_ rfl rfl)
    rintro ⟨_, _, hmark, -⟩
    cases hcall.symm.trans hmark
  | @relinked r admin hcall =>
    rcases hchanged with hactive | hflag
    · refine (hactive ?_).elim
      rw [statusOf_relinked h hcall]
      exact hrelink r hcall
    · exact (hflag rfl).elim
  | @acted call _ hcall hnotLink heffects =>
    rw [statusOf_congr heffects.link] at hchanged
    have hnotes : IdentityOracle.Notes (statusOf w.contracts s) (linkedRevocations s e) x (s.slice x) computedAt
        w'.ledger.sequence (some call) := by
      rw [h.ledger_eq, ← hcall]
      exact hnotes
    obtain ⟨n, hn, hlater⟩ := (heffects.slice x).noted (statusOf_step h s)
      (fun vcHash hmem => linkedRevocations_forwarded hcall hmem) hnotes hchanged
    exact Or.inl ⟨s', n, hs', hn, hlater⟩

/-- An identity oracle stays at its address. -/
theorem identity_persists {later : List Move} (hrun : Run Step w later w') {s : IdentityOracle.State}
    (hs : w.contracts a = some (.identityOracle s)) : ∃ s', w'.contracts a = some (.identityOracle s') := by
  refine hrun.invariant (fun w => ∃ s, w.contracts a = some (.identityOracle s)) ?_ ⟨s, hs⟩
  rintro w e w' ⟨s, hs⟩ h
  obtain ⟨s', hs', -⟩ := identity_step h hs
  exact ⟨s', hs'⟩

/-- After a change in a run whose steps note what they change, the score is outdated. -/
theorem outdated_run {later : List Move} (hrun : Run Step (.genesis ledger) history w)
    {s : IdentityOracle.State} (hs : w.contracts a = some (.identityOracle s)) (hlater : Run Step w later w')
    (hnotes : ∀ t ∈ later, NotesChanges a x computedAt t) (hchanged : ∃ t ∈ later, ChangesIdentity a x t) :
    Outdated w' a x computedAt := by
  induction hlater with
  | nil =>
    obtain ⟨t, ht, -⟩ := hchanged
    cases ht
  | @snoc later w₁ e w₂ hbefore h ih =>
    have hreach := hrun.append hbefore
    obtain ⟨s₁, hs₁⟩ := identity_persists hbefore hs
    obtain ⟨t, ht, hchanged⟩ := hchanged
    rcases List.mem_append.mp ht with ht | ht
    · have houtdated := ih (fun t ht => hnotes t (List.mem_append_left _ ht)) ⟨t, ht, hchanged⟩
      exact houtdated.step hreach h
    · rw [List.mem_singleton.mp ht] at hchanged
      exact outdated_of_changes hreach h hs₁ (hnotes _ (List.mem_append_right _ List.mem_cons_self)) hchanged

/-! ## Stored scores -/

/-- The step writes the subject's score. -/
def WritesScore (c x : Address) (t : Move) : Prop := t.after.storedScore c x ≠ t.before.storedScore c x

/-- Steps that do not write a score keep it. -/
theorem storedScore_kept {later : List Move} (hlater : Run Step w later w')
    (hkept : ∀ t ∈ later, ¬WritesScore c x t) : w'.storedScore c x = w.storedScore c x := by
  induction hlater with
  | nil => rfl
  | @snoc later w₁ e w₂ hbefore h ih =>
    have hsame := ih fun t ht => hkept t (List.mem_append_left _ ht)
    have hlast := hkept _ (List.mem_append_right _ List.mem_cons_self)
    exact (not_not.mp hlast).trans hsame

/-- A score that a step writes remembers the ledger of the step. -/
theorem storedScore_written (h : Step w e w') (hwrite : WritesScore c x ⟨w, e, w'⟩)
    {k : CreditOracle.State} (hk : w'.contracts c = some (.creditOracle k)) :
    ∃ record, k.score x = some record ∧ record.computedAtLedger = w'.ledger.sequence := by
  have hafter : w'.storedScore c x = k.score x := by
    simp only [World.storedScore, onCredit, callable, List.not_mem_nil, if_false, hk]
  rcases credit_origin h hk with ⟨hfree, rfl⟩ | ⟨before, hbefore, hchange⟩
  · refine (hwrite ?_).elim
    change w'.storedScore c x = w.storedScore c x
    rw [hafter]
    simp only [World.storedScore, onCredit, callable, List.not_mem_nil, if_false, hfree]
    rfl
  · have hscore : w.storedScore c x = before.score x := by
      simp only [World.storedScore, onCredit, callable, List.not_mem_nil, if_false, hbefore]
    have hdiffers : k.score x ≠ before.score x := by
      rw [← hafter, ← hscore]
      exact hwrite
    cases hchange with
    | idle => exact (hdiffers rfl).elim
    | own he heffect =>
      rcases heffect.score_cases x with hsame | hwritten
      · exact (hdiffers hsame).elim
      · exact hwritten
    | governed he hg hlinked hforwards heffect =>
      rcases heffect.score_cases x with hsame | hwritten
      · exact (hdiffers hsame).elim
      · exact hwritten

/-- After the last write of a score, a change of the identity makes it stale, in every run
whose steps since then note what they change. -/
theorem stale_until_recomputed {earlier later : List Move} {write : Move}
    (hrun : Run Step (.genesis ledger) (earlier ++ write :: later) w) (hwrite : WritesScore c x write)
    (hkept : ∀ t ∈ later, ¬WritesScore c x t) (hlinked : LinkedTo write.after c a) (hlinked' : LinkedTo w c a)
    (hnotes : ∀ t ∈ later, NotesChanges a x write.after.ledger.sequence t)
    (hchanged : ∃ t ∈ later, ChangesIdentity a x t) :
    ∃ record, w.getScore c x = some (some record) ∧ record.stale = true := by
  obtain ⟨hbefore, hstep, hafter⟩ := hrun.around
  obtain ⟨k, s, hk, -, hs⟩ := hlinked
  obtain ⟨k', s', hk', hlink, hs'⟩ := hlinked'
  obtain ⟨record, hrecord, hcomputed⟩ := storedScore_written hstep hwrite hk
  have hstored : k'.score x = some record := by
    have hsame := storedScore_kept hafter hkept
    simp only [World.storedScore, onCredit, callable, List.not_mem_nil, if_false, hk, hk'] at hsame
    exact hsame.trans hrecord
  have hne : a ≠ c := by
    rintro rfl
    cases hs'.symm.trans hk'
  refine ⟨_, getScore_eq hk' hstored, ?_⟩
  rw [Bool.or_eq_true_iff, hcomputed]
  rcases outdated_run (hbefore.snoc hstep) hs hafter hnotes hchanged with ⟨s₁, n, hs₁, hn, hlater⟩ | hold
  · exact Or.inr (changedSince_eq_true.mpr ⟨a, s₁, n, hlink, hne, hs₁, hn, hlater⟩)
  · exact Or.inl (decide_eq_true hold)

/-! ## A revocation after a computation -/

/-- The sample subject asks for its score in the ledger 0. -/
def sampleComputation : Event :=
  .invoke (.numbered 0) [] (.contract 22) (.creditOracle (.computeScore (.account 3)))

/-- The sample subject is scored in the ledger 0 and its credential is revoked in the ledger 1. -/
theorem sampleRevocation_run (call : RevocationRegistry.Call) (observe : World → World → World → Bool)
    (h : ((replay World.next (.genesis (.numbered 0))
      (sampleDeployment (.numbered 0))).bind fun r =>
        (r.2.next sampleComputation).bind fun w₁ =>
          (w₁.next (sampleRevocation (.numbered 1) call)).map fun w₂ =>
            observe r.2 w₁ w₂) = some true) :
    ∃ earlier w₀ w₁ w₂, observe w₀ w₁ w₂ = true ∧ Run Step (.genesis (.numbered 0))
      (earlier ++ ⟨w₀, sampleComputation, w₁⟩ ::
        [⟨w₁, sampleRevocation (.numbered 1) call, w₂⟩]) w₂ := by
  obtain ⟨⟨earlier, w₀⟩, hreplay, h⟩ := Option.bind_eq_some_iff.mp h
  obtain ⟨w₁, hwrite, h⟩ := Option.bind_eq_some_iff.mp h
  obtain ⟨w₂, hrevoke, hobserved⟩ := Option.map_eq_some_iff.mp h
  refine ⟨earlier, w₀, w₁, w₂, hobserved, ?_⟩
  have hrun := ((Run.of_replay hreplay).snoc hwrite).snoc hrevoke
  rwa [List.append_assoc, List.singleton_append] at hrun

/-- The sample score is written by the computation and not by the revocation, under the same link. -/
def sampleScored (w₀ w₁ w₂ : World) : Bool :=
  (w₀.storedScore (.contract 22) (.account 3)).isNone &&
  (w₁.storedScore (.contract 22) (.account 3)).isSome &&
  decide (w₂.storedScore (.contract 22) (.account 3) = w₁.storedScore (.contract 22) (.account 3)) &&
  decide ((onCredit [] w₁.contracts (.contract 22) fun k => k.identityOracleId) = some (.contract 21)) &&
  decide ((onCredit [] w₂.contracts (.contract 22) fun k => k.identityOracleId) = some (.contract 21)) &&
  (w₁.isDeactivated (.contract 21) (.account 3)).isSome &&
  (w₂.isDeactivated (.contract 21) (.account 3)).isSome &&
  decide (w₂.vcDetails (.contract 21) (.account 3) ≠ w₁.vcDetails (.contract 21) (.account 3))

/-- What the sample run shows. -/
theorem sampleScored_spec {w₀ w₁ w₂ : World} (h : sampleScored w₀ w₁ w₂ = true) (e₁ e₂ : Event) :
    WritesScore (.contract 22) (.account 3) ⟨w₀, e₁, w₁⟩ ∧
    (∀ t ∈ ([⟨w₁, e₂, w₂⟩] : List Move), ¬WritesScore (.contract 22) (.account 3) t) ∧
    LinkedTo w₁ (.contract 22) (.contract 21) ∧ LinkedTo w₂ (.contract 22) (.contract 21) ∧
    ∃ t ∈ ([⟨w₁, e₂, w₂⟩] : List Move), ChangesIdentity (.contract 21) (.account 3) t := by
  simp only [sampleScored, Bool.and_eq_true, decide_eq_true_iff] at h
  obtain ⟨⟨⟨⟨⟨⟨⟨hnone, hsome⟩, hkept⟩, hlink₁⟩, hlink₂⟩, hdeployed₁⟩, hdeployed₂⟩, hchanged⟩ := h
  refine ⟨?_, ?_, linkedTo_of_queries hlink₁ hdeployed₁, linkedTo_of_queries hlink₂ hdeployed₂,
    _, List.mem_singleton_self _, Or.inl hchanged⟩
  · intro hsame
    change w₁.storedScore _ _ = w₀.storedScore _ _ at hsame
    rw [hsame, Option.isNone_iff_eq_none.mp hnone] at hsome
    cases hsome
  · intro t ht hwrite
    rw [List.mem_singleton.mp ht] at hwrite
    exact hwrite hkept

/-- `revoke` is forwarded to the identity oracle, so the score becomes stale. -/
theorem stale_until_recomputed_revoke : ∃ (w : World) (record : CreditOracle.ScoreRecord),
    w.getScore (.contract 22) (.account 3) = some (some record) ∧ record.stale = true := by
  let e := sampleRevocation (.numbered 1) (.revoke (.account 2) (.account 3) 7)
  let anchored : IdentityVCRecord := { vcHash := 7, issuer := .account 2, anchoredAt := 0, revoked := false }
  obtain ⟨earlier, w₀, w₁, w₂, hobserved, hrun⟩ := sampleRevocation_run (.revoke (.account 2) (.account 3) 7)
    (fun w₀ w₁ w₂ => sampleScored w₀ w₁ w₂ && decide (w₁.ledger.sequence = 0) &&
      decide (identityCall w₁.contracts (.contract 21) e = some (.markVcRevoked (.account 2) (.account 3) 7)) &&
      decide ((onIdentity [] w₁.contracts (.contract 21) fun s => s.vcAnchors (.account 3)) = some [anchored]))
    (by decide +kernel)
  simp only [Bool.and_eq_true, decide_eq_true_iff] at hobserved
  obtain ⟨⟨⟨hscored, hledger⟩, hcall⟩, hanchors⟩ := hobserved
  obtain ⟨hwrite, hkept, hlinked, hlinked', hchanged⟩ := sampleScored_spec hscored _ e
  obtain ⟨record, hrecord, hstale⟩ := stale_until_recomputed hrun hwrite hkept hlinked hlinked' (by
    intro t ht
    rw [List.mem_singleton.mp ht]
    refine Or.inr (Or.inr fun s hs => ⟨⟨?_, ?_⟩, ?_⟩)
    · intro call _ _
      change w₁.ledger.sequence < 1
      omega
    · intro _
      obtain ⟨-, _, hs', hfound⟩ := onIdentity_eq_some.mp hanchors
      cases hs.symm.trans hs'
      refine ⟨_, _, hcall, anchored, ?_, ⟨rfl, rfl⟩, rfl⟩
      change anchored ∈ (s.vcAnchors (.account 3)).getD []
      rw [hfound]
      exact List.mem_singleton_self _
    · intro r hlink
      cases hcall.symm.trans hlink) hchanged
  exact ⟨w₂, record, hrecord, hstale⟩

/-- `batch_revoke` is not forwarded, so the score stays fresh. -/
theorem not_stale_until_recomputed_batchRevoke :
    ∃ (ledger : Ledger) (earlier later : List Move) (write : Move) (w : World) (c a x : Address),
    Run Step (.genesis ledger) (earlier ++ write :: later) w ∧ WritesScore c x write ∧
    (∀ t ∈ later, ¬WritesScore c x t) ∧ LinkedTo write.after c a ∧ LinkedTo w c a ∧
    (∃ s, w.contracts a = some (.identityOracle s) ∧ s.revocationRegistryId.isSome = true) ∧
    (∃ t ∈ later, ChangesIdentity a x t) ∧
    ¬∃ record : CreditOracle.ScoreRecord, w.getScore c x = some (some record) ∧ record.stale = true := by
  obtain ⟨earlier, w₀, w₁, w₂, hobserved, hrun⟩ := sampleRevocation_run (.batchRevoke (.account 2) [7])
    (fun w₀ w₁ w₂ => sampleScored w₀ w₁ w₂ &&
      decide ((onIdentity [] w₂.contracts (.contract 21) fun s => s.revocationRegistryId) =
        some (.contract 20)) &&
      decide ((w₂.getScore (.contract 22) (.account 3)).map (·.map (·.stale)) = some (some false)))
    (by decide +kernel)
  simp only [Bool.and_eq_true, decide_eq_true_iff] at hobserved
  obtain ⟨⟨hscored, hregistry⟩, hfresh⟩ := hobserved
  obtain ⟨hwrite, hkept, hlinked, hlinked', hchanged⟩ := sampleScored_spec hscored sampleComputation
    (sampleRevocation (.numbered 1) (.batchRevoke (.account 2) [7]))
  obtain ⟨-, s, hs, hregistry⟩ := onIdentity_eq_some.mp hregistry
  refine ⟨_, earlier, _, _, w₂, _, _, _, hrun, hwrite, hkept, hlinked, hlinked', ⟨s, hs, ?_⟩, hchanged, ?_⟩
  · rw [hregistry]
    rfl
  · rintro ⟨record, hrecord, hstale⟩
    rw [hrecord, Option.map_some, Option.map_some, Option.some.injEq, Option.some.injEq] at hfresh
    cases hstale.symm.trans hfresh

end StellarDidCredit.Network
