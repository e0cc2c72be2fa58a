import StellarDidCredit.CreditOracle.Recency
import StellarDidCredit.Network.Steps

/-!
# Recency decay in the network

A computation asks the linked identity oracle for the credentials. What the identity oracle answers
does not depend on when a credential was anchored, apart from that time itself. So the decay only
subtracts from a score, and anchoring a credential later does not lower one, in every state of the
network.
-/

namespace StellarDidCredit.IdentityOracle

/-- The same contract with credentials that are anchored no earlier. -/
structure State.NoEarlier (s s' : State) : Prop where
  rest : s' = { s with vcAnchors := s'.vcAnchors }
  anchors (x : Address) : List.Forall₂ IdentityVCRecord.NoEarlier (anchorsOf s x) (anchorsOf s' x)

variable {κ κ' : Type} {host : Host κ} {host' : Host κ'} {world : κ} {world' : κ'} {s s' : State}

section SameStatus

variable (hstatus : ∀ r vcHash, host'.isRevoked world' r vcHash = host.isRevoked world r vcHash)
  (hlater : s.NoEarlier s')
include hstatus hlater

/-- The status of a credential does not depend on when it was anchored. -/
theorem isRecordRevoked_noEarlier {record record' : IdentityVCRecord} (h : record.NoEarlier record') :
    isRecordRevoked host' world' s' record' = isRecordRevoked host world s record := by
  rw [h.2, hlater.rest]
  simp only [isRecordRevoked, hstatus]

/-- The active credentials are the same, anchored no earlier. -/
theorem getVcDetails_noEarlier (x : Address) :
    Outcome.Lockstep (List.Forall₂ IdentityVCRecord.NoEarlier) (getVcDetails host world s x)
      (getVcDetails host' world' s' x) := by
  refine .filterE (fun record record' h => ?_) (hlater.anchors x)
  rw [isRecordRevoked_noEarlier hstatus hlater h]

/-- The same hashes are verified. -/
theorem verifyVc_noEarlier (x : Address) (vcHash : BytesN 32) :
    verifyVc host' world' s' x vcHash = verifyVc host world s x vcHash := by
  refine (Outcome.Lockstep.anyE (fun record record' h => ?_) (hlater.anchors x)).symm
  have hhash : record'.vcHash = record.vcHash := by rw [h.2]
  rw [isRecordRevoked_noEarlier hstatus hlater h, hhash]

end SameStatus

end StellarDidCredit.IdentityOracle

namespace StellarDidCredit.Network

open CreditOracle (NoMorePoints SameAnswers)

variable {w : World} {env : Env} {a x : Address} {s s' : IdentityOracle.State} {k : CreditOracle.State}

/-! ## What a computation reads -/

/-- The credentials that a computation is told of. -/
def World.reported (w : World) (env : Env) (a x : Address) : Option (List IdentityVCRecord) :=
  (creditHost env [env.currentContract]).getVcDetails w.contracts a x

/-- The points and the count that a computation resolves, in this state of the credit oracle. -/
def World.vcPoints (w : World) (env : Env) (k : CreditOracle.State) (x : Address) :
    Outcome CreditOracleError (Option (ℕ × ℕ)) :=
  CreditOracle.resolveVcPoints (creditHost env [env.currentContract]) env w.contracts k x

/-- The score that a computation returns, in this state of the credit oracle. -/
def World.scoreOf (w : World) (env : Env) (k : CreditOracle.State) (x : Address) :
    Outcome CreditOracleError ℕ :=
  CreditOracle.scoreOf (creditHost env [env.currentContract]) env w.contracts k x

/-! ## Other states of an identity oracle -/

/-- The network with this state of the identity oracle. -/
def World.withIdentity (w : World) (a : Address) (s : IdentityOracle.State) : World :=
  { w with contracts := w.contracts.set a (.identityOracle s) }

section Calls

variable {α : Type} {contracts : Contracts} (hs : contracts a = some (.identityOracle s)) (busy : List Address)
include hs

/-- A call into an identity oracle runs on its state, unless it is being executed. -/
theorem onIdentity_eq (f : IdentityOracle.State → Option α) :
    onIdentity busy contracts a f = if a ∈ busy then none else f s := by
  unfold onIdentity callable
  by_cases hbusy : a ∈ busy
  · rw [if_pos hbusy, if_pos hbusy]
  · rw [if_neg hbusy, if_neg hbusy, hs]

/-- The registries do not notice. -/
theorem onRegistry_withIdentity (s' : IdentityOracle.State) (r : Address)
    (f : RevocationRegistry.State → Option α) :
    onRegistry busy (contracts.set a (.identityOracle s')) r f = onRegistry busy contracts r f := by
  unfold onRegistry callable
  by_cases hr : r = a
  · subst hr
    rw [Storage.set_self, hs]
    by_cases hbusy : r ∈ busy
    · simp only [if_pos hbusy]
    · simp only [if_neg hbusy]
  · rw [Storage.set_of_ne _ _ hr]

end Calls

/-- The flags that an identity oracle is told of are the same. -/
theorem isRevoked_withIdentity (hs : w.contracts a = some (.identityOracle s)) (s' : IdentityOracle.State)
    (env : Env) (busy : List Address) (r : Address) (vcHash : BytesN 32) :
    (identityHost env busy).isRevoked (w.withIdentity a s').contracts r vcHash =
      (identityHost env busy).isRevoked w.contracts r vcHash :=
  onRegistry_withIdentity hs busy s' r _

/-- With credentials anchored later, the identity oracle gives the same answers about hashes. -/
theorem sameAnswers_noEarlier (hs : w.contracts a = some (.identityOracle s)) (hlater : s.NoEarlier s')
    (env : Env) (busy : List Address) (x : Address) :
    SameAnswers (creditHost env busy) (creditHost env busy) w.contracts (w.withIdentity a s').contracts a a x := by
  have hs' : (w.withIdentity a s').contracts a = some (.identityOracle s') := Storage.set_self _ _ _
  constructor
  case isDeactivated =>
    simp only [creditHost, onIdentity_eq hs, onIdentity_eq hs']
    rw [hlater.rest]
    rfl
  case verifyVc =>
    intro vcHash
    simp only [creditHost, onIdentity_eq hs, onIdentity_eq hs']
    rw [IdentityOracle.verifyVc_noEarlier (isRevoked_withIdentity hs s' _ _) hlater]
  case getVcCredentialType =>
    intro vcHash
    simp only [creditHost, onIdentity_eq hs, onIdentity_eq hs']
    rw [hlater.rest]
    rfl

/-- It reports the same credentials, anchored no earlier. -/
theorem reported_noEarlier (hs : w.contracts a = some (.identityOracle s)) (hlater : s.NoEarlier s')
    (env : Env) (x : Address) :
    Option.Rel (List.Forall₂ IdentityVCRecord.NoEarlier) (w.reported env a x)
      ((w.withIdentity a s').reported env a x) := by
  have hs' : (w.withIdentity a s').contracts a = some (.identityOracle s') := Storage.set_self _ _ _
  simp only [World.reported, creditHost, onIdentity_eq hs, onIdentity_eq hs']
  by_cases hbusy : a ∈ [env.currentContract]
  · rw [if_pos hbusy, if_pos hbusy]
    exact .none
  · rw [if_neg hbusy, if_neg hbusy]
    exact (IdentityOracle.getVcDetails_noEarlier (isRevoked_withIdentity hs s' _ _) hlater x).toOption

/-- Credentials that are anchored later do not lower the score. -/
theorem scoreOf_noEarlier (hlinked : k.identityOracleId = some a)
    (hs : w.contracts a = some (.identityOracle s)) (hlater : s.NoEarlier s') (env : Env) (x : Address) :
    Outcome.Lockstep (· ≤ ·) (w.scoreOf env k x) ((w.withIdentity a s').scoreOf env k x) := by
  have hworth : Option.Rel (List.Forall₂ (CreditOracle.WorthNoMore env k k)) (w.reported env a x)
      ((w.withIdentity a s').reported env a x) := by
    have hreported := reported_noEarlier hs hlater env x
    generalize w.reported env a x = before at hreported ⊢
    generalize (w.withIdentity a s').reported env a x = after at hreported ⊢
    cases hreported with
    | none => exact .none
    | some hrecords => exact .some (hrecords.imp fun _ _ => CreditOracle.worthNoMore_later)
  exact CreditOracle.scoreOf_le (.refl k x)
    (CreditOracle.resolveVcPoints_lockstep hlinked hlinked (sameAnswers_noEarlier hs hlater env _ x) hworth)

/-! ## With the decay and without it -/

/-- With the decay enabled no more points are resolved and the score is no higher than with it
disabled. Both are the same at the rate zero, and when every credential that is reported is young.
Anchoring credentials later does not lower the score. -/
theorem decay_only_subtracts (hlinked : k.identityOracleId = some a)
    (hs : w.contracts a = some (.identityOracle s)) (env : Env) (x : Address)
    (decayBpsPerDay minRecencyBps decayBpsPerDay' minRecencyBps' : ℕ) :
    Outcome.Lockstep (Option.Rel NoMorePoints)
      (w.vcPoints env (k.withDecay true decayBpsPerDay minRecencyBps) x)
      (w.vcPoints env (k.withDecay false decayBpsPerDay' minRecencyBps') x) ∧
    Outcome.Lockstep (· ≤ ·) (w.scoreOf env (k.withDecay true decayBpsPerDay minRecencyBps) x)
      (w.scoreOf env (k.withDecay false decayBpsPerDay' minRecencyBps') x) ∧
    ((decayBpsPerDay = 0 ∨ ∀ records, w.reported env a x = some records →
        ∀ record ∈ records, record.Young env.ledger.timestamp) →
      w.vcPoints env (k.withDecay true decayBpsPerDay minRecencyBps) x =
        w.vcPoints env (k.withDecay false decayBpsPerDay' minRecencyBps') x ∧
      w.scoreOf env (k.withDecay true decayBpsPerDay minRecencyBps) x =
        w.scoreOf env (k.withDecay false decayBpsPerDay' minRecencyBps') x) ∧
    ∀ s' : IdentityOracle.State, s.NoEarlier s' →
      Outcome.Lockstep (· ≤ ·) (w.scoreOf env k x) ((w.withIdentity a s').scoreOf env k x) := by
  have hpoints : Outcome.Lockstep (Option.Rel NoMorePoints)
      (w.vcPoints env (k.withDecay true decayBpsPerDay minRecencyBps) x)
      (w.vcPoints env (k.withDecay false decayBpsPerDay' minRecencyBps') x) :=
    CreditOracle.resolveVcPoints_decay_le hlinked
  refine ⟨hpoints, CreditOracle.scoreOf_le (CreditOracle.sameInputs_withDecay true false x) hpoints,
    fun hyoung => ?_, fun s' hlater => scoreOf_noEarlier hlinked hs hlater env x⟩
  have hequal : w.vcPoints env (k.withDecay true decayBpsPerDay minRecencyBps) x =
      w.vcPoints env (k.withDecay false decayBpsPerDay' minRecencyBps') x :=
    CreditOracle.resolveVcPoints_decay_eq hlinked hyoung
  exact ⟨hequal, CreditOracle.scoreOf_congr (CreditOracle.sameInputs_withDecay false true x) hequal⟩

/-- An identity oracle with one credential of the sample subject. -/
def sampleIdentity (anchoredAt : ℕ) : IdentityOracle.State where
  vcAnchors := Storage.empty.set (.account 3)
    [{ vcHash := 7, issuer := .account 2, anchoredAt, revoked := false }]

/-- A credit oracle that is linked to it. -/
def sampleScoring : CreditOracle.State where
  config := some ⟨40, 30, 30⟩
  identityOracleId := some (.contract 21)

/-- The two contracts, with a credential that was anchored at this time. -/
def sampleNetwork (anchoredAt : ℕ) : World where
  contracts := Storage.empty.set (.contract 21) (.identityOracle (sampleIdentity anchoredAt))
  ledger := .numbered 0

/-- Thirty days after the sample credential was anchored. -/
def sampleMonthLater : Env :=
  .signedBy ⟨9, 30 * secondsPerDay, by decide, by decide⟩ (.contract 22) []

/-- After thirty days at a rate of two percent a day the sample credential counts for half. -/
theorem decay_only_subtracts_month : ∃ v v' : ℕ, v ≤ v' ∧
    (sampleNetwork 0).scoreOf sampleMonthLater (sampleScoring.withDecay true 200 5000) (.account 3) = .ok v ∧
    (sampleNetwork 0).scoreOf sampleMonthLater (sampleScoring.withDecay false 200 5000) (.account 3) = .ok v' := by
  have hle := (decay_only_subtracts (w := sampleNetwork 0) (k := sampleScoring) rfl rfl sampleMonthLater
    (.account 3) 200 5000 200 5000).2.1
  obtain ⟨v, hv⟩ : ∃ v, (sampleNetwork 0).scoreOf sampleMonthLater (sampleScoring.withDecay true 200 5000)
      (.account 3) = .ok v := ⟨322, by decide +kernel⟩
  obtain ⟨v', hv'⟩ : ∃ v, (sampleNetwork 0).scoreOf sampleMonthLater (sampleScoring.withDecay false 200 5000)
      (.account 3) = .ok v := ⟨344, by decide +kernel⟩
  rw [hv, hv'] at hle
  cases hle with
  | ok hle => exact ⟨v, v', hle, hv, hv'⟩

end StellarDidCredit.Network
