import StellarDidCredit.CreditOracle.Repayments
import StellarDidCredit.Network.CreditSteps

/-!
# A credit oracle's own run

What happens to a credit oracle in the network is a run of that contract alone, with an
identity oracle that gives the answers the network gives. Whatever holds in every run of the
contract therefore holds in the network.
-/

namespace StellarDidCredit.CreditOracle

variable {κ : Type} {host : Host κ} {env : Env} {call : Call} {s s' : State} {world world' : κ}

/-- The host that answers as the given one does for the given rest of the ledger. -/
def Host.frozen (host : Host κ) (world : κ) : Host Unit where
  isDeactivated _ a x := host.isDeactivated world a x
  getVcDetails _ a x := host.getVcDetails world a x
  verifyVc _ a x vcHash := host.verifyVc world a x vcHash
  getVcCredentialType _ a x vcHash := host.getVcCredentialType world a x vcHash
  getActiveVcCount _ a x := (host.getActiveVcCount world a x).map fun (count, _) => (count, ())
  getLastStateChangeLedger _ a x := host.getLastStateChangeLedger world a x

/-- The loop only reads. -/
theorem linkedVcLoop_frozen (a x : Address) (records : List IdentityVCRecord) (acc : ℕ × ℕ) :
    linkedVcLoop (host.frozen world) env () s a x records acc =
      linkedVcLoop host env world s a x records acc := by
  apply linkedVcLoop_congr
  · exact fun _ => rfl
  · exact fun _ => rfl
  · exact fun _ _ => rfl

/-- So does the whole computation, as far as the identity oracle is concerned. -/
theorem computeScore_frozen (x : Address) :
    computeScore (host.frozen world) env x s () = computeScore host env x s world := by
  simp only [computeScore, resolveVcPoints, linkedVcLoop_frozen]
  rfl

/-- A call that succeeds in the network succeeds with the same answers alone. -/
theorem exec_frozen (h : exec host env call s world = .ok (s', world')) :
    exec (host.frozen world) env call s () = .ok (s', ()) := by
  cases call
  case setIdentityOracle admin a =>
    obtain ⟨hadmin, ⟨count, hprobe⟩, rfl⟩ := setIdentityOracle_spec h
    have hfrozen : (host.frozen world).getActiveVcCount () a env.currentContract = some (count, ()) := by
      simp only [Host.frozen, hprobe, Option.map_some]
    simp only [exec, setIdentityOracle, Outcome.bind_eq_ok, requireNamedAdmin_eq_ok, Outcome.okOr_eq_ok]
    exact ⟨(), hadmin, (count, ()), hfrozen, trivial⟩
  case computeScore x =>
    simp only [exec, alone_eq_ok, Outcome.map_snd_eq_ok, computeScore_frozen] at h ⊢
    exact ⟨h.1, trivial⟩
  all_goals
    simp only [exec, alone_eq_ok] at h ⊢
    exact ⟨h.1, trivial⟩

end StellarDidCredit.CreditOracle

namespace StellarDidCredit.Network

variable {w w' : World} {e : Event} {c x : Address} {k : CreditOracle.State} {ledger : Ledger}
  {history : List Move}

/-- The ledger of the genesis is not after the one of a reachable state. -/
theorem genesis_notAfter (hrun : Run Step (.genesis ledger) history w) : ledger.NotAfter w.ledger :=
  hrun.related (fun w w' => w.ledger.NotAfter w'.ledger) (fun _ => .refl _) (fun _ _ _ => .trans)
    fun _ _ _ h => h.ledger

/-- In every reachable state of the network a credit oracle has reached its state in a run of
its own, which is not ahead of the network. -/
theorem credit_standalone (hrun : Run Step (.genesis ledger) history w)
    (hk : w.contracts c = some (.creditOracle k)) :
    ∃ own final, Run (StepOf CreditOracle.Config.next) (.fresh ledger) own final ∧
      final.state = k ∧ final.ledger.NotAfter w.ledger := by
  induction hrun generalizing k with
  | nil => cases hk
  | @snoc history w e w' hbefore h ih =>
    rcases credit_origin h hk with ⟨-, rfl⟩ | ⟨before, hstored, -⟩
    · exact ⟨[], .fresh ledger, .nil, rfl, genesis_notAfter (hbefore.snoc h)⟩
    · obtain ⟨own, final, hown, rfl, hledger⟩ := ih hstored
      have hnow : final.ledger.NotAfter w'.ledger := hledger.trans h.ledger
      obtain ⟨after, hafter, hcalled⟩ := credit_called h hstored
      cases hafter.symm.trans hk
      -- the call of the step extends the run, with the answers of the network frozen
      have hextend {env : Env} {call : CreditOracle.Call} {host : CreditOracle.Host Contracts}
          {others : Contracts} (henv : env.ledger = w'.ledger)
          (hexec : CreditOracle.exec host env call final.state w.contracts = .ok (k, others)) :
          StepOf CreditOracle.Config.next final ⟨env, call, host.frozen w.contracts⟩ ⟨k, w'.ledger⟩ :=
        CreditOracle.Config.step_iff.mpr ⟨henv ▸ hnow, henv.symm, CreditOracle.exec_frozen hexec⟩
      cases hcalled with
      | idle => exact ⟨own, final, hown, rfl, hnow⟩
      | own he hexec => exact ⟨_, _, hown.snoc (hextend rfl hexec), rfl, .refl _⟩
      | governed he hg hlinked hforwards hexec =>
        exact ⟨_, _, hown.snoc (hextend rfl hexec), rfl, .refl _⟩

/-- The weights of a credit oracle are in order in every reachable state of the network. -/
theorem credit_weightsOk (hrun : Run Step (.genesis ledger) history w)
    (hk : w.contracts c = some (.creditOracle k)) : CreditOracle.WeightsOk k := by
  obtain ⟨own, final, hown, rfl, -⟩ := credit_standalone hrun hk
  exact CreditOracle.weightsOk_of_run hown

/-- So are its repayment counters. -/
theorem credit_countersOk (hrun : Run Step (.genesis ledger) history w)
    (hk : w.contracts c = some (.creditOracle k)) : CreditOracle.CountersOk k := by
  obtain ⟨own, final, hown, rfl, -⟩ := credit_standalone hrun hk
  exact CreditOracle.countersOk_of_run hown

end StellarDidCredit.Network
