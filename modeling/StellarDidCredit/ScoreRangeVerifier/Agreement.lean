import StellarDidCredit.ScoreRangeVerifier.Consumption

/-!
# Verifying and consuming

`verify_score_range` and `verify_and_consume` pass their gates separately: the size of the proof,
the initialisation and the pairing check are in both, the replay key only in the second and the
circuit version only in the first. A contract that is set up for another circuit version therefore
consumes proofs that it does not verify.
-/

namespace StellarDidCredit.ScoreRangeVerifier

variable {host : Host} {env : Env} {s s' : State} {consumer : Address} {submission : Submission}
  {proof : List UInt8} {publicInputs : ScoreRangePublicInputs}

/-- The replay key of a submission. -/
def Submission.key (host : Host) (submission : Submission) : BytesN 32 := host.sha256 submission.preimage

/-- A gate that answers `false` is passed when its condition does not hold. -/
theorem gate_eq_true_iff {c : Prop} [Decidable c] {rest : Outcome Error Bool} :
    (if c then .ok false else rest) = .ok true ↔ ¬c ∧ rest = .ok true := by
  by_cases hc : c
  · rw [if_pos hc]
    exact iff_of_false (fun h => nomatch h) fun h => h.1 hc
  · rw [if_neg hc]
    exact (and_iff_right hc).symm

/-- A proof is verified when it passes the four gates of the read-only entry point. -/
theorem verifyScoreRange_eq_true_iff :
    verifyScoreRange host proof publicInputs s = .ok true ↔
      proof.length = proofSize ∧ s.admin ≠ none ∧ s.circuitVersion.getD 0 = circuitVersion ∧
        groth16Verify host proof publicInputs = .ok true := by
  rw [verifyScoreRange, gate_eq_true_iff, gate_eq_true_iff, gate_eq_true_iff, not_not, not_not]

/-- An authorised submission is consumed when it passes the four gates of the other one. -/
theorem verifyAndConsume_eq_true_iff (hauth : env.Authorized consumer) :
    verifyAndConsume host env consumer submission s = .ok (true, s') ↔
      (submission.proof.length = proofSize ∧ s.admin ≠ none ∧ s.consumedProof (submission.key host) = none ∧
        groth16Verify host submission.proof submission.publicInputs = .ok true) ∧
      s' = { s with consumedProof := s.consumedProof.set (submission.key host) true } := by
  simp only [verifyAndConsume, Outcome.bind_eq_ok, requireAuth_eq_ok, Outcome.require_eq_ok]
  constructor
  · rintro ⟨_, _, _, hadmin, _, hsize, _, hfresh, valid, hvalid, h⟩
    cases valid with
    | true =>
      obtain ⟨-, rfl⟩ := Prod.mk.inj (Except.ok.inj h)
      exact ⟨⟨hsize, hadmin, hfresh, hvalid⟩, rfl⟩
    | false => cases (Prod.mk.inj (Except.ok.inj h)).1
  · rintro ⟨⟨hsize, hadmin, hfresh, hvalid⟩, rfl⟩
    exact ⟨(), hauth, (), hadmin, (), hsize, (), hfresh, true, hvalid, rfl⟩

/-- What the two entry points owe each other on a submission: a consumed one is verified in the state
before, and a verified one whose key is absent is consumed, which stores the key and nothing else. -/
def Agree (host : Host) (env : Env) (consumer : Address) (submission : Submission) (s : State) : Prop :=
  (∀ s', verifyAndConsume host env consumer submission s = .ok (true, s') →
    verifyScoreRange host submission.proof submission.publicInputs s = .ok true) ∧
  (verifyScoreRange host submission.proof submission.publicInputs s = .ok true →
    s.consumedProof (submission.key host) = none →
    verifyAndConsume host env consumer submission s =
      .ok (true, { s with consumedProof := s.consumedProof.set (submission.key host) true }))

/-- A verified submission whose key is absent is always consumed. -/
theorem verifyAndConsume_of_verified (hauth : env.Authorized consumer)
    (hverified : verifyScoreRange host submission.proof submission.publicInputs s = .ok true)
    (hfresh : s.consumedProof (submission.key host) = none) :
    verifyAndConsume host env consumer submission s =
      .ok (true, { s with consumedProof := s.consumedProof.set (submission.key host) true }) := by
  obtain ⟨hsize, hadmin, -, hvalid⟩ := verifyScoreRange_eq_true_iff.mp hverified
  exact (verifyAndConsume_eq_true_iff hauth).mpr ⟨⟨hsize, hadmin, hfresh, hvalid⟩, rfl⟩

/-- For an authorised consumer the entry points agree on a submission unless the contract was set up
for another circuit version and nothing else stops it: neither its size nor its key nor the pairing
check. -/
theorem agree_iff (host : Host) (env : Env) (consumer : Address) (submission : Submission) (s : State)
    (hauth : env.Authorized consumer) :
    Agree host env consumer submission s ↔
      s.circuitVersion.getD 0 = circuitVersion ∨ s.admin = none ∨ submission.proof.length ≠ proofSize ∨
        s.consumedProof (submission.key host) ≠ none ∨
        groth16Verify host submission.proof submission.publicInputs ≠ .ok true := by
  constructor
  · rintro ⟨hverified, -⟩
    by_contra hgap
    simp only [not_or, not_not] at hgap
    obtain ⟨hversion, hadmin, hsize, hfresh, hvalid⟩ := hgap
    have hconsumed := (verifyAndConsume_eq_true_iff hauth).mpr ⟨⟨hsize, hadmin, hfresh, hvalid⟩, rfl⟩
    exact hversion (verifyScoreRange_eq_true_iff.mp (hverified _ hconsumed)).2.2.1
  · intro hcovered
    refine ⟨fun s' hconsumed => ?_, verifyAndConsume_of_verified hauth⟩
    obtain ⟨⟨hsize, hadmin, hfresh, hvalid⟩, -⟩ := (verifyAndConsume_eq_true_iff hauth).mp hconsumed
    rcases hcovered with hversion | hnone | hshort | hstored | hinvalid
    · exact verifyScoreRange_eq_true_iff.mpr ⟨hsize, hadmin, hversion, hvalid⟩
    · exact absurd hnone hadmin
    · exact absurd hsize hshort
    · exact absurd hfresh hstored
    · exact absurd hvalid hinvalid

/-- The contract as set up for a circuit version. -/
def configured (version : BitVec 32) : State :=
  { admin := some (.account 1), vkHash := some 7, circuitVersion := some version }

/-- For the version of the embedded key they agree. -/
theorem agree_iff_configured :
    let env := Env.signedBy (.numbered 100) (.contract 9) [.account 1, .account 2]
    initializeContract env (.account 1) 7 1 {} = .ok (configured 1) ∧
      Agree sampleHost env (.account 2) (sampleSubmission 1) (configured 1) := by
  intro env
  exact ⟨rfl, (agree_iff sampleHost env (.account 2) (sampleSubmission 1) (configured 1) (by decide)).mpr
    (Or.inl rfl)⟩

/-- Set up for the version 2, the contract consumes a proof that it does not verify. -/
theorem consumed_unverified :
    let env := Env.signedBy (.numbered 100) (.contract 9) [.account 1, .account 2]
    initializeContract env (.account 1) 7 2 {} = .ok (configured 2) ∧
      (verifyAndConsume sampleHost env (.account 2) (sampleSubmission 1) (configured 2)).map Prod.fst =
        .ok true ∧
      verifyScoreRange sampleHost (sampleSubmission 1).proof (sampleSubmission 1).publicInputs (configured 2) =
        .ok false ∧
      ¬Agree sampleHost env (.account 2) (sampleSubmission 1) (configured 2) := by
  intro env
  have hconsumed : (verifyAndConsume sampleHost env (.account 2) (sampleSubmission 1)
      (configured 2)).map Prod.fst = .ok true := by decide +kernel
  have hrejected : verifyScoreRange sampleHost (sampleSubmission 1).proof (sampleSubmission 1).publicInputs
      (configured 2) = .ok false := by decide +kernel
  refine ⟨rfl, hconsumed, hrejected, fun hagree => ?_⟩
  obtain ⟨⟨valid, s'⟩, hcall, rfl⟩ := Outcome.map_eq_ok.mp hconsumed
  cases hrejected.symm.trans (hagree.1 s' hcall)

end StellarDidCredit.ScoreRangeVerifier
