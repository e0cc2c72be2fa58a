import StellarDidCredit.ScoreRangeVerifier.Model

/-!
# Proofs are consumed once

The store of consumed hashes holds exactly the hashes of the accepted submissions, in every
run. A repeated submission therefore finds its own hash, and one that is turned away as
consumed shares its hash with an accepted one; unless two submissions of the run collide, it is
that one, since the hashed string determines the submission.
-/

namespace StellarDidCredit.ScoreRangeVerifier

variable {host : Host} {env : Env} {s s' : State} {history : List (Transition State Invocation)}
  {final : State}

/-! ## The hashed string -/

/-- The hashed string determines a submission whose proof has the right size. -/
theorem preimage_injective {submission submission' : Submission}
    (hsize : submission.proof.length = proofSize) (hsize' : submission'.proof.length = proofSize)
    (h : submission.preimage = submission'.preimage) : submission = submission' := by
  obtain ⟨proof, ⟨threshold, subject, creditOracleId, scoreCommitment, snapshotLedger, domainSeparator⟩,
    nonce⟩ := submission
  obtain ⟨proof', ⟨threshold', subject', creditOracleId', scoreCommitment', snapshotLedger',
    domainSeparator'⟩, nonce'⟩ := submission'
  simp only [Submission.preimage, List.append_assoc] at h
  obtain ⟨hproof, h⟩ := List.append_inj h (hsize.trans hsize'.symm)
  obtain ⟨hthreshold, h⟩ := selfDelimiting_toBeBytes _ _ _ _ h
  obtain ⟨hsubject, h⟩ := Address.selfDelimiting_toXdr _ _ _ _ h
  obtain ⟨horacle, h⟩ := Address.selfDelimiting_toXdr _ _ _ _ h
  obtain ⟨hcommitment, h⟩ := BytesN.selfDelimiting_toBytes _ _ _ _ h
  obtain ⟨hledger, h⟩ := selfDelimiting_toBeBytes _ _ _ _ h
  obtain ⟨hdomain, h⟩ := BytesN.selfDelimiting_toBytes _ _ _ _ h
  have hnonce := BytesN.selfDelimiting_toBytes.injective h
  subst hproof hthreshold hsubject horacle hcommitment hledger hdomain hnonce
  rfl

/-! ## One call -/

/-- A submission of the right size that was not consumed before is verified, and consumed when it is valid. -/
theorem verifyAndConsume_spec {consumer : Address} {submission : Submission} {valid : Bool}
    (h : verifyAndConsume host env consumer submission s = .ok (valid, s')) :
    submission.proof.length = proofSize ∧ s.consumedProof (host.sha256 submission.preimage) = none ∧
      s' = if valid then
        { s with consumedProof := s.consumedProof.set (host.sha256 submission.preimage) true } else s := by
  simp only [verifyAndConsume, Outcome.bind_eq_ok, Outcome.require_eq_ok] at h
  obtain ⟨_, _, _, _, _, hsize, _, hfresh, verdict, _, h⟩ := h
  refine ⟨hsize, hfresh, ?_⟩
  cases verdict with
  | true =>
    obtain ⟨rfl, rfl⟩ := Prod.mk.inj (Except.ok.inj h)
    rfl
  | false =>
    obtain ⟨rfl, rfl⟩ := Prod.mk.inj (Except.ok.inj h)
    rfl

/-- The pairing check itself returns no typed error. -/
theorem onlyTraps_groth16Verify (proof : List UInt8) (publicInputs : ScoreRangePublicInputs) :
    Outcome.OnlyTraps (groth16Verify host proof publicInputs) := by
  unfold groth16Verify
  split
  · exact Outcome.onlyTraps_ok false
  · have hterm : ∀ (combined : BytesN 96) (indexed : BytesN 32 × ℕ), Outcome.OnlyTraps (E := Error) (do
        let icPoint ← .okOr embeddedVerificationKey.gammaAbc[indexed.2 + 1]? .trap
        let term ← .okOr (host.g1Mul icPoint (frFromBytes indexed.1)) .trap
        .okOr (host.g1Add combined term) .trap) := fun combined indexed =>
      (Outcome.onlyTraps_okOr _).bind fun _ => (Outcome.onlyTraps_okOr _).bind fun _ =>
        Outcome.onlyTraps_okOr _
    have hcombined : Outcome.OnlyTraps (computePublicInputsCombined host embeddedVerificationKey
        (publicInputsToFields host.sha256 publicInputs)) :=
      (Outcome.onlyTraps_okOr _).bind fun start => Outcome.onlyTraps_foldlM hterm _ start
    exact hcombined.bind fun _ => (Outcome.onlyTraps_okOr _).bind fun _ => Outcome.onlyTraps_okOr _

/-- A submission is turned away as consumed only when its hash is stored. -/
theorem verifyAndConsume_blocked {consumer : Address} {submission : Submission}
    (h : verifyAndConsume host env consumer submission s = .error (.error .proofAlreadyConsumed)) :
    submission.proof.length = proofSize ∧ s.consumedProof (host.sha256 submission.preimage) ≠ none := by
  simp only [verifyAndConsume, requireAuth, Outcome.bind_eq_error, Outcome.require_eq_error,
    Outcome.require_eq_ok] at h
  rcases h with ⟨-, h⟩ | ⟨_, -, ⟨-, h⟩ | ⟨_, -, ⟨-, h⟩ | ⟨_, hsize, ⟨hstored, -⟩ | ⟨_, _, h⟩⟩⟩⟩
  · cases h
  · cases h
  · cases h
  · exact ⟨hsize, hstored⟩
  · rcases h with h | ⟨valid, _, h⟩
    · exact absurd (onlyTraps_groth16Verify _ _ _ h) (by simp)
    · cases valid <;> cases h

/-! ## What a step does -/

/-- The step is a call of `verify_and_consume` for this submission. -/
def Submits (t : Transition State Invocation) (submission : Submission) : Prop :=
  ∃ consumer, t.event.2 = .verifyAndConsume consumer submission

/-- The call returned `Ok(true)`. -/
def Accepted (host : Host) (t : Transition State Invocation) (submission : Submission) : Prop :=
  Submits t submission ∧ reply host t.before t.event = .ok (some true)

/-- The call returned that the submission was consumed before. -/
def Blocked (host : Host) (t : Transition State Invocation) (submission : Submission) : Prop :=
  Submits t submission ∧ reply host t.before t.event = .error (.error .proofAlreadyConsumed)

/-- One invocation. -/
abbrev Step (host : Host) : State → Invocation → State → Prop := StepOf fun s e => some (next host s e)

/-- A step either accepts a submission whose hash was not stored, and stores it, or accepts none
and stores nothing. -/
theorem consumed_step {t : Transition State Invocation} (hstep : Step host t.before t.event t.after) :
    (∃ submission, Accepted host t submission ∧
      t.before.consumedProof (host.sha256 submission.preimage) = none ∧
      t.after.consumedProof = t.before.consumedProof.set (host.sha256 submission.preimage) true) ∨
    ((∀ submission, ¬Accepted host t submission) ∧ t.after.consumedProof = t.before.consumedProof) := by
  obtain ⟨s, ⟨env, call⟩, s'⟩ := t
  obtain rfl : next host s (env, call) = s' := Option.some.inj hstep
  cases hexec : exec host env call s with
  | error fault =>
    right
    have hnext : next host s (env, call) = s := by simp only [next, hexec]
    have hreply : reply host s (env, call) = .error fault := by simp only [reply, hexec]; rfl
    refine ⟨fun submission haccepted => ?_, by rw [hnext]⟩
    cases hreply.symm.trans haccepted.2
  | ok result =>
    obtain ⟨verdict, after⟩ := result
    have hnext : next host s (env, call) = after := by simp only [next, hexec]
    have hreply : reply host s (env, call) = .ok verdict := by simp only [reply, hexec]; rfl
    simp only [hnext]
    cases call <;> simp only [exec, Outcome.bind_eq_ok, Except.ok.injEq, Prod.mk.injEq] at hexec
    case initializeContract admin vkHash version =>
      simp only [initializeContract, Outcome.bind_eq_ok, Except.ok.injEq] at hexec
      obtain ⟨_, ⟨_, _, _, _, rfl⟩, rfl, rfl⟩ := hexec
      refine Or.inr ⟨fun submission haccepted => ?_, rfl⟩
      cases hreply.symm.trans haccepted.2
    case verifyScoreRange proof publicInputs =>
      obtain ⟨valid, -, rfl, rfl⟩ := hexec
      right
      refine ⟨?_, rfl⟩
      rintro submission ⟨⟨consumer, hcall⟩, -⟩
      cases hcall
    case verifyAndConsume consumer submission =>
      obtain ⟨⟨valid, _⟩, hverify, rfl, rfl⟩ := hexec
      obtain ⟨-, hfresh, rfl⟩ := verifyAndConsume_spec hverify
      cases valid with
      | true => exact Or.inl ⟨submission, ⟨⟨consumer, rfl⟩, hreply⟩, hfresh, rfl⟩
      | false =>
        refine Or.inr ⟨fun _ haccepted => ?_, rfl⟩
        cases hreply.symm.trans haccepted.2

/-- An accepted submission is unique. -/
theorem Submits.unique {t : Transition State Invocation} {submission submission' : Submission}
    (h : Submits t submission) (h' : Submits t submission') : submission = submission' := by
  obtain ⟨consumer, hcall⟩ := h
  obtain ⟨consumer', hcall'⟩ := h'
  cases hcall.symm.trans hcall'
  rfl

/-- The reply to a submission is the verdict of `verify_and_consume`. -/
theorem Submits.reply_eq {t : Transition State Invocation} {submission : Submission}
    (h : Submits t submission) :
    ∃ consumer, reply host t.before t.event =
      (verifyAndConsume host t.event.1 consumer submission t.before).map fun result => some result.1 := by
  obtain ⟨s, ⟨env, call⟩, s'⟩ := t
  obtain ⟨consumer, hcall⟩ := h
  obtain rfl : call = .verifyAndConsume consumer submission := hcall
  refine ⟨consumer, ?_⟩
  simp only [reply, exec]
  cases verifyAndConsume host env consumer submission s <;> rfl

/-- The proof of an accepted submission has the right size. -/
theorem Accepted.size {t : Transition State Invocation} {submission : Submission}
    (h : Accepted host t submission) : submission.proof.length = proofSize := by
  obtain ⟨consumer, hreply⟩ := h.1.reply_eq
  obtain ⟨result, hverify, -⟩ := Outcome.map_eq_ok.mp (hreply.symm.trans h.2)
  exact (verifyAndConsume_spec hverify).1

/-- A submission that is turned away as consumed has its hash in the store. -/
theorem Blocked.stored {t : Transition State Invocation} {submission : Submission}
    (h : Blocked host t submission) : submission.proof.length = proofSize ∧
      t.before.consumedProof (host.sha256 submission.preimage) ≠ none := by
  obtain ⟨consumer, hreply⟩ := h.1.reply_eq
  exact verifyAndConsume_blocked (Outcome.map_eq_error.mp (hreply.symm.trans h.2))

/-! ## Whole runs -/

/-- The stored hashes are those of the accepted submissions. -/
theorem consumed_iff (hrun : Run (Step host) {} history final) (key : BytesN 32) :
    final.consumedProof key ≠ none ↔
      ∃ t ∈ history, ∃ submission, Accepted host t submission ∧ host.sha256 submission.preimage = key := by
  induction hrun with
  | nil =>
    constructor
    · exact fun h => (h rfl).elim
    · rintro ⟨t, ht, -⟩
      cases ht
  | @snoc history s e s' hbefore hstep ih =>
    rcases consumed_step (t := ⟨s, e, s'⟩) hstep with ⟨submission, haccepted, -, hstored⟩ | ⟨hnone, hsame⟩
    · simp only at hstored
      rw [hstored, Storage.set_apply]
      by_cases hkey : key = host.sha256 submission.preimage
      · simp only [hkey, if_true]
        exact iff_of_true (by simp) ⟨_, List.mem_append_right _ List.mem_cons_self, submission, haccepted, rfl⟩
      · rw [if_neg hkey, ih]
        constructor
        · rintro ⟨t, ht, found⟩
          exact ⟨t, List.mem_append_left _ ht, found⟩
        · rintro ⟨t, ht, found, hfound, rfl⟩
          rcases List.mem_append.mp ht with ht | ht
          · exact ⟨t, ht, found, hfound, rfl⟩
          · obtain rfl := List.mem_singleton.mp ht
            exact absurd (by rw [hfound.1.unique haccepted.1]) hkey
    · simp only at hsame
      rw [hsame, ih]
      constructor
      · rintro ⟨t, ht, found⟩
        exact ⟨t, List.mem_append_left _ ht, found⟩
      · rintro ⟨t, ht, found, hfound, hkey⟩
        rcases List.mem_append.mp ht with ht | ht
        · exact ⟨t, ht, found, hfound, hkey⟩
        · obtain rfl := List.mem_singleton.mp ht
          exact absurd hfound (hnone found)

/-- No submission is accepted twice. -/
theorem accepted_once (hrun : Run (Step host) {} history final) :
    history.Pairwise fun earlier later => ∀ submission, Accepted host earlier submission →
      ¬Accepted host later submission := by
  induction hrun with
  | nil => exact .nil
  | @snoc history s e s' hbefore hstep ih =>
    refine List.pairwise_append.mpr ⟨ih, List.pairwise_singleton _ _, ?_⟩
    intro earlier hearlier later hlater submission hfirst hagain
    obtain rfl := List.mem_singleton.mp hlater
    have hstored := (consumed_iff hbefore (host.sha256 submission.preimage)).mpr
      ⟨earlier, hearlier, submission, hfirst, rfl⟩
    rcases consumed_step (t := ⟨s, e, s'⟩) hstep with ⟨found, haccepted, hfresh, -⟩ | ⟨hnone, -⟩
    · rw [haccepted.1.unique hagain.1] at hfresh
      exact hstored hfresh
    · exact hnone submission hagain

/-- No two submissions of the run with different strings have the same hash. -/
def CollisionFree (host : Host) (history : List (Transition State Invocation)) : Prop :=
  ∀ t ∈ history, ∀ t' ∈ history, ∀ submission submission', Submits t submission → Submits t' submission' →
    submission.proof.length = proofSize → submission'.proof.length = proofSize →
    host.sha256 submission.preimage = host.sha256 submission'.preimage →
    submission.preimage = submission'.preimage

/-! ## Main result -/

/-- In every run each submission is accepted at most once; the hashed string determines the
submission; only an acceptance stores anything; and, when no two hashes of the run collide, a
submission is turned away as consumed only if it was accepted itself. -/
theorem proof_consumption (host : Host) {history : List (Transition State Invocation)} {final : State}
    (hrun : Run (Step host) {} history final) (hcollision : CollisionFree host history) :
    (history.Pairwise fun earlier later => ∀ submission, Accepted host earlier submission →
      ¬Accepted host later submission) ∧
    (∀ submission submission' : Submission, submission.proof.length = proofSize →
      submission'.proof.length = proofSize → submission.preimage = submission'.preimage →
      submission = submission') ∧
    (∀ t ∈ history, (∀ submission, ¬Accepted host t submission) →
      t.after.consumedProof = t.before.consumedProof) ∧
    (∀ first t rest, history = first ++ t :: rest → ∀ submission, Blocked host t submission →
      ∃ earlier ∈ first, Accepted host earlier submission) := by
  refine ⟨accepted_once hrun, fun _ _ hsize hsize' => preimage_injective hsize hsize', ?_, ?_⟩
  · intro t ht hnone
    rcases consumed_step (hrun.step_of_mem ht) with ⟨submission, haccepted, -⟩ | ⟨-, hsame⟩
    · exact (hnone submission haccepted).elim
    · exact hsame
  · rintro first t rest rfl submission hblocked
    obtain ⟨hbefore, -, -⟩ := hrun.around
    obtain ⟨hsize, hstored⟩ := hblocked.stored
    obtain ⟨earlier, hearlier, found, haccepted, hhash⟩ := (consumed_iff hbefore _).mp hstored
    have hpreimage : found.preimage = submission.preimage :=
      hcollision earlier (List.mem_append_left _ hearlier) t (List.mem_append_right _ List.mem_cons_self)
        found submission haccepted.1 hblocked.1 haccepted.size hsize hhash
    obtain rfl := preimage_injective haccepted.size hsize hpreimage
    exact ⟨earlier, hearlier, haccepted⟩

/-! ## A concrete run -/

/-- A submission with this nonce. -/
def sampleSubmission (nonce : BytesN 32) : Submission where
  proof := List.replicate 384 1
  publicInputs :=
    { threshold := 700, subject := .account 5, creditOracleId := .contract 6, scoreCommitment := 17,
      snapshotLedger := 12345, domainSeparator := 34 }
  nonce

/-- A host that accepts every proof. The digests are those of the strings that the two sample
submissions hash: the submission with the nonce 1 or 2, the subject and the oracle. -/
def sampleHost : Host where
  sha256 bytes := match bytes.getLast? with
    | some 1 => 0x31178CBA52882E5F166984234B07027EEC6AEB3C6B0C9A71BB7E9AFAE31075BF
    | some 2 => 0x5A35872CDDE239AA76A696B821146843AF0CE193A75BCA1679265605D4F944C7
    | some 5 => 0x74D146C11DD12F8FE55C1289CC0E6B6C0A24EE928A4975DAA5E15DF7081A3D6E
    | _ => 0xD2DF3E3138DFFD2F730069F9236536F784BEE260B1052952EE9CD1DDC3887D56
  g1Neg := some
  g1Mul point _ := some point
  g1Add point _ := some point
  pairingCheck _ _ := some true

/-- The contract is set up, and one submission is sent twice before the other. -/
def sampleInvocations : List Invocation :=
  let env := Env.signedBy (.numbered 100) (.contract 9) [.account 1, .account 2]
  [(env, .initializeContract (.account 1) 7 1), (env, .verifyAndConsume (.account 2) (sampleSubmission 1)),
    (env, .verifyAndConsume (.account 2) (sampleSubmission 1)),
    (env, .verifyAndConsume (.account 2) (sampleSubmission 2))]

/-- The run of those invocations and their replies. -/
theorem sampleInvocations_run : ∃ history final, Run (Step sampleHost) {} history final ∧
    history.map (fun t => t.event.2) = sampleInvocations.map Prod.snd ∧
    history.map (fun t => reply sampleHost t.before t.event) =
      [.ok none, .ok (some true), .error (.error .proofAlreadyConsumed), .ok (some true)] := by
  obtain ⟨history, final, hrun, hobserved⟩ := Run.exists_of_replay
    (show (replay (fun s e => some (next sampleHost s e)) {} sampleInvocations).map
      (fun result => (result.1.map (fun t => t.event.2),
        result.1.map (fun t => reply sampleHost t.before t.event))) = some (sampleInvocations.map Prod.snd,
          [.ok none, .ok (some true), .error (.error .proofAlreadyConsumed), .ok (some true)]) by
      decide +kernel)
  obtain ⟨hcalls, hreplies⟩ := Prod.mk.inj hobserved
  exact ⟨history, final, hrun, hcalls, hreplies⟩

/-- In that run the repetition is turned away because of the first submission, and the other
submission is not. -/
theorem proof_consumption_sample : ∃ t₀ t₁ t₂ t₃ final, Run (Step sampleHost) {} [t₀, t₁, t₂, t₃] final ∧
    CollisionFree sampleHost [t₀, t₁, t₂, t₃] ∧ Accepted sampleHost t₃ (sampleSubmission 2) ∧
    Blocked sampleHost t₂ (sampleSubmission 1) ∧
    ∃ earlier ∈ [t₀, t₁], Accepted sampleHost earlier (sampleSubmission 1) := by
  obtain ⟨history, final, hrun, hcalls, hreplies⟩ := sampleInvocations_run
  obtain ⟨t₀, _, rfl, -, hreplies⟩ := List.map_eq_cons_iff.mp hreplies
  obtain ⟨t₁, _, rfl, hreply₁, hreplies⟩ := List.map_eq_cons_iff.mp hreplies
  obtain ⟨t₂, _, rfl, hreply₂, hreplies⟩ := List.map_eq_cons_iff.mp hreplies
  obtain ⟨t₃, _, rfl, hreply₃, hreplies⟩ := List.map_eq_cons_iff.mp hreplies
  obtain rfl := List.map_eq_nil_iff.mp hreplies
  simp only [sampleInvocations, List.map_cons, List.map_nil, List.cons.injEq, and_true] at hcalls
  obtain ⟨hcall₀, hcall₁, hcall₂, hcall₃⟩ := hcalls
  have hdigest : sampleHost.sha256 (sampleSubmission 1).preimage ≠
      sampleHost.sha256 (sampleSubmission 2).preimage := by decide +kernel
  have hsubmitted : ∀ t ∈ [t₀, t₁, t₂, t₃], ∀ submission, Submits t submission →
      submission = sampleSubmission 1 ∨ submission = sampleSubmission 2 := by
    rintro t ht submission ⟨consumer, hcall⟩
    simp only [List.mem_cons, List.not_mem_nil, or_false] at ht
    rcases ht with rfl | rfl | rfl | rfl
    · cases hcall₀.symm.trans hcall
    · cases hcall₁.symm.trans hcall
      exact Or.inl rfl
    · cases hcall₂.symm.trans hcall
      exact Or.inl rfl
    · cases hcall₃.symm.trans hcall
      exact Or.inr rfl
  have hcollision : CollisionFree sampleHost [t₀, t₁, t₂, t₃] := by
    intro t ht t' ht' submission submission' hsubmits hsubmits' _ _ hhash
    rcases hsubmitted t ht submission hsubmits with rfl | rfl <;>
      rcases hsubmitted t' ht' submission' hsubmits' with rfl | rfl
    · rfl
    · exact (hdigest hhash).elim
    · exact (hdigest hhash.symm).elim
    · rfl
  have hblocked : Blocked sampleHost t₂ (sampleSubmission 1) := ⟨⟨_, hcall₂⟩, hreply₂⟩
  obtain ⟨-, -, -, hearlier⟩ := proof_consumption sampleHost hrun hcollision
  exact ⟨t₀, t₁, t₂, t₃, final, hrun, hcollision, ⟨⟨_, hcall₃⟩, hreply₃⟩, hblocked,
    hearlier [t₀, t₁] t₂ [t₃] rfl _ hblocked⟩

end StellarDidCredit.ScoreRangeVerifier
