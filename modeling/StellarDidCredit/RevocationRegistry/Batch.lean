import StellarDidCredit.RevocationRegistry.Index

/-!
# Batches and single revocations

`batch_revoke` keeps the issuer's list in a local variable and stores it after its loop, `revoke`
stores it at every call. On a contract without a linked identity oracle the loop and the calls fail
at the same hash with the same error and leave the same state: a batch is its hashes revoked one by
one, behind the check of its length.
-/

namespace StellarDidCredit.RevocationRegistry

variable {κ : Type} {host : Host κ} {env : Env} {s : State} {world : κ} {issuer : Address}
  {vcHash : BytesN 32} {list : List (BytesN 32)} {listModified : Bool}

/-! ## The write after the loop -/

/-- Store what the loop of `batch_revoke` kept in memory. -/
def storeList (issuer : Address) : State × List (BytesN 32) × Bool → State
  | (s, list, listModified) =>
    if listModified then { s with issuerRevokedList := s.issuerRevokedList.set issuer list } else s

/-- A batch is its gates, its loop and one write. -/
theorem batchRevoke_eq (env : Env) (issuer : Address) (vcHashes : List (BytesN 32)) (s : State) :
    batchRevoke env issuer vcHashes s = (do
      ensureNotPaused s
      requireAuth env issuer
      .require (vcHashes.length ≤ s.batchLimit.getD maxBatchSize) (.error .batchTooLarge)
      (batchLoop issuer vcHashes (s, listRevokedForIssuer s issuer, false)).map (storeList issuer)) := by
  unfold batchRevoke
  refine bind_congr fun _ => bind_congr fun _ => bind_congr fun _ => ?_
  rcases batchLoop issuer vcHashes (s, listRevokedForIssuer s issuer, false) with fault | ⟨looped, list, modified⟩
  · rfl
  · cases modified <;> rfl

/-- What the write leaves alone. -/
theorem storeList_writes (issuer : Address) (s : State) (list : List (BytesN 32)) (listModified : Bool) :
    ∃ issuerRevokedList, storeList issuer (s, list, listModified) = { s with issuerRevokedList } := by
  cases listModified <;> exact ⟨_, rfl⟩

/-- A hash is claimed before the write as after it. -/
theorem claimVcIssuer_storeList (issuer : Address) (vcHash : BytesN 32) (s : State) (list : List (BytesN 32))
    (listModified : Bool) :
    claimVcIssuer issuer vcHash (storeList issuer (s, list, listModified)) =
      (claimVcIssuer issuer vcHash s).map fun claimed => storeList issuer (claimed, list, listModified) := by
  cases listModified with
  | false =>
    change claimVcIssuer issuer vcHash s = (claimVcIssuer issuer vcHash s).map fun claimed => claimed
    cases claimVcIssuer issuer vcHash s <;> rfl
  | true =>
    change claimVcIssuer issuer vcHash { s with issuerRevokedList := s.issuerRevokedList.set issuer list } = _
    unfold claimVcIssuer
    dsimp only
    cases s.registeredVCIssuer vcHash with
    | none => rfl
    | some existing =>
      by_cases hexisting : existing = issuer
      · simp only [Outcome.require, if_pos hexisting]
        rfl
      · simp only [Outcome.require, if_neg hexisting]
        rfl

/-- A hash is marked before the write as after it. -/
theorem markRevoked_storeList (issuer : Address) (vcHash : BytesN 32) (s : State) (list : List (BytesN 32))
    (listModified : Bool) :
    markRevoked issuer vcHash (storeList issuer (s, list, listModified)) =
      storeList issuer (markRevoked issuer vcHash s, list, listModified) := by
  cases listModified <;> rfl

/-- A hash that the stored list has is not listed again. -/
theorem listRevocation_storeList_of_mem
    (hstored : listRevokedForIssuer (storeList issuer (s, list, listModified)) issuer = list)
    (hmem : vcHash ∈ list) :
    listRevocation issuer vcHash (storeList issuer (s, list, listModified)) =
      storeList issuer (s, list, listModified) := by
  simp only [listRevocation, hstored, if_pos hmem]

/-- Any other is listed as if the grown list were stored at once. -/
theorem listRevocation_storeList_of_not_mem
    (hstored : listRevokedForIssuer (storeList issuer (s, list, listModified)) issuer = list)
    (hmem : vcHash ∉ list) :
    listRevocation issuer vcHash (storeList issuer (s, list, listModified)) =
      storeList issuer (s, list ++ [vcHash], true) := by
  simp only [listRevocation, hstored, if_neg hmem]
  cases listModified with
  | false => rfl
  | true =>
    simp only [storeList, if_true]
    congr 1
    funext other
    by_cases hother : other = issuer
    · simp only [hother, Storage.set_self]
    · simp only [Storage.set_of_ne _ _ hother]

/-! ## One by one -/

/-- A call of `revoke` in a sequence of an issuer's: its environment, its subject and its hash. -/
structure Single where
  env : Env
  subject : Address
  vcHash : BytesN 32

/-- Revoke hashes one after another. -/
def revokeEach {κ : Type} (host : Host κ) (issuer : Address) :
    List Single → State × κ → Outcome Error (State × κ)
  | [], after => .ok after
  | single :: rest, (s, world) => do
    let after ← revoke host single.env issuer single.subject single.vcHash s world
    revokeEach host issuer rest after

/-- The calls of two sequences, one after the other. -/
theorem revokeEach_append (first second : List Single) (after : State × κ) :
    revokeEach host issuer (first ++ second) after =
      revokeEach host issuer first after >>= revokeEach host issuer second := by
  induction first generalizing after with
  | nil => rfl
  | cons single rest ih =>
    rw [List.cons_append, revokeEach, revokeEach, bind_assoc]
    exact bind_congr ih

/-- Without a linked identity oracle, a revocation claims, marks and lists its hash. -/
theorem revoke_unlinked (hpaused : s.paused.getD false = false) (hunlinked : s.identityOracleId = none)
    (hauth : env.Authorized issuer) (subject : Address) :
    revoke host env issuer subject vcHash s world =
      (claimVcIssuer issuer vcHash s).map fun claimed =>
        (listRevocation issuer vcHash (markRevoked issuer vcHash claimed), world) := by
  simp only [revoke, ensureNotPaused, requireAuth, Outcome.require, if_pos hpaused, if_pos hauth]
  cases hclaim : claimVcIssuer issuer vcHash s with
  | error fault => rfl
  | ok claimed =>
    obtain ⟨registeredVCIssuer, rfl⟩ := claimVcIssuer_writes hclaim
    have hforward : forwardRevocation host issuer subject vcHash
        (markRevoked issuer vcHash { s with registeredVCIssuer }) world =
          .ok (markRevoked issuer vcHash { s with registeredVCIssuer }, world) := by
      simp only [forwardRevocation, markRevoked, hunlinked]
    exact congrArg (· >>= fun after => Except.ok (listRevocation issuer vcHash after.1, after.2)) hforward

/-- Single calls follow the loop of `batch_revoke`, as if it stored its list at every hash. The
induction is on the hashes; it keeps that the list in memory is the one that the calls have stored. -/
theorem revokeEach_storeList (singles : List Single) (hpaused : s.paused.getD false = false)
    (hunlinked : s.identityOracleId = none) (hauth : ∀ single ∈ singles, single.env.Authorized issuer)
    (hstored : listRevokedForIssuer (storeList issuer (s, list, listModified)) issuer = list) :
    revokeEach host issuer singles (storeList issuer (s, list, listModified), world) =
      (batchLoop issuer (singles.map (·.vcHash)) (s, list, listModified)).map fun looped =>
        (storeList issuer looped, world) := by
  induction singles generalizing s list listModified with
  | nil => rfl
  | cons single rest ih =>
    have hhead : single.env.Authorized issuer := hauth single List.mem_cons_self
    have hrest : ∀ other ∈ rest, other.env.Authorized issuer :=
      fun other hother => hauth other (List.mem_cons_of_mem _ hother)
    have hgates : (storeList issuer (s, list, listModified)).paused.getD false = false ∧
        (storeList issuer (s, list, listModified)).identityOracleId = none := by
      obtain ⟨lists, hlists⟩ := storeList_writes issuer s list listModified
      rw [hlists]
      exact ⟨hpaused, hunlinked⟩
    simp only [revokeEach, List.map_cons, batchLoop]
    rw [revoke_unlinked hgates.1 hgates.2 hhead, claimVcIssuer_storeList]
    cases hclaim : claimVcIssuer issuer single.vcHash s with
    | error fault => rfl
    | ok claimed =>
      obtain ⟨registeredVCIssuer, rfl⟩ := claimVcIssuer_writes hclaim
      have hkept : listRevokedForIssuer (storeList issuer
          (markRevoked issuer single.vcHash { s with registeredVCIssuer }, list, listModified)) issuer = list := by
        cases listModified <;> exact hstored
      simp only [Except.map, bind, Except.bind, markRevoked_storeList]
      by_cases hmem : single.vcHash ∈ list
      · rw [if_pos hmem, listRevocation_storeList_of_mem hkept hmem]
        exact ih hpaused hunlinked hrest hkept
      · rw [if_neg hmem, listRevocation_storeList_of_not_mem hkept hmem]
        refine ih hpaused hunlinked hrest ?_
        simp only [storeList, if_true, listRevokedForIssuer, Storage.set_self, Option.getD_some]

/-! ## When the loop succeeds -/

/-- The hash is unregistered or registered to the issuer. -/
def MayRevoke (issuer : Address) (s : State) (vcHash : BytesN 32) : Prop :=
  s.registeredVCIssuer vcHash = none ∨ s.registeredVCIssuer vcHash = some issuer

/-- Such a hash can be claimed. -/
theorem MayRevoke.claims (h : MayRevoke issuer s vcHash) :
    ∃ claimed, claimVcIssuer issuer vcHash s = .ok claimed := by
  unfold claimVcIssuer
  rcases h with hnone | hissuer
  · rw [hnone]
    exact ⟨_, rfl⟩
  · rw [hissuer]
    exact ⟨s, by simp [Outcome.require]⟩

/-- No revocation by the issuer takes a hash from it. -/
theorem MayRevoke.revoked {vcHashes : List (BytesN 32)} {s' : State} (h : MayRevoke issuer s vcHash)
    (hrevokes : Revokes issuer vcHashes s s') : MayRevoke issuer s' vcHash := by
  unfold MayRevoke
  rw [hrevokes.registered]
  by_cases hmem : vcHash ∈ vcHashes
  · exact Or.inr (if_pos hmem)
  · rwa [if_neg hmem]

/-- Revocations by the issuer change nothing about who may revoke. -/
theorem mayRevoke_iff {vcHashes : List (BytesN 32)} {s' : State} (hrevokes : Revokes issuer vcHashes s s') :
    MayRevoke issuer s' vcHash ↔ MayRevoke issuer s vcHash := by
  refine ⟨fun h => ?_, fun h => h.revoked hrevokes⟩
  by_cases hmem : vcHash ∈ vcHashes
  · cases hregistered : s.registeredVCIssuer vcHash with
    | none => exact Or.inl hregistered
    | some existing => exact Or.inr (by rw [hregistered, hrevokes.allowed vcHash hmem existing hregistered])
  · unfold MayRevoke at h ⊢
    rwa [hrevokes.registered, if_neg hmem] at h

/-- The loop succeeds over hashes that the issuer may revoke. -/
theorem batchLoop_succeeds {vcHashes : List (BytesN 32)} (h : ∀ vcHash ∈ vcHashes, MayRevoke issuer s vcHash) :
    ∃ looped, batchLoop issuer vcHashes (s, list, listModified) = .ok looped := by
  induction vcHashes generalizing s list listModified with
  | nil => exact ⟨_, rfl⟩
  | cons vcHash rest ih =>
    obtain ⟨claimed, hclaim⟩ := (h vcHash List.mem_cons_self).claims
    have hrest : ∀ other ∈ rest, MayRevoke issuer (markRevoked issuer vcHash claimed) other :=
      fun other hother => (h other (List.mem_cons_of_mem _ hother)).revoked (Revokes.claim hclaim)
    simp only [batchLoop, hclaim, bind, Except.bind]
    split
    · exact ih hrest
    · exact ih hrest

/-- The loop fails at a hash of another issuer only. -/
theorem batchLoop_error {vcHashes : List (BytesN 32)} {fault : Fault Error}
    (h : batchLoop issuer vcHashes (s, list, listModified) = .error fault) : fault = .error .issuerMismatch := by
  induction vcHashes generalizing s list listModified with
  | nil => cases h
  | cons vcHash rest ih =>
    simp only [batchLoop, Outcome.bind_eq_error] at h
    rcases h with hclaim | ⟨claimed, -, h⟩
    · unfold claimVcIssuer at hclaim
      split at hclaim
      · rcases Outcome.bind_eq_error.mp hclaim with hrequire | ⟨_, -, hdone⟩
        · exact (Outcome.require_eq_error.mp hrequire).2.symm
        · cases hdone
      · cases hclaim
    · split at h
      · exact ih h
      · exact ih h

/-! ## The batch -/

/-- A batch behind open gates is its single calls, if it is short enough. -/
theorem batchRevoke_eq_revokeEach (singles : List Single) (hpaused : s.paused.getD false = false)
    (hunlinked : s.identityOracleId = none) (henv : env.Authorized issuer)
    (hauth : ∀ single ∈ singles, single.env.Authorized issuer)
    (hlength : singles.length ≤ s.batchLimit.getD maxBatchSize) :
    revokeEach host issuer singles (s, world) =
      (batchRevoke env issuer (singles.map (·.vcHash)) s).map (·, world) := by
  have hstored : listRevokedForIssuer (storeList issuer (s, listRevokedForIssuer s issuer, false)) issuer =
      listRevokedForIssuer s issuer := rfl
  have heach : revokeEach host issuer singles (s, world) =
      (batchLoop issuer (singles.map (·.vcHash)) (s, listRevokedForIssuer s issuer, false)).map fun looped =>
        (storeList issuer looped, world) :=
    revokeEach_storeList singles hpaused hunlinked hauth hstored
  rw [heach, batchRevoke_eq]
  simp only [ensureNotPaused, requireAuth, Outcome.require, List.length_map, if_pos hpaused, if_pos henv,
    if_pos hlength]
  cases batchLoop issuer (singles.map (·.vcHash)) (s, listRevokedForIssuer s issuer, false) <;> rfl

/-- A batch succeeds behind open gates when it is short enough and its hashes may be revoked. -/
theorem batchRevoke_succeeds_iff (vcHashes : List (BytesN 32)) (hpaused : s.paused.getD false = false)
    (henv : env.Authorized issuer) :
    (∃ s', batchRevoke env issuer vcHashes s = .ok s') ↔
      vcHashes.length ≤ s.batchLimit.getD maxBatchSize ∧ ∀ vcHash ∈ vcHashes, MayRevoke issuer s vcHash := by
  constructor
  · rintro ⟨s', h⟩
    have hlength : vcHashes.length ≤ s.batchLimit.getD maxBatchSize := by
      simp only [batchRevoke, Outcome.bind_eq_ok, Outcome.require_eq_ok] at h
      obtain ⟨_, _, _, _, _, hlength, _⟩ := h
      exact hlength
    refine ⟨hlength, fun vcHash hmem => ?_⟩
    have hallowed := (batchRevoke_spec h).2.allowed vcHash hmem
    unfold MayRevoke
    cases hregistered : s.registeredVCIssuer vcHash with
    | none => exact Or.inl rfl
    | some existing => exact Or.inr (congrArg some (hallowed existing hregistered))
  · rintro ⟨hlength, hallowed⟩
    obtain ⟨looped, hloop⟩ : ∃ looped, batchLoop issuer vcHashes (s, listRevokedForIssuer s issuer, false) =
        .ok looped := batchLoop_succeeds hallowed
    refine ⟨storeList issuer looped, ?_⟩
    rw [batchRevoke_eq, hloop]
    simp only [ensureNotPaused, requireAuth, Outcome.require, if_pos hpaused, if_pos henv, if_pos hlength]
    rfl

/-- A batch that is short enough fails behind open gates at a hash of another issuer only. -/
theorem batchRevoke_error {vcHashes : List (BytesN 32)} {fault : Fault Error}
    (hpaused : s.paused.getD false = false) (henv : env.Authorized issuer)
    (hlength : vcHashes.length ≤ s.batchLimit.getD maxBatchSize)
    (h : batchRevoke env issuer vcHashes s = .error fault) : fault = .error .issuerMismatch := by
  rw [batchRevoke_eq] at h
  simp only [ensureNotPaused, requireAuth, Outcome.require, if_pos hpaused, if_pos henv, if_pos hlength] at h
  exact batchLoop_error (Outcome.map_eq_error.mp h)

/-- While the contract is neither paused nor linked to an identity oracle, a batch that its issuer
authorised succeeds when it is no longer than the limit and each hash is unregistered or registered to
the issuer. It then leaves the state that the calls of `revoke` on its hashes leave, whatever their
subjects; otherwise it leaves the state as it is. -/
theorem batchRevoke_one_by_one {κ : Type} (host : Host κ) (env : Env) (issuer : Address)
    (vcHashes : List (BytesN 32)) (s : State) (world : κ) (hpaused : s.paused.getD false = false)
    (hunlinked : s.identityOracleId = none) (henv : env.Authorized issuer) :
    ((∃ s', batchRevoke env issuer vcHashes s = .ok s') ↔
      vcHashes.length ≤ s.batchLimit.getD maxBatchSize ∧
      ∀ vcHash ∈ vcHashes, s.registeredVCIssuer vcHash = none ∨ s.registeredVCIssuer vcHash = some issuer) ∧
    (∀ s', batchRevoke env issuer vcHashes s = .ok s' → ∀ singles : List Single,
      singles.map (·.vcHash) = vcHashes → (∀ single ∈ singles, single.env.Authorized issuer) →
      revokeEach host issuer singles (s, world) = .ok (s', world)) ∧
    ((∀ s', batchRevoke env issuer vcHashes s ≠ .ok s') →
      Outcome.commit s (batchRevoke env issuer vcHashes s) = s) := by
  have hsucceeds := batchRevoke_succeeds_iff vcHashes hpaused henv
  refine ⟨hsucceeds, ?_, ?_⟩
  · rintro s' hbatch singles rfl hauth
    have hlength : singles.length ≤ s.batchLimit.getD maxBatchSize := by
      simpa only [List.length_map] using (hsucceeds.mp ⟨s', hbatch⟩).1
    rw [batchRevoke_eq_revokeEach singles hpaused hunlinked henv hauth hlength, hbatch]
    rfl
  · intro hfails
    cases hbatch : batchRevoke env issuer vcHashes s with
    | error fault => exact Outcome.commit_error s fault
    | ok s' => exact absurd hbatch (hfails s')

/-- An issuer revokes a new hash twice and an old one, after which both are in its list. -/
theorem batchRevoke_one_by_one_repeated :
    let s : State := { admin := some (.account 1), registeredVCIssuer := Storage.empty.set 7 (.account 2),
                       issuerRevokedList := Storage.empty.set (.account 2) [7] }
    let env := Env.signedBy (Ledger.numbered 1) (.contract 20) [.account 2]
    let singles : List Single := [⟨env, .account 3, 8⟩, ⟨env, .account 4, 7⟩, ⟨env, .account 3, 8⟩]
    ∃ s', batchRevoke env (.account 2) [8, 7, 8] s = .ok s' ∧
      revokeEach (answeringHost false) (.account 2) singles (s, ()) = .ok (s', ()) ∧
      listRevokedForIssuer s' (.account 2) = [7, 8] := by
  intro s env singles
  have henv : env.Authorized (.account 2) := by decide
  obtain ⟨-, honeByOne, -⟩ :=
    batchRevoke_one_by_one (answeringHost false) env (.account 2) [8, 7, 8] s () rfl rfl henv
  have hauth : ∀ single ∈ singles, single.env.Authorized (.account 2) := by decide
  exact ⟨_, rfl, honeByOne _ rfl singles rfl hauth, rfl⟩

end StellarDidCredit.RevocationRegistry
