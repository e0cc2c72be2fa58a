import StellarDidCredit.RevocationRegistry.Batch
import StellarDidCredit.Sdk.Batches

/-!
# Batches on a registry

A server applies each chunk of `batchRevokeVC` to the registry, or refuses it, before it answers. The
report then tells which hashes the registry has revoked.
-/

namespace StellarDidCredit.Sdk

open RevocationRegistry (batchRevoke getBatchLimit maxBatchSize MayRevoke Revokes revokeEach)

/-- The hashes as `batch_revoke` gets them. -/
def hashArguments (vcHashes : List (List UInt8)) : List (BytesN 32) := vcHashes.map BytesN.fromArray

/-- A server that applies a chunk to the registry at once, or reports why its simulation fails. -/
def registryServer (describe : Fault RevocationRegistry.Error → String) (txHash : List (List UInt8) → String)
    (env : Env) (issuer : Address) (chunk : List (List UInt8)) (s : RevocationRegistry.State) :
    ChunkAnswers × RevocationRegistry.State :=
  match batchRevoke env issuer (hashArguments chunk) s with
  | .ok s' => (promptAnswers (promptExchange .success) "" (txHash chunk), s')
  | .error fault => (promptAnswers refusingExchange (describe fault) "", s)

/-- The SDK tells the refusal of another issuer's hash from the other errors of the registry. -/
theorem createRevokeError_registry (message : String) (error : RevocationRegistry.Error) :
    (createRevokeError message (.contractError (errorOf .revocationRegistry error))).code =
      if error = .issuerMismatch then .notRegisteredIssuer else .transactionFailed := by
  have hmatch : containsIssuerMismatch (.contractError (errorOf .revocationRegistry error)) =
      decide (error = .issuerMismatch) := by
    cases error <;> decide +kernel
  unfold createRevokeError
  rw [hmatch]
  cases error <;> rfl

/-- How a server describes the errors of the registry: the first one in the text is the contract's. -/
def Describes (describe : Fault RevocationRegistry.Error → String) : Prop :=
  ∀ error, ∃ front rest, '(' ∉ front.toList ∧
    describe (.error error) = front ++ hostError (revocationRegistryCode error).1 ++ rest

/-- A description with nothing but the code. -/
def hostDescription : Fault RevocationRegistry.Error → String
  | .error error => hostError (revocationRegistryCode error).1
  | .callee code => hostError code
  | .trap => ""

/-- A code alone is a description. -/
theorem describes_hostDescription : Describes hostDescription :=
  fun error => ⟨"", "", List.not_mem_nil, by rw [String.append_empty, String.empty_append]; rfl⟩

/-- Some hash of the chunk is registered to another issuer. -/
def Foreign (s : RevocationRegistry.State) (issuer : Address) (chunk : List (List UInt8)) : Prop :=
  ∃ vcHash ∈ hashArguments chunk, ¬MayRevoke issuer s vcHash

/-- The hashes of the chunks that succeeded, in order. -/
def BatchResult.revoked (result : BatchResult) : List (BytesN 32) :=
  hashArguments ((result.results.filter (!·.failed)).flatMap (·.vcHashes))

variable {describe : Fault RevocationRegistry.Error → String} {txHash : List (List UInt8) → String} {env : Env}
  {issuer : Address} {s s' s₀ : RevocationRegistry.State} {chunk : List (List UInt8)}

/-- What the registry has done for the chunks so far. -/
structure Progress (issuer : Address) (s₀ : RevocationRegistry.State) (result : BatchResult)
    (s : RevocationRegistry.State) : Prop where
  paused : s.paused = s₀.paused
  batchLimit : s.batchLimit = s₀.batchLimit
  revokes : Revokes issuer result.revoked s₀ s
  failed : ∀ chunk ∈ result.results, chunk.failed = true ↔ Foreign s₀ issuer chunk.vcHashes
  code : ∀ chunk ∈ result.results, ∀ error, chunk.status = .failed error → error.code = .notRegisteredIssuer
  oneByOne : s₀.identityOracleId = none → ∀ (κ : Type) (host : RevocationRegistry.Host κ) (world : κ) singles,
    singles.map (·.vcHash) = result.revoked → (∀ single ∈ singles, single.env.Authorized issuer) →
    revokeEach host issuer singles (s₀, world) = .ok (s, world)

/-- Nothing is done before the first chunk. -/
theorem progress_initial (issuer : Address) (s₀ : RevocationRegistry.State) :
    Progress issuer s₀ .initial s₀ where
  paused := rfl
  batchLimit := rfl
  revokes := .nil
  failed := fun _ hchunk => nomatch hchunk
  code := fun _ hchunk => nomatch hchunk
  oneByOne := by
    intro _ κ host world singles hsingles _
    obtain rfl := List.map_eq_nil_iff.mp hsingles
    rfl

/-- A chunk that succeeds adds its hashes. -/
theorem revoked_success (result : BatchResult) (chunkIndex : ℕ) (chunk : List (List UInt8))
    (transactionHash : String) :
    (result.record chunkIndex chunk (.success transactionHash)).revoked =
      result.revoked ++ hashArguments chunk := by
  simp [BatchResult.revoked, BatchResult.record, BatchChunkResult.failed, hashArguments]

/-- A chunk that fails adds none. -/
theorem revoked_failed (result : BatchResult) (chunkIndex : ℕ) (chunk : List (List UInt8))
    (error : SDKError Raised) : (result.record chunkIndex chunk (.failed error)).revoked = result.revoked := by
  simp [BatchResult.revoked, BatchResult.record, BatchChunkResult.failed, hashArguments]

/-- A chunk that the registry applies has no hash of another issuer. -/
theorem Progress.applied {result : BatchResult} (h : Progress issuer s₀ result s)
    (hpaused : s₀.paused.getD false = false) (henv : env.Authorized issuer)
    (hexec : batchRevoke env issuer (hashArguments chunk) s = .ok s') (chunkIndex : ℕ) (transactionHash : String) :
    Progress issuer s₀ (result.record chunkIndex chunk (.success transactionHash)) s' := by
  have hopen : s.paused.getD false = false := h.paused ▸ hpaused
  have hrevokes := (RevocationRegistry.batchRevoke_spec hexec).2
  obtain ⟨hlength, hallowed⟩ :=
    (RevocationRegistry.batchRevoke_succeeds_iff (hashArguments chunk) hopen henv).mp ⟨s', hexec⟩
  have hcall : RevocationRegistry.exec (RevocationRegistry.answeringHost true) env
      (.batchRevoke issuer (hashArguments chunk)) s () = .ok (s', ()) :=
    RevocationRegistry.alone_eq_ok.mpr ⟨hexec, rfl⟩
  obtain ⟨-, registeredVCIssuer, status, issuerOfVC, issuerRevokedList, reentrancyLock, hwrites⟩ :=
    RevocationRegistry.exec_revocation rfl hcall
  constructor
  case paused => rw [hwrites, h.paused]
  case batchLimit => rw [hwrites, h.batchLimit]
  case revokes => rw [revoked_success]; exact h.revokes.append hrevokes
  case failed =>
    intro line hline
    rcases List.mem_append.mp hline with hold | hnew
    · exact h.failed line hold
    · obtain rfl := List.mem_singleton.mp hnew
      refine iff_of_false Bool.false_ne_true ?_
      rintro ⟨vcHash, hmem, hforeign⟩
      exact hforeign ((RevocationRegistry.mayRevoke_iff h.revokes).mp (hallowed vcHash hmem))
  case code =>
    intro line hline error herror
    rcases List.mem_append.mp hline with hold | hnew
    · exact h.code line hold error herror
    · obtain rfl := List.mem_singleton.mp hnew
      cases herror
  case oneByOne =>
    intro hunlinked κ host world singles hsingles hauth
    rw [revoked_success] at hsingles
    obtain ⟨first, second, rfl, hfirst, hsecond⟩ := List.map_eq_append_iff.mp hsingles
    have hbefore := h.oneByOne hunlinked κ host world first hfirst
      fun single hsingle => hauth single (List.mem_append_left _ hsingle)
    have hstill : s.identityOracleId = none := h.revokes.identityOracleId.trans hunlinked
    have hcount : second.length ≤ s.batchLimit.getD maxBatchSize := by
      rwa [← List.length_map (·.vcHash), hsecond]
    have hchunk : revokeEach host issuer second (s, world) =
        (batchRevoke env issuer (second.map (·.vcHash)) s).map (·, world) :=
      RevocationRegistry.batchRevoke_eq_revokeEach second hopen hstill henv
        (fun single hsingle => hauth single (List.mem_append_right _ hsingle)) hcount
    rw [RevocationRegistry.revokeEach_append, hbefore]
    refine hchunk.trans ?_
    rw [hsecond, hexec]
    rfl

/-- A chunk with another issuer's hash is refused, and its error says so. -/
theorem Progress.refused {result : BatchResult} (h : Progress issuer s₀ result s) {error : SDKError Raised}
    (hforeign : Foreign s₀ issuer chunk) (hcode : error.code = .notRegisteredIssuer) (chunkIndex : ℕ) :
    Progress issuer s₀ (result.record chunkIndex chunk (.failed error)) s := by
  constructor
  case paused => exact h.paused
  case batchLimit => exact h.batchLimit
  case revokes => rw [revoked_failed]; exact h.revokes
  case failed =>
    intro line hline
    rcases List.mem_append.mp hline with hold | hnew
    · exact h.failed line hold
    · obtain rfl := List.mem_singleton.mp hnew
      exact iff_of_true rfl hforeign
  case code =>
    intro line hline error' herror
    rcases List.mem_append.mp hline with hold | hnew
    · exact h.code line hold error' herror
    · obtain rfl := List.mem_singleton.mp hnew
      obtain rfl := ChunkStatus.failed.inj herror
      exact hcode
  case oneByOne => rw [revoked_failed]; exact h.oneByOne

/-- One chunk after the other. -/
theorem Progress.submitChunks (hdescribe : Describes describe) (hpaused : s₀.paused.getD false = false)
    (henv : env.Authorized issuer) (txHash : List (List UInt8) → String) (maxRetries : ℕ)
    {chunks : List (List (List UInt8))} (hlengths : ∀ chunk ∈ chunks, chunk.length ≤ getBatchLimit s₀)
    (chunkIndex : ℕ) {result : BatchResult} (h : Progress issuer s₀ result s) :
    ∃ result' s', Sdk.submitChunks (submitBatchRevokeChunk maxRetries)
        (registryServer describe txHash env issuer) id
        (fun error => createRevokeError s!"batchRevokeVC chunk failed: {getErrorMessage error}" error)
        chunks chunkIndex result s = some (result', s') ∧ Progress issuer s₀ result' s' := by
  induction chunks generalizing chunkIndex result s with
  | nil => exact ⟨result, s, rfl, h⟩
  | cons chunk rest ih =>
    have hopen : s.paused.getD false = false := h.paused ▸ hpaused
    have hrest : ∀ other ∈ rest, other.length ≤ getBatchLimit s₀ :=
      fun other hother => hlengths other (List.mem_cons_of_mem _ hother)
    have hlength : (hashArguments chunk).length ≤ s.batchLimit.getD maxBatchSize := by
      rw [h.batchLimit, hashArguments, List.length_map]
      exact hlengths chunk List.mem_cons_self
    rw [Sdk.submitChunks, registryServer]
    cases hexec : batchRevoke env issuer (hashArguments chunk) s with
    | ok s' =>
      simp only [submitBatchRevokeChunk_applied, Option.bind_eq_bind, Option.bind_some, List.map_id, chunkStatus]
      exact ih hrest (chunkIndex + 1) (h.applied hpaused henv hexec chunkIndex (txHash chunk))
    | error fault =>
      obtain rfl := RevocationRegistry.batchRevoke_error hopen henv hlength hexec
      have hforeign : Foreign s₀ issuer chunk := by
        by_contra hnone
        have hallowed : ∀ vcHash ∈ hashArguments chunk, MayRevoke issuer s vcHash := by
          intro vcHash hmem
          refine (RevocationRegistry.mayRevoke_iff h.revokes).mpr ?_
          by_contra hother
          exact hnone ⟨vcHash, hmem, hother⟩
        obtain ⟨s', hsucceeds⟩ :=
          (RevocationRegistry.batchRevoke_succeeds_iff (hashArguments chunk) hopen henv).mpr ⟨hlength, hallowed⟩
        rw [hexec] at hsucceeds
        cases hsucceeds
      obtain ⟨front, text, hfront, htext⟩ := hdescribe .issuerMismatch
      have hthrown : throwContractError (describe (.error .issuerMismatch)) .revocationRegistry =
          errorOf .revocationRegistry .issuerMismatch := by
        rw [htext]
        exact throwContractError_hostError .revocationRegistry .issuerMismatch hfront
      simp only [submitBatchRevokeChunk_refused, Option.bind_eq_bind, Option.bind_some, List.map_id,
        chunkStatus, hthrown]
      exact ih hrest (chunkIndex + 1) (h.refused hforeign (createRevokeError_registry _ .issuerMismatch) chunkIndex)

/-- A batch that succeeds has revoked every chunk. -/
theorem BatchResult.Reports.revoked_of_success {result : BatchResult} {chunks : List (List (List UInt8))}
    (h : result.Reports chunks) (hsuccess : result.success = true) :
    result.revoked = hashArguments chunks.flatten := by
  have hnone := h.success.mp hsuccess
  rw [h.failedChunks, List.countP_eq_zero] at hnone
  have hall : result.results.filter (!·.failed) = result.results :=
    List.filter_eq_self.mpr fun line hline => by simpa using hnone line hline
  rw [BatchResult.revoked, hall, List.flatMap_def, h.covers]

/-- The limit of a registry that any calls have led to is a size of chunks. -/
theorem getBatchLimit_pos {history : List (Transition RevocationRegistry.State RevocationRegistry.Event)}
    (hrun : Run (StepOf RevocationRegistry.next) {} history s) : 0 < getBatchLimit s := by
  refine hrun.invariant (fun s => 0 < getBatchLimit s) (fun s e s' hpos hstep => ?_) (by decide)
  have hexec := RevocationRegistry.exec_of_next hstep
  cases hcall : e.call.revocation with
  | some revocation =>
    obtain ⟨-, _, _, _, _, _, rfl⟩ := RevocationRegistry.exec_revocation (hcall.trans rfl) hexec
    exact hpos
  | none =>
    have hadministers := RevocationRegistry.exec_administers hcall hexec
    generalize e.call = call at hadministers
    cases hadministers with
    | initialized => exact (by decide : 0 < maxBatchSize)
    | batchLimitSet hpaused hadmin hauth hlimit => exact Nat.pos_of_ne_zero hlimit.1
    | _ => exact hpos

/-- A registry that is not paused, whatever calls have led to it, and a server that applies or refuses each
chunk at once. The batch of an issuer comes to an end. The report covers the hashes in chunks of the
registry's limit, and a chunk fails exactly when it holds another issuer's hash, with the error that says
so. The hashes of the other chunks are revoked, as single calls would have on a registry without an
identity oracle; the batch as a whole succeeds exactly when the issuer may revoke every hash. -/
theorem batchRevokeVC_revokes {history : List (Transition RevocationRegistry.State RevocationRegistry.Event)}
    (hrun : Run (StepOf RevocationRegistry.next) {} history s) (hpaused : s.paused.getD false = false)
    (henv : env.Authorized issuer) (hdescribe : Describes describe) {revocationRegistryId : String}
    (hid : ¬revocationRegistryId.toList.all isSpace = true) {vcHashes : List (List UInt8)}
    (hlengths : ∀ vcHash ∈ vcHashes, vcHash.length = 32) (maxRetries : ℕ) :
    ∃ result s', batchRevokeVC revocationRegistryId maxRetries (some (getBatchLimit s))
        (registryServer describe txHash env issuer) vcHashes s = some (.ok result, s') ∧
      result.Reports (slices (getBatchLimit s) vcHashes) ∧
      (∀ line ∈ result.results, (line.failed = true ↔ Foreign s issuer line.vcHashes) ∧
        ∀ error, line.status = .failed error → error.code = .notRegisteredIssuer) ∧
      Revokes issuer result.revoked s s' ∧
      (s.identityOracleId = none → ∀ (κ : Type) (host : RevocationRegistry.Host κ) (world : κ) singles,
        singles.map (·.vcHash) = result.revoked → (∀ single ∈ singles, single.env.Authorized issuer) →
        revokeEach host issuer singles (s, world) = .ok (s', world)) ∧
      (result.success = true ↔ ∀ vcHash ∈ hashArguments vcHashes, MayRevoke issuer s vcHash) := by
  have hpos := getBatchLimit_pos hrun
  have hsize : maxBatchSizeOf (some (getBatchLimit s)) = getBatchLimit s := if_pos hpos
  have hfits : ∀ chunk ∈ slices (getBatchLimit s) vcHashes, chunk.length ≤ getBatchLimit s :=
    fun _ => length_le_of_mem_slices
  obtain ⟨result, s', hloop, hprogress⟩ :=
    (progress_initial issuer s).submitChunks hdescribe hpaused henv txHash maxRetries hfits 0
  have hreports := reports_initial.submitChunks hloop
  rw [List.nil_append, slices_map, List.map_id] at hreports
  refine ⟨result, s', ?_, hreports, fun line hline => ⟨hprogress.failed line hline, hprogress.code line hline⟩,
    hprogress.revokes, hprogress.oneByOne, ?_⟩
  · rw [batchRevokeVC_eq_loop hid hlengths, hsize, hloop]
    rfl
  · have hinOrder : result.results.flatMap (·.vcHashes) = vcHashes := by
      rw [List.flatMap_def, hreports.covers, flatten_slices hpos]
    rw [hreports.success, hreports.failedChunks, List.countP_eq_zero]
    constructor
    · intro hnone vcHash hmem
      obtain ⟨bytes, hbytes, rfl⟩ := List.mem_map.mp hmem
      obtain ⟨line, hline, hin⟩ := List.mem_flatMap.mp (hinOrder ▸ hbytes)
      by_contra hother
      exact hnone line hline ((hprogress.failed line hline).mpr ⟨_, List.mem_map_of_mem hin, hother⟩)
    · intro hall line hline hfailed
      obtain ⟨vcHash, hmem, hother⟩ := (hprogress.failed line hline).mp hfailed
      obtain ⟨bytes, hbytes, rfl⟩ := List.mem_map.mp hmem
      have hin : bytes ∈ vcHashes := hinOrder ▸ List.mem_flatMap.mpr ⟨line, hline, hbytes⟩
      exact hother (hall _ (List.mem_map_of_mem hin))

/-- Two chunks of one hash. The first hash is registered to somebody else. -/
theorem batchRevokeVC_revokes_twoChunks : ∃ history s, Run (StepOf RevocationRegistry.next) {} history s ∧
    getBatchLimit s = 1 ∧ ∃ result s',
      batchRevokeVC "registry" 3 (some (getBatchLimit s))
        (registryServer hostDescription (fun _ => "hash")
          (.signedBy (.numbered 100) (.contract 20) [.account 2]) (.account 2))
        [List.replicate 32 7, List.replicate 32 8] s = some (.ok result, s') ∧ result.success = false := by
  let env : Env := .signedBy (.numbered 100) (.contract 20) [.account 1, .account 4]
  let events : List RevocationRegistry.Event :=
    [ { env, call := .initializeContract (.account 1) }, { env, call := .setBatchLimit (.account 1) 1 },
      { env, call := .batchRevoke (.account 4) (hashArguments [List.replicate 32 7]) } ]
  obtain ⟨history, s, hrun, hobserved⟩ := Run.exists_of_replay
    (show (replay RevocationRegistry.next {} events).map (fun r => (r.2.paused.getD false, getBatchLimit r.2,
      r.2.registeredVCIssuer (BytesN.fromArray (List.replicate 32 7)))) =
        some (false, 1, some (.account 4)) from rfl)
  obtain ⟨hpaused, hobserved⟩ := Prod.mk.inj hobserved
  obtain ⟨hlimit, hregistered⟩ := Prod.mk.inj hobserved
  obtain ⟨result, s', hresult, -, -, -, -, hsuccess⟩ := batchRevokeVC_revokes hrun hpaused
    (by decide : (Env.signedBy (.numbered 100) (.contract 20) [.account 2]).Authorized (.account 2))
      describes_hostDescription
    (by decide : ¬"registry".toList.all isSpace = true)
    (by decide : ∀ vcHash ∈ [List.replicate 32 7, List.replicate 32 8], (vcHash : List UInt8).length = 32) 3
  refine ⟨history, s, hrun, hlimit, result, s', hresult, ?_⟩
  have hforeign : ¬MayRevoke (.account 2) s (BytesN.fromArray (List.replicate 32 7)) := by
    rintro (hnone | hissuer)
    · rw [hregistered] at hnone
      cases hnone
    · rw [hregistered] at hissuer
      cases hissuer
  rw [← Bool.not_eq_true]
  exact fun htrue => hforeign (hsuccess.mp htrue _ List.mem_cons_self)

end StellarDidCredit.Sdk
