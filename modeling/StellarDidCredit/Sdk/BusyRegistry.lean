import StellarDidCredit.Sdk.RegistryBatches

/-!
# Batches on a busy registry

Others call the registry while a batch is submitted. A server that reports success of applied
transactions only is enough for the chunks that succeed to stay revoked.
-/

namespace StellarDidCredit.Sdk

open RevocationRegistry (batchRevoke)

variable {describe : Fault RevocationRegistry.Error → String} {txHash : List (List UInt8) → String} {env : Env}
  {issuer : Address}

/-- What the server did while a chunk was submitted is a run of the registry, which has the chunk's call if
a poll was told that the transaction succeeded. -/
def Truthful {σ : Type} (registry : σ → RevocationRegistry.State) (issuer : Address)
    (server : List (List UInt8) → σ → ChunkAnswers × σ) : Prop :=
  ∀ chunk world, ∃ history,
    Run (StepOf RevocationRegistry.next) (registry world) history (registry (server chunk world).2) ∧
      ((∃ poll ∈ (server chunk world).1.exchange.polls, poll.answer = .ok .success) →
        ∃ t ∈ history, t.event.call = .batchRevoke issuer (hashArguments chunk))

/-- The hashes of the chunks that succeed belong to the issuer ever after, whoever else calls the registry
in between. -/
theorem revoked_of_submitChunks {σ : Type} {registry : σ → RevocationRegistry.State}
    {server : List (List UInt8) → σ → ChunkAnswers × σ} (hserver : Truthful registry issuer server)
    {wrap : Raised → SDKError Raised} {maxRetries : ℕ} {chunks : List (List (List UInt8))} {chunkIndex : ℕ}
    {result result' : BatchResult} {world world' : σ}
    (hbefore : ∀ vcHash ∈ result.revoked, (registry world).registeredVCIssuer vcHash = some issuer)
    (h : submitChunks (submitBatchRevokeChunk maxRetries) server id wrap chunks chunkIndex result world =
      some (result', world')) :
    (∃ history, Run (StepOf RevocationRegistry.next) (registry world) history (registry world')) ∧
      ∀ vcHash ∈ result'.revoked, (registry world').registeredVCIssuer vcHash = some issuer := by
  induction chunks generalizing chunkIndex result world with
  | nil =>
    obtain ⟨rfl, rfl⟩ := Prod.mk.inj (Option.some.inj h)
    exact ⟨⟨[], .nil⟩, hbefore⟩
  | cons chunk rest ih =>
    simp only [submitChunks, Option.bind_eq_bind, Option.bind_eq_some_iff] at h
    obtain ⟨answer, hanswer, h⟩ := h
    obtain ⟨history, hrun, hcalled⟩ := hserver chunk world
    have hgrows := RevocationRegistry.grows_of_run hrun
    have hkept (vcHash : BytesN 32) (hmem : vcHash ∈ result.revoked) :
        (registry (server chunk world).2).registeredVCIssuer vcHash = some issuer :=
      hgrows vcHash issuer (hbefore vcHash hmem)
    have hnext : ∀ vcHash ∈ (result.record chunkIndex (chunk.map id) (chunkStatus wrap answer)).revoked,
        (registry (server chunk world).2).registeredVCIssuer vcHash = some issuer := by
      cases answer with
      | error error =>
        obtain ⟨kept, hfailed⟩ : ∃ kept, chunkStatus wrap (.error error) = .failed kept := by
          cases error <;> exact ⟨_, rfl⟩
        rw [hfailed, revoked_failed]
        exact hkept
      | ok transactionHash =>
        rw [chunkStatus, revoked_success, List.map_id]
        intro vcHash hmem
        rcases List.mem_append.mp hmem with hold | hnew
        · exact hkept vcHash hold
        · obtain ⟨t, ht, hcall⟩ := hcalled (submitChunk_confirmed hanswer)
          exact RevocationRegistry.registered_of_batch hrun ht hcall hnew
    obtain ⟨⟨later, hlater⟩, hall⟩ := ih hnext h
    exact ⟨⟨history ++ later, hrun.append hlater⟩, hall⟩

/-- The server that answers at once is truthful. -/
theorem truthful_registryServer : Truthful id issuer (registryServer describe txHash env issuer) := by
  intro chunk s
  unfold registryServer
  cases hexec : batchRevoke env issuer (hashArguments chunk) s with
  | ok s' =>
    let e : RevocationRegistry.Event := { env, call := .batchRevoke issuer (hashArguments chunk) }
    have hstep : StepOf RevocationRegistry.next s e s' := by
      simp only [StepOf, RevocationRegistry.next, e, RevocationRegistry.exec, RevocationRegistry.alone, hexec]
      rfl
    exact ⟨[⟨s, e, s'⟩], Run.nil.snoc hstep, fun _ => ⟨⟨s, e, s'⟩, List.mem_singleton_self _, rfl⟩⟩
  | error fault => exact ⟨[], .nil, fun h => absurd h.choose_spec.1 List.not_mem_nil⟩

/-- Whoever else calls the registry while a batch is submitted and afterwards, whatever the server answers
to the requests, and whatever the batch size: if the server reports success of applied transactions only,
the hashes of the chunks that the batch reports as successful are revoked by the issuer for good. In a
batch that succeeds these are all of its hashes. -/
theorem batchRevokeVC_holds {σ : Type} {registry : σ → RevocationRegistry.State}
    {server : List (List UInt8) → σ → ChunkAnswers × σ} (hserver : Truthful registry issuer server)
    {history later : List (Transition RevocationRegistry.State RevocationRegistry.Event)} {world world' : σ}
    {final : RevocationRegistry.State} (hrun : Run (StepOf RevocationRegistry.next) {} history (registry world))
    {revocationRegistryId : String} {maxRetries : ℕ} {limit : Option ℕ} {vcHashes : List (List UInt8)}
    {result : BatchResult} (h : batchRevokeVC revocationRegistryId maxRetries limit server vcHashes world =
      some (.ok result, world')) (hlater : Run (StepOf RevocationRegistry.next) (registry world') later final) :
    (∀ vcHash ∈ result.revoked, RevocationRegistry.isRevoked final vcHash = true ∧
      RevocationRegistry.getRevocationRecord final vcHash = some issuer ∧
      vcHash ∈ RevocationRegistry.listRevokedForIssuer final issuer) ∧
    (result.success = true → result.revoked = hashArguments vcHashes) := by
  obtain ⟨-, -, _, hanswer⟩ | ⟨-, _, hanswer, hloop⟩ := batchRevokeVC_cases h
  · cases hanswer
  obtain rfl := Except.ok.inj hanswer
  obtain ⟨⟨between, hbetween⟩, hregistered⟩ :=
    revoked_of_submitChunks hserver (fun vcHash hmem => absurd hmem List.not_mem_nil) hloop
  constructor
  · intro vcHash hmem
    have hok : RevocationRegistry.IndexOk final := ((hrun.append hbetween).append hlater).invariant
      RevocationRegistry.IndexOk (fun _ _ _ hok hstep => hok.step (RevocationRegistry.exec_of_next hstep))
      RevocationRegistry.indexOk_start
    have hissuer := RevocationRegistry.grows_of_run hlater vcHash issuer (hregistered vcHash hmem)
    refine ⟨?_, (hok.record vcHash).trans hissuer, (hok.listed issuer vcHash).mpr hissuer⟩
    rw [hok.status, hissuer]
    rfl
  · intro hsuccess
    have hreports := reports_initial.submitChunks hloop
    rw [List.nil_append, slices_map, List.map_id] at hreports
    rw [hreports.revoked_of_success hsuccess, flatten_slices (maxBatchSizeOf_pos limit)]

/-- One hash, and a server that applies it at once. -/
theorem batchRevokeVC_holds_oneHash : ∃ result s',
    batchRevokeVC "registry" 3 none
      (registryServer hostDescription (fun _ => "hash")
        (.signedBy (.numbered 100) (.contract 20) [.account 2]) (.account 2))
      [List.replicate 32 8] {} = some (.ok result, s') ∧
    result.revoked = hashArguments [List.replicate 32 8] ∧
    RevocationRegistry.isRevoked s' (BytesN.fromArray (List.replicate 32 8)) = true := by
  obtain ⟨result, s', hresult, hsuccess⟩ : ∃ result s', batchRevokeVC "registry" 3 none
      (registryServer hostDescription (fun _ => "hash")
        (.signedBy (.numbered 100) (.contract 20) [.account 2]) (.account 2))
      [List.replicate 32 8] {} = some (.ok result, s') ∧ result.success = true := ⟨_, _, rfl, rfl⟩
  obtain ⟨hrevoked, hall⟩ := batchRevokeVC_holds truthful_registryServer .nil hresult .nil
  refine ⟨result, s', hresult, hall hsuccess, (hrevoked _ ?_).1⟩
  rw [hall hsuccess]
  exact List.mem_cons_self

end StellarDidCredit.Sdk
