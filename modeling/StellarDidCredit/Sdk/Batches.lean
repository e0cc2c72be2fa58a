import StellarDidCredit.Lib.Paging
import StellarDidCredit.Sdk.Chunks

/-!
# Batches of the SDK

`batchRevokeVC` and `batchAnchorVCs` cut their input into chunks and submit one transaction for each.
A chunk that fails is recorded and the later ones are still submitted. The report covers the input in
order, counts the failed chunks and lists the transactions of the others.

The server is a function of the chunk that threads a state of its own.
-/

namespace StellarDidCredit.Sdk

/-! ## The batches -/

inductive ChunkStatus where
  | success (transactionHash : String)
  | failed (error : SDKError Raised)

structure BatchChunkResult where
  chunkIndex : ℕ
  vcHashes : List (List UInt8)
  status : ChunkStatus

structure BatchResult where
  success : Bool
  failedChunks : ℕ
  transactionHashes : List String
  results : List BatchChunkResult

/-- The result before the first chunk. -/
def BatchResult.initial : BatchResult where
  success := true
  failedChunks := 0
  transactionHashes := []
  results := []

/-- What one chunk adds to the result. -/
def BatchResult.record (result : BatchResult) (chunkIndex : ℕ) (vcHashes : List (List UInt8)) :
    ChunkStatus → BatchResult
  | .success transactionHash => { result with
      transactionHashes := result.transactionHashes ++ [transactionHash]
      results := result.results ++ [{ chunkIndex, vcHashes, status := .success transactionHash }] }
  | .failed error => { result with
      success := false
      failedChunks := result.failedChunks + 1
      results := result.results ++ [{ chunkIndex, vcHashes, status := .failed error }] }

/-- How a chunk ended. An error of the SDK is kept as it is, any other one is wrapped. -/
def chunkStatus (wrap : Raised → SDKError Raised) : Except Raised String → ChunkStatus
  | .ok transactionHash => .success transactionHash
  | .error (.sdkError error) => .failed error
  | .error error => .failed (wrap error)

section Batches

variable {Entry σ : Type}

/-- The loop over the chunks. -/
def submitChunks (submit : ChunkAnswers → Submitting String) (server : List Entry → σ → ChunkAnswers × σ)
    (vcHash : Entry → List UInt8) (wrap : Raised → SDKError Raised) :
    List (List Entry) → ℕ → BatchResult → σ → Option (BatchResult × σ)
  | [], _, result, s => some (result, s)
  | chunk :: rest, chunkIndex, result, s => do
    let (answers, s) := server chunk s
    let answer ← (submit answers).run
    submitChunks submit server vcHash wrap rest (chunkIndex + 1)
      (result.record chunkIndex (chunk.map vcHash) (chunkStatus wrap answer)) s

/-- The batch size from what a simulation of `get_batch_limit` returned, if it returned a number. -/
def maxBatchSizeOf (limit : Option ℕ) : ℕ :=
  match limit with
  | some parsedLimit => if 0 < parsedLimit then parsedLimit else 50
  | none => 50

/-- A batch size is positive. -/
theorem maxBatchSizeOf_pos (limit : Option ℕ) : 0 < maxBatchSizeOf limit := by
  unfold maxBatchSizeOf
  split
  · split
    · assumption
    · decide
  · decide

/-- Every hash must have 32 bytes. -/
def checkHashes (vcHashes : List (List UInt8)) : Except Raised Unit :=
  if vcHashes.all (·.length = 32) then .ok ()
  else .error (.sdkError { code := .invalidVcHash, message := "Each vcHash must be exactly 32 bytes" })

/-- Revoke hashes in chunks. Nothing means that the call is still waiting. -/
def batchRevokeVC (revocationRegistryId : String) (maxRetries : ℕ) (limit : Option ℕ)
    (server : List (List UInt8) → σ → ChunkAnswers × σ) (vcHashes : List (List UInt8)) (s : σ) :
    Option (Except Raised BatchResult × σ) :=
  if revocationRegistryId.toList.all isSpace then
    some (.error (.sdkError { code := .missingRevocationRegistry
                              message := "revocationRegistryId is required to revoke VCs" }), s)
  else
    match checkHashes vcHashes with
    | .error error => some (.error error, s)
    | .ok () =>
      if vcHashes = [] then some (.ok .initial, s)
      else do
        let (result, s) ← submitChunks (submitBatchRevokeChunk maxRetries) server id
          (fun error => createRevokeError s!"batchRevokeVC chunk failed: {getErrorMessage error}" error)
          (slices (maxBatchSizeOf limit) vcHashes) 0 .initial s
        some (.ok result, s)

/-- An entry of `batchAnchorVCs`. -/
structure AnchorEntry where
  subject : Address
  vcHash : List UInt8
  type : Option String

def BATCH_ANCHOR_MAX_SIZE : ℕ := 10

/-- Anchor credentials in chunks. -/
def batchAnchorVCs (maxRetries : ℕ) (server : List AnchorEntry → σ → ChunkAnswers × σ)
    (entries : List AnchorEntry) (s : σ) : Option (Except Raised BatchResult × σ) :=
  match checkHashes (entries.map (·.vcHash)) with
  | .error error => some (.error error, s)
  | .ok () => do
    let (result, s) ← submitChunks (submitBatchAnchorChunk maxRetries) server (·.vcHash)
      (fun error =>
        { code := .transactionFailed
          message := s!"batchAnchorVCs chunk failed: {getErrorMessage error}"
          cause := some error })
      (slices BATCH_ANCHOR_MAX_SIZE entries) 0 .initial s
    some (.ok result, s)

/-! ## What a batch reports -/

def BatchChunkResult.failed (chunk : BatchChunkResult) : Bool :=
  match chunk.status with
  | .success _ => false
  | .failed _ => true

def BatchChunkResult.transactionHash (chunk : BatchChunkResult) : Option String :=
  match chunk.status with
  | .success transactionHash => some transactionHash
  | .failed _ => none

/-- The report covers the chunks in order, and its totals are those of the chunks. -/
structure BatchResult.Reports (result : BatchResult) (chunks : List (List (List UInt8))) : Prop where
  covers : result.results.map (·.vcHashes) = chunks
  indices : result.results.map (·.chunkIndex) = List.range chunks.length
  failedChunks : result.failedChunks = result.results.countP (·.failed)
  success : result.success = true ↔ result.failedChunks = 0
  transactionHashes : result.transactionHashes = result.results.filterMap (·.transactionHash)

/-- The initial result reports no chunk. -/
theorem reports_initial : BatchResult.initial.Reports [] := ⟨rfl, rfl, rfl, by decide, rfl⟩

/-- One more chunk is one more line of the report. -/
theorem BatchResult.Reports.record {result : BatchResult} {done : List (List (List UInt8))}
    (h : result.Reports done) (vcHashes : List (List UInt8)) (status : ChunkStatus) :
    (result.record done.length vcHashes status).Reports (done ++ [vcHashes]) := by
  obtain ⟨hcovers, hindices, hfailed, hsuccess, hhashes⟩ := h
  cases status with
  | success transactionHash =>
    refine ⟨?_, ?_, ?_, hsuccess, ?_⟩
    · simp [BatchResult.record, hcovers]
    · simp [BatchResult.record, hindices, List.range_succ]
    · simp [BatchResult.record, hfailed, BatchChunkResult.failed]
    · simp [BatchResult.record, hhashes, BatchChunkResult.transactionHash]
  | failed error =>
    refine ⟨?_, ?_, ?_, ?_, ?_⟩
    · simp [BatchResult.record, hcovers]
    · simp [BatchResult.record, hindices, List.range_succ]
    · simp [BatchResult.record, hfailed, BatchChunkResult.failed]
    · simp [BatchResult.record]
    · simp [BatchResult.record, hhashes, BatchChunkResult.transactionHash]

variable {submit : ChunkAnswers → Submitting String} {server : List Entry → σ → ChunkAnswers × σ}
  {vcHash : Entry → List UInt8} {wrap : Raised → SDKError Raised} {s s' : σ}

/-- The loop reports every chunk. The induction is on the chunks, behind those that are done. -/
theorem BatchResult.Reports.submitChunks {done : List (List (List UInt8))} {chunks : List (List Entry)}
    {result result' : BatchResult} (hreports : result.Reports done)
    (h : Sdk.submitChunks submit server vcHash wrap chunks done.length result s = some (result', s')) :
    result'.Reports (done ++ chunks.map (·.map vcHash)) := by
  induction chunks generalizing done result s with
  | nil =>
    obtain ⟨rfl, rfl⟩ := Prod.mk.inj (Option.some.inj h)
    rwa [List.map_nil, List.append_nil]
  | cons chunk rest ih =>
    simp only [Sdk.submitChunks, Option.bind_eq_bind, Option.bind_eq_some_iff] at h
    obtain ⟨answer, -, h⟩ := h
    have hlength : done.length + 1 = (done ++ [chunk.map vcHash]).length := by
      rw [List.length_append, List.length_singleton]
    rw [hlength] at h
    have hrest := ih (hreports.record (chunk.map vcHash) (chunkStatus wrap answer)) h
    rwa [List.append_assoc, List.singleton_append] at hrest

/-- Whether the check of the hashes throws. -/
theorem checkHashes_eq (vcHashes : List (List UInt8)) :
    (∀ vcHash ∈ vcHashes, vcHash.length = 32) ∧ checkHashes vcHashes = .ok () ∨
      (∃ vcHash ∈ vcHashes, vcHash.length ≠ 32) ∧ ∃ error, checkHashes vcHashes = .error error := by
  unfold checkHashes
  by_cases hall : vcHashes.all (·.length = 32) = true
  · refine Or.inl ⟨fun vcHash hmem => ?_, if_pos hall⟩
    simpa using List.all_eq_true.mp hall vcHash hmem
  · refine Or.inr ⟨?_, _, if_neg hall⟩
    simpa using hall

/-- Behind its checks, `batchRevokeVC` is the loop over its chunks. -/
theorem batchRevokeVC_eq_loop {revocationRegistryId : String} {vcHashes : List (List UInt8)}
    (hid : ¬revocationRegistryId.toList.all isSpace = true) (hlengths : ∀ vcHash ∈ vcHashes, vcHash.length = 32)
    (maxRetries : ℕ) (limit : Option ℕ) (server : List (List UInt8) → σ → ChunkAnswers × σ) (s : σ) :
    batchRevokeVC revocationRegistryId maxRetries limit server vcHashes s =
      (submitChunks (submitBatchRevokeChunk maxRetries) server id
        (fun error => createRevokeError s!"batchRevokeVC chunk failed: {getErrorMessage error}" error)
        (slices (maxBatchSizeOf limit) vcHashes) 0 .initial s).map fun after => (.ok after.1, after.2) := by
  rcases checkHashes_eq vcHashes with ⟨-, hcheck⟩ | ⟨⟨vcHash, hmem, hbad⟩, -⟩
  · rw [batchRevokeVC, if_neg hid, hcheck]
    dsimp only
    by_cases hempty : vcHashes = []
    · rw [if_pos hempty, hempty, slices_nil (maxBatchSizeOf_pos limit)]
      rfl
    · rw [if_neg hempty, Option.map_eq_bind]
      rfl
  · exact absurd (hlengths vcHash hmem) hbad

/-- A call of `batchRevokeVC` that has come to an end was rejected before its first chunk, or has gone
through the loop. -/
theorem batchRevokeVC_cases {revocationRegistryId : String} {maxRetries : ℕ} {limit : Option ℕ}
    {server : List (List UInt8) → σ → ChunkAnswers × σ} {vcHashes : List (List UInt8)}
    {answer : Except Raised BatchResult}
    (h : batchRevokeVC revocationRegistryId maxRetries limit server vcHashes s = some (answer, s')) :
    ((revocationRegistryId.toList.all isSpace = true ∨ ∃ vcHash ∈ vcHashes, vcHash.length ≠ 32) ∧ s' = s ∧
      ∃ error, answer = .error error) ∨
    (¬(revocationRegistryId.toList.all isSpace = true ∨ ∃ vcHash ∈ vcHashes, vcHash.length ≠ 32) ∧
      ∃ result, answer = .ok result ∧
        submitChunks (submitBatchRevokeChunk maxRetries) server id
          (fun error => createRevokeError s!"batchRevokeVC chunk failed: {getErrorMessage error}" error)
          (slices (maxBatchSizeOf limit) vcHashes) 0 .initial s = some (result, s')) := by
  by_cases hid : revocationRegistryId.toList.all isSpace = true
  · rw [batchRevokeVC, if_pos hid] at h
    obtain ⟨rfl, rfl⟩ := Prod.mk.inj (Option.some.inj h)
    exact Or.inl ⟨Or.inl hid, rfl, _, rfl⟩
  · rcases checkHashes_eq vcHashes with ⟨hlengths, -⟩ | ⟨hbad, error, hcheck⟩
    · rw [batchRevokeVC_eq_loop hid hlengths, Option.map_eq_some_iff] at h
      obtain ⟨⟨result, after⟩, hloop, hafter⟩ := h
      obtain ⟨rfl, rfl⟩ := Prod.mk.inj hafter
      refine Or.inr ⟨?_, result, rfl, hloop⟩
      rintro (hblank | ⟨vcHash, hmem, hlength⟩)
      · exact hid hblank
      · exact hlength (hlengths vcHash hmem)
    · rw [batchRevokeVC, if_neg hid, hcheck] at h
      obtain ⟨rfl, rfl⟩ := Prod.mk.inj (Option.some.inj h)
      exact Or.inl ⟨Or.inr hbad, rfl, _, rfl⟩

/-- What a call reports that has come to an end: it was rejected before its first chunk, or every chunk of
its hashes has a line. -/
structure Accounts (answer : Except Raised BatchResult) (size : ℕ) (vcHashes : List (List UInt8))
    (untouched rejected : Prop) : Prop where
  thrown : (∃ error, answer = .error error) ↔ rejected
  untouched : ∀ error, answer = .error error → untouched
  reports : ∀ result, answer = .ok result → result.Reports (slices size vcHashes)
  inOrder : ∀ result, answer = .ok result → result.results.flatMap (·.vcHashes) = vcHashes
  fits : ∀ result, answer = .ok result → ∀ line ∈ result.results,
    line.vcHashes ≠ [] ∧ line.vcHashes.length ≤ size

/-- A rejection accounts for the call. -/
theorem accounts_error (error : Raised) (size : ℕ) (vcHashes : List (List UInt8)) {untouched rejected : Prop}
    (huntouched : untouched) (hrejected : rejected) :
    Accounts (.error error) size vcHashes untouched rejected where
  thrown := iff_of_true ⟨error, rfl⟩ hrejected
  untouched := fun _ _ => huntouched
  reports := fun _ h => nomatch h
  inOrder := fun _ h => nomatch h
  fits := fun _ h => nomatch h

/-- So does a report of all chunks. -/
theorem accounts_ok {result : BatchResult} {size : ℕ} {vcHashes : List (List UInt8)} {untouched rejected : Prop}
    (hsize : 0 < size) (hreports : result.Reports (slices size vcHashes)) (hrejected : ¬rejected) :
    Accounts (.ok result) size vcHashes untouched rejected := by
  constructor
  case thrown => exact iff_of_false (fun h => nomatch h.choose_spec) hrejected
  case untouched => exact fun _ h => nomatch h
  case reports =>
    rintro _ ⟨⟩
    exact hreports
  case inOrder =>
    rintro _ ⟨⟩
    rw [List.flatMap_def, hreports.covers, flatten_slices hsize]
  case fits =>
    rintro _ ⟨⟩ line hline
    have hslice : line.vcHashes ∈ slices size vcHashes := hreports.covers ▸ List.mem_map_of_mem hline
    exact ⟨ne_nil_of_mem_slices hsize hslice, length_le_of_mem_slices hslice⟩

/-- Whatever the server answers: a batch that has come to an end was rejected before its first chunk, for
a hash that has not 32 bytes or, when it revokes, for a blank contract, or it reports every chunk. -/
theorem batches_report {σ : Type} (maxRetries : ℕ) (answer : Except Raised BatchResult) (s s' : σ) :
    (∀ (revocationRegistryId : String) (limit : Option ℕ)
        (server : List (List UInt8) → σ → ChunkAnswers × σ) (vcHashes : List (List UInt8)),
      batchRevokeVC revocationRegistryId maxRetries limit server vcHashes s = some (answer, s') →
      Accounts answer (maxBatchSizeOf limit) vcHashes (s' = s)
        (revocationRegistryId.toList.all isSpace = true ∨ ∃ vcHash ∈ vcHashes, vcHash.length ≠ 32)) ∧
    ∀ (server : List AnchorEntry → σ → ChunkAnswers × σ) (entries : List AnchorEntry),
      batchAnchorVCs maxRetries server entries s = some (answer, s') →
      Accounts answer BATCH_ANCHOR_MAX_SIZE (entries.map (·.vcHash)) (s' = s)
        (∃ entry ∈ entries, entry.vcHash.length ≠ 32) := by
  constructor
  · intro revocationRegistryId limit server vcHashes h
    rcases batchRevokeVC_cases h with ⟨hrejected, rfl, error, rfl⟩ | ⟨haccepted, result, rfl, hloop⟩
    · exact accounts_error error _ _ rfl hrejected
    · have hreports := reports_initial.submitChunks hloop
      rw [List.nil_append, slices_map, List.map_id] at hreports
      exact accounts_ok (maxBatchSizeOf_pos limit) hreports haccepted
  · intro server entries h
    rcases checkHashes_eq (entries.map (·.vcHash)) with ⟨hlengths, hcheck⟩ | ⟨hbad, error, hcheck⟩
    · simp only [batchAnchorVCs, hcheck, Option.bind_eq_bind, Option.bind_eq_some_iff] at h
      obtain ⟨⟨result, after⟩, hloop, hafter⟩ := h
      obtain ⟨rfl, rfl⟩ := Prod.mk.inj (Option.some.inj hafter)
      have hreports := reports_initial.submitChunks hloop
      rw [List.nil_append, slices_map] at hreports
      refine accounts_ok (by decide) hreports ?_
      rintro ⟨entry, hmem, hlength⟩
      exact hlength (hlengths _ (List.mem_map_of_mem hmem))
    · rw [batchAnchorVCs, hcheck] at h
      obtain ⟨rfl, rfl⟩ := Prod.mk.inj (Option.some.inj h)
      obtain ⟨_, hmem, hlength⟩ := hbad
      obtain ⟨entry, hentry, rfl⟩ := List.mem_map.mp hmem
      exact accounts_error _ _ _ rfl ⟨entry, hentry, hlength⟩

/-- A server that refuses the first chunk, and applies the others. -/
def sampleRefusal {Entry : Type} (_ : List Entry) (refused : Bool) : ChunkAnswers × Bool :=
  (if refused then promptAnswers (promptExchange .success) "" "hash"
    else promptAnswers refusingExchange (hostError 3) "", true)

/-- Two revocations in chunks of one hash, and a credential to anchor: the first chunk fails in both. -/
theorem batches_report_failingChunk : ∃ revoked anchored,
    batchRevokeVC "registry" 3 (some 1) sampleRefusal [List.replicate 32 7, List.replicate 32 8] false =
      some (.ok revoked, true) ∧
    revoked.Reports [[List.replicate 32 7], [List.replicate 32 8]] ∧ revoked.failedChunks = 1 ∧
    batchAnchorVCs 3 sampleRefusal [⟨.account 3, List.replicate 32 7, none⟩] false = some (.ok anchored, true) ∧
    anchored.Reports [[List.replicate 32 7]] ∧ anchored.failedChunks = 1 := by
  obtain ⟨revoked, hrevoked, hrefused⟩ : ∃ revoked, batchRevokeVC "registry" 3 (some 1) sampleRefusal
      [List.replicate 32 7, List.replicate 32 8] false = some (.ok revoked, true) ∧ revoked.failedChunks = 1 :=
    ⟨_, rfl, rfl⟩
  obtain ⟨anchored, hanchored, hunanchored⟩ : ∃ anchored, batchAnchorVCs 3 sampleRefusal
      [⟨.account 3, List.replicate 32 7, none⟩] false = some (.ok anchored, true) ∧ anchored.failedChunks = 1 :=
    ⟨_, rfl, rfl⟩
  have hrevokes := (batches_report 3 (.ok revoked) false true).1 "registry" (some 1) _ _ hrevoked
  have hanchors := (batches_report 3 (.ok anchored) false true).2 _ _ hanchored
  exact ⟨revoked, anchored, hrevoked, hrevokes.reports revoked rfl, hrefused, hanchored,
    hanchors.reports anchored rfl, hunanchored⟩

end Batches

end StellarDidCredit.Sdk
