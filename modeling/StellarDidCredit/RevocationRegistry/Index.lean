import StellarDidCredit.Lib.FlagIndex
import StellarDidCredit.RevocationRegistry.Effects

/-!
# The four indexes of the registry

The flag of a hash, its issuer of record, its registered issuer and the list of that issuer are
written by two entry points, one of which keeps its list in a local variable until the end of
its loop. They describe the same set of pairs of a hash and an issuer in every run, whatever the
linked identity oracle answers.
-/

namespace StellarDidCredit.RevocationRegistry

variable {κ : Type} {host : Host κ} {env : Env} {call : Call} {s s' : State} {world world' : κ}
  {issuer : Address} {vcHash : BytesN 32} {vcHashes : List (BytesN 32)}

/-! ## What a revocation writes -/

/-- The issuer of record of the hashes is the caller, and the hashes are in its list. -/
structure Indexes (issuer : Address) (vcHashes : List (BytesN 32)) (s s' : State) : Prop where
  issuerOfVC : ∀ vcHash, s'.issuerOfVC vcHash = if vcHash ∈ vcHashes then some issuer else s.issuerOfVC vcHash
  own : listRevokedForIssuer s' issuer = vcHashes.foldl enlist (listRevokedForIssuer s issuer)
  others : ∀ other, other ≠ issuer → listRevokedForIssuer s' other = listRevokedForIssuer s other

/-- Claiming a hash writes no index but the registration. -/
theorem claimVcIssuer_indexes (h : claimVcIssuer issuer vcHash s = .ok s') :
    s'.issuerOfVC = s.issuerOfVC ∧ s'.issuerRevokedList = s.issuerRevokedList := by
  obtain ⟨registeredVCIssuer, rfl⟩ := claimVcIssuer_writes h
  exact ⟨rfl, rfl⟩

/-- The loop of `batch_revoke` writes the issuers of record and grows the local list; it reports a
modification unless the list stayed the same. -/
theorem batchLoop_indexes {list list' : List (BytesN 32)} {modified modified' : Bool}
    (h : batchLoop issuer vcHashes (s, list, modified) = .ok (s', list', modified')) :
    s'.issuerRevokedList = s.issuerRevokedList ∧
      (∀ vcHash, s'.issuerOfVC vcHash = if vcHash ∈ vcHashes then some issuer else s.issuerOfVC vcHash) ∧
      list' = vcHashes.foldl enlist list ∧ (modified = true → modified' = true) ∧
      (modified' = false → list' = list) := by
  induction vcHashes generalizing s list modified with
  | nil =>
    obtain ⟨rfl, hrest⟩ := Prod.mk.inj (Except.ok.inj h)
    obtain ⟨rfl, rfl⟩ := Prod.mk.inj hrest
    exact ⟨rfl, fun _ => rfl, rfl, id, fun _ => rfl⟩
  | cons vcHash rest ih =>
    simp only [batchLoop, Outcome.bind_eq_ok] at h
    obtain ⟨claimed, hclaim, h⟩ := h
    obtain ⟨hrecord, hlists⟩ := claimVcIssuer_indexes hclaim
    have hissuer : ∀ other, (if other ∈ rest then some issuer else
        (markRevoked issuer vcHash claimed).issuerOfVC other) =
        if other ∈ vcHash :: rest then some issuer else s.issuerOfVC other := by
      intro other
      simp only [markRevoked, hrecord, Storage.set_apply]
      by_cases hrest : other ∈ rest <;> by_cases hhead : other = vcHash <;> simp [hrest, hhead]
    split at h
    case isTrue hmem =>
      obtain ⟨hlists', hrecords, rfl, hmonotone, hsame⟩ := ih h
      have hstep : enlist list vcHash = list := if_pos hmem
      refine ⟨hlists'.trans hlists, fun other => (hrecords other).trans (hissuer other), ?_, hmonotone, hsame⟩
      rw [List.foldl_cons, hstep]
    case isFalse hmem =>
      obtain ⟨hlists', hrecords, rfl, hmonotone, -⟩ := ih h
      have hstep : enlist list vcHash = list ++ [vcHash] := if_neg hmem
      have hmodified : modified' = true := hmonotone rfl
      refine ⟨hlists'.trans hlists, fun other => (hrecords other).trans (hissuer other), ?_,
        fun _ => hmodified, ?_⟩
      · rw [List.foldl_cons, hstep]
      · intro hfalse
        cases hmodified.symm.trans hfalse

/-- Listing a hash enlists it at its issuer. -/
theorem listRevocation_lists (issuer : Address) (vcHash : BytesN 32) (s : State) :
    listRevokedForIssuer (listRevocation issuer vcHash s) issuer = enlist (listRevokedForIssuer s issuer) vcHash ∧
    ∀ other, other ≠ issuer →
      listRevokedForIssuer (listRevocation issuer vcHash s) other = listRevokedForIssuer s other := by
  unfold listRevocation enlist
  dsimp only
  split
  · exact ⟨rfl, fun _ _ => rfl⟩
  · constructor
    · simp only [listRevokedForIssuer, Storage.set_self, Option.getD_some]
    · intro other hother
      simp only [listRevokedForIssuer, Storage.set_of_ne _ _ hother]

/-- A revocation enters its hash in the index. -/
theorem revoke_indexes {subject : Address}
    (h : revoke host env issuer subject vcHash s world = .ok (s', world')) : Indexes issuer [vcHash] s s' := by
  simp only [revoke, Outcome.bind_eq_ok, Except.ok.injEq, Prod.mk.injEq] at h
  obtain ⟨_, _, _, _, claimed, hclaim, ⟨forwarded, _⟩, hforward, rfl, rfl⟩ := h
  obtain ⟨⟨lock, rfl⟩, -⟩ := forwardRevocation_spec hforward
  obtain ⟨hrecord, hlists⟩ := claimVcIssuer_indexes hclaim
  obtain ⟨hown, hothers⟩ :=
    listRevocation_lists issuer vcHash { markRevoked issuer vcHash claimed with reentrancyLock := lock }
  have hbefore : ∀ other, listRevokedForIssuer
      { markRevoked issuer vcHash claimed with reentrancyLock := lock } other =
        listRevokedForIssuer s other := by
    intro other
    simp only [listRevokedForIssuer, markRevoked, hlists]
  constructor
  case issuerOfVC =>
    intro other
    obtain ⟨lists, hlisted⟩ := listRevocation_spec issuer vcHash
      { markRevoked issuer vcHash claimed with reentrancyLock := lock }
    rw [hlisted]
    simp [markRevoked, hrecord, Storage.set_apply]
  case own =>
    rw [hown, hbefore]
    rfl
  case others =>
    intro other hother
    rw [hothers other hother, hbefore]

/-- A batch enters its hashes. -/
theorem batchRevoke_indexes (h : batchRevoke env issuer vcHashes s = .ok s') : Indexes issuer vcHashes s s' := by
  simp only [batchRevoke, Outcome.bind_eq_ok] at h
  obtain ⟨_, _, _, _, _, _, ⟨looped, list, modified⟩, hloop, h⟩ := h
  obtain ⟨hlists, hrecords, rfl, -, hsame⟩ := batchLoop_indexes hloop
  split at h
  case isTrue hmodified =>
    cases h
    constructor
    case issuerOfVC => exact hrecords
    case own => simp only [listRevokedForIssuer, Storage.set_self, Option.getD_some]
    case others =>
      intro other hother
      simp only [listRevokedForIssuer, Storage.set_of_ne _ _ hother, hlists]
  case isFalse hmodified =>
    obtain rfl : looped = s' := Except.ok.inj h
    have hkept : ∀ other, listRevokedForIssuer looped other = listRevokedForIssuer s other := by
      intro other
      simp only [listRevokedForIssuer, hlists]
    constructor
    case issuerOfVC => exact hrecords
    case own =>
      rw [hkept]
      exact (hsame (Bool.eq_false_iff.mpr hmodified)).symm
    case others => exact fun other _ => hkept other

/-- What a successful call does to the four indexes. -/
theorem exec_indexes (h : exec host env call s world = .ok (s', world')) :
    (∃ issuer vcHashes, Revokes issuer vcHashes s s' ∧ Indexes issuer vcHashes s s') ∨
    (s'.registeredVCIssuer = s.registeredVCIssuer ∧ s'.status = s.status ∧ s'.issuerOfVC = s.issuerOfVC ∧
      s'.issuerRevokedList = s.issuerRevokedList) := by
  by_cases hcall : call.revocation = none
  · cases exec_administers hcall h <;> exact Or.inr ⟨rfl, rfl, rfl, rfl⟩
  cases call <;> simp only [exec, alone_eq_ok] at h
  case revoke issuer subject vcHash =>
    exact Or.inl ⟨issuer, [vcHash], (revoke_spec h).2.1, revoke_indexes h⟩
  case batchRevoke issuer vcHashes =>
    exact Or.inl ⟨issuer, vcHashes, (batchRevoke_spec h.1).2, batchRevoke_indexes h.1⟩
  all_goals exact absurd rfl hcall

/-! ## The invariant -/

/-- The four indexes agree, and no list repeats a hash. -/
structure IndexOk (s : State) : Prop where
  record : ∀ vcHash, s.issuerOfVC vcHash = s.registeredVCIssuer vcHash
  status : Consistent s
  listed : ∀ issuer vcHash, vcHash ∈ listRevokedForIssuer s issuer ↔ s.registeredVCIssuer vcHash = some issuer
  nodup : ∀ issuer, (listRevokedForIssuer s issuer).Nodup

/-- Nothing is listed at the start. -/
theorem indexOk_start : IndexOk {} where
  record _ := rfl
  status _ := rfl
  listed _ _ := iff_of_false List.not_mem_nil (Option.some_ne_none _).symm
  nodup _ := .nil

/-- A revocation keeps the indexes in agreement. -/
theorem IndexOk.revoked (h : IndexOk s) (hrevokes : Revokes issuer vcHashes s s')
    (hindexes : Indexes issuer vcHashes s s') : IndexOk s' := by
  constructor
  case record =>
    intro vcHash
    rw [hindexes.issuerOfVC, hrevokes.registered, h.record]
  case status => exact h.status.revoked hrevokes
  case listed =>
    intro other vcHash
    rw [hrevokes.registered]
    by_cases hother : other = issuer
    · subst hother
      rw [hindexes.own, mem_foldl_enlist, h.listed]
      by_cases hmem : vcHash ∈ vcHashes <;> simp [hmem]
    · rw [hindexes.others other hother, h.listed]
      by_cases hmem : vcHash ∈ vcHashes
      · -- a hash of another issuer would have stopped the call
        rw [if_pos hmem]
        constructor
        · intro hregistered
          exact absurd (hrevokes.allowed vcHash hmem other hregistered) hother
        · intro hissuer
          exact absurd (Option.some.inj hissuer).symm hother
      · rw [if_neg hmem]
  case nodup =>
    intro other
    by_cases hother : other = issuer
    · subst hother
      rw [hindexes.own]
      exact nodup_foldl_enlist vcHashes (h.nodup other)
    · rw [hindexes.others other hother]
      exact h.nodup other

/-- A successful call keeps the indexes in agreement. -/
theorem IndexOk.step (h : IndexOk s) (hexec : exec host env call s world = .ok (s', world')) : IndexOk s' := by
  rcases exec_indexes hexec with ⟨issuer, vcHashes, hrevokes, hindexes⟩ |
    ⟨hregistered, hstatus, hrecord, hlists⟩
  · exact h.revoked hrevokes hindexes
  · constructor
    case record => rw [hrecord, hregistered]; exact h.record
    case status =>
      unfold Consistent isRevoked
      rw [hstatus, hregistered]
      exact h.status
    case listed =>
      unfold listRevokedForIssuer
      rw [hlists, hregistered]
      exact h.listed
    case nodup =>
      unfold listRevokedForIssuer
      rw [hlists]
      exact h.nodup

/-- The registered hashes keep their issuers. -/
def Grows (s s' : State) : Prop :=
  ∀ vcHash issuer, s.registeredVCIssuer vcHash = some issuer → s'.registeredVCIssuer vcHash = some issuer

/-- A call keeps the issuer of every registered hash. -/
theorem grows_of_exec (hexec : exec host env call s world = .ok (s', world')) : Grows s s' := by
  intro vcHash issuer hregistered
  rcases exec_indexes hexec with ⟨issuer', vcHashes, hrevokes, -⟩ | ⟨hsame, -⟩
  · rw [hrevokes.registered]
    by_cases hmem : vcHash ∈ vcHashes
    · rw [if_pos hmem, hrevokes.allowed vcHash hmem issuer hregistered]
    · rw [if_neg hmem, hregistered]
  · rw [hsame, hregistered]

/-! ## Runs -/

/-- A call, with the answer that the linked identity oracle gives to it. -/
structure Event where
  env : Env
  call : Call
  accepts : Bool := true

/-- An identity oracle that answers as told. -/
def answeringHost (accepts : Bool) : Host Unit where
  markVcRevoked _ _ _ _ _ := if accepts then .ok () else .error .trap

/-- A successful call. A failed one is rolled back. -/
def next (s : State) (e : Event) : Option State :=
  (exec (answeringHost e.accepts) e.env e.call s ()).toOption.map (·.1)

/-- The successful call behind a step. -/
theorem exec_of_next {e : Event} (h : StepOf next s e s') :
    exec (answeringHost e.accepts) e.env e.call s () = .ok (s', ()) := by
  simp only [StepOf, next, Option.map_eq_some_iff, Outcome.toOption_eq_some] at h
  obtain ⟨⟨after, _⟩, hexec, rfl⟩ := h
  exact hexec

/-- Registered hashes keep their issuers in any run. -/
theorem grows_of_run {start final : State} {history : List (Transition State Event)}
    (hrun : Run (StepOf next) start history final) : Grows start final :=
  hrun.related Grows (fun _ _ _ => id) (fun _ _ _ hab hbc vcHash issuer h =>
    hbc vcHash issuer (hab vcHash issuer h)) fun _ _ _ hstep => grows_of_exec (exec_of_next hstep)

/-- The hashes of a batch belong to its issuer ever after. -/
theorem registered_of_batch {start final : State} {history : List (Transition State Event)}
    (hrun : Run (StepOf next) start history final) {t : Transition State Event} (ht : t ∈ history)
    (hcall : t.event.call = .batchRevoke issuer vcHashes) {vcHash : BytesN 32} (hmem : vcHash ∈ vcHashes) :
    final.registeredVCIssuer vcHash = some issuer := by
  obtain ⟨before, after, rfl, -, hstep, hafter⟩ := hrun.exists_around ht
  have hexec := exec_of_next hstep
  rw [hcall, exec, alone_eq_ok] at hexec
  have hregistered := (batchRevoke_spec hexec.1).2.registered vcHash
  rw [if_pos hmem] at hregistered
  exact grows_of_run hafter vcHash issuer hregistered

/-- The issuer of record, the registered issuer and the list of an issuer agree on every hash; a
hash is revoked when it has an issuer; the lists neither repeat a hash nor share one; and issuers
and revocations stay. -/
theorem index_consistency {history : List (Transition State Event)} {final : State}
    (hrun : Run (StepOf next) {} history final) :
    (∀ vcHash issuer,
      (getRevocationRecord final vcHash = some issuer ↔ final.registeredVCIssuer vcHash = some issuer) ∧
      (final.registeredVCIssuer vcHash = some issuer ↔ vcHash ∈ listRevokedForIssuer final issuer)) ∧
    (∀ vcHash, isRevoked final vcHash = true ↔ ∃ issuer, getRevocationRecord final vcHash = some issuer) ∧
    (∀ issuer, (listRevokedForIssuer final issuer).Nodup) ∧
    (∀ issuer issuer', issuer ≠ issuer' →
      (listRevokedForIssuer final issuer).Disjoint (listRevokedForIssuer final issuer')) ∧
    (∀ t ∈ history, ∀ vcHash,
      (∀ issuer, t.before.registeredVCIssuer vcHash = some issuer →
        final.registeredVCIssuer vcHash = some issuer) ∧
      (isRevoked t.before vcHash = true → isRevoked final vcHash = true)) := by
  have hkeep : ∀ s e s', IndexOk s → StepOf next s e s' → IndexOk s' :=
    fun _ _ _ hok hstep => hok.step (exec_of_next hstep)
  have hok : IndexOk final := hrun.invariant IndexOk hkeep indexOk_start
  refine ⟨?_, ?_, hok.nodup, ?_, ?_⟩
  · intro vcHash issuer
    exact ⟨by rw [getRevocationRecord, hok.record], (hok.listed issuer vcHash).symm⟩
  · intro vcHash
    rw [hok.status, getRevocationRecord, hok.record, Option.isSome_iff_exists]
  · intro issuer issuer' hne vcHash hmem hmem'
    have hfirst := (hok.listed issuer vcHash).mp hmem
    have hsecond := (hok.listed issuer' vcHash).mp hmem'
    exact hne (Option.some.inj (hfirst.symm.trans hsecond))
  · intro t ht vcHash
    obtain ⟨hstep, hlater⟩ := hrun.related_of_mem Grows (fun _ _ _ => id)
      (fun _ _ _ hab hbc vcHash issuer h => hbc vcHash issuer (hab vcHash issuer h))
      (fun _ _ _ hstep => grows_of_exec (exec_of_next hstep)) ht
    have hgrows : Grows t.before final := fun vcHash issuer h => hlater vcHash issuer (hstep vcHash issuer h)
    have hbefore : IndexOk t.before := hrun.invariant_of_mem IndexOk hkeep indexOk_start ht
    refine ⟨hgrows vcHash, ?_⟩
    rw [hbefore.status, hok.status, Option.isSome_iff_exists, Option.isSome_iff_exists]
    rintro ⟨issuer, hissuer⟩
    exact ⟨issuer, hgrows vcHash issuer hissuer⟩

/-! ## A concrete run -/

/-- A revocation, a batch with repetitions, and one by another issuer. -/
def sampleRevocations : List Event :=
  let ledger := Ledger.numbered 100
  [ { env := .signedBy ledger (.contract 20) [.account 2], call := .revoke (.account 2) (.account 3) 7 },
    { env := .signedBy ledger (.contract 20) [.account 2], call := .batchRevoke (.account 2) [8, 7, 8] },
    { env := .signedBy ledger (.contract 20) [.account 4], call := .revoke (.account 4) (.account 3) 9 } ]

/-- The lists that they leave. -/
theorem index_consistency_revocations : ∃ history final, Run (StepOf next) {} history final ∧
    listRevokedForIssuer final (.account 2) = [7, 8] ∧ listRevokedForIssuer final (.account 4) = [9] ∧
    ((7 : BytesN 32) ∈ listRevokedForIssuer final (.account 2) →
      final.registeredVCIssuer 7 = some (.account 2)) ∧
    (listRevokedForIssuer final (.account 2)).Disjoint (listRevokedForIssuer final (.account 4)) := by
  obtain ⟨history, final, hrun, hobserved⟩ := Run.exists_of_replay
    (show (replay next {} sampleRevocations).map (fun r => (listRevokedForIssuer r.2 (.account 2),
      listRevokedForIssuer r.2 (.account 4))) = some ([7, 8], [9]) from rfl)
  obtain ⟨hfirst, hsecond⟩ := Prod.mk.inj hobserved
  obtain ⟨hagree, -, -, hdisjoint, -⟩ := index_consistency hrun
  exact ⟨history, final, hrun, hfirst, hsecond, (hagree 7 (.account 2)).2.mpr,
    hdisjoint (.account 2) (.account 4) (by decide)⟩

end StellarDidCredit.RevocationRegistry
