import StellarDidCredit.Lib.Journal
import StellarDidCredit.RevocationRegistry.Index

/-!
# The events of the registry

What the entry points publish, and what a reader of the events knows about the contract. Reading
the whole log in order gives the pause flag, the linked identity oracle, the issuer of record of
every hash and the list of every issuer in its stored order; the admin and the batch limit are
not told. No two events revoke one hash in the name of different issuers.
-/

namespace StellarDidCredit.RevocationRegistry

variable {κ : Type} {host : Host κ} {env : Env} {call : Call} {s s' : State} {world world' : κ}
  {issuer : Address} {vcHash : BytesN 32} {vcHashes : List (BytesN 32)}

/-- An event that the contract publishes. -/
inductive Notice where
  | initialized (admin : Address)
  | paused
  | unpaused
  | identityOracleSet (identityOracleId : Address)
  | revoked (issuer : Address) (vcHash : BytesN 32)
  | batchRevoked (issuer : Address) (count : ℕ)
  deriving DecidableEq, Repr

/-- What a successful call publishes. A batch publishes an event for each of its hashes, revoked
before or not, and one for itself. -/
def Call.notices : Call → List Notice
  | .initializeContract admin => [.initialized admin]
  | .pause => [.paused]
  | .unpause => [.unpaused]
  | .setBatchLimit _ _ => []
  | .setIdentityOracle identityOracleId => [.identityOracleSet identityOracleId]
  | .proposeNewAdmin _ => []
  | .acceptAdmin _ => []
  | .revoke issuer _ vcHash => [.revoked issuer vcHash]
  | .batchRevoke issuer vcHashes => vcHashes.map (.revoked issuer) ++ [.batchRevoked issuer vcHashes.length]
  | .maintainStorage => []

/-- The events of a history, in order. -/
def noticesOf (history : List (Transition State Event)) : List Notice :=
  journal (fun _ e => e.call.notices) history

/-! ## Reading them -/

/-- What a reader of the events knows. -/
structure View where
  paused : Bool := false
  identityOracleId : Option Address := none
  revokedBy : Storage (BytesN 32) Address := Storage.empty
  listed : Address → List (BytesN 32) := fun _ => []

/-- The same of the stored entries. -/
def State.view (s : State) : View where
  paused := s.paused.getD false
  identityOracleId := s.identityOracleId
  revokedBy := getRevocationRecord s
  listed := listRevokedForIssuer s

/-- One more event. -/
def View.read (v : View) : Notice → View
  | .initialized _ => v
  | .paused => { v with paused := true }
  | .unpaused => { v with paused := false }
  | .identityOracleSet identityOracleId => { v with identityOracleId := some identityOracleId }
  | .revoked issuer vcHash =>
    { v with
      revokedBy := v.revokedBy.set vcHash issuer
      listed := Function.update v.listed issuer (enlist (v.listed issuer) vcHash) }
  | .batchRevoked _ _ => v

/-- The event is one that the contract could publish in what was read before it: a hash that some issuer
revoked is revoked by no other. -/
def View.Allows (v : View) : Notice → Prop
  | .identityOracleSet _ => v.paused = false
  | .revoked issuer vcHash => v.paused = false ∧ ∀ existing, v.revokedBy vcHash = some existing → existing = issuer
  | .batchRevoked _ _ => v.paused = false
  | _ => True

/-- What the events of several revocations add up to. -/
theorem View.foldl_revoked (v : View) (issuer : Address) (vcHashes : List (BytesN 32)) :
    (vcHashes.map (Notice.revoked issuer)).foldl View.read v =
      { v with
        revokedBy := fun vcHash => if vcHash ∈ vcHashes then some issuer else v.revokedBy vcHash
        listed := Function.update v.listed issuer (vcHashes.foldl enlist (v.listed issuer)) } := by
  induction vcHashes generalizing v with
  | nil => simp
  | cons vcHash rest ih =>
    rw [List.map_cons, List.foldl_cons, ih]
    simp only [View.read, Function.update_self, Function.update_idem, List.foldl_cons]
    congr 1
    funext other
    by_cases hrest : other ∈ rest <;> by_cases hhead : other = vcHash <;>
      simp [hrest, hhead, Storage.set_apply]

/-! ## One call -/

/-- A revocation moves the view as its events do. -/
theorem view_revoked (hcall : call.revocation = some (issuer, vcHashes)) (hindexes : Indexes issuer vcHashes s s')
    (h : exec host env call s world = .ok (s', world')) :
    s'.view = (vcHashes.map (Notice.revoked issuer)).foldl View.read s.view := by
  obtain ⟨-, registered, status, records, lists, lock, rfl⟩ := exec_revocation hcall h
  rw [View.foldl_revoked]
  simp only [State.view, View.mk.injEq, true_and]
  constructor
  · funext other
    exact hindexes.issuerOfVC other
  · funext other
    by_cases hother : other = issuer
    · rw [hother, Function.update_self]
      exact hindexes.own
    · rw [Function.update_of_ne hother]
      exact hindexes.others other hother

/-- A successful call moves the view as its events do. -/
theorem view_of_exec (h : exec host env call s world = .ok (s', world')) :
    s'.view = call.notices.foldl View.read s.view := by
  by_cases hcall : call.revocation = none
  · cases exec_administers hcall h <;> rfl
  cases call
  case revoke issuer subject vcHash =>
    exact view_revoked rfl (revoke_indexes h) h
  case batchRevoke issuer vcHashes =>
    have hbatch := h
    simp only [exec, alone_eq_ok] at hbatch
    rw [view_revoked rfl (batchRevoke_indexes hbatch.1) h, Call.notices, List.foldl_append]
    rfl
  all_goals exact absurd rfl hcall

/-- Revocations of hashes that no other issuer revoked are allowed one after the other. -/
theorem checked_revoked {v : View} (hpaused : v.paused = false)
    (hallowed : ∀ vcHash ∈ vcHashes, ∀ existing, v.revokedBy vcHash = some existing → existing = issuer) :
    Checked View.read View.Allows v (vcHashes.map (.revoked issuer)) := by
  induction vcHashes generalizing v with
  | nil => trivial
  | cons vcHash rest ih =>
    refine ⟨⟨hpaused, hallowed vcHash List.mem_cons_self⟩, ih hpaused ?_⟩
    intro other hother existing hexisting
    simp only [View.read, Storage.set_apply] at hexisting
    split at hexisting
    case isTrue => exact (Option.some.inj hexisting).symm
    case isFalse => exact hallowed other (List.mem_cons_of_mem _ hother) existing hexisting

/-- What a successful call publishes is allowed. -/
theorem allows_of_exec (hok : IndexOk s) (h : exec host env call s world = .ok (s', world')) :
    Checked View.read View.Allows s.view (call.notices) := by
  have hchecked {issuer : Address} {vcHashes : List (BytesN 32)}
    (hcall : call.revocation = some (issuer, vcHashes)) :
      s.view.paused = false ∧ Checked View.read View.Allows s.view (vcHashes.map (.revoked issuer)) := by
    obtain ⟨hpaused, -⟩ := exec_revocation hcall h
    refine ⟨hpaused, checked_revoked hpaused ?_⟩
    cases exec_effect h with
    | revoked hcall' hauth hrevokes =>
      obtain ⟨rfl, rfl⟩ := Prod.mk.inj (Option.some.inj (hcall.symm.trans hcall'))
      intro vcHash hmem existing hexisting
      exact hrevokes.allowed vcHash hmem existing ((hok.record vcHash).symm.trans hexisting)
    | identityLinked => cases hcall
    | other hcall' => cases hcall.symm.trans hcall'
  cases call
  case setIdentityOracle identityOracleId =>
    cases exec_administers rfl h with
    | identityLinked hpaused => exact ⟨hpaused, trivial⟩
  case revoke issuer subject vcHash => exact (hchecked rfl).2
  case batchRevoke issuer vcHashes =>
    obtain ⟨hpaused, hrevoked⟩ := hchecked rfl
    refine checked_append.mpr ⟨hrevoked, ?_, trivial⟩
    rw [View.foldl_revoked]
    exact hpaused
  case setBatchLimit | proposeNewAdmin | acceptAdmin | maintainStorage => trivial
  all_goals exact ⟨trivial, trivial⟩

/-- The events of a successful call lead from the view before it to the one after it. -/
theorem reads_of_exec (hok : IndexOk s) (h : exec host env call s world = .ok (s', world')) :
    Reads View.read View.Allows s.view call.notices s'.view :=
  ⟨view_of_exec h, allows_of_exec hok h⟩

/-- The hashes of the published revocations. -/
theorem revoked_mem_notices (h : Notice.revoked issuer vcHash ∈ call.notices) :
    ∃ vcHashes, call.revocation = some (issuer, vcHashes) ∧ vcHash ∈ vcHashes := by
  cases call
  case revoke issuer' subject vcHash' =>
    obtain ⟨rfl, rfl⟩ := Notice.revoked.inj (List.mem_singleton.mp h)
    exact ⟨_, rfl, List.mem_singleton_self _⟩
  case batchRevoke issuer' vcHashes =>
    cases List.mem_append.mp h with
    | inl hmap =>
      obtain ⟨vcHash', hmem, heq⟩ := List.mem_map.mp hmap
      obtain ⟨rfl, rfl⟩ := Notice.revoked.inj heq
      exact ⟨_, rfl, hmem⟩
    | inr hlast => cases List.mem_singleton.mp hlast
  all_goals simp [Call.notices] at h

/-- A hash is registered to the issuer that its event names. -/
theorem registered_of_notice (h : exec host env call s world = .ok (s', world'))
    (hnotice : Notice.revoked issuer vcHash ∈ call.notices) : s'.registeredVCIssuer vcHash = some issuer := by
  obtain ⟨vcHashes, hcall, hmem⟩ := revoked_mem_notices hnotice
  cases exec_effect h with
  | revoked hcall' hauth hrevokes =>
    obtain ⟨rfl, rfl⟩ := Prod.mk.inj (Option.some.inj (hcall.symm.trans hcall'))
    rw [hrevokes.registered, if_pos hmem]
  | identityLinked => cases hcall
  | other hcall' => cases hcall.symm.trans hcall'

/-- An issuer of record that the events tell was there before them, or one of them names it. -/
theorem revokedBy_foldl {v : View} {notices : List Notice}
    (h : (notices.foldl View.read v).revokedBy vcHash = some issuer) :
    v.revokedBy vcHash = some issuer ∨ Notice.revoked issuer vcHash ∈ notices := by
  induction notices generalizing v with
  | nil => exact Or.inl h
  | cons notice rest ih =>
    rcases ih h with hbefore | hrest
    · cases notice with
      | revoked issuer' vcHash' =>
        simp only [View.read, Storage.set_apply] at hbefore
        split at hbefore
        case isTrue hhash =>
          obtain rfl := Option.some.inj hbefore
          exact Or.inr (hhash ▸ List.mem_cons_self)
        case isFalse => exact Or.inl hbefore
      | _ => exact Or.inl hbefore
    · exact Or.inr (List.mem_cons_of_mem _ hrest)

/-! ## The whole log -/

/-- A reader of all events of a registry knows its pause flag, its linked identity oracle, the
issuer of record of every hash and the list of every issuer in order; every event is one that the
contract could publish in what was read before it; a hash is revoked when some event says so, and the
events of a hash all name its issuer of record. -/
theorem registry_notices_tell {history : List (Transition State Event)} {final : State}
    (hrun : Run (StepOf next) {} history final) :
    (noticesOf history).foldl View.read {} = final.view ∧
    Checked View.read View.Allows {} (noticesOf history) ∧
    (∀ vcHash, isRevoked final vcHash = true ↔ ∃ issuer, Notice.revoked issuer vcHash ∈ noticesOf history) ∧
    (∀ issuer vcHash, Notice.revoked issuer vcHash ∈ noticesOf history →
      getRevocationRecord final vcHash = some issuer) := by
  have hkeep : ∀ s e s', IndexOk s → StepOf next s e s' → IndexOk s' :=
    fun _ _ _ hok hstep => hok.step (exec_of_next hstep)
  have hok : IndexOk final := hrun.invariant IndexOk hkeep indexOk_start
  have hreads : ∀ s (e : Event) s', IndexOk s → StepOf next s e s' →
      Reads View.read View.Allows s.view e.call.notices s'.view :=
    fun _ _ _ hok hstep => reads_of_exec hok (exec_of_next hstep)
  have htold : Reads View.read View.Allows {} (noticesOf history) final.view :=
    hrun.reads_journal State.view IndexOk hkeep hreads indexOk_start
  have hnamed : ∀ issuer vcHash, Notice.revoked issuer vcHash ∈ noticesOf history →
      final.registeredVCIssuer vcHash = some issuer := by
    intro issuer vcHash hmem
    obtain ⟨t, ht, hnotice⟩ := mem_journal.mp hmem
    obtain ⟨earlier, later, rfl, -, hstep, hlater⟩ := hrun.exists_around ht
    have hafter := registered_of_notice (exec_of_next hstep) hnotice
    exact hlater.invariant (fun s => s.registeredVCIssuer vcHash = some issuer)
      (fun _ _ _ h hnext => grows_of_exec (exec_of_next hnext) vcHash issuer h) hafter
  refine ⟨htold.view.symm, htold.checked, ?_, ?_⟩
  · intro vcHash
    rw [hok.status, Option.isSome_iff_exists]
    constructor
    · rintro ⟨issuer, hissuer⟩
      have hrecord : ((noticesOf history).foldl View.read {}).revokedBy vcHash = some issuer := by
        rw [← htold.view]
        exact (hok.record vcHash).trans hissuer
      rcases revokedBy_foldl hrecord with hstart | hmem
      · cases hstart
      · exact ⟨issuer, hmem⟩
    · rintro ⟨issuer, hmem⟩
      exact ⟨issuer, hnamed issuer vcHash hmem⟩
  · intro issuer vcHash hmem
    exact (hok.record vcHash).trans (hnamed issuer vcHash hmem)

/-- The events of a revocation, of a batch with repetitions and of one by another issuer. -/
theorem registry_notices_tell_sample : ∃ history final, Run (StepOf next) {} history final ∧
    noticesOf history = [.revoked (.account 2) 7, .revoked (.account 2) 8, .revoked (.account 2) 7,
      .revoked (.account 2) 8, .batchRevoked (.account 2) 3, .revoked (.account 4) 9] ∧
    (noticesOf history).foldl View.read {} = final.view := by
  obtain ⟨history, final, hrun, hobserved⟩ := Run.exists_of_replay
    (show (replay next {} sampleRevocations).map (fun r => noticesOf r.1) =
      some [.revoked (.account 2) 7, .revoked (.account 2) 8, .revoked (.account 2) 7,
        .revoked (.account 2) 8, .batchRevoked (.account 2) 3, .revoked (.account 4) 9] from rfl)
  exact ⟨history, final, hrun, hobserved, (registry_notices_tell hrun).1⟩

end StellarDidCredit.RevocationRegistry
