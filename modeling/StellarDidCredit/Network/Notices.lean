import StellarDidCredit.CreditOracle.Notices
import StellarDidCredit.IdentityOracle.Notices
import StellarDidCredit.RevocationRegistry.Notices
import StellarDidCredit.Governance.Notices
import StellarDidCredit.Network.HandOver

/-!
# The events of the network

A transaction publishes the events of the contract that it invokes and of the contracts that this
one calls: an identity oracle that links a registry lets the registry publish, and a governance
contract lets its credit oracle publish first. A reader of the whole stream, who keeps what it
knows of each contract under its address, knows of every contract what its own log tells.
-/

namespace StellarDidCredit.Network

variable {w w' : World} {e : Event} {env : Env} {call : Call} {contracts contracts' : Contracts}
  {a callee : Address}

/-- An event of one of the contracts. -/
inductive Notice where
  | creditOracle (notice : CreditOracle.Notice)
  | identityOracle (notice : IdentityOracle.Notice)
  | revocationRegistry (notice : RevocationRegistry.Notice)
  | governance (notice : Governance.Notice)
  deriving DecidableEq, Repr

/-- What the ledger shows: a new contract, or an event with the address that published it. -/
inductive Message where
  | deployed (address : Address) (code : Code)
  | event (address : Address) (notice : Notice)
  deriving DecidableEq, Repr

/-- What the linked credit oracle publishes when a governance call reaches it. -/
def forwardedNotices (env : Env) (g : Address) (state : Governance.State) (oracle : CreditOracle.State) :
    Governance.Call → List CreditOracle.Notice
  | .execute proposalId =>
    (state.proposal proposalId).elim [] fun proposal =>
      [.weightsProposed proposal.proposedWeights.vcWeight proposal.proposedWeights.txWeight
        proposal.proposedWeights.repaymentWeight (env.ledger.sequence + CreditOracle.timelockLedgers)]
  | .applyWeights =>
    oracle.pendingWeights.elim [] fun weights =>
      [.weightsApplied weights.vcWeight weights.txWeight weights.repaymentWeight]
  | .acceptOracleAdmin => [.adminAccepted g]
  | _ => []

/-- The events that the contracts called by the invoked one publish, in front of its own. -/
def nestedMessages (env : Env) (contracts : Contracts) : Call → List Message
  | .identityOracle (.setRevocationRegistry registryId) =>
    [.event registryId (.revocationRegistry (.identityOracleSet env.currentContract))]
  | .governance call =>
    match contracts env.currentContract with
    | some (.governance state) =>
      match state.creditOracle with
      | some c =>
        match contracts c with
        | some (.creditOracle oracle) =>
          (forwardedNotices env env.currentContract state oracle call).map fun notice =>
            .event c (.creditOracle notice)
        | _ => []
      | none => []
    | _ => []
  | _ => []

/-- The events of the invoked contract itself. -/
def ownNotices (env : Env) (contracts : Contracts) : Call → List Notice
  | .creditOracle call =>
    match contracts env.currentContract with
    | some (.creditOracle s) =>
      (call.notices (creditHost env [env.currentContract]) env s contracts).map .creditOracle
    | _ => []
  | .identityOracle call =>
    match contracts env.currentContract with
    | some (.identityOracle s) => (call.notices s).map .identityOracle
    | _ => []
  | .revocationRegistry call => call.notices.map .revocationRegistry
  | .governance call =>
    match contracts env.currentContract with
    | some (.governance s) => (call.notices env s).map .governance
    | _ => []

/-- What a successful transaction shows. -/
def messages (w : World) : Event → List Message
  | .deploy _ address code => [.deployed address code]
  | .invoke ledger signers callee call =>
    let env := Env.signedBy ledger callee signers
    nestedMessages env w.contracts call ++ (ownNotices env w.contracts call).map (.event callee)

/-- What a history shows, in order. -/
def messagesOf (history : List Move) : List Message := journal messages history

/-! ## Reading them -/

/-- What is known of a contract. -/
inductive ContractView where
  | creditOracle (v : CreditOracle.View)
  | identityOracle (v : IdentityOracle.View)
  | revocationRegistry (v : RevocationRegistry.View)
  | governance (v : Governance.View)

/-- The same of its stored entries. -/
def Contract.view : Contract → ContractView
  | .creditOracle s => .creditOracle s.view
  | .identityOracle s => .identityOracle s.view
  | .revocationRegistry s => .revocationRegistry s.view
  | .governance s => .governance s.view

/-- What is known of a contract right after its deployment. -/
def Code.freshView : Code → ContractView
  | .creditOracle => .creditOracle {}
  | .identityOracle => .identityOracle {}
  | .revocationRegistry => .revocationRegistry {}
  | .governance => .governance {}

/-- One more event of a contract. -/
def ContractView.read : ContractView → Notice → ContractView
  | .creditOracle v, .creditOracle notice => .creditOracle (v.read notice)
  | .identityOracle v, .identityOracle notice => .identityOracle (v.read notice)
  | .revocationRegistry v, .revocationRegistry notice => .revocationRegistry (v.read notice)
  | .governance v, .governance notice => .governance (v.read notice)
  | v, _ => v

/-- What is known of the contracts, by address. -/
abbrev Known := Storage Address ContractView

/-- One more message. -/
def readMessage (known : Known) : Message → Known
  | .deployed address code => known.set address code.freshView
  | .event address notice => (known address).elim known fun v => known.set address (v.read notice)

/-- The event is one that a contract of this kind could publish in what was read of it before. -/
def ContractView.Allows : ContractView → Notice → Prop
  | .creditOracle v, .creditOracle notice => v.Allows notice
  | .identityOracle v, .identityOracle notice => v.Allows notice
  | .revocationRegistry v, .revocationRegistry notice => v.Allows notice
  | .governance v, .governance notice => v.Allows notice
  | _, _ => False

/-- The message is one that could come after what was read: a contract is deployed at a free address, and
only a deployed contract publishes. -/
def Admits (known : Known) : Message → Prop
  | .deployed address _ => known address = none
  | .event address notice => ∃ v, known address = some v ∧ v.Allows notice

/-- What the stored entries of the contracts tell. -/
def view (contracts : Contracts) : Known := contracts.mapValues (·.view)

/-! ## One step -/

/-- A reader knows what a fresh contract holds. -/
theorem freshView_eq (code : Code) : code.freshView = code.fresh.view := by
  cases code <;> rfl

/-- The view of a contract that is there. -/
theorem view_apply {contract : Contract} (h : contracts a = some contract) :
    view contracts a = some contract.view :=
  congrArg (Option.map _) h

/-- Writing a contract writes its view. -/
theorem view_set (contracts : Contracts) (a : Address) (after : Contract) :
    view (contracts.set a after) = (view contracts).set a after.view :=
  Storage.mapValues_set _ _ _ _

/-- The events of one contract lead from what is known of it before them to what is known after them. -/
theorem reads_events {known : Known} {v v' : ContractView} {notices : List Notice} (hknown : known a = some v)
    (h : Reads ContractView.read ContractView.Allows v notices v') :
    Reads readMessage Admits known (notices.map (.event a)) (known.set a v') := by
  induction notices generalizing known v with
  | nil =>
    rw [h.view, List.foldl_nil, Storage.set_eq_self hknown]
    exact .nil known
  | cons notice rest ih =>
    have hread : readMessage known (.event a notice) = known.set a (v.read notice) := by
      rw [readMessage, hknown]
      rfl
    have hnext : (known.set a (v.read notice)) a = some (v.read notice) := Storage.set_self _ _ _
    have hrest := ih hnext ⟨h.view, h.checked.2⟩
    rw [Storage.set_set] at hrest
    refine ⟨?_, ⟨v, hknown, h.checked.1⟩, ?_⟩
    · rw [List.map_cons, List.foldl_cons, hread]
      exact hrest.view
    · rw [hread]
      exact hrest.checked

/-! Its own log leads from one view of a contract to another, also as a part of the stream. -/

/-- What a reader of a credit oracle reads, a reader of all contracts reads. -/
theorem reads_creditOracle {v v' : CreditOracle.View} {notices : List CreditOracle.Notice}
    (h : Reads CreditOracle.View.read CreditOracle.View.Allows v notices v') :
    Reads ContractView.read ContractView.Allows (.creditOracle v) (notices.map .creditOracle) (.creditOracle v') :=
  h.lift ContractView.creditOracle Notice.creditOracle (fun _ _ => rfl) fun _ _ => id

/-- So it is for an identity oracle. -/
theorem reads_identityOracle {v v' : IdentityOracle.View} {notices : List IdentityOracle.Notice}
    (h : Reads IdentityOracle.View.read IdentityOracle.View.Allows v notices v') :
    Reads ContractView.read ContractView.Allows (.identityOracle v) (notices.map .identityOracle)
      (.identityOracle v') :=
  h.lift ContractView.identityOracle Notice.identityOracle (fun _ _ => rfl) fun _ _ => id

/-- So it is for a registry. -/
theorem reads_revocationRegistry {v v' : RevocationRegistry.View} {notices : List RevocationRegistry.Notice}
    (h : Reads RevocationRegistry.View.read RevocationRegistry.View.Allows v notices v') :
    Reads ContractView.read ContractView.Allows (.revocationRegistry v) (notices.map .revocationRegistry)
      (.revocationRegistry v') :=
  h.lift ContractView.revocationRegistry Notice.revocationRegistry (fun _ _ => rfl) fun _ _ => id

/-- So it is for a governance contract. -/
theorem reads_governance {v v' : Governance.View} {notices : List Governance.Notice}
    (h : Reads Governance.View.read Governance.View.Allows v notices v') :
    Reads ContractView.read ContractView.Allows (.governance v) (notices.map .governance) (.governance v') :=
  h.lift ContractView.governance Notice.governance (fun _ _ => rfl) fun _ _ => id

/-- The messages of an invocation, those of the called contracts in front, lead from the view before it to
the one after it. -/
theorem reads_of_invoked {others : Contracts} {before after : Contract} {nested : List Message}
    {own : List Notice} (hnested : Reads readMessage Admits (view contracts) nested (view others))
    (hbefore : others a = some before)
    (hown : Reads ContractView.read ContractView.Allows before.view own after.view) :
    Reads readMessage Admits (view contracts) (nested ++ own.map (.event a)) (view (others.set a after)) := by
  rw [view_set]
  exact hnested.append (reads_events (view_apply hbefore) hown)

/-- A contract that changes without an event looks the same. -/
theorem reads_nil_of_same {before after : Contract} (hbefore : contracts a = some before)
    (hsame : after.view = before.view) :
    Reads readMessage Admits (view contracts) [] (view (contracts.set a after)) := by
  rw [view_set, hsame, Storage.set_eq_self (view_apply hbefore)]
  exact .nil _

/-- What the linked credit oracle publishes leads from the view before the call to the one after it. -/
theorem reads_forwarded {g c : Address} {state : Governance.State} {oracle oracle' : CreditOracle.State}
    {call : Governance.Call}
    (h : (∃ p proposal, call = .execute p ∧ state.proposal p = some proposal ∧
          CreditOracle.proposeWeights (env.enter c) proposal.proposedWeights oracle = .ok oracle') ∨
        (call = .applyWeights ∧ CreditOracle.applyWeights (env.enter c) oracle = .ok oracle') ∨
        (call = .acceptOracleAdmin ∧ CreditOracle.acceptAdmin (env.enter c) g oracle = .ok oracle')) :
    Reads CreditOracle.View.read CreditOracle.View.Allows oracle.view (forwardedNotices env g state oracle call)
      oracle'.view := by
  rcases h with ⟨p, proposal, rfl, hproposal, hpropose⟩ | ⟨rfl, happly⟩ | ⟨rfl, haccept⟩
  · obtain ⟨hvalid, ⟨admin, hadmin, -⟩, rfl⟩ := CreditOracle.proposeWeights_spec hpropose
    rw [forwardedNotices, hproposal]
    exact ⟨rfl, ⟨Option.isSome_of_eq_some hadmin, hvalid⟩, trivial⟩
  · obtain ⟨hpaused, weights, effectiveLedger, hpending, -, -, rfl⟩ := CreditOracle.applyWeights_spec happly
    rw [forwardedNotices, hpending]
    exact ⟨rfl, ⟨hpaused, hpending⟩, trivial⟩
  · obtain ⟨-, hpending, rfl⟩ := CreditOracle.acceptAdmin_spec haccept
    exact ⟨rfl, hpending, trivial⟩

/-- A governance call that stays inside lets no other contract publish. -/
theorem nestedMessages_of_not_reaches {call : Governance.Call} (h : ¬call.Reaches) :
    nestedMessages env contracts (.governance call) = [] := by
  have hnone (g : Address) (state : Governance.State) (oracle : CreditOracle.State) :
      forwardedNotices env g state oracle call = [] := by
    cases call <;> first | rfl | exact absurd trivial h
  simp only [nestedMessages, hnone, List.map_nil]
  split
  · split
    · split <;> rfl
    · rfl
  · rfl

/-- A registry that an identity oracle links is not paused. -/
theorem registry_unpaused {others : Contracts} {s s' : IdentityOracle.State} {r : Address}
    {q : RevocationRegistry.State} (hq : contracts r = some (.revocationRegistry q))
    (h : IdentityOracle.exec (identityHost env [env.currentContract]) env (.setRevocationRegistry r) s contracts =
      .ok (s', others)) : q.paused.getD false = false := by
  obtain ⟨-, -, hlinked, -⟩ := IdentityOracle.setRevocationRegistry_spec h
  simp only [identityHost, onRegistry_eq_some, Option.bind_eq_bind, Option.bind_eq_some_iff,
    Outcome.toOption_eq_some, Option.some.injEq] at hlinked
  obtain ⟨-, before, hbefore, q', hset, -⟩ := hlinked
  cases hq.symm.trans hbefore
  simp only [RevocationRegistry.setIdentityOracle, Outcome.bind_eq_ok,
    RevocationRegistry.ensureNotPaused_eq_ok] at hset
  obtain ⟨_, hpaused, -⟩ := hset
  exact hpaused

/-- The books of a contract are in order. -/
def Contract.Ok : Contract → Prop
  | .creditOracle _ => True
  | .identityOracle s => IdentityOracle.IssuersOk s
  | .revocationRegistry s => RevocationRegistry.IndexOk s
  | .governance s => Governance.NoticesOk s

/-- The books of all contracts are in order. -/
def AllOk (contracts : Contracts) : Prop := ∀ a contract, contracts a = some contract → contract.Ok

/-- Writing a contract in order keeps all of them so. -/
theorem AllOk.set (h : AllOk contracts) {after : Contract} (hafter : after.Ok) : AllOk (contracts.set a after) := by
  intro b contract hcontract
  rw [Storage.set_apply] at hcontract
  split at hcontract
  case isTrue => exact Option.some.inj hcontract ▸ hafter
  case isFalse => exact h b contract hcontract

/-- A successful invocation keeps the books in order, and its messages lead from the view before it to the
one after it. -/
theorem Invoked.reads (hok : AllOk contracts) (h : Invoked env contracts call contracts') :
    AllOk contracts' ∧
      Reads readMessage Admits (view contracts) (nestedMessages env contracts call ++
        (ownNotices env contracts call).map (.event env.currentContract)) (view contracts') := by
  cases h with
  | @credit call s s' others hs hexec hothers =>
    have hown : Reads ContractView.read ContractView.Allows (Contract.creditOracle s).view
        (ownNotices env contracts (.creditOracle call)) (Contract.creditOracle s').view := by
      simp only [ownNotices, hs]
      exact reads_creditOracle (CreditOracle.reads_of_exec hexec)
    rcases hothers with ⟨rfl, -⟩ | ⟨admin, linked, t, t', count, rfl, hne, ht, hcount, rfl⟩
    · exact ⟨hok.set trivial, reads_of_invoked (.nil _) hs hown⟩
    · have hprobed : IdentityOracle.exec (identityHost (env.enter linked) [linked, env.currentContract]) env
          (.getActiveVcCount env.currentContract) t contracts = .ok (t', contracts) :=
        IdentityOracle.alone_eq_ok.mpr ⟨Outcome.map_snd_eq_ok.mpr ⟨count, hcount⟩, rfl⟩
      have hissuers : IdentityOracle.IssuersOk t := hok linked _ ht
      have hsame : (Contract.identityOracle t').view = (Contract.identityOracle t).view :=
        congrArg ContractView.identityOracle (IdentityOracle.view_of_exec hissuers hprobed)
      have hprobedOk : (Contract.identityOracle t').Ok := hissuers.step (IdentityOracle.exec_writes hprobed)
      refine ⟨(hok.set hprobedOk).set trivial, ?_⟩
      exact reads_of_invoked (reads_nil_of_same ht hsame) ((Storage.set_of_ne _ _ hne.symm).trans hs) hown
  | @identity call s s' others hs hexec hothers =>
    have hissuers : IdentityOracle.IssuersOk s := hok _ _ hs
    have hissuers' : (Contract.identityOracle s').Ok := hissuers.step (IdentityOracle.exec_writes hexec)
    have hown : Reads ContractView.read ContractView.Allows (Contract.identityOracle s).view
        (ownNotices env contracts (.identityOracle call)) (Contract.identityOracle s').view := by
      simp only [ownNotices, hs]
      exact reads_identityOracle (IdentityOracle.reads_of_exec hissuers hexec)
    rcases hothers with ⟨rfl, hnot⟩ | ⟨r, q, rfl, hne, hq, rfl⟩
    · have hnone : nestedMessages env others (.identityOracle call) = [] := by
        cases call
        case setRevocationRegistry r => exact absurd rfl (hnot r)
        all_goals rfl
      rw [hnone]
      exact ⟨hok.set hissuers', reads_of_invoked (.nil _) hs hown⟩
    · have hindex : RevocationRegistry.IndexOk q := hok r _ hq
      have hpaused := registry_unpaused hq hexec
      have hlinkedOk : (Contract.revocationRegistry
          { q with identityOracleId := some env.currentContract }).Ok :=
        RevocationRegistry.IndexOk.mk hindex.record hindex.status hindex.listed hindex.nodup
      refine ⟨(hok.set hlinkedOk).set hissuers', ?_⟩
      refine reads_of_invoked ?_ ((Storage.set_of_ne _ _ hne.symm).trans hs) hown
      rw [view_set]
      have hlinked : Reads ContractView.read ContractView.Allows (Contract.revocationRegistry q).view
          [.revocationRegistry (.identityOracleSet env.currentContract)]
          (Contract.revocationRegistry { q with identityOracleId := some env.currentContract }).view :=
        ⟨rfl, hpaused, trivial⟩
      exact reads_events (view_apply hq) hlinked
  | @registry call s s' others hs hexec hothers =>
    have hindex : RevocationRegistry.IndexOk s := hok _ _ hs
    have hindex' : (Contract.revocationRegistry s').Ok := hindex.step hexec
    have hown : Reads ContractView.read ContractView.Allows (Contract.revocationRegistry s).view
        (ownNotices env contracts (.revocationRegistry call)) (Contract.revocationRegistry s').view :=
      reads_revocationRegistry (RevocationRegistry.reads_of_exec hindex hexec)
    rcases hothers with ⟨rfl, -⟩ | ⟨issuer, subject, vcHash, linked, t, t', rfl, -, hne, ht, hmark, rfl⟩
    · exact ⟨hok.set hindex', reads_of_invoked (.nil _) hs hown⟩
    · have hmarked : IdentityOracle.exec (identityHost (env.enter linked) [linked, env.currentContract])
          (env.enter linked) (.markVcRevoked issuer subject vcHash) t contracts = .ok (t', contracts) :=
        IdentityOracle.alone_eq_ok.mpr ⟨hmark, rfl⟩
      have hissuers : IdentityOracle.IssuersOk t := hok linked _ ht
      have hsame : (Contract.identityOracle t').view = (Contract.identityOracle t).view :=
        congrArg ContractView.identityOracle (IdentityOracle.view_of_exec hissuers hmarked)
      have hmarkedOk : (Contract.identityOracle t').Ok := hissuers.step (IdentityOracle.exec_writes hmarked)
      refine ⟨(hok.set hmarkedOk).set hindex', ?_⟩
      exact reads_of_invoked (reads_nil_of_same ht hsame) ((Storage.set_of_ne _ _ hne.symm).trans hs) hown
  | @governance call s s' others hs hexec hothers =>
    have hnotices : Governance.NoticesOk s := hok _ _ hs
    have hnotices' : (Contract.governance s').Ok := hnotices.step hexec
    have hown : Reads ContractView.read ContractView.Allows (Contract.governance s).view
        (ownNotices env contracts (.governance call)) (Contract.governance s').view := by
      simp only [ownNotices, hs]
      exact reads_governance (hnotices.reads hexec)
    rcases hothers with ⟨rfl, hnot⟩ | ⟨c, t, t', hne, hlinked, ht, rfl, hcalled⟩
    · rw [nestedMessages_of_not_reaches hnot]
      exact ⟨hok.set hnotices', reads_of_invoked (.nil _) hs hown⟩
    · have hforwarded : Reads ContractView.read ContractView.Allows (Contract.creditOracle t).view
          ((forwardedNotices env env.currentContract s t call).map .creditOracle) (Contract.creditOracle t').view :=
        reads_creditOracle (reads_forwarded hcalled)
      have hforwardedOk : (Contract.creditOracle t').Ok := trivial
      refine ⟨(hok.set hforwardedOk).set hnotices', ?_⟩
      refine reads_of_invoked ?_ ((Storage.set_of_ne _ _ hne.symm).trans hs) hown
      simp only [nestedMessages, hs, hlinked, ht]
      rw [view_set]
      have hevents := reads_events (view_apply ht) hforwarded
      rwa [List.map_map] at hevents

/-- A step keeps the books in order, and its messages lead from the view before it to the one after it. -/
theorem step_reads (hok : AllOk w.contracts) (h : Step w e w') :
    AllOk w'.contracts ∧ Reads readMessage Admits (view w.contracts) (messages w e) (view w'.contracts) := by
  cases step_spec h with
  | @deployed ledger address code hledger hcontract hfree =>
    refine ⟨hok.set ?_, ?_⟩
    · cases code with
      | creditOracle => trivial
      | identityOracle => exact IdentityOracle.issuersOk_start
      | revocationRegistry => exact RevocationRegistry.indexOk_start
      | governance => exact Governance.noticesOk_start
    · rw [view_set, ← freshView_eq]
      exact ⟨rfl, congrArg (Option.map _) hfree, trivial⟩
  | invoked hledger hsigners hinvoked => exact hinvoked.reads hok

/-! ## The whole stream -/

/-- In every run of the network, however the transactions of the contracts interleave, a reader of the
whole stream of messages knows of every deployed contract what its stored entries tell, and every message
is one that could come after what was read before it. -/
theorem messages_tell {ledger : Ledger} {history : List Move} (hrun : Run Step (.genesis ledger) history w) :
    (messagesOf history).foldl readMessage Storage.empty = view w.contracts ∧
      Checked readMessage Admits Storage.empty (messagesOf history) := by
  have hstart : AllOk (World.genesis ledger).contracts := fun _ _ h => by cases h
  have hreads : ∀ w (e : Event) w', AllOk w.contracts → Step w e w' →
      Reads readMessage Admits (view w.contracts) (messages w e) (view w'.contracts) :=
    fun _ _ _ hok h => (step_reads hok h).2
  have htold : Reads readMessage Admits Storage.empty (messagesOf history) (view w.contracts) :=
    hrun.reads_journal (fun w => view w.contracts) (fun w => AllOk w.contracts)
      (fun _ _ _ hok h => (step_reads hok h).1) hreads hstart
  exact ⟨htold.view.symm, htold.checked⟩

/-- A governance contract takes over a credit oracle, which publishes that by itself. -/
theorem messages_tell_handOver : ∃ history w, Run Step (.genesis sampleStart) history w ∧
    messagesOf history = [.deployed (.contract 22) .creditOracle, .deployed (.contract 23) .governance,
      .event (.contract 22) (.creditOracle (.initialized (.account 1))),
      .event (.contract 23) (.governance (.initialized (.account 1) (.contract 22))),
      .event (.contract 22) (.creditOracle (.weightsProposed 50 20 30 17280)),
      .event (.contract 22) (.creditOracle (.adminProposed (.contract 23))),
      .event (.contract 22) (.creditOracle (.adminAccepted (.contract 23)))] ∧
    (messagesOf history).foldl readMessage Storage.empty = view w.contracts := by
  obtain ⟨history, w, hrun, hobserved⟩ := Run.exists_of_replay
    (show (replay World.next (.genesis sampleStart) (sampleSetup ++ [sampleHandOver])).map
      (fun r => messagesOf r.1) = some [.deployed (.contract 22) .creditOracle,
        .deployed (.contract 23) .governance,
        .event (.contract 22) (.creditOracle (.initialized (.account 1))),
        .event (.contract 23) (.governance (.initialized (.account 1) (.contract 22))),
        .event (.contract 22) (.creditOracle (.weightsProposed 50 20 30 17280)),
        .event (.contract 22) (.creditOracle (.adminProposed (.contract 23))),
        .event (.contract 22) (.creditOracle (.adminAccepted (.contract 23)))] from rfl)
  exact ⟨history, w, hrun, hobserved, (messages_tell hrun).1⟩

end StellarDidCredit.Network
