import StellarDidCredit.Lib.FlagIndex
import StellarDidCredit.CreditOracle.Timelock

/-!
# Disputes

A subject disputes one of its score inputs, and the admin accepts or rejects the dispute. The
records are kept in a map and the keys of a subject in a list beside it. In every run the list
names every key that the subject disputed, in the order of the first filings, and the map has
the latest filing of each with the outcome that it had.
-/

namespace StellarDidCredit.CreditOracle

variable {κ : Type} {host : Host κ} {env : Env} {call : Call} {s s' : State} {world world' : κ}
  {subject : Address} {inputKey : Symbol} {reason : HostString} {accepted : Bool}

/-- The keys in a subject's index. -/
def disputedKeys (s : State) (subject : Address) : List Symbol := (s.disputeIndex subject).getD []

/-- The subject's dispute of this input is open. -/
def Pending (s : State) (subject : Address) (inputKey : Symbol) : Prop :=
  ∃ record, s.dispute (subject, inputKey) = some record ∧ record.status = .pending

/-- The status that a resolution gives to a dispute. -/
def outcomeStatus (accepted : Bool) : DisputeStatus := if accepted then .resolved else .rejected

/-! ## One call -/

/-- A filing: the subject signed, no dispute of this input was open, and the record and its key are
written. -/
structure Filed (env : Env) (s : State) (subject : Address) (inputKey : Symbol) (reason : HostString)
    (s' : State) : Prop where
  auth : env.Authorized subject
  key : inputKey ∈ inputKeys
  closed : ¬Pending s subject inputKey
  dispute : s'.dispute = s.dispute.set (subject, inputKey)
    { subject, inputKey, reason, filedAtLedger := env.ledger.sequence, status := .pending }
  keys : ∀ x, disputedKeys s' x = if x = subject then enlist (disputedKeys s x) inputKey else disputedKeys s x
  inputs : s' = { s with dispute := s'.dispute, disputeIndex := s'.disputeIndex }

/-- A resolution: the admin signed, the dispute was open, and its status is written. -/
structure Settled (env : Env) (s : State) (subject : Address) (inputKey : Symbol) (accepted : Bool)
    (s' : State) : Prop where
  auth : ∃ admin, s.admin = some admin ∧ env.Authorized admin
  pending : ∃ record, s.dispute (subject, inputKey) = some record ∧ record.status = .pending ∧
    s'.dispute = s.dispute.set (subject, inputKey) { record with status := outcomeStatus accepted }
  inputs : s' = { s with dispute := s'.dispute }

/-- What a call does to the disputes. -/
inductive DisputeStep (env : Env) (s s' : State) : Call → Prop
  | filed {subject : Address} {inputKey : Symbol} {reason : HostString}
      (h : Filed env s subject inputKey reason s') :
      DisputeStep env s s' (.flagScoreInput subject inputKey reason)
  | settled {subject : Address} {inputKey : Symbol} {accepted : Bool}
      (h : Settled env s subject inputKey accepted s') :
      DisputeStep env s s' (.resolveDispute subject inputKey accepted)
  | untouched {call : Call} (hfiled : ∀ subject inputKey reason, call ≠ .flagScoreInput subject inputKey reason)
      (hsettled : ∀ subject inputKey accepted, call ≠ .resolveDispute subject inputKey accepted)
      (hdispute : s'.dispute = s.dispute) (hindex : s'.disputeIndex = s.disputeIndex) :
      DisputeStep env s s' call

/-- A filing puts the key in the subject's index, once. -/
theorem index_after_filing (index : Storage Address (List Symbol)) (subject : Address) (inputKey : Symbol)
    (x : Address) :
    ((if inputKey ∈ (index subject).getD [] then index
      else index.set subject ((index subject).getD [] ++ [inputKey])) x).getD [] =
      if x = subject then enlist ((index x).getD []) inputKey else (index x).getD [] := by
  by_cases hx : x = subject
  · subst hx
    rw [if_pos rfl, enlist]
    split
    · rfl
    · rw [Storage.set_self, Option.getD_some]
  · rw [if_neg hx]
    split
    · rfl
    · rw [Storage.set_of_ne _ _ hx]

/-- A dispute is filed, or resolved, or nothing happens to any dispute. -/
theorem exec_disputes (h : exec host env call s world = .ok (s', world')) : DisputeStep env s s' call := by
  cases exec_effect h with
  | scoreComputed hcompute =>
    obtain ⟨score, protocolStats, rfl⟩ := computeScore_writes hcompute
    exact .untouched (by simp) (by simp) rfl rfl
  | other hcall hcore =>
    cases exec_writes hcall h with
    | @disputeFiled subject inputKey reason hauth hkey hclosed =>
      refine .filed ⟨hauth, hkey, ?_, rfl, ?_, rfl⟩
      · rintro ⟨record, hrecord, hpending⟩
        simp [hrecord, hpending] at hclosed
      · exact fun x => index_after_filing s.disputeIndex subject inputKey x
    | disputeResolved hadmin hauth hrecord hpending =>
      exact .settled ⟨⟨_, hadmin, hauth⟩, ⟨_, hrecord, hpending, rfl⟩, rfl⟩
    | _ => exact .untouched (by simp) (by simp) rfl rfl
  | _ => exact .untouched (by simp) (by simp) rfl rfl

/-- A dispute is opened by a filing of its subject. -/
theorem DisputeStep.opens (h : DisputeStep env s s' call) (hbefore : ¬Pending s subject inputKey)
    (hafter : Pending s' subject inputKey) :
    (∃ reason, call = .flagScoreInput subject inputKey reason) ∧ env.Authorized subject ∧
      inputKey ∈ inputKeys := by
  obtain ⟨record, hrecord, hpending⟩ := hafter
  cases h with
  | @filed x k reason hfiled =>
    rw [hfiled.dispute, Storage.set_apply] at hrecord
    split at hrecord
    case isTrue hsame =>
      obtain ⟨rfl, rfl⟩ := Prod.mk.inj hsame
      exact ⟨⟨reason, rfl⟩, hfiled.auth, hfiled.key⟩
    case isFalse => exact absurd ⟨record, hrecord, hpending⟩ hbefore
  | @settled x k accepted hsettled =>
    obtain ⟨old, -, -, hdispute⟩ := hsettled.pending
    rw [hdispute, Storage.set_apply] at hrecord
    split at hrecord
    case isTrue =>
      obtain rfl := Option.some.inj hrecord
      cases accepted <;> cases hpending
    case isFalse => exact absurd ⟨record, hrecord, hpending⟩ hbefore
  | untouched hfiled hsettled hdispute => exact absurd ⟨record, hdispute ▸ hrecord, hpending⟩ hbefore

/-- An open dispute stays as it is, but for the status that a resolution of the admin gives it. -/
theorem DisputeStep.keeps (h : DisputeStep env s s' call) {record : DisputeRecord}
    (hrecord : s.dispute (subject, inputKey) = some record) (hpending : record.status = .pending) :
    s'.dispute (subject, inputKey) = some record ∨
    ∃ accepted admin, call = .resolveDispute subject inputKey accepted ∧ s.admin = some admin ∧
      env.Authorized admin ∧
      s'.dispute (subject, inputKey) = some { record with status := outcomeStatus accepted } := by
  cases h with
  | @filed x k reason hfiled =>
    have hne : (subject, inputKey) ≠ (x, k) := by
      intro hsame
      obtain ⟨rfl, rfl⟩ := Prod.mk.inj hsame
      exact hfiled.closed ⟨record, hrecord, hpending⟩
    rw [hfiled.dispute, Storage.set_of_ne _ _ hne]
    exact Or.inl hrecord
  | @settled x k accepted hsettled =>
    obtain ⟨old, hold, -, hdispute⟩ := hsettled.pending
    by_cases hsame : (subject, inputKey) = (x, k)
    · obtain ⟨rfl, rfl⟩ := Prod.mk.inj hsame
      obtain rfl := Option.some.inj (hold.symm.trans hrecord)
      obtain ⟨admin, hadmin, hauth⟩ := hsettled.auth
      exact Or.inr ⟨accepted, admin, rfl, hadmin, hauth, by rw [hdispute, Storage.set_self]⟩
    · rw [hdispute, Storage.set_of_ne _ _ hsame]
      exact Or.inl hrecord
  | untouched hfiled hsettled hdispute =>
    rw [hdispute]
    exact Or.inl hrecord

/-! ## The history of a dispute -/

/-- The step files a dispute of the subject about this input. -/
def Files (subject : Address) (inputKey : Symbol) (t : Move) : Prop :=
  ∃ reason, t.event.call = .flagScoreInput subject inputKey reason

/-- The step resolves the subject's dispute about this input. -/
def Settles (subject : Address) (inputKey : Symbol) (accepted : Bool) (t : Move) : Prop :=
  t.event.call = .resolveDispute subject inputKey accepted

/-- The input that the subject disputes in a call. -/
def Call.disputedBy (subject : Address) : Call → Option Symbol
  | .flagScoreInput x inputKey _ => if x = subject then some inputKey else none
  | _ => none

/-- The inputs that the subject disputed, in the order of the first filings. -/
def everDisputed (subject : Address) (history : List Move) : List Symbol :=
  (history.filterMap fun t => t.event.call.disputedBy subject).foldl enlist []

/-- A dispute is filed by the call that names its key. -/
theorem files_iff {t : Move} :
    Files subject inputKey t ↔ t.event.call.disputedBy subject = some inputKey := by
  constructor
  · rintro ⟨reason, hfiles⟩
    rw [hfiles, Call.disputedBy, if_pos rfl]
  · intro hdisputed
    cases hcall : t.event.call with
    | flagScoreInput x key reason =>
      rw [hcall, Call.disputedBy] at hdisputed
      split at hdisputed
      case isTrue hx =>
        obtain rfl := Option.some.inj hdisputed
        exact ⟨reason, hx ▸ hcall⟩
      case isFalse => cases hdisputed
    | _ =>
      rw [hcall] at hdisputed
      cases hdisputed

/-- One more step enters the key that it disputes. -/
theorem everDisputed_snoc (subject : Address) (history : List Move) (t : Move) :
    everDisputed subject (history ++ [t]) =
      (t.event.call.disputedBy subject).elim (everDisputed subject history)
        (enlist (everDisputed subject history)) := by
  unfold everDisputed
  rw [List.filterMap_append, List.foldl_append]
  cases hdisputed : t.event.call.disputedBy subject <;> simp [hdisputed]

/-- The record is that of the latest filing about its input, open until it is resolved and with the
outcome of the resolution from then on. -/
def LatestDispute (history : List Move) (record : DisputeRecord) : Prop :=
  ∃ earlier filing since, history = earlier ++ filing :: since ∧
    filing.event.call = .flagScoreInput record.subject record.inputKey record.reason ∧
    record.filedAtLedger = filing.event.env.ledger.sequence ∧
    (∀ t ∈ since, ¬Files record.subject record.inputKey t) ∧
    ((∀ t ∈ since, ∀ accepted, ¬Settles record.subject record.inputKey accepted t) →
      record.status = .pending) ∧
    ∀ t ∈ since, ∀ accepted, Settles record.subject record.inputKey accepted t →
      record.status = outcomeStatus accepted

/-- A step about something else leaves the latest filing the latest. -/
theorem LatestDispute.snoc {history : List Move} {record : DisputeRecord} (h : LatestDispute history record)
    {t : Move} (hfiles : ¬Files record.subject record.inputKey t)
    (hsettles : ∀ accepted, ¬Settles record.subject record.inputKey accepted t) :
    LatestDispute (history ++ [t]) record := by
  obtain ⟨earlier, filing, since, rfl, hcall, hledger, hlatest, hopen, houtcome⟩ := h
  refine ⟨earlier, filing, since ++ [t], by simp, hcall, hledger, ?_, ?_, ?_⟩
  · exact List.forall_mem_append.mpr ⟨hlatest, List.forall_mem_singleton.mpr hfiles⟩
  · exact fun hnone => hopen fun u hu => hnone u (List.mem_append_left _ hu)
  · refine List.forall_mem_append.mpr ⟨houtcome, List.forall_mem_singleton.mpr ?_⟩
    exact fun accepted hsettled => absurd hsettled (hsettles accepted)

/-- A resolution writes its outcome into the latest filing. -/
theorem LatestDispute.settled {history : List Move} {record : DisputeRecord} (h : LatestDispute history record)
    {t : Move} (hpending : record.status = .pending)
    (hsettles : Settles record.subject record.inputKey accepted t) :
    LatestDispute (history ++ [t]) { record with status := outcomeStatus accepted } := by
  obtain ⟨earlier, filing, since, rfl, hcall, hledger, hlatest, hopen, houtcome⟩ := h
  refine ⟨earlier, filing, since ++ [t], by simp, hcall, hledger, ?_, ?_, ?_⟩
  · refine List.forall_mem_append.mpr ⟨hlatest, List.forall_mem_singleton.mpr ?_⟩
    rintro ⟨reason, hfiles⟩
    cases hfiles.symm.trans hsettles
  · exact fun hnone => absurd hsettles (hnone t (by simp) accepted)
  · refine List.forall_mem_append.mpr ⟨?_, List.forall_mem_singleton.mpr ?_⟩
    · -- the dispute was still open, so that nothing had resolved it before
      intro u hu accepted' hsettled
      have hbefore := houtcome u hu accepted' hsettled
      rw [hpending] at hbefore
      cases accepted' <;> cases hbefore
    · intro accepted' hsettled
      rw [(Call.resolveDispute.inj (hsettled.symm.trans hsettles)).2.2]

/-- The index of the subject is in the order of the first filings, and the map has the latest
dispute of each key in it. -/
structure DisputesOk (s : State) (history : List Move) (subject : Address) : Prop where
  keys : disputedKeys s subject = everDisputed subject history
  stored : ∀ inputKey ∈ disputedKeys s subject, ∃ record, s.dispute (subject, inputKey) = some record
  latest : ∀ inputKey record, s.dispute (subject, inputKey) = some record →
    record.subject = subject ∧ record.inputKey = inputKey ∧ LatestDispute history record

/-- A filing keeps the disputes of every subject in order. -/
theorem DisputesOk.filed {history : List Move} {t : Move} {x : Address} {k : Symbol}
    (h : DisputesOk t.before.state history subject) (hcall : t.event.call = .flagScoreInput x k reason)
    (hfiled : Filed t.event.env t.before.state x k reason t.after.state) :
    DisputesOk t.after.state (history ++ [t]) subject := by
  have hother {y : Address} {key : Symbol} (hne : (y, key) ≠ (x, k)) : ¬Files y key t := by
    rintro ⟨reason', hfiles⟩
    obtain ⟨rfl, rfl, -⟩ := Call.flagScoreInput.inj (hfiles.symm.trans hcall)
    exact hne rfl
  have hunsettled (y : Address) (key : Symbol) (accepted : Bool) : ¬Settles y key accepted t := by
    intro hsettles
    cases hsettles.symm.trans hcall
  refine ⟨?_, ?_, ?_⟩
  · rw [hfiled.keys, everDisputed_snoc, hcall, Call.disputedBy]
    by_cases hx : x = subject
    · rw [if_pos hx.symm, if_pos hx, h.keys]
      rfl
    · rw [if_neg (Ne.symm hx), if_neg hx, h.keys]
      rfl
  · intro key hkey
    rw [hfiled.dispute, Storage.set_apply]
    by_cases hsame : (subject, key) = (x, k)
    · exact ⟨_, if_pos hsame⟩
    · rw [if_neg hsame]
      refine h.stored key ?_
      rw [hfiled.keys] at hkey
      split at hkey
      case isTrue hx =>
        rcases mem_enlist.mp hkey with hold | rfl
        · exact hold
        · exact absurd (by rw [hx]) hsame
      case isFalse => exact hkey
  · intro key record hrecord
    rw [hfiled.dispute, Storage.set_apply] at hrecord
    split at hrecord
    case isTrue hsame =>
      obtain ⟨rfl, rfl⟩ := Prod.mk.inj hsame
      obtain rfl := Option.some.inj hrecord
      exact ⟨rfl, rfl, history, t, [], rfl, hcall, rfl, by simp, fun _ => rfl, by simp⟩
    case isFalse hne =>
      obtain ⟨rfl, rfl, hlatest⟩ := h.latest key record hrecord
      exact ⟨rfl, rfl, hlatest.snoc (hother hne) (hunsettled _ _)⟩

/-- A resolution keeps the disputes of every subject in order. -/
theorem DisputesOk.settled {history : List Move} {t : Move} {x : Address} {k : Symbol}
    (h : DisputesOk t.before.state history subject) (hcall : t.event.call = .resolveDispute x k accepted)
    (hsettled : Settled t.event.env t.before.state x k accepted t.after.state) :
    DisputesOk t.after.state (history ++ [t]) subject := by
  obtain ⟨old, hold, hpending, hdispute⟩ := hsettled.pending
  have hunfiled (y : Address) (key : Symbol) : ¬Files y key t := by
    rintro ⟨reason, hfiles⟩
    cases hfiles.symm.trans hcall
  have hother {y : Address} {key : Symbol} (hne : (y, key) ≠ (x, k)) (accepted' : Bool) :
      ¬Settles y key accepted' t := by
    intro hsettles
    obtain ⟨rfl, rfl, -⟩ := Call.resolveDispute.inj (hsettles.symm.trans hcall)
    exact hne rfl
  have hkeys : disputedKeys t.after.state subject = disputedKeys t.before.state subject := by
    rw [hsettled.inputs]
    rfl
  refine ⟨?_, ?_, ?_⟩
  · rw [hkeys, everDisputed_snoc, hcall, h.keys]
    rfl
  · intro key hkey
    rw [hdispute, Storage.set_apply]
    split
    · exact ⟨_, rfl⟩
    · exact h.stored key (hkeys ▸ hkey)
  · intro key record hrecord
    rw [hdispute, Storage.set_apply] at hrecord
    split at hrecord
    case isTrue hsame =>
      obtain ⟨rfl, rfl⟩ := Prod.mk.inj hsame
      obtain rfl := Option.some.inj hrecord
      obtain ⟨hsubject, hinputKey, hlatest⟩ := h.latest key old hold
      refine ⟨hsubject, hinputKey, hlatest.settled hpending ?_⟩
      rw [hsubject, hinputKey]
      exact hcall
    case isFalse hne =>
      obtain ⟨rfl, rfl, hlatest⟩ := h.latest key record hrecord
      exact ⟨rfl, rfl, hlatest.snoc (hunfiled _ _) (hother hne)⟩

/-- A call about anything else keeps the disputes of every subject in order. -/
theorem DisputesOk.untouched {history : List Move} {t : Move} (h : DisputesOk t.before.state history subject)
    (hfiled : ∀ x k reason, t.event.call ≠ .flagScoreInput x k reason)
    (hsettled : ∀ x k accepted, t.event.call ≠ .resolveDispute x k accepted)
    (hdispute : t.after.state.dispute = t.before.state.dispute)
    (hindex : t.after.state.disputeIndex = t.before.state.disputeIndex) :
    DisputesOk t.after.state (history ++ [t]) subject := by
  have hkeys : disputedKeys t.after.state subject = disputedKeys t.before.state subject := by
    unfold disputedKeys
    rw [hindex]
  have hnone : t.event.call.disputedBy subject = none := by
    cases hother : t.event.call with
    | flagScoreInput x k reason => exact absurd hother (hfiled x k reason)
    | _ => rfl
  refine ⟨?_, ?_, ?_⟩
  · rw [hkeys, everDisputed_snoc, hnone, h.keys]
    rfl
  · intro key hkey
    rw [hdispute]
    exact h.stored key (hkeys ▸ hkey)
  · intro key record hrecord
    rw [hdispute] at hrecord
    obtain ⟨hsubject, hinputKey, hlatest⟩ := h.latest key record hrecord
    refine ⟨hsubject, hinputKey, hlatest.snoc ?_ ?_⟩
    · rintro ⟨reason, hfiles⟩
      exact hfiled _ _ _ hfiles
    · exact fun accepted hsettles => hsettled _ _ _ hsettles

/-- Every step keeps the disputes of every subject in order. -/
theorem DisputesOk.step {history : List Move} {t : Move} (h : DisputesOk t.before.state history subject)
    (hstep : DisputeStep t.event.env t.before.state t.after.state t.event.call) :
    DisputesOk t.after.state (history ++ [t]) subject := by
  generalize hcall : t.event.call = call at hstep
  cases hstep with
  | filed hfiled => exact h.filed hcall hfiled
  | settled hsettled => exact h.settled hcall hsettled
  | untouched hfiled hsettled hdispute hindex =>
    rw [← hcall] at hfiled hsettled
    exact h.untouched hfiled hsettled hdispute hindex

/-! ## Every run -/

variable {ledger : Ledger} {history : List Move} {final : Config}

/-- The disputes of every subject are in order in every run. -/
theorem disputesOk_of_run (hrun : Run (StepOf Config.next) (.fresh ledger) history final) (subject : Address) :
    DisputesOk final.state history subject := by
  induction hrun with
  | nil => exact ⟨rfl, fun _ hkey => absurd hkey List.not_mem_nil, fun _ _ hrecord => by cases hrecord⟩
  | @snoc history c e c' _ hstep ih =>
    exact DisputesOk.step (t := ⟨c, e, c'⟩) ih (exec_disputes (Config.step_iff.mp hstep).2.2)

/-- A list of records that are all there is as long as the list of their keys. -/
theorem filterMap_map_key {lookup : Symbol → Option DisputeRecord} {keys : List Symbol}
    (hstored : ∀ key ∈ keys, ∃ record, lookup key = some record)
    (hkey : ∀ key record, lookup key = some record → record.inputKey = key) :
    (keys.filterMap lookup).map (·.inputKey) = keys := by
  induction keys with
  | nil => rfl
  | cons key rest ih =>
    obtain ⟨record, hrecord⟩ := hstored key List.mem_cons_self
    have hrest := ih fun other hother => hstored other (List.mem_cons_of_mem _ hother)
    rw [List.filterMap_cons_some hrecord, List.map_cons, hkey key record hrecord, hrest]

/-- In every run a dispute is opened by a filing of its subject about a recognised input and closed
by a resolution of the admin, and stays as it is in between; what happens to a dispute changes
nothing but the disputes; and the list of a subject has for each input that it ever disputed the
record of the latest filing, in the order of the first filings. -/
theorem dispute_life_cycle (hrun : Run (StepOf Config.next) (.fresh ledger) history final) :
    (∀ t ∈ history, ∀ subject inputKey,
      (¬Pending t.before.state subject inputKey → Pending t.after.state subject inputKey →
        Files subject inputKey t ∧ t.event.env.Authorized subject ∧ inputKey ∈ inputKeys) ∧
      (Pending t.before.state subject inputKey → ¬Pending t.after.state subject inputKey →
        ∃ accepted admin, Settles subject inputKey accepted t ∧ t.before.state.admin = some admin ∧
          t.event.env.Authorized admin) ∧
      (∀ record, t.before.state.dispute (subject, inputKey) = some record → record.status = .pending →
        ∃ status, t.after.state.dispute (subject, inputKey) = some { record with status }) ∧
      ((Files subject inputKey t ∨ ∃ accepted, Settles subject inputKey accepted t) →
        ∃ dispute disputeIndex, t.after.state = { t.before.state with dispute, disputeIndex })) ∧
    ∀ subject,
      (listDisputes final.state subject).map (·.inputKey) = everDisputed subject history ∧
      (everDisputed subject history).Nodup ∧
      (∀ inputKey, inputKey ∈ everDisputed subject history ↔ ∃ t ∈ history, Files subject inputKey t) ∧
      ∀ record ∈ listDisputes final.state subject, record.subject = subject ∧ LatestDispute history record ∧
        getDispute final.state subject record.inputKey = some record := by
  refine ⟨?_, ?_⟩
  · intro t ht subject inputKey
    have hstep := exec_disputes (Config.step_iff.mp (hrun.step_of_mem ht)).2.2
    refine ⟨hstep.opens, ?_, ?_, ?_⟩
    · rintro ⟨record, hrecord, hpending⟩ hclosed
      rcases hstep.keeps hrecord hpending with hsame | ⟨accepted, admin, hcall, hadmin, hauth, -⟩
      · exact absurd ⟨record, hsame, hpending⟩ hclosed
      · exact ⟨accepted, admin, hcall, hadmin, hauth⟩
    · intro record hrecord hpending
      rcases hstep.keeps hrecord hpending with hsame | ⟨accepted, admin, -, -, -, hsettled⟩
      · exact ⟨record.status, hsame⟩
      · exact ⟨outcomeStatus accepted, hsettled⟩
    · intro hdispute
      generalize hcall : t.event.call = call at hstep
      cases hstep with
      | filed hfiled => exact ⟨_, _, hfiled.inputs⟩
      | settled hsettled => exact ⟨_, _, hsettled.inputs⟩
      | untouched hfiled hsettled =>
        rcases hdispute with ⟨reason, hfiles⟩ | ⟨accepted, hsettles⟩
        · exact absurd (hcall.symm.trans hfiles) (hfiled _ _ _)
        · exact absurd (hcall.symm.trans hsettles) (hsettled _ _ _)
  · intro subject
    have hok := disputesOk_of_run hrun subject
    have hlisted : listDisputes final.state subject =
        (disputedKeys final.state subject).filterMap fun key => final.state.dispute (subject, key) := rfl
    refine ⟨?_, nodup_foldl_enlist _ List.nodup_nil, ?_, ?_⟩
    · rw [hlisted, filterMap_map_key hok.stored fun key record hrecord => (hok.latest key record hrecord).2.1,
        hok.keys]
    · intro inputKey
      rw [everDisputed, mem_foldl_enlist, List.mem_filterMap]
      constructor
      · rintro (hnil | ⟨t, ht, hdisputed⟩)
        · exact absurd hnil List.not_mem_nil
        · exact ⟨t, ht, files_iff.mpr hdisputed⟩
      · rintro ⟨t, ht, hfiles⟩
        exact Or.inr ⟨t, ht, files_iff.mp hfiles⟩
    · intro record hmem
      rw [hlisted, List.mem_filterMap] at hmem
      obtain ⟨key, -, hrecord⟩ := hmem
      obtain ⟨hsubject, rfl, hlatest⟩ := hok.latest key record hrecord
      exact ⟨hsubject, hlatest, hrecord⟩

/-- A dispute is filed, rejected and filed again, after another one. -/
def sampleDisputes : List Event :=
  [ sampleEvent 0 (.initializeContract (.account 1)),
    sampleEvent 1 (.flagScoreInput (.account 1) "tx_stats" []),
    sampleEvent 2 (.flagScoreInput (.account 1) "vc_count" []),
    sampleEvent 3 (.resolveDispute (.account 1) "tx_stats" false),
    sampleEvent 4 (.flagScoreInput (.account 1) "tx_stats" [100]) ]

/-- Two keys, of which the first is disputed twice. -/
theorem dispute_life_cycle_sample :
    ∃ history final, Run (StepOf Config.next) (.fresh (.numbered 0)) history final ∧
      (listDisputes final.state (.account 1)).map (fun record => (record.inputKey, record.filedAtLedger)) =
        [("tx_stats", 4), ("vc_count", 2)] ∧
      everDisputed (.account 1) history = ["tx_stats", "vc_count"] ∧
      ∀ record ∈ listDisputes final.state (.account 1), LatestDispute history record := by
  obtain ⟨history, final, hrun, hlisted⟩ := Run.exists_of_replay
    (show (replay Config.next (.fresh (.numbered 0)) sampleDisputes).map (fun r =>
      (listDisputes r.2.state (.account 1)).map (fun record => (record.inputKey, record.filedAtLedger))) =
      some [("tx_stats", 4), ("vc_count", 2)] from by decide +kernel)
  obtain ⟨hkeys, -, -, hlatest⟩ := (dispute_life_cycle hrun).2 (.account 1)
  have hfirst := congrArg (List.map Prod.fst) hlisted
  rw [List.map_map] at hfirst
  exact ⟨history, final, hrun, hlisted, hkeys.symm.trans hfirst, fun record hmem => (hlatest record hmem).2.1⟩

end StellarDidCredit.CreditOracle
