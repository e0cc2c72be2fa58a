import Mathlib.Data.Finset.Insert
import StellarDidCredit.Lib.Storage
import StellarDidCredit.Feeder.Horizon

/-!
# One cycle of the feeder

`runCycle` calls `feedSubject` for one configured subject after the other and keeps count of the calls
that throw. A call that returns is counted as a success, whichever of its paths it returned on. What
the steps of a call are answered, and when the signal is aborted, is given with the cycle.
-/

namespace StellarDidCredit.Feeder.Cycle

/-- The settings that a cycle reads. The constructor refuses a threshold of zero. -/
structure Config where
  subjects : List Address
  maxConsecutiveFailures : ℕ
  threshold_pos : 0 < maxConsecutiveFailures
  skipLegacyVcCount : Bool
  allowPartialStats : Bool

/-! ## A call of `feedSubject` -/

/-- How the fetch of the statistics ends, with its retries. -/
inductive Fetch
  | stats (isPartial : Bool)
  | rateLimit
  | fails
  deriving DecidableEq, Repr

/-- What the steps of a call are answered, after their retries. -/
structure Answers where
  /-- The credential count is read. -/
  vcCount : Bool
  horizon : Fetch
  /-- The values that were read are those of the last sync. -/
  unchanged : Bool
  /-- Whether an identity oracle is configured, if that is read. -/
  identityOracle : Option Bool
  /-- `set_vc_count` is submitted and confirmed. -/
  setVcCount : Bool
  /-- `update_tx_stats` is submitted and confirmed. -/
  updateTxStats : Bool
  /-- The first check of the signal that finds it aborted, if it is aborted before the next subject. -/
  abortedAt : Option ℕ
  deriving DecidableEq

/-- A check of the signal finds it aborted. -/
def Answers.aborted (answers : Answers) (check : ℕ) : Bool := answers.abortedAt.any (· ≤ check)

/-- How a call ends. -/
inductive FeedResult
  | synced
  | unchanged
  | rateLimited
  | aborted
  | partialSkipped
  | thrown
  deriving DecidableEq, Repr

/-- The path of a call of `feedSubject`. -/
def feedSubject (config : Config) (answers : Answers) : FeedResult :=
  if answers.vcCount = false then .thrown
  else if answers.aborted 1 then .aborted
  else
    match answers.horizon with
    | .fails => .thrown
    | .rateLimit => .rateLimited
    | .stats isPartial =>
      if answers.aborted 2 then .aborted
      else if answers.unchanged then .unchanged
      else
        match answers.identityOracle with
        | none => .thrown
        | some identityOracleConfigured =>
          if (identityOracleConfigured || config.skipLegacyVcCount) = false ∧ answers.setVcCount = false then
            .thrown
          else if answers.aborted 3 then .aborted
          else if isPartial = true ∧ config.allowPartialStats = false then .partialSkipped
          else if answers.updateTxStats then .synced
          else .thrown

/-! ## The loop over the subjects -/

/-- What the feeder keeps about failures. -/
structure State where
  failureCounts : Storage Address ℕ
  deadLetterSubjects : Finset Address

/-- A feeder that starts. -/
def State.initial : State := ⟨Storage.empty, ∅⟩

/-- The bookkeeping after a call. -/
def State.record (config : Config) (state : State) (subject : Address) : FeedResult → State
  | .thrown =>
    let next := (state.failureCounts subject).getD 0 + 1
    { failureCounts := state.failureCounts.set subject next
      deadLetterSubjects :=
        if config.maxConsecutiveFailures ≤ next then insert subject state.deadLetterSubjects
        else state.deadLetterSubjects }
  | _ =>
    { failureCounts := state.failureCounts.remove subject
      deadLetterSubjects := state.deadLetterSubjects.erase subject }

/-- A cycle: the answers to each of its calls, and whether the signal is aborted before it. -/
structure Event where
  answers : ℕ → Answers
  aborted : Bool

/-- The loop of `runCycle`, with the number of calls so far and the signal. -/
def runCycle.loop (config : Config) (answers : ℕ → Answers) : List Address → ℕ → Bool → State → State
  | [], _, _, state => state
  | subject :: subjects, calls, aborted, state =>
    if aborted then state
    else
      let result := feedSubject config (answers calls)
      loop config answers subjects (calls + 1) (answers calls).abortedAt.isSome (state.record config subject result)

/-- The subjects with a valid address. -/
def validSubjects (config : Config) : List Address := config.subjects.filter isValidStellarAddress

/-- One cycle over all valid subjects. -/
def runCycle (config : Config) (state : State) (event : Event) : State :=
  runCycle.loop config event.answers (validSubjects config) 0 event.aborted state

/-- Cycles do not overlap: the next one is started when the last one is over. -/
def next (config : Config) (state : State) (event : Event) : Option State := some (runCycle config state event)

end StellarDidCredit.Feeder.Cycle
