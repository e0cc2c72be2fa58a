import Mathlib.Data.List.Induction
import StellarDidCredit.Lib.Storage
import StellarDidCredit.Soroban.Events

/-!
# What the feeder does with an event

A `VCAnch` event makes the feeder remember its subject under the hash and sync the subject. A
`Revoked` event carries only the hash, so the feeder syncs the subject remembered under it. One
subject is remembered for each hash, so of several holders only the last one is synced.
-/

namespace StellarDidCredit.Feeder

/-- The two kinds of event that the feeder polls for. -/
inductive Topic
  | vcAnch
  | revoked
  deriving DecidableEq, Repr

/-- The subject and the hash in the data of a `VCAnch` event, when both are there. -/
def anchoredOf : EventValue → Option (Address × List UInt8)
  | .vec (some (_ :: .address subject :: .bytes hash :: _)) => if hash = [] then none else some (subject, hash)
  | _ => none

/-- The hash in the data of a `Revoked` event, when it is there. -/
def revokedOf : EventValue → Option (List UInt8)
  | .vec (some (_ :: .bytes hash :: _)) => if hash = [] then none else some hash
  | _ => none

/-- The subjects remembered under the hashes, and the subjects `feedSubject` was called for. -/
structure Routing where
  hashToSubject : Storage (List UInt8) Address
  fed : List Address

namespace Routing

/-- The feeder before any event. -/
def initial : Routing := ⟨Storage.empty, []⟩

/-- Call `feedSubject`, for a configured subject only. -/
def feed (routing : Routing) (subjects : List Address) (subject : Address) : Routing :=
  if subject ∈ subjects then { routing with fed := routing.fed ++ [subject] } else routing

/-- The body of the loop over `VCAnch` events. -/
def handleAnchored (routing : Routing) (subjects : List Address) (value : EventValue) : Routing :=
  match anchoredOf value with
  | none => routing
  | some (subject, hash) =>
    { routing with hashToSubject := routing.hashToSubject.set hash subject }.feed subjects subject

/-- The body of the loop over `Revoked` events. -/
def handleRevoked (routing : Routing) (subjects : List Address) (value : EventValue) : Routing :=
  match revokedOf value with
  | none => routing
  | some hash =>
    match routing.hashToSubject hash with
    | none => routing
    | some subject => routing.feed subjects subject

/-- Handle one event of either kind. -/
def handle (subjects : List Address) (routing : Routing) : Topic × EventValue → Routing
  | (.vcAnch, value) => routing.handleAnchored subjects value
  | (.revoked, value) => routing.handleRevoked subjects value

/-- Handle events one after the other. -/
def process (subjects : List Address) (events : List (Topic × EventValue)) : Routing :=
  events.foldl (handle subjects) initial

/-- The calls of `feedSubject` while one more event is handled. -/
def fedBy (subjects : List Address) (routing : Routing) (event : Topic × EventValue) : List Address :=
  (handle subjects routing event).fed.drop routing.fed.length

end Routing

/-- The subject that an event anchored a hash to. -/
def anchoredTo (hash : List UInt8) : Topic × EventValue → Option Address
  | (.vcAnch, value) =>
    match anchoredOf value with
    | none => none
    | some (subject, anchored) => if anchored = hash then some subject else none
  | (.revoked, _) => none

/-- The subjects that events anchored a hash to, in the order of the events. -/
def holders (hash : List UInt8) (events : List (Topic × EventValue)) : List Address :=
  events.filterMap (anchoredTo hash)

namespace Routing

variable {subjects : List Address} {routing : Routing} {events : List (Topic × EventValue)} {hash : List UInt8}
  {subject : Address} {value : EventValue}

/-- A cycle leaves the table of hashes alone. -/
@[simp] theorem feed_hashToSubject : (routing.feed subjects subject).hashToSubject = routing.hashToSubject := by
  unfold feed
  split <;> rfl

/-- A configured subject is fed, and nobody else. -/
theorem feed_fed : (routing.feed subjects subject).fed =
    routing.fed ++ if subject ∈ subjects then [subject] else [] := by
  unfold feed
  split
  · rfl
  · rw [List.append_nil]

/-- One more event is handled last. -/
@[simp] theorem process_snoc (event : Topic × EventValue) :
    process subjects (events ++ [event]) = handle subjects (process subjects events) event := by
  rw [process, List.foldl_append]
  rfl

/-- An event changes what is remembered under a hash only by anchoring the hash to a subject. -/
theorem handle_hashToSubject (event : Topic × EventValue) :
    (handle subjects routing event).hashToSubject hash =
      (anchoredTo hash event).or (routing.hashToSubject hash) := by
  cases event with
  | mk topic value =>
    cases topic with
    | vcAnch =>
      simp only [handle, handleAnchored, anchoredTo]
      cases hanchored : anchoredOf value with
      | none => rfl
      | some anchored =>
        obtain ⟨holder, anchoredHash⟩ := anchored
        by_cases hhash : anchoredHash = hash
        · subst hhash
          simp
        · have hother : hash ≠ anchoredHash := fun h => hhash h.symm
          simp [hhash, Storage.set_of_ne _ _ hother]
    | revoked =>
      simp only [handle, handleRevoked, anchoredTo, Option.none_or]
      split
      · rfl
      · split
        · rfl
        · rw [feed_hashToSubject]

/-- The subject remembered under a hash is the last that the hash was anchored to. -/
theorem process_hashToSubject : (process subjects events).hashToSubject hash = (holders hash events).getLast? := by
  induction events using List.reverseRecOn with
  | nil => rfl
  | append_singleton events event ih =>
    rw [process_snoc, handle_hashToSubject, ih, holders, holders, List.filterMap_append]
    cases hevent : anchoredTo hash event with
    | none => simp [hevent]
    | some holder => simp [hevent]

/-- A revocation feeds the subject remembered under its hash, if that one is configured. -/
theorem mem_fedBy_revoked (hvalue : revokedOf value = some hash) :
    subject ∈ fedBy subjects routing (.revoked, value) ↔
      routing.hashToSubject hash = some subject ∧ subject ∈ subjects := by
  simp only [fedBy, handle, handleRevoked, hvalue]
  cases hholder : routing.hashToSubject hash with
  | none => simp
  | some holder =>
    rw [feed_fed, List.drop_left]
    by_cases hconfigured : holder ∈ subjects
    · rw [if_pos hconfigured, List.mem_singleton, Option.some.injEq]
      constructor
      · rintro rfl
        exact ⟨rfl, hconfigured⟩
      · rintro ⟨rfl, -⟩
        rfl
    · rw [if_neg hconfigured, Option.some.injEq]
      constructor
      · intro hnil
        exact absurd hnil List.not_mem_nil
      · rintro ⟨rfl, hin⟩
        exact absurd hin hconfigured

end Routing

/-- After any events, a revocation feeds every configured subject that the events anchored its
hash to exactly if each of these is the last subject the hash was anchored to. -/
theorem revocation_reaches_holders_iff (subjects : List Address) (earlier : List (Topic × EventValue))
    (value : EventValue) (hash : List UInt8) (hvalue : revokedOf value = some hash) :
    (∀ subject ∈ subjects, subject ∈ holders hash earlier →
      subject ∈ (Routing.process subjects earlier).fedBy subjects (.revoked, value)) ↔
    ∀ subject ∈ subjects, subject ∈ holders hash earlier → (holders hash earlier).getLast? = some subject := by
  apply forall₂_congr
  intro subject hconfigured
  rw [Routing.mem_fedBy_revoked hvalue, Routing.process_hashToSubject, and_iff_left hconfigured]

/-- The data of an anchoring of the hash `1`. -/
def sampleAnchoring (subject : Address) : EventValue :=
  .vec (some [.address (.account 9), .address subject, .bytes [1]])

/-- The data of a revocation of the hash `1`. -/
def sampleRevocation : EventValue := .vec (some [.address (.account 9), .bytes [1]])

/-- One configured subject holds the hash, so its revocation reaches it. -/
theorem revocation_reaches_holder_sample :
    Address.account 1 ∈ (Routing.process [.account 1] [(.vcAnch, sampleAnchoring (.account 1))]).fedBy
      [.account 1] (.revoked, sampleRevocation) := by
  have hreached := revocation_reaches_holders_iff [.account 1] [(.vcAnch, sampleAnchoring (.account 1))]
    sampleRevocation [1] (by decide)
  have hlast : ∀ subject ∈ [Address.account 1],
      subject ∈ holders [1] [(.vcAnch, sampleAnchoring (.account 1))] →
        (holders [1] [(.vcAnch, sampleAnchoring (.account 1))]).getLast? = some subject := by decide
  exact hreached.mpr hlast (.account 1) (by decide) (by decide)

/-- Two configured subjects hold one hash, and its revocation reaches only the later one. -/
theorem not_revocation_reaches_holders :
    ¬∀ (subjects : List Address) (earlier : List (Topic × EventValue)) (value : EventValue) (hash : List UInt8),
      revokedOf value = some hash → ∀ subject ∈ subjects, subject ∈ holders hash earlier →
        subject ∈ (Routing.process subjects earlier).fedBy subjects (.revoked, value) := by
  intro h
  have hreached := h [.account 1, .account 2]
    [(.vcAnch, sampleAnchoring (.account 1)), (.vcAnch, sampleAnchoring (.account 2))] sampleRevocation [1]
    (by decide) (.account 1) (by decide) (by decide)
  exact absurd hreached (by decide)

end StellarDidCredit.Feeder
