import Mathlib.Tactic.Common
import StellarDidCredit.Soroban.Events

/-!
# From events to callbacks

Each subscription of the SDK decodes the data of an event into the arguments of a callback. The
events of an answer are decoded and handed over one after the other, and an exception in the
middle is swallowed together with the rest of the answer.
-/

namespace StellarDidCredit.Sdk

/-! ## Decoding -/

/-- The components of the data of an event that is a tuple of the given length. -/
def parseEventTuple (value : EventValue) (eventName : Symbol) (expectedLength : ℕ) : Except String (List ScItem) :=
  let mismatch := eventName ++ " event data must be a tuple with " ++ toString expectedLength ++ " values"
  match value with
  | .vec items =>
    let native := items.getD []
    if native.length ≠ expectedLength then .error mismatch else .ok native
  | .other => .error mismatch

/-- The name of the event, or nothing when several are asked for and it is none of them. -/
def resolveEventName (event : ContractEvent) (eventNames : List Symbol) : Symbol :=
  match eventNames with
  | [eventName] => eventName
  | _ =>
    match event.topics with
    | [] => ""
    | topic :: _ => if topic ∈ eventNames then topic else ""

/-- The bytes of a component, `toBuffer`. -/
def toBuffer : ScItem → Except String (List UInt8)
  | .bytes data => .ok data
  | _ => .error "event data contains an invalid byte value"

/-- What a subscription makes of an event, `handleValue`: an exception, nothing, or the arguments
of the callback. -/
abbrev Handler (Args : Type) := EventValue → Symbol → Stamped ContractEvent → Except String (Option Args)

/-- The handler of `onVCAnchored`: issuer, subject and hash. Components that the SDK turns into
strings or numbers are kept as they are. -/
def onVCAnchored : Handler (ScItem × ScItem × List UInt8) := fun value _ _ => do
  let items ← parseEventTuple value "VCAnch" 3
  let vcHash ← toBuffer (items.getD 2 .other)
  .ok (some (items.getD 0 .other, items.getD 1 .other, vcHash))

/-- The handler of `onScoreComputed`: subject and score. -/
def onScoreComputed : Handler (ScItem × ScItem) := fun value _ _ => do
  let items ← parseEventTuple value "Score" 2
  .ok (some (items.getD 0 .other, items.getD 1 .other))

/-- The handler of `onVCRevoked`: issuer and hash. -/
def onVCRevoked : Handler (ScItem × List UInt8) := fun value _ _ => do
  let items ← parseEventTuple value "Revoked" 2
  let vcHash ← toBuffer (items.getD 1 .other)
  .ok (some (items.getD 0 .other, vcHash))

/-- The state of a dispute, as the topic of its event tells it. -/
inductive DisputeStatus
  | pending
  | resolved
  | rejected
  deriving DecidableEq, Repr

/-- `DISPUTE_EVENT_STATUS`. -/
def disputeEventStatus (eventName : Symbol) : Option DisputeStatus :=
  if eventName = "DsptFild" then some .pending
  else if eventName = "DsptRslv" then some .resolved
  else if eventName = "DsptRjct" then some .rejected
  else none

/-- The handler of `subscribeToDisputeEvents`, which sets the events of other subjects aside. -/
def subscribeToDisputeEvents (subject : Address) : Handler (Symbol × ScItem × ScItem × DisputeStatus) :=
  fun value eventName _ =>
    match disputeEventStatus eventName with
    | none => .ok none
    | some status => do
      let items ← parseEventTuple value eventName 2
      let eventSubject := items.getD 0 .other
      .ok (if eventSubject = .address subject then
        some (eventName, eventSubject, items.getD 1 .other, status) else none)

/-- The handler of `subscribeToScoreEvents`: subject, score and ledger. -/
def subscribeToScoreEvents : Handler (ScItem × ScItem × ℕ) := fun value _ rawEvent => do
  let items ← parseEventTuple value "Score" 2
  .ok (some (items.getD 0 .other, items.getD 1 .other, rawEvent.time))

/-! ## Delivering -/

/-- How the callback ends. -/
inductive Reaction
  | returns
  | throws
  /-- It calls the unsubscribe function. -/
  | unsubscribes
  deriving DecidableEq, Repr

/-- An event with the arguments that the callback was given for it. -/
abbrev Delivery (Args : Type) := Stamped ContractEvent × Args

/-- A callback, which may remember what it was given before. -/
abbrev Callback (Args : Type) := List (Delivery Args) → Args → Reaction

section Deliver

variable {Args : Type} (handle : Stamped ContractEvent → Except String (Option Args)) (callback : Callback Args)

/-- The loop over the events of an answer: what was delivered by its end, and whether the
subscription is still active. -/
def deliver (delivered : List (Delivery Args)) : Bool → List (Stamped ContractEvent) → List (Delivery Args) × Bool
  | active, [] => (delivered, active)
  | false, _ :: _ => (delivered, false)
  | true, event :: rest =>
    match handle event with
    | .error _ => (delivered, true)
    | .ok none => deliver delivered true rest
    | .ok (some args) =>
      match callback delivered args with
      | .returns => deliver (delivered ++ [(event, args)]) true rest
      | .throws => (delivered ++ [(event, args)], true)
      | .unsubscribes => deliver (delivered ++ [(event, args)]) false rest

/-- An event that is meant for the callback. -/
def wanted (event : Stamped ContractEvent) : Bool :=
  match handle event with
  | .ok none => false
  | _ => true

/-- No event is malformed, and the callback does not throw as long as more events are meant for it. -/
def Uninterrupted (delivered : List (Delivery Args)) : List (Stamped ContractEvent) → Prop
  | [] => True
  | event :: rest =>
    match handle event with
    | .error _ => False
    | .ok none => Uninterrupted delivered rest
    | .ok (some args) =>
      match callback delivered args with
      | .returns => Uninterrupted (delivered ++ [(event, args)]) rest
      | .throws => ∀ later ∈ rest, wanted handle later = false
      | .unsubscribes => True

variable {handle callback} {delivered : List (Delivery Args)} {events : List (Stamped ContractEvent)}

/-- Where no event is meant for the callback, none is left. -/
theorem filter_wanted_eq_nil (h : ∀ event ∈ events, wanted handle event = false) :
    events.filter (wanted handle) = [] :=
  List.filter_eq_nil_iff.mpr fun event hevent => Bool.eq_false_iff.mp (h event hevent)

/-- Nothing is delivered after the end of the subscription. -/
theorem deliver_inactive : deliver handle callback delivered false events = (delivered, false) := by
  cases events <;> rfl

/-- A loop without an interruption delivers every event that is meant for the callback. -/
theorem deliver_of_uninterrupted (h : Uninterrupted handle callback delivered events)
    (hactive : (deliver handle callback delivered true events).2 = true) :
    (deliver handle callback delivered true events).1.map Prod.fst =
      delivered.map Prod.fst ++ events.filter (wanted handle) := by
  induction events generalizing delivered with
  | nil => simp [deliver]
  | cons event rest ih =>
    cases hevent : handle event with
    | error message => simp only [Uninterrupted, hevent] at h
    | ok result =>
      cases result with
      | none =>
        have hother : wanted handle event = false := by simp only [wanted, hevent]
        simp only [deliver, Uninterrupted, hevent] at h hactive ⊢
        rw [ih h hactive, List.filter_cons_of_neg (by rw [hother]; exact Bool.false_ne_true)]
      | some args =>
        have hmine : wanted handle event = true := by simp only [wanted, hevent]
        rw [List.filter_cons_of_pos hmine]
        cases hreaction : callback delivered args with
        | returns =>
          simp only [deliver, Uninterrupted, hevent, hreaction] at h hactive ⊢
          rw [ih h hactive]
          simp
        | throws =>
          simp only [deliver, Uninterrupted, hevent, hreaction] at h ⊢
          rw [filter_wanted_eq_nil h]
          simp
        | unsubscribes =>
          simp only [deliver, hevent, hreaction, deliver_inactive] at hactive
          exact absurd hactive Bool.false_ne_true

variable (handle callback delivered events) in
/-- The loop delivers no more than the events that are meant for the callback. -/
theorem deliver_length_le (active : Bool) :
    (deliver handle callback delivered active events).1.length ≤
      delivered.length + (events.filter (wanted handle)).length := by
  induction events generalizing delivered active with
  | nil => exact Nat.le_add_right _ _
  | cons event rest ih =>
    cases active with
    | false => exact Nat.le_add_right _ _
    | true =>
      cases hevent : handle event with
      | error message =>
        simp only [deliver, hevent]
        exact Nat.le_add_right _ _
      | ok result =>
        cases result with
        | none =>
          have hother : wanted handle event = false := by simp only [wanted, hevent]
          simp only [deliver, hevent, List.filter_cons, hother, Bool.false_eq_true, if_false]
          exact ih delivered true
        | some args =>
          have hmine : wanted handle event = true := by simp only [wanted, hevent]
          have hrest := ih (delivered ++ [(event, args)])
          simp only [List.length_append, List.length_singleton] at hrest
          rw [List.filter_cons_of_pos hmine, List.length_cons]
          cases hreaction : callback delivered args with
          | returns =>
            simp only [deliver, hevent, hreaction]
            exact (hrest true).trans (by omega)
          | throws =>
            simp only [deliver, hevent, hreaction, List.length_append, List.length_singleton]
            omega
          | unsubscribes =>
            simp only [deliver, hevent, hreaction]
            exact (hrest false).trans (by omega)

/-- A loop with an interruption delivers less. -/
theorem deliver_of_interrupted (h : ¬Uninterrupted handle callback delivered events) :
    (deliver handle callback delivered true events).1.length <
      delivered.length + (events.filter (wanted handle)).length := by
  induction events generalizing delivered with
  | nil => exact absurd trivial h
  | cons event rest ih =>
    cases hevent : handle event with
    | error message =>
      have hmine : wanted handle event = true := by simp only [wanted, hevent]
      rw [List.filter_cons_of_pos hmine, List.length_cons]
      simp only [deliver, hevent]
      omega
    | ok result =>
      cases result with
      | none =>
        have hother : wanted handle event = false := by simp only [wanted, hevent]
        simp only [Uninterrupted, hevent] at h
        simp only [deliver, hevent, List.filter_cons, hother, Bool.false_eq_true, if_false]
        exact ih h
      | some args =>
        have hmine : wanted handle event = true := by simp only [wanted, hevent]
        rw [List.filter_cons_of_pos hmine, List.length_cons]
        cases hreaction : callback delivered args with
        | returns =>
          simp only [Uninterrupted, hevent, hreaction] at h
          have hrest := ih h
          rw [List.length_append, List.length_singleton] at hrest
          simp only [deliver, hevent, hreaction]
          omega
        | throws =>
          -- some event after the exception was meant for the callback
          simp only [Uninterrupted, hevent, hreaction, not_forall] at h
          obtain ⟨later, hlater, hwanted⟩ := h
          have hsome : 0 < (rest.filter (wanted handle)).length :=
            List.length_pos_of_mem (List.mem_filter.mpr ⟨hlater, Bool.eq_true_of_not_eq_false hwanted⟩)
          simp only [deliver, hevent, hreaction, List.length_append, List.length_singleton]
          omega
        | unsubscribes =>
          simp only [Uninterrupted, hevent, hreaction, not_true_eq_false] at h

end Deliver

end StellarDidCredit.Sdk
