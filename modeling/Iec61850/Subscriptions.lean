import Iec61850.GoText
import Iec61850.LiveRegistry
import Iec61850.StepRuns
import Mathlib.Data.Finset.Erase
import Mathlib.Data.Finset.Insert

/-!
# Subscriptions of GOOSE and SV receivers

A receiver keeps the callback ids of its subscribers, and a global map leads
from an id to the handler.  The two kinds of receivers have each their own map
and their own functions, which do the same.
-/

namespace Iec61850.Mms

open Go Registry Transition

/-- What the receivers read of a subscriber. -/
structure SubscriberKind (Subscriber Handler : Type) where
  callbackID : Subscriber → UInt64
  handler : Subscriber → Handler

/-- An entry of the map `callbackRefs`. -/
structure CallbackRef (Subscriber Handler : Type) where
  handler : Handler
  subscriber : Subscriber

/-- The ids of the subscribers; `nil` after `Destroy`. -/
structure Receiver where
  refs : Option (Finset UInt64) := some ∅

structure Receivers (Subscriber Handler : Type) where
  receivers : ℕ → Option Receiver := fun _ => none
  callbackRefs : UInt64 → Option (CallbackRef Subscriber Handler) := fun _ => none

inductive ReceiverCall (Subscriber : Type)
  | newReceiver (r : ℕ)
  | addSubscriber (r : ℕ) (subscriber : Subscriber)
  | removeSubscriber (r : ℕ) (subscriber : Subscriber)
  | destroy (r : ℕ)

variable {Subscriber Handler : Type} (kind : SubscriberKind Subscriber Handler)

namespace Receivers

def setReceiver (s : Receivers Subscriber Handler) (r : ℕ) (receiver : Receiver) :
    ℕ → Option Receiver :=
  Function.update s.receivers r (some receiver)

/-- Writing to the ids of a destroyed receiver panics. -/
def addSubscriber (s : Receivers Subscriber Handler) (r : ℕ) (receiver : Receiver)
    (subscriber : Subscriber) : Option (Receivers Subscriber Handler) :=
  receiver.refs.map fun refs =>
    { callbackRefs := Function.update s.callbackRefs (kind.callbackID subscriber)
        (some ⟨kind.handler subscriber, subscriber⟩)
      receivers := s.setReceiver r ⟨some (insert (kind.callbackID subscriber) refs)⟩ }

/-- Deleting from the ids of a destroyed receiver does nothing. -/
def removeSubscriber (s : Receivers Subscriber Handler) (r : ℕ) (receiver : Receiver)
    (subscriber : Subscriber) : Receivers Subscriber Handler where
  callbackRefs := discard (· = kind.callbackID subscriber) s.callbackRefs
  receivers := s.setReceiver r ⟨receiver.refs.map (·.erase (kind.callbackID subscriber))⟩

def destroy (s : Receivers Subscriber Handler) (r : ℕ) (receiver : Receiver) :
    Receivers Subscriber Handler where
  callbackRefs := discard (· ∈ receiver.refs.getD ∅) s.callbackRefs
  receivers := s.setReceiver r ⟨none⟩

/-- The callback that the library makes for a frame. -/
def dispatch (s : Receivers Subscriber Handler) (parameter : UInt64) :
    Option (CallbackRef Subscriber Handler) :=
  s.callbackRefs parameter

end Receivers

/-- The id is among those of a receiver that is not destroyed. -/
def Attached (receivers : ℕ → Option Receiver) (r : ℕ) (id : UInt64) : Prop :=
  ∃ receiver refs, receivers r = some receiver ∧ receiver.refs = some refs ∧ id ∈ refs

/-- A call on a receiver that has been created; a new receiver is none of those. -/
def receiverStep (s : Receivers Subscriber Handler) :
    ReceiverCall Subscriber → Option (Receivers Subscriber Handler)
  | .newReceiver r =>
      match s.receivers r with
      | some _ => none
      | none => some { s with receivers := s.setReceiver r {} }
  | .addSubscriber r subscriber =>
      (s.receivers r).bind fun receiver => s.addSubscriber kind r receiver subscriber
  | .removeSubscriber r subscriber =>
      (s.receivers r).map fun receiver => s.removeSubscriber kind r receiver subscriber
  | .destroy r => (s.receivers r).map fun receiver => s.destroy r receiver

/-- A frame for an attached subscriber finds its handler, and no other frame
finds one. -/
structure DispatchesAttached (s : Receivers Subscriber Handler) : Prop where
  live : Live (Attached s.receivers) s.callbackRefs
  finds : ∀ r id, Attached s.receivers r id → ∃ subscriber, kind.callbackID subscriber = id ∧
    s.dispatch id = some ⟨kind.handler subscriber, subscriber⟩

/-- What is removed from one receiver, or destroyed with it, is attached to no
other. -/
def KeepsShared (s : Receivers Subscriber Handler) : ReceiverCall Subscriber → Prop
  | .removeSubscriber r subscriber =>
      ∀ r', r' ≠ r → ¬ Attached s.receivers r' (kind.callbackID subscriber)
  | .destroy r => ∀ id, Attached s.receivers r id →
      ∀ r', r' ≠ r → ¬ Attached s.receivers r' id
  | _ => True

/-! ## GOOSE -/

structure SubscriberConf (Handler : Type) where
  reportHandler : Handler

structure GooseSubscriber (Handler : Type) where
  conf : SubscriberConf Handler
  handlerID : UInt64

def gooseKind (Handler : Type) : SubscriberKind (GooseSubscriber Handler) Handler where
  callbackID subscriber := subscriber.handlerID
  handler subscriber := subscriber.conf.reportHandler

abbrev GooseReceivers (Handler : Type) := Receivers (GooseSubscriber Handler) Handler

/-- `AddSubscriber`, `RemoveSubscriber` and `Destroy` of `GooseReceiver`. -/
def gooseReceiverStep {Handler : Type} (s : GooseReceivers Handler) :
    ReceiverCall (GooseSubscriber Handler) → Option (GooseReceivers Handler) :=
  receiverStep (gooseKind Handler) s

/-! ## Sampled values -/

structure SvSubscriberConf (Handler : Type) where
  handler : Handler

structure SvSubscriber (Handler : Type) where
  callbackID : UInt64
  conf : SvSubscriberConf Handler

def svKind (Handler : Type) : SubscriberKind (SvSubscriber Handler) Handler where
  callbackID subscriber := subscriber.callbackID
  handler subscriber := subscriber.conf.handler

abbrev SvReceivers (Handler : Type) := Receivers (SvSubscriber Handler) Handler

/-- `AddSubscriber`, `RemoveSubscriber` and `Destroy` of `SvReceiver`. -/
def svReceiverStep {Handler : Type} (s : SvReceivers Handler) :
    ReceiverCall (SvSubscriber Handler) → Option (SvReceivers Handler) :=
  receiverStep (svKind Handler) s

/-! ## One receiver changes -/

section Update

variable {receivers : ℕ → Option Receiver} {r : ℕ} {receiver : Receiver}

theorem attached_update (receiver' : Receiver) (r' : ℕ) (id : UInt64) :
    Attached (Function.update receivers r (some receiver')) r' id ↔
      if r' = r then ∃ refs, receiver'.refs = some refs ∧ id ∈ refs
      else Attached receivers r' id := by
  unfold Attached
  by_cases hr : r' = r
  · subst hr
    simp
  · rw [if_neg hr, Function.update_of_ne hr]

theorem attached_iff_of_eq (hreceiver : receivers r = some receiver) (id : UInt64) :
    Attached receivers r id ↔ ∃ refs, receiver.refs = some refs ∧ id ∈ refs := by
  unfold Attached
  simp [hreceiver]

theorem attached_update_new (hnew : receivers r = none) (r' : ℕ) (id : UInt64) :
    Attached receivers r' id ↔ Attached (Function.update receivers r (some {})) r' id := by
  rw [attached_update]
  split
  next hr =>
    subst hr
    constructor
    · rintro ⟨receiver, refs, hsome, -⟩
      rw [hnew] at hsome
      cases hsome
    · rintro ⟨refs, hrefs, hid⟩
      obtain rfl := Option.some.inj hrefs
      simp at hid
  next => exact Iff.rfl

theorem attached_update_add (hreceiver : receivers r = some receiver) {refs : Finset UInt64}
    (hrefs : receiver.refs = some refs) (id : UInt64) (r' : ℕ) (id' : UInt64) :
    Attached (Function.update receivers r (some ⟨some (insert id refs)⟩)) r' id' ↔
      taken (Attached receivers) r id r' id' := by
  rw [attached_update]
  unfold taken
  by_cases hr : r' = r
  · subst hr
    simp [attached_iff_of_eq hreceiver, hrefs, or_comm]
  · simp [hr]

theorem attached_update_remove (hreceiver : receivers r = some receiver) (id : UInt64)
    (r' : ℕ) (id' : UInt64) :
    Attached (Function.update receivers r (some ⟨receiver.refs.map (·.erase id)⟩)) r' id' ↔
      givenUp (Attached receivers) (fun owner id' => owner = r ∧ id' = id) r' id' := by
  rw [attached_update]
  unfold givenUp
  by_cases hr : r' = r
  · subst hr
    cases hrefs : receiver.refs with
    | none => simp [attached_iff_of_eq hreceiver, hrefs]
    | some refs => simp [attached_iff_of_eq hreceiver, hrefs, and_comm]
  · simp [hr]

theorem attached_update_destroy (r' : ℕ) (id' : UInt64) :
    Attached (Function.update receivers r (some ⟨none⟩)) r' id' ↔
      givenUp (Attached receivers) (fun owner _ => owner = r) r' id' := by
  rw [attached_update]
  unfold givenUp
  by_cases hr : r' = r
  · simp [hr]
  · simp [hr]

end Update

/-! ## One call -/

section Step

variable {kind} {s s' : Receivers Subscriber Handler} {r : ℕ} {receiver : Receiver}

theorem live_removeSubscriber_iff (hs : Live (Attached s.receivers) s.callbackRefs)
    (hreceiver : s.receivers r = some receiver) (subscriber : Subscriber) :
    Live (Attached (s.removeSubscriber kind r receiver subscriber).receivers)
        (s.removeSubscriber kind r receiver subscriber).callbackRefs ↔
      ∀ r', r' ≠ r → ¬ Attached s.receivers r' (kind.callbackID subscriber) := by
  unfold Receivers.removeSubscriber Receivers.setReceiver
  rw [live_congr (attached_update_remove hreceiver _), hs.discard_iff]
  constructor
  · rintro ⟨hgone, -⟩ r' hr hattached
    exact hr (hgone _ rfl r' hattached).1
  · intro hothers
    constructor
    · rintro id rfl r' hattached
      by_contra hkept
      exact hothers r' (fun hr => hkept ⟨hr, rfl⟩) hattached
    · rintro id hid ⟨r', hattached⟩
      exact ⟨r', hattached, fun h => hid h.2⟩

theorem live_destroy_iff (hs : Live (Attached s.receivers) s.callbackRefs)
    (hreceiver : s.receivers r = some receiver) :
    Live (Attached (s.destroy r receiver).receivers) (s.destroy r receiver).callbackRefs ↔
      ∀ id, Attached s.receivers r id → ∀ r', r' ≠ r → ¬ Attached s.receivers r' id := by
  have hrefs (id : UInt64) : id ∈ receiver.refs.getD ∅ ↔ Attached s.receivers r id := by
    rw [attached_iff_of_eq hreceiver]
    cases receiver.refs with
    | none => simp
    | some refs => simp
  unfold Receivers.destroy Receivers.setReceiver
  rw [live_congr attached_update_destroy, hs.discard_iff]
  simp only [hrefs]
  constructor
  · rintro ⟨hgone, -⟩ id hown r' hr hattached
    exact hr (hgone id hown r' hattached)
  · intro hothers
    constructor
    · intro id hown r' hattached
      by_contra hr
      exact hothers id hown r' hr hattached
    · rintro id hid ⟨r', hattached⟩
      refine ⟨r', hattached, ?_⟩
      rintro rfl
      exact hid hattached

/-- After a call the global map still has exactly the attached ids if and only if
the call takes none from another receiver. -/
theorem live_receiverStep_iff {call : ReceiverCall Subscriber}
    (hs : Live (Attached s.receivers) s.callbackRefs)
    (hstep : receiverStep kind s call = some s') :
    Live (Attached s'.receivers) s'.callbackRefs ↔ KeepsShared kind s call := by
  cases call with
  | newReceiver r =>
      simp only [receiverStep] at hstep
      split at hstep
      next => cases hstep
      next hnew =>
        obtain rfl := Option.some.inj hstep
        exact iff_of_true ((live_congr (attached_update_new hnew)).mp hs) trivial
  | addSubscriber r subscriber =>
      obtain ⟨receiver, hreceiver, hadd⟩ := Option.bind_eq_some_iff.mp hstep
      obtain ⟨refs, hrefs, rfl⟩ := Option.map_eq_some_iff.mp hadd
      refine iff_of_true ?_ trivial
      have hholds := attached_update_add hreceiver hrefs (kind.callbackID subscriber)
      exact (live_congr hholds).mpr (hs.enter r _ _)
  | removeSubscriber r subscriber =>
      obtain ⟨receiver, hreceiver, rfl⟩ := Option.map_eq_some_iff.mp hstep
      exact live_removeSubscriber_iff hs hreceiver subscriber
  | destroy r =>
      obtain ⟨receiver, hreceiver, rfl⟩ := Option.map_eq_some_iff.mp hstep
      exact live_destroy_iff hs hreceiver

/-- An entry belongs to the subscriber with its id. -/
def EntriesOwned (kind : SubscriberKind Subscriber Handler)
    (callbackRefs : UInt64 → Option (CallbackRef Subscriber Handler)) : Prop :=
  ∀ id ref, callbackRefs id = some ref →
    kind.callbackID ref.subscriber = id ∧ ref.handler = kind.handler ref.subscriber

theorem EntriesOwned.discard {callbackRefs : UInt64 → Option (CallbackRef Subscriber Handler)}
    (h : EntriesOwned kind callbackRefs) (gone : UInt64 → Prop) [DecidablePred gone] :
    EntriesOwned kind (discard gone callbackRefs) := by
  intro id ref href
  unfold Registry.discard at href
  split at href
  next => cases href
  next => exact h id ref href

theorem entriesOwned_receiverStep {call : ReceiverCall Subscriber}
    (hs : EntriesOwned kind s.callbackRefs) (hstep : receiverStep kind s call = some s') :
    EntriesOwned kind s'.callbackRefs := by
  cases call with
  | newReceiver r =>
      simp only [receiverStep] at hstep
      split at hstep
      next => cases hstep
      next =>
        obtain rfl := Option.some.inj hstep
        exact hs
  | addSubscriber r subscriber =>
      obtain ⟨receiver, -, hadd⟩ := Option.bind_eq_some_iff.mp hstep
      obtain ⟨refs, -, rfl⟩ := Option.map_eq_some_iff.mp hadd
      intro id ref href
      by_cases hid : id = kind.callbackID subscriber
      · subst hid
        simp only [Function.update_self] at href
        obtain rfl := Option.some.inj href
        exact ⟨rfl, rfl⟩
      · simp only [Function.update_of_ne hid] at href
        exact hs id ref href
  | removeSubscriber r subscriber =>
      obtain ⟨receiver, -, rfl⟩ := Option.map_eq_some_iff.mp hstep
      exact hs.discard _
  | destroy r =>
      obtain ⟨receiver, -, rfl⟩ := Option.map_eq_some_iff.mp hstep
      exact hs.discard _

/-! ## Runs -/

theorem dispatchesAttached_of_reaches
    (hrun : Reaches (receiverStep kind) (KeepsShared kind) {} s) :
    DispatchesAttached kind s := by
  have hlive : Live (Attached s.receivers) s.callbackRefs :=
    hrun.invariant (live_empty fun r id ⟨receiver, refs, hreceiver, _⟩ => by cases hreceiver)
      fun s call s' hs hkeeps hstep => (live_receiverStep_iff hs hstep).mpr hkeeps
  have howned : EntriesOwned kind s.callbackRefs :=
    hrun.reachable.invariant (fun id ref href => by cases href)
      fun s call s' hs hstep => entriesOwned_receiverStep hs hstep
  refine ⟨hlive, fun r id hattached => ?_⟩
  obtain ⟨ref, href⟩ := Option.isSome_iff_exists.mp ((hlive id).mpr ⟨r, hattached⟩)
  obtain ⟨hid, hhandler⟩ := howned id ref href
  refine ⟨ref.subscriber, hid, ?_⟩
  rw [← hhandler]
  exact href

end Step

/-- In every state of every run that removes and destroys only what no other
receiver has, both kinds of receivers lead the frames of the attached subscribers,
and no others, to their handlers. -/
theorem dispatch_reaches_attached {Handler : Type} :
    (∀ s : GooseReceivers Handler,
      Reaches gooseReceiverStep (KeepsShared (gooseKind Handler)) {} s →
        DispatchesAttached (gooseKind Handler) s) ∧
    ∀ s : SvReceivers Handler,
      Reaches svReceiverStep (KeepsShared (svKind Handler)) {} s →
        DispatchesAttached (svKind Handler) s :=
  ⟨fun _ hrun => dispatchesAttached_of_reaches hrun,
    fun _ hrun => dispatchesAttached_of_reaches hrun⟩

def attaching (subscriber : UInt64 → Subscriber) : List (ReceiverCall Subscriber) :=
  [.newReceiver 0, .newReceiver 1, .addSubscriber 0 (subscriber 1001),
    .addSubscriber 1 (subscriber 1002), .addSubscriber 1 (subscriber 1003)]

/-- One subscriber of the second receiver is removed, and the other goes with it. -/
def detaching (subscriber : UInt64 → Subscriber) : List (ReceiverCall Subscriber) :=
  [.removeSubscriber 1 (subscriber 1002), .destroy 1]

theorem allAllowed_attaching_detaching {kind : SubscriberKind Subscriber Handler}
    {subscriber : UInt64 → Subscriber} (hid : ∀ id, kind.callbackID (subscriber id) = id) :
    AllAllowed (receiverStep kind) (KeepsShared kind) {}
      (attaching subscriber ++ detaching subscriber) := by
  have hattaching : AllAllowed (receiverStep kind) (KeepsShared kind) {}
      (attaching subscriber) := by
    apply allAllowed_of_forall
    intro call hcall s
    simp only [attaching, List.mem_cons, List.not_mem_nil, or_false] at hcall
    obtain rfl | rfl | rfl | rfl | rfl := hcall <;> trivial
  refine hattaching.append fun s hs => ?_
  obtain rfl := Option.some.inj hs
  refine .cons ?_ rfl (.cons ?_ rfl trivial)
  · rintro r hr ⟨receiver, refs, hreceiver, hrefs, hmem⟩
    rcases r with _ | _ | r
    · obtain rfl := Option.some.inj hreceiver
      obtain rfl := Option.some.inj hrefs
      simp [hid] at hmem
    · exact hr rfl
    · cases hreceiver
  · rintro id ⟨receiver, refs, hreceiver, hrefs, hown⟩
    obtain rfl := Option.some.inj hreceiver
    obtain rfl := Option.some.inj hrefs
    rintro r hr ⟨receiver, refs, hreceiver, hrefs, hmem⟩
    rcases r with _ | _ | r
    · obtain rfl := Option.some.inj hreceiver
      obtain rfl := Option.some.inj hrefs
      obtain rfl : id = 1001 := by simpa [hid] using hmem
      simp [hid] at hown
    · exact hr rfl
    · cases hreceiver

def gooseSubscriberOf (id : UInt64) : GooseSubscriber UInt64 where
  conf := ⟨id⟩
  handlerID := id

def svSubscriberOf (id : UInt64) : SvSubscriber UInt64 where
  callbackID := id
  conf := ⟨id⟩

theorem dispatch_reaches_attachedApart :
    (∃ s, run gooseReceiverStep ({} : GooseReceivers UInt64)
        (attaching gooseSubscriberOf ++ detaching gooseSubscriberOf) = some s ∧
      Attached s.receivers 0 1001 ∧ DispatchesAttached (gooseKind UInt64) s) ∧
    ∃ s, run svReceiverStep ({} : SvReceivers UInt64)
        (attaching svSubscriberOf ++ detaching svSubscriberOf) = some s ∧
      Attached s.receivers 0 1001 ∧ DispatchesAttached (svKind UInt64) s := by
  constructor
  · refine ⟨_, rfl, ⟨⟨some {1001}⟩, {1001}, rfl, rfl, by decide⟩, ?_⟩
    apply dispatch_reaches_attached.1
    exact Reaches.run .start _ (allAllowed_attaching_detaching fun _ => rfl) rfl
  · refine ⟨_, rfl, ⟨⟨some {1001}⟩, {1001}, rfl, rfl, by decide⟩, ?_⟩
    apply dispatch_reaches_attached.2
    exact Reaches.run .start _ (allAllowed_attaching_detaching fun _ => rfl) rfl

def sampleSubscriber : GooseSubscriber Unit where
  conf := ⟨()⟩
  handlerID := 1001

/-- A subscriber is attached to one receiver. -/
def attachedOnce : List (ReceiverCall (GooseSubscriber Unit)) :=
  [.newReceiver 0, .newReceiver 1, .addSubscriber 0 sampleSubscriber]

/-- Removing the subscriber from the other receiver takes the entry away. -/
theorem removal_elsewhere_detaches :
    ∃ s, run gooseReceiverStep ({} : GooseReceivers Unit)
        (attachedOnce ++ [.removeSubscriber 1 sampleSubscriber]) = some s ∧
      ¬ Live (Attached s.receivers) s.callbackRefs := by
  refine ⟨_, rfl, fun h => ?_⟩
  have hattached := (h 1001).mpr ⟨0, ⟨some {1001}⟩, {1001}, rfl, rfl, by decide⟩
  cases hattached

end Iec61850.Mms
