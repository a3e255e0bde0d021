import InstanceLifecycle.Handler.Actions

/-!
# The message loop

A delivery is processed up to `max_retries` times. A normal end is acked; a
permanent error, a `KeyError` or unreadable JSON is rejected at once, any other
exception after the last attempt. The confirmation itself is repeated until it
succeeds or its own budget is spent.
-/

namespace InstanceLifecycle

open Interaction

/-- `json.loads(message.body)`. -/
abbrev Delivery := Except Exn Message

/-- The service: the handler it calls, the attempts at a message and the
attempts at its confirmation. -/
structure MessageHandlerService where
  handler : InstanceHandler
  maxRetries : Nat
  ackRetries : Nat := 3

namespace MessageHandlerService

/-- Confirm the message; an exception of the broker is raised as it is. -/
def ack : Run Unit :=
  Action.request (S := service) .ack
    (fun (reply : Except CallError Unit) => reply.mapError CallError.toExn)

/-- Reject the message without requeueing it. -/
def nack : Run Unit :=
  Action.request (S := service) .nack
    (fun (reply : Except CallError Unit) => reply.mapError CallError.toExn)

/-- Confirm until the first success, then stop; give up silently in the end. -/
def confirm (action : Run Unit) : Nat → Run Unit
  | 0 => pure ()
  | left + 1 => do
      match ← Action.attempt action with
      | .ok _ => pure ()
      | .error _ => confirm action left

/-- `for attempt in range(1, max_retries + 1)`, counted by the attempts left. -/
def processAttempts (process : Run Unit) : Nat → Run Unit
  | 0 => pure ()
  | left + 1 => do
      match ← Action.attempt process with
      | .ok _ => pure ()
      | .error exc =>
          if exc.abortsMessage then Action.raise exc
          else if left = 0 then Action.raise exc
          else processAttempts process left

/-- One attempt: parse the body and process it. -/
def processDelivery (service : MessageHandlerService) (delivery : Delivery) : Run Unit := do
  let message ← Action.lift delivery
  service.handler.processMessage message

/-- `handle_message`: attempt the message as often as allowed, then ack it or,
when no attempt succeeded, reject it. -/
def handleMessage (service : MessageHandlerService) (delivery : Delivery) : Run Unit := do
  match ← Action.attempt (processAttempts (service.processDelivery delivery) service.maxRetries) with
  | .ok _ => confirm ack service.ackRetries
  | .error _ => confirm nack service.ackRetries

/-- Deliveries processed one after the other. -/
def handleAll (service : MessageHandlerService) : List Delivery → Run Unit
  | [] => pure ()
  | delivery :: rest => do
      service.handleMessage delivery
      service.handleAll rest

end MessageHandlerService

end InstanceLifecycle
