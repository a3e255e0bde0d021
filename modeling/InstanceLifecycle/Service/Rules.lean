import InstanceLifecycle.Service
import InstanceLifecycle.Handler.CallRules

/-!
# Rules for the message loop

`Between` holds before every attempt, `Done` after one that ended normally and
`Failed` after one that raised. An exception that is retried must lead back to
`Between`; one that aborts the message only needs `Failed`. The confirmation adds
events of the broker and leaves the store alone.
-/

namespace InstanceLifecycle

open Interaction

/-- The world after an event that leaves the store alone. -/
def World.record (world : World) (event : Event) : World :=
  ⟨world.db, world.history ++ [event]⟩

/-- Its store is the same. -/
@[simp] theorem World.record_db (world : World) (event : Event) :
    (world.record event).db = world.db := rfl

/-- Its history has the event at the end. -/
@[simp] theorem World.record_history (world : World) (event : Event) :
    (world.record event).history = world.history ++ [event] := rfl

/-- It is acked only by an ack. -/
theorem World.record_acked (world : World) (event : Event) (silent : event.isAck = false) :
    (world.record event).acked = world.acked := by
  simp [World.acked, silent]

/-- An operation that is no call is recorded and leaves the store alone. -/
theorem faulty_recorded {permits : Faults} {op : ServiceOp} {reply : op.Reply}
    {before after : World} (noCall : Event.isCall ⟨op, reply⟩ = false)
    (step : faulty permits op before reply after) : after = before.record ⟨op, reply⟩ := by
  have stored : after.db = before.db := by
    cases op with
    | cmdb call => cases noCall
    | started message => exact step.2
    | ack => exact step.2
    | nack => exact step.2
  rw [World.record, ← stored, ← step.1]

/-- What every event keeps, whatever the outcomes of the calls, every action
keeps. There is no condition on the action, as any program makes events only. -/
theorem action_keeps {α : Type} {permits : Faults} {action : Run α} {state : FieldErrors}
    {world : World} (held : World → Prop)
    (called : ∀ before op outcome, held before → permits op outcome →
      held (before.next op outcome))
    (recorded : ∀ before event, event.isCall = false → held before → held (before.record event))
    (start : held world) :
    action.Ensures (faulty permits) (fun _ => True) (fun _ _ after => held after) state world := by
  have kept : action.Ensures (faulty permits) held (fun _ _ after => held after) state world := by
    apply action.only_any.ensures _ start
    rintro op - before reply after holds step
    cases op with
    | cmdb op =>
      obtain ⟨outcome, permitted, rfl, same⟩ := faulty_next step
      rw [same]
      exact called before op outcome holds permitted
    | started message =>
      rw [faulty_recorded rfl step]
      exact recorded before ⟨.started message, reply⟩ rfl holds
    | ack =>
      rw [faulty_recorded rfl step]
      exact recorded before ⟨.ack, reply⟩ rfl holds
    | nack =>
      rw [faulty_recorded rfl step]
      exact recorded before ⟨.nack, reply⟩ rfl holds
  exact kept.env_mono (fun _ _ _ _ step => step) fun _ _ => trivial

/-- Nothing changes the reference rows. -/
theorem reference_kept {α : Type} {permits : Faults} (action : Run α) {state : FieldErrors}
    {world : World} :
    action.Ensures (faulty permits) (fun _ => True)
      (fun _ _ after => after.db.reference = world.db.reference) state world :=
  action_keeps (fun after => after.db.reference = world.db.reference)
    (fun before op outcome same _ => (before.db.answer_reference op outcome).trans same)
    (fun _ _ _ same => same) rfl

/-- In this environment an operation that is no call is recorded, and nothing else. -/
def Records (env : Env service World) : Prop :=
  ∀ op before (reply : op.Reply) after, Event.isCall ⟨op, reply⟩ = false →
    env op before reply after → after = before.record ⟨op, reply⟩

/-- A world of faulty calls records every event and changes its store by calls
only. -/
theorem Within.records {env : Env service World} {permits : Faults} (within : Within env permits) :
    Records env :=
  fun op before reply after noCall step => faulty_recorded noCall (within op before reply after step)

/-- The message is neither acked nor nacked so far. -/
def Unsettled (history : List Event) : Prop :=
  history.any Event.isAck = false ∧ history.any Event.isNack = false

/-- It was acked, and never nacked. -/
def Acked (history : List Event) : Prop :=
  history.any Event.isAck = true ∧ history.any Event.isNack = false

/-- It was nacked, and never acked. -/
def Nacked (history : List Event) : Prop :=
  history.any Event.isNack = true ∧ history.any Event.isAck = false

/-- How one attempt leaves the message: done, or failed and perhaps ready for
another attempt. -/
def attemptExit (Between Done Failed : World → Prop) (result : Except Exn Unit)
    (_ : FieldErrors) (after : World) : Prop :=
  match result with
  | .ok _ => Done after
  | .error exc => Failed after ∧ (exc.abortsMessage = false → Between after)

/-- How all attempts together leave the message. -/
def attemptsExit (Done Failed : World → Prop) (result : Except Exn Unit) (_ : FieldErrors)
    (after : World) : Prop :=
  match result with
  | .ok _ => Done after
  | .error _ => Failed after

namespace MessageHandlerService

variable {env : Env service World} {inv : World → Prop} {state : FieldErrors}
  {world : World}

/-- The rule for the start of a processing. -/
theorem logStarted_ensures (records : Records env) {message : Message}
    {post : Except Exn Unit → FieldErrors → World → Prop}
    (started : inv (world.record ⟨.started message, ()⟩) ∧
      post (.ok ()) state (world.record ⟨.started message, ()⟩)) :
    (InstanceHandler.logStarted message).Ensures env inv post state world := by
  rw [InstanceHandler.logStarted, Action.ensures_request]
  intro reply after step
  rw [records _ _ _ _ rfl step]
  exact started

/-- One attempt at a message, and the next ones after a failure that allows
them. `Between` is what holds after a failed attempt from which another one may
start. -/
theorem processAttempts_step (Between Done Failed : World → Prop) {process : Run Unit} {left : Nat}
    (attempt : process.Ensures env inv (attemptExit Between Done Failed) state world)
    (again : left ≠ 0 → ∀ state world, Between world →
      (processAttempts process left).Ensures env inv (attemptsExit Done Failed) state world) :
    (processAttempts process (left + 1)).Ensures env inv (attemptsExit Done Failed) state
      world := by
  rw [processAttempts, Action.ensures_bind, Action.ensures_attempt]
  refine attempt.mono ?_
  intro result final after held
  cases result with
  | ok value => exact held
  | error exc =>
    simp only
    by_cases aborts : exc.abortsMessage = true
    · rw [if_pos aborts]
      exact held.1
    · rw [if_neg aborts]
      by_cases last : left = 0
      · rw [if_pos last]
        exact held.1
      · rw [if_neg last]
        exact again last final after (held.2 (Bool.not_eq_true _ ▸ aborts))

/-- The retry rule, by induction on the attempts left. `Between` holds before
every attempt. -/
theorem processAttempts_ensures (Between Done Failed : World → Prop) {process : Run Unit}
    (attempt : ∀ state world, Between world →
      process.Ensures env inv (attemptExit Between Done Failed) state world)
    (left : Nat) (state : FieldErrors) (world : World) (start : Between world) :
    (processAttempts process (left + 1)).Ensures env inv (attemptsExit Done Failed)
      state world := by
  induction left generalizing state world with
  | zero =>
    apply processAttempts_step Between Done Failed (attempt state world start)
    intro more
    exact absurd rfl more
  | succ left ih =>
    apply processAttempts_step Between Done Failed (attempt state world start)
    intro _ state world between
    exact ih state world between

/-- One confirmation, and the next ones after a failure. The reply does not
matter to what has been settled. -/
theorem confirm_step (Settled : World → Prop) {op : ServiceOp} {action : Run Unit} {left : Nat}
    (issued : ∀ post state world,
      (∀ reply : op.Reply, inv (world.record ⟨op, reply⟩) ∧
        ∀ result, post result state (world.record ⟨op, reply⟩)) →
      action.Ensures env inv post state world)
    (confirmed : ∀ reply : op.Reply,
      inv (world.record ⟨op, reply⟩) ∧ Settled (world.record ⟨op, reply⟩))
    (again : ∀ world, Settled world →
      (confirm action left).Ensures env inv (fun _ _ after => Settled after) state world) :
    (confirm action (left + 1)).Ensures env inv (fun _ _ after => Settled after) state world := by
  rw [confirm, Action.ensures_bind, Action.ensures_attempt]
  apply issued
  intro reply
  obtain ⟨kept, settled⟩ := confirmed reply
  refine ⟨kept, ?_⟩
  intro result
  cases result with
  | ok value => exact settled
  | error exc => exact again _ settled

/-- The confirmation by `ack` or `nack`; without a budget it does not happen. -/
theorem confirm_ensures (Start Settled : World → Prop) {op : ServiceOp} {action : Run Unit}
    (issued : ∀ post state world,
      (∀ reply : op.Reply, inv (world.record ⟨op, reply⟩) ∧
        ∀ result, post result state (world.record ⟨op, reply⟩)) →
      action.Ensures env inv post state world)
    (confirmed : ∀ (reply : op.Reply) (world : World), Start world ∨ Settled world →
      inv (world.record ⟨op, reply⟩) ∧ Settled (world.record ⟨op, reply⟩))
    (retries : Nat) (unconfirmed : retries = 0 → Start world → Settled world)
    (start : Start world) :
    (confirm action retries).Ensures env inv (fun _ _ after => Settled after) state
      world := by
  have again : ∀ left world, Settled world →
      (confirm action left).Ensures env inv (fun _ _ after => Settled after) state
        world := by
    intro left
    induction left with
    | zero => exact fun world settled => settled
    | succ left ih =>
      intro world settled
      exact confirm_step Settled issued (fun reply => confirmed reply world (Or.inr settled)) ih
  cases retries with
  | zero => exact unconfirmed rfl start
  | succ left =>
    exact confirm_step Settled issued (fun reply => confirmed reply world (Or.inl start))
      (again left)

/-- The rule for an ack, whatever the broker answers. -/
theorem ack_issued (records : Records env)
    (post : Except Exn Unit → FieldErrors → World → Prop) (state : FieldErrors) (world : World)
    (answered : ∀ reply : ServiceOp.ack.Reply, inv (world.record ⟨.ack, reply⟩) ∧
      ∀ result, post result state (world.record ⟨.ack, reply⟩)) :
    ack.Ensures env inv post state world := by
  rw [ack, Action.ensures_request]
  intro reply after step
  rw [records _ _ _ _ rfl step]
  exact ⟨(answered reply).1, (answered reply).2 _⟩

/-- The rule for a nack, whatever the broker answers. -/
theorem nack_issued (records : Records env)
    (post : Except Exn Unit → FieldErrors → World → Prop) (state : FieldErrors) (world : World)
    (answered : ∀ reply : ServiceOp.nack.Reply, inv (world.record ⟨.nack, reply⟩) ∧
      ∀ result, post result state (world.record ⟨.nack, reply⟩)) :
    nack.Ensures env inv post state world := by
  rw [nack, Action.ensures_request]
  intro reply after step
  rw [records _ _ _ _ rfl step]
  exact ⟨(answered reply).1, (answered reply).2 _⟩

variable {service : MessageHandlerService} {delivery : Delivery}

/-- One attempt on a readable message: the action runs after the start is logged. -/
theorem processDelivery_ensures (records : Records env) {message : Message}
    {post : Except Exn Unit → FieldErrors → World → Prop}
    (kept : inv (world.record ⟨.started message, ()⟩))
    (dispatched : (service.handler.dispatch message).Ensures env inv post state
      (world.record ⟨.started message, ()⟩)) :
    (service.processDelivery (.ok message)).Ensures env inv post state world := by
  unfold processDelivery
  rw [Action.ensures_bind, Action.ensures_lift]
  simp only
  unfold InstanceHandler.processMessage
  rw [Action.ensures_bind]
  exact logStarted_ensures records ⟨kept, dispatched⟩

/-- All attempts on a message; with no attempts the message counts as done. -/
theorem allAttempts_ensures (Between Done Failed : World → Prop) {process : Run Unit}
    (attempts : Nat) (unattempted : attempts = 0 → Between world → Done world)
    (attempt : ∀ state world, Between world →
      process.Ensures env inv (attemptExit Between Done Failed) state world)
    (start : Between world) :
    (processAttempts process attempts).Ensures env inv (attemptsExit Done Failed)
      state world := by
  cases attempts with
  | zero => exact unattempted rfl start
  | succ left => exact processAttempts_ensures Between Done Failed attempt left state world start

/-- The rule for one message: a normal attempt leads to `ack`, a failure to `nack`. -/
theorem handleMessage_ensures (records : Records env)
    (Between Done Failed Acked Nacked : World → Prop)
    (unattempted : service.maxRetries = 0 → ∀ world, Between world → Done world)
    (attempt : ∀ state world, Between world → (service.processDelivery delivery).Ensures
      env inv (attemptExit Between Done Failed) state world)
    (acked : ∀ (reply : ServiceOp.ack.Reply) (world : World), Done world ∨ Acked world →
      inv (world.record ⟨.ack, reply⟩) ∧ Acked (world.record ⟨.ack, reply⟩))
    (nacked : ∀ (reply : ServiceOp.nack.Reply) (world : World), Failed world ∨ Nacked world →
      inv (world.record ⟨.nack, reply⟩) ∧ Nacked (world.record ⟨.nack, reply⟩))
    (unconfirmed : service.ackRetries = 0 →
      ∀ world, (Done world → Acked world) ∧ (Failed world → Nacked world))
    (start : Between world) :
    (service.handleMessage delivery).Ensures env inv
      (fun _ _ after => Acked after ∨ Nacked after) state world := by
  unfold handleMessage
  rw [Action.ensures_bind, Action.ensures_attempt]
  refine (allAttempts_ensures Between Done Failed service.maxRetries
    (fun none => unattempted none world) attempt start).mono ?_
  intro result final after held
  cases result with
  | ok value =>
    refine (confirm_ensures Done Acked (ack_issued records) acked service.ackRetries
      (fun none => (unconfirmed none after).1) held).mono ?_
    exact fun _ _ _ settled => Or.inl settled
  | error exc =>
    refine (confirm_ensures Failed Nacked (nack_issued records) nacked service.ackRetries
      (fun none => (unconfirmed none after).2) held).mono ?_
    exact fun _ _ _ settled => Or.inr settled

/-- A message whose attempts end well is acked and not nacked, and otherwise the other way. -/
theorem handleMessage_confirms (records : Records env) (Between Good Bad : World → Prop)
    (attempts : 0 < service.maxRetries) (confirms : 0 < service.ackRetries)
    (attempt : ∀ state world, Between world → (service.processDelivery delivery).Ensures
      env inv (attemptExit Between (fun after => Good after ∧ Unsettled after.history)
        (fun after => Bad after ∧ Unsettled after.history)) state world)
    (recorded : ∀ (event : Event) world, event.isCall = false → event.isStart = false →
      (Good world → inv (world.record event) ∧ Good (world.record event)) ∧
        (Bad world → inv (world.record event) ∧ Bad (world.record event)))
    (start : Between world) :
    (service.handleMessage delivery).Ensures env inv (fun _ _ after =>
      Good after ∧ Acked after.history ∨ Bad after ∧ Nacked after.history) state world := by
  apply handleMessage_ensures records Between (fun after => Good after ∧ Unsettled after.history)
    (fun after => Bad after ∧ Unsettled after.history)
    (fun after => Good after ∧ Acked after.history)
    (fun after => Bad after ∧ Nacked after.history) _ attempt _ _ _ start
  · intro none
    omega
  · rintro reply world (⟨good, unsettled⟩ | ⟨good, acked⟩)
    · obtain ⟨kept, still⟩ := (recorded ⟨.ack, reply⟩ world rfl rfl).1 good
      exact ⟨kept, still, by simp [Acked, Event.isAck, Event.isNack, unsettled.2]⟩
    · obtain ⟨kept, still⟩ := (recorded ⟨.ack, reply⟩ world rfl rfl).1 good
      exact ⟨kept, still, by simp [Acked, Event.isAck, Event.isNack, acked.2]⟩
  · rintro reply world (⟨bad, unsettled⟩ | ⟨bad, nacked⟩)
    · obtain ⟨kept, still⟩ := (recorded ⟨.nack, reply⟩ world rfl rfl).2 bad
      exact ⟨kept, still, by simp [Nacked, Event.isAck, Event.isNack, unsettled.1]⟩
    · obtain ⟨kept, still⟩ := (recorded ⟨.nack, reply⟩ world rfl rfl).2 bad
      exact ⟨kept, still, by simp [Nacked, Event.isAck, Event.isNack, nacked.2]⟩
  · intro none
    omega

/-- What every attempt and the broker keep, the handling of a message keeps. It
is the rule for messages with the same condition at every place. -/
theorem handleMessage_keeps (records : Records env) (Kept : World → Prop)
    (attempt : ∀ state world, Kept world → (service.processDelivery delivery).Ensures
      env inv (fun _ _ after => Kept after) state world)
    (confirmed : ∀ event world, event.isCall = false → Kept world →
      inv (world.record event) ∧ Kept (world.record event))
    (start : Kept world) :
    (service.handleMessage delivery).Ensures env inv (fun _ _ after => Kept after)
      state world := by
  have exits : ∀ state world, Kept world → (service.processDelivery delivery).Ensures
      env inv (attemptExit Kept Kept Kept) state world := by
    intro state world held
    refine (attempt state world held).mono ?_
    intro result final after kept
    cases result with
    | ok value => exact kept
    | error exc => exact ⟨kept, fun _ => kept⟩
  refine (handleMessage_ensures records Kept Kept Kept Kept Kept (fun _ _ held => held) exits ?_ ?_
    (fun _ _ => ⟨id, id⟩) start).mono fun _ _ _ held => held.elim id id
  · exact fun reply world held => confirmed _ world rfl (held.elim id id)
  · exact fun reply world held => confirmed _ world rfl (held.elim id id)

/-- What every delivery keeps holds after all of them. By induction on the
deliveries. -/
theorem handleAll_ensures (Rest : World → Prop) (deliveries : List Delivery)
    (each : ∀ delivery ∈ deliveries, ∀ state world, Rest world →
      (service.handleMessage delivery).Ensures env inv
        (fun _ _ after => Rest after) state world)
    (start : Rest world) :
    (service.handleAll deliveries).Ensures env inv (fun _ _ after => Rest after)
      state world := by
  induction deliveries generalizing state world with
  | nil => exact start
  | cons delivery rest ih =>
    unfold handleAll
    rw [Action.ensures_bind]
    refine (each delivery List.mem_cons_self state world start).mono ?_
    intro result final after held
    cases result with
    | ok value => exact ih (fun next member => each next (List.mem_cons_of_mem _ member)) held
    | error exc => exact held

end MessageHandlerService

end InstanceLifecycle
