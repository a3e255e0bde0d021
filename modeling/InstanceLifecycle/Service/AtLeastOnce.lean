import InstanceLifecycle.Service.Consumer
import InstanceLifecycle.Service.Rules
import InstanceLifecycle.Service.Settlement

/-!
# What becomes of a message

A message leaves the queue by the word of a task that handled it, and the task says nothing
before its last attempt is over: then it acks if the attempt ended normally and rejects the
message if it did not. Any other message waits or is with a task, whatever calls fail, whichever
connections are lost and whenever the process is restarted.
-/

namespace InstanceLifecycle

open Interaction Messaging

/-- What the service says about a delivery after this outcome. -/
def verdictOf : Except Exn Unit → Verdict
  | .ok _ => .acked
  | .error _ => .rejected

/-- Nothing was said about the delivery. -/
def Quiet (history : List Event) : Prop := ∀ event ∈ history, event.op.verdict = none

/-- The attempts on the delivery came to an end with this outcome, and only then did the task
say what follows from it. -/
def SettledBy (worker : MessageHandlerService) (permits : Faults) (state : FieldErrors) (db : Cmdb)
    (delivery : Delivery) (outcome : Except Exn Unit) (history : List Event) : Prop :=
  ∃ outcomes final earlier later,
    Action.Repeats (unsteady permits) (worker.processDelivery delivery) state ⟨db, []⟩ outcomes
      final ⟨db, earlier⟩ ∧
    UpToFirst settlesMessage worker.maxRetries outcomes ∧ outcomes.getLast? = some outcome ∧
    Quiet earlier ∧ history = earlier ++ later ∧
      ∀ event ∈ later, event.op.verdict = some (verdictOf outcome)

section Settling

variable {worker : MessageHandlerService} {permits : Faults} {state : FieldErrors} {db : Cmdb}
  {delivery : Delivery} {outcome : Except Exn Unit} {history : List Event}

/-- One more confirmation. -/
theorem SettledBy.confirm (settled : SettledBy worker permits state db delivery outcome history)
    {event : Event} (fits : event.op.verdict = some (verdictOf outcome)) :
    SettledBy worker permits state db delivery outcome (history ++ [event]) := by
  obtain ⟨outcomes, final, earlier, later, repeated, within, last, quiet, rfl, confirmed⟩ := settled
  refine ⟨outcomes, final, earlier, later ++ [event], repeated, within, last, quiet,
    List.append_assoc _ _ _, ?_⟩
  intro other member
  rcases List.mem_append.mp member with old | new
  · exact confirmed other old
  · rw [List.mem_singleton.mp new]
    exact fits

/-- Whatever was said follows from the outcome. -/
theorem SettledBy.said (settled : SettledBy worker permits state db delivery outcome history)
    {event : Event} (member : event ∈ history) {verdict : Verdict}
    (said : event.op.verdict = some verdict) : verdict = verdictOf outcome := by
  obtain ⟨outcomes, final, earlier, later, -, -, -, quiet, rfl, confirmed⟩ := settled
  rcases List.mem_append.mp member with old | new
  · rw [quiet event old] at said
    cases said
  · rw [confirmed event new] at said
    exact (Option.some.inj said).symm

variable (worker permits state db delivery) in
/-- The task has said nothing, or what followed from its attempts. -/
def Accounted (world : World) : Prop :=
  world.db = db ∧ (Quiet world.history ∨
    ∃ outcome, SettledBy worker permits state db delivery outcome world.history)

variable (worker permits state db delivery) in
/-- The task is over: it has settled its delivery, as far as it can know. -/
def Concluded (world : World) : Prop :=
  ∃ outcome, SettledBy worker permits state db delivery outcome world.history ∧
    ∃ event ∈ world.history, event.op.verdict = some (verdictOf outcome)

end Settling

namespace MessageHandlerService

variable {worker : MessageHandlerService} {permits : Faults} {state : FieldErrors} {db : Cmdb}
  {delivery : Delivery}

/-- Processing a delivery says nothing to the broker. -/
theorem processDelivery_quiet :
    (worker.processDelivery delivery).Only fun op : ServiceOp => op.verdict = none := by
  unfold processDelivery
  apply Action.Only.bind (Action.only_lift _)
  intro message
  unfold InstanceHandler.processMessage
  exact Action.Only.bind (Action.only_request _ _ rfl) fun _ =>
    InstanceHandler.dispatch_only fun _ => rfl

/-- The attempts at a message confirm nothing, so a verdict in the log comes
from the confirmation after them. -/
theorem processAttempts_quiet (left : Nat) :
    (processAttempts (worker.processDelivery delivery) left).Only
      fun op : ServiceOp => op.verdict = none := by
  induction left with
  | zero => exact Action.only_pure _
  | succ left ih =>
    rw [processAttempts]
    apply Action.Only.bind (Action.Only.attempt processDelivery_quiet)
    intro outcome
    cases outcome with
    | ok value => exact Action.only_pure _
    | error exc =>
      simp only
      split
      · exact Action.only_raise _
      · split
        · exact Action.only_raise _
        · exact ih

/-- Confirming raises nothing, by induction on the attempts left. -/
theorem confirm_returns (action : Run Unit) (left : Nat) : (confirm action left).Returns := by
  induction left with
  | zero => exact Action.returns_pure _
  | succ left ih =>
    rw [confirm]
    apply Action.returns_attempt_bind
    intro outcome
    cases outcome with
    | ok value => exact Action.returns_pure _
    | error exc => exact ih

/-- Handling a delivery returns without raising: an exception of the attempts
and a failed confirmation are both caught. -/
theorem handleMessage_returns : (worker.handleMessage delivery).Returns := by
  unfold handleMessage
  apply Action.returns_attempt_bind
  intro outcome
  cases outcome with
  | ok value => exact confirm_returns _ _
  | error exc => exact confirm_returns _ _

/-- The attempts account for the outcome that they end with. Nothing is said to
the broker before they are over, so the log is still quiet then. -/
theorem processAttempts_accounted (attempts : 0 < worker.maxRetries) :
    (processAttempts (worker.processDelivery delivery) worker.maxRetries).Ensures
      (unsteady permits) (fun after => after.db = db ∧ Quiet after.history)
      (fun outcome _ after => after.db = db ∧
        SettledBy worker permits state db delivery outcome after.history) state ⟨db, []⟩ := by
  have quiet : (processAttempts (worker.processDelivery delivery) worker.maxRetries).Ensures
      (unsteady permits) (fun after => after.db = db ∧ Quiet after.history)
      (fun _ _ after => after.db = db ∧ Quiet after.history) state ⟨db, []⟩ := by
    apply (processAttempts_quiet worker.maxRetries).ensures
    · rintro op none before reply after ⟨same, silent⟩ ⟨rfl, -⟩
      refine ⟨same, ?_⟩
      intro event member
      rcases List.mem_append.mp member with old | new
      · exact silent event old
      · rw [List.mem_singleton.mp new]
        exact none
    · exact ⟨rfl, fun event member => nomatch member⟩
  have ended := Action.ensures_ends (unsteady permits)
    (processAttempts (worker.processDelivery delivery) worker.maxRetries) state ⟨db, []⟩
  refine ((quiet.and ended).env_mono (fun _ _ _ _ step => step) fun _ held => held.1).mono ?_
  rintro outcome final after ⟨⟨same, silent⟩, ends⟩
  refine ⟨same, ?_⟩
  obtain ⟨left, counted⟩ : ∃ left, worker.maxRetries = left + 1 :=
    ⟨worker.maxRetries - 1, by omega⟩
  rw [counted] at ends
  obtain ⟨outcomes, repeated, within, last⟩ := processAttempts_settles left ends
  have shape : after = ⟨db, after.history⟩ := by rw [← same]
  rw [shape] at repeated
  exact ⟨outcomes, final, after.history, [], repeated, counted ▸ within, last, silent,
    (List.append_nil _).symm, fun event member => nomatch member⟩

/-- A confirmation and its repetitions account for the delivery: each says the
verdict of the outcome, and after the last one the task is done. -/
theorem confirm_accounted (confirms : 0 < worker.ackRetries) (op : ServiceOp) {action : Run Unit}
    {outcome : Except Exn Unit} {mid : FieldErrors} {world : World}
    (issued : ∀ post errors current,
      (∀ reply : op.Reply,
        Accounted worker permits state db delivery (current.record ⟨op, reply⟩) ∧
          ∀ result, post result errors (current.record ⟨op, reply⟩)) →
      action.Ensures (unsteady permits) (Accounted worker permits state db delivery) post errors
        current)
    (fits : op.verdict = some (verdictOf outcome))
    (settled : world.db = db ∧ SettledBy worker permits state db delivery outcome world.history) :
    (confirm action worker.ackRetries).Ensures (unsteady permits)
      (Accounted worker permits state db delivery)
      (fun _ _ after => Concluded worker permits state db delivery after) mid world := by
  have again : ∀ (reply : op.Reply) (world : World), world.db = db ∧
      SettledBy worker permits state db delivery outcome world.history →
        Accounted worker permits state db delivery (world.record ⟨op, reply⟩) ∧
          ((world.record ⟨op, reply⟩).db = db ∧ SettledBy worker permits state db delivery outcome
            (world.record ⟨op, reply⟩).history) ∧
          ∃ event ∈ (world.record ⟨op, reply⟩).history,
            event.op.verdict = some (verdictOf outcome) := by
    rintro reply world ⟨same, settled⟩
    have now : SettledBy worker permits state db delivery outcome (world.record ⟨op, reply⟩).history :=
      settled.confirm fits
    exact ⟨⟨same, Or.inr ⟨outcome, now⟩⟩, ⟨same, now⟩, _,
      List.mem_append_right _ (List.mem_singleton_self _), fits⟩
  refine (confirm_ensures
    (fun after => after.db = db ∧
      SettledBy worker permits state db delivery outcome after.history)
    (fun after => (after.db = db ∧
      SettledBy worker permits state db delivery outcome after.history) ∧
        ∃ event ∈ after.history, event.op.verdict = some (verdictOf outcome))
    issued ?_ worker.ackRetries (fun none => by omega) settled).mono ?_
  · rintro reply world (start | ⟨start, -⟩)
    · exact again reply world start
    · exact again reply world start
  · exact fun _ _ _ held => ⟨outcome, held.1.2, held.2⟩

/-- What a task has said so far follows from its attempts, and it raises nothing. -/
theorem handleMessage_accounted (attempts : 0 < worker.maxRetries)
    (confirms : 0 < worker.ackRetries) :
    (worker.handleMessage delivery).Ensures (unsteady permits)
      (Accounted worker permits state db delivery)
      (fun result _ after => result = .ok () ∧ Concluded worker permits state db delivery after)
      state ⟨db, []⟩ := by
  have concluded : (worker.handleMessage delivery).Ensures (unsteady permits)
      (Accounted worker permits state db delivery)
      (fun _ _ after => Concluded worker permits state db delivery after) state ⟨db, []⟩ := by
    unfold handleMessage
    rw [Action.ensures_bind, Action.ensures_attempt]
    refine ((processAttempts_accounted attempts).env_mono (fun _ _ _ _ step => step)
      fun after held => ⟨held.1, Or.inl held.2⟩).mono ?_
    intro outcome final after held
    cases outcome with
    | ok value => exact confirm_accounted confirms .ack (ack_issued (unsteady_records permits)) rfl held
    | error exc => exact confirm_accounted confirms .nack (nack_issued (unsteady_records permits)) rfl held
  have returned : (worker.handleMessage delivery).Ensures (unsteady permits) (fun _ => True)
      (fun result _ _ => ∃ value, result = .ok value) state ⟨db, []⟩ :=
    (handleMessage_returns state).ensures
  refine ((concluded.and returned).env_mono (fun _ _ _ _ step => step) fun _ held => held.1).mono ?_
  rintro result final after ⟨concluded, value, rfl⟩
  exact ⟨rfl, concluded⟩

end MessageHandlerService

/-! ## The queue -/

namespace Consumer

variable {worker : MessageHandlerService} {permits : Faults} {state : FieldErrors}
  {prefetch : Nat} {db : Cmdb} {published : List Delivery} {consumer after : Consumer}

/-- The open and the settled deliveries are the ones of their tasks, and the settled ones were
settled by their tasks. -/
structure Booked (consumer : Consumer) : Prop where
  unacked : ∀ entry ∈ consumer.broker.unacked, consumer.received[entry.1]? = some entry.2
  acked : ∀ entry ∈ consumer.broker.acked, consumer.received[entry.1]? = some entry.2 ∧
    ∃ event ∈ consumer.crowd.heard entry.1, event.op.verdict = some .acked
  dead : ∀ entry ∈ consumer.broker.dead, consumer.received[entry.1]? = some entry.2 ∧
    ∃ event ∈ consumer.crowd.heard entry.1, event.op.verdict = some .rejected

/-- At the start no delivery waits and none is settled, so there is nothing to
account for. -/
theorem Booked.start : (Consumer.start db published).Booked where
  unacked := fun _ stored => nomatch stored
  acked := fun _ stored => nomatch stored
  dead := fun _ stored => nomatch stored

/-- What a task has heard it keeps hearing. -/
theorem heard_grows {task : Nat} {op : ServiceOp} {reply : op.Reply} {crowd : Crowd Nat}
    (answered : crowding permits task op consumer.crowd reply crowd) (other : Nat) {event : Event}
    (member : event ∈ consumer.crowd.heard other) : event ∈ crowd.heard other := by
  by_cases same : other = task
  · subst same
    rw [(crowding_heard answered).1]
    exact List.mem_append_left _ member
  · rw [(crowding_heard answered).2 other same]
    exact member

/-- A call of a task keeps the books. A verdict among the calls is the one the
broker then acts on, and a call that confirms nothing leaves the broker alone. -/
theorem Booked.call (booked : consumer.Booked) {task : Nat} {op : ServiceOp} {reply : op.Reply}
    {rest : Task} {crowd : Crowd Nat} (landed : Bool)
    (answered : crowding permits task op consumer.crowd reply crowd) :
    (consumer.called task op landed rest crowd).Booked := by
  have kept : ∀ (entry : Nat × Delivery) (verdict : Verdict),
      (∃ event ∈ consumer.crowd.heard entry.1, event.op.verdict = some verdict) →
        ∃ event ∈ crowd.heard entry.1, event.op.verdict = some verdict := by
    rintro entry verdict ⟨event, member, said⟩
    exact ⟨event, heard_grows answered entry.1 member, said⟩
  have aside : consumer.settled task op landed = consumer.broker →
      (consumer.called task op landed rest crowd).Booked := by
    intro same
    refine ⟨?_, ?_, ?_⟩ <;> simp only [called, same]
    · exact booked.unacked
    · exact fun entry stored => ⟨(booked.acked entry stored).1, kept entry _ (booked.acked entry stored).2⟩
    · exact fun entry stored => ⟨(booked.dead entry stored).1, kept entry _ (booked.dead entry stored).2⟩
  cases said : op.verdict with
  | none => exact aside (by simp [settled, said])
  | some verdict =>
    cases landed with
    | false => exact aside (by simp [settled, said])
    | true =>
      have settles : consumer.settled task op true = consumer.broker.settle task verdict := by
        simp [settled, said]
      have spoken : ∃ event ∈ crowd.heard task, event.op.verdict = some verdict := by
        rw [(crowding_heard answered).1]
        exact ⟨_, List.mem_append_right _ (List.mem_singleton_self _), said⟩
      refine ⟨?_, ?_, ?_⟩ <;> simp only [called, settles]
      · intro entry stored
        exact booked.unacked entry ((consumer.broker.mem_settle_unacked task verdict entry).mp stored).1
      · intro entry stored
        rcases (consumer.broker.mem_settle_acked task verdict entry).mp stored with old | ⟨rfl, was, rfl⟩
        · exact ⟨(booked.acked entry old).1, kept entry _ (booked.acked entry old).2⟩
        · exact ⟨booked.unacked entry was, spoken⟩
      · intro entry stored
        rcases (consumer.broker.mem_settle_dead task verdict entry).mp stored with old | ⟨rfl, was, rfl⟩
        · exact ⟨(booked.dead entry old).1, kept entry _ (booked.dead entry old).2⟩
        · exact ⟨booked.unacked entry was, spoken⟩

/-- A delivery gets a fresh tag, under which the message is received, and the
earlier entries stay where they are. -/
theorem Booked.deliver (booked : consumer.Booked) (message : Delivery) (others : List Delivery) :
    { consumer.wrapper worker state message with
      broker := consumer.broker.deliver consumer.received.length message others }.Booked := by
  have named : ∀ entry : Nat × Delivery, consumer.received[entry.1]? = some entry.2 →
      (consumer.received ++ [message])[entry.1]? = some entry.2 := by
    intro entry there
    rw [List.getElem?_append_left (List.getElem?_eq_some_iff.mp there).1]
    exact there
  refine ⟨?_, ?_, ?_⟩
  · intro entry stored
    rcases List.mem_append.mp stored with old | new
    · exact named entry (booked.unacked entry old)
    · rw [List.mem_singleton.mp new]
      exact List.getElem?_concat_length
  · exact fun entry stored => ⟨named entry (booked.acked entry stored).1, (booked.acked entry stored).2⟩
  · exact fun entry stored => ⟨named entry (booked.dead entry stored).1, (booked.dead entry stored).2⟩

/-- Every step of the service keeps the books, one case for each kind of step;
requeueing only empties the unconfirmed deliveries. -/
theorem Booked.step (booked : consumer.Booked)
    (step : Step worker state permits prefetch consumer after) : after.Booked := by
  have requeued : ∀ other : Consumer, other.broker = consumer.broker.requeue →
      other.received = consumer.received → other.crowd = consumer.crowd → other.Booked := by
    rintro other queue deliveries heard
    refine ⟨?_, ?_, ?_⟩ <;> rw [queue, deliveries]
    · exact fun entry stored => nomatch stored
    · rw [heard]
      exact booked.acked
    · rw [heard]
      exact booked.dead
  cases step with
  | deliver delivers room queued => exact booked.deliver _ _
  | call landed open_ running turn answered => exact booked.call landed answered
  | finish ended => exact ⟨booked.unacked, booked.acked, booked.dead⟩
  | signal consuming => exact ⟨booked.unacked, booked.acked, booked.dead⟩
  | cancelled cancelling => exact ⟨booked.unacked, booked.acked, booked.dead⟩
  | gathered draining gathers => exact requeued _ rfl rfl rfl
  | connectionLost => exact requeued _ rfl rfl rfl
  | restarted => exact requeued _ rfl rfl rfl

/-- The run lemma. -/
theorem booked_run (run : Reaches worker state permits prefetch db published consumer) :
    consumer.Booked ∧ consumer.broker.contents.Perm published ∧
      consumer.broker.unacked.length ≤ prefetch := by
  induction run with
  | refl =>
    refine ⟨.start, ?_, Nat.zero_le _⟩
    rw [start, Broker.contents_publish]
  | tail run step ih =>
    obtain ⟨booked, conserved, within⟩ := ih
    exact ⟨booked.step step, (step_contents step).trans conserved, step_unacked step within⟩

/-- Every task of a run accounts for its delivery, with what it has done so far
and with what it is still to do. It is the rule for one delivery, carried
through the interleaving. -/
theorem accounted_run (attempts : 0 < worker.maxRetries) (confirms : 0 < worker.ackRetries)
    (run : Reaches worker state permits prefetch db published consumer) (task : Nat) :
    Accounted worker permits state db (consumer.deliveries task) (consumer.crowd.known task db) ∧
      (ahead worker state consumer.deliveries consumer task).Ensures (unsteady permits)
        (Accounted worker permits state db (consumer.deliveries task))
        (fun result after => result.1 = .ok () ∧
          Concluded worker permits state db (consumer.deliveries task) after)
        (consumer.crowd.known task db) := by
  have ensured : ∀ task, (deliveryTasks worker consumer.deliveries state task).Ensures
      (unsteady permits) (Accounted worker permits state db (consumer.deliveries task))
      (fun result after => result.1 = .ok () ∧
        Concluded worker permits state db (consumer.deliveries task) after) ⟨db, []⟩ :=
    fun _ => MessageHandlerService.handleMessage_accounted attempts confirms
  have joined := crowd_ensures (fun _ => True) (fun _ _ _ _ _ step => step)
    (fun _ _ _ _ _ _ _ _ => trivial) trivial
    (fun task => ⟨rfl, Or.inl fun _ member => nomatch member⟩) ensured
    (interleaved run consumer.continues_deliveries)
  exact joined.2 task

end Consumer

/-- In every state of every run of the service, under any failures: each published message waits,
is with a task, is acked, or is rejected, and none of them twice; never more than the prefetch
count are open; and a message is acked by a task whose last attempt ended normally, and rejected
by one whose last attempt failed. -/
theorem messages_accounted (worker : MessageHandlerService) (attempts : 0 < worker.maxRetries)
    (confirms : 0 < worker.ackRetries) (state : FieldErrors) (permits : Faults) (prefetch : Nat)
    (db : Cmdb) (published : List Delivery) (consumer : Consumer)
    (run : consumer.Reaches worker state permits prefetch db published) :
    consumer.broker.contents.Perm published ∧ consumer.broker.unacked.length ≤ prefetch ∧
      (∀ entry ∈ consumer.broker.acked, consumer.received[entry.1]? = some entry.2 ∧
        SettledBy worker permits state db entry.2 (.ok ()) (consumer.crowd.heard entry.1)) ∧
      ∀ entry ∈ consumer.broker.dead, consumer.received[entry.1]? = some entry.2 ∧
        ∃ exc, SettledBy worker permits state db entry.2 (.error exc)
          (consumer.crowd.heard entry.1) := by
  obtain ⟨booked, conserved, within⟩ := Consumer.booked_run run
  have settled : ∀ (entry : Nat × Delivery) (verdict : Verdict),
      consumer.received[entry.1]? = some entry.2 →
      (∃ event ∈ consumer.crowd.heard entry.1, event.op.verdict = some verdict) →
        ∃ outcome, verdict = verdictOf outcome ∧ SettledBy worker permits state db entry.2 outcome
          (consumer.crowd.heard entry.1) := by
    rintro entry verdict there ⟨event, member, said⟩
    have accounted := (Consumer.accounted_run attempts confirms run entry.1).1
    rw [consumer.continues_deliveries entry.1 entry.2 there] at accounted
    rcases accounted.2 with quiet | ⟨outcome, settled⟩
    · rw [quiet event member] at said
      cases said
    · exact ⟨outcome, settled.said member said, settled⟩
  refine ⟨conserved, within, ?_, ?_⟩
  · intro entry stored
    obtain ⟨there, spoken⟩ := booked.acked entry stored
    obtain ⟨outcome, fits, settled⟩ := settled entry .acked there spoken
    cases outcome with
    | ok value => exact ⟨there, settled⟩
    | error exc => cases fits
  · intro entry stored
    obtain ⟨there, spoken⟩ := booked.dead entry stored
    obtain ⟨outcome, fits, settled⟩ := settled entry .rejected there spoken
    cases outcome with
    | ok value => cases fits
    | error exc => exact ⟨there, exc, settled⟩

/-- The delete is acked and the unreadable message rejected, and nothing is left. -/
theorem messages_accounted_twoSettled :
    twoSettled.broker.acked.map Prod.fst = [0] ∧ twoSettled.broker.dead.map Prod.fst = [1] ∧
      twoSettled.broker.contents.Perm twoMessages ∧ twoSettled.broker.unacked.length ≤ 10 ∧
      (∀ entry ∈ twoSettled.broker.acked, twoSettled.received[entry.1]? = some entry.2 ∧
        SettledBy AsciiRuntime.service everyFault {} neighbours entry.2 (.ok ())
          (twoSettled.crowd.heard entry.1)) ∧
      ∀ entry ∈ twoSettled.broker.dead, twoSettled.received[entry.1]? = some entry.2 ∧
        ∃ exc, SettledBy AsciiRuntime.service everyFault {} neighbours entry.2 (.error exc)
          (twoSettled.crowd.heard entry.1) :=
  ⟨rfl, rfl, messages_accounted AsciiRuntime.service (by decide) (by decide) {} everyFault 10
    neighbours twoMessages twoSettled twoSettled_reaches⟩

end InstanceLifecycle
