import InstanceLifecycle.Config.Startup
import InstanceLifecycle.Service.Shutdown

/-!
# No state is a dead end

Whatever has happened to the service, the messages that are left can still be settled: a restart
puts the open deliveries back into the queue, and one delivery after the other can then be handed
out, handled and confirmed. This takes a queue that hands out messages and a service that attempts
and confirms them, as the settings of any environment make sure of.
-/

namespace InstanceLifecycle

open Interaction Messaging

namespace Consumer

variable {worker : MessageHandlerService} {permits : Faults} {state : FieldErrors}
  {prefetch : Nat} {db : Cmdb} {published : List Delivery} {consumer : Consumer} {task : Nat}

/-- A task whose delivery is still to come has heard nothing. By induction on
the run: a call is made by a task that is running, and that was received before.
-/
theorem heard_unreceived (run : Reaches worker state permits prefetch db published consumer)
    (later : consumer.received.length ≤ task) : consumer.crowd.heard task = [] := by
  induction run with
  | refl => rfl
  | @tail before after run step ih =>
    cases step with
    | deliver delivers room queued =>
      simp only [wrapper, List.length_append, List.length_singleton] at later
      exact ih (Nat.le_of_succ_le later)
    | call landed open_ running turn answered =>
      have earlier : task ≠ _ := Nat.ne_of_gt (Nat.lt_of_lt_of_le running.2 later)
      exact ((crowding_heard answered).2 task earlier).trans (ih later)
    | finish ended => exact ih later
    | signal consuming => exact ih later
    | cancelled cancelling => exact ih later
    | gathered draining gathers => exact ih later
    | connectionLost => exact ih later
    | restarted => exact ih later

/-- The running process consumes and has at most one delivery open, that of the task, which is
closed as soon as the task has said something about it. -/
structure Handles (task : Nat) (consumer : Consumer) : Prop where
  consuming : consumer.phase = .consuming
  running : consumer.Running task
  only : ∀ entry ∈ consumer.broker.unacked, entry.1 = task
  said : (∃ event ∈ consumer.crowd.heard task, event.op.verdict ≠ none) →
    consumer.broker.unacked = []

/-- The step lemma: a call of the task that reaches the broker keeps it the one
being handled. By the verdict, without which the broker is left alone. -/
theorem Handles.called (handles : consumer.Handles task) {op : ServiceOp} {reply : op.Reply}
    {crowd : Crowd Nat} (answered : crowding permits task op consumer.crowd reply crowd)
    (rest : Task) : (consumer.called task op true rest crowd).Handles task ∧
      (consumer.called task op true rest crowd).broker.waiting = consumer.broker.waiting := by
  cases verdict : op.verdict with
  | none =>
    have same : consumer.settled task op true = consumer.broker := by simp [settled, verdict]
    refine ⟨⟨handles.consuming, handles.running, ?_, ?_⟩, congrArg Broker.waiting same⟩
    · simpa only [Consumer.called, same] using handles.only
    · simp only [Consumer.called, same]
      rintro ⟨event, member, spoken⟩
      rw [(crowding_heard answered).1] at member
      rcases List.mem_append.mp member with old | new
      · exact handles.said ⟨event, old, spoken⟩
      · rw [List.mem_singleton.mp new] at spoken
        exact absurd verdict spoken
  | some verdict' =>
    have settles : consumer.settled task op true = consumer.broker.settle task verdict' := by
      simp [settled, verdict]
    have none : (consumer.broker.settle task verdict').unacked = [] := by
      rw [List.eq_nil_iff_forall_not_mem]
      intro entry stored
      obtain ⟨was, other⟩ := (consumer.broker.mem_settle_unacked task verdict' entry).mp stored
      exact other (handles.only entry was)
    have kept : (consumer.broker.settle task verdict').waiting = consumer.broker.waiting := by
      cases verdict' <;> rfl
    refine ⟨⟨handles.consuming, handles.running, ?_, fun _ => ?_⟩, ?_⟩
    · simp only [Consumer.called, settles, none]
      exact fun entry stored => (List.not_mem_nil stored).elim
    · simpa only [Consumer.called, settles] using none
    · simpa only [Consumer.called, settles] using kept

/-- A task can always go on to its end, by induction on what is left of it. -/
theorem Handles.ends (succeeds : ∀ call, permits call .ok) (handles : consumer.Handles task) :
    ∃ after, Relation.ReflTransGen (Step worker state permits prefetch) consumer after ∧
      after.Handles task ∧ after.Over task ∧ after.broker.waiting = consumer.broker.waiting := by
  generalize left : consumer.tasks task = program
  induction program generalizing consumer with
  | done value => exact ⟨consumer, .refl, handles, ⟨value, left⟩, rfl⟩
  | call op next ih =>
    let reply := (Crowd.scripted (fun _ => []) task op consumer.crowd).1
    have answered : crowding permits task op consumer.crowd reply _ :=
      scripted_crowding succeeds (fun _ _ member => (List.not_mem_nil member).elim) task op
        consumer.crowd
    have open_ : consumer.phase ≠ .closed := by
      rw [handles.consuming]
      rintro ⟨⟩
    obtain ⟨onward, waiting⟩ := handles.called answered (next reply)
    obtain ⟨after, run, ended, done, kept⟩ := ih reply onward (Function.update_self task _ _)
    exact ⟨after, run.head (.call true open_ handles.running left answered), ended, done,
      kept.trans waiting⟩

/-- The process consumes, and no delivery is open. -/
def Idle (consumer : Consumer) : Prop :=
  consumer.phase = .consuming ∧ consumer.broker.unacked = [] ∧
    consumer.first ≤ consumer.received.length

/-- An idle service can take the next message and handle it until it is settled,
and is idle again. The delivery is one step, and its task runs through with
every call succeeding. -/
theorem Idle.settles (attempts : 0 < worker.maxRetries) (confirms : 0 < worker.ackRetries)
    (room : 0 < prefetch) (succeeds : ∀ call, permits call .ok)
    (run : Reaches worker state permits prefetch db published consumer) (idle : consumer.Idle)
    {message : Delivery} {others : List Delivery}
    (queued : consumer.broker.waiting = message :: others) :
    ∃ after, Relation.ReflTransGen (Step worker state permits prefetch) consumer after ∧
      after.Idle ∧ after.broker.waiting = others := by
  obtain ⟨consuming, none, first⟩ := idle
  let delivered : Consumer := { consumer.wrapper worker state message with
    broker := consumer.broker.deliver consumer.received.length message others }
  have step : Step worker state permits prefetch consumer delivered := by
    refine .deliver (by rw [consuming]; rfl) ?_ (queued ▸ List.Perm.refl _)
    rwa [none]
  have handles : delivered.Handles consumer.received.length := by
    refine ⟨consuming, ⟨first, ?_⟩, ?_, ?_⟩
    · simp [delivered, wrapper]
    · simp [delivered, Broker.deliver, none]
    · rintro ⟨event, member, -⟩
      have silent := heard_unreceived run (Nat.le_refl consumer.received.length)
      change event ∈ consumer.crowd.heard consumer.received.length at member
      rw [silent] at member
      exact (List.not_mem_nil member).elim
  have ends : ∃ after, Relation.ReflTransGen (Step worker state permits prefetch) delivered after ∧
      _ := handles.ends succeeds
  obtain ⟨after, onward, ended, ⟨value, done⟩, waiting⟩ := ends
  have whole := (run.tail step).trans onward
  obtain ⟨-, outcome, -, event, member, spoken⟩ :=
    over_concluded attempts confirms whole ended.running.2 done
  have settled := ended.said ⟨event, member, by simp [spoken]⟩
  refine ⟨after, onward.head step, ⟨ended.consuming, settled, ?_⟩, waiting⟩
  exact Nat.le_of_lt (Nat.lt_of_le_of_lt ended.running.1 ended.running.2)

/-- An idle service can settle all messages that wait, one after the other. By
induction on the queue. -/
theorem Idle.drains (attempts : 0 < worker.maxRetries) (confirms : 0 < worker.ackRetries)
    (room : 0 < prefetch) (succeeds : ∀ call, permits call .ok)
    (run : Reaches worker state permits prefetch db published consumer) (idle : consumer.Idle) :
    ∃ after, Relation.ReflTransGen (Step worker state permits prefetch) consumer after ∧
      after.broker.waiting = [] ∧ after.broker.unacked = [] := by
  generalize queued : consumer.broker.waiting = messages
  induction messages generalizing consumer with
  | nil => exact ⟨consumer, .refl, queued, idle.2.1⟩
  | cons message others ih =>
    obtain ⟨middle, first, still, waiting⟩ :=
      idle.settles attempts confirms room succeeds run queued
    obtain ⟨after, rest, drained⟩ := ih (run.trans first) still waiting
    exact ⟨after, first.trans rest, drained⟩

end Consumer

/-- The program was started from an environment. In every state that it then reaches, under any
failures that never make success impossible, it can go on so that every published message is
acked or rejected, each of them once. -/
theorem messages_settleable (handler : InstanceHandler) (repr : String → String)
    (environ : Environ) (config : Config) (started : Config.fromEnv repr environ = .ok config)
    (state : FieldErrors) (permits : Faults) (succeeds : ∀ call, permits call .ok) (db : Cmdb)
    (published : List Delivery) (consumer : Consumer)
    (run : consumer.Reaches (buildHandlerService handler config) state permits
      config.amqpPrefetchCount.toNat db published) :
    ∃ after, Relation.ReflTransGen (Consumer.Step (buildHandlerService handler config) state
        permits config.amqpPrefetchCount.toNat) consumer after ∧
      (after.broker.settled.map Prod.snd).Perm published := by
  have valid := Config.fromEnv_valid started
  have attempts : 0 < (buildHandlerService handler config).maxRetries := by
    have least := valid.retries
    change 0 < config.maxMessageProcessRetries.toNat
    omega
  have confirms : 0 < (buildHandlerService handler config).ackRetries := Nat.zero_lt_succ 2
  have room : 0 < config.amqpPrefetchCount.toNat := by
    have least := valid.prefetch
    omega
  let restarted : Consumer := { consumer with
    broker := consumer.broker.requeue
    first := consumer.received.length
    activeTasks := []
    phase := .consuming }
  have restart : Consumer.Step (buildHandlerService handler config) state permits
    config.amqpPrefetchCount.toNat consumer restarted := .restarted
  have idle : restarted.Idle := ⟨rfl, rfl, Nat.le_refl _⟩
  obtain ⟨after, onward, none, closed⟩ := idle.drains attempts confirms room succeeds
    (run.tail restart)
  refine ⟨after, onward.head restart, ?_⟩
  have conserved := (Consumer.received_published ((run.tail restart).trans onward)).1
  rw [Broker.contents, none, closed] at conserved
  exact conserved

/-- The service of the small environment. -/
def smallService : MessageHandlerService :=
  buildHandlerService AsciiRuntime.handler (Config.smallConfig 5671)

/-- Both messages are delivered and the delete is begun, with its first reply lost. -/
def twoBegun : Consumer :=
  Consumer.work (fun _ => [(1, lostReply)]) [0, 0]
    (((Consumer.start neighbours twoMessages).receive smallService).receive smallService)

/-- A service stopped with two messages begun and neither confirmed still has a
continuation that settles both. -/
theorem messages_settleable_twoBegun :
    twoBegun.broker.unacked.map Prod.fst = [0, 1] ∧
      ∃ after, Relation.ReflTransGen (Consumer.Step smallService {} everyFault 10) twoBegun after ∧
        (after.broker.settled.map Prod.snd).Perm twoMessages := by
  refine ⟨rfl, messages_settleable AsciiRuntime.handler id (Config.smallEnviron " 5_671")
    (Config.smallConfig 5671) rfl {} everyFault (fun _ => trivial) neighbours twoMessages
    twoBegun ?_⟩
  apply Consumer.work_reaches (fun _ => trivial) fun _ _ _ _ => trivial
  · rintro ⟨⟩
  · intro task member
    refine ⟨Nat.zero_le task, ?_⟩
    change task < 2
    simp only [List.mem_cons, List.not_mem_nil, or_false] at member
    omega
  · apply Consumer.receive_reaches _ rfl (by decide)
    exact Consumer.receive_reaches .refl rfl (by decide)

end InstanceLifecycle
