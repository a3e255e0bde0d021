import InstanceLifecycle.Concurrency.Isolation
import InstanceLifecycle.Messaging.Broker
import Mathlib.Logic.Relation

/-!
# The consumer

`main` consumes until a signal, then cancels its consumer, waits for the tasks that are active,
and closes the connection. The broker hands out a message while fewer than the prefetch count are
unacked, and every delivery becomes a task of its own. The reply to an `ack` or a `nack` says
nothing about whether it reached the broker, a connection may be lost at any time, and so may the
process; both put the open deliveries back into the queue.

Tasks are numbered in the order of their deliveries, over all processes.
-/

namespace InstanceLifecycle

open Interaction Messaging Store

/-- What is left of one `handle_message`, as the tree of its remaining calls. -/
abbrev Task := Prog service (Except Exn Unit × FieldErrors)

/-- Where `main` is: it waits for the event, for the broker to cancel, for the tasks, or is over. -/
inductive Consumer.Phase where
  | consuming
  | cancelling
  | draining (awaited : List Nat)
  | closed

/-- Does the broker still deliver? Until the cancellation is confirmed it may. -/
def Consumer.Phase.delivers : Consumer.Phase → Bool
  | .consuming => true
  | .cancelling => true
  | _ => false

/-- What a call of the broker says about the delivery, for the calls that say
something. -/
def ServiceOp.verdict : ServiceOp → Option Verdict
  | .ack => some .acked
  | .nack => some .rejected
  | _ => none

/-- The service with its queue: the store and what each task has heard, the queue, the deliveries
and what is left of their tasks, the first task of the running process, and its active tasks. -/
structure Consumer where
  crowd : Crowd Nat
  broker : Broker Delivery
  received : List Delivery
  tasks : Nat → Task
  first : Nat
  activeTasks : List Nat
  phase : Consumer.Phase

namespace Consumer

/-- Nothing is delivered yet: all messages wait, and there is no task. -/
def start (db : Cmdb) (published : List Delivery) : Consumer where
  crowd := .start db
  broker := .publish published
  received := []
  tasks := fun _ => .done (.ok (), {})
  first := 0
  activeTasks := []
  phase := .consuming

variable (consumer : Consumer)

/-- Is it a task of the running process? Tasks of an earlier process were
abandoned when it broke off. -/
def Running (task : Nat) : Prop := consumer.first ≤ task ∧ task < consumer.received.length

/-- The callback of `get_wrapper`: the message becomes a task, which is tracked. -/
def wrapper (worker : MessageHandlerService) (state : FieldErrors) (message : Delivery) :
    Consumer :=
  { consumer with
    received := consumer.received ++ [message]
    tasks := Function.update consumer.tasks consumer.received.length
      (worker.handleMessage message state)
    activeTasks := consumer.activeTasks ++ [consumer.received.length] }

/-- `active_tasks.discard(task)`, called once the task is over. -/
def doneCallback (task : Nat) : Consumer :=
  { consumer with activeTasks := consumer.activeTasks.filter (fun active => !decide (active = task)) }

/-- The broker after a call of a task: an `ack` or `nack` that reached it settles the delivery. -/
def settled (task : Nat) (op : ServiceOp) (landed : Bool) : Broker Delivery :=
  match op.verdict with
  | some verdict => if landed then consumer.broker.settle task verdict else consumer.broker
  | none => consumer.broker

/-- A task called, and goes on with the reply. If the call was a confirmation
that reached the broker, the delivery is settled. -/
def called (task : Nat) (op : ServiceOp) (landed : Bool) (rest : Task) (crowd : Crowd Nat) :
    Consumer :=
  { consumer with
    crowd := crowd
    broker := consumer.settled task op landed
    tasks := Function.update consumer.tasks task rest }

/-- `asyncio.gather` returns when all tasks are done, or raises what one of them raised. -/
def Gathers (awaited : List Nat) : Prop :=
  (∀ task ∈ awaited, ∃ value, consumer.tasks task = .done value) ∨
    ∃ task ∈ awaited, ∃ exc final, consumer.tasks task = .done (.error exc, final)

/-- One step of the service, of the broker, or of the world around them. -/
inductive Step (worker : MessageHandlerService) (state : FieldErrors) (permits : Faults)
    (prefetch : Nat) : Consumer → Consumer → Prop where
  | deliver {consumer : Consumer} {message : Delivery} {others : List Delivery}
      (delivers : consumer.phase.delivers = true)
      (room : consumer.broker.unacked.length < prefetch)
      (queued : consumer.broker.waiting.Perm (message :: others)) :
      Step worker state permits prefetch consumer
        { consumer.wrapper worker state message with
          broker := consumer.broker.deliver consumer.received.length message others }
  | call {consumer : Consumer} {task : Nat} {op : ServiceOp} {next : op.Reply → Task}
      {reply : op.Reply} {crowd : Crowd Nat} (landed : Bool) (open_ : consumer.phase ≠ .closed)
      (running : consumer.Running task) (turn : consumer.tasks task = .call op next)
      (answered : crowding permits task op consumer.crowd reply crowd) :
      Step worker state permits prefetch consumer
        (consumer.called task op landed (next reply) crowd)
  | finish {consumer : Consumer} {task : Nat} {value : Except Exn Unit × FieldErrors}
      (ended : consumer.tasks task = .done value) :
      Step worker state permits prefetch consumer (consumer.doneCallback task)
  | signal {consumer : Consumer} (consuming : consumer.phase = .consuming) :
      Step worker state permits prefetch consumer { consumer with phase := .cancelling }
  | cancelled {consumer : Consumer} (cancelling : consumer.phase = .cancelling) :
      Step worker state permits prefetch consumer
        { consumer with phase := .draining consumer.activeTasks }
  | gathered {consumer : Consumer} {awaited : List Nat}
      (draining : consumer.phase = .draining awaited) (gathers : consumer.Gathers awaited) :
      Step worker state permits prefetch consumer
        { consumer with phase := .closed, broker := consumer.broker.requeue }
  | connectionLost {consumer : Consumer} :
      Step worker state permits prefetch consumer
        { consumer with broker := consumer.broker.requeue }
  | restarted {consumer : Consumer} :
      Step worker state permits prefetch consumer
        { consumer with
          broker := consumer.broker.requeue
          first := consumer.received.length
          activeTasks := []
          phase := .consuming }

/-- The states a service passes through from an empty start, by any number of
steps. -/
abbrev Reaches (worker : MessageHandlerService) (state : FieldErrors) (permits : Faults)
    (prefetch : Nat) (db : Cmdb) (published : List Delivery) (consumer : Consumer) : Prop :=
  Relation.ReflTransGen (Step worker state permits prefetch) (start db published) consumer

variable {worker : MessageHandlerService} {state : FieldErrors} {permits : Faults}
  {prefetch : Nat} {db : Cmdb} {published : List Delivery} {consumer after : Consumer}

/-! ## Messages -/

/-- A confirmation moves a delivery and loses none. -/
theorem settled_contents (task : Nat) (op : ServiceOp) (landed : Bool) :
    (consumer.settled task op landed).contents.Perm consumer.broker.contents := by
  unfold settled
  split
  · split
    · exact consumer.broker.contents_settle task _
    · exact List.Perm.refl _
  · exact List.Perm.refl _

/-- And it makes none unacked. -/
theorem settled_unacked_length (task : Nat) (op : ServiceOp) (landed : Bool) :
    (consumer.settled task op landed).unacked.length ≤ consumer.broker.unacked.length := by
  unfold settled
  split
  · split
    · exact consumer.broker.settle_unacked_length task _
    · exact Nat.le_refl _
  · exact Nat.le_refl _

/-- The step lemma: a step moves messages and neither creates nor loses one. -/
theorem step_contents (step : Step worker state permits prefetch consumer after) :
    after.broker.contents.Perm consumer.broker.contents := by
  cases step with
  | deliver delivers room queued => exact consumer.broker.contents_deliver _ queued
  | call landed open_ running turn answered => exact settled_contents _ _ landed
  | finish ended => exact List.Perm.refl _
  | signal consuming => exact List.Perm.refl _
  | cancelled cancelling => exact List.Perm.refl _
  | gathered draining gathers => exact consumer.broker.contents_requeue
  | connectionLost => exact consumer.broker.contents_requeue
  | restarted => exact consumer.broker.contents_requeue

/-- No step exceeds the prefetch count: a delivery waits until there is room. -/
theorem step_unacked (step : Step worker state permits prefetch consumer after)
    (within : consumer.broker.unacked.length ≤ prefetch) :
    after.broker.unacked.length ≤ prefetch := by
  cases step with
  | deliver delivers room queued =>
    simp only [Broker.deliver, List.length_append, List.length_singleton]
    omega
  | call landed open_ running turn answered =>
    exact Nat.le_trans (settled_unacked_length _ _ landed) within
  | finish ended => exact within
  | signal consuming => exact within
  | cancelled cancelling => exact within
  | gathered draining gathers => exact Nat.zero_le _
  | connectionLost => exact Nat.zero_le _
  | restarted => exact Nat.zero_le _

/-! ## Tasks of one interleaving -/

/-- The tasks of the deliveries, the past ones as they are and the future ones as they start. -/
def ahead (worker : MessageHandlerService) (state : FieldErrors) (deliveries : Nat → Delivery)
    (consumer : Consumer) (task : Nat) : Task :=
  if task < consumer.received.length then consumer.tasks task
  else worker.handleMessage (deliveries task) state

/-- The deliveries of a run, continued in any way. The tasks of a run are an
initial stretch of the tasks of these deliveries. -/
def Continues (consumer : Consumer) (deliveries : Nat → Delivery) : Prop :=
  ∀ task message, consumer.received[task]? = some message → deliveries task = message

/-- Starting the task of a delivery changes nothing in the view that had it
started already. -/
theorem ahead_wrapper {deliveries : Nat → Delivery} {message : Delivery}
    (continues : (consumer.wrapper worker state message).Continues deliveries) :
    ahead worker state deliveries (consumer.wrapper worker state message) =
      ahead worker state deliveries consumer := by
  funext task
  simp only [ahead, wrapper, List.length_append, List.length_singleton]
  rcases Nat.lt_trichotomy task consumer.received.length with old | rfl | later
  · rw [if_pos (by omega), if_pos old, Function.update_of_ne (by omega)]
  · have named : deliveries consumer.received.length = message :=
      continues _ message (by simp [wrapper])
    rw [if_pos (by omega), if_neg (by omega), Function.update_self, named]
  · rw [if_neg (by omega), if_neg (by omega)]

/-- A call of a task is that task's move in this view. -/
theorem ahead_called {deliveries : Nat → Delivery} {task : Nat} {op : ServiceOp} {landed : Bool}
    {rest : Task} {crowd : Crowd Nat} (old : task < consumer.received.length) :
    ahead worker state deliveries (consumer.called task op landed rest crowd) =
      Function.update (ahead worker state deliveries consumer) task rest := by
  funext other
  by_cases same : other = task
  · subst same
    simp [ahead, called, old]
  · simp [ahead, called, same]

/-- The calls of the service are an interleaving of its deliveries, whatever the broker does.
By induction on the run, for deliveries that go on as the run does. -/
theorem interleaved (run : Reaches worker state permits prefetch db published consumer)
    {deliveries : Nat → Delivery} (continues : consumer.Continues deliveries) :
    Interleaved (crowding permits) (Crowd.start db) (deliveryTasks worker deliveries state)
      consumer.crowd (ahead worker state deliveries consumer) := by
  induction run with
  | refl =>
    have none : ahead worker state deliveries (start db published) =
        deliveryTasks worker deliveries state := by
      funext task
      exact if_neg (Nat.not_lt_zero task)
    rw [none]
    exact .refl _ _
  | @tail before after run step ih =>
    cases step with
    | deliver delivers room queued =>
      have earlier : before.Continues deliveries := by
        intro task message there
        apply continues task message
        rw [wrapper, List.getElem?_append_left (List.getElem?_eq_some_iff.mp there).1]
        exact there
      exact (ahead_wrapper continues).symm ▸ ih earlier
    | call landed open_ running turn answered =>
      have turn' : ahead worker state deliveries before _ = _ := (if_pos running.2).trans turn
      rw [ahead_called running.2]
      exact (ih continues).trans (.call turn' answered (.refl _ _))
    | finish ended => exact ih continues
    | signal consuming => exact ih continues
    | cancelled cancelling => exact ih continues
    | gathered draining gathers => exact ih continues
    | connectionLost => exact ih continues
    | restarted => exact ih continues

/-- The deliveries of a run as a sequence that goes on with unreadable ones. -/
def deliveries (consumer : Consumer) (task : Nat) : Delivery :=
  consumer.received.getD task (.error (.otherException "not delivered"))

/-- The deliveries themselves, continued by a failure. -/
theorem continues_deliveries (consumer : Consumer) : consumer.Continues consumer.deliveries := by
  intro task message there
  rw [deliveries, List.getD_eq_getElem?_getD, there]
  rfl

/-- A delivery of the run was received, unless it is the continuation. -/
theorem deliveries_received (consumer : Consumer) (task : Nat) :
    consumer.deliveries task ∈ consumer.received ∨
      consumer.deliveries task = .error (.otherException "not delivered") := by
  rw [deliveries, List.getD_eq_getElem?_getD]
  cases there : consumer.received[task]? with
  | none => exact Or.inr rfl
  | some delivery => exact Or.inl (List.mem_of_getElem? there)

/-- Only published messages are delivered: the broker's contents are a
permutation of them at all times. -/
theorem received_published (run : Reaches worker state permits prefetch db published consumer) :
    consumer.broker.contents.Perm published ∧ consumer.received ⊆ published := by
  induction run with
  | refl =>
    refine ⟨?_, List.nil_subset published⟩
    rw [start, Broker.contents_publish]
  | @tail before after run step ih =>
    obtain ⟨conserved, received⟩ := ih
    refine ⟨(step_contents step).trans conserved, ?_⟩
    cases step with
    | deliver delivers room queued =>
      refine List.append_subset.mpr ⟨received, List.cons_subset.mpr ⟨?_, List.nil_subset _⟩⟩
      apply conserved.subset
      exact List.mem_append_left _ (queued.symm.subset List.mem_cons_self)
    | call landed open_ running turn answered => exact received
    | finish ended => exact received
    | signal consuming => exact received
    | cancelled cancelling => exact received
    | gathered draining gathers => exact received
    | connectionLost => exact received
    | restarted => exact received

/-- The messages of a run are published. -/
theorem deliveries_published (run : Reaches worker state permits prefetch db published consumer)
    {task : Nat} {message : Message} (delivered : consumer.deliveries task = .ok message) :
    .ok message ∈ published := by
  rcases consumer.deliveries_received task with received | undelivered
  · exact (received_published run).2 (delivered ▸ received)
  · rw [delivered] at undelivered
    cases undelivered

/-! ## Executed runs -/

/-- Deliver the first message that waits, if any does. -/
def receive (worker : MessageHandlerService) (consumer : Consumer) : Consumer :=
  match consumer.broker.waiting with
  | [] => consumer
  | message :: others => { consumer.wrapper worker {} message with
      broker := consumer.broker.deliver consumer.received.length message others }

/-- One call of each task whose turn it is, with replies by a script; what it tells the broker
arrives. -/
def work (script : Nat → List (Nat × Outcome)) : List Nat → Consumer → Consumer
  | [], consumer => consumer
  | task :: turns, consumer =>
      match consumer.tasks task with
      | .done _ => work script turns (consumer.doneCallback task)
      | .call op next => work script turns (consumer.called task op true
          (next (Crowd.scripted script task op consumer.crowd).1)
          (Crowd.scripted script task op consumer.crowd).2)

/-- It is a step, if there is room and the broker delivers. -/
theorem receive_reaches (run : Reaches worker {} permits prefetch db published consumer)
    (delivers : consumer.phase.delivers = true)
    (room : consumer.broker.unacked.length < prefetch) :
    Reaches worker {} permits prefetch db published (consumer.receive worker) := by
  rw [receive]
  split
  · exact run
  · rename_i message others waiting
    exact run.tail (.deliver delivers room (waiting ▸ List.Perm.refl _))

/-- Tasks may be worked off call by call in any order of turns. By induction on
the turns. -/
theorem work_reaches {script : Nat → List (Nat × Outcome)} (succeeds : ∀ call, permits call .ok)
    (permitted : ∀ task, ∀ entry ∈ script task, ∀ call, permits call entry.2) (turns : List Nat)
    (open_ : consumer.phase ≠ .closed) (running : ∀ task ∈ turns, consumer.Running task)
    (run : Reaches worker state permits prefetch db published consumer) :
    Reaches worker state permits prefetch db published (work script turns consumer) := by
  induction turns generalizing consumer with
  | nil => exact run
  | cons task turns ih =>
    have later := fun other member => running other (List.mem_cons_of_mem task member)
    rw [work]
    split
    · rename_i value ended
      exact ih open_ later (run.tail (.finish ended))
    · rename_i op next turn
      exact ih open_ later (run.tail (.call true open_ (running task List.mem_cons_self) turn
        (scripted_crowding succeeds permitted task op consumer.crowd)))

end Consumer

/-- In every run of the service: a server that no published message names keeps its columns, its
endpoints, their IPs and its rails, through every delivery and redelivery. -/
theorem service_spares_unnamed (worker : MessageHandlerService) (state : FieldErrors)
    (permits : Faults) (prefetch : Nat) (db : Cmdb) (published : List Delivery)
    (server : Row Columns) (stored : server ∈ db.servers.rows)
    (unnamed : ∀ delivery ∈ published, ∀ key ∈ worker.keysOf delivery, key.holds server = false)
    (consumer : Consumer) (run : consumer.Reaches worker state permits prefetch db published) :
    Cmdb.SameRows (consumer.crowd.db.host server.id) (db.host server.id) := by
  have known := (Consumer.received_published run).2
  have apart : ∀ task, ∀ key ∈ worker.keysOf (consumer.deliveries task),
      key.holds server = false := by
    intro task key named
    rcases consumer.deliveries_received task with delivered | undelivered
    · exact unnamed _ (known delivered) key named
    · rw [undelivered] at named
      cases named
  exact (untouched_run stored apart
    (Consumer.interleaved run consumer.continues_deliveries)).same

/-- A delete of the host `u1`, and a message that cannot be read. -/
def twoMessages : List Delivery :=
  [.ok (AsciiRuntime.deleteMessage "u1"), .error (.jsonDecodeError "Expecting value")]

/-- Both are delivered and settled, the delete after its reply was lost once. -/
def twoSettled : Consumer :=
  Consumer.work (fun _ => [(2, lostReply)]) [0, 1, 0, 0, 0, 0]
    (((Consumer.start neighbours twoMessages).receive AsciiRuntime.service).receive
      AsciiRuntime.service)

/-- The two messages are delivered, settled and acked. -/
theorem twoSettled_reaches :
    twoSettled.Reaches AsciiRuntime.service {} everyFault 10 neighbours twoMessages := by
  apply Consumer.work_reaches (fun _ => trivial) fun _ _ _ _ => trivial
  · rintro ⟨⟩
  · intro task member
    refine ⟨Nat.zero_le task, ?_⟩
    change task < 2
    simp only [List.mem_cons, List.not_mem_nil, or_false] at member
    omega
  · apply Consumer.receive_reaches _ rfl (by decide)
    exact Consumer.receive_reaches .refl rfl (by decide)

/-- At the end of that service the host that neither message names is as before. -/
theorem service_spares_unnamed_twoSettled :
    Cmdb.SameRows (twoSettled.crowd.db.host 1) (neighbours.host 1) := by
  refine service_spares_unnamed AsciiRuntime.service {} everyFault 10 neighbours twoMessages
    neighbour (List.mem_cons_of_mem _ List.mem_cons_self) ?_ twoSettled twoSettled_reaches
  intro delivery published key named
  rcases List.mem_cons.mp published with rfl | last
  · rw [List.mem_singleton.mp named]
    decide
  · rw [List.mem_singleton.mp last] at named
    cases named

end InstanceLifecycle
