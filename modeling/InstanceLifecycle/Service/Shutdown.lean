import InstanceLifecycle.Service.AtLeastOnce

/-!
# Shutdown

A task is in `active_tasks` from its delivery until its callback runs, so the tasks that `main`
collects after the cancel are all that are not over, and nothing is delivered any more. It waits
until all of them are done, since none of them raises, and so no message is left half processed.
-/

namespace InstanceLifecycle

open Interaction Messaging

namespace Consumer

variable {worker : MessageHandlerService} {permits : Faults} {state : FieldErrors}
  {prefetch : Nat} {db : Cmdb} {published : List Delivery} {consumer after : Consumer} {task : Nat}

/-- Nothing is left of the task: it has returned or raised. -/
def Over (consumer : Consumer) (task : Nat) : Prop := ∃ value, consumer.tasks task = .done value

/-- The active tasks are those of the running process that are not over, and perhaps some that
are; while `main` waits it waits for all of them, and at the end all are over or one has raised. -/
structure Tracked (consumer : Consumer) : Prop where
  first : consumer.first ≤ consumer.received.length
  active : ∀ task ∈ consumer.activeTasks, consumer.Running task
  idle : ∀ task, consumer.Running task → task ∉ consumer.activeTasks → consumer.Over task
  awaited : ∀ awaited, consumer.phase = .draining awaited → consumer.activeTasks ⊆ awaited
  asked : ∀ awaited, consumer.phase = .draining awaited → ∀ task ∈ awaited, consumer.Running task
  closed : consumer.phase = .closed → (∀ task, consumer.Running task → consumer.Over task) ∨
    ∃ task exc final, consumer.Running task ∧ consumer.tasks task = .done (.error exc, final)

/-- The process starts with no task and in its consuming phase, so there is
nothing to track. -/
theorem Tracked.start : (Consumer.start db published).Tracked where
  first := Nat.le_refl _
  active := fun _ member => nomatch member
  idle := fun _ running => absurd running.2 (Nat.not_lt_zero _)
  awaited := fun _ draining => nomatch draining
  asked := fun _ draining => nomatch draining
  closed := fun shut => nomatch shut

/-- A delivery starts one task, and the callback registers it as active in the
same step. -/
theorem Tracked.wrapper (tracked : consumer.Tracked) (delivers : consumer.phase.delivers = true)
    (message : Delivery) (broker : Broker Delivery) :
    { consumer.wrapper worker state message with broker := broker }.Tracked := by
  have first := tracked.first
  constructor
  · simp only [Consumer.wrapper, List.length_append, List.length_singleton]
    omega
  · intro task member
    simp only [Running, Consumer.wrapper, List.length_append, List.length_singleton]
    rcases List.mem_append.mp member with old | new
    · have running := tracked.active task old
      exact ⟨running.1, Nat.lt_succ_of_lt running.2⟩
    · rw [List.mem_singleton.mp new]
      exact ⟨first, Nat.lt_succ_self _⟩
  · intro task running idle
    simp only [Running, Consumer.wrapper, List.length_append, List.length_singleton] at running
    have older : task ≠ consumer.received.length := by
      rintro rfl
      exact idle (List.mem_append_right _ (List.mem_singleton_self _))
    obtain ⟨value, ended⟩ := tracked.idle task ⟨running.1, by omega⟩
      fun active => idle (List.mem_append_left _ active)
    exact ⟨value, (Function.update_of_ne older _ _).trans ended⟩
  · intro awaited draining
    change consumer.phase = _ at draining
    rw [draining] at delivers
    cases delivers
  · intro awaited draining
    change consumer.phase = _ at draining
    rw [draining] at delivers
    cases delivers
  · intro shut
    change consumer.phase = _ at shut
    rw [shut] at delivers
    cases delivers

/-- A call of a task leaves the tracked sets alone: a task that is over makes no
call, so those outside the active ones stay over. -/
theorem Tracked.called (tracked : consumer.Tracked) (open_ : consumer.phase ≠ .closed)
    {op : ServiceOp} {next : op.Reply → Task} (turn : consumer.tasks task = .call op next)
    (landed : Bool) (rest : Task) (crowd : Crowd Nat) :
    (consumer.called task op landed rest crowd).Tracked := by
  refine ⟨tracked.first, tracked.active, ?_, tracked.awaited, tracked.asked,
    fun shut => absurd shut open_⟩
  intro other running idle
  obtain ⟨value, ended⟩ := tracked.idle other running idle
  have apart : other ≠ task := by
    rintro rfl
    rw [turn] at ended
    cases ended
  exact ⟨value, (Function.update_of_ne apart _ _).trans ended⟩

/-- The callback of a task that ended takes it off the active ones, and off
these only tasks that are over may be missing. -/
theorem Tracked.doneCallback (tracked : consumer.Tracked) (ended : consumer.Over task) :
    (consumer.doneCallback task).Tracked := by
  refine ⟨tracked.first, ?_, ?_, ?_, tracked.asked, tracked.closed⟩
  · exact fun other member => tracked.active other (List.mem_filter.mp member).1
  · intro other running idle
    by_cases same : other = task
    · exact same ▸ ended
    · exact tracked.idle other running fun active =>
        idle (List.mem_filter.mpr ⟨active, by simp [same]⟩)
  · exact fun awaited draining other member =>
      tracked.awaited awaited draining (List.mem_filter.mp member).1

/-- The tasks that are awaited are over, and so are the others, which were not active. -/
theorem Tracked.gathered (tracked : consumer.Tracked) {awaited : List Nat}
    (draining : consumer.phase = .draining awaited) (gathers : consumer.Gathers awaited)
    (broker : Broker Delivery) :
    { consumer with phase := .closed, broker := broker }.Tracked := by
  refine ⟨tracked.first, tracked.active, tracked.idle, by rintro _ ⟨⟩, by rintro _ ⟨⟩, fun _ => ?_⟩
  rcases gathers with all | ⟨task, member, exc, final, raised⟩
  · left
    intro task running
    by_cases active : task ∈ consumer.activeTasks
    · exact all task (tracked.awaited awaited draining active)
    · exact tracked.idle task running active
  · exact Or.inr ⟨task, exc, final, tracked.asked awaited draining task member, raised⟩

/-- Every step of the service keeps its tasks tracked. By cases on the step; the
signal is where the active tasks become the awaited ones. -/
theorem Tracked.step (tracked : consumer.Tracked)
    (step : Step worker state permits prefetch consumer after) : after.Tracked := by
  cases step with
  | deliver delivers room queued => exact tracked.wrapper delivers _ _
  | call landed open_ running turn answered => exact tracked.called open_ turn landed _ _
  | finish ended => exact tracked.doneCallback ⟨_, ended⟩
  | signal consuming =>
    exact ⟨tracked.first, tracked.active, tracked.idle, by rintro _ ⟨⟩, by rintro _ ⟨⟩, by rintro ⟨⟩⟩
  | cancelled cancelling =>
    refine ⟨tracked.first, tracked.active, tracked.idle, ?_, ?_, by rintro ⟨⟩⟩
    · rintro _ ⟨⟩
      exact List.Subset.refl _
    · rintro _ ⟨⟩
      exact tracked.active
  | gathered draining gathers => exact tracked.gathered draining gathers _
  | connectionLost =>
    exact ⟨tracked.first, tracked.active, tracked.idle, tracked.awaited, tracked.asked,
      tracked.closed⟩
  | restarted =>
    refine ⟨Nat.le_refl _, fun _ member => (List.not_mem_nil member).elim, ?_, by rintro _ ⟨⟩,
      by rintro _ ⟨⟩, by rintro ⟨⟩⟩
    exact fun task running => absurd running.2 (Nat.not_lt.mpr running.1)

/-- So in every state that the service reaches its tasks are tracked, by
induction on the run. -/
theorem tracked_run (run : Reaches worker state permits prefetch db published consumer) :
    consumer.Tracked := by
  induction run with
  | refl => exact .start
  | tail run step ih => exact ih.step step

end Consumer

variable {worker : MessageHandlerService} {permits : Faults} {state : FieldErrors}
  {prefetch : Nat} {db : Cmdb} {published : List Delivery} {consumer : Consumer}

/-- A task that is over has returned, and has settled its delivery. -/
theorem Consumer.over_concluded (attempts : 0 < worker.maxRetries) (confirms : 0 < worker.ackRetries)
    (run : consumer.Reaches worker state permits prefetch db published) {task : Nat}
    (old : task < consumer.received.length) {value : Except Exn Unit × FieldErrors}
    (ended : consumer.tasks task = .done value) :
    value.1 = .ok () ∧ Concluded worker permits state db (consumer.deliveries task)
      (consumer.crowd.known task db) := by
  have ensured := (Consumer.accounted_run attempts confirms run task).2
  rw [Consumer.ahead, if_pos old, ended] at ensured
  exact ensured

/-- In every run of the service: a task that is not active any more has returned and has settled
its delivery by the outcome of its attempts, and when the connection is closed this holds of every
task of the process. -/
theorem shutdown_drains (worker : MessageHandlerService) (attempts : 0 < worker.maxRetries)
    (confirms : 0 < worker.ackRetries) (state : FieldErrors) (permits : Faults) (prefetch : Nat)
    (db : Cmdb) (published : List Delivery) (consumer : Consumer)
    (run : consumer.Reaches worker state permits prefetch db published) (task : Nat)
    (running : consumer.Running task)
    (left : task ∉ consumer.activeTasks ∨ consumer.phase = .closed) :
    (∃ final, consumer.tasks task = .done (.ok (), final)) ∧
      Concluded worker permits state db (consumer.deliveries task)
        (consumer.crowd.known task db) := by
  have tracked := Consumer.tracked_run run
  have done : consumer.Over task := by
    rcases left with idle | closed
    · exact tracked.idle task running idle
    · rcases tracked.closed closed with all | ⟨other, exc, final, there, raised⟩
      · exact all task running
      · cases (Consumer.over_concluded attempts confirms run there.2 raised).1
  obtain ⟨⟨result, final⟩, ended⟩ := done
  obtain ⟨rfl, concluded⟩ := Consumer.over_concluded attempts confirms run running.2 ended
  exact ⟨⟨final, ended⟩, concluded⟩

/-- The same service after a signal: it waits for both tasks, whose callbacks have not run yet. -/
def twoDrained : Consumer :=
  { twoSettled with phase := .closed, broker := twoSettled.broker.requeue }

/-- The service that has settled two messages reaches its end by a signal, the
cancellation of the consumer and the wait for both tasks. -/
theorem twoDrained_reaches :
    twoDrained.Reaches AsciiRuntime.service {} everyFault 10 neighbours twoMessages := by
  have cancelled := (twoSettled_reaches.tail (.signal rfl)).tail (.cancelled rfl)
  refine cancelled.tail (.gathered rfl (Or.inl ?_))
  intro task member
  have either : task = 0 ∨ task = 1 := (List.mem_cons.mp member).imp_right List.mem_singleton.mp
  rcases either with rfl | rfl
  · exact ⟨_, rfl⟩
  · exact ⟨_, rfl⟩

/-- At the end of that service the first task has returned and its delivery is
concluded. -/
theorem shutdown_drains_twoDrained :
    (∃ final, twoDrained.tasks 0 = .done (.ok (), final)) ∧
      Concluded AsciiRuntime.service everyFault {} neighbours (twoDrained.deliveries 0)
        (twoDrained.crowd.known 0 neighbours) :=
  shutdown_drains AsciiRuntime.service (by decide) (by decide) {} everyFault 10 neighbours
    twoMessages twoDrained twoDrained_reaches 0 ⟨Nat.le_refl 0, by decide⟩ (Or.inr rfl)

end InstanceLifecycle
