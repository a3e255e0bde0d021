import InstanceLifecycle.Service.Rules
import InstanceLifecycle.Handler.Footprints

/-!
# Redelivery of a message

An action has an exact effect if every state it passes through still leads to the same store, and
a normal end has reached it. A message with such an action may then be interrupted anywhere, by a
failing attempt, a restart of the process or a lost `ack`: as soon as one of its deliveries is
acked, the store is as after a single undisturbed one.
-/

namespace InstanceLifecycle

open Interaction InstanceHandler

/-- Of an action that failed nothing more is asked. -/
theorem error_not_ok {α : Type} {exc : Exn} {asked : Prop} :
    ∀ value : α, (.error exc : Except Exn α) = .ok value → asked := by
  intro value impossible
  cases impossible

/-- Lost requests and replies do not divert the action from what it leaves: it may be interrupted
anywhere and started over. -/
def Resumes (leaves : Cmdb → Cmdb) (action : Run Unit) : Prop :=
  ∀ target state world, leaves world.db = target →
    action.Ensures (faulty transportFaults) (fun after => leaves after.db = target)
      (fun result _ after => leaves after.db = target ∧
        ∀ value, result = .ok value → after.db = target) state world

/-- The action of the message does. -/
def Exact (handler : InstanceHandler) (message : Message) (leaves : Cmdb → Cmdb) : Prop :=
  Resumes leaves (handler.dispatch message)

section Message

variable {worker : MessageHandlerService} {message : Message} {leaves : Cmdb → Cmdb}
  {target : Cmdb} {state : FieldErrors} {world : World}

/-- An attempt calls the CMDB and so acks nothing. -/
theorem dispatch_unacked {handler : InstanceHandler} {permits : Faults}
    (unacked : world.acked = false) :
    (handler.dispatch message).Ensures (faulty permits) (fun after => after.acked = false)
      (fun _ _ after => after.acked = false) state world := by
  have only : (handler.dispatch message).Only (calls fun _ => True) := dispatch_only fun _ => trivial
  apply calls_ensures only (fun after => after.acked = false) _ (fun _ held => held) unacked
  exact fun before held op _ outcome _ => (before.next_acked op outcome).trans held

/-- The retry rule: an attempt that fails may be repeated, and a message that is acked is done. -/
theorem Exact.handleMessage (exact : Exact worker.handler message leaves)
    (attempts : worker.maxRetries ≠ 0) (leads : leaves world.db = target)
    (unacked : world.acked = false) :
    (worker.handleMessage (.ok message)).Ensures (faulty transportFaults)
      (fun after => leaves after.db = target)
      (fun _ _ after => leaves after.db = target ∧ (after.acked = true → after.db = target))
      state world := by
  have records := (faulty_within transportFaults).records
  refine (MessageHandlerService.handleMessage_ensures records
    (fun after => leaves after.db = target ∧ after.acked = false)
    (fun after => leaves after.db = target ∧ after.db = target)
    (fun after => leaves after.db = target ∧ after.acked = false)
    (fun after => leaves after.db = target ∧ after.db = target)
    (fun after => leaves after.db = target ∧ after.acked = false)
    (fun none => absurd none attempts) ?_ ?_ ?_ (fun _ _ => ⟨id, id⟩) ⟨leads, unacked⟩).mono ?_
  · rintro state world ⟨leads, unacked⟩
    apply MessageHandlerService.processDelivery_ensures records leads
    have started : (world.record ⟨.started message, ()⟩).acked = false :=
      (world.record_acked _ rfl).trans unacked
    refine (((exact target state (world.record ⟨.started message, ()⟩) leads).and
      (dispatch_unacked started)).env_mono (fun _ _ _ _ step => step) fun _ held => held.1).mono ?_
    rintro result final after ⟨⟨leads, done⟩, unacked⟩
    cases result with
    | ok value => exact ⟨leads, done value rfl⟩
    | error exc => exact ⟨⟨leads, unacked⟩, fun _ => ⟨leads, unacked⟩⟩
  · rintro reply world (done | done)
    · exact ⟨done.1, done⟩
    · exact ⟨done.1, done⟩
  · rintro reply world (failed | failed)
    · exact ⟨failed.1, failed.1, (world.record_acked _ rfl).trans failed.2⟩
    · exact ⟨failed.1, failed.1, (world.record_acked _ rfl).trans failed.2⟩
  · rintro _ _ after (done | failed)
    · exact ⟨done.1, fun _ => done.2⟩
    · refine ⟨failed.1, fun acked => ?_⟩
      rw [failed.2] at acked
      cases acked

end Message

/-! ## Deliveries of one message -/

/-- The message is delivered until it is acked; any delivery before may break off anywhere. -/
inductive Redelivered (worker : MessageHandlerService) (message : Message) : Cmdb → Cmdb → Prop
  | acked {db : Cmdb} {last : World} {state : FieldErrors} {exit : Except Exn Unit × FieldErrors}
      (run : Prog.Ends (faulty transportFaults) ⟨db, []⟩
        (worker.handleMessage (.ok message) state) exit last)
      (acked : last.acked = true) : Redelivered worker message db last.db
  | again {db last : Cmdb} {middle : World} {state : FieldErrors}
      {rest : Prog service (Except Exn Unit × FieldErrors)}
      (run : Prog.Steps (faulty transportFaults) ⟨db, []⟩
        (worker.handleMessage (.ok message) state) middle rest)
      (later : Redelivered worker message middle.db last) : Redelivered worker message db last

/-- The messages one after the other, each until it is acked. -/
inductive RedeliveredInTurn (worker : MessageHandlerService) : List Message → Cmdb → Cmdb → Prop
  | done (db : Cmdb) : RedeliveredInTurn worker [] db db
  | next {message : Message} {rest : List Message} {db middle last : Cmdb}
      (first : Redelivered worker message db middle)
      (later : RedeliveredInTurn worker rest middle last) :
      RedeliveredInTurn worker (message :: rest) db last

section Deliveries

variable {worker : MessageHandlerService} {message : Message} {messages : List Message}
  {leaves : Cmdb → Cmdb} {db last : Cmdb}

/-- By induction on the deliveries: each of them leads where the first one led. -/
theorem Exact.redelivered (exact : Exact worker.handler message leaves)
    (attempts : worker.maxRetries ≠ 0) (run : Redelivered worker message db last) :
    last = leaves db := by
  induction run with
  | acked run acked =>
    have ended := (exact.handleMessage attempts rfl rfl).at_end run
    exact ended.2 acked
  | again run later ih =>
    have leads := (exact.handleMessage attempts rfl rfl).always rfl run
    exact ih.trans leads

/-- Messages with an exact effect, each redelivered until it is acked, leave the
store that the effects lead to in turn. The induction is on the messages, and
one message is `Redelivered.takes_effect`. -/
theorem RedeliveredInTurn.takes_effect {effect : Message → Cmdb → Cmdb}
    (exact : ∀ message ∈ messages, Exact worker.handler message (effect message))
    (attempts : worker.maxRetries ≠ 0) (run : RedeliveredInTurn worker messages db last) :
    last = messages.foldl (fun db message => effect message db) db := by
  induction run with
  | done db => rfl
  | next first later ih =>
    have left := (exact _ List.mem_cons_self).redelivered attempts first
    rw [List.foldl_cons, ← left]
    exact ih fun other member => exact other (List.mem_cons_of_mem _ member)

end Deliveries

end InstanceLifecycle
