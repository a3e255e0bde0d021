import InstanceLifecycle.Attach.Resumption
import InstanceLifecycle.Delete.Deletion
import InstanceLifecycle.Detach.Redelivery
import InstanceLifecycle.Interaction.Runs
import InstanceLifecycle.Resize.Updates

/-!
# The service as a sequence of effects

Every action but the create has an effect: what it makes of the store when nothing fails. Each
call of such an action is absorbed by the whole of it, so an action that is interrupted and
started over leaves its effect and nothing else. Messages that are delivered until they are acked
therefore take effect once each, in their turn.
-/

namespace InstanceLifecycle

open Interaction Store InstanceHandler

/-! ## The effects -/

namespace InstanceHandler

variable (handler : InstanceHandler)

/-- The condition a delete message removes servers by. -/
def deletedKeys (message : Message) : Option (List ServerKey) :=
  match handler.extractResource message "instance" with
  | .ok (some resource) =>
      match resource.resourceId.item "resource_id" with
      | .ok instanceId => some (removalKeys instanceId (some ""))
      | .error _ => none
  | _ => none

/-- The store that a delete message leaves, processed once and alone. -/
def deleteBy (message : Message) (db : Cmdb) : Cmdb :=
  match handler.deletedKeys message with
  | some keys => db.remove keys
  | none => db

/-- The store that an attach message leaves, processed once and alone. -/
def attachBy (message : Message) (db : Cmdb) : Cmdb :=
  match handler.readAttach message with
  | .ok (some request) => db.attach handler request
  | _ => db

/-- The store that a message other than a create leaves, processed once and alone. -/
def effectOf (message : Message) : Cmdb → Cmdb :=
  match message.actionType with
  | some "delete" => handler.deleteBy message
  | some "resize" => handler.resizeBy message
  | some "attach" => handler.attachBy message
  | some "detach" => handler.detachBy message
  | _ => id

end InstanceHandler

section Actions

variable {handler : InstanceHandler} {message : Message}

/-- A delete that is broken off leaves a store from which the same delete still
leads to the same result. -/
theorem deleteInstances_resumes : Resumes (handler.deleteBy message)
    (handler.deleteInstances message) := by
  intro target state world leads
  have failed : ∀ exc : Exn, handler.deleteBy message world.db = target ∧
      ∀ value, (.error exc : Except Exn Unit) = .ok value → world.db = target :=
    fun exc => ⟨leads, error_not_ok⟩
  rw [deleteInstances, Action.ensures_bind, Action.ensures_lift]
  cases found : handler.extractResource message "instance" with
  | error exc => exact failed exc
  | ok resource =>
    cases resource with
    | none =>
      have idle : handler.deleteBy message world.db = world.db := by
        rw [deleteBy, deletedKeys, found]
      exact ⟨leads, fun _ _ => idle.symm.trans leads⟩
    | some resource =>
      simp only
      rw [Action.ensures_bind, Action.ensures_lift]
      cases item : resource.resourceId.item "resource_id" with
      | error exc => exact failed exc
      | ok uuid =>
        have removes : handler.deleteBy message =
            fun db => db.remove (removalKeys uuid (some "")) := by
          funext db
          simp only [deleteBy, deletedKeys, found, item]
        simp only [removes] at leads ⊢
        refine (removeServer_removing uuid (some "") leads).bind ?_
          fun _ _ _ held => ⟨held.1, error_not_ok⟩
        rintro done middle after ⟨leads, reached⟩
        exact ⟨leads, fun _ _ => reached done rfl⟩

/-- An attach that is broken off leaves a store from which the same attach still
leads to the same result; a message it cannot read leads to no change. -/
theorem attachToInstances_resumes : Resumes (handler.attachBy message)
    (handler.attachToInstances message) := by
  intro target state world leads
  cases read : handler.readAttach message with
  | error exc =>
    rw [attachToInstances, Action.ensures_bind, Action.ensures_lift, read]
    exact ⟨leads, error_not_ok⟩
  | ok found =>
    cases found with
    | none =>
      rw [attachToInstances, Action.ensures_bind, Action.ensures_lift, read]
      have idle : handler.attachBy message world.db = world.db := by rw [attachBy, read]
      exact ⟨leads, fun _ _ => idle.symm.trans leads⟩
    | some request =>
      have attaches : handler.attachBy message = fun db => db.attach handler request := by
        funext db
        rw [attachBy, read]
      rw [attaches] at leads ⊢
      have lossy : ∀ op outcome, transportFaults op outcome → transportFaults op outcome :=
        fun _ _ permitted => permitted
      refine (((attachToInstances_resumed lossy read leads).and
        (attachToInstances_normal lossy read)).env_mono (fun _ _ _ _ step => step)
        fun _ held => held.1).mono ?_
      rintro result final after ⟨resumed, -, exit⟩
      refine ⟨resumed, ?_⟩
      rintro value rfl
      exact exit.trans leads

/-- A detach that is broken off leaves a store from which the same detach still
leads to the same result. -/
theorem detachFromInstances_resumes : Resumes (handler.detachBy message)
    (handler.detachFromInstances message) := by
  intro target state world leads
  have failed : ∀ exc : Exn, handler.detachBy message world.db = target ∧
      ∀ value, (.error exc : Except Exn Unit) = .ok value → world.db = target :=
    fun exc => ⟨leads, error_not_ok⟩
  rw [detachFromInstances, Action.ensures_bind, Action.ensures_lift]
  cases read : handler.readDetach message with
  | error exc => exact failed exc
  | ok found =>
    cases found with
    | none =>
      have idle : handler.detachBy message world.db = world.db := by rw [detachBy, read]
      exact ⟨leads, fun _ _ => idle.symm.trans leads⟩
    | some detached =>
      obtain ⟨address, uuid⟩ := detached
      have detaches : handler.detachBy message = fun db => db.detach address uuid := by
        funext db
        rw [detachBy, read]
      rw [detaches] at leads ⊢
      simp only
      rw [Action.ensures_bind]
      refine transportCall_ensures (fun after => after.db.detach address uuid = target)
        (fun _ => rfl) (fun _ permitted => permitted) leads ?_ ?_
        fun after exc leads => ⟨leads, error_not_ok⟩
      · intro current outcome leads
        have kept := @Cmdb.answer_keeps (fun db => db.detach address uuid = target) current.db
          (.ipDelete address uuid) leads ((current.db.detach_deleteIps address uuid).trans leads) outcome
        exact ⟨kept, kept⟩
      · intro current leads
        rw [Action.ensures_bind]
        -- The second call must not lose what the first one made sure of.
        refine transportCall_ensures (fun after => after.db.detach address uuid = target ∧
            after.db.deleteEndpointsWithoutIps uuid = target) (fun _ => rfl)
          (fun _ permitted => permitted)
          ⟨(current.db.detach_deleteIps address uuid).trans leads, leads⟩ ?_ ?_
          fun after exc held => ⟨held.1, error_not_ok⟩
        · intro later outcome held
          have kept := @Cmdb.answer_keeps (fun db => db.detach address uuid = target ∧
              db.deleteEndpointsWithoutIps uuid = target) later.db (.endpointDeleteWithoutIps uuid)
            held ⟨(later.db.detach_deleteEndpointsWithoutIps address uuid).trans held.1,
              (later.db.deleteEndpointsWithoutIps_twice uuid).trans held.2⟩ outcome
          exact ⟨kept.1, kept⟩
        · intro later held
          exact ⟨(later.db.detach_deleteEndpointsWithoutIps address uuid).trans held.1,
            fun _ _ => held.2⟩

/-- Every message but a create leads to its effect, also when it is broken off
and delivered again. By the kind of the message, each with its own lemma; an
unknown kind does nothing. -/
theorem effectOf_exact (handler : InstanceHandler) (message : Message)
    (other : message.actionType ≠ some "create") :
    Exact handler message (handler.effectOf message) := by
  rw [Exact]
  by_cases delete : message.actionType = some "delete"
  · simpa only [dispatch, effectOf, delete] using deleteInstances_resumes
  by_cases resize : message.actionType = some "resize"
  · simpa only [dispatch, effectOf, resize] using resizeInstances_resumes handler message
  by_cases attach : message.actionType = some "attach"
  · simpa only [dispatch, effectOf, attach] using attachToInstances_resumes
  by_cases detach : message.actionType = some "detach"
  · simpa only [dispatch, effectOf, detach] using detachFromInstances_resumes
  have unrecognized : handler.dispatch message = pure () := by
    simp [dispatch]
  have idle : handler.effectOf message = id := by
    simp [effectOf]
  rw [unrecognized, idle]
  exact fun target state world leads => ⟨leads, fun _ _ => leads⟩

end Actions

/-! ## Deliveries -/

section Deliveries

variable {worker : MessageHandlerService} {messages : List Message} {db last : Cmdb}

/-- Messages other than creates, each redelivered until it is acked, leave the
store that their effects lead to in turn. -/
theorem RedeliveredInTurn.effects (attempts : worker.maxRetries ≠ 0)
    (others : ∀ message ∈ messages, message.actionType ≠ some "create")
    (run : RedeliveredInTurn worker messages db last) :
    last = messages.foldl (fun db message => worker.handler.effectOf message db) db :=
  run.takes_effect (fun message member => effectOf_exact worker.handler message (others message member))
    attempts

end Deliveries

/-- Messages other than creates take effect exactly once each, in their turn. It does not matter
how often each of them is delivered, where its deliveries break off, or which requests and
replies are lost before one of them is acked. -/
theorem messages_take_effect (worker : MessageHandlerService) (messages : List Message)
    (attempts : worker.maxRetries ≠ 0)
    (others : ∀ message ∈ messages, message.actionType ≠ some "create") (db last : Cmdb)
    (run : RedeliveredInTurn worker messages db last) :
    last = messages.foldl (fun db message => worker.handler.effectOf message db) db :=
  run.effects attempts others

/-- Where nothing is lost. -/
def undisturbed (message : Message) (db : Cmdb) : World :=
  ((AsciiRuntime.service.handleMessage (.ok message) {}).run (World.scripted []) ⟨db, []⟩).2

/-- A delivery that breaks off after some of its calls. -/
def brokenOff (calls : Nat) (message : Message) (db : Cmdb) : Cmdb :=
  ((AsciiRuntime.service.handleMessage (.ok message) {}).advance (World.scripted []) calls
    ⟨db, []⟩).1.db

/-- A delivery that nothing disturbs is a redelivery of its message that ends at
once, given that it is acked. -/
theorem Redelivered.undisturbed {message : Message} {db : Cmdb}
    (acked : (undisturbed message db).acked = true) :
    Redelivered AsciiRuntime.service message db (InstanceLifecycle.undisturbed message db).db :=
  .acked (Prog.run_ends (scripted_possible [] (fun _ => trivial) (by simp)) _ _) acked

/-- A delivery cut off after some calls, followed by further deliveries of the
message, is again a redelivery of it. -/
theorem Redelivered.brokenOff {message : Message} {db last : Cmdb} (calls : Nat)
    (later : Redelivered AsciiRuntime.service message (brokenOff calls message db) last) :
    Redelivered AsciiRuntime.service message db last :=
  .again (Prog.advance_steps (scripted_possible [] (fun _ => trivial) (by simp)) calls _ _) later

/-- An attach breaks off behind its endpoint, a resize between its updates and a delete behind
its only select. -/
theorem messages_take_effect_interrupted :
    let attach := AsciiRuntime.attachMessage "10.0.0.9" "m9"
    let resize := AsciiRuntime.resizeMessage "large" 9
    let delete := AsciiRuntime.deleteMessage "u1"
    let first := (undisturbed attach (brokenOff 6 attach AsciiRuntime.registered)).db
    let second := (undisturbed resize (brokenOff 2 resize first)).db
    let last := (undisturbed delete (brokenOff 2 delete second)).db
    last = [attach, resize, delete].foldl
      (fun db message => AsciiRuntime.handler.effectOf message db) AsciiRuntime.registered ∧
    first.ips.rows.map Row.id = [0] ∧ last.servers.rows.map Row.id = [] := by
  refine ⟨?_, by decide, by decide⟩
  refine messages_take_effect AsciiRuntime.service [_, _, _] (by decide) (by decide)
    AsciiRuntime.registered _ (.next (.brokenOff 6 (.undisturbed ?_))
      (.next (.brokenOff 2 (.undisturbed ?_)) (.next (.brokenOff 2 (.undisturbed ?_)) (.done _))))
  all_goals decide

end InstanceLifecycle
