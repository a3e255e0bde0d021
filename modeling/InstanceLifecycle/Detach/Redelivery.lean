import InstanceLifecycle.Detach.Frame
import InstanceLifecycle.Service.Rules
import InstanceLifecycle.Store.Absorption

/-!
# Detaches in any order

Detaches of one host commute, and a second one of an address changes nothing: what the calls of
a detach leave is the same if some of them were made before. So an attempt may fail after any of
its calls. When a later attempt ends normally the store is as if the message had been processed
once and alone.
-/

namespace InstanceLifecycle

open Interaction Store InstanceHandler

/-! ## The store -/

namespace Cmdb

variable (db : Cmdb) (address other : String) (uuid : Option String)

/-- The IPs of a detach may have been deleted before. -/
theorem detach_deleteIps : (db.deleteIps address uuid).detach address uuid =
    db.detach address uuid := by
  have ips : ((db.deleteIps address uuid).deleteIps address uuid).ips =
      (db.deleteIps address uuid).ips := by
    simp only [deleteIps, Table.keep_keep]
    apply Table.keep_congr
    intro ip _
    exact Bool.and_self _
  have again : (db.deleteIps address uuid).deleteIps address uuid = db.deleteIps address uuid :=
    eq_of_tables rfl rfl ips rfl rfl
  rw [detach, again, detach]

/-- Two deletes of IPs of a host commute. -/
theorem deleteIps_comm : (db.deleteIps address uuid).deleteIps other uuid =
    (db.deleteIps other uuid).deleteIps address uuid := by
  refine eq_of_tables rfl rfl ?_ rfl rfl
  simp only [deleteIps, Table.keep_keep]
  apply Table.keep_congr
  intro ip _
  exact Bool.and_comm _ _

/-- Which IPs are deleted does not depend on endpoints without IPs. -/
theorem deleteIps_deleteEndpointsWithoutIps :
    ((db.deleteEndpointsWithoutIps uuid).deleteIps address uuid).ips =
      (db.deleteIps address uuid).ips := by
  apply Table.keep_congr
  intro ip stored
  exact congrArg not (db.attachedTo_deleteEndpointsWithoutIps uuid address uuid stored)

/-- An endpoint without IPs is still without them when more IPs are deleted. -/
theorem withoutIpsOn_deleteIps {endpoint : Row Endpoint}
    (without : db.withoutIpsOn uuid endpoint = true) :
    (db.deleteIps address uuid).withoutIpsOn uuid endpoint = true := by
  rw [withoutIpsOn, Bool.and_eq_true, Bool.not_eq_true'] at without ⊢
  refine ⟨?_, without.2⟩
  have empty := without.1
  rw [hasIps, List.any_eq_false] at empty ⊢
  exact fun ip kept => empty ip ((db.ips.mem_keep _ ip).mp kept).1

/-- The endpoints without IPs may have been deleted before, by an earlier detach
or an earlier attempt. -/
theorem detach_deleteEndpointsWithoutIps :
    (db.deleteEndpointsWithoutIps uuid).detach address uuid = db.detach address uuid := by
  have ips := db.deleteIps_deleteEndpointsWithoutIps address uuid
  refine eq_of_tables rfl ?_ ips rfl rfl
  have bare : ((db.deleteEndpointsWithoutIps uuid).deleteIps address uuid).withoutIpsOn uuid =
      (db.deleteIps address uuid).withoutIpsOn uuid := by
    funext endpoint
    rw [withoutIpsOn, hasIps, ips]
    rfl
  simp only [detach, deleteEndpointsWithoutIps] at bare ⊢
  rw [bare]
  change (db.endpoints.keep _).keep _ = db.endpoints.keep _
  rw [Table.keep_keep]
  apply Table.keep_congr
  intro endpoint _
  by_cases without : db.withoutIpsOn uuid endpoint = true
  · rw [without, db.withoutIpsOn_deleteIps address uuid without]
    rfl
  · rw [Bool.not_eq_true] at without
    rw [without]
    rfl

/-- Deleting them twice is deleting them once. -/
theorem deleteEndpointsWithoutIps_twice :
    (db.deleteEndpointsWithoutIps uuid).deleteEndpointsWithoutIps uuid =
      db.deleteEndpointsWithoutIps uuid := by
  refine eq_of_tables rfl ?_ rfl rfl rfl
  change (db.endpoints.keep _).keep _ = db.endpoints.keep _
  rw [Table.keep_keep]
  apply Table.keep_congr
  intro endpoint _
  exact Bool.and_self _

/-- Detaches of a host commute and absorb repetition, which is all that the
general result needs. -/
theorem detach_absorbs : Absorbs (fun (db : Cmdb) address => db.detach address uuid) := by
  have twice : ∀ (db : Cmdb) first second, (db.detach first uuid).detach second uuid =
      ((db.deleteIps first uuid).deleteIps second uuid).deleteEndpointsWithoutIps uuid :=
    fun db first second => (db.deleteIps first uuid).detach_deleteEndpointsWithoutIps second uuid
  constructor
  · intro db first second
    rw [twice, twice, deleteIps_comm]
  · intro db address
    exact ((db.deleteIps address uuid).detach_deleteEndpointsWithoutIps address uuid).trans
      (db.detach_deleteIps address uuid)

end Cmdb

/-! ## A detach message -/

/-- The store that a detach message leaves, processed once and alone. -/
def InstanceHandler.detachBy (handler : InstanceHandler) (message : Message) (db : Cmdb) : Cmdb :=
  match handler.readDetach message with
  | .ok (some (address, uuid)) => db.detach address uuid
  | _ => db

/-- The message is not acked yet, and processing it would still lead where it should. -/
def Pending (handler : InstanceHandler) (message : Message) (target : Cmdb) (world : World) :
    Prop :=
  handler.detachBy message world.db = target ∧ world.acked = false

section Message

variable {handler : InstanceHandler} {message : Message} {target : Cmdb} {state : FieldErrors}
  {world : World}

/-- A call whose effect the message absorbs keeps the message pending for the
same target. -/
theorem Pending.next (pending : Pending handler message target world) (op : CmdbOp)
    (absorbed : handler.detachBy message (world.db.effect op) = handler.detachBy message world.db)
    (outcome : Outcome) : Pending handler message target (world.next op outcome) := by
  refine ⟨?_, (world.next_acked op outcome).trans pending.2⟩
  exact Cmdb.answer_keeps (fun db => handler.detachBy message db = target) pending.1
    (absorbed.trans pending.1) outcome

/-- An attempt ends where it should or fails, and may then be repeated. -/
theorem detachFromInstances_lossy (pending : Pending handler message target world) :
    (handler.detachFromInstances message).Ensures (faulty transportFaults) (fun _ => True)
      (attemptExit (Pending handler message target) (fun after => after.db = target)
        (fun after => after.acked = false)) state world := by
  rw [detachFromInstances, Action.ensures_bind, Action.ensures_lift]
  cases read : handler.readDetach message with
  | error exc => exact ⟨pending.2, fun _ => pending⟩
  | ok found =>
    cases found with
    | none =>
      have same : handler.detachBy message world.db = world.db := by rw [detachBy, read]
      exact same.symm.trans pending.1
    | some detached =>
      obtain ⟨address, uuid⟩ := detached
      have leaves : ∀ db, handler.detachBy message db = db.detach address uuid := by
        intro db
        rw [detachBy, read]
      have deleted : ∀ current outcome, Pending handler message target current →
          Pending handler message target (current.next (.ipDelete address uuid) outcome) := by
        intro current outcome pending
        apply pending.next
        rw [leaves, leaves]
        exact current.db.detach_deleteIps address uuid
      have cleared : ∀ current outcome, Pending handler message target current →
          Pending handler message target
            (current.next (.endpointDeleteWithoutIps uuid) outcome) := by
        intro current outcome pending
        apply pending.next
        rw [leaves, leaves]
        exact current.db.detach_deleteEndpointsWithoutIps address uuid
      simp only
      rw [Action.ensures_bind]
      refine transportCall_ensures (Pending handler message target) (fun _ => rfl)
        (fun _ permitted => permitted) pending
        (fun current outcome pending => ⟨trivial, deleted current outcome pending⟩) ?_
        fun after exc pending => ⟨pending.2, fun _ => pending⟩
      intro current pending
      rw [Action.ensures_bind]
      -- The second call must not lose what the first one made sure of.
      refine transportCall_ensures (fun after => after.db.deleteEndpointsWithoutIps uuid = target ∧
          Pending handler message target after) (fun _ => rfl) (fun _ permitted => permitted)
        ⟨(leaves current.db).symm.trans pending.1, deleted current .ok pending⟩ ?_ ?_
        fun after exc held => ⟨held.2.2, fun _ => held.2⟩
      · rintro later outcome ⟨leads, pending⟩
        have again : (later.db.effect (.endpointDeleteWithoutIps uuid)).deleteEndpointsWithoutIps
            uuid = target := (later.db.deleteEndpointsWithoutIps_twice uuid).trans leads
        refine ⟨trivial, ?_, cleared later outcome pending⟩
        exact Cmdb.answer_keeps (fun db => db.deleteEndpointsWithoutIps uuid = target) leads
          again outcome
      · exact fun later held => held.1

/-- If the message is acked, one of its attempts has ended normally, and the
store is the target from then on. An attempt that raises leaves a store from
which the next one still leads there. -/
theorem handleMessage_detaches {worker : MessageHandlerService} (attempts : worker.maxRetries ≠ 0)
    (detach : message.actionType = some "detach")
    (pending : Pending worker.handler message target world) :
    (worker.handleMessage (.ok message)).Ensures (faulty transportFaults) (fun _ => True)
      (fun _ _ after => after.acked = true → after.db = target) state world := by
  have records := (faulty_within transportFaults).records
  refine (MessageHandlerService.handleMessage_ensures records
    (Pending worker.handler message target) (fun after => after.db = target)
    (fun after => after.acked = false) (fun after => after.db = target)
    (fun after => after.acked = false) (fun none => absurd none attempts) ?_ ?_ ?_
    (fun _ _ => ⟨id, id⟩) pending).mono ?_
  · intro state world pending
    apply MessageHandlerService.processDelivery_ensures records trivial
    rw [dispatch_detach _ detach]
    apply detachFromInstances_lossy
    exact ⟨pending.1, (world.record_acked _ rfl).trans pending.2⟩
  · exact fun _ _ done => ⟨trivial, done.elim id id⟩
  · intro reply world failed
    exact ⟨trivial, (world.record_acked _ rfl).trans (failed.elim id id)⟩
  · rintro _ _ after (done | failed) acked
    · exact done
    · rw [failed] at acked
      cases acked

/-- Without attempts a message is confirmed and nothing else. -/
theorem handleMessage_unattempted {worker : MessageHandlerService} {delivery : Delivery}
    (none : worker.maxRetries = 0) :
    (worker.handleMessage delivery).Ensures (faulty transportFaults) (fun _ => True)
      (fun _ _ after => after.db = world.db) state world := by
  have records := (faulty_within transportFaults).records
  rw [MessageHandlerService.handleMessage, none, MessageHandlerService.processAttempts,
    Action.ensures_bind, Action.ensures_attempt]
  exact MessageHandlerService.confirm_ensures (fun after => after.db = world.db)
    (fun after => after.db = world.db) (MessageHandlerService.ack_issued records)
    (fun _ _ same => ⟨trivial, same.elim id id⟩) worker.ackRetries (fun _ same => same) rfl

end Message

/-! ## Messages in turn -/

/-- The messages are processed one after the other, and each of them is acked. -/
inductive AckedInTurn (worker : MessageHandlerService) : List Message → Cmdb → Cmdb → Prop
  | done (db : Cmdb) : AckedInTurn worker [] db db
  | next {message : Message} {rest : List Message} {db last : Cmdb} {state : FieldErrors}
      {exit : Except Exn Unit × FieldErrors} {middle : World}
      (run : Prog.Ends (faulty transportFaults) ⟨db, []⟩
        (worker.handleMessage (.ok message) state) exit middle)
      (acked : middle.acked = true) (later : AckedInTurn worker rest middle.db last) :
      AckedInTurn worker (message :: rest) db last

section Turns

variable {worker : MessageHandlerService} {messages : List Message} {db last : Cmdb}

/-- So a sequence of such messages changes nothing. -/
theorem AckedInTurn.unattempted (none : worker.maxRetries = 0)
    (ran : AckedInTurn worker messages db last) : last = db := by
  induction ran with
  | done db => rfl
  | next run _ _ ih => exact ih.trans ((handleMessage_unattempted none).at_end run)

/-- The messages take effect one after the other, each once. By induction on the
sequence. -/
theorem AckedInTurn.leaves (attempts : worker.maxRetries ≠ 0)
    (ran : AckedInTurn worker messages db last)
    (detaches : ∀ message ∈ messages, message.actionType = some "detach") :
    last = messages.foldl (fun db message => worker.handler.detachBy message db) db := by
  induction ran with
  | done db => rfl
  | next run acked _ ih =>
    have detach := detaches _ List.mem_cons_self
    have left := (handleMessage_detaches attempts detach ⟨rfl, rfl⟩).at_end run acked
    rw [List.foldl_cons, ← left]
    exact ih fun message member => detaches message (List.mem_cons_of_mem _ member)

end Turns

/-- The address a detach message names, if any. -/
def InstanceHandler.detachedAddress (handler : InstanceHandler) (message : Message) :
    Option String :=
  match handler.readDetach message with
  | .ok (some (address, _)) => some address
  | _ => none

/-- The addresses that messages name, in their order. -/
def detachedAddresses (handler : InstanceHandler) (messages : List Message) : List String :=
  messages.filterMap handler.detachedAddress

/-- The message is a detach, and if it names an address then on this host. -/
structure DetachesFrom (handler : InstanceHandler) (uuid : Option String) (message : Message) :
    Prop where
  detach : message.actionType = some "detach"
  host : ∀ address other, handler.readDetach message = .ok (some (address, other)) → other = uuid

/-- Detaching message by message is taking their addresses off the host one
after the other; a message that detaches nothing is passed over. By induction on
the messages. -/
theorem detachBy_addresses {handler : InstanceHandler} {uuid : Option String}
    {messages : List Message} (ofHost : ∀ message ∈ messages, DetachesFrom handler uuid message)
    (db : Cmdb) : messages.foldl (fun db message => handler.detachBy message db) db =
      (detachedAddresses handler messages).foldl (fun db address => db.detach address uuid) db := by
  induction messages generalizing db with
  | nil => rfl
  | cons message rest ih =>
    have host := (ofHost message List.mem_cons_self).host
    have onward := ih fun other member => ofHost other (List.mem_cons_of_mem message member)
    rw [List.foldl_cons, onward, detachedAddresses, detachedAddresses, List.filterMap_cons,
      detachBy, detachedAddress]
    cases read : handler.readDetach message with
    | error exc => rfl
    | ok found =>
      cases found with
      | none => rfl
      | some detached =>
        obtain ⟨address, other⟩ := detached
        rw [host address other read]
        rfl

/-- Two sequences of detaches of a host that name the same addresses leave the same store,
whatever requests and replies are lost before each message is acked. -/
theorem detaches_absorb (worker : MessageHandlerService) (uuid : Option String)
    (first second : List Message)
    (firstOfHost : ∀ message ∈ first, DetachesFrom worker.handler uuid message)
    (secondOfHost : ∀ message ∈ second, DetachesFrom worker.handler uuid message)
    (same : ∀ address, address ∈ detachedAddresses worker.handler first ↔
      address ∈ detachedAddresses worker.handler second)
    (db last other : Cmdb) (ran : AckedInTurn worker first db last)
    (ranToo : AckedInTurn worker second db other) : last = other := by
  by_cases attempts : worker.maxRetries = 0
  · rw [ran.unattempted attempts, ranToo.unattempted attempts]
  · rw [ran.leaves attempts (fun message member => (firstOfHost message member).detach),
      ranToo.leaves attempts (fun message member => (secondOfHost message member).detach),
      detachBy_addresses firstOfHost, detachBy_addresses secondOfHost]
    exact (Cmdb.detach_absorbs uuid).foldl_same same db

/-- A host with two addresses on one endpoint, one on the next and none on the last. -/
def sharedEndpoints : Cmdb :=
  ((((AsciiRuntime.occupied "10.0.0.9" "m9").insertIp
    ⟨none, "10.0.0.7", none, none, 0, none, none⟩).insertEndpoint
    ⟨0, none, some "bond1", none, some "m8"⟩).insertIp
    ⟨none, "10.0.0.8", none, none, 1, none, none⟩).insertEndpoint
    ⟨0, none, some "bond2", none, some "m7"⟩

/-- The first reply and the third request of a detach are lost. -/
def lostDetachReplies : List (Nat × Outcome) :=
  [(1, .fail (.transport "lost") true), (3, .fail (.transport "lost") false)]

/-- The world after one delivery of a sample detach, under a script. -/
def detachedEnd (script : List (Nat × Outcome)) (db : Cmdb) (address : String) : World :=
  ((AsciiRuntime.service.handleMessage (.ok (AsciiRuntime.detachMessage address)) {}).run
    (World.scripted script) ⟨db, []⟩).2

/-- A scripted delivery that was acked may stand first in a sequence. -/
theorem AckedInTurn.scripted {script : List (Nat × Outcome)} {db last : Cmdb} {address : String}
    {rest : List Message} (lossy : ∀ entry ∈ script, ∀ call, transportFaults call entry.2)
    (acked : (detachedEnd script db address).acked = true)
    (later : AckedInTurn AsciiRuntime.service rest (detachedEnd script db address).db last) :
    AckedInTurn AsciiRuntime.service (AsciiRuntime.detachMessage address :: rest) db last :=
  .next (Prog.run_ends (scripted_possible script (fun _ => trivial) lossy) _ _) acked later

/-- The script only loses replies. -/
theorem lostDetachReplies_lossy :
    ∀ entry ∈ lostDetachReplies, ∀ call, transportFaults call entry.2 := by
  intro entry member call
  rcases List.mem_cons.mp member with rfl | member
  · rfl
  · rw [List.mem_singleton.mp member]
    rfl

/-- The sample detaches are from the sample host. -/
theorem detachMessages_host (addresses : List String) :
    ∀ message ∈ addresses.map AsciiRuntime.detachMessage,
      DetachesFrom AsciiRuntime.handler (some "u1") message := by
  intro message member
  obtain ⟨address, -, rfl⟩ := List.mem_map.mp member
  refine ⟨rfl, ?_⟩
  intro named other read
  cases read
  rfl

/-- They name the addresses they were made of. -/
theorem detachMessages_addresses (addresses : List String) :
    detachedAddresses AsciiRuntime.handler (addresses.map AsciiRuntime.detachMessage) =
      addresses := by
  rw [detachedAddresses, List.filterMap_map]
  exact List.filterMap_some

/-- Two addresses in one order, and in the other one with losses and a repetition. -/
theorem detaches_absorb_shared :
    let last := (detachedEnd [] (detachedEnd [] sharedEndpoints "10.0.0.8").db "10.0.0.9").db
    let other := (detachedEnd lostDetachReplies (detachedEnd [] (detachedEnd lostDetachReplies
      sharedEndpoints "10.0.0.9").db "10.0.0.8").db "10.0.0.9").db
    last = other ∧ last.endpoints.rows.map Row.id = [0] ∧ last.ips.rows.map Row.id = [1] := by
  refine ⟨?_, by decide, by decide⟩
  have calm : ∀ entry ∈ ([] : List (Nat × Outcome)), ∀ call, transportFaults call entry.2 := by
    simp
  refine detaches_absorb AsciiRuntime.service (some "u1")
    (["10.0.0.8", "10.0.0.9"].map AsciiRuntime.detachMessage)
    (["10.0.0.9", "10.0.0.8", "10.0.0.9"].map AsciiRuntime.detachMessage)
    (detachMessages_host _) (detachMessages_host _) ?_ sharedEndpoints _ _
    (.scripted calm (by decide) (.scripted calm (by decide) (.done _)))
    (.scripted lostDetachReplies_lossy (by decide) (.scripted calm (by decide)
      (.scripted lostDetachReplies_lossy (by decide) (.done _))))
  intro address
  change address ∈ detachedAddresses AsciiRuntime.handler _ ↔
    address ∈ detachedAddresses AsciiRuntime.handler _
  rw [detachMessages_addresses, detachMessages_addresses, List.mem_cons, List.mem_cons,
    List.mem_cons, List.mem_cons]
  grind

end InstanceLifecycle
