import InstanceLifecycle.Concurrency.Reach
import InstanceLifecycle.Create.FinalState

/-!
# What a message writes to servers

A row a message inserts is selected by the keys of the message and by no other key, and no
update of a message changes the columns the keys look at. So the servers a message writes stay
its own, unless a tag of a create that is not held to the whitelist names one of the columns.
-/

namespace InstanceLifecycle

open Interaction Store InstanceHandler

/-- A row the call inserts answers to these keys alone, and one it updates to the same keys as
before. -/
def CmdbOp.Marks (keys : List ServerKey) : CmdbOp → Prop
  | .serverInsertOne columns =>
      keys ≠ [] ∧ ∀ id key, key.holds ⟨id, Columns.write (fun _ => .null) columns⟩ = true ↔ key ∈ keys
  | .serverUpdate _ mutation => KeepsKeys mutation
  | _ => True

/-- What is asked of one event: a CMDB call has to mark its rows with the keys,
and any other event is free. -/
def markRule (keys : List ServerKey) (event : Event) : Prop :=
  match event.op with
  | .cmdb op => op.Marks keys
  | _ => True

/-- Every call in the log marks what it inserts and deletes with the given keys. -/
def Marking (keys : List ServerKey) (world : World) : Prop :=
  Justified (fun _ event => markRule keys event) world.history

/-- A key looks at the hostname or at the uuid. -/
theorem ServerKey.holds_write (key : ServerKey) (server : Row Columns) {mutation : Mutation}
    (keeps : KeepsKeys mutation) :
    key.holds ⟨server.id, server.data.write mutation⟩ = key.holds server := by
  cases key with
  | uuid value =>
    simp only [ServerKey.holds, hasUuid, server.data.write_of_absent mutation "uuid" keeps.2]
  | hostname value =>
    simp only [ServerKey.holds, server.data.write_of_absent mutation "hostname" keeps.1]

/-- The new row of a create carries the name and the id of its instance. -/
theorem inserted_marks (handler : InstanceHandler) (content : CreateContent) (message : Message)
    (db : Cmdb) :
    (CmdbOp.serverInsertOne (handler.serverColumns (content.context handler message db))).Marks
      content.hostKeys := by
  refine ⟨List.cons_ne_nil _ _, fun id key => ?_⟩
  cases key with
  | uuid value =>
    cases value with
    | none => simp [ServerKey.holds, hasUuid, CreateContent.hostKeys]
    | some value =>
      change (Value.str content.instanceId).isStr value = true ↔ _
      simp only [Value.isStr_iff, Value.str.injEq, CreateContent.hostKeys]
      simp [eq_comm (a := value)]
  | hostname value =>
    change (Value.str content.hostname).isStr value = true ↔ _
    simp only [Value.isStr_iff, Value.str.injEq, CreateContent.hostKeys]
    simp [eq_comm (a := value)]

/-- Does the call insert or update servers? -/
def CmdbOp.fillsServers : CmdbOp → Bool
  | .serverInsertOne _ => true
  | .serverUpdate _ _ => true
  | _ => false

/-- A test of calls that passes every update that keeps the keys and every call that fills no
server, so only inserts are to be looked at. -/
structure KeyTest (allowed : CmdbOp → Prop) : Prop where
  updates : ∀ allOf mutation, KeepsKeys mutation → allowed (.serverUpdate allOf mutation)
  others : ∀ op : CmdbOp, op.fillsServers = false → allowed op

/-- Marking is a test of the kind a create can be held to: only the insert of
the server row puts keys into the store, and the other calls pass as long as
they leave the key columns alone. -/
theorem keyTest_marks (keys : List ServerKey) : KeyTest (CmdbOp.Marks keys) := by
  refine ⟨fun _ _ keeps => keeps, fun op other => ?_⟩
  cases op with
  | serverInsertOne columns => cases other
  | serverUpdate allOf mutation => cases other
  | _ => trivial

section Calls

variable {permits : Faults} {handler : InstanceHandler} {allowed : CmdbOp → Prop}
  {state : FieldErrors} {world : World}

/-- The part of a create after its row is inserted passes a test on keys, given
that its tags do not write the key columns when the tags are unrestricted. -/
theorem completeCreate_tested (test : KeyTest allowed) {content : CreateContent} {message : Message}
    {db : Cmdb} {serverId : Nat} (tags : content.unrestricted db = true → TagsKeepKeys content) :
    (completeCreate handler (content.context handler message db) serverId).Only
      (calls allowed) := by
  apply completeCreate_only
  · intro writes returned
    have keeps := (writes_keep_iff returned).mpr tags
    exact ⟨test.updates _ _ (mergeWrites_keeps keeps), fun write member =>
      test.updates _ _ (keeps write member)⟩
  · exact fun errors => test.updates _ _ (finalState_keeps errors)
  · intro op cards
    apply test.others
    cases op <;> first | rfl | cases cards

/-- A whole create passes a test on keys when the row it inserts does and its
tags keep the key columns. The four phases are taken from the rule for creates
among other tasks. -/
theorem createInstances_tested (test : KeyTest allowed) {message : Message}
    (inserts : ∀ content, readCreate handler message = .ok (some content) →
      allowed (.serverInsertOne (handler.serverColumns (content.context handler message world.db))))
    (tags : CountedTagsKeepKeys handler message world.db) (calling : Calling allowed world) :
    (handler.createInstances message).Ensures (unsteady permits) (Calling allowed)
      (fun _ _ after => Calling allowed after) state world := by
  refine createInstances_unsteady (fun _ => Calling allowed) (fun state => ?_) ?_ ?_
  · exact calling_calls (buildCreateContext_only (fun _ => test.others _ rfl)
      fun _ => test.others _ rfl) calling
  · intro content read state before held
    have recreation : (handler.recreateServerRow (content.context handler message world.db)).Only
        (calls allowed) :=
      recreateServerRow_only (fun _ => test.others _ rfl) (fun _ => test.others _ rfl)
        (fun _ => test.others _ rfl) (inserts content read) (test.others _ rfl)
    exact (calling_calls recreation held).mono fun _ _ _ now => ⟨now, fun _ _ => now⟩
  · intro content read id state before held
    exact calling_calls (completeCreate_tested test (tags content read)) held

/-- Only a create inserts a server, and a resize names the two columns it writes. -/
theorem dispatch_tested (test : KeyTest allowed) {message : Message}
    (inserts : message.actionType = some "create" → ∀ content,
      readCreate handler message = .ok (some content) →
        allowed (.serverInsertOne
          (handler.serverColumns (content.context handler message world.db))))
    (tags : CountedTagsKeepKeys handler message world.db) (calling : Calling allowed world) :
    (handler.dispatch message).Ensures (unsteady permits) (Calling allowed)
      (fun _ _ after => Calling allowed after) state world := by
  have keeps : ∀ column value, column = "server_monthly_payment" ∨ column = "flavor" →
      KeepsKeys (single column value) := by
    rintro column value (rfl | rfl)
    · exact ⟨by rw [keys_single]; decide, by rw [keys_single]; decide⟩
    · exact ⟨by rw [keys_single]; decide, by rw [keys_single]; decide⟩
  rw [dispatch]
  split
  · rename_i create
    exact createInstances_tested test (inserts create) tags calling
  · exact calling_calls (deleteInstances_only (fun _ => test.others _ rfl)
      (fun _ => test.others _ rfl) fun _ => test.others _ rfl) calling
  · exact calling_calls (resizeInstances_only fun _ column value named =>
      test.updates _ _ (keeps column value named)) calling
  · apply calling_calls (attachToInstances_only _) calling
    intro op attach
    apply test.others
    cases op <;> first | rfl | cases attach
  · exact calling_calls (detachFromInstances_only (fun _ _ => test.others _ rfl)
      fun _ => test.others _ rfl) calling
  · exact calling

end Calls

/-- The tags of a readable delivery that count leave the keys of servers alone. -/
def MessageHandlerService.TagsAside (worker : MessageHandlerService) (db : Cmdb) : Delivery → Prop
  | .ok message => CountedTagsKeepKeys worker.handler message db
  | .error _ => True

/-- A log whose calls all pass the test is a marking one, event by event. -/
theorem marking_of_calling {keys : List ServerKey} {world : World}
    (calling : Calling (CmdbOp.Marks keys) world) : Marking keys world := by
  intro earlier event later parts
  obtain ⟨op, reply⟩ := event
  cases op with
  | cmdb op => exact calling earlier _ later parts op rfl
  | started message => trivial
  | ack => trivial
  | nack => trivial

/-- Handling a delivery marks with the keys the delivery names, whatever the
other tasks do meanwhile; each kind of action is held to the test by its own
lemma. -/
theorem MessageHandlerService.handleMessage_marks {permits : Faults}
    (worker : MessageHandlerService) (delivery : Delivery) (state : FieldErrors) (db : Cmdb)
    (tags : worker.TagsAside db delivery) :
    (worker.handleMessage delivery).Ensures (unsteady permits) (Marking (worker.keysOf delivery))
      (fun _ _ after => Marking (worker.keysOf delivery) after) state ⟨db, []⟩ := by
  have calling : (worker.handleMessage delivery).Ensures (unsteady permits)
      (Calling (CmdbOp.Marks (worker.keysOf delivery)))
      (fun _ _ after => Calling (CmdbOp.Marks (worker.keysOf delivery)) after) state ⟨db, []⟩ := by
    apply worker.handleMessage_delivered callRule_free
    rintro message rfl state world rfl calling
    refine dispatch_tested (keyTest_marks _) ?_ tags calling
    intro create content read
    simp only [keysOf, hostKeys, create, read]
    exact inserted_marks worker.handler content message world.db
  exact (calling.env_mono (fun _ _ _ _ step => step) fun _ => marking_of_calling).mono
    fun _ _ _ => marking_of_calling

end InstanceLifecycle
