import InstanceLifecycle.Concurrency.Reach
import InstanceLifecycle.Service.Exactness

/-!
# How effects compose

Deletes amount to one removal of everything they name, and resizes of a host to one update in
which later values win. A message whose host is not stored has no effect.
-/

namespace InstanceLifecycle

open Interaction Store InstanceHandler

/-! ## Deletes -/

/-- The servers that a sequence of delete messages is about, by the keys of
their removals. -/
def deletedHosts (handler : InstanceHandler) (messages : List Message) : List ServerKey :=
  messages.flatMap fun message => (handler.deletedKeys message).getD []

namespace Cmdb

variable (db : Cmdb)

/-- Without keys nothing is removed. -/
theorem remove_nil : db.remove [] = db :=
  db.remove_of_unmatched [] fun _ _ => rfl

/-- Neither the order of the keys counts nor how often they are named. -/
theorem remove_congr {keys other : List ServerKey} (same : ∀ key, key ∈ keys ↔ key ∈ other) :
    db.remove keys = db.remove other := by
  have matched : unmatched keys = unmatched other := by
    funext server
    rw [unmatched, unmatched]
    congr 1
    rw [Bool.eq_iff_iff, List.any_eq_true, List.any_eq_true]
    constructor
    · rintro ⟨key, member, holds⟩
      exact ⟨key, (same key).mp member, holds⟩
    · rintro ⟨key, member, holds⟩
      exact ⟨key, (same key).mpr member, holds⟩
  have doomed : db.condemned keys = db.condemned other := by
    funext serverId
    rw [condemned, matched, condemned]
  rw [remove, matched, doomed, remove]

end Cmdb

/-- The effects of deletes are one removal by all their keys. By induction on
the messages: two removals are one. -/
theorem deleteBy_removes (handler : InstanceHandler) (messages : List Message) (db : Cmdb) :
    messages.foldl (fun db message => handler.deleteBy message db) db =
      db.remove (deletedHosts handler messages) := by
  induction messages generalizing db with
  | nil => exact db.remove_nil.symm
  | cons message rest ih =>
    have split : deletedHosts handler (message :: rest) =
        (handler.deletedKeys message).getD [] ++ deletedHosts handler rest := List.flatMap_cons
    rw [List.foldl_cons, ih, split, deleteBy]
    cases handler.deletedKeys message with
    | none => rfl
    | some keys => exact db.remove_remove keys (deletedHosts handler rest)

/-- The effect of a delete message is that of its action. -/
theorem effectOf_delete {handler : InstanceHandler} {message : Message}
    (delete : message.actionType = some "delete") :
    handler.effectOf message = handler.deleteBy message := by
  simp [effectOf, delete]

/-- Two sequences of deletes that name the same hosts leave the same store,
whatever requests and replies are lost and wherever deliveries break off. It is
the store without the named servers, their endpoints, IPs and rails, and with
everything else. Each delete takes effect as a removal, and removals absorb one
another. -/
theorem deletes_absorb (worker : MessageHandlerService) (first second : List Message)
    (attempts : worker.maxRetries ≠ 0)
    (deletes : ∀ message ∈ first ++ second, message.actionType = some "delete")
    (same : ∀ key, key ∈ deletedHosts worker.handler first ↔
      key ∈ deletedHosts worker.handler second)
    (db last other : Cmdb) (run : RedeliveredInTurn worker first db last)
    (runToo : RedeliveredInTurn worker second db other) :
    last = other ∧ last = db.remove (deletedHosts worker.handler first) := by
  have removes : ∀ messages ⊆ first ++ second, ∀ last, RedeliveredInTurn worker messages db last →
      last = db.remove (deletedHosts worker.handler messages) := by
    intro messages within last run
    rw [← deleteBy_removes]
    refine run.takes_effect (fun message member => ?_) attempts
    have delete := deletes message (within member)
    rw [← effectOf_delete delete]
    exact effectOf_exact worker.handler message (by simp [delete])
  have one := removes first (List.subset_append_left first second) last run
  have two := removes second (List.subset_append_right first second) other runToo
  refine ⟨?_, one⟩
  rw [one, two, db.remove_congr same]

/-- The hosts `u1` and `u2`, without endpoints. -/
def hostPair : Cmdb :=
  AsciiRuntime.registered.insertServer
    (Dict.ofList [("hostname", .str "dc1-b2"), ("uuid", .str "u2"), ("state", .str "ready")])

/-- In one order, and in the other one with a repetition and a delivery that breaks off. -/
theorem deletes_absorb_pair :
    let one := AsciiRuntime.deleteMessage "u1"
    let two := AsciiRuntime.deleteMessage "u2"
    let last := (undisturbed two (undisturbed one hostPair).db).db
    let other := (undisturbed two (undisturbed one
      (undisturbed two (brokenOff 2 two hostPair)).db).db).db
    (last = other ∧ last = hostPair.remove (deletedHosts AsciiRuntime.handler [one, two])) ∧
      last.servers.rows.map Row.id = [] := by
  refine ⟨?_, by decide⟩
  have acked : ∀ {message rest db last}, (undisturbed message db).acked = true →
      RedeliveredInTurn AsciiRuntime.service rest (undisturbed message db).db last →
      RedeliveredInTurn AsciiRuntime.service (message :: rest) db last :=
    fun acked later => .next (.undisturbed acked) later
  refine deletes_absorb AsciiRuntime.service
    [AsciiRuntime.deleteMessage "u1", AsciiRuntime.deleteMessage "u2"]
    [AsciiRuntime.deleteMessage "u2", AsciiRuntime.deleteMessage "u1",
      AsciiRuntime.deleteMessage "u2"] (by decide) (by decide) ?_ hostPair _ _
    (acked (by decide) (acked (by decide) (.done _)))
    (.next (.brokenOff 2 (.undisturbed (by decide))) (acked (by decide) (acked (by decide)
      (.done _))))
  intro key
  simp only [deletedHosts, List.flatMap_cons, List.flatMap_nil]
  change key ∈ [ServerKey.uuid (some "u1")] ++ ([ServerKey.uuid (some "u2")] ++ []) ↔
    key ∈ [ServerKey.uuid (some "u2")] ++ ([ServerKey.uuid (some "u1")] ++
      ([ServerKey.uuid (some "u2")] ++ []))
  grind

/-! ## Resizes -/

/-- The columns that a resize message writes, none if it cannot be read. -/
def InstanceHandler.resizedBy (handler : InstanceHandler) (message : Message) : Mutation :=
  match handler.readResize message with
  | .ok (some (_, columns)) => columns
  | _ => .empty

/-- The columns that a sequence of them writes, the later values over the earlier. -/
def resizedColumns (handler : InstanceHandler) (messages : List Message) : Mutation :=
  messages.foldl (fun columns message => columns.merge (handler.resizedBy message)) .empty

/-- Merged columns spare the keys if both do. -/
theorem KeepsKeys.merge {mutation other : Mutation} (first : KeepsKeys mutation)
    (second : KeepsKeys other) : KeepsKeys (Dict.merge mutation other) := by
  constructor
  · rw [Dict.mem_keys_merge, not_or]
    exact ⟨first.1, second.1⟩
  · rw [Dict.mem_keys_merge, not_or]
    exact ⟨first.2, second.2⟩

/-- The message is a resize, and if it names a host then this one. -/
structure ResizesHost (handler : InstanceHandler) (uuid : Option String) (message : Message) :
    Prop where
  resize : message.actionType = some "resize"
  host : ∀ other columns, handler.readResize message = .ok (some (other, columns)) → other = uuid

/-- What is read from a resize: the uuid of its instance, and columns that spare
the keys. -/
theorem readResize_returned {handler : InstanceHandler} {message : Message} {uuid : Option String}
    {columns : Mutation} (read : handler.readResize message = .ok (some (uuid, columns))) :
    (∃ resource, handler.extractResource message "instance" = .ok (some resource) ∧
      resource.resourceId.item "resource_id" = .ok uuid) ∧ KeepsKeys columns := by
  obtain ⟨resource, extracted, read⟩ := bind_returned read
  cases resource with
  | none => cases read
  | some resource =>
    obtain ⟨text, searched, read⟩ := bind_returned read
    obtain ⟨instanceId, identified, read⟩ := bind_returned read
    obtain ⟨price, priced, read⟩ := bind_returned read
    obtain ⟨rfl, rfl⟩ := Prod.mk.inj (Option.some.inj (Except.ok.inj read))
    exact ⟨⟨resource, extracted, identified⟩,
      (resizePayment_keepsKeys price).merge (resizedFlavor_keepsKeys message)⟩

/-- By induction on the messages, after an update that was made before them. -/
theorem resizeBy_updates {handler : InstanceHandler} {uuid : Option String}
    {messages : List Message} (ofHost : ∀ message ∈ messages, ResizesHost handler uuid message)
    {columns : Mutation} (keeps : KeepsKeys columns) (db : Cmdb) :
    messages.foldl (fun db message => handler.resizeBy message db)
        (db.updateServers [.uuid uuid] columns) =
      db.updateServers [.uuid uuid] (messages.foldl (fun columns message =>
        columns.merge (handler.resizedBy message)) columns) := by
  induction messages generalizing columns with
  | nil => rfl
  | cons message rest ih =>
    have host := (ofHost message List.mem_cons_self).host
    have onward := @ih fun other member => ofHost other (List.mem_cons_of_mem message member)
    rw [List.foldl_cons, List.foldl_cons, resizeBy, resizedBy]
    cases read : handler.readResize message with
    | error exc => simpa only [Dict.merge_empty] using onward keeps
    | ok found =>
      cases found with
      | none => simpa only [Dict.merge_empty] using onward keeps
      | some resized =>
        obtain ⟨other, later⟩ := resized
        obtain rfl := host other later read
        simp only
        rw [Cmdb.updateServers_merge db _ keeps]
        exact onward (keeps.merge (readResize_returned read).2)

/-- Any redelivered, interrupted sequence of resizes of a host is one update
with their merged columns. By the exactness of each message, folded over the
sequence. -/
theorem RedeliveredInTurn.resizes {worker : MessageHandlerService} {uuid : Option String}
    {messages : List Message} {db last : Cmdb} (attempts : worker.maxRetries ≠ 0)
    (ofHost : ∀ message ∈ messages, ResizesHost worker.handler uuid message)
    (run : RedeliveredInTurn worker messages db last) :
    last = db.updateServers [.uuid uuid] (resizedColumns worker.handler messages) := by
  have resizes : ∀ message ∈ messages,
      Exact worker.handler message (worker.handler.resizeBy message) := by
    intro message member
    have resize := (ofHost message member).resize
    have same : worker.handler.effectOf message = worker.handler.resizeBy message := by
      simp [effectOf, resize]
    rw [← same]
    exact effectOf_exact worker.handler message (by simp [resize])
  have effects := run.takes_effect resizes attempts
  have none : KeepsKeys Dict.empty := ⟨List.not_mem_nil, List.not_mem_nil⟩
  have together := resizeBy_updates ofHost none db
  rw [Cmdb.updateServers_empty] at together
  exact effects.trans together

/-- Resizes of a host amount to one update of its row, in which the later of two values of a
column wins, whatever requests and replies are lost and wherever deliveries break off. -/
theorem resizes_compose (worker : MessageHandlerService) (uuid : Option String)
    (messages : List Message) (attempts : worker.maxRetries ≠ 0)
    (ofHost : ∀ message ∈ messages, ResizesHost worker.handler uuid message) (db last : Cmdb)
    (run : RedeliveredInTurn worker messages db last) :
    last = db.updateServers [.uuid uuid] (resizedColumns worker.handler messages) :=
  run.resizes attempts ofHost

/-- Two resizes, the second of which breaks off between its updates and is
delivered again: the store is one update with the columns of both. -/
theorem resizes_compose_interrupted :
    let first := AsciiRuntime.resizeMessage "large" 9
    let second := AsciiRuntime.resizeMessage "small" 7
    let before := (undisturbed first AsciiRuntime.registered).db
    (undisturbed second (brokenOff 2 second before)).db =
      AsciiRuntime.registered.updateServers [.uuid (some "u1")]
        (resizedColumns AsciiRuntime.handler [first, second]) := by
  refine resizes_compose AsciiRuntime.service (some "u1")
    [AsciiRuntime.resizeMessage "large" 9, AsciiRuntime.resizeMessage "small" 7] (by decide) ?_
    AsciiRuntime.registered _ (.next (.undisturbed (by decide))
      (.next (.brokenOff 2 (.undisturbed (by decide))) (.done _)))
  intro message member
  rcases List.mem_cons.mp member with rfl | member
  · exact ⟨rfl, fun other columns read => by cases read; rfl⟩
  · rw [List.mem_singleton.mp member]
    exact ⟨rfl, fun other columns read => by cases read; rfl⟩

/-! ## Messages for a host that is not stored -/

section Absent

variable {handler : InstanceHandler} {message : Message} {db : Cmdb}

/-- No stored server carries the uuid. -/
def Cmdb.Lacks (db : Cmdb) (uuid : Option String) : Prop :=
  ∀ server ∈ db.servers.rows, hasUuid server uuid = false

/-- Then no endpoint is on it. -/
theorem Cmdb.Lacks.onHost {uuid : Option String} (lacks : db.Lacks uuid) (endpoint : Row Endpoint) :
    db.endpointOnHost uuid endpoint = false := by
  rw [Cmdb.endpointOnHost, List.any_eq_false]
  intro server stored
  rw [lacks server stored, Bool.and_false]
  exact Bool.false_ne_true

/-- An update of it changes nothing. -/
theorem Cmdb.Lacks.updateServers {uuid : Option String} (lacks : db.Lacks uuid)
    (columns : Mutation) : db.updateServers [.uuid uuid] columns = db := by
  refine Cmdb.eq_of_tables (Table.eq_of_rows ?_ rfl) rfl rfl rfl rfl
  simp only [Cmdb.updateServers, Table.rewrite]
  rw [List.map_congr_left, List.map_id]
  intro server stored
  have other : ServerKey.holds server (.uuid uuid) = false := lacks server stored
  simp [other]

/-- A detach from a host that is not there changes nothing, since no endpoint
hangs on it and so no IP is attached to it. -/
theorem Cmdb.Lacks.detach {uuid : Option String} (lacks : db.Lacks uuid) (address : String) :
    db.detach address uuid = db := by
  have ips : db.deleteIps address uuid = db := by
    refine Cmdb.eq_of_tables rfl rfl (db.ips.keep_all _ fun ip _ => ?_) rfl rfl
    rw [Cmdb.attachedTo, Cmdb.ipOnHost]
    have off : db.endpoints.rows.any (fun endpoint =>
        decide (endpoint.id = ip.data.networkEndpointId) && db.endpointOnHost uuid endpoint) =
        false := by
      rw [List.any_eq_false]
      intro endpoint _
      rw [lacks.onHost endpoint, Bool.and_false]
      exact Bool.false_ne_true
    rw [off, Bool.and_false]
    rfl
  rw [Cmdb.detach, ips]
  refine Cmdb.eq_of_tables rfl (db.endpoints.keep_all _ fun endpoint _ => ?_) rfl rfl rfl
  rw [Cmdb.withoutIpsOn, lacks.onHost endpoint, Bool.and_false]
  rfl

/-- Nor does an attach to it, for its server is not found. -/
theorem Cmdb.Lacks.attach {request : AttachRequest} (lacks : db.Lacks request.hostUuid) :
    db.attach handler request = db := by
  have missing : db.servers.rows.find? (fun server => hasUuid server request.hostUuid) = none :=
    List.find?_eq_none.mpr fun server stored => by simp [lacks server stored]
  rw [Cmdb.attach, missing]

/-- Nor does a removal of it. -/
theorem Cmdb.Lacks.remove {uuid : Option String} (lacks : db.Lacks uuid) :
    db.remove (removalKeys uuid (some "")) = db := by
  apply db.remove_of_unmatched
  intro server stored
  have other : ServerKey.holds server (.uuid uuid) = false := lacks server stored
  cases uuid with
  | none => rfl
  | some value =>
    by_cases empty : value = ""
    · simp [unmatched, removalKeys, empty]
    · simp [unmatched, removalKeys, empty, other]

/-- A message other than a create, for a host that is not stored, has no effect. -/
theorem effectOf_absent (other : message.actionType ≠ some "create")
    (lacks : ∀ uuid, .uuid uuid ∈ handler.hostKeys message → db.Lacks uuid) :
    handler.effectOf message db = db := by
  have named : ∀ {resource : Resource} {uuid : Option String},
      handler.extractResource message "instance" = .ok (some resource) →
      resource.resourceId.item "resource_id" = .ok uuid → db.Lacks uuid := by
    intro resource uuid extracted identified
    apply lacks
    rw [hostKeys_other other, instanceKeys_named extracted identified]
    exact List.mem_singleton_self _
  have deleted : handler.deleteBy message db = db := by
    rw [deleteBy, deletedKeys]
    cases extracted : handler.extractResource message "instance" with
    | error exc => rfl
    | ok found =>
      cases found with
      | none => rfl
      | some resource =>
        simp only
        cases identified : resource.resourceId.item "resource_id" with
        | error exc => rfl
        | ok uuid => exact (named extracted identified).remove
  have resized : handler.resizeBy message db = db := by
    rw [resizeBy]
    cases read : handler.readResize message with
    | error exc => rfl
    | ok found =>
      cases found with
      | none => rfl
      | some resized =>
        obtain ⟨⟨resource, extracted, identified⟩, -⟩ := readResize_returned read
        exact (named extracted identified).updateServers resized.2
  have attached : handler.attachBy message db = db := by
    rw [attachBy]
    cases read : handler.readAttach message with
    | error exc => rfl
    | ok found =>
      cases found with
      | none => rfl
      | some request =>
        obtain ⟨resource, extracted, identified⟩ := readAttach_named read
        exact (named extracted identified).attach
  have detached : handler.detachBy message db = db := by
    rw [detachBy]
    cases read : handler.readDetach message with
    | error exc => rfl
    | ok found =>
      cases found with
      | none => rfl
      | some detached =>
        obtain ⟨resource, extracted, identified⟩ := readDetach_named read
        exact (named extracted identified).detach detached.1
  by_cases delete : message.actionType = some "delete"
  · simpa only [effectOf, delete] using deleted
  by_cases resize : message.actionType = some "resize"
  · simpa only [effectOf, resize] using resized
  by_cases attach : message.actionType = some "attach"
  · simpa only [effectOf, attach] using attached
  by_cases detach : message.actionType = some "detach"
  · simpa only [effectOf, detach] using detached
  have idle : handler.effectOf message = id := by
    simp [effectOf]
  rw [idle]
  rfl

/-- A server that a delete removes is not stored afterwards. -/
theorem remove_lacks (db : Cmdb) {uuid : String} (identified : uuid ≠ "") :
    (db.remove (removalKeys (some uuid) (some ""))).Lacks (some uuid) := by
  intro server stored
  have free := db.remove_unmatched _ server stored
  simpa [unmatched, removalKeys, identified, ServerKey.holds] using free

/-- Messages for a host that is not stored change nothing, whichever and how
many. By induction on them. -/
theorem foldl_absent {messages : List Message} {uuid : Option String}
    (others : ∀ message ∈ messages, message.actionType ≠ some "create" ∧
      handler.hostKeys message ⊆ [.uuid uuid]) (lacks : db.Lacks uuid) :
    messages.foldl (fun db message => handler.effectOf message db) db = db := by
  induction messages with
  | nil => rfl
  | cons message rest ih =>
    obtain ⟨other, named⟩ := others message List.mem_cons_self
    rw [List.foldl_cons, effectOf_absent other]
    · exact ih fun later member => others later (List.mem_cons_of_mem message member)
    · intro named' member
      have same := List.mem_singleton.mp (named member)
      cases same
      exact lacks

end Absent

/-- What a delete leaves is what stays: no later message for the host, other than a create,
changes the store, however often each of them is delivered and wherever it breaks off. -/
theorem deleted_host_stays (worker : MessageHandlerService) (delete : Message)
    (later : List Message) (uuid : String) (attempts : worker.maxRetries ≠ 0)
    (identified : uuid ≠ "") (deletes : delete.actionType = some "delete")
    (host : worker.handler.deletedKeys delete = some [.uuid (some uuid)])
    (others : ∀ message ∈ later, message.actionType ≠ some "create" ∧
      worker.handler.hostKeys message ⊆ [.uuid (some uuid)])
    (db last : Cmdb) (run : RedeliveredInTurn worker (delete :: later) db last) :
    last = db.remove [.uuid (some uuid)] := by
  have keys : removalKeys (some uuid) (some "") = [.uuid (some uuid)] := by
    simp [removalKeys, identified]
  have lacks := remove_lacks db identified
  rw [keys] at lacks
  have first : worker.handler.effectOf delete db = db.remove [.uuid (some uuid)] := by
    rw [effectOf_delete deletes, deleteBy, host]
  have effects := run.effects attempts fun message member => by
    rcases List.mem_cons.mp member with rfl | member
    · simp [deletes]
    · exact (others message member).1
  rw [List.foldl_cons, first, foldl_absent others lacks] at effects
  exact effects

/-- An attach, a resize and a detach come after the delete of their host, which
stays away; the other server is still there. -/
theorem deleted_host_stays_late :
    let delete := AsciiRuntime.deleteMessage "u1"
    let attach := AsciiRuntime.attachMessage "10.0.0.9" "m9"
    let resize := AsciiRuntime.resizeMessage "large" 9
    let detach := AsciiRuntime.detachMessage "10.0.0.9"
    let gone := (undisturbed delete hostPair).db
    let last := (undisturbed detach (undisturbed resize (undisturbed attach gone).db).db).db
    last = hostPair.remove [.uuid (some "u1")] ∧ last.servers.rows.map Row.id = [1] := by
  refine ⟨?_, by decide⟩
  refine deleted_host_stays AsciiRuntime.service (AsciiRuntime.deleteMessage "u1")
    [AsciiRuntime.attachMessage "10.0.0.9" "m9", AsciiRuntime.resizeMessage "large" 9,
      AsciiRuntime.detachMessage "10.0.0.9"] "u1" (by decide) (by decide) rfl rfl ?_ hostPair _
    (.next (.undisturbed (by decide)) (.next (.undisturbed (by decide))
      (.next (.undisturbed (by decide)) (.next (.undisturbed (by decide)) (.done _)))))
  intro message member
  simp only [List.mem_cons, List.not_mem_nil, or_false] at member
  rcases member with rfl | rfl | rfl
  · exact ⟨by decide, List.Subset.refl _⟩
  · exact ⟨by decide, List.Subset.refl _⟩
  · exact ⟨by decide, List.Subset.refl _⟩

end InstanceLifecycle
