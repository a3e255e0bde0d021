import InstanceLifecycle.Cmdb.PartAnswers
import InstanceLifecycle.Service.Lifecycle
import InstanceLifecycle.Store.Inventory

/-!
# The addresses of the hosts

What the service keeps, seen from outside: which hosts there are and which addresses are on them.
An attach, a detach and a delete change this inventory as one would expect, a resize does not
change it, and the endpoints under the addresses do not appear in it.
-/

namespace InstanceLifecycle

open Interaction Store InstanceHandler

namespace Cmdb

/-! ## The inventory of a store -/

section Hosts

variable (db : Cmdb)

/-- Does a stored server carry this uuid? -/
def Hosts (uuid : String) : Prop := ∃ server ∈ db.servers.rows, hasUuid server (some uuid) = true

/-- A uuid is hosted exactly when the test for it passes at some server id,
which is the form the parts of a store use. -/
theorem hosts_iff (uuid : String) : db.Hosts uuid ↔
    ∃ serverId, db.ofHosts (fun server => hasUuid server (some uuid)) serverId = true := by
  constructor
  · rintro ⟨server, stored, carries⟩
    exact ⟨server.id, (db.servers.passes_stored _ stored).trans carries⟩
  · rintro ⟨serverId, passed⟩
    obtain ⟨server, stored, -, carries⟩ := (db.servers.passes_iff _ _).mp passed
    exact ⟨server, stored, carries⟩

/-- An address hangs on a hosted uuid only. -/
theorem hosts_of_attached {address uuid : String} {ip : Row Ip}
    (attached : db.attachedTo address (some uuid) ip = true) : db.Hosts uuid := by
  rw [attachedTo, Bool.and_eq_true] at attached
  obtain ⟨endpoint, -, -, onHost⟩ := (db.endpoints.passes_iff _ _).mp attached.2
  obtain ⟨server, stored, -, carries⟩ := (db.servers.passes_iff _ _).mp onHost
  exact ⟨server, stored, carries⟩

/-- The uuids of the servers, and the addresses on each of them. -/
def inventory : Inventory String String where
  keys := {uuid | db.Hosts uuid}
  placed := {place | db.attached place.2 (some place.1) ≠ []}
  founded := by
    intro place held
    obtain ⟨ip, member⟩ := List.exists_mem_of_ne_nil _ held
    exact db.hosts_of_attached (List.mem_filter.mp member).2

/-- The server of an endpoint has one uuid, for it is one row. -/
theorem endpointOnHost_one {endpoint : Row Endpoint} {uuid other : String}
    (onHost : db.endpointOnHost (some uuid) endpoint = true)
    (onOther : db.endpointOnHost (some other) endpoint = true) : uuid = other := by
  obtain ⟨server, stored, same, carries⟩ := (db.servers.passes_iff _ _).mp onHost
  obtain ⟨again, there, sameToo, carriesToo⟩ := (db.servers.passes_iff _ _).mp onOther
  obtain rfl := db.servers.row_unique stored there (same.trans sameToo.symm)
  exact Value.str.inj (((Value.isStr_iff _ _).mp carries).symm.trans
    ((Value.isStr_iff _ _).mp carriesToo))

/-- An IP is at one place: its address and the uuid of its server are determined
by the row. -/
theorem attachedTo_one {ip : Row Ip} {place elsewhere : String × String}
    (attached : db.attachedTo place.2 (some place.1) ip = true)
    (attachedToo : db.attachedTo elsewhere.2 (some elsewhere.1) ip = true) :
    place = elsewhere := by
  rw [attachedTo, Bool.and_eq_true, decide_eq_true_eq] at attached attachedToo
  obtain ⟨endpoint, stored, same, onHost⟩ := (db.endpoints.passes_iff _ _).mp attached.2
  obtain ⟨again, there, sameToo, onOther⟩ := (db.endpoints.passes_iff _ _).mp attachedToo.2
  obtain rfl := db.endpoints.row_unique stored there (same.trans sameToo.symm)
  exact Prod.ext (db.endpointOnHost_one onHost onOther) (attached.1.symm.trans attachedToo.1)

end Hosts

/-! ## What the effects make of it -/

section Effects

variable {db : Cmdb} {uuid address : String}

/-- Deleting an address from a host leaves what is attached at every other
place, since an IP is attached at one place only. -/
theorem attached_deleteIps_apart {place : String × String} (apart : place ≠ (uuid, address)) :
    (db.deleteIps address (some uuid)).attached place.2 (some place.1) =
      db.attached place.2 (some place.1) := by
  rw [attached, attachedTo_deleteIps]
  simp only [deleteIps, Table.keep, List.filter_filter]
  apply List.filter_congr
  intro ip _
  cases there : db.attachedTo place.2 (some place.1) ip with
  | false => rfl
  | true =>
    cases gone : db.attachedTo address (some uuid) ip with
    | false => rfl
    | true => exact absurd (db.attachedTo_one there gone) apart

/-- An IP on an endpoint of a host leaves every place but its own as it is. -/
theorem attached_insertIp_apart {columns : Ip} {place : String × String}
    (hangs : ∃ endpoint ∈ db.endpoints.rows, endpoint.id = columns.networkEndpointId ∧
      db.endpointOnHost (some uuid) endpoint = true) (apart : place ≠ (uuid, columns.ip)) :
    (db.insertIp columns).attached place.2 (some place.1) =
      db.attached place.2 (some place.1) := by
  obtain ⟨endpoint, stored, same, onHost⟩ := hangs
  have own : db.attachedTo columns.ip (some uuid) ⟨db.ips.next, columns⟩ = true := by
    rw [attachedTo, Bool.and_eq_true]
    exact ⟨decide_eq_true rfl, (db.endpoints.passes_iff _ _).mpr ⟨endpoint, stored, same, onHost⟩⟩
  have other : db.attachedTo place.2 (some place.1) ⟨db.ips.next, columns⟩ = false := by
    rw [Bool.eq_false_iff]
    exact fun there => apart (db.attachedTo_one there own)
  rw [attached, attachedTo_insertIp, insertIp, dif_pos ⟨endpoint, stored, same⟩]
  simp [Table.insert, attached, other]

/-- An attach places its address on its host, if the host is stored. -/
theorem attach_inventory (handler : InstanceHandler) {request : AttachRequest}
    (host : request.hostUuid = some uuid) :
    (db.attach handler request).inventory = db.inventory.attach uuid request.ipAddr := by
  rw [attach, host]
  cases located : db.servers.rows.find? (fun server => hasUuid server (some uuid)) with
  | none =>
    refine (db.inventory.attach_missing request.ipAddr ?_).symm
    rintro ⟨server, stored, carries⟩
    exact List.find?_eq_none.mp located server stored carries
  | some server =>
    have stored := List.mem_of_find?_eq_some located
    have carries := @List.find?_some _ (fun server => hasUuid server (some uuid)) _ _ located
    simp only
    split
    · have hangs := @withEndpoint_hangs db request server stored (host ▸ carries)
      rw [host] at hangs
      have servers : (db.withAddress handler request (db.serverView server)).servers =
          db.servers := (insertIp_servers _ _).trans (withEndpoint_servers db request _)
      refine Inventory.eq_of_places (fun other => ?_) fun place => ?_
      · change Hosts _ other ↔ Hosts db other
        rw [Hosts, servers, Hosts]
      · change _ ≠ [] ↔ _ ≠ [] ∨ _
        rw [withAddress]
        by_cases own : place = (uuid, request.ipAddr)
        · obtain rfl := own
          refine iff_of_true ?_ (Or.inr ⟨rfl, server, stored, carries⟩)
          have placed := attached_insertIp_new _ (attachIpColumns request (db.serverView server)
            (db.prefixFor handler request) (db.endpointFor request (db.serverView server))) _ hangs
          exact fun none => List.append_ne_nil_of_right_ne_nil _ (List.cons_ne_nil _ _)
            (placed.symm.trans none)
        · rw [attached_insertIp_apart hangs own, withEndpoint_attached]
          exact ⟨Or.inl, fun either => either.elim id fun new => absurd new.1 own⟩
    · rename_i taken
      rw [List.isEmpty_iff] at taken
      exact (db.inventory.attach_again taken).symm

/-- A detach takes its address off its host, whatever it deletes of the endpoints. -/
theorem detach_inventory :
    (db.detach address (some uuid)).inventory = db.inventory.detach uuid address := by
  refine Inventory.eq_of_places (fun _ => Iff.rfl) fun place => ?_
  have reached : (db.detach address (some uuid)).attached place.2 (some place.1) =
      (db.deleteIps address (some uuid)).attached place.2 (some place.1) :=
    attached_deleteEndpointsWithoutIps _ _ _ _
  change _ ≠ [] ↔ _ ≠ [] ∧ _
  rw [reached]
  by_cases own : place = (uuid, address)
  · obtain rfl := own
    simp [attached_deleteIps]
  · rw [attached_deleteIps_apart own]
    exact ⟨fun held => ⟨held, own⟩, fun held => held.1⟩

/-- The addresses of a host that a part holds are the same in the part. -/
theorem part_attached {hosts : Row Columns → Bool} (own : Nat → Bool) {host : Option String}
    (held : db.HoldsUuid hosts host) (address : String) :
    (db.part hosts own).attached address host = db.attached address host := by
  rw [attached, part_attachedTo held]
  simp only [part, Table.keep, List.filter_filter]
  apply List.filter_congr
  intro ip _
  rw [Bool.and_eq_left_iff_imp]
  exact attachedTo_part held

/-- The other hosts stay when one is removed, with all that carry their uuid. -/
theorem holdsUuid_other (db : Cmdb) {other : String} (apart : other ≠ uuid) :
    db.HoldsUuid (unmatched [.uuid (some uuid)]) (some other) := by
  intro server _ carries
  have none : hasUuid server (some uuid) = false := by
    rw [Bool.eq_false_iff]
    intro carriesToo
    exact apart (Value.str.inj (((Value.isStr_iff _ _).mp carries).symm.trans
      ((Value.isStr_iff _ _).mp carriesToo)))
  simp [unmatched, ServerKey.holds, none]

/-- A removal takes the host away with everything on it, and nothing else. The
store of a removal is the part of the other hosts. -/
theorem remove_inventory :
    (db.remove [.uuid (some uuid)]).inventory = db.inventory.delete uuid := by
  have gone : ¬ (db.remove [.uuid (some uuid)]).Hosts uuid := by
    rintro ⟨server, stored, carries⟩
    have free := db.remove_unmatched _ server stored
    simp [unmatched, ServerKey.holds, carries] at free
  refine Inventory.eq_of_places (fun other => ?_) fun place => ?_
  · by_cases named : other = uuid
    · obtain rfl := named
      exact iff_of_false gone fun held => held.2 rfl
    · have held := db.holdsUuid_other named
      constructor
      · rintro ⟨server, stored, carries⟩
        exact ⟨⟨server, ((db.servers.mem_keep _ server).mp stored).1, carries⟩, named⟩
      · rintro ⟨⟨server, stored, carries⟩, -⟩
        exact ⟨server, (db.servers.mem_keep _ server).mpr ⟨stored, held server stored carries⟩,
          carries⟩
  · by_cases named : place.1 = uuid
    · obtain rfl := named
      refine iff_of_false (fun held => gone ?_) fun held => held.2 rfl
      exact (db.remove [.uuid (some place.1)]).inventory.founded place held
    · have held := db.holdsUuid_other named
      change _ ≠ [] ↔ _ ≠ [] ∧ _
      rw [remove, part_attached _ held]
      exact ⟨fun there => ⟨there, named⟩, fun there => there.1⟩

/-- An update that keeps the two keys changes nothing in the inventory, as
resizes do. -/
theorem updateServers_inventory (keys : List ServerKey) {columns : Mutation}
    (keeps : KeepsKeys columns) : (db.updateServers keys columns).inventory = db.inventory := by
  have hosts : ∀ uuid serverId, (db.updateServers keys columns).ofHosts
      (fun server => hasUuid server uuid) serverId =
        db.ofHosts (fun server => hasUuid server uuid) serverId := fun uuid serverId =>
    db.servers.passes_rewrite _ _ _
      (fun server _ _ => (ServerKey.uuid uuid).holds_write server keeps) serverId
  have ips : ∀ address uuid, (db.updateServers keys columns).attachedTo address uuid =
      db.attachedTo address uuid := by
    intro address uuid
    funext ip
    have onHost : (db.updateServers keys columns).endpointOnHost uuid = db.endpointOnHost uuid :=
      funext fun endpoint => hosts uuid endpoint.data.serverId
    rw [attachedTo, ipOnHost, onHost]
    rfl
  refine Inventory.eq_of_places (fun uuid => ?_) fun place => ?_
  · change Hosts _ uuid ↔ Hosts _ uuid
    rw [hosts_iff, hosts_iff]
    simp only [hosts]
  · change _ ≠ [] ↔ _ ≠ []
    rw [attached, ips]
    exact Iff.rfl

end Effects

end Cmdb

/-! ## Messages as changes -/

namespace InstanceHandler

variable (handler : InstanceHandler) (message : Message)

/-- The host that a removal by these keys takes away. A delete names a uuid or
nothing. -/
def removedHost : List ServerKey → Option String
  | [.uuid (some host)] => some host
  | _ => none

/-- A delete as a change of the inventory, if its message names a host. -/
def deleteChange : Option (Change String String) :=
  ((handler.deletedKeys message).bind removedHost).map .delete

/-- An attach as a change, if its message can be read and names a host. -/
def attachChange : Option (Change String String) :=
  match handler.readAttach message with
  | .ok (some request) => request.hostUuid.map (fun host => .attach host request.ipAddr)
  | _ => none

/-- A detach as a change, if its message can be read and names a host. -/
def detachChange : Option (Change String String) :=
  match handler.readDetach message with
  | .ok (some (address, host)) => host.map (fun host => .detach host address)
  | _ => none

/-- What a message other than a create changes of the inventory. A resize and an
unknown action change nothing. -/
def changeOf : Option (Change String String) :=
  match message.actionType with
  | some "delete" => handler.deleteChange message
  | some "attach" => handler.attachChange message
  | some "detach" => handler.detachChange message
  | _ => none

end InstanceHandler

section Messages

variable {handler : InstanceHandler} {message : Message} (db : Cmdb)

/-- A delete removes by the uuid alone, or by nothing when it is empty. -/
theorem removalKeys_uuid (uuid : Option String) : removalKeys uuid (some "") = [] ∨
    ∃ host, removalKeys uuid (some "") = [.uuid (some host)] := by
  cases uuid with
  | none => exact Or.inl rfl
  | some host =>
    by_cases empty : host = ""
    · exact Or.inl (by simp [removalKeys, empty])
    · exact Or.inr ⟨host, by simp [removalKeys, empty]⟩

/-- So the keys of a delete are none or one uuid. -/
theorem deletedKeys_uuid {keys : List ServerKey} (named : handler.deletedKeys message = some keys) :
    keys = [] ∨ ∃ host, keys = [.uuid (some host)] := by
  rw [deletedKeys] at named
  split at named
  · split at named
    · obtain rfl := Option.some.inj named
      exact removalKeys_uuid _
    · cases named
  · cases named

/-- The effect of a delete on the inventory is its change. -/
theorem deleteBy_inventory : (handler.deleteBy message db).inventory =
    db.inventory.replay (handler.deleteChange message).toList := by
  rw [deleteBy, deleteChange]
  cases named : handler.deletedKeys message with
  | none => rfl
  | some keys =>
    rcases deletedKeys_uuid named with rfl | ⟨host, rfl⟩
    · exact congrArg Cmdb.inventory db.remove_nil
    · exact Cmdb.remove_inventory

/-- The effect of an attach on the inventory is its change. An address that
hangs already, or a missing server, makes no difference on either side. -/
theorem attachBy_inventory : (handler.attachBy message db).inventory =
    db.inventory.replay (handler.attachChange message).toList := by
  rw [attachBy, attachChange]
  cases handler.readAttach message with
  | error exc => rfl
  | ok found =>
    cases found with
    | none => rfl
    | some request =>
      cases host : request.hostUuid with
      | none =>
        have lacks : db.Lacks request.hostUuid := host ▸ fun _ _ => rfl
        simp only [host]
        exact congrArg Cmdb.inventory lacks.attach
      | some uuid =>
        simp only [host]
        exact Cmdb.attach_inventory handler host

/-- The effect of a detach on the inventory is its change; the endpoints it
deletes carry no address. -/
theorem detachBy_inventory : (handler.detachBy message db).inventory =
    db.inventory.replay (handler.detachChange message).toList := by
  rw [detachBy, detachChange]
  cases handler.readDetach message with
  | error exc => rfl
  | ok found =>
    cases found with
    | none => rfl
    | some detached =>
      obtain ⟨address, uuid⟩ := detached
      cases uuid with
      | none =>
        have lacks : db.Lacks none := fun _ _ => rfl
        exact congrArg Cmdb.inventory (lacks.detach address)
      | some uuid => exact Cmdb.detach_inventory

/-- A resize has no effect on the inventory. -/
theorem resizeBy_inventory : (handler.resizeBy message db).inventory = db.inventory := by
  rw [resizeBy]
  split
  · exact db.updateServers_inventory _ (readResize_returned ‹_›).2
  · rfl

/-- The effect of any message other than a create is its change. By cases on the
action. -/
theorem effectOf_inventory : (handler.effectOf message db).inventory =
    db.inventory.replay (handler.changeOf message).toList := by
  by_cases delete : message.actionType = some "delete"
  · simpa only [effectOf, changeOf, delete] using deleteBy_inventory db
  by_cases resize : message.actionType = some "resize"
  · have resizes : handler.effectOf message = handler.resizeBy message := by
      simp [effectOf, resize]
    have none : handler.changeOf message = none := by
      simp [changeOf, resize]
    rw [resizes, none]
    exact resizeBy_inventory db
  by_cases attach : message.actionType = some "attach"
  · simpa only [effectOf, changeOf, attach] using attachBy_inventory db
  by_cases detach : message.actionType = some "detach"
  · simpa only [effectOf, changeOf, detach] using detachBy_inventory db
  have idle : handler.effectOf message = id := by
    simp [effectOf]
  have none : handler.changeOf message = none := by
    simp [changeOf]
  rw [idle, none]
  rfl

/-- The effects of several messages are their changes in turn. By induction on
the messages. -/
theorem foldl_inventory (handler : InstanceHandler) (messages : List Message) :
    (messages.foldl (fun db message => handler.effectOf message db) db).inventory =
      db.inventory.replay (messages.filterMap handler.changeOf) := by
  induction messages generalizing db with
  | nil => rfl
  | cons message rest ih =>
    rw [List.foldl_cons, ih, effectOf_inventory, ← Inventory.replay_append]
    congr 1
    cases changed : handler.changeOf message with
    | none => rw [List.filterMap_cons_none changed]; rfl
    | some change => rw [List.filterMap_cons_some changed]; rfl

end Messages

/-- However often each message was delivered and broken off, the inventory at
the end is that of its changes, each made once. -/
theorem RedeliveredInTurn.inventory {worker : MessageHandlerService} {messages : List Message}
    {db last : Cmdb} (attempts : worker.maxRetries ≠ 0)
    (others : ∀ message ∈ messages, message.actionType ≠ some "create")
    (run : RedeliveredInTurn worker messages db last) :
    last.inventory = db.inventory.replay (messages.filterMap worker.handler.changeOf) := by
  rw [run.effects attempts others]
  exact foldl_inventory db worker.handler messages

/-- What the inventory says about one address: the host is stored at the start
and never deleted, and the last change about the place attached it, or none was
made and it hung before. -/
theorem RedeliveredInTurn.decides {worker : MessageHandlerService} {messages : List Message}
    {db last : Cmdb} (attempts : worker.maxRetries ≠ 0)
    (others : ∀ message ∈ messages, message.actionType ≠ some "create")
    (run : RedeliveredInTurn worker messages db last) (uuid address : String) :
    last.attached address (some uuid) ≠ [] ↔
      (db.Hosts uuid ∧ .delete uuid ∉ messages.filterMap worker.handler.changeOf) ∧
        (decision uuid address (messages.filterMap worker.handler.changeOf) = some true ∨
          decision uuid address (messages.filterMap worker.handler.changeOf) = none ∧
            db.attached address (some uuid) ≠ []) := by
  have replays := run.inventory attempts others
  have placed := db.inventory.placed_replay uuid address
    (messages.filterMap worker.handler.changeOf)
  rw [Inventory.keys_replay, ← replays] at placed
  exact placed

/-- The inventory is the replay of the messages. Each message other than a create counts once and
in its turn, however often it is delivered, wherever its deliveries break off and whatever
requests and replies are lost. -/
theorem inventory_replays (worker : MessageHandlerService) (messages : List Message)
    (attempts : worker.maxRetries ≠ 0)
    (others : ∀ message ∈ messages, message.actionType ≠ some "create") (db last : Cmdb)
    (run : RedeliveredInTurn worker messages db last) :
    last.inventory = db.inventory.replay (messages.filterMap worker.handler.changeOf) :=
  run.inventory attempts others

/-- The address comes, goes and comes again on the first host, and the second host is deleted. The
last attach breaks off behind its endpoint. -/
theorem inventory_replays_pair :
    let attach := AsciiRuntime.attachMessage "10.0.0.9" "m9"
    let detach := AsciiRuntime.detachMessage "10.0.0.9"
    let delete := AsciiRuntime.deleteMessage "u2"
    let before := (undisturbed detach (undisturbed attach hostPair).db).db
    let last := (undisturbed delete (undisturbed attach (brokenOff 6 attach before)).db).db
    last.inventory = hostPair.inventory.replay
      [.attach "u1" "10.0.0.9", .detach "u1" "10.0.0.9", .attach "u1" "10.0.0.9",
        .delete "u2"] := by
  refine inventory_replays AsciiRuntime.service
    [AsciiRuntime.attachMessage "10.0.0.9" "m9", AsciiRuntime.detachMessage "10.0.0.9",
      AsciiRuntime.attachMessage "10.0.0.9" "m9", AsciiRuntime.deleteMessage "u2"] (by decide)
    (by decide) hostPair _ (.next (.undisturbed ?_) (.next (.undisturbed ?_)
      (.next (.brokenOff 6 (.undisturbed ?_)) (.next (.undisturbed ?_) (.done _)))))
  all_goals decide

/-- The last message about an address decides about it: the host has the address in the end if it
is stored still and the last attach or detach of the address was an attach, or there was none and
the host had it before. -/
theorem last_message_decides (worker : MessageHandlerService) (messages : List Message)
    (attempts : worker.maxRetries ≠ 0)
    (others : ∀ message ∈ messages, message.actionType ≠ some "create") (db last : Cmdb)
    (run : RedeliveredInTurn worker messages db last) (uuid address : String) :
    last.attached address (some uuid) ≠ [] ↔
      (db.Hosts uuid ∧ .delete uuid ∉ messages.filterMap worker.handler.changeOf) ∧
        (decision uuid address (messages.filterMap worker.handler.changeOf) = some true ∨
          decision uuid address (messages.filterMap worker.handler.changeOf) = none ∧
            db.attached address (some uuid) ≠ []) :=
  run.decides attempts others uuid address

/-- The address is attached, detached and attached again, with one delivery
broken off in between; the last attach decides. -/
theorem last_message_decides_again :
    let attach := AsciiRuntime.attachMessage "10.0.0.9" "m9"
    let detach := AsciiRuntime.detachMessage "10.0.0.9"
    let before := (undisturbed detach (undisturbed attach hostPair).db).db
    let last := (undisturbed attach (brokenOff 6 attach before)).db
    let changes : List (Change String String) :=
      [.attach "u1" "10.0.0.9", .detach "u1" "10.0.0.9", .attach "u1" "10.0.0.9"]
    last.attached "10.0.0.9" (some "u1") ≠ [] ↔
      (hostPair.Hosts "u1" ∧ .delete "u1" ∉ changes) ∧
        (decision "u1" "10.0.0.9" changes = some true ∨
          decision "u1" "10.0.0.9" changes = none ∧
            hostPair.attached "10.0.0.9" (some "u1") ≠ []) := by
  refine last_message_decides AsciiRuntime.service
    [AsciiRuntime.attachMessage "10.0.0.9" "m9", AsciiRuntime.detachMessage "10.0.0.9",
      AsciiRuntime.attachMessage "10.0.0.9" "m9"] (by decide) (by decide) hostPair _
    (.next (.undisturbed ?_) (.next (.undisturbed ?_)
      (.next (.brokenOff 6 (.undisturbed ?_)) (.done _)))) "u1" "10.0.0.9"
  all_goals decide

/-! ## After a create -/

/-- Is the address on one of the endpoints of the image? -/
def HostImage.carries (image : HostImage) (address : String) : Bool :=
  image.endpoints.any fun endpoint => endpoint.ips.any fun ip => decide (ip.ip = address)

section Image

variable {db : Cmdb} {hostname uuid : String} {image : HostImage}

/-- The one row of a host with an image: it carries the uuid, and no other row
does. -/
theorem hostImages_row (identified : image.columns "uuid" = .str uuid)
    (sole : db.hostImages hostname uuid = [image]) :
    ∃ server ∈ db.servers.rows, hasUuid server (some uuid) = true ∧
      image = ⟨server.data, db.endpointImages server.id⟩ ∧
      ∀ other ∈ db.servers.rows, hasUuid other (some uuid) = true → other = server := by
  obtain ⟨server, rows, rfl⟩ := List.map_eq_singleton_iff.mp sole
  have listed : server ∈ db.hostRows hostname uuid := rows ▸ List.mem_singleton_self server
  refine ⟨server, (List.mem_filter.mp listed).1, (Value.isStr_iff _ _).mpr identified, rfl, ?_⟩
  intro other stored carries
  have member : other ∈ db.hostRows hostname uuid :=
    List.mem_filter.mpr ⟨stored, Bool.or_eq_true_iff.mpr (Or.inr carries)⟩
  rw [rows] at member
  exact List.mem_singleton.mp member

/-- An address hangs on a uuid exactly when an IP row, its endpoint and the
server of that are all stored. -/
theorem attached_ne_nil_iff (address : String) (uuid : Option String) :
    db.attached address uuid ≠ [] ↔ ∃ ip ∈ db.ips.rows, ip.data.ip = address ∧
      ∃ endpoint ∈ db.endpoints.rows, endpoint.id = ip.data.networkEndpointId ∧
        ∃ server ∈ db.servers.rows, server.id = endpoint.data.serverId ∧
          hasUuid server uuid = true := by
  rw [Cmdb.attached, Ne, List.filter_eq_nil_iff]
  simp [Cmdb.attachedTo, Cmdb.ipOnHost, Cmdb.endpointOnHost]

/-- The image of a server carries an address exactly when such rows exist for
the server. -/
theorem carries_iff (server : Row Columns) (address : String) :
    HostImage.carries ⟨server.data, db.endpointImages server.id⟩ address = true ↔
      ∃ ip ∈ db.ips.rows, ip.data.ip = address ∧ ∃ endpoint ∈ db.endpoints.rows,
        endpoint.id = ip.data.networkEndpointId ∧ server.id = endpoint.data.serverId := by
  simp only [HostImage.carries, Cmdb.endpointImages, Cmdb.endpointImage, Cmdb.ipImages, ipImage,
    Cmdb.endpointsOf, Cmdb.ipsOf, List.any_map, List.any_filter, List.any_eq_true, Function.comp,
    Bool.and_eq_true, decide_eq_true_eq]
  constructor
  · rintro ⟨endpoint, stored, own, ip, there, hangs, same⟩
    exact ⟨ip, there, of_decide_eq_true same, endpoint, stored, hangs.symm, own.symm⟩
  · rintro ⟨ip, there, same, endpoint, stored, hangs, own⟩
    exact ⟨endpoint, stored, own.symm, ip, there, hangs.symm, decide_eq_true same⟩

/-- The addresses of the host are those of its image, for there is one row only. -/
theorem hostImages_carries (identified : image.columns "uuid" = .str uuid)
    (sole : db.hostImages hostname uuid = [image]) (address : String) :
    db.attached address (some uuid) ≠ [] ↔ image.carries address = true := by
  obtain ⟨server, stored, carries, rfl, one⟩ := hostImages_row identified sole
  rw [attached_ne_nil_iff, carries_iff]
  constructor
  · rintro ⟨ip, there, same, endpoint, present, hangs, other, listed, own, carriesToo⟩
    obtain rfl := one other listed carriesToo
    exact ⟨ip, there, same, endpoint, present, hangs, own⟩
  · rintro ⟨ip, there, same, endpoint, present, hangs, own⟩
    exact ⟨ip, there, same, endpoint, present, hangs, server, stored, own, carries⟩

end Image

/-- Which addresses a host has in the end, whatever came before its last create: those of the plan
of this create, but for the attaches and detaches since, of which the last about an address
decides, and unless a delete has come since. -/
theorem addresses_after_create (worker : MessageHandlerService) (attempts : worker.maxRetries ≠ 0)
    (earlier later : List Message) (message : Message)
    (create : message.actionType = some "create") (carried : hasInstance message)
    (clean : ∀ content, readCreate worker.handler message = .ok (some content) →
      CleanContent content)
    (others : ∀ other ∈ later, other.actionType ≠ some "create") (db last : Cmdb)
    (run : RedeliveredInTurn worker (earlier ++ message :: later) db last) :
    ∃ content writes, readCreate worker.handler message = .ok (some content) ∧
      worker.handler.createWrites (content.context worker.handler message db) = .ok writes ∧
      ∀ address, last.attached address (some content.instanceId) ≠ [] ↔
        .delete content.instanceId ∉ later.filterMap worker.handler.changeOf ∧
          (decision content.instanceId address (later.filterMap worker.handler.changeOf) =
              some true ∨
            decision content.instanceId address (later.filterMap worker.handler.changeOf) = none ∧
              (plannedHost worker.handler (content.context worker.handler message db)
                (content.recorded worker.handler db {}) writes db).carries address = true) := by
  obtain ⟨before, history, rest⟩ := run.split
  cases rest with
  | next created onward =>
    obtain ⟨content, writes, read, returned, sole⟩ :=
      created.converges create carried attempts clean history.reference
    have identified := plannedHost_uuid (clean content read) returned
    refine ⟨content, writes, read, returned, fun address => ?_⟩
    obtain ⟨server, stored, carries, -⟩ := hostImages_row identified sole
    have hosts : Cmdb.Hosts _ content.instanceId := ⟨server, stored, carries⟩
    rw [← hostImages_carries identified sole, onward.decides attempts others, and_iff_right hosts]

/-- The host is registered and gets an address, which its create does away with. Then it gets
another one, its attach being interrupted. -/
theorem addresses_after_create_attached :
    let attach := AsciiRuntime.attachMessage "10.0.0.9" "m9"
    let attached := (undisturbed attach AsciiRuntime.registered).db
    let created := (undisturbed sampleCreate (brokenOff 6 sampleCreate attached)).db
    let last := (undisturbed attach (brokenOff 6 attach created)).db
    ∃ content writes, readCreate AsciiRuntime.handler sampleCreate = .ok (some content) ∧
      AsciiRuntime.handler.createWrites
        (content.context AsciiRuntime.handler sampleCreate AsciiRuntime.registered) = .ok writes ∧
      ∀ address, last.attached address (some content.instanceId) ≠ [] ↔
        .delete content.instanceId ∉ [attach].filterMap AsciiRuntime.handler.changeOf ∧
          (decision content.instanceId address
              ([attach].filterMap AsciiRuntime.handler.changeOf) = some true ∨
            decision content.instanceId address
                ([attach].filterMap AsciiRuntime.handler.changeOf) = none ∧
              (plannedHost AsciiRuntime.handler
                (content.context AsciiRuntime.handler sampleCreate AsciiRuntime.registered)
                (content.recorded AsciiRuntime.handler AsciiRuntime.registered {}) writes
                AsciiRuntime.registered).carries address = true) := by
  refine addresses_after_create AsciiRuntime.service (by decide)
    [AsciiRuntime.attachMessage "10.0.0.9" "m9"] [AsciiRuntime.attachMessage "10.0.0.9" "m9"]
    sampleCreate rfl sampleCreate_instance sampleCreate_clean (by decide) AsciiRuntime.registered _
    (.next (.undisturbed (by decide +kernel))
      (.next (.brokenOff 6 (.undisturbed (by decide +kernel)))
        (.next (.brokenOff 6 (.undisturbed (by decide +kernel))) (.done _))))

end InstanceLifecycle
