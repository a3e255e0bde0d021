import InstanceLifecycle.Cmdb.References
import InstanceLifecycle.Cmdb.Rows
import InstanceLifecycle.Store.Parts

/-!
# The part of the store that belongs to some hosts

The servers that pass a test, their endpoints, the IPs of these, and the rails of some server
ids. Rails are told apart by the server id they name and not by a stored server, since a rail
stays when its server is deleted.
-/

namespace InstanceLifecycle

open Store

namespace Cmdb

section Part

variable (db : Cmdb) (hosts : Row Columns → Bool)

/-- Is it the id of one of these hosts? Only stored servers count. -/
def ofHosts (serverId : Nat) : Bool := db.servers.passes hosts serverId

/-- Is it the id of an endpoint of one of these hosts? -/
def endpointOfHosts (endpointId : Nat) : Bool :=
  db.endpoints.passes (fun endpoint => db.ofHosts hosts endpoint.data.serverId) endpointId

/-- The rows of the hosts, with the rails of the given server ids. -/
def part (own : Nat → Bool) : Cmdb where
  servers := db.servers.keep hosts
  endpoints := db.endpoints.keep (fun endpoint => db.ofHosts hosts endpoint.data.serverId)
  ips := db.ips.keep (fun ip => db.endpointOfHosts hosts ip.data.networkEndpointId)
  rails := db.rails.keep (fun rail => own rail.data.serverId)
  reference := db.reference
  endpoint_server := by
    intro endpoint stored
    obtain ⟨_, host⟩ := (db.endpoints.mem_keep _ endpoint).mp stored
    obtain ⟨server, there, same, passed⟩ := (db.servers.passes_iff hosts _).mp host
    exact ⟨server, (db.servers.mem_keep hosts server).mpr ⟨there, passed⟩, same⟩
  ip_endpoint := by
    intro ip stored
    obtain ⟨_, host⟩ := (db.ips.mem_keep _ ip).mp stored
    obtain ⟨endpoint, there, same, passed⟩ := (db.endpoints.passes_iff _ _).mp host
    exact ⟨endpoint, (db.endpoints.mem_keep _ endpoint).mpr ⟨there, passed⟩, same⟩

/-- The endpoint of a stored row belongs to the hosts if its server does. -/
theorem endpointOfHosts_stored {endpoint : Row Endpoint} (stored : endpoint ∈ db.endpoints.rows) :
    db.endpointOfHosts hosts endpoint.id = db.ofHosts hosts endpoint.data.serverId :=
  db.endpoints.passes_stored _ stored

/-- The server of an endpoint is stored, so it either passes the test or fails it. -/
theorem ofHosts_not {endpoint : Row Endpoint} (stored : endpoint ∈ db.endpoints.rows) :
    db.ofHosts (fun server => !hosts server) endpoint.data.serverId =
      !db.ofHosts hosts endpoint.data.serverId := by
  obtain ⟨server, there, same⟩ := db.endpoint_server endpoint stored
  rw [← same, ofHosts, ofHosts, db.servers.passes_stored _ there, db.servers.passes_stored _ there]

/-- The hosts of a part are those that pass both tests. -/
theorem ofHosts_part (own : Nat → Bool) (narrower : Row Columns → Bool) (serverId : Nat) :
    (db.part hosts own).ofHosts narrower serverId =
      db.ofHosts (fun server => hosts server && narrower server) serverId :=
  db.servers.passes_keep_and narrower hosts serverId

/-- Fewer hosts have fewer rows. -/
theorem ofHosts_and {narrower : Row Columns → Bool} {serverId : Nat}
    (host : db.ofHosts (fun server => hosts server && narrower server) serverId = true) :
    db.ofHosts hosts serverId = true := by
  refine db.servers.passes_mono hosts (fun server both => ?_) host
  exact (Bool.and_eq_true _ _ ▸ both).1

/-- The endpoints of a part are those whose host passes both tests. -/
theorem endpointOfHosts_part (own : Nat → Bool) (narrower : Row Columns → Bool)
    (endpointId : Nat) : (db.part hosts own).endpointOfHosts narrower endpointId =
      db.endpointOfHosts (fun server => hosts server && narrower server) endpointId := by
  refine (db.endpoints.passes_keep_and _ _ endpointId).trans ?_
  refine congrArg (fun test => db.endpoints.passes test endpointId) (funext fun endpoint => ?_)
  rw [db.ofHosts_part hosts own, Bool.and_eq_right_iff_imp]
  exact db.ofHosts_and hosts

/-- A part of a part is the part of the hosts that pass both tests. -/
theorem part_part (own narrowerOwn : Nat → Bool) (narrower : Row Columns → Bool) :
    (db.part hosts own).part narrower narrowerOwn =
      db.part (fun server => hosts server && narrower server)
        (fun serverId => own serverId && narrowerOwn serverId) := by
  refine eq_of_tables (db.servers.keep_keep _ _) ?_ ?_ (db.rails.keep_keep _ _) rfl
  · refine (db.endpoints.keep_keep _ _).trans (db.endpoints.keep_congr fun endpoint _ => ?_)
    rw [db.ofHosts_part hosts own, Bool.and_eq_right_iff_imp]
    exact db.ofHosts_and hosts
  · refine (db.ips.keep_keep _ _).trans (db.ips.keep_congr fun ip _ => ?_)
    rw [db.endpointOfHosts_part hosts own, Bool.and_eq_right_iff_imp]
    intro host
    exact db.endpoints.passes_mono _ (fun endpoint => db.ofHosts_and hosts) host

end Part

/-- The same rows, whatever ids come next. This is how far a part can agree with
a store in which others have inserted. -/
structure SameRows (left right : Cmdb) : Prop where
  servers : left.servers.rows = right.servers.rows
  endpoints : left.endpoints.rows = right.endpoints.rows
  ips : left.ips.rows = right.ips.rows
  rails : left.rails.rows = right.rails.rows
  reference : left.reference = right.reference

namespace SameRows

variable {left middle right : Cmdb}

/-- Every store has its own rows. -/
theorem refl (db : Cmdb) : SameRows db db := ⟨rfl, rfl, rfl, rfl, rfl⟩

/-- The relation may be read from either side. -/
theorem symm (same : SameRows left right) : SameRows right left :=
  ⟨same.servers.symm, same.endpoints.symm, same.ips.symm, same.rails.symm, same.reference.symm⟩

/-- And it may be composed. -/
theorem trans (first : SameRows left middle) (second : SameRows middle right) :
    SameRows left right :=
  ⟨first.servers.trans second.servers, first.endpoints.trans second.endpoints,
    first.ips.trans second.ips, first.rails.trans second.rails,
    first.reference.trans second.reference⟩

end SameRows

/-- The same rows, and the next ids are no smaller, as after inserts that did
not stay. -/
structure Raised (left right : Cmdb) : Prop where
  rows : SameRows left right
  servers : left.servers.next ≤ right.servers.next
  endpoints : left.endpoints.next ≤ right.endpoints.next
  ips : left.ips.next ≤ right.ips.next
  rails : left.rails.next ≤ right.rails.next

namespace Raised

variable {left middle right : Cmdb}

/-- Every store is raised above itself, by nothing. -/
theorem refl (db : Cmdb) : Raised db db :=
  ⟨.refl db, Nat.le_refl _, Nat.le_refl _, Nat.le_refl _, Nat.le_refl _⟩

/-- Raising twice is raising. -/
theorem trans (first : Raised left middle) (second : Raised middle right) : Raised left right :=
  ⟨first.rows.trans second.rows, Nat.le_trans first.servers second.servers,
    Nat.le_trans first.endpoints second.endpoints, Nat.le_trans first.ips second.ips,
    Nat.le_trans first.rails second.rails⟩

end Raised

/-! ## Calls that stay away from the hosts -/

/-- An update that moves no row into or out of the hosts. -/
def Stable (db : Cmdb) (hosts : Row Columns → Bool) (op : CmdbOp) : Prop :=
  ∀ allOf mutation, op = .serverUpdate allOf mutation → ∀ server ∈ db.servers.rows,
    hosts ⟨server.id, server.data.write mutation⟩ = hosts server

variable {db : Cmdb} {hosts : Row Columns → Bool} {own : Nat → Bool} {op : CmdbOp}

/-- No call makes an old id the id of a host, unless it rewrites the rows. -/
theorem ofHosts_of_effect (stable : db.Stable hosts op) {id : Nat} (old : id < db.servers.next)
    (host : (db.effect op).ofHosts hosts id = true) : db.ofHosts hosts id = true := by
  cases op with
  | serverInsertOne columns =>
    rwa [effect, ofHosts, insertServer, db.servers.passes_insert hosts _ old] at host
  | serverUpdate allOf mutation =>
    rwa [effect, ofHosts, updateServers, db.servers.passes_rewrite hosts _ _
      fun server stored _ => stable allOf mutation rfl server stored] at host
  | serverDelete deleted => exact db.servers.passes_of_keep hosts _ host
  | endpointInsertOne columns =>
    rwa [effect, ofHosts, db.insertEndpoint_servers] at host
  | ipInsertOne columns => rwa [effect, ofHosts, db.insertIp_servers] at host
  | _ => exact host

/-- No call adds or changes a rail; the handler only deletes them. -/
theorem effect_rail (db : Cmdb) (op : CmdbOp) {rail : Row Rail} (stored : rail ∈ (db.effect op).rails.rows) :
    rail ∈ db.rails.rows := by
  cases op with
  | railsDelete deleted => exact ((db.rails.mem_keep _ rail).mp stored).1
  | endpointInsertOne columns =>
    rw [effect, insertEndpoint] at stored
    split at stored <;> exact stored
  | ipInsertOne columns =>
    rw [effect, insertIp] at stored
    split at stored <;> exact stored
  | _ => exact stored

/-- No call gives an IP id back. -/
theorem effect_next_ips (db : Cmdb) (op : CmdbOp) : db.ips.next ≤ (db.effect op).ips.next := by
  cases op with
  | endpointInsertOne columns =>
    have same : (db.effect (.endpointInsertOne columns)).ips = db.ips := db.insertEndpoint_ips columns
    exact Nat.le_of_eq (congrArg Table.next same.symm)
  | ipInsertOne columns =>
    rw [effect, insertIp]
    split
    · exact Nat.le_succ _
    · exact Nat.le_refl _
  | _ => exact Nat.le_refl _

/-- No call gives a rail id back. -/
theorem effect_next_rails (db : Cmdb) (op : CmdbOp) : db.rails.next ≤ (db.effect op).rails.next := by
  cases op with
  | endpointInsertOne columns =>
    rw [effect, insertEndpoint]
    split <;> exact Nat.le_refl _
  | ipInsertOne columns =>
    rw [effect, insertIp]
    split <;> exact Nat.le_refl _
  | _ => exact Nat.le_refl _

/-- The row is none of the hosts', now and for as long as it is stored. -/
def Apart (db : Cmdb) (hosts : Row Columns → Bool) (own : Nat → Bool) : RowRef → Prop
  | .server id => id < db.servers.next ∧ db.ofHosts hosts id = false
  | .endpoint id => id < db.endpoints.next ∧ db.endpointOfHosts hosts id = false
  | .rail id => ∀ rail ∈ db.rails.rows, rail.id = id → own rail.data.serverId = false

/-- A row that is apart stays apart. Its id was given already, and no call moves
a row to another host. -/
theorem Apart.effect {row : RowRef} (apart : db.Apart hosts own row)
    (stable : db.Stable hosts op) : (db.effect op).Apart hosts own row := by
  cases row with
  | server id =>
    refine ⟨Nat.lt_of_lt_of_le apart.1 (db.effect_next op).1, ?_⟩
    by_contra host
    have before := ofHosts_of_effect stable apart.1 (by simpa using host)
    rw [apart.2] at before
    cases before
  | endpoint id =>
    refine ⟨Nat.lt_of_lt_of_le apart.1 (db.effect_next op).2, ?_⟩
    rw [endpointOfHosts, Table.passes_false_iff]
    intro endpoint stored same
    by_contra host
    rcases db.effect_endpoint op stored with ⟨columns, rfl, rfl⟩ | ⟨old, there, sameId, change⟩
    · exact absurd same (Nat.ne_of_gt apart.1)
    · have hangs : endpoint.data.serverId = old.data.serverId := by
        rcases change with rfl | ⟨updates, rfl, written⟩
        · rfl
        · rw [written]
          rfl
      obtain ⟨server, present, named⟩ := db.endpoint_server old there
      have below : old.data.serverId < db.servers.next := named ▸ db.servers.serial server present
      have before := ofHosts_of_effect stable below (by simpa [hangs] using host)
      have none := (db.endpoints.passes_false_iff _ id).mp apart.2 old there (sameId.trans same)
      rw [before] at none
      cases none
  | rail id => exact fun rail stored same => apart rail (db.effect_rail op stored) same

/-- The call stays away from the hosts: its keys select none of them, it names no row of
theirs, and what it inserts or rewrites is none of them. -/
structure Confined (db : Cmdb) (hosts : Row Columns → Bool) (own : Nat → Bool) (op : CmdbOp) :
    Prop where
  keys : ∀ key ∈ op.serverKeys, ∀ server ∈ db.servers.rows, key.holds server = true →
    hosts server = false
  rows : ∀ row ∈ op.namedRows, db.Apart hosts own row
  conditioned : op.conditioned = true
  inserted : ∀ columns, op = .serverInsertOne columns →
    hosts ⟨db.servers.next, Columns.write (fun _ => .null) columns⟩ = false
  stable : db.Stable hosts op

/-- A stored endpoint of another host is apart. -/
theorem apart_of_endpoint {endpoint : Row Endpoint} (stored : endpoint ∈ db.endpoints.rows)
    (apart : db.ofHosts hosts endpoint.data.serverId = false) :
    db.Apart hosts own (.endpoint endpoint.id) :=
  ⟨db.endpoints.serial endpoint stored, (db.endpointOfHosts_stored hosts stored).trans apart⟩

section Confined

variable (confined : db.Confined hosts own op)

include confined

/-- A server selected by a uuid of the call is none of the hosts. -/
theorem Confined.apart_of_uuid {uuid : Option String} (named : .uuid uuid ∈ op.serverKeys)
    {endpoint : Row Endpoint} (onHost : db.endpointOnHost uuid endpoint = true) :
    db.ofHosts hosts endpoint.data.serverId = false := by
  obtain ⟨server, stored, found⟩ := List.any_eq_true.mp onHost
  simp only [Bool.and_eq_true, decide_eq_true_eq] at found
  rw [← found.1, ofHosts, db.servers.passes_stored hosts stored]
  exact confined.keys _ named server stored found.2

/-- A confined call leaves the server rows of the hosts alone. By cases on the
call. -/
theorem Confined.servers : ((db.effect op).servers.keep hosts).rows =
    (db.servers.keep hosts).rows := by
  cases op with
  | serverInsertOne columns => exact db.servers.keep_insert_spared hosts _ (confined.inserted _ rfl)
  | serverUpdate allOf mutation =>
    refine congrArg Table.rows (db.servers.keep_rewrite_spared hosts _ _ ?_)
    intro server stored chosen
    cases allOf with
    | nil => cases confined.conditioned
    | cons key rest =>
      have holds : key.holds server = true :=
        List.all_eq_true.mp chosen key List.mem_cons_self
      have none := confined.keys key List.mem_cons_self server stored holds
      exact ⟨none, (confined.stable _ _ rfl server stored).trans none⟩
  | serverDelete id =>
    refine congrArg Table.rows (db.servers.keep_keep_spared hosts _ ?_)
    intro server stored dropped
    have apart := (confined.rows _ List.mem_cons_self).2
    exact (db.servers.passes_false_iff hosts id).mp apart server stored (by simpa using dropped)
  | endpointInsertOne columns => rw [effect, db.insertEndpoint_servers]
  | ipInsertOne columns => rw [effect, db.insertIp_servers]
  | _ => rfl

/-- A confined call does not change which server ids are the hosts'. By the
call: an inserted server is none of them, an update keeps the keys that tell
them apart, and a deleted server is none of them either. -/
theorem Confined.ofHosts : (db.effect op).ofHosts hosts = db.ofHosts hosts := by
  funext id
  cases op with
  | serverInsertOne columns => exact db.servers.passes_insert_spared hosts _ (confined.inserted _ rfl) id
  | serverUpdate allOf mutation =>
    exact db.servers.passes_rewrite hosts _ _
      (fun server stored _ => confined.stable _ _ rfl server stored) id
  | serverDelete deleted =>
    apply db.servers.passes_keep
    intro server stored dropped
    have apart := (confined.rows _ List.mem_cons_self).2
    exact (db.servers.passes_false_iff hosts deleted).mp apart server stored (by simpa using dropped)
  | endpointInsertOne columns => rw [effect, Cmdb.ofHosts, db.insertEndpoint_servers, Cmdb.ofHosts]
  | ipInsertOne columns => rw [effect, Cmdb.ofHosts, db.insertIp_servers, Cmdb.ofHosts]
  | _ => rfl

/-- The endpoints a call changes or takes away are none of the hosts'. -/
theorem Confined.endpoints :
    ((db.effect op).endpoints.keep fun endpoint => db.ofHosts hosts endpoint.data.serverId).rows =
      (db.endpoints.keep fun endpoint => db.ofHosts hosts endpoint.data.serverId).rows := by
  cases op with
  | serverDelete id =>
    refine congrArg Table.rows (db.endpoints.keep_keep_spared _ _ ?_)
    intro endpoint stored dropped
    have hangs : endpoint.data.serverId = id := by simpa using dropped
    rw [hangs]
    exact (confined.rows _ List.mem_cons_self).2
  | endpointInsertOne columns =>
    rw [effect, insertEndpoint]
    split
    · exact db.endpoints.keep_insert_spared _ _ (confined.rows _ List.mem_cons_self).2
    · rfl
  | endpointUpdate id updates =>
    refine congrArg Table.rows (db.endpoints.keep_rewrite_spared _ _ _ ?_)
    intro endpoint stored chosen
    have apart := (db.endpoints.passes_false_iff _ id).mp
      (confined.rows _ List.mem_cons_self).2 endpoint stored (by simpa using chosen)
    exact ⟨apart, apart⟩
  | endpointDeleteWithoutIps uuid =>
    refine congrArg Table.rows (db.endpoints.keep_keep_spared _ _ ?_)
    intro endpoint stored dropped
    have without : db.withoutIpsOn uuid endpoint = true := by simpa using dropped
    rw [withoutIpsOn, Bool.and_eq_true] at without
    exact confined.apart_of_uuid List.mem_cons_self without.2
  | ipInsertOne columns => rw [effect, db.insertIp_endpoints]
  | _ => rfl

/-- A confined call does not change which endpoints are the hosts': an inserted
endpoint hangs on another server, and a delete takes the endpoints of another.
-/
theorem Confined.endpointOfHosts :
    (db.effect op).endpointOfHosts hosts = db.endpointOfHosts hosts := by
  funext id
  rw [Cmdb.endpointOfHosts, confined.ofHosts, Cmdb.endpointOfHosts]
  cases op with
  | serverDelete deleted =>
    apply db.endpoints.passes_keep
    intro endpoint stored dropped
    have hangs : endpoint.data.serverId = deleted := by simpa using dropped
    rw [hangs]
    exact (confined.rows _ List.mem_cons_self).2
  | endpointInsertOne columns =>
    rw [effect, insertEndpoint]
    split
    · exact db.endpoints.passes_insert_spared _ _ (confined.rows _ List.mem_cons_self).2 id
    · rfl
  | endpointUpdate updated updates => exact db.endpoints.passes_rewrite _ _ _ (fun _ _ _ => rfl) id
  | endpointDeleteWithoutIps uuid =>
    apply db.endpoints.passes_keep
    intro endpoint stored dropped
    have without : db.withoutIpsOn uuid endpoint = true := by simpa using dropped
    rw [withoutIpsOn, Bool.and_eq_true] at without
    exact confined.apart_of_uuid List.mem_cons_self without.2
  | ipInsertOne columns => rw [effect, db.insertIp_endpoints]
  | _ => rfl

/-- The IPs a call inserts or takes away are none of the hosts'. -/
theorem Confined.ips :
    ((db.effect op).ips.keep fun ip => db.endpointOfHosts hosts ip.data.networkEndpointId).rows =
      (db.ips.keep fun ip => db.endpointOfHosts hosts ip.data.networkEndpointId).rows := by
  cases op with
  | serverDelete id =>
    refine congrArg Table.rows (db.ips.keep_keep_spared _ _ ?_)
    intro ip stored dropped
    rw [Cmdb.endpointOfHosts, Table.passes_false_iff]
    intro endpoint there same
    rw [List.any_eq_false] at dropped
    have hangs : endpoint.data.serverId = id := by
      by_contra other
      exact dropped endpoint there (by simp [same, other])
    rw [hangs]
    exact (confined.rows _ List.mem_cons_self).2
  | endpointInsertOne columns => rw [effect, db.insertEndpoint_ips]
  | ipInsertOne columns =>
    rw [effect, insertIp]
    split
    · exact db.ips.keep_insert_spared _ _ (confined.rows _ List.mem_cons_self).2
    · rfl
  | ipDelete address uuid =>
    refine congrArg Table.rows (db.ips.keep_keep_spared _ _ ?_)
    intro ip stored dropped
    have attached : db.attachedTo address uuid ip = true := by simpa using dropped
    rw [attachedTo, Bool.and_eq_true, ipOnHost] at attached
    obtain ⟨endpoint, there, found⟩ := List.any_eq_true.mp attached.2
    simp only [Bool.and_eq_true, decide_eq_true_eq] at found
    rw [← found.1, db.endpointOfHosts_stored hosts there]
    exact confined.apart_of_uuid List.mem_cons_self found.2
  | _ => rfl

/-- The rails of the hosts are left alone, since a rail that is deleted is named
and so apart. -/
theorem Confined.rails : ((db.effect op).rails.keep fun rail => own rail.data.serverId).rows =
    (db.rails.keep fun rail => own rail.data.serverId).rows := by
  cases op with
  | railsDelete id =>
    refine congrArg Table.rows (db.rails.keep_keep_spared _ _ ?_)
    intro rail stored dropped
    exact confined.rows (.rail id) List.mem_cons_self rail stored (by simpa using dropped)
  | endpointInsertOne columns =>
    rw [effect, insertEndpoint]
    split <;> rfl
  | ipInsertOne columns =>
    rw [effect, insertIp]
    split <;> rfl
  | _ => rfl

/-- A call that stays away from the hosts leaves their part of the store as it is. -/
theorem Confined.spares : SameRows ((db.effect op).part hosts own) (db.part hosts own) := by
  refine ⟨confined.servers, ?_, ?_, confined.rails, db.effect_reference op⟩
  · simp only [part, confined.ofHosts]
    exact confined.endpoints
  · simp only [part, confined.endpointOfHosts]
    exact confined.ips

/-- Altogether it leaves the part of the hosts alone, though it may use up ids. -/
theorem Confined.raises : (db.part hosts own).Raised ((db.effect op).part hosts own) :=
  ⟨confined.spares.symm, (db.effect_next op).1, (db.effect_next op).2,
    db.effect_next_ips op, db.effect_next_rails op⟩

/-! ### What a call hands out -/

/-- The rails of a server are told apart as the server is. -/
def Labelled (db : Cmdb) (hosts : Row Columns → Bool) (own : Nat → Bool) : Prop :=
  ∀ server ∈ db.servers.rows, ∀ rail ∈ db.rails.rows, rail.data.serverId = server.id →
    own server.id = hosts server

/-- A server that a key of the call selects is apart. -/
theorem Confined.apart_of_key {key : ServerKey} (named : key ∈ op.serverKeys)
    {server : Row Columns} (stored : server ∈ db.servers.rows) (holds : key.holds server = true) :
    server.id < db.servers.next ∧ db.ofHosts hosts server.id = false := by
  refine ⟨db.servers.serial server stored, ?_⟩
  rw [Cmdb.ofHosts, db.servers.passes_stored hosts stored]
  exact confined.keys key named server stored holds

/-- What an answer shows is apart as well. By cases on the call, from the
apartness of the rows it selects. -/
theorem Confined.handed (labelled : db.Labelled hosts own) (admitted : db.admits op = true)
    {row : RowRef} (shown : row ∈ op.handedRows (db.rows op)) :
    (db.effect op).Apart hosts own row := by
  cases op with
  | serverSelect anyOf =>
    obtain ⟨item, listed, shown⟩ := List.mem_flatMap.mp shown
    obtain ⟨server, selected, rfl⟩ := List.mem_map.mp listed
    obtain ⟨stored, holds⟩ := List.mem_filter.mp selected
    obtain ⟨key, named, holds⟩ := List.any_eq_true.mp holds
    rcases List.mem_cons.mp shown with rfl | shown
    · exact confined.apart_of_key named stored holds
    · obtain ⟨id, hangs, rfl⟩ := List.mem_map.mp shown
      obtain ⟨rail, listed, rfl⟩ := List.mem_map.mp hangs
      obtain ⟨there, same⟩ := List.mem_filter.mp listed
      intro other stored' named'
      rw [db.rails.row_unique stored' there named', of_decide_eq_true same,
        labelled server stored rail there (of_decide_eq_true same)]
      exact confined.keys key named server stored holds
  | serverSelectOneByUuid uuid =>
    obtain ⟨view, found, shown⟩ := List.mem_flatMap.mp shown
    obtain ⟨server, located, rfl⟩ := Option.map_eq_some_iff.mp (Option.mem_toList.mp found)
    have stored := List.mem_of_find?_eq_some located
    have selected := List.find?_some located
    change ServerKey.holds server (.uuid uuid) = true at selected
    have apart := confined.apart_of_key List.mem_cons_self stored selected
    rcases List.mem_cons.mp shown with rfl | shown
    · exact apart
    · obtain ⟨view, listed, rfl⟩ := List.mem_map.mp shown
      obtain ⟨endpoint, hangs, rfl⟩ := List.mem_map.mp listed
      obtain ⟨there, same⟩ := List.mem_filter.mp hangs
      exact apart_of_endpoint there ((of_decide_eq_true same).symm ▸ apart.2)
  | serverSelectOneByHostname hostname =>
    obtain ⟨id, found, rfl⟩ := List.mem_map.mp shown
    obtain ⟨server, located, rfl⟩ := Option.map_eq_some_iff.mp (Option.mem_toList.mp found)
    have selected := List.find?_some located
    change ServerKey.holds server (.hostname hostname) = true at selected
    exact confined.apart_of_key List.mem_cons_self (List.mem_of_find?_eq_some located) selected
  | serverInsertOne columns =>
    rw [List.mem_singleton.mp shown]
    refine ⟨Nat.lt_succ_self _, ?_⟩
    rw [effect, Cmdb.ofHosts, insertServer]
    exact (db.servers.passes_insert_next hosts _).trans (confined.inserted columns rfl)
  | endpointSelectOne serverId key =>
    obtain ⟨ref, found, rfl⟩ := List.mem_map.mp shown
    obtain ⟨endpoint, located, rfl⟩ := Option.map_eq_some_iff.mp (Option.mem_toList.mp found)
    have asked := List.find?_some located
    rw [Bool.and_eq_true, decide_eq_true_eq] at asked
    have apart := (confined.rows (.server serverId) List.mem_cons_self).2
    exact apart_of_endpoint (List.mem_of_find?_eq_some located) (asked.1.symm ▸ apart)
  | endpointInsertOne columns =>
    rw [List.mem_singleton.mp shown]
    have present : ∃ server ∈ db.servers.rows, server.id = columns.serverId := by
      simpa [admits] using admitted
    have stored := db.insertEndpoint_stored columns present
    have apart : (db.effect (.endpointInsertOne columns)).ofHosts hosts columns.serverId = false := by
      rw [confined.ofHosts]
      exact (confined.rows (.server columns.serverId) List.mem_cons_self).2
    exact apart_of_endpoint stored apart
  | ipSelectAttached address uuid =>
    obtain ⟨attached, found, rfl⟩ := List.mem_map.mp shown
    obtain ⟨ip, located, shown⟩ := Option.bind_eq_some_iff.mp (Option.mem_toList.mp found)
    obtain ⟨ref, hangs, rfl⟩ := Option.map_eq_some_iff.mp shown
    obtain ⟨endpoint, first, rfl⟩ := Option.map_eq_some_iff.mp hangs
    have there := List.mem_of_find?_eq_some first
    have same : endpoint.id = ip.data.networkEndpointId := by simpa using List.find?_some first
    have carried := List.find?_some located
    rw [attachedTo, Bool.and_eq_true, ipOnHost] at carried
    obtain ⟨other, stored, on⟩ := List.any_eq_true.mp carried.2
    simp only [Bool.and_eq_true, decide_eq_true_eq] at on
    rw [← db.endpoints.row_unique there stored (same.trans on.1.symm)] at on
    exact apart_of_endpoint there (confined.apart_of_uuid List.mem_cons_self on.2)
  | _ => cases shown

end Confined

end Cmdb

end InstanceLifecycle
