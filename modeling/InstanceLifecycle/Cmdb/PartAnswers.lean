import InstanceLifecycle.Cmdb.Part
import InstanceLifecycle.Cmdb.World

/-!
# Calls within a part

A call that stays away from all other hosts is answered by the part of the store as by the
whole, and changes it as it changes the whole. The part gives the same ids, since it keeps the
next ones of the whole.
-/

namespace InstanceLifecycle

open Store

namespace Cmdb

/-- The hosts that fail the test. A call that keeps to some hosts is one
confined away from these. -/
abbrev others (hosts : Row Columns → Bool) (server : Row Columns) : Bool := !hosts server

/-- The call keeps to these hosts: its keys select no others, it names no row of
others, and what it inserts or rewrites stays among them. -/
abbrev KeepsTo (db : Cmdb) (hosts : Row Columns → Bool) (own : Nat → Bool) (op : CmdbOp) : Prop :=
  db.Confined (others hosts) (fun id => !own id) op

variable {db : Cmdb} {hosts : Row Columns → Bool} {own : Nat → Bool} {op : CmdbOp}

/-! ## Rows of the hosts -/

/-- An endpoint of the hosts has the same IPs in their part. An IP belongs where
its endpoint does, so none of them is lost on the way. -/
theorem part_ipsOf {endpoint : Row Endpoint} (stored : endpoint ∈ db.endpoints.rows)
    (host : db.ofHosts hosts endpoint.data.serverId = true) :
    (db.part hosts own).ipsOf endpoint.id = db.ipsOf endpoint.id := by
  apply db.ips.filter_part
  intro ip _ hangs
  rw [of_decide_eq_true hangs, db.endpointOfHosts_stored hosts stored]
  exact host

/-- A server of the hosts has the same endpoints in their part, since an
endpoint is kept exactly when its server is. -/
theorem part_endpointsOf {server : Row Columns} (stored : server ∈ db.servers.rows)
    (host : hosts server = true) :
    (db.part hosts own).endpointsOf server.id = db.endpointsOf server.id := by
  apply db.endpoints.filter_part
  intro endpoint _ hangs
  rw [of_decide_eq_true hangs, ofHosts, db.servers.passes_stored hosts stored]
  exact host

/-- A server of the hosts is shown with the same endpoints and IPs in their
part. The view is read off the two lists above. -/
theorem part_serverView {server : Row Columns} (stored : server ∈ db.servers.rows)
    (host : hosts server = true) : (db.part hosts own).serverView server = db.serverView server := by
  rw [serverView, part_endpointsOf stored host, serverView]
  congr 1
  apply List.map_congr_left
  intro endpoint listed
  obtain ⟨there, hangs⟩ := List.mem_filter.mp listed
  have own : db.ofHosts hosts endpoint.data.serverId = true := by
    rw [of_decide_eq_true hangs, ofHosts, db.servers.passes_stored hosts stored]
    exact host
  rw [endpointView, part_ipsOf there own, endpointView]

/-- Servers with this uuid are all among the hosts. It is what lets a condition
on the uuid mean the same in the part as in the whole store. -/
def HoldsUuid (db : Cmdb) (hosts : Row Columns → Bool) (uuid : Option String) : Prop :=
  ∀ server ∈ db.servers.rows, hasUuid server uuid = true → hosts server = true

section Uuid

variable {uuid : Option String} (held : db.HoldsUuid hosts uuid)

include held

/-- Whether an endpoint hangs on a server with the uuid is the same in the part:
the servers that could witness it are all kept. -/
theorem part_endpointOnHost (endpoint : Row Endpoint) :
    (db.part hosts own).endpointOnHost uuid endpoint = db.endpointOnHost uuid endpoint := by
  apply Table.passes_congr
  · intro server stored same named
    exact ⟨server, ((db.servers.mem_keep hosts server).mp stored).1, same, named⟩
  · intro server stored same named
    exact ⟨server, (db.servers.mem_keep hosts server).mpr ⟨stored, held server stored named⟩,
      same, named⟩

/-- An endpoint on a server with the uuid belongs to the hosts, because that
server does. -/
theorem ofHosts_onHost {endpoint : Row Endpoint} (onHost : db.endpointOnHost uuid endpoint = true) :
    db.ofHosts hosts endpoint.data.serverId = true := by
  obtain ⟨server, stored, same, named⟩ := (db.servers.passes_iff _ _).mp onHost
  rw [← same, ofHosts, db.servers.passes_stored hosts stored]
  exact held server stored named

/-- Whether an IP hangs on a server with the uuid is the same in the part. The
endpoint between the two is kept with the server it hangs on. -/
theorem part_ipOnHost (ip : Row Ip) :
    (db.part hosts own).ipOnHost uuid ip = db.ipOnHost uuid ip := by
  apply Table.passes_congr
  · intro endpoint stored same onHost
    rw [part_endpointOnHost held] at onHost
    exact ⟨endpoint, ((db.endpoints.mem_keep _ endpoint).mp stored).1, same, onHost⟩
  · intro endpoint stored same onHost
    refine ⟨endpoint, (db.endpoints.mem_keep _ endpoint).mpr ⟨stored, ofHosts_onHost held onHost⟩,
      same, ?_⟩
    rwa [part_endpointOnHost held]

/-- The condition of the attached IP reads the same in the part as in the whole
store, as a function of the IP. -/
theorem part_attachedTo (address : String) :
    (db.part hosts own).attachedTo address uuid = db.attachedTo address uuid := by
  funext ip
  rw [attachedTo, part_ipOnHost held, attachedTo]

/-- The endpoint of an attached IP is one of the hosts'. The condition names a
server with the uuid, and those are all among them. -/
theorem attachedTo_part {address : String} {ip : Row Ip}
    (attached : db.attachedTo address uuid ip = true) :
    db.endpointOfHosts hosts ip.data.networkEndpointId = true := by
  rw [attachedTo, Bool.and_eq_true] at attached
  obtain ⟨endpoint, stored, same, onHost⟩ := (db.endpoints.passes_iff _ _).mp attached.2
  exact (db.endpoints.passes_iff _ _).mpr ⟨endpoint, stored, same, ofHosts_onHost held onHost⟩

end Uuid

/-- An endpoint of the hosts has an IP in the part exactly when it has one at
all. By both inclusions of the two tables of IPs. -/
theorem part_hasIps {endpoint : Row Endpoint} (stored : endpoint ∈ db.endpoints.rows)
    (host : db.ofHosts hosts endpoint.data.serverId = true) :
    (db.part hosts own).hasIps endpoint = db.hasIps endpoint := by
  rw [Bool.eq_iff_iff, hasIps, hasIps, List.any_eq_true, List.any_eq_true]
  constructor
  · rintro ⟨ip, there, hangs⟩
    exact ⟨ip, ((db.ips.mem_keep _ ip).mp there).1, hangs⟩
  · rintro ⟨ip, there, hangs⟩
    refine ⟨ip, (db.ips.mem_keep _ ip).mpr ⟨there, ?_⟩, hangs⟩
    rw [of_decide_eq_true hangs, db.endpointOfHosts_stored hosts stored]
    exact host

/-- Whether an endpoint is one of the host's without IPs is the same in the
part, for the endpoints that are kept there. -/
theorem part_withoutIpsOn {uuid : Option String} (held : db.HoldsUuid hosts uuid)
    {endpoint : Row Endpoint} (stored : endpoint ∈ db.endpoints.rows)
    (host : db.ofHosts hosts endpoint.data.serverId = true) :
    (db.part hosts own).withoutIpsOn uuid endpoint = db.withoutIpsOn uuid endpoint := by
  rw [withoutIpsOn, part_hasIps stored host, part_endpointOnHost held, withoutIpsOn]

/-! ## Writes to the part -/

/-- Inserting a server of the hosts commutes with taking the part. The new id is
no stored endpoint's server, so no row changes sides by it. -/
theorem part_insertServer (columns : Mutation)
    (inserted : hosts ⟨db.servers.next, Columns.write (fun _ => .null) columns⟩ = true) :
    (db.part hosts own).insertServer columns = (db.insertServer columns).part hosts own := by
  have hangs : ∀ endpoint ∈ db.endpoints.rows,
      db.ofHosts hosts endpoint.data.serverId =
        (db.insertServer columns).ofHosts hosts endpoint.data.serverId := by
    intro endpoint stored
    obtain ⟨server, there, same⟩ := db.endpoint_server endpoint stored
    rw [← same]
    exact (db.servers.passes_insert hosts _ (db.servers.serial server there)).symm
  apply eq_of_tables
  · exact (db.servers.keep_insert_own hosts _ inserted).symm
  · exact db.endpoints.keep_congr hangs
  · apply db.ips.keep_congr
    intro ip _
    apply Table.passes_congr
    · exact fun endpoint stored same host =>
        ⟨endpoint, stored, same, (hangs endpoint stored).symm.trans host⟩
    · exact fun endpoint stored same host =>
        ⟨endpoint, stored, same, (hangs endpoint stored).trans host⟩
  · rfl
  · rfl

/-- An update of server rows commutes with taking the part, provided it moves no
server across the test. The rows of endpoints and IPs then keep their sides too. -/
theorem part_updateServers (allOf : List ServerKey) (mutation : Mutation)
    (stable : ∀ server ∈ db.servers.rows,
      hosts ⟨server.id, server.data.write mutation⟩ = hosts server) :
    (db.part hosts own).updateServers allOf mutation =
      (db.updateServers allOf mutation).part hosts own := by
  have same : (db.updateServers allOf mutation).ofHosts hosts = db.ofHosts hosts := by
    funext id
    exact db.servers.passes_rewrite hosts _ (fun columns => columns.write mutation)
      (fun server stored _ => stable server stored) id
  apply eq_of_tables
  · exact (db.servers.keep_rewrite_own hosts _ (fun columns => columns.write mutation)
      fun server stored _ => stable server stored).symm
  · simp only [part, same]
    rfl
  · simp only [part, endpointOfHosts, same]
    rfl
  · rfl
  · rfl

/-- By the server an endpoint hangs on, which is the deleted one or not. -/
theorem part_deleteServer (id : Nat) :
    (db.part hosts own).deleteServer id = (db.deleteServer id).part hosts own := by
  have others : ∀ serverId, serverId ≠ id →
      (db.deleteServer id).ofHosts hosts serverId = db.ofHosts hosts serverId := by
    intro serverId other
    apply Table.passes_congr
    · exact fun server stored same host =>
        ⟨server, ((db.servers.mem_keep _ server).mp stored).1, same, host⟩
    · intro server stored same host
      exact ⟨server, (db.servers.mem_keep _ server).mpr ⟨stored, decide_eq_true (same ▸ other)⟩,
        same, host⟩
  apply eq_of_tables
  · exact (db.servers.keep_comm hosts _).symm
  · change (db.endpoints.keep _).keep _ = (db.endpoints.keep _).keep _
    rw [Table.keep_keep, Table.keep_keep]
    apply Table.keep_congr
    intro endpoint _
    by_cases hangs : endpoint.data.serverId = id
    · simp [hangs]
    · simp [hangs, others]
  · change (db.ips.keep _).keep _ = (db.ips.keep _).keep _
    rw [Table.keep_keep, Table.keep_keep]
    apply Table.keep_congr
    intro ip stored
    obtain ⟨endpoint, there, same⟩ := db.ip_endpoint ip stored
    rw [← same]
    -- Both tests ask whether this endpoint belongs to the hosts and stays.
    have stays : db.endpoints.passes (fun endpoint => decide (endpoint.data.serverId ≠ id))
        endpoint.id = decide (endpoint.data.serverId ≠ id) := db.endpoints.passes_stored _ there
    change (_ && (db.endpoints.keep _).passes _ endpoint.id) =
      (db.endpoints.passes _ endpoint.id && _)
    rw [stays, db.endpointOfHosts_stored hosts there]
    by_cases hangs : endpoint.data.serverId = id
    · have gone : (db.endpoints.keep fun endpoint => db.ofHosts hosts endpoint.data.serverId).passes
          (fun endpoint => decide (endpoint.data.serverId ≠ id)) endpoint.id = false := by
        rw [Table.passes_false_iff]
        intro other kept same
        rw [db.endpoints.row_unique ((db.endpoints.mem_keep _ other).mp kept).1 there same]
        simp [hangs]
      rw [gone, hangs]
      simp
    · have kept : endpoint ∈ (db.deleteServer id).endpoints.rows :=
        (db.endpoints.mem_keep _ endpoint).mpr ⟨there, decide_eq_true hangs⟩
      rw [(db.deleteServer id).endpointOfHosts_stored hosts kept, others _ hangs]
      cases host : db.ofHosts hosts endpoint.data.serverId with
      | false => simp
      | true =>
        have own : endpoint ∈ (db.endpoints.keep fun endpoint =>
            db.ofHosts hosts endpoint.data.serverId).rows :=
          (db.endpoints.mem_keep _ endpoint).mpr ⟨there, host⟩
        rw [Table.passes_stored _ _ own]
        simp [hangs]
  · rfl
  · rfl

/-- Deleting a rail commutes with taking the part, for any hosts: both keep the
rails that pass a test of their own. -/
theorem part_deleteRail (id : Nat) :
    (db.part hosts own).deleteRail id = (db.deleteRail id).part hosts own :=
  eq_of_tables rfl rfl rfl (db.rails.keep_comm _ _).symm rfl

/-- Inserting an endpoint on a server of the hosts commutes with taking the
part. If the server is absent from the store it is absent from the part, and
nothing is inserted in either. -/
theorem part_insertEndpoint (columns : Endpoint)
    (hangs : ∀ server ∈ db.servers.rows, server.id = columns.serverId → hosts server = true) :
    (db.part hosts own).insertEndpoint columns = (db.insertEndpoint columns).part hosts own := by
  unfold insertEndpoint
  by_cases present : ∃ server ∈ db.servers.rows, server.id = columns.serverId
  · obtain ⟨server, stored, same⟩ := present
    have host : hosts server = true := hangs server stored same
    have kept : ∃ server ∈ (db.part hosts own).servers.rows, server.id = columns.serverId :=
      ⟨server, (db.servers.mem_keep hosts server).mpr ⟨stored, host⟩, same⟩
    rw [dif_pos kept, dif_pos ⟨server, stored, same⟩]
    apply eq_of_tables
    · rfl
    · refine (db.endpoints.keep_insert_own _ columns ?_).symm
      change db.ofHosts hosts columns.serverId = true
      rw [← same, ofHosts, db.servers.passes_stored hosts stored]
      exact host
    · apply db.ips.keep_congr
      intro ip there
      obtain ⟨endpoint, hung, named⟩ := db.ip_endpoint ip there
      exact (db.endpoints.passes_insert _ _ (named ▸ db.endpoints.serial endpoint hung)).symm
    · rfl
    · rfl
  · have absent : ¬ ∃ server ∈ (db.part hosts own).servers.rows, server.id = columns.serverId := by
      rintro ⟨server, kept, same⟩
      exact present ⟨server, ((db.servers.mem_keep hosts server).mp kept).1, same⟩
    rw [dif_neg absent, dif_neg present]

/-- An update of an endpoint commutes with taking the part: it leaves the server
of the endpoint alone, hence the sides of all rows. -/
theorem part_updateEndpoint (id : Nat) (updates : EndpointUpdate) :
    (db.part hosts own).updateEndpoint id updates = (db.updateEndpoint id updates).part hosts own := by
  have same : (db.updateEndpoint id updates).endpointOfHosts hosts = db.endpointOfHosts hosts := by
    funext endpointId
    exact db.endpoints.passes_rewrite _ _ updates.apply (fun _ _ _ => rfl) endpointId
  apply eq_of_tables
  · rfl
  · exact (db.endpoints.keep_rewrite_own _ _ updates.apply fun _ _ _ => rfl).symm
  · simp only [part, same]
    rfl
  · rfl
  · rfl

/-- Deleting the host's endpoints without IPs commutes with taking the part,
when the host is among the hosts. An endpoint kept by the part is deleted there
on the same grounds. -/
theorem part_deleteEndpointsWithoutIps {uuid : Option String} (held : db.HoldsUuid hosts uuid) :
    (db.part hosts own).deleteEndpointsWithoutIps uuid =
      (db.deleteEndpointsWithoutIps uuid).part hosts own := by
  apply eq_of_tables
  · rfl
  · change (db.endpoints.keep _).keep _ = (db.endpoints.keep _).keep _
    rw [Table.keep_keep, Table.keep_keep]
    apply Table.keep_congr
    intro endpoint stored
    change (db.ofHosts hosts endpoint.data.serverId && _) =
      (_ && db.ofHosts hosts endpoint.data.serverId)
    cases host : db.ofHosts hosts endpoint.data.serverId with
    | false => simp
    | true => simp [part_withoutIpsOn held stored host]
  · apply db.ips.keep_congr
    intro ip stored
    -- The endpoint of an IP is never one without IPs.
    apply Table.passes_congr
    · intro endpoint there same host
      refine ⟨endpoint, (db.endpoints.mem_keep _ endpoint).mpr ⟨there, ?_⟩, same, host⟩
      have used : db.hasIps endpoint = true :=
        List.any_eq_true.mpr ⟨ip, stored, decide_eq_true same.symm⟩
      simp [withoutIpsOn, used]
    · exact fun endpoint there same host =>
        ⟨endpoint, ((db.endpoints.mem_keep _ endpoint).mp there).1, same, host⟩
  · rfl
  · rfl

/-- Inserting an IP on an endpoint of the hosts commutes with taking the part.
As for endpoints, an absent endpoint is absent on both sides. -/
theorem part_insertIp (columns : Ip)
    (hangs : ∀ endpoint ∈ db.endpoints.rows, endpoint.id = columns.networkEndpointId →
      db.ofHosts hosts endpoint.data.serverId = true) :
    (db.part hosts own).insertIp columns = (db.insertIp columns).part hosts own := by
  unfold insertIp
  by_cases present : ∃ endpoint ∈ db.endpoints.rows, endpoint.id = columns.networkEndpointId
  · obtain ⟨endpoint, stored, same⟩ := present
    have host := hangs endpoint stored same
    have kept : ∃ endpoint ∈ (db.part hosts own).endpoints.rows,
        endpoint.id = columns.networkEndpointId :=
      ⟨endpoint, (db.endpoints.mem_keep _ endpoint).mpr ⟨stored, host⟩, same⟩
    rw [dif_pos kept, dif_pos ⟨endpoint, stored, same⟩]
    apply eq_of_tables
    · rfl
    · rfl
    · refine (db.ips.keep_insert_own _ columns ?_).symm
      change db.endpointOfHosts hosts columns.networkEndpointId = true
      rw [← same, db.endpointOfHosts_stored hosts stored]
      exact host
    · rfl
    · rfl
  · have absent : ¬ ∃ endpoint ∈ (db.part hosts own).endpoints.rows,
        endpoint.id = columns.networkEndpointId := by
      rintro ⟨endpoint, kept, same⟩
      exact present ⟨endpoint, ((db.endpoints.mem_keep _ endpoint).mp kept).1, same⟩
    rw [dif_neg absent, dif_neg present]

/-- Deleting the attached IPs of a host commutes with taking the part, since the
condition of the delete reads the same there. -/
theorem part_deleteIps {uuid : Option String} (held : db.HoldsUuid hosts uuid) (address : String) :
    (db.part hosts own).deleteIps address uuid = (db.deleteIps address uuid).part hosts own := by
  refine eq_of_tables rfl rfl ?_ rfl rfl
  simp only [deleteIps, part_attachedTo held]
  exact (db.ips.keep_comm _ _).symm

/-! ## Calls that keep to the hosts -/

section KeepsTo

variable (keeps : db.KeepsTo hosts own op)

include keeps

/-- What a key of the call selects is one of the hosts. -/
theorem KeepsTo.of_key {key : ServerKey} (named : key ∈ op.serverKeys) {server : Row Columns}
    (stored : server ∈ db.servers.rows) (holds : key.holds server = true) : hosts server = true := by
  simpa [others] using keeps.keys key named server stored holds

/-- A call that names a uuid has all servers of that uuid among its hosts. -/
theorem KeepsTo.holdsUuid {uuid : Option String} (named : .uuid uuid ∈ op.serverKeys) :
    db.HoldsUuid hosts uuid :=
  fun _ stored holds => KeepsTo.of_key keeps named stored holds

/-- A server row that the call names is one of the hosts. -/
theorem KeepsTo.of_server {id : Nat} (named : .server id ∈ op.namedRows) {server : Row Columns}
    (stored : server ∈ db.servers.rows) (same : server.id = id) : hosts server = true := by
  have apart := (db.servers.passes_false_iff _ id).mp (keeps.rows _ named).2 server stored same
  simpa [others] using apart

/-- The endpoints of a server that the call names are the hosts'. The name
settles the side of the server, and the endpoints follow it. -/
theorem KeepsTo.ofHosts_of_server {id : Nat} (named : .server id ∈ op.namedRows)
    {endpoint : Row Endpoint} (stored : endpoint ∈ db.endpoints.rows)
    (hangs : endpoint.data.serverId = id) : db.ofHosts hosts endpoint.data.serverId = true := by
  have apart := (keeps.rows _ named).2
  rw [← hangs, db.ofHosts_not hosts stored] at apart
  simpa using apart

/-- An endpoint that the call names is the hosts'. -/
theorem KeepsTo.of_endpoint {id : Nat} (named : .endpoint id ∈ op.namedRows)
    {endpoint : Row Endpoint} (stored : endpoint ∈ db.endpoints.rows) (same : endpoint.id = id) :
    db.ofHosts hosts endpoint.data.serverId = true := by
  have apart := (db.endpoints.passes_false_iff _ id).mp (keeps.rows _ named).2 endpoint stored same
  rw [db.ofHosts_not hosts stored] at apart
  simpa using apart

/-- The IPs on an endpoint that the call names are the hosts', because the
endpoint is. -/
theorem KeepsTo.of_ip {id : Nat} (named : .endpoint id ∈ op.namedRows) {ip : Row Ip}
    (stored : ip ∈ db.ips.rows) (hangs : ip.data.networkEndpointId = id) :
    db.endpointOfHosts hosts ip.data.networkEndpointId = true := by
  obtain ⟨endpoint, there, same⟩ := db.ip_endpoint ip stored
  rw [← same, db.endpointOfHosts_stored hosts there]
  exact KeepsTo.of_endpoint keeps named there (same.trans hangs)

/-- A rail that the call names carries a server id of the hosts' own. -/
theorem KeepsTo.of_rail {id : Nat} (named : .rail id ∈ op.namedRows) {rail : Row Rail}
    (stored : rail ∈ db.rails.rows) (same : rail.id = id) : own rail.data.serverId = true := by
  simpa using keeps.rows _ named rail stored same

/-- The rows a foreign key asks for are in the part if they are stored. -/
theorem KeepsTo.admits : (db.part hosts own).admits op = db.admits op := by
  cases op with
  | endpointInsertOne columns =>
    rw [Bool.eq_iff_iff, Cmdb.admits, Cmdb.admits, List.any_eq_true, List.any_eq_true]
    constructor
    · rintro ⟨server, stored, same⟩
      exact ⟨server, ((db.servers.mem_keep hosts server).mp stored).1, same⟩
    · rintro ⟨server, stored, same⟩
      exact ⟨server, (db.servers.mem_keep hosts server).mpr ⟨stored,
        KeepsTo.of_server keeps List.mem_cons_self stored (of_decide_eq_true same)⟩, same⟩
  | ipInsertOne columns =>
    rw [Bool.eq_iff_iff, Cmdb.admits, Cmdb.admits, List.any_eq_true, List.any_eq_true]
    constructor
    · rintro ⟨endpoint, stored, same⟩
      exact ⟨endpoint, ((db.endpoints.mem_keep _ endpoint).mp stored).1, same⟩
    · rintro ⟨endpoint, stored, same⟩
      exact ⟨endpoint, (db.endpoints.mem_keep _ endpoint).mpr ⟨stored,
        KeepsTo.of_endpoint keeps List.mem_cons_self stored (of_decide_eq_true same)⟩, same⟩
  | _ => rfl

/-- The part answers with the rows the whole store answers with. By cases on the
call: the rows it selects are of the hosts, and each is shown alike in both. -/
theorem KeepsTo.rows (labelled : db.Labelled hosts own) :
    (db.part hosts own).rows op = db.rows op := by
  cases op with
  | serverSelect anyOf =>
    have selected : ∀ server ∈ db.servers.rows, anyOf.any (ServerKey.holds server) = true →
        hosts server = true := by
      intro server stored holds
      obtain ⟨key, named, holds⟩ := List.any_eq_true.mp holds
      exact KeepsTo.of_key keeps named stored holds
    simp only [Cmdb.rows]
    rw [part, db.servers.filter_part hosts _ selected]
    apply List.map_congr_left
    intro server listed
    obtain ⟨stored, holds⟩ := List.mem_filter.mp listed
    rw [db.rails.filter_part]
    intro rail there hangs
    rw [of_decide_eq_true hangs, labelled server stored rail there (of_decide_eq_true hangs)]
    exact selected server stored holds
  | serverSelectOneByUuid uuid =>
    have held := KeepsTo.holdsUuid keeps List.mem_cons_self
    change ((db.servers.keep hosts).rows.find? _).map _ = _
    rw [db.servers.find_part hosts _ held, Cmdb.rows]
    cases found : db.servers.rows.find? (fun server => hasUuid server uuid) with
    | none => rfl
    | some server =>
      have stored := List.mem_of_find?_eq_some found
      have named := List.find?_some found
      exact congrArg some (part_serverView stored (held server stored named))
  | serverSelectOneByHostname hostname =>
    refine congrArg (Option.map Row.id) (db.servers.find_part hosts _ ?_)
    exact fun _ stored holds => KeepsTo.of_key keeps List.mem_cons_self stored holds
  | serverUpdate allOf mutation =>
    refine congrArg (List.map Row.id) (db.servers.filter_part hosts _ ?_)
    intro server stored chosen
    cases allOf with
    | nil => cases keeps.conditioned
    | cons key rest =>
      have holds : key.holds server = true := List.all_eq_true.mp chosen key List.mem_cons_self
      exact KeepsTo.of_key keeps List.mem_cons_self stored holds
  | serverDelete id =>
    refine congrArg (List.map Row.id) (db.servers.filter_part hosts _ ?_)
    intro server stored same
    exact KeepsTo.of_server keeps List.mem_cons_self stored (of_decide_eq_true same)
  | railsDelete id =>
    refine congrArg (List.map Row.id) (db.rails.filter_part _ _ ?_)
    intro rail stored same
    exact KeepsTo.of_rail keeps List.mem_cons_self stored (of_decide_eq_true same)
  | endpointSelectOne serverId key =>
    refine congrArg (Option.map endpointRef) (db.endpoints.find_part _ _ ?_)
    intro endpoint stored asked
    rw [Bool.and_eq_true, decide_eq_true_eq] at asked
    exact KeepsTo.ofHosts_of_server keeps List.mem_cons_self stored asked.1
  | endpointUpdate id updates =>
    refine congrArg (List.map Row.id) (db.endpoints.filter_part _ _ ?_)
    intro endpoint stored same
    exact KeepsTo.of_endpoint keeps List.mem_cons_self stored (of_decide_eq_true same)
  | endpointDeleteWithoutIps uuid =>
    have held := KeepsTo.holdsUuid keeps List.mem_cons_self
    have same : ∀ endpoint ∈ (db.part hosts own).endpoints.rows,
        (db.part hosts own).withoutIpsOn uuid endpoint = db.withoutIpsOn uuid endpoint := by
      intro endpoint kept
      obtain ⟨stored, host⟩ := (db.endpoints.mem_keep _ endpoint).mp kept
      exact part_withoutIpsOn held stored host
    refine congrArg (List.map Row.id) ((List.filter_congr same).trans (db.endpoints.filter_part _ _ ?_))
    intro endpoint _ without
    rw [withoutIpsOn, Bool.and_eq_true] at without
    exact ofHosts_onHost held without.2
  | ipSelectAttached address uuid =>
    have held := KeepsTo.holdsUuid keeps List.mem_cons_self
    change ((db.ips.keep _).rows.find? _).bind _ = _
    rw [part_attachedTo held, db.ips.find_part _ _ fun _ _ attached => attachedTo_part held attached,
      Cmdb.rows]
    cases found : db.ips.rows.find? (db.attachedTo address uuid) with
    | none => rfl
    | some ip =>
      have attached := List.find?_some found
      have host := attachedTo_part held attached
      refine congrArg (Option.map _) (congrArg (Option.map endpointRef)
        (db.endpoints.find_part _ _ ?_))
      intro endpoint stored same
      rw [← of_decide_eq_true same, db.endpointOfHosts_stored hosts stored] at host
      exact host
  | ipSelectOne address networkEndpointId prefixId =>
    refine congrArg (Option.map Row.id) (db.ips.find_part _ _ ?_)
    intro ip stored asked
    simp only [Bool.and_eq_true, decide_eq_true_eq] at asked
    exact KeepsTo.of_ip keeps List.mem_cons_self stored asked.1.2
  | ipDelete address uuid =>
    have held := KeepsTo.holdsUuid keeps List.mem_cons_self
    simp only [Cmdb.rows]
    rw [part_attachedTo held]
    refine congrArg (List.map Row.id) (db.ips.filter_part _ _ ?_)
    exact fun _ _ attached => attachedTo_part held attached
  | _ => rfl

/-- The part changes as the whole store does. By cases on the call, one
commuting square above for each kind of write. -/
theorem KeepsTo.effect : (db.part hosts own).effect op = (db.effect op).part hosts own := by
  cases op with
  | serverInsertOne columns =>
    exact part_insertServer columns (by simpa [others] using keeps.inserted columns rfl)
  | serverUpdate allOf mutation =>
    apply part_updateServers
    exact fun server stored => Bool.not_inj (keeps.stable allOf mutation rfl server stored)
  | serverDelete id => exact part_deleteServer id
  | railsDelete id => exact part_deleteRail id
  | endpointInsertOne columns =>
    apply part_insertEndpoint
    exact fun _ stored same => KeepsTo.of_server keeps List.mem_cons_self stored same
  | endpointUpdate id updates => exact part_updateEndpoint id updates
  | endpointDeleteWithoutIps uuid =>
    exact part_deleteEndpointsWithoutIps (KeepsTo.holdsUuid keeps List.mem_cons_self)
  | ipInsertOne columns =>
    apply part_insertIp
    exact fun _ stored same => KeepsTo.of_endpoint keeps List.mem_cons_self stored same
  | ipDelete address uuid =>
    exact part_deleteIps (KeepsTo.holdsUuid keeps List.mem_cons_self) address
  | _ => rfl

/-- So the part answers as the whole store does, whatever becomes of the call:
accepted, refused, or lost before or after its effect. -/
theorem KeepsTo.answer (labelled : db.Labelled hosts own) (outcome : Outcome) :
    (db.part hosts own).answer op outcome =
      ((db.answer op outcome).1, (db.answer op outcome).2.part hosts own) := by
  cases outcome with
  | ok => rw [Cmdb.answer, KeepsTo.admits keeps, KeepsTo.rows keeps labelled,
      KeepsTo.effect keeps, Cmdb.answer]
  | fail error landed =>
    cases landed with
    | false => rfl
    | true =>
      simp only [Cmdb.answer, if_true]
      rw [KeepsTo.effect keeps]

end KeepsTo

end Cmdb

end InstanceLifecycle
