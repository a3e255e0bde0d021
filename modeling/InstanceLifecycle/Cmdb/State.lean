import InstanceLifecycle.Cmdb.Interface
import InstanceLifecycle.Store.Table

/-!
# The CMDB as a relational store

The rows of the four classes the service writes, and the reference classes it
only reads. Foreign keys are part of the state: an endpoint always hangs on a
stored server and an IP on a stored endpoint, so deleting a server takes its
endpoints and their IPs with it, and an insert that names a missing row is
refused. Selects answer in insertion order and `select_one` with the first match.

Every call is atomic. Primary keys belong to the store: a mutation that names
the column `id` of a server writes a value nothing else reads.
-/

namespace InstanceLifecycle

open Interaction Store

/-- The columns of a server row by name. A column that was never written reads
as null. -/
abbrev Columns := String → Value

/-- Overwrite the columns a mutation names and leave the others. -/
def Columns.write (columns : Columns) (mutation : Mutation) : Columns :=
  fun column => (mutation.get? column).getD (columns column)

/-- A column that the mutation does not name keeps its value. -/
theorem Columns.write_of_absent (columns : Columns) (mutation : Mutation) (column : String)
    (absent : column ∉ mutation.keys) : columns.write mutation column = columns column := by
  have missing : mutation.get? column = none := by
    rw [Dict.mem_keys_iff] at absent
    simpa using absent
  simp [Columns.write, missing]

/-- A rail of a server, of which only the server matters here. -/
structure Rail where
  serverId : Nat

/-- The classes that the handler only looks up. -/
structure Reference where
  resourceClouds : List ResourceCloud
  capTenants : List CapTenant
  datacenters : List Datacenter
  networkPrefixes : List NetworkPrefix

/-- The classes that the handler writes, each with its ids, and the reference
classes. The two fields say that a foreign key always points to a stored row, so
that a dangling one cannot be built. -/
structure Cmdb where
  servers : Table Columns
  endpoints : Table Endpoint
  ips : Table Ip
  rails : Table Rail
  reference : Reference
  endpoint_server : ∀ endpoint ∈ endpoints.rows,
    ∃ server ∈ servers.rows, server.id = endpoint.data.serverId
  ip_endpoint : ∀ ip ∈ ips.rows,
    ∃ endpoint ∈ endpoints.rows, endpoint.id = ip.data.networkEndpointId

/-- The foreign keys are facts about the rows and add nothing to them. -/
theorem Cmdb.eq_of_tables {left right : Cmdb} (servers : left.servers = right.servers)
    (endpoints : left.endpoints = right.endpoints) (ips : left.ips = right.ips)
    (rails : left.rails = right.rails) (reference : left.reference = right.reference) :
    left = right := by
  cases left
  cases right
  cases servers
  cases endpoints
  cases ips
  cases rails
  cases reference
  rfl

/-- No rows of the written classes. -/
def Cmdb.empty (reference : Reference) : Cmdb where
  servers := .empty
  endpoints := .empty
  ips := .empty
  rails := .empty
  reference := reference
  endpoint_server := by simp [Table.empty]
  ip_endpoint := by simp [Table.empty]

/-- Does the server carry this uuid? A null condition matches no row. -/
def hasUuid (server : Row Columns) (uuid : Option String) : Bool :=
  match uuid with
  | some value => (server.data "uuid").isStr value
  | none => false

/-- Does the server row meet the condition? -/
def ServerKey.holds (server : Row Columns) : ServerKey → Bool
  | .uuid value => hasUuid server value
  | .hostname value => (server.data "hostname").isStr value

/-- Does the endpoint row meet the condition? A name or a mac is compared as the
query does it, with null as a value of its own. -/
def EndpointKey.holds (endpoint : Row Endpoint) : EndpointKey → Bool
  | .name value => endpoint.data.name = some value
  | .mac value => endpoint.data.mac = value

/-- Overwrite the columns the update names, of the two an attach can fill in. -/
def EndpointUpdate.apply (updates : EndpointUpdate) (endpoint : Endpoint) : Endpoint :=
  { endpoint with
    mac := updates.mac.or endpoint.mac
    notes := updates.notes.or endpoint.notes }

namespace Cmdb

variable (db : Cmdb)

/-! ## Conditions -/

/-- `endpoint.server.uuid = uuid`, through the foreign key. -/
def endpointOnHost (uuid : Option String) (endpoint : Row Endpoint) : Bool :=
  db.servers.rows.any (fun server =>
    decide (server.id = endpoint.data.serverId) && hasUuid server uuid)

/-- `ip.network_endpoint.server.uuid = uuid`, through both foreign keys. -/
def ipOnHost (uuid : Option String) (ip : Row Ip) : Bool :=
  db.endpoints.rows.any (fun endpoint =>
    decide (endpoint.id = ip.data.networkEndpointId) && db.endpointOnHost uuid endpoint)

/-- Does an IP hang on the endpoint? -/
def hasIps (endpoint : Row Endpoint) : Bool :=
  db.ips.rows.any (fun ip => decide (ip.data.networkEndpointId = endpoint.id))

/-- The endpoints of a server, in the order of their table. -/
def endpointsOf (serverId : Nat) : List (Row Endpoint) :=
  db.endpoints.rows.filter (fun endpoint => decide (endpoint.data.serverId = serverId))

/-- The IPs of an endpoint, in the order of their table. -/
def ipsOf (endpointId : Nat) : List (Row Ip) :=
  db.ips.rows.filter (fun ip => decide (ip.data.networkEndpointId = endpointId))

/-! ## Writes -/

/-- Insert a server with these columns, all others null. No endpoint points to
it yet. -/
def insertServer (columns : Mutation) : Cmdb where
  servers := db.servers.insert (Columns.write (fun _ => .null) columns)
  endpoints := db.endpoints
  ips := db.ips
  rails := db.rails
  reference := db.reference
  endpoint_server := by
    intro endpoint stored
    obtain ⟨server, present, same⟩ := db.endpoint_server endpoint stored
    exact ⟨server, (db.servers.mem_insert _ server).mpr (Or.inl present), same⟩
  ip_endpoint := db.ip_endpoint

/-- Overwrite columns of every server that meets all of the conditions. The ids
stay, so the foreign keys do. -/
def updateServers (allOf : List ServerKey) (mutation : Mutation) : Cmdb where
  servers := db.servers.rewrite (fun server => allOf.all (ServerKey.holds server))
    (fun columns => columns.write mutation)
  endpoints := db.endpoints
  ips := db.ips
  rails := db.rails
  reference := db.reference
  endpoint_server := by
    intro endpoint stored
    obtain ⟨server, present, same⟩ := db.endpoint_server endpoint stored
    refine ⟨_, (db.servers.mem_rewrite _ _ _).mpr ⟨server, present, rfl⟩, ?_⟩
    split <;> exact same
  ip_endpoint := db.ip_endpoint

/-- Delete a server with its endpoints and their IPs; a removed row is no error. -/
def deleteServer (id : Nat) : Cmdb where
  servers := db.servers.keep (fun server => decide (server.id ≠ id))
  endpoints := db.endpoints.keep (fun endpoint => decide (endpoint.data.serverId ≠ id))
  ips := db.ips.keep (fun ip => db.endpoints.rows.any (fun endpoint =>
    decide (endpoint.id = ip.data.networkEndpointId) && decide (endpoint.data.serverId ≠ id)))
  rails := db.rails
  reference := db.reference
  endpoint_server := by
    intro endpoint stored
    obtain ⟨old, other⟩ := (db.endpoints.mem_keep _ endpoint).mp stored
    obtain ⟨server, present, same⟩ := db.endpoint_server endpoint old
    refine ⟨server, (db.servers.mem_keep _ server).mpr ⟨present, ?_⟩, same⟩
    simpa [same] using other
  ip_endpoint := by
    intro ip stored
    obtain ⟨_, hangs⟩ := (db.ips.mem_keep _ ip).mp stored
    obtain ⟨endpoint, present, found⟩ := List.any_eq_true.mp hangs
    simp only [Bool.and_eq_true, decide_eq_true_eq] at found
    exact ⟨endpoint, (db.endpoints.mem_keep _ endpoint).mpr ⟨present, by simpa using found.2⟩,
      found.1⟩

/-- Delete the rail with this id, if it is there. -/
def deleteRail (id : Nat) : Cmdb :=
  { db with rails := db.rails.keep (fun rail => decide (rail.id ≠ id)) }

/-- Insert an endpoint, provided its server is stored; otherwise the foreign key
is refused and nothing changes. -/
def insertEndpoint (columns : Endpoint) : Cmdb :=
  if present : ∃ server ∈ db.servers.rows, server.id = columns.serverId then
    { db with
      endpoints := db.endpoints.insert columns
      endpoint_server := by
        intro endpoint stored
        rcases (db.endpoints.mem_insert _ endpoint).mp stored with old | rfl
        · exact db.endpoint_server endpoint old
        · exact present
      ip_endpoint := by
        intro ip stored
        obtain ⟨endpoint, old, same⟩ := db.ip_endpoint ip stored
        exact ⟨endpoint, (db.endpoints.mem_insert _ endpoint).mpr (Or.inl old), same⟩ }
  else db

/-- Overwrite columns of the endpoint with this id. -/
def updateEndpoint (id : Nat) (updates : EndpointUpdate) : Cmdb :=
  { db with
    endpoints := db.endpoints.rewrite (fun endpoint => decide (endpoint.id = id))
      (EndpointUpdate.apply updates)
    endpoint_server := by
      intro endpoint stored
      obtain ⟨old, present, rfl⟩ := (db.endpoints.mem_rewrite _ _ _).mp stored
      have hangs := db.endpoint_server old present
      split <;> exact hangs
    ip_endpoint := by
      intro ip stored
      obtain ⟨endpoint, old, same⟩ := db.ip_endpoint ip stored
      refine ⟨_, (db.endpoints.mem_rewrite _ _ _).mpr ⟨endpoint, old, rfl⟩, ?_⟩
      split <;> exact same }

/-- Is the endpoint one of those the second call of a detach deletes? -/
def withoutIpsOn (uuid : Option String) (endpoint : Row Endpoint) : Bool :=
  !db.hasIps endpoint && db.endpointOnHost uuid endpoint

/-- Delete every endpoint of the host on which no IP hangs. The condition asks
for the host and for the absence of IPs, and for nothing else. -/
def deleteEndpointsWithoutIps (uuid : Option String) : Cmdb :=
  { db with
    endpoints := db.endpoints.keep (fun endpoint => !db.withoutIpsOn uuid endpoint)
    endpoint_server := fun endpoint stored =>
      db.endpoint_server endpoint ((db.endpoints.mem_keep _ endpoint).mp stored).1
    ip_endpoint := by
      intro ip stored
      obtain ⟨endpoint, present, same⟩ := db.ip_endpoint ip stored
      refine ⟨endpoint, (db.endpoints.mem_keep _ endpoint).mpr ⟨present, ?_⟩, same⟩
      have used : db.hasIps endpoint = true :=
        List.any_eq_true.mpr ⟨ip, stored, by simp [same]⟩
      simp [withoutIpsOn, used] }

/-- Insert an IP, provided its endpoint is stored. -/
def insertIp (columns : Ip) : Cmdb :=
  if present : ∃ endpoint ∈ db.endpoints.rows, endpoint.id = columns.networkEndpointId then
    { db with
      ips := db.ips.insert columns
      ip_endpoint := by
        intro ip stored
        rcases (db.ips.mem_insert _ ip).mp stored with old | rfl
        · exact db.ip_endpoint ip old
        · exact present }
  else db

/-- Is the row an IP with this address on this host? Detach deletes by this
condition, and attach looks for it. -/
def attachedTo (address : String) (uuid : Option String) (ip : Row Ip) : Bool :=
  decide (ip.data.ip = address) && db.ipOnHost uuid ip

/-- Delete the IPs with this address on this host. -/
def deleteIps (address : String) (uuid : Option String) : Cmdb :=
  { db with
    ips := db.ips.keep (fun ip => !db.attachedTo address uuid ip)
    ip_endpoint := fun ip stored =>
      db.ip_endpoint ip ((db.ips.mem_keep _ ip).mp stored).1 }

/-! ## Calls -/

/-- What a call does to the store when it takes effect. Reads do nothing. -/
def effect : CmdbOp → Cmdb
  | .serverInsertOne columns => db.insertServer columns
  | .serverUpdate allOf mutation => db.updateServers allOf mutation
  | .serverDelete id => db.deleteServer id
  | .railsDelete id => db.deleteRail id
  | .endpointInsertOne columns => db.insertEndpoint columns
  | .endpointUpdate id updates => db.updateEndpoint id updates
  | .endpointDeleteWithoutIps uuid => db.deleteEndpointsWithoutIps uuid
  | .ipInsertOne columns => db.insertIp columns
  | .ipDelete address uuid => db.deleteIps address uuid
  | _ => db

/-- Do the foreign keys the call names exist? A call that is not admitted is
answered by an error of the data. -/
def admits : CmdbOp → Bool
  | .endpointInsertOne columns =>
      db.servers.rows.any (fun server => decide (server.id = columns.serverId))
  | .ipInsertOne columns =>
      db.endpoints.rows.any (fun endpoint => decide (endpoint.id = columns.networkEndpointId))
  | _ => true

/-- An endpoint as the select of an attach shows it, with its IPs nested. -/
def endpointView (endpoint : Row Endpoint) : EndpointView where
  id := endpoint.id
  name := endpoint.data.name
  notes := endpoint.data.notes
  mac := endpoint.data.mac
  ips := (db.ipsOf endpoint.id).map (fun ip => ⟨ip.id, ip.data.ip, ip.data.type⟩)

/-- A server as the select of an attach shows it, with its endpoints nested. -/
def serverView (server : Row Columns) : ServerView where
  id := server.id
  endpoints := (db.endpointsOf server.id).map db.endpointView

/-- The columns of an endpoint that inserts and re-selects return. -/
def endpointRef (endpoint : Row Endpoint) : EndpointRef := ⟨endpoint.id, endpoint.data.name⟩

/-- The endpoint an IP hangs on, as a nested column of the search for an
attached IP. -/
def endpointOfIp (ip : Row Ip) : Option EndpointRef :=
  (db.endpoints.rows.find? (fun endpoint =>
    decide (endpoint.id = ip.data.networkEndpointId))).map endpointRef

/-- What a call answers when it succeeds. A select returns the rows that meet
its condition, a select of one the first of them, an insert the row it adds, an
update or a delete the rows it touches. -/
def rows : (op : CmdbOp) → op.Rows
  | .resourceCloudSelectOne projectId =>
      db.reference.resourceClouds.find? (fun row => decide (row.projectId = projectId))
  | .capTenantSelectOne name =>
      db.reference.capTenants.find? (fun row => name.isStr row.name)
  | .datacenterSelectOne regionCode =>
      db.reference.datacenters.find? (fun row =>
        row.regionCodes.any (fun code => decide (some code = regionCode)))
  | .networkPrefixSelect dcName =>
      db.reference.networkPrefixes.filter (fun row =>
        !row.network.isNull && decide (row.dcName = dcName))
  | .serverSelect anyOf =>
      (db.servers.rows.filter (fun server => anyOf.any (ServerKey.holds server))).map
        (fun server => ⟨server.id, (db.rails.rows.filter (fun rail =>
          decide (rail.data.serverId = server.id))).map Row.id⟩)
  | .serverSelectOneByUuid uuid =>
      (db.servers.rows.find? (fun server => hasUuid server uuid)).map db.serverView
  | .serverSelectOneByHostname hostname =>
      (db.servers.rows.find? (fun server => (ServerKey.hostname hostname).holds server)).map Row.id
  | .serverInsertOne _ => db.servers.next
  | .serverUpdate allOf _ =>
      (db.servers.rows.filter (fun server => allOf.all (ServerKey.holds server))).map Row.id
  | .serverDelete id => (db.servers.rows.filter (fun server => decide (server.id = id))).map Row.id
  | .railsDelete id => (db.rails.rows.filter (fun rail => decide (rail.id = id))).map Row.id
  | .endpointSelectOne serverId key =>
      (db.endpoints.rows.find? (fun endpoint =>
        decide (endpoint.data.serverId = serverId) && key.holds endpoint)).map endpointRef
  | .endpointInsertOne columns => (⟨db.endpoints.next, columns.name⟩ : EndpointRef)
  | .endpointUpdate id _ =>
      (db.endpoints.rows.filter (fun endpoint => decide (endpoint.id = id))).map Row.id
  | .endpointDeleteWithoutIps uuid =>
      (db.endpoints.rows.filter (db.withoutIpsOn uuid)).map Row.id
  | .ipSelectAttached address uuid =>
      (db.ips.rows.find? (db.attachedTo address uuid)).bind (fun ip =>
        (db.endpointOfIp ip).map (fun endpoint => ⟨ip.id, ip.data.ip, endpoint⟩))
  | .ipSelectOne address networkEndpointId prefixId =>
      (db.ips.rows.find? (fun ip => decide (ip.data.ip = address) &&
        decide (ip.data.networkEndpointId = networkEndpointId) &&
        decide (ip.data.prefixId = some prefixId))).map Row.id
  | .ipInsertOne _ => db.ips.next
  | .ipDelete address uuid => (db.ips.rows.filter (db.attachedTo address uuid)).map Row.id

/-- A call that does not write leaves the store as it is. -/
theorem effect_of_read (op : CmdbOp) (reads : op.writes = false) : db.effect op = db := by
  cases op <;> first | rfl | simp [CmdbOp.writes] at reads

/-- No call changes the reference classes, which is why a look-up repeated later
gives the same row. -/
theorem effect_reference (op : CmdbOp) : (db.effect op).reference = db.reference := by
  cases op <;> simp only [effect] <;> first
    | rfl
    | (simp only [insertEndpoint]; split <;> rfl)
    | (simp only [insertIp]; split <;> rfl)

end Cmdb

end InstanceLifecycle
