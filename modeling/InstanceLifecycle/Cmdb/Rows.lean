import InstanceLifecycle.Cmdb.State

/-!
# The rows of a host under writes

The IPs attached to a host, which the look-up of an attached IP ranges over, and the
endpoints of a server with their IPs. Neither an endpoint insert nor an endpoint
update attaches or detaches anything, because an IP hangs on its endpoint by id; an
IP insert adds at most its own row.
-/

namespace InstanceLifecycle

open Store

namespace Cmdb

variable (db : Cmdb)

/-- The IPs with this address on the servers with this uuid. Most results about
attach and detach are about this list, whose emptiness says whether the address
hangs. -/
def attached (address : String) (uuid : Option String) : List (Row Ip) :=
  db.ips.rows.filter (db.attachedTo address uuid)

/-- An update of an endpoint leaves every IP on its host, for it changes neither
the id nor the server. -/
theorem ipOnHost_updateEndpoint (id : Nat) (updates : EndpointUpdate) (uuid : Option String)
    (ip : Row Ip) : (db.updateEndpoint id updates).ipOnHost uuid ip = db.ipOnHost uuid ip := by
  simp only [ipOnHost, updateEndpoint, Table.rewrite, List.any_map]
  congr 1
  funext endpoint
  simp only [Function.comp]
  split <;> rfl

/-- So it attaches and detaches no address. -/
theorem attached_updateEndpoint (id : Nat) (updates : EndpointUpdate) (address : String)
    (uuid : Option String) :
    (db.updateEndpoint id updates).attached address uuid = db.attached address uuid := by
  have same : (db.updateEndpoint id updates).attachedTo address uuid =
      db.attachedTo address uuid := by
    funext ip
    simp only [attachedTo, ipOnHost_updateEndpoint]
  rw [attached, same]
  rfl

/-- A new endpoint has a new id, so no stored IP hangs on it. -/
theorem ipOnHost_insertEndpoint (columns : Endpoint) (uuid : Option String) (ip : Row Ip)
    (stored : ip ∈ db.ips.rows) :
    (db.insertEndpoint columns).ipOnHost uuid ip = db.ipOnHost uuid ip := by
  unfold insertEndpoint
  split
  · obtain ⟨endpoint, present, same⟩ := db.ip_endpoint ip stored
    have below := db.endpoints.serial endpoint present
    have other : db.endpoints.next ≠ ip.data.networkEndpointId := by omega
    simp [ipOnHost, Table.insert, List.any_append, other, endpointOnHost]
  · rfl

/-- An endpoint insert leaves the IPs alone, admitted or not. -/
theorem insertEndpoint_ips (columns : Endpoint) : (db.insertEndpoint columns).ips = db.ips := by
  unfold insertEndpoint
  split <;> rfl

/-- It attaches no address either: the new endpoint has an id that no stored IP
carries. -/
theorem attached_insertEndpoint (columns : Endpoint) (address : String) (uuid : Option String) :
    (db.insertEndpoint columns).attached address uuid = db.attached address uuid := by
  unfold attached
  rw [insertEndpoint_ips]
  apply List.filter_congr
  intro ip stored
  simp only [attachedTo, ipOnHost_insertEndpoint db columns uuid ip stored]

/-- An IP insert does not change what counts as attached, as a test on rows. -/
theorem attachedTo_insertIp (columns : Ip) (address : String) (uuid : Option String) :
    (db.insertIp columns).attachedTo address uuid = db.attachedTo address uuid := by
  funext ip
  unfold insertIp
  split <;> rfl

/-- The insert of an IP attaches at most one address more, its own row, and none
where the insert is refused. -/
theorem attached_insertIp (columns : Ip) (address : String) (uuid : Option String) :
    ((db.insertIp columns).attached address uuid).length ≤
      (db.attached address uuid).length + 1 := by
  have sameTest := db.attachedTo_insertIp columns address uuid
  unfold attached
  rw [sameTest]
  unfold insertIp
  split
  · simp only [Table.insert, List.filter_append, List.length_append]
    have few := List.length_filter_le (db.attachedTo address uuid)
      [(⟨db.ips.next, columns⟩ : Row Ip)]
    simp only [List.length_singleton] at few
    omega
  · omega

/-- The look-up misses no attached IP: its endpoint is always stored, so the
nested column can be filled. -/
theorem lookUp_none (address : String) (uuid : Option String)
    (missing : db.rows (.ipSelectAttached address uuid) = none) :
    db.attached address uuid = [] := by
  rw [attached, List.filter_eq_nil_iff]
  intro ip stored
  simp only [rows] at missing
  cases found : db.ips.rows.find? (db.attachedTo address uuid) with
  | none => exact List.find?_eq_none.mp found ip stored
  | some row =>
    rw [found] at missing
    obtain ⟨endpoint, present, same⟩ := db.ip_endpoint row (List.mem_of_find?_eq_some found)
    have hangs : (db.endpoints.rows.find? (fun endpoint =>
        decide (endpoint.id = row.data.networkEndpointId))).isSome = true :=
      List.find?_isSome.mpr ⟨endpoint, present, by simpa using same⟩
    obtain ⟨first, located⟩ := Option.isSome_iff_exists.mp hangs
    simp [endpointOfIp, located] at missing

/-- The look-up finds attached IPs only. -/
theorem lookUp_some (address : String) (uuid : Option String) (row : AttachedIp)
    (found : db.rows (.ipSelectAttached address uuid) = some row) :
    db.attached address uuid ≠ [] := by
  simp only [rows, Option.bind_eq_some_iff] at found
  obtain ⟨ip, located, _⟩ := found
  have member : ip ∈ db.attached address uuid :=
    List.mem_filter.mpr ⟨List.mem_of_find?_eq_some located, List.find?_some located⟩
  exact List.ne_nil_of_mem member

/-- The insert of an IP on an endpoint of the host attaches its row, after those
that were attached already. The endpoint is stored, so the insert is admitted.
-/
theorem attached_insertIp_new (columns : Ip) (uuid : Option String)
    (hangs : ∃ endpoint ∈ db.endpoints.rows, endpoint.id = columns.networkEndpointId ∧
      db.endpointOnHost uuid endpoint = true) :
    (db.insertIp columns).attached columns.ip uuid =
      db.attached columns.ip uuid ++ [⟨db.ips.next, columns⟩] := by
  obtain ⟨endpoint, present, same, onHost⟩ := hangs
  have reached : db.ipOnHost uuid ⟨db.ips.next, columns⟩ = true :=
    List.any_eq_true.mpr ⟨endpoint, present, by simp [same, onHost]⟩
  have sameTest := db.attachedTo_insertIp columns columns.ip uuid
  unfold attached
  rw [sameTest, insertIp, dif_pos ⟨endpoint, present, same⟩]
  simp [Table.insert, attachedTo, reached]

/-- An IP insert attaches no other address. -/
theorem attached_insertIp_other (columns : Ip) (address : String) (uuid : Option String)
    (other : columns.ip ≠ address) :
    (db.insertIp columns).attached address uuid = db.attached address uuid := by
  have sameTest := db.attachedTo_insertIp columns address uuid
  unfold attached
  rw [sameTest]
  unfold insertIp
  split
  · simp [Table.insert, attachedTo, other]
  · rfl

/-- A delete of IPs does not change what counts as attached. -/
theorem attachedTo_deleteIps (deleted : String) (host : Option String) (address : String)
    (uuid : Option String) :
    (db.deleteIps deleted host).attachedTo address uuid = db.attachedTo address uuid := rfl

/-- A delete of an address detaches it from its host, all of its rows at once. -/
theorem attached_deleteIps (address : String) (uuid : Option String) :
    (db.deleteIps address uuid).attached address uuid = [] := by
  rw [attached, attachedTo_deleteIps, List.filter_eq_nil_iff]
  intro ip stored
  have kept := ((db.ips.mem_keep _ ip).mp stored).2
  simpa using kept

/-- A delete of an address detaches no other. -/
theorem attached_deleteIps_other (deleted : String) (host : Option String) (address : String)
    (uuid : Option String) (other : deleted ≠ address) :
    (db.deleteIps deleted host).attached address uuid = db.attached address uuid := by
  rw [attached, attachedTo_deleteIps]
  simp only [deleteIps, Table.keep, List.filter_filter]
  apply List.filter_congr
  intro ip _
  by_cases same : ip.data.ip = address
  · have apart : ¬ address = deleted := fun equal => other equal.symm
    simp [attachedTo, same, apart]
  · simp [attachedTo, same]

/-- An endpoint with an IP is no endpoint without IPs, so a stored IP keeps its
endpoint and counts as before. -/
theorem attachedTo_deleteEndpointsWithoutIps (host : Option String) (address : String)
    (uuid : Option String) {ip : Row Ip} (stored : ip ∈ db.ips.rows) :
    (db.deleteEndpointsWithoutIps host).attachedTo address uuid ip =
      db.attachedTo address uuid ip := by
  simp only [attachedTo, ipOnHost, deleteEndpointsWithoutIps, Table.keep, List.any_filter]
  congr 2
  funext endpoint
  by_cases hangs : endpoint.id = ip.data.networkEndpointId
  · have used : db.hasIps endpoint = true :=
      List.any_eq_true.mpr ⟨ip, stored, decide_eq_true hangs.symm⟩
    simp only [withoutIpsOn, used, Bool.not_true, Bool.false_and, Bool.not_false, Bool.true_and]
    rfl
  · simp [hangs]

/-- Deleting endpoints without IPs therefore detaches no address. -/
theorem attached_deleteEndpointsWithoutIps (host : Option String) (address : String)
    (uuid : Option String) :
    (db.deleteEndpointsWithoutIps host).attached address uuid = db.attached address uuid :=
  List.filter_congr fun _ stored => db.attachedTo_deleteEndpointsWithoutIps host address uuid stored

/-! ## The endpoints of a server -/

/-- An admitted endpoint insert adds to the table of endpoints. -/
theorem insertEndpoint_endpoints (columns : Endpoint)
    (present : ∃ server ∈ db.servers.rows, server.id = columns.serverId) :
    (db.insertEndpoint columns).endpoints = db.endpoints.insert columns := by
  rw [insertEndpoint, dif_pos present]

/-- The new endpoint is stored under the next id. -/
theorem insertEndpoint_stored (columns : Endpoint)
    (present : ∃ server ∈ db.servers.rows, server.id = columns.serverId) :
    (⟨db.endpoints.next, columns⟩ : Row Endpoint) ∈ (db.insertEndpoint columns).endpoints.rows := by
  rw [db.insertEndpoint_endpoints columns present]
  exact (db.endpoints.mem_insert _ _).mpr (Or.inr rfl)

/-- The server of an admitted endpoint has it as its last. -/
theorem endpointsOf_insertEndpoint (columns : Endpoint)
    (present : ∃ server ∈ db.servers.rows, server.id = columns.serverId) :
    (db.insertEndpoint columns).endpointsOf columns.serverId =
      db.endpointsOf columns.serverId ++ [⟨db.endpoints.next, columns⟩] := by
  rw [insertEndpoint, dif_pos present]
  simp [endpointsOf, Table.insert]

/-- The endpoints of a stored server, with a new one at the end. The row itself
is the admission. -/
theorem endpointsOf_insertEndpoint_own (columns : Endpoint) {server : Row Columns}
    (stored : server ∈ db.servers.rows) (own : columns.serverId = server.id) :
    (db.insertEndpoint columns).endpointsOf server.id =
      db.endpointsOf server.id ++ [⟨db.endpoints.next, columns⟩] := by
  rw [← own]
  exact db.endpointsOf_insertEndpoint columns ⟨server, stored, own.symm⟩

/-- The new endpoint is one of its server. -/
theorem insertEndpoint_hangs (columns : Endpoint) {server : Row Columns}
    (stored : server ∈ db.servers.rows) (own : columns.serverId = server.id) :
    (⟨db.endpoints.next, columns⟩ : Row Endpoint) ∈
      (db.insertEndpoint columns).endpointsOf server.id := by
  rw [db.endpointsOf_insertEndpoint_own columns stored own]
  exact List.mem_append_right _ (List.mem_singleton.mpr rfl)

/-- An endpoint insert leaves the servers alone. -/
theorem insertEndpoint_servers (columns : Endpoint) :
    (db.insertEndpoint columns).servers = db.servers := by
  unfold insertEndpoint
  split <;> rfl

/-- An update changes the columns of its endpoint in place, and the list keeps
its order. -/
theorem endpointsOf_updateEndpoint (id : Nat) (updates : EndpointUpdate) (serverId : Nat) :
    (db.updateEndpoint id updates).endpointsOf serverId =
      (db.endpointsOf serverId).map (fun endpoint =>
        if endpoint.id = id then ⟨endpoint.id, updates.apply endpoint.data⟩ else endpoint) := by
  simp only [endpointsOf, updateEndpoint, Table.rewrite, List.filter_map, decide_eq_true_eq]
  congr 1
  apply List.filter_congr
  intro endpoint _
  simp only [Function.comp]
  split <;> rfl

/-- The endpoints of another server stay, whether the insert was admitted or
not. -/
theorem endpointsOf_insertEndpoint_other (columns : Endpoint) (serverId : Nat)
    (other : columns.serverId ≠ serverId) :
    (db.insertEndpoint columns).endpointsOf serverId = db.endpointsOf serverId := by
  unfold insertEndpoint
  split
  · simp [endpointsOf, Table.insert, other]
  · rfl

/-- The IPs of every endpoint stay as well. -/
theorem ipsOf_insertEndpoint (columns : Endpoint) (id : Nat) :
    (db.insertEndpoint columns).ipsOf id = db.ipsOf id := by
  rw [ipsOf, insertEndpoint_ips]
  rfl

/-- An IP insert leaves the endpoints alone. -/
theorem insertIp_endpoints (columns : Ip) : (db.insertIp columns).endpoints = db.endpoints := by
  unfold insertIp
  split <;> rfl

/-- An IP insert leaves the servers alone. -/
theorem insertIp_servers (columns : Ip) : (db.insertIp columns).servers = db.servers := by
  unfold insertIp
  split <;> rfl

/-- An admitted IP is the last of its endpoint, and the other endpoints keep
theirs. -/
theorem ipsOf_insertIp (columns : Ip) (id : Nat)
    (present : ∃ endpoint ∈ db.endpoints.rows, endpoint.id = columns.networkEndpointId) :
    (db.insertIp columns).ipsOf id =
      db.ipsOf id ++ if columns.networkEndpointId = id then [⟨db.ips.next, columns⟩] else [] := by
  rw [insertIp, dif_pos present]
  simp only [ipsOf, Table.insert, List.filter_append]
  by_cases same : columns.networkEndpointId = id <;> simp [same]

/-- No IP hangs on the endpoint that is inserted next, because every IP hangs on
a stored one and the stored ids are smaller. -/
theorem ipsOf_next : db.ipsOf db.endpoints.next = [] := by
  rw [ipsOf, List.filter_eq_nil_iff]
  intro ip stored
  obtain ⟨endpoint, present, same⟩ := db.ip_endpoint ip stored
  have below := db.endpoints.serial endpoint present
  simp only [decide_eq_true_eq]
  omega

/-! ## Where rows come from -/

/-- A server was inserted by the call, or was there with the columns an update left. -/
theorem effect_server (op : CmdbOp) {server : Row Columns}
    (stored : server ∈ (db.effect op).servers.rows) :
    (∃ columns, op = .serverInsertOne columns ∧
        server = ⟨db.servers.next, Columns.write (fun _ => .null) columns⟩) ∨
      ∃ old ∈ db.servers.rows, old.id = server.id ∧ (server = old ∨
        ∃ allOf mutation, op = .serverUpdate allOf mutation ∧
          server.data = old.data.write mutation) := by
  have kept : server ∈ db.servers.rows → ∃ old ∈ db.servers.rows, old.id = server.id ∧
      (server = old ∨ ∃ allOf mutation, op = .serverUpdate allOf mutation ∧
        server.data = old.data.write mutation) :=
    fun there => ⟨server, there, rfl, Or.inl rfl⟩
  cases op with
  | serverInsertOne columns =>
    rcases (db.servers.mem_insert _ server).mp stored with there | new
    · exact Or.inr (kept there)
    · exact Or.inl ⟨columns, rfl, new⟩
  | serverUpdate allOf mutation =>
    obtain ⟨old, there, rfl⟩ := (db.servers.mem_rewrite _ _ _).mp stored
    refine Or.inr ⟨old, there, ?_⟩
    split
    · exact ⟨rfl, Or.inr ⟨allOf, mutation, rfl, rfl⟩⟩
    · exact ⟨rfl, Or.inl rfl⟩
  | serverDelete id => exact Or.inr (kept ((db.servers.mem_keep _ server).mp stored).1)
  | endpointInsertOne columns =>
    rw [effect, db.insertEndpoint_servers] at stored
    exact Or.inr (kept stored)
  | ipInsertOne columns =>
    rw [effect, db.insertIp_servers] at stored
    exact Or.inr (kept stored)
  | _ => exact Or.inr (kept stored)

/-- An endpoint was inserted by the call, or was there with the columns an update left. -/
theorem effect_endpoint (op : CmdbOp) {endpoint : Row Endpoint}
    (stored : endpoint ∈ (db.effect op).endpoints.rows) :
    (∃ columns, op = .endpointInsertOne columns ∧ endpoint = ⟨db.endpoints.next, columns⟩) ∨
      ∃ old ∈ db.endpoints.rows, old.id = endpoint.id ∧ (endpoint = old ∨
        ∃ updates, op = .endpointUpdate old.id updates ∧
          endpoint.data = updates.apply old.data) := by
  have kept : endpoint ∈ db.endpoints.rows → ∃ old ∈ db.endpoints.rows, old.id = endpoint.id ∧
      (endpoint = old ∨ ∃ updates, op = .endpointUpdate old.id updates ∧
        endpoint.data = updates.apply old.data) :=
    fun there => ⟨endpoint, there, rfl, Or.inl rfl⟩
  cases op with
  | endpointInsertOne columns =>
    rw [effect, insertEndpoint] at stored
    split at stored
    · rcases (db.endpoints.mem_insert _ endpoint).mp stored with there | new
      · exact Or.inr (kept there)
      · exact Or.inl ⟨columns, rfl, new⟩
    · exact Or.inr (kept stored)
  | endpointUpdate id updates =>
    obtain ⟨old, there, rfl⟩ := (db.endpoints.mem_rewrite _ _ _).mp stored
    refine Or.inr ⟨old, there, ?_⟩
    split
    · rename_i same
      obtain rfl := of_decide_eq_true same
      exact ⟨rfl, Or.inr ⟨updates, rfl, rfl⟩⟩
    · exact ⟨rfl, Or.inl rfl⟩
  | serverDelete id => exact Or.inr (kept ((db.endpoints.mem_keep _ endpoint).mp stored).1)
  | endpointDeleteWithoutIps uuid =>
    exact Or.inr (kept ((db.endpoints.mem_keep _ endpoint).mp stored).1)
  | ipInsertOne columns =>
    rw [effect, db.insertIp_endpoints] at stored
    exact Or.inr (kept stored)
  | _ => exact Or.inr (kept stored)

/-- Row ids are never given back: no call lowers the next id of servers or
endpoints. -/
theorem effect_next (op : CmdbOp) : db.servers.next ≤ (db.effect op).servers.next ∧
    db.endpoints.next ≤ (db.effect op).endpoints.next := by
  cases op with
  | serverInsertOne columns => exact ⟨Nat.le_succ _, Nat.le_refl _⟩
  | endpointInsertOne columns =>
    rw [effect, db.insertEndpoint_servers, insertEndpoint]
    constructor
    · exact Nat.le_refl _
    · split
      · exact Nat.le_succ _
      · exact Nat.le_refl _
  | ipInsertOne columns =>
    rw [effect, db.insertIp_servers, db.insertIp_endpoints]
    exact ⟨Nat.le_refl _, Nat.le_refl _⟩
  | _ => exact ⟨Nat.le_refl _, Nat.le_refl _⟩

end Cmdb

/-! ## Inserts -/

/-- A re-select right after an insert finds some row, if the inserted one meets
its key. -/
theorem endpointSelect_detects (db : Cmdb) (columns : Endpoint) (key : EndpointKey)
    (present : ∃ server ∈ db.servers.rows, server.id = columns.serverId)
    (holds : key.holds ⟨db.endpoints.next, columns⟩ = true) :
    (db.insertEndpoint columns).rows (.endpointSelectOne columns.serverId key) ≠ none := by
  intro missed
  rw [Cmdb.insertEndpoint, dif_pos present] at missed
  simp only [Cmdb.rows, Option.map_eq_none_iff, List.find?_eq_none] at missed
  have absent := missed ⟨db.endpoints.next, columns⟩ (by simp [Table.insert])
  simp [holds] at absent

/-- An endpoint insert is admitted when its server is stored. -/
theorem admits_endpoint {db : Cmdb} {columns : Endpoint}
    (present : ∃ server ∈ db.servers.rows, server.id = columns.serverId) :
    db.admits (.endpointInsertOne columns) = true := by
  obtain ⟨server, stored, same⟩ := present
  exact List.any_eq_true.mpr ⟨server, stored, decide_eq_true same⟩

/-- An IP insert is admitted when its endpoint is stored. -/
theorem admits_ip {db : Cmdb} {columns : Ip}
    (present : ∃ endpoint ∈ db.endpoints.rows, endpoint.id = columns.networkEndpointId) :
    db.admits (.ipInsertOne columns) = true := by
  obtain ⟨endpoint, stored, same⟩ := present
  exact List.any_eq_true.mpr ⟨endpoint, stored, decide_eq_true same⟩

end InstanceLifecycle
