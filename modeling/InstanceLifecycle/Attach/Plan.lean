import InstanceLifecycle.Attach.Pending
import InstanceLifecycle.Store.Weaving

/-!
# What an attach decides

An attach decides once, on the server as it read it: whether to reuse an endpoint and which
of its columns to fill, or under which name to insert one, and which type and prefix its IP
gets. The two writes of the attach carry this plan out, on whatever the store is by then.
-/

namespace InstanceLifecycle

open Interaction Store InstanceHandler

/-! ## The endpoints with their IPs -/

namespace Cmdb

variable (db : Cmdb)

/-- The endpoints with their IPs, as multisets of rows. The order of insertion,
which two attaches may change, is forgotten. -/
def tables : Tables Endpoint Ip where
  rows := ↑db.endpoints.rows
  next := db.endpoints.next
  children := ↑(db.ips.rows.map Row.data)

end Cmdb

/-- The columns of an IP apart from its endpoint. -/
def Ip.withoutEndpoint (ip : Ip) : Ip := { ip with networkEndpointId := 0 }

/-- The endpoints, each with its IPs: all columns but the row ids, in no order. -/
def Cmdb.contents (db : Cmdb) : Multiset (Endpoint × Multiset Ip) :=
  Store.contents Ip.networkEndpointId Ip.withoutEndpoint db.tables.rows db.tables.children

/-- An IP is determined by its endpoint and its other columns. -/
theorem Ip.determined (ip other : Ip) (hangs : ip.networkEndpointId = other.networkEndpointId)
    (same : ip.withoutEndpoint = other.withoutEndpoint) : ip = other := by
  cases ip
  cases other
  simp only [withoutEndpoint, Ip.mk.injEq] at same ⊢
  exact ⟨same.1, same.2.1, same.2.2.1, same.2.2.2.1, hangs, same.2.2.2.2.2⟩

namespace Cmdb

variable {db : Cmdb}

/-- The ids of a store are below its sequence, also those that IPs name. This is
what the store's own fields say. -/
theorem tables_sound : db.tables.Sound Ip.networkEndpointId := by
  constructor
  · exact fun row member => db.endpoints.serial row (Multiset.mem_coe.mp member)
  · intro child member
    obtain ⟨ip, stored, rfl⟩ := List.mem_map.mp (Multiset.mem_coe.mp member)
    obtain ⟨endpoint, there, same⟩ := db.ip_endpoint ip stored
    have below := db.endpoints.serial endpoint there
    exact same ▸ below

/-- An update of an endpoint is a first write that changes a row. -/
theorem tables_updateEndpoint (id : Nat) (updates : EndpointUpdate) :
    (db.updateEndpoint id updates).tables =
      db.tables.write EndpointUpdate.apply (.change id updates) id := by
  have rows : db.endpoints.rows.map (fun endpoint => if decide (endpoint.id = id) = true then
      (⟨endpoint.id, updates.apply endpoint.data⟩ : Row Endpoint) else endpoint) =
      db.endpoints.rows.map (Target.revise EndpointUpdate.apply id updates) := by
    apply List.map_congr_left
    intro endpoint _
    simp [Target.revise]
  simp only [tables, updateEndpoint, Table.rewrite, Tables.write, Target.place,
    Target.inserted, Multiset.map_coe, rows, Nat.add_zero]

/-- An admitted insert of an endpoint is a first write that adds a row. -/
theorem tables_insertEndpoint {columns : Endpoint}
    (present : ∃ server ∈ db.servers.rows, server.id = columns.serverId) :
    (db.insertEndpoint columns).tables =
      db.tables.write EndpointUpdate.apply (.insert columns) db.endpoints.next := by
  rw [insertEndpoint, dif_pos present]
  rfl

/-- An admitted insert of an IP is the second write. -/
theorem tables_insertIp {columns : Ip}
    (present : ∃ endpoint ∈ db.endpoints.rows, endpoint.id = columns.networkEndpointId) :
    (db.insertIp columns).tables = db.tables.hang columns := by
  rw [insertIp, dif_pos present]
  simp only [tables, Table.insert, Tables.hang, List.map_append]
  rfl

/-- An update of no column is the first write of an attach that finds nothing to
fill. -/
theorem tables_unchanged (id : Nat) :
    db.tables.write EndpointUpdate.apply (.change id {}) id = db.tables := by
  have same : ∀ endpoint : Row Endpoint,
      Target.revise EndpointUpdate.apply id {} endpoint = endpoint := by
    intro endpoint
    rw [Target.revise]
    split <;> rfl
  simp only [Tables.write, Target.place, Target.inserted, Nat.add_zero]
  rw [Multiset.map_congr rfl fun endpoint _ => same endpoint, Multiset.map_id']

end Cmdb

/-! ## Plans -/

/-- The writes of an attach: what becomes of an endpoint, and the IP for it, without the id
of the endpoint. -/
structure AttachPlan where
  target : Target EndpointUpdate Endpoint
  ip : Ip
deriving DecidableEq

/-- The IP on an endpoint, once the endpoint is known. -/
def Ip.onEndpoint (ip : Ip) (id : Nat) : Ip := { ip with networkEndpointId := id }

/-- What an attach does with the server as it read it. -/
def attachPlan (request : AttachRequest) (netPrefix : Option NetworkPrefix) (server : ServerView) :
    AttachPlan where
  target := match chooseEndpoint request.mac server.endpoints with
    | some endpoint => .change endpoint.id (endpointUpdates request endpoint)
    | none => .insert (attachColumns request server)
  ip := (attachIpColumns request server netPrefix 0).withoutEndpoint

/-- The prefix an attach finds for its address when no call fails. -/
def Cmdb.prefixFor (db : Cmdb) (handler : InstanceHandler) (request : AttachRequest) :
    Option NetworkPrefix :=
  (db.rows (.datacenterSelectOne request.regionCode)).bind (fun dc =>
    ipInNetPrefixes handler.runtime request.ipAddr (db.rows (.networkPrefixSelect dc.name)))

/-- The prefix of an address depends on the reference classes alone, so it is
the same in every state of a run. -/
theorem prefixFor_reference {db after : Cmdb} (handler : InstanceHandler) (request : AttachRequest)
    (same : after.reference = db.reference) :
    after.prefixFor handler request = db.prefixFor handler request := by
  simp only [Cmdb.prefixFor, Cmdb.rows, same]

/-- A read of the reference classes answers with their rows, if no call fails,
and leaves the classes as they are. -/
theorem referenceCall_reads {handler : InstanceHandler} {options : CallOptions} {op : CmdbOp}
    {reference : Reference} {state : FieldErrors} {world : World}
    (admits : ∀ db : Cmdb, db.admits op = true) (same : world.db.reference = reference)
    (post : op.Rows → Prop)
    (answered : ∀ db : Cmdb, db.reference = reference → post (db.rows op)) :
    (handler.cmdbCall options (cmdb op)).Ensures (faulty noFaults) (fun _ => True)
      (fun result _ after => after.db.reference = reference ∧
        ∃ rows, result = .ok (some rows) ∧ post rows) state world := by
  refine (InstanceHandler.cmdbCall_exits (fun after => after.db.reference = reference)
    (fun _ => False) (fun rows after => after.db.reference = reference ∧ post rows) same ?_
    (fun _ absent => by cases absent) fun _ _ impossible => impossible.elim).mono ?_
  · intro current held
    apply cmdb_ensures
    rintro outcome rfl
    refine ⟨trivial, rfl, ?_⟩
    have kept : (current.next op .ok).db.reference = reference :=
      (current.db.answer_reference op .ok).trans held
    simp only [Cmdb.answer, admits, if_true]
    exact ⟨kept, answered current.db held⟩
  · rintro (exc | _ | rows) final after ⟨-, exit⟩
    · exact exit.elim
    · exact exit.2.elim
    · exact ⟨exit.1, rows, rfl, exit.2⟩

/-- The look-up of the prefix returns the one that the reference classes give. -/
theorem attachPrefix_reads (handler : InstanceHandler) (request : AttachRequest)
    {state : FieldErrors} {world : World} :
    (handler.attachPrefix request).Ensures (faulty noFaults) (fun _ => True)
      (fun result _ _ => result = .ok (world.db.prefixFor handler request)) state world := by
  rw [attachPrefix]
  refine (referenceCall_reads (fun _ => rfl) rfl
    (fun dc => dc = world.db.rows (.datacenterSelectOne request.regionCode)) ?_).bind ?_ ?_
  · intro db same
    simp only [Cmdb.rows, same]
  · rintro dc middle after ⟨same, rows, found, rfl⟩
    cases found
    rw [Cmdb.prefixFor]
    cases located : world.db.rows (.datacenterSelectOne request.regionCode) with
    | none => exact rfl
    | some dc =>
      simp only [Option.join_some, Option.bind_some]
      rw [getNetPrefixByIp]
      refine (referenceCall_reads (fun _ => rfl) same
        (fun vlans => vlans = world.db.rows (.networkPrefixSelect dc.name)) ?_).bind ?_ ?_
      · intro db kept
        simp only [Cmdb.rows, kept]
      · rintro vlans final last ⟨-, found, answered, rfl⟩
        cases answered
        exact rfl
      · rintro exc final last ⟨-, found, answered, -⟩
        cases answered
  · rintro exc middle after ⟨same, rows, found, -⟩
    cases found

/-! ## Decisions -/

/-- What an attach that reads the server now does; nothing where its address is attached. -/
def Cmdb.decides (db : Cmdb) (handler : InstanceHandler) (request : AttachRequest) :
    Option AttachPlan :=
  if (db.attached request.ipAddr request.hostUuid).isEmpty then
    (db.rows (.serverSelectOneByUuid request.hostUuid)).map
      (attachPlan request (db.prefixFor handler request))
  else none

section Decisions

variable {db : Cmdb} {handler : InstanceHandler} {request : AttachRequest} {plan : AttachPlan}
  {id : Nat} {updates : EndpointUpdate}

/-- An attach whose address hangs decides on nothing. -/
theorem decides_attached (attached : db.attached request.ipAddr request.hostUuid ≠ []) :
    db.decides handler request = none := by
  rw [Cmdb.decides, if_neg]
  rwa [List.isEmpty_iff]

/-- Otherwise it decides by the view of the first server with its uuid. -/
theorem decides_located {host : Row Columns}
    (none : db.attached request.ipAddr request.hostUuid = [])
    (located : db.servers.rows.find? (fun server => hasUuid server request.hostUuid) = some host) :
    db.decides handler request =
      some (attachPlan request (db.prefixFor handler request) (db.serverView host)) := by
  simp [Cmdb.decides, none, Cmdb.rows, located]

/-- A plan is made for a server as it is stored. -/
theorem decides_some (decided : db.decides handler request = some plan) :
    ∃ host : Row Columns,
      plan = attachPlan request (db.prefixFor handler request) (db.serverView host) := by
  rw [Cmdb.decides] at decided
  split at decided
  · obtain ⟨server, read, rfl⟩ := Option.map_eq_some_iff.mp decided
    obtain ⟨host, -, rfl⟩ := Option.map_eq_some_iff.mp read
    exact ⟨host, rfl⟩
  · cases decided

/-- The endpoint chosen has the mac of the request, or none. -/
theorem chooseEndpoint_mac {mac : Option String} {endpoints : List EndpointView}
    {view : EndpointView} (chosen : chooseEndpoint mac endpoints = some view) :
    view.mac = mac ∨ truthy view.mac = false := by
  rw [chooseEndpoint, Option.or_eq_some_iff] at chosen
  rcases chosen with byMac | ⟨-, free⟩
  · have same := List.find?_some byMac
    simp only [Bool.and_eq_true, decide_eq_true_eq] at same
    exact Or.inl same.2
  · have missing := List.find?_some free
    simp only [Bool.and_eq_true, Bool.not_eq_true'] at missing
    exact Or.inr missing.2

/-- An endpoint to reuse is stored, and its columns are filled where they are missing. -/
theorem decides_change (decided : db.decides handler request = some plan)
    (change : plan.target = .change id updates) :
    ∃ endpoint ∈ db.endpoints.rows, endpoint.id = id ∧
      updates = endpointUpdates request (db.endpointView endpoint) ∧
        (endpoint.data.mac = request.mac ∨ truthy endpoint.data.mac = false) := by
  obtain ⟨host, rfl⟩ := decides_some decided
  rw [attachPlan] at change
  cases chosen : chooseEndpoint request.mac (db.serverView host).endpoints with
  | none =>
    rw [chosen] at change
    cases change
  | some view =>
    rw [chosen] at change
    obtain ⟨endpoint, there, rfl⟩ := List.mem_map.mp (chooseEndpoint_mem chosen)
    obtain ⟨rfl, rfl⟩ := Target.change.inj change
    exact ⟨endpoint, (List.mem_filter.mp there).1, rfl, rfl, chooseEndpoint_mac chosen⟩

/-- The IP of a plan has the address of the request. -/
theorem decides_ip (decided : db.decides handler request = some plan) :
    plan.ip.ip = request.ipAddr := by
  obtain ⟨host, rfl⟩ := decides_some decided
  rfl

/-- A new endpoint of a plan has the mac of the request, if it names one. -/
theorem decides_insert (decided : db.decides handler request = some plan) {columns : Endpoint}
    (insert : plan.target = .insert columns) (named : truthy request.mac = true) :
    columns.mac = request.mac := by
  obtain ⟨host, rfl⟩ := decides_some decided
  rw [attachPlan] at insert
  cases chosen : chooseEndpoint request.mac (db.serverView host).endpoints with
  | some view =>
    rw [chosen] at insert
    cases insert
  | none =>
    rw [chosen] at insert
    rw [← Target.insert.inj insert]
    exact if_pos named

/-- Where the plan was made, carrying it out gives the endpoint the mac of the request. -/
theorem decides_mac (decided : db.decides handler request = some plan)
    (named : truthy request.mac = true) {rows : Multiset (Row Endpoint)}
    (seen : ∀ other updates, plan.target = .change other updates →
      id = other ∧ rows = db.tables.rows) :
    ∃ endpoint ∈ plan.target.place EndpointUpdate.apply id rows,
      endpoint.id = id ∧ endpoint.data.mac = request.mac := by
  cases target : plan.target with
  | insert columns =>
    refine ⟨⟨id, columns⟩, ?_, rfl, decides_insert decided target named⟩
    exact Multiset.mem_add.mpr (Or.inr (Multiset.mem_singleton_self _))
  | change other updates =>
    obtain ⟨rfl, rfl⟩ := seen other updates target
    obtain ⟨endpoint, stored, rfl, rfl, mac⟩ := decides_change decided target
    refine ⟨_, Multiset.mem_map_of_mem _ (Multiset.mem_coe.mpr stored), ?_⟩
    rw [Target.revise, if_pos rfl]
    constructor
    · rfl
    · rcases mac with same | missing
      · simp [EndpointUpdate.apply, endpointUpdates, Cmdb.endpointView, same, named]
      · obtain ⟨value, given, -⟩ := (truthy_iff _).mp named
        rw [given] at named
        simp [EndpointUpdate.apply, endpointUpdates, Cmdb.endpointView, missing, named, given]

/-- A mac that was stored when the plan was made is still there after it. An
insert adds a row, and an update fills a mac only where the endpoint had none.
-/
theorem decides_keeps_mac (decided : db.decides handler request = some plan)
    {rows : Multiset (Row Endpoint)}
    (seen : ∀ other updates, plan.target = .change other updates → rows = db.tables.rows)
    {endpoint : Row Endpoint} (stored : endpoint ∈ rows)
    (filled : truthy endpoint.data.mac = true) :
    ∃ kept ∈ plan.target.place EndpointUpdate.apply id rows,
      kept.id = endpoint.id ∧ kept.data.mac = endpoint.data.mac := by
  cases target : plan.target with
  | insert columns => exact ⟨endpoint, Multiset.mem_add.mpr (Or.inl stored), rfl, rfl⟩
  | change other updates =>
    refine ⟨_, Multiset.mem_map_of_mem _ stored, ?_⟩
    rw [Target.revise]
    split
    · rename_i own
      rw [seen other updates target] at stored
      obtain ⟨found, there, same, rfl, -⟩ := decides_change decided target
      obtain rfl := db.endpoints.row_unique there (Multiset.mem_coe.mp stored) (same.trans own.symm)
      refine ⟨rfl, ?_⟩
      simp [EndpointUpdate.apply, endpointUpdates, Cmdb.endpointView, filled]
    · exact ⟨rfl, rfl⟩

/-- A column is filled with a value, and only where there was none. -/
theorem endpointUpdates_fill (request : AttachRequest) (endpoint : EndpointView) :
    (∀ mac, (endpointUpdates request endpoint).mac = some mac →
      truthy (some mac) = true ∧ truthy endpoint.mac = false) ∧
      ∀ notes, (endpointUpdates request endpoint).notes = some notes →
        truthy (some notes) = true ∧ truthy endpoint.notes = false := by
  simp only [endpointUpdates]
  constructor
  · intro mac filled
    split at filled
    · rename_i fills
      rw [Bool.and_eq_true, Bool.not_eq_true'] at fills
      exact ⟨filled ▸ fills.1, fills.2⟩
    · cases filled
  · intro notes filled
    split at filled
    · rename_i fills
      rw [Bool.and_eq_true, Bool.not_eq_true'] at fills
      exact ⟨filled ▸ fills.1, fills.2⟩
    · cases filled

/-- A column that was filled is not filled again. The second update saw the
first one's value, or the first filled nothing. -/
theorem fills_apart {first second old : Option String}
    (fills : ∀ value, first = some value → truthy (some value) = true)
    (fillsLater : ∀ value, second = some value → truthy (first.or old) = false) :
    first = none ∨ second = none := by
  cases first with
  | none => exact Or.inl rfl
  | some value =>
    cases second with
    | none => exact Or.inr rfl
    | some more =>
      have missing := fillsLater more rfl
      rw [Option.some_or, fills value rfl] at missing
      cases missing

/-- Two updates commute if they fill different columns. The columns are
independent of one another, so it is shown for the macs and for the notes
separately. -/
theorem EndpointUpdate.apply_comm {first second : EndpointUpdate}
    (macs : first.mac = none ∨ second.mac = none)
    (notes : first.notes = none ∨ second.notes = none) (endpoint : Endpoint) :
    first.apply (second.apply endpoint) = second.apply (first.apply endpoint) := by
  have mac : first.mac.or (second.mac.or endpoint.mac) =
      second.mac.or (first.mac.or endpoint.mac) := by
    rcases macs with none | none
    · simp [none]
    · simp [none]
  have note : first.notes.or (second.notes.or endpoint.notes) =
      second.notes.or (first.notes.or endpoint.notes) := by
    rcases notes with none | none
    · simp [none]
    · simp [none]
  simp [EndpointUpdate.apply, mac, note]

/-- An attach that decides after another has filled columns of the endpoint leaves these
columns alone, so their updates commute. -/
theorem changes_comm {after : Cmdb} {other : AttachRequest} {otherPlan : AttachPlan}
    {later : EndpointUpdate} {base : Multiset (Row Endpoint)}
    (decided : db.decides handler request = some plan)
    (change : plan.target = .change id updates)
    (placed : after.tables.rows = plan.target.place EndpointUpdate.apply id base)
    (decidedLater : after.decides handler other = some otherPlan)
    (changeLater : otherPlan.target = .change id later) (endpoint : Endpoint) :
    updates.apply (later.apply endpoint) = later.apply (updates.apply endpoint) := by
  obtain ⟨seen, -, -, rfl, -⟩ := decides_change decided change
  obtain ⟨found, stored, own, rfl, -⟩ := decides_change decidedLater changeLater
  have member : found ∈ after.tables.rows := Multiset.mem_coe.mpr stored
  rw [placed, change, Target.place, Multiset.mem_map] at member
  obtain ⟨old, -, revised⟩ := member
  have data : found.data =
      (endpointUpdates request (db.endpointView seen)).apply old.data := by
    rw [Target.revise] at revised
    split at revised
    · exact (congrArg Row.data revised).symm
    · rename_i apart
      rw [revised] at apart
      exact absurd own apart
  have fills := endpointUpdates_fill request (db.endpointView seen)
  have fillsLater := endpointUpdates_fill other (after.endpointView found)
  have mac : (after.endpointView found).mac =
      (endpointUpdates request (db.endpointView seen)).mac.or old.data.mac :=
    congrArg Endpoint.mac data
  have notes : (after.endpointView found).notes =
      (endpointUpdates request (db.endpointView seen)).notes.or old.data.notes :=
    congrArg Endpoint.notes data
  apply EndpointUpdate.apply_comm
  · exact fills_apart (fun value filled => (fills.1 value filled).1)
      fun value filled => mac ▸ (fillsLater.1 value filled).2
  · exact fills_apart (fun value filled => (fills.2 value filled).1)
      fun value filled => notes ▸ (fillsLater.2 value filled).2

end Decisions

end InstanceLifecycle
