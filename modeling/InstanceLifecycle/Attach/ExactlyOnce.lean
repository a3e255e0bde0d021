import InstanceLifecycle.Cmdb.Rows
import InstanceLifecycle.Handler.AsciiRuntime
import InstanceLifecycle.Handler.Footprints
import InstanceLifecycle.Service.Rules

/-!
# Attach exactly once

Redeliveries of one attach under transport failures. A run may be cut between the
endpoint and the IP, and the next one starts from there. What carries over is
`Progress`: the host has at most one endpoint more than at first, and as long as
the IP is missing, an endpoint that was added is one the next run reuses.
-/

namespace InstanceLifecycle

open Interaction Store InstanceHandler

namespace Cmdb

variable (db : Cmdb)

/-- The attach reuses an endpoint with its mac, or one without mac and addresses. -/
def Usable (mac : Option String) (endpoint : Row Endpoint) : Prop :=
  (truthy mac = true ∧ endpoint.data.mac = mac) ∨
    (db.ipsOf endpoint.id = [] ∧ truthy endpoint.data.mac = false)

/-- The server has an endpoint that the attach would reuse. -/
def hasUsable (mac : Option String) (serverId : Nat) : Prop :=
  ∃ endpoint ∈ db.endpointsOf serverId, db.Usable mac endpoint

end Cmdb

/-- If the attach chooses no endpoint of the view, none of the server's is
usable. Both of its searches ran over the whole list. -/
theorem chooseEndpoint_none {db : Cmdb} {mac : Option String} {serverId : Nat}
    (none : chooseEndpoint mac ((db.endpointsOf serverId).map db.endpointView) = none) :
    ¬ db.hasUsable mac serverId := by
  simp only [chooseEndpoint, Option.or_eq_none_iff, List.find?_eq_none] at none
  obtain ⟨noMac, noFree⟩ := none
  rintro ⟨endpoint, member, byMac | ⟨noIps, macless⟩⟩
  · have missed := noMac (db.endpointView endpoint) (List.mem_map_of_mem member)
    simp [Cmdb.endpointView, byMac.1, byMac.2] at missed
  · have missed := noFree (db.endpointView endpoint) (List.mem_map_of_mem member)
    simp [Cmdb.endpointView, noIps, macless] at missed

/-- A chosen endpoint is one of the list. -/
theorem chooseEndpoint_mem {mac : Option String} {endpoints : List EndpointView}
    {view : EndpointView} (chosen : chooseEndpoint mac endpoints = some view) :
    view ∈ endpoints := by
  simp only [chooseEndpoint, Option.or_eq_some_iff] at chosen
  rcases chosen with byMac | ⟨_, free⟩
  · exact List.mem_of_find?_eq_some byMac
  · exact List.mem_of_find?_eq_some free

/-- A chosen endpoint of a view is the view of a stored one. -/
theorem chooseEndpoint_some {db : Cmdb} {mac : Option String} {serverId : Nat}
    {view : EndpointView}
    (chosen : chooseEndpoint mac ((db.endpointsOf serverId).map db.endpointView) = some view) :
    ∃ endpoint ∈ db.endpointsOf serverId, db.endpointView endpoint = view :=
  List.mem_map.mp (chooseEndpoint_mem chosen)

/-! ## What carries over from run to run -/

/-- The host, at most one attached IP, at most one more endpoint; an added endpoint
is usable until the IP hangs, and after an ack the IP hangs. -/
structure Progress (request : AttachRequest) (host : Row Columns) (initial : Nat) (db : Cmdb)
    (acked : Bool) : Prop where
  unique : db.servers.rows.filter (fun server => hasUuid server request.hostUuid) = [host]
  few : (db.attached request.ipAddr request.hostUuid).length ≤ 1
  grown : (db.endpointsOf host.id).length ≤ initial + 1
  reusable : (db.endpointsOf host.id).length = initial + 1 →
    db.attached request.ipAddr request.hostUuid ≠ [] ∨ db.hasUsable request.mac host.id
  settled : acked = true → db.attached request.ipAddr request.hostUuid ≠ []

namespace Progress

variable {request : AttachRequest} {host : Row Columns} {initial : Nat} {db : Cmdb} {acked : Bool}

/-- Where the address hangs at all it hangs once. -/
theorem once (progress : Progress request host initial db acked)
    (some : db.attached request.ipAddr request.hostUuid ≠ []) :
    (db.attached request.ipAddr request.hostUuid).length = 1 := by
  have positive := List.length_pos_iff.mpr some
  have few := progress.few
  omega

/-- The host is stored and carries the uuid of the request. -/
theorem host_stored (progress : Progress request host initial db acked) :
    host ∈ db.servers.rows ∧ hasUuid host request.hostUuid = true := by
  have member : host ∈ db.servers.rows.filter (fun server => hasUuid server request.hostUuid) := by
    rw [progress.unique]
    exact List.mem_singleton.mpr rfl
  exact List.mem_filter.mp member

/-- The endpoints of the host are on it by the uuid as well, which is how the
look-up of the attached IP finds them. -/
theorem endpoint_onHost (progress : Progress request host initial db acked)
    (endpoint : Row Endpoint) (member : endpoint ∈ db.endpointsOf host.id) :
    db.endpointOnHost request.hostUuid endpoint = true := by
  obtain ⟨stored, found⟩ := progress.host_stored
  have hangs : endpoint.data.serverId = host.id := by
    simpa using (List.mem_filter.mp member).2
  exact List.any_eq_true.mpr ⟨host, stored, by simp [hangs, found]⟩

/-- Filling the columns of an endpoint with the mac of the request keeps every
usable endpoint usable. -/
theorem updateEndpoint (progress : Progress request host initial db acked) (id : Nat)
    (updates : EndpointUpdate)
    (fills : updates.mac = none ∨ (truthy request.mac = true ∧ updates.mac = request.mac)) :
    Progress request host initial (db.updateEndpoint id updates) acked := by
  have sameIps := db.attached_updateEndpoint id updates request.ipAddr request.hostUuid
  have sameLength : ((db.updateEndpoint id updates).endpointsOf host.id).length =
      (db.endpointsOf host.id).length := by
    rw [db.endpointsOf_updateEndpoint, List.length_map]
  refine ⟨progress.unique, ?_, ?_, ?_, ?_⟩
  · rw [sameIps]
    exact progress.few
  · rw [sameLength]
    exact progress.grown
  · rw [sameLength, sameIps]
    intro full
    rcases progress.reusable full with some | ⟨endpoint, member, usable⟩
    · exact Or.inl some
    · refine Or.inr ⟨_, (db.endpointsOf_updateEndpoint id updates host.id).symm ▸
        List.mem_map_of_mem member, ?_⟩
      split
      · rcases fills with none | ⟨known, same⟩
        · simpa [Cmdb.Usable, EndpointUpdate.apply, none, Cmdb.ipsOf, Cmdb.updateEndpoint]
            using usable
        · left
          obtain ⟨mac, given, _⟩ := (truthy_iff request.mac).mp known
          exact ⟨known, by simp [EndpointUpdate.apply, same, given]⟩
      · exact usable
  · rw [sameIps]
    exact progress.settled

/-- A new endpoint of the attach is usable as long as no IP hangs on it. -/
theorem insertEndpoint (progress : Progress request host initial db acked)
    (room : (db.endpointsOf host.id).length ≤ initial) (columns : Endpoint)
    (onHost : columns.serverId = host.id)
    (mac : columns.mac = if truthy request.mac then request.mac else none) :
    Progress request host initial (db.insertEndpoint columns) acked := by
  have present : ∃ server ∈ db.servers.rows, server.id = columns.serverId :=
    ⟨host, progress.host_stored.1, onHost.symm⟩
  have added := db.endpointsOf_insertEndpoint_own columns progress.host_stored.1 onHost
  have sameIps := db.attached_insertEndpoint columns request.ipAddr request.hostUuid
  refine ⟨?_, ?_, ?_, ?_, ?_⟩
  · rw [db.insertEndpoint_servers]
    exact progress.unique
  · rw [sameIps]
    exact progress.few
  · rw [added, List.length_append, List.length_singleton]
    omega
  · intro _
    right
    refine ⟨⟨db.endpoints.next, columns⟩, by simp [added], ?_⟩
    by_cases known : truthy request.mac = true
    · exact Or.inl ⟨known, by simp [mac, known]⟩
    · right
      constructor
      · rw [Cmdb.ipsOf, db.insertEndpoint_ips]
        exact db.ipsOf_next
      · change truthy columns.mac = false
        rw [mac, if_neg known]
        rfl
  · rw [sameIps]
    exact progress.settled

/-- The IP on an endpoint of the host is the one the attach is about. -/
theorem insertIp (progress : Progress request host initial db acked)
    (free : db.attached request.ipAddr request.hostUuid = []) (columns : Ip)
    (address : columns.ip = request.ipAddr) (endpoint : Row Endpoint)
    (member : endpoint ∈ db.endpointsOf host.id)
    (hangs : endpoint.id = columns.networkEndpointId) :
    Progress request host initial (db.insertIp columns) acked ∧
      (db.insertIp columns).attached request.ipAddr request.hostUuid ≠ [] := by
  have onHost := progress.endpoint_onHost endpoint member
  have stored : endpoint ∈ db.endpoints.rows := (List.mem_filter.mp member).1
  have added := db.attached_insertIp_new columns request.hostUuid ⟨endpoint, stored, hangs, onHost⟩
  rw [address, free, List.nil_append] at added
  have some : (db.insertIp columns).attached request.ipAddr request.hostUuid ≠ [] := by
    rw [added]
    simp
  refine ⟨⟨?_, ?_, ?_, fun _ => Or.inl some, fun _ => some⟩, some⟩
  · rw [db.insertIp_servers]
    exact progress.unique
  · rw [added]
    simp
  · rw [Cmdb.endpointsOf, db.insertIp_endpoints]
    exact progress.grown

end Progress

/-! ## The action -/

section Action

variable {request : AttachRequest} {host : Row Columns} {initial : Nat} {state : FieldErrors}
  {world : World}

/-- The invariant of every state: the progress of the attach, as its store and
its ack show it. -/
def Attaching (request : AttachRequest) (host : Row Columns) (initial : Nat) (world : World) :
    Prop :=
  Progress request host initial world.db world.acked

/-- The IP is still missing, and an endpoint of the host is stored for it. -/
structure Ready (request : AttachRequest) (host : Row Columns) (initial endpointId : Nat)
    (world : World) : Prop where
  attaching : Attaching request host initial world
  free : world.db.attached request.ipAddr request.hostUuid = []
  stored : ∃ endpoint ∈ world.db.endpointsOf host.id, endpoint.id = endpointId

/-- The IP hangs. This is what a normal end and an ack have to imply. -/
structure Attached (request : AttachRequest) (host : Row Columns) (initial : Nat)
    (world : World) : Prop where
  attaching : Attaching request host initial world
  some : world.db.attached request.ipAddr request.hostUuid ≠ []

/-- A normal end finds the IP attached, and an exception leaves the invariant. -/
def attachExit (request : AttachRequest) (host : Row Columns) (initial : Nat) {α : Type}
    (result : Except Exn α) (_ : FieldErrors) (after : World) : Prop :=
  match result with
  | .ok _ => Attached request host initial after
  | .error _ => Attaching request host initial after

/-- Reading calls keep the invariant. -/
theorem Attaching.reads {after : World} (attaching : Attaching request host initial world)
    (reads : world.Reads after) : Attaching request host initial after := by
  unfold Attaching
  rw [reads.db, reads.acked]
  exact attaching

/-- The look-up tells the truth or fails, and leaves everything as it is. -/
theorem findAttachedIp_answers (handler : InstanceHandler) {permits : Faults}
    {inv : World → Prop} (address : String) (uuid : Option String)
    (lossy : ∀ outcome, permits (.ipSelectAttached address uuid) outcome →
      transportFaults (.ipSelectAttached address uuid) outcome)
    (kept : ∀ after, world.Reads after → inv after) :
    (handler.findAttachedIp address uuid).Ensures (faulty permits) inv
      (fun result final after => final = state ∧ world.Reads after ∧
        ∀ row, result = .ok row → row = world.db.rows (.ipSelectAttached address uuid))
      state world := by
  unfold InstanceHandler.findAttachedIp
  rw [Action.ensures_bind]
  apply transportRead_ensures rfl lossy fun current outcome reads =>
    kept _ (reads.trans (next_reads current _ rfl outcome))
  · intro after reads
    refine ⟨rfl, reads, ?_⟩
    rintro row ⟨⟩
    rfl
  · intro after exc reads
    exact ⟨rfl, reads, by simp⟩

/-- Filling an endpoint of the host keeps it ready for the IP. The update may
take effect any number of times, as it leaves ids, servers and IPs alone. -/
theorem reuseEndpoint_ready (handler : InstanceHandler) (endpoint : EndpointView)
    (ready : Ready request host initial endpoint.id world) :
    (handler.reuseEndpoint request endpoint).Ensures (faulty transportFaults)
      (Attaching request host initial)
      (fun _ _ after => Ready request host initial endpoint.id after) state world := by
  have update : (handler.reuseEndpoint request endpoint).Only (calls fun op =>
      op = .endpointUpdate endpoint.id (endpointUpdates request endpoint)) :=
    InstanceHandler.reuseEndpoint_only rfl
  have fills : (endpointUpdates request endpoint).mac = none ∨
      (truthy request.mac = true ∧ (endpointUpdates request endpoint).mac = request.mac) := by
    simp only [endpointUpdates]
    split
    · rename_i missing
      rw [Bool.and_eq_true] at missing
      exact Or.inr ⟨missing.1, rfl⟩
    · exact Or.inl rfl
  apply calls_ensures update (Ready request host initial endpoint.id) _
    (fun _ held => held.attaching) ready
  rintro before held op rfl outcome _
  rcases before.db.answer_db _ outcome with unchanged | landed
  · refine ⟨?_, ?_, ?_⟩
    · rw [Attaching, World.next_db, World.next_acked, unchanged]
      exact held.attaching
    · rw [World.next_db, unchanged]
      exact held.free
    · rw [World.next_db, unchanged]
      exact held.stored
  · refine ⟨?_, ?_, ?_⟩
    · rw [Attaching, World.next_db, World.next_acked, landed]
      exact held.attaching.updateEndpoint _ _ fills
    · rw [World.next_db, landed]
      exact (before.db.attached_updateEndpoint _ _ _ _).trans held.free
    · obtain ⟨stored, member, same⟩ := held.stored
      rw [World.next_db, landed]
      refine ⟨_, (before.db.endpointsOf_updateEndpoint _ _ host.id).symm ▸
        List.mem_map_of_mem member, ?_⟩
      split <;> exact same

/-- How the choice of the endpoint leaves the attach: with an endpoint ready for
the IP, or with the address already there. -/
def endpointReady (request : AttachRequest) (host : Row Columns) (initial : Nat)
    (result : Except Exn (Option Nat)) (_ : FieldErrors) (after : World) : Prop :=
  match result with
  | .ok (some endpointId) => Ready request host initial endpointId after
  | .ok none => Attached request host initial after
  | .error _ => Attaching request host initial after

/-- How the insert of the endpoint leaves the attach: with an endpoint ready for
the IP. That the address turns up meanwhile is excluded, since nobody else
inserts it here. -/
def insertedReady (request : AttachRequest) (host : Row Columns) (initial : Nat)
    (result : Except Exn (Option (EndpointRef × Bool))) (_ : FieldErrors) (after : World) : Prop :=
  match result with
  | .ok (some (endpoint, false)) => Ready request host initial endpoint.id after
  | .ok _ => False
  | .error _ => Attaching request host initial after

/-- Around the insert of an endpoint: it has taken effect or not. -/
structure Inserting (request : AttachRequest) (host : Row Columns) (initial : Nat) (start : Cmdb)
    (world : World) : Prop where
  attaching : Attaching request host initial world
  free : world.db.attached request.ipAddr request.hostUuid = []
  step : world.db = start ∨
    world.db = start.insertEndpoint (attachColumns request (start.serverView host))

/-- Reading calls stay around the insert. -/
theorem Inserting.reads {start : Cmdb} {after : World}
    (inserting : Inserting request host initial start world) (reads : world.Reads after) :
    Inserting request host initial start after := by
  refine ⟨inserting.attaching.reads reads, ?_, ?_⟩
  · rw [reads.db]
    exact inserting.free
  · rw [reads.db]
    exact inserting.step

/-- From the state of inserting, the insert leads to an endpoint that is ready
for the IP. The new endpoint hangs on the host and attaches nothing yet, so the
address is as free as it was. -/
theorem Inserting.inserted {start : Cmdb}
    (inserting : Inserting request host initial start world) (unchanged : world.db = start)
    (room : (start.endpointsOf host.id).length ≤ initial) (after : World)
    (landed : after.db = start.insertEndpoint (attachColumns request (start.serverView host)))
    (acked : after.acked = world.acked) :
    Ready request host initial start.endpoints.next after := by
  have progress := inserting.attaching
  have free := inserting.free
  rw [Attaching, unchanged] at progress
  rw [unchanged] at free
  refine ⟨?_, ?_, ?_⟩
  · rw [Attaching, landed, acked]
    exact progress.insertEndpoint room _ rfl rfl
  · rw [landed]
    exact (start.attached_insertEndpoint _ _ _).trans free
  · rw [landed]
    exact ⟨_, start.insertEndpoint_hangs (attachColumns request (start.serverView host))
      progress.host_stored.1 rfl, rfl⟩

/-- The second probe of the selector finds the endpoint if it was inserted. -/
theorem Inserting.probe {start : Cmdb}
    (inserting : Inserting request host initial start world)
    (missed : world.db.rows (.endpointSelectOne host.id
      (.name (nextBondName ((start.serverView host).endpoints.map EndpointView.name)))) = none)
    (stored : host ∈ start.servers.rows) : world.db = start := by
  rcases inserting.step with same | landed
  · exact same
  · rw [landed] at missed
    exact absurd missed (endpointSelect_detects start
      (attachColumns request (start.serverView host)) _ ⟨host, stored, rfl⟩ (decide_eq_true rfl))

/-- What a re-select of an endpoint finds is stored on the server it asks for. -/
theorem probe_found {serverId : Nat} {key : EndpointKey} {db : Cmdb} {endpoint : EndpointRef}
    (found : db.rows (.endpointSelectOne serverId key) = some endpoint) :
    ∃ stored ∈ db.endpointsOf serverId, stored.id = endpoint.id := by
  simp only [Cmdb.rows, Option.map_eq_some_iff] at found
  obtain ⟨stored, located, rfl⟩ := found
  have holds := List.find?_some located
  rw [Bool.and_eq_true] at holds
  exact ⟨stored, List.mem_filter.mpr ⟨List.mem_of_find?_eq_some located, holds.1⟩, rfl⟩

/-- One invocation of the insert: the endpoint is ready, or the reply got lost. -/
theorem endpointInsert_ready (handler : InstanceHandler) {start : Cmdb} (options : CallOptions)
    (inserting : Inserting request host initial start world) (unchanged : world.db = start)
    (room : (start.endpointsOf host.id).length ≤ initial) (stored : host ∈ start.servers.rows) :
    (cmdb (.endpointInsertOne (attachColumns request (start.serverView host))) >>= fun endpoint =>
        pure (endpoint, false) : Run (EndpointRef × Bool)).Ensures
      (faulty transportFaults) (Attaching request host initial)
      (handler.opExit options (insertedReady request host initial)
        (Inserting request host initial start) state) state world := by
  generalize shape : attachColumns request (start.serverView host) = columns
  have admitted : start.admits (.endpointInsertOne columns) = true := by
    rw [← shape]
    exact admits_endpoint ⟨host, stored, rfl⟩
  -- Whatever the reply, an insert that took effect leads to a ready endpoint.
  have ready : ∀ after : World, after.db = start.insertEndpoint columns →
      after.acked = world.acked → Ready request host initial start.endpoints.next after := by
    rw [← shape]
    exact inserting.inserted unchanged room
  rw [Action.ensures_bind]
  apply cmdb_ensures
  intro outcome permitted
  cases outcome with
  | ok =>
    have landed : (world.next (.endpointInsertOne columns) .ok).db =
        start.insertEndpoint columns := by
      rw [World.next_db, unchanged]
      rfl
    have hangs := ready _ landed (by simp)
    refine ⟨hangs.attaching, ?_⟩
    simp only [Cmdb.answer, unchanged, admitted, if_true, Except.mapError]
    exact ⟨rfl, hangs⟩
  | fail error reached =>
    have transport : error.isTransport = true := permitted
    have after : Inserting request host initial start
        (world.next (.endpointInsertOne columns) (.fail error reached)) := by
      cases reached with
      | false =>
        refine ⟨?_, inserting.free, Or.inl unchanged⟩
        rw [Attaching, World.next_acked]
        exact inserting.attaching
      | true =>
        have landed : (world.next (.endpointInsertOne columns) (.fail error true)).db =
            start.insertEndpoint columns := by
          rw [World.next_db, unchanged]
          rfl
        have hangs := ready _ landed (by simp)
        refine ⟨hangs.attaching, hangs.free, Or.inr ?_⟩
        rw [shape]
        exact landed
    refine ⟨after.attaching, rfl, replyExit_failure ?_⟩
    simp only [replyExit, transport, if_true]
    exact ⟨after, after.attaching⟩

/-- The selector: the IP is missing, and the name tells whether the insert took effect. -/
theorem attachEndpointSelector_ready (handler : InstanceHandler) {start : Cmdb}
    (inserting : Inserting request host initial start world)
    (stored : host ∈ start.servers.rows) :
    (handler.attachEndpointSelector request.ipAddr request.hostUuid host.id
        (nextBondName ((start.serverView host).endpoints.map EndpointView.name))).Ensures
      (faulty transportFaults) (Attaching request host initial)
      (selectorExit (insertedReady request host initial)
        (fun current => Inserting request host initial start current ∧ current.db = start)
        (Inserting request host initial start) state) state world := by
  rw [InstanceHandler.attachEndpointSelector]
  refine (findAttachedIp_answers handler request.ipAddr request.hostUuid
    (fun _ permitted => permitted) fun after reads => inserting.attaching.reads reads).bind ?_ ?_
  · rintro existing final after ⟨rfl, reads, truthful⟩
    have held := inserting.reads reads
    cases existing with
    | some row =>
      have found := (truthful _ rfl).symm
      exact absurd inserting.free (world.db.lookUp_some _ _ row found)
    | none =>
      simp only
      refine (probe_ensures rfl (Inserting request host initial start) ?_).bind ?_ ?_
      · intro outcome _
        have probed := held.reads (next_reads after (.endpointSelectOne host.id
          (.name (nextBondName ((start.serverView host).endpoints.map EndpointView.name)))) rfl
          outcome)
        exact ⟨probed.attaching, probed⟩
      · rintro found last later ⟨rfl, same, known, answer⟩
        simp only at answer
        refine ⟨rfl, ?_⟩
        rw [← same] at answer
        cases found with
        | none => exact ⟨known, known.probe answer.symm stored⟩
        | some endpoint => exact ⟨known.attaching, known.free, probe_found answer.symm⟩
      · rintro exc last later ⟨rfl, -, known, -⟩
        exact ⟨rfl, known, known.attaching⟩
  · rintro exc final after ⟨rfl, reads, _⟩
    exact ⟨rfl, inserting.reads reads, inserting.attaching.reads reads⟩

/-- The insert of an endpoint makes one ready, whether its reply or its request
was lost. The name is new on the server, so the probe tells the two apart. -/
theorem insertAttachEndpoint_ready (handler : InstanceHandler) (start : Cmdb)
    (room : (start.endpointsOf host.id).length ≤ initial)
    (begins : world.db = start) (attaching : Attaching request host initial world)
    (free : world.db.attached request.ipAddr request.hostUuid = []) :
    (handler.insertAttachEndpoint request (start.serverView host)).Ensures
      (faulty transportFaults) (Attaching request host initial)
      (insertedReady request host initial) state world := by
  have stored : host ∈ start.servers.rows := by
    rw [← begins]
    exact attaching.host_stored.1
  rw [InstanceHandler.insertAttachEndpoint]
  apply InstanceHandler.cmdbCall_ensures
    (fun current => Inserting request host initial start current ∧ current.db = start)
    (Inserting request host initial start) ⟨⟨attaching, free, Or.inl begins⟩, begins⟩
  · rintro current ⟨inserting, unchanged⟩
    exact endpointInsert_ready handler _ inserting unchanged room stored
  · rintro _ ⟨⟩ current inserting
    exact attachEndpointSelector_ready handler inserting stored
  · intro absent
    cases absent

/-- The choice of an endpoint makes one ready. By cases: a chosen one is filled,
otherwise none is usable and there is room for a new one. -/
theorem attachEndpoint_ready (handler : InstanceHandler) (start : Cmdb)
    (begins : world.db = start) (attaching : Attaching request host initial world)
    (free : world.db.attached request.ipAddr request.hostUuid = []) :
    (handler.attachEndpoint request (start.serverView host)).Ensures (faulty transportFaults)
      (Attaching request host initial) (endpointReady request host initial) state world := by
  unfold attachEndpoint
  cases chosen : chooseEndpoint request.mac (start.serverView host).endpoints with
  | some view =>
    obtain ⟨endpoint, member, rfl⟩ := chooseEndpoint_some chosen
    have ready : Ready request host initial (start.endpointView endpoint).id world := by
      refine ⟨attaching, free, endpoint, ?_, rfl⟩
      rw [begins]
      exact member
    refine (reuseEndpoint_ready handler _ ready).bind ?_ ?_
    · exact fun _ _ _ held => held
    · exact fun _ _ _ held => held.attaching
  | none =>
    have unusable := chooseEndpoint_none chosen
    have room : (start.endpointsOf host.id).length ≤ initial := by
      have progress := attaching
      rw [Attaching, begins] at progress
      rw [begins] at free
      have grown := progress.grown
      by_cases full : (start.endpointsOf host.id).length = initial + 1
      · rcases progress.reusable full with some | usable
        · exact absurd free some
        · exact absurd usable unusable
      · omega
    refine (insertAttachEndpoint_ready handler start room begins attaching free).bind ?_ ?_
    · intro inserted final after exit
      cases inserted with
      | none => exact exit.elim
      | some found =>
        obtain ⟨endpoint, recovered⟩ := found
        cases recovered with
        | true => exact exit.elim
        | false => exact exit
    · exact fun _ _ _ exit => exit

/-- Around the insert of the IP: an endpoint of the host is stored for it. -/
structure Hanging (request : AttachRequest) (host : Row Columns) (initial endpointId : Nat)
    (world : World) : Prop where
  attaching : Attaching request host initial world
  stored : ∃ endpoint ∈ world.db.endpointsOf host.id, endpoint.id = endpointId

/-- Reading calls stay around the insert of the IP. -/
theorem Hanging.reads {endpointId : Nat} {after : World}
    (hanging : Hanging request host initial endpointId world) (reads : world.Reads after) :
    Hanging request host initial endpointId after := by
  refine ⟨hanging.attaching.reads reads, ?_⟩
  rw [reads.db]
  exact hanging.stored

/-- The IP insert attaches the address, for its endpoint hangs on the host. -/
theorem Ready.inserted {endpointId : Nat} (ready : Ready request host initial endpointId world)
    (columns : Ip) (address : columns.ip = request.ipAddr)
    (hangs : columns.networkEndpointId = endpointId) (after : World)
    (landed : after.db = world.db.insertIp columns) (acked : after.acked = world.acked) :
    Attached request host initial after ∧ Hanging request host initial endpointId after := by
  obtain ⟨endpoint, member, same⟩ := ready.stored
  obtain ⟨progress, some⟩ := ready.attaching.insertIp ready.free columns address endpoint member
    (same.trans hangs.symm)
  have attaching : Attaching request host initial after := by
    rw [Attaching, landed, acked]
    exact progress
  refine ⟨⟨attaching, by rw [landed]; exact some⟩, attaching, endpoint, ?_, same⟩
  rw [landed, Cmdb.endpointsOf, Cmdb.insertIp_endpoints]
  exact member

/-- One invocation of the insert: the IP hangs, or the reply got lost. -/
theorem ipInsert_attached (handler : InstanceHandler) {endpointId : Nat} (options : CallOptions)
    (columns : Ip) (address : columns.ip = request.ipAddr)
    (hangs : columns.networkEndpointId = endpointId)
    (ready : Ready request host initial endpointId world) (outcome : Outcome)
    (permitted : transportFaults (.ipInsertOne columns) outcome) :
    Attaching request host initial (world.next (.ipInsertOne columns) outcome) ∧
      replyExit handler options (attachExit request host initial)
        (Hanging request host initial endpointId) state (world.next (.ipInsertOne columns) outcome)
        (world.db.answer (.ipInsertOne columns) outcome).1 := by
  obtain ⟨endpoint, member, same⟩ := ready.stored
  have admitted : world.db.admits (.ipInsertOne columns) = true :=
    admits_ip ⟨endpoint, (List.mem_filter.mp member).1, same.trans hangs.symm⟩
  have inserted := ready.inserted columns address hangs
  cases outcome with
  | ok =>
    obtain ⟨attached, _⟩ := inserted (world.next (.ipInsertOne columns) .ok) rfl (by simp)
    refine ⟨attached.attaching, ?_⟩
    simp only [Cmdb.answer, admitted, if_true, replyExit]
    exact attached
  | fail error landed =>
    have transport : error.isTransport = true := permitted
    have after : Hanging request host initial endpointId
        (world.next (.ipInsertOne columns) (.fail error landed)) := by
      cases landed with
      | true => exact (inserted _ rfl (by simp)).2
      | false =>
        refine ⟨?_, ready.stored⟩
        rw [Attaching, World.next_acked]
        exact ready.attaching
    refine ⟨after.attaching, ?_⟩
    simp only [Cmdb.answer, replyExit, transport, if_true]
    exact ⟨after, after.attaching⟩

/-- The selector: the look-up tells whether the insert took effect. A row found
ends the attach, and none leaves it ready. -/
theorem attachIpSelector_attached (handler : InstanceHandler) {endpointId : Nat}
    (hanging : Hanging request host initial endpointId world) :
    (handler.attachIpSelector request.ipAddr request.hostUuid).Ensures (faulty transportFaults)
      (Attaching request host initial)
      (selectorExit (attachExit request host initial) (Ready request host initial endpointId)
        (Hanging request host initial endpointId) state) state world := by
  rw [attachIpSelector]
  refine (findAttachedIp_answers handler request.ipAddr request.hostUuid
    (fun _ permitted => permitted) fun after reads => hanging.attaching.reads reads).bind ?_ ?_
  · rintro row final after ⟨rfl, reads, truthful⟩
    have held := hanging.reads reads
    have answer := (truthful _ rfl).symm
    cases row with
    | some found =>
      refine ⟨rfl, held.attaching, ?_⟩
      rw [reads.db]
      exact world.db.lookUp_some _ _ found answer
    | none =>
      refine ⟨rfl, held.attaching, ?_, held.stored⟩
      rw [reads.db]
      exact world.db.lookUp_none _ _ answer
  · rintro exc final after ⟨rfl, reads, _⟩
    exact ⟨rfl, hanging.reads reads, hanging.attaching.reads reads⟩

/-- The insert of the IP ends normally only with the address attached. Its
selector runs between the attempts, so a lost reply is not answered by a second
row. -/
theorem insertAttachIp_attached (handler : InstanceHandler) (server : ServerView)
    (netPrefix : Option NetworkPrefix) (endpointId : Nat)
    (ready : Ready request host initial endpointId world) :
    (handler.insertAttachIp request server netPrefix endpointId).Ensures (faulty transportFaults)
      (Attaching request host initial) (attachExit request host initial) state world := by
  rw [insertAttachIp]
  refine Action.Ensures.bind
    (?_ : Action.Ensures _ _ _ (attachExit request host initial) state world) ?_ ?_
  · apply call_ensures (Ready request host initial endpointId)
      (Hanging request host initial endpointId) ready
    · intro current start outcome permitted
      exact ipInsert_attached handler _ _ rfl rfl start outcome permitted
    · rintro _ ⟨⟩ current hanging
      exact attachIpSelector_attached handler hanging
    · intro absent
      cases absent
  · exact fun _ _ _ exit => exit
  · exact fun _ _ _ exit => exit

/-- The attach of a request to the view of its host keeps the invariant and ends
as the exit says. The view is of the store at hand, since nothing else writes in
between. -/
theorem attachTo_attached (handler : InstanceHandler) (begins : Cmdb) (same : world.db = begins)
    (attaching : Attaching request host initial world) :
    (handler.attachTo request (begins.serverView host)).Ensures (faulty transportFaults)
      (Attaching request host initial) (attachExit request host initial) state world := by
  have prefixReads : (handler.attachPrefix request).Only (calls fun op => op.writes = false) :=
    attachPrefix_only rfl fun _ => rfl
  unfold attachTo
  refine (findAttachedIp_answers handler request.ipAddr request.hostUuid
    (fun _ permitted => permitted) fun after reads => attaching.reads reads).bind ?_ ?_
  · rintro existing final after ⟨rfl, reads, truthful⟩
    have held := attaching.reads reads
    have answer := (truthful _ rfl).symm
    cases existing with
    | some row =>
      refine ⟨held, ?_⟩
      rw [reads.db]
      exact world.db.lookUp_some _ _ row answer
    | none =>
      have free := world.db.lookUp_none _ _ answer
      simp only
      refine (reads_ensures prefixReads fun later further => held.reads further).bind ?_ ?_
      · intro netPrefix final later further
        have unchanged : later.db = world.db := further.db.trans reads.db
        refine (attachEndpoint_ready handler begins (unchanged.trans same) (held.reads further)
          (by rw [unchanged]; exact free)).bind ?_ ?_
        · intro endpoint final latest exit
          cases endpoint with
          | none => exact exit
          | some endpointId => exact insertAttachIp_attached handler _ netPrefix endpointId exit
        · exact fun _ _ _ exit => exit
      · exact fun _ _ later further => held.reads further
  · rintro exc final after ⟨rfl, reads, _⟩
    exact attaching.reads reads

/-- The action as a whole, for a message that is read as this request. -/
theorem attachToInstances_attached (handler : InstanceHandler) (message : Message)
    (read : handler.readAttach message = .ok (some request))
    (attaching : Attaching request host initial world) :
    (handler.attachToInstances message).Ensures (faulty transportFaults)
      (Attaching request host initial) (attachExit request host initial) state world := by
  unfold attachToInstances
  rw [Action.ensures_bind, Action.ensures_lift, read]
  simp only
  rw [Action.ensures_bind]
  apply transportRead_ensures rfl (fun _ permitted => permitted) fun current outcome reads =>
    attaching.reads (reads.trans (next_reads current _ rfl outcome))
  · intro after reads
    have found : world.db.servers.rows.find? (fun server => hasUuid server request.hostUuid) =
        some host := by
      rw [← List.head?_filter, attaching.unique]
      rfl
    simp only [Cmdb.rows, found, Option.map_some, Option.join_some]
    exact attachTo_attached handler world.db reads.db (attaching.reads reads)
  · exact fun after exc reads => attaching.reads reads

end Action

/-! ## Redelivery -/

section Redelivery

variable {request : AttachRequest} {host : Row Columns} {initial : Nat} {state : FieldErrors}
  {world : World}

/-- An event that is no ack keeps the invariant. -/
theorem Attaching.record (attaching : Attaching request host initial world) (event : Event)
    (unconfirmed : event.isAck = false) :
    Attaching request host initial (world.record event) := by
  rw [Attaching, world.record_acked event unconfirmed]
  exact attaching

/-- An ack is issued for an attached IP only, and after that any event may be
recorded. -/
theorem Attached.record (attached : Attached request host initial world) (event : Event) :
    Attached request host initial (world.record event) := by
  obtain ⟨attaching, some⟩ := attached
  refine ⟨?_, some⟩
  exact ⟨attaching.unique, attaching.few, attaching.grown, attaching.reusable, fun _ => some⟩

/-- Every delivery keeps the invariant in each of its states. The rule of the
message-level retry applies the action again from where it broke off. -/
theorem handleMessage_attached (worker : MessageHandlerService) (message : Message)
    (attach : message.actionType = some "attach")
    (read : worker.handler.readAttach message = .ok (some request))
    (attempts : 0 < worker.maxRetries) (attaching : Attaching request host initial world) :
    (worker.handleMessage (.ok message)).Ensures (faulty transportFaults)
      (Attaching request host initial) (fun _ _ after => Attaching request host initial after)
      state world := by
  refine (MessageHandlerService.handleMessage_ensures (faulty_within _).records
    (Attaching request host initial) (Attached request host initial)
    (Attaching request host initial) (Attached request host initial)
    (Attaching request host initial) (fun none => by omega)
    ?_ ?_ ?_ (fun _ _ => ⟨id, id⟩) attaching).mono ?_
  · intro state world held
    have started := held.record ⟨.started message, ()⟩ rfl
    apply MessageHandlerService.processDelivery_ensures (faulty_within _).records started
    rw [worker.handler.dispatch_attach attach]
    refine (attachToInstances_attached worker.handler message read started).mono ?_
    intro result final after exit
    cases result with
    | ok value => exact exit
    | error exc => exact ⟨exit, fun _ => exit⟩
  · intro reply world held
    have attached := (held.elim id id).record ⟨.ack, reply⟩
    exact ⟨attached.attaching, attached⟩
  · intro reply world held
    have refused := (held.elim id id).record ⟨.nack, reply⟩ rfl
    exact ⟨refused, refused⟩
  · rintro result final after (attached | refused)
    · exact attached.attaching
    · exact refused

end Redelivery

/-- One attach delivered any number of times, under any transport failures: in every
state at most one such IP hangs on the host and the host has at most one endpoint
more than at first; once a delivery was acked, exactly one such IP hangs. -/
theorem attach_exactly_once (worker : MessageHandlerService) (message : Message)
    (attach : message.actionType = some "attach") (request : AttachRequest)
    (read : worker.handler.readAttach message = .ok (some request))
    (attempts : 0 < worker.maxRetries) (deliveries : Nat) (db : Cmdb) (host : Row Columns)
    (unique : db.servers.rows.filter (fun server => hasUuid server request.hostUuid) = [host])
    (free : db.attached request.ipAddr request.hostUuid = []) (state : FieldErrors) (last : World)
    (rest : Prog service (Except Exn Unit × FieldErrors))
    (run : Prog.Steps (faulty transportFaults) ⟨db, []⟩
      (worker.handleAll (List.replicate deliveries (.ok message)) state) last rest) :
    (last.db.attached request.ipAddr request.hostUuid).length ≤ 1 ∧
      (last.db.endpointsOf host.id).length ≤ (db.endpointsOf host.id).length + 1 ∧
      (last.history.any Event.isAck = true →
        (last.db.attached request.ipAddr request.hostUuid).length = 1) := by
  have start : Attaching request host (db.endpointsOf host.id).length ⟨db, []⟩ := by
    refine ⟨unique, by simp [free], Nat.le_succ _, fun full => ?_, fun acked => ?_⟩
    · exact absurd full (Nat.ne_of_lt (Nat.lt_succ_self _))
    · cases acked
  have ensured : (worker.handleAll (List.replicate deliveries (.ok message))).Ensures
      (faulty transportFaults) (Attaching request host (db.endpointsOf host.id).length)
      (fun _ _ after => Attaching request host (db.endpointsOf host.id).length after) state
      ⟨db, []⟩ := by
    apply MessageHandlerService.handleAll_ensures _ _ ?_ start
    intro delivery member state world held
    obtain rfl := List.eq_of_mem_replicate member
    exact handleMessage_attached worker message attach read attempts held
  have progress := ensured.always start run
  refine ⟨progress.few, progress.grown, fun acked => ?_⟩
  exact progress.once (progress.settled acked)

/-- Two deliveries of an attach; the reply of the endpoint insert and the first IP
insert are lost. -/
theorem attach_exactly_once_lost :
    let last := ((AsciiRuntime.service.handleAll
      (List.replicate 2 (.ok (AsciiRuntime.attachMessage "10.0.0.9" "m9"))) {}).run
      (World.scripted [(5, .fail (.transport "lost") true), (8, .fail (.transport "lost") false)])
      ⟨AsciiRuntime.registered, []⟩).2
    (last.db.attached "10.0.0.9" (some "u1")).length ≤ 1 ∧
      (last.db.endpointsOf 0).length ≤ 1 ∧
      (last.history.any Event.isAck = true →
        (last.db.attached "10.0.0.9" (some "u1")).length = 1) :=
  attach_exactly_once AsciiRuntime.service (AsciiRuntime.attachMessage "10.0.0.9" "m9") rfl
    ⟨some "r1", some "u1", "10.0.0.9", some "m9", some "net"⟩ rfl (by decide) 2
    AsciiRuntime.registered _ rfl rfl {} _ _
    (Prog.run_ends (scripted_possible _ (fun _ => trivial)
      (by simp [transportFaults, CallError.isTransport])) _ _)

end InstanceLifecycle
