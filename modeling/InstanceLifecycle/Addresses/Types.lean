import InstanceLifecycle.Attach.ExactlyOnce
import InstanceLifecycle.Endpoints.Names

/-!
# The types of a server's addresses

Only the insert of an IP can give a server a second `be` or `fe` address: every other
call leaves each server a part of the types it had. An attach takes a type that none of
the addresses it has read carries, and its selector finds the IP of a lost reply, so a
repeated insert adds nothing. For this the look-up has to tell the truth: a select that
is rejected counts as an address that is missing, so here selects fail by transport only.
-/

namespace InstanceLifecycle

open Interaction Store InstanceHandler

/-! ## The store -/

namespace Cmdb

variable (db : Cmdb)

/-- Does the IP hang on an endpoint of the server? The server is given by its
row id, as the endpoint stores it. -/
def onServer (serverId : Nat) (ip : Row Ip) : Bool :=
  (db.endpointsOf serverId).any (fun endpoint => decide (endpoint.id = ip.data.networkEndpointId))

/-- The types of the IPs of a server, one for each IP and in the order of the
table. Repetitions are kept, since the bound counts them. -/
def ipTypes (serverId : Nat) : List (Option String) :=
  (db.ips.rows.filter (db.onServer serverId)).map (fun ip => ip.data.type)

/-- A type is listed for a server exactly when an IP of that type hangs on one
of its endpoints. -/
theorem mem_ipTypes (serverId : Nat) (type : Option String) :
    type ∈ db.ipTypes serverId ↔
      ∃ ip ∈ db.ips.rows, ∃ endpoint ∈ db.endpointsOf serverId,
        endpoint.id = ip.data.networkEndpointId ∧ ip.data.type = type := by
  simp only [ipTypes, onServer, List.mem_map, List.mem_filter, List.any_eq_true,
    decide_eq_true_eq]
  constructor
  · rintro ⟨ip, ⟨stored, endpoint, hangs, same⟩, typed⟩
    exact ⟨ip, stored, endpoint, hangs, same, typed⟩
  · rintro ⟨ip, stored, endpoint, hangs, same, typed⟩
    exact ⟨ip, ⟨stored, endpoint, hangs, same⟩, typed⟩

end Cmdb

/-- At most one `be` and at most one `fe` address on each server. -/
def OneOfEach (db : Cmdb) : Prop :=
  ∀ serverId, ∀ type ∈ ["be", "fe"], (db.ipTypes serverId).count (some type) ≤ 1

/-- The call that adds an address, the only one that can lengthen a list of
types. -/
def CmdbOp.insertsIp : CmdbOp → Bool
  | .ipInsertOne _ => true
  | _ => false

/-- Fewer IPs mean fewer types: if the IPs left come from the earlier table in
its order and hang where they hung, their types form a sublist of the earlier
ones. -/
theorem ipTypes_sublist {before after : Cmdb} {serverId : Nat}
    (fewer : after.ips.rows.Sublist before.ips.rows)
    (hangs : ∀ ip ∈ after.ips.rows, after.onServer serverId ip = true →
      before.onServer serverId ip = true) :
    (after.ipTypes serverId).Sublist (before.ipTypes serverId) := by
  have narrower : after.ips.rows.filter (after.onServer serverId) =
      (after.ips.rows.filter (before.onServer serverId)).filter (after.onServer serverId) := by
    rw [List.filter_filter]
    apply List.filter_congr
    intro ip stored
    by_cases now : after.onServer serverId ip = true
    · rw [now, hangs ip stored now, Bool.and_true]
    · rw [Bool.not_eq_true] at now
      rw [now, Bool.false_and]
  rw [Cmdb.ipTypes, narrower]
  exact (List.filter_sublist.trans (fewer.filter _)).map _

/-- An IP on the server after endpoints were deleted was there before. -/
theorem onServer_fewer {before after : Cmdb}
    (fewer : after.endpoints.rows.Sublist before.endpoints.rows) {serverId : Nat} {ip : Row Ip}
    (hangs : after.onServer serverId ip = true) : before.onServer serverId ip = true := by
  obtain ⟨endpoint, member, same⟩ := List.any_eq_true.mp hangs
  exact List.any_eq_true.mpr ⟨endpoint, (fewer.filter _).subset member, same⟩

/-- An update of an endpoint moves no IP, since neither the endpoint's id nor
its server is among the columns it writes. -/
theorem onServer_updateEndpoint (db : Cmdb) (id : Nat) (updates : EndpointUpdate)
    (serverId : Nat) (ip : Row Ip) :
    (db.updateEndpoint id updates).onServer serverId ip = db.onServer serverId ip := by
  rw [Cmdb.onServer, db.endpointsOf_updateEndpoint, List.any_map, Cmdb.onServer]
  congr 1
  funext endpoint
  simp only [Function.comp]
  split <;> rfl

/-- A new endpoint has a new id, so no stored IP hangs on it. -/
theorem onServer_insertEndpoint (db : Cmdb) (columns : Endpoint) (serverId : Nat) (ip : Row Ip)
    (stored : ip ∈ db.ips.rows) :
    (db.insertEndpoint columns).onServer serverId ip = db.onServer serverId ip := by
  by_cases present : ∃ server ∈ db.servers.rows, server.id = columns.serverId
  · by_cases own : columns.serverId = serverId
    · subst own
      obtain ⟨endpoint, known, same⟩ := db.ip_endpoint ip stored
      have below := db.endpoints.serial endpoint known
      have other : db.endpoints.next ≠ ip.data.networkEndpointId := by omega
      rw [Cmdb.onServer, db.endpointsOf_insertEndpoint columns present, List.any_append,
        Cmdb.onServer]
      simp [other]
    · rw [Cmdb.onServer, db.endpointsOf_insertEndpoint_other columns serverId own, Cmdb.onServer]
  · rw [Cmdb.insertEndpoint, dif_neg present]

/-- A new endpoint brings no IPs, so the types of every server stay as they
were. -/
theorem ipTypes_insertEndpoint (db : Cmdb) (columns : Endpoint) (serverId : Nat) :
    (db.insertEndpoint columns).ipTypes serverId = db.ipTypes serverId := by
  rw [Cmdb.ipTypes, Cmdb.ipTypes, db.insertEndpoint_ips]
  congr 1
  apply List.filter_congr
  exact fun ip stored => onServer_insertEndpoint db columns serverId ip stored

/-- Every call but the insert of an IP leaves a server a part of its types. -/
theorem ipTypes_effect (db : Cmdb) (op : CmdbOp) (other : op.insertsIp = false)
    (serverId : Nat) : ((db.effect op).ipTypes serverId).Sublist (db.ipTypes serverId) := by
  cases op with
  | ipInsertOne columns => cases other
  | endpointInsertOne columns =>
    rw [Cmdb.effect, ipTypes_insertEndpoint]
  | endpointUpdate id updates =>
    apply ipTypes_sublist
    · exact .refl _
    · intro ip _ hangs
      rw [Cmdb.effect, onServer_updateEndpoint] at hangs
      exact hangs
  | serverDelete id =>
    exact ipTypes_sublist List.filter_sublist fun _ _ => onServer_fewer List.filter_sublist
  | endpointDeleteWithoutIps uuid =>
    exact ipTypes_sublist (.refl _) fun _ _ => onServer_fewer List.filter_sublist
  | ipDelete address uuid =>
    exact ipTypes_sublist List.filter_sublist fun _ _ hangs => hangs
  | _ => exact .refl _

/-- One call that inserts no IP leaves the types of each server as they were or
shortens the list, whatever its outcome. A failed call either took effect or did
not, and the store before satisfies both. -/
theorem ipTypes_next (world : World) (op : CmdbOp) (other : op.insertsIp = false)
    (outcome : Outcome) (serverId : Nat) :
    ((world.next op outcome).db.ipTypes serverId).Sublist (world.db.ipTypes serverId) := by
  rw [World.next_db]
  rcases world.db.answer_db op outcome with same | took
  · rw [same]
  · rw [took]
    exact ipTypes_effect world.db op other serverId

/-- An IP inserted on a stored endpoint adds its type to that endpoint's server,
at the end of the list, and to no other server. -/
theorem ipTypes_insertIp (db : Cmdb) (columns : Ip) {endpoint : Row Endpoint}
    (stored : endpoint ∈ db.endpoints.rows) (hangs : endpoint.id = columns.networkEndpointId)
    (serverId : Nat) :
    (db.insertIp columns).ipTypes serverId =
      db.ipTypes serverId ++ if endpoint.data.serverId = serverId then [columns.type] else [] := by
  have onServer : db.onServer serverId ⟨db.ips.next, columns⟩ =
      decide (endpoint.data.serverId = serverId) := by
    rw [Bool.eq_iff_iff, Cmdb.onServer, List.any_eq_true, decide_eq_true_eq]
    constructor
    · rintro ⟨other, member, same⟩
      obtain ⟨present, own⟩ := List.mem_filter.mp member
      have one := db.endpoints.row_unique stored present
        (hangs.trans (of_decide_eq_true same).symm)
      rw [one]
      exact of_decide_eq_true own
    · intro own
      exact ⟨endpoint, List.mem_filter.mpr ⟨stored, decide_eq_true own⟩, decide_eq_true hangs⟩
  have unmoved : (db.insertIp columns).onServer serverId = db.onServer serverId := by
    funext ip
    rw [Cmdb.onServer, Cmdb.endpointsOf, db.insertIp_endpoints]
    rfl
  rw [Cmdb.ipTypes, unmoved, Cmdb.insertIp, dif_pos ⟨endpoint, stored, hangs⟩]
  simp only [Table.insert, List.filter_append, List.map_append]
  congr 1
  by_cases own : endpoint.data.serverId = serverId
  · rw [if_pos own, List.filter_singleton, onServer, decide_eq_true own]
    rfl
  · rw [if_neg own, List.filter_singleton, onServer, decide_eq_false own]
    rfl

namespace OneOfEach

variable {db : Cmdb}

/-- The bound survives any change that only shortens the lists of types. -/
theorem fewer {before after : Cmdb} (bounded : OneOfEach before)
    (fewer : ∀ serverId, (after.ipTypes serverId).Sublist (before.ipTypes serverId)) :
    OneOfEach after := by
  intro serverId type single
  have least := (fewer serverId).count_le (some type)
  have most := bounded serverId type single
  omega

/-- The bound survives every call that inserts no IP, under every outcome. -/
theorem next {world : World} (bounded : OneOfEach world.db) (op : CmdbOp)
    (other : op.insertsIp = false) (outcome : Outcome) :
    OneOfEach (world.next op outcome).db :=
  bounded.fewer (ipTypes_next world op other outcome)

/-- The bound survives the insert of an IP whose type, if it is one of the
bounded two, is new on its server. -/
theorem insertIp (bounded : OneOfEach db) (columns : Ip) {endpoint : Row Endpoint}
    (stored : endpoint ∈ db.endpoints.rows) (hangs : endpoint.id = columns.networkEndpointId)
    (new : ∀ type ∈ ["be", "fe"], columns.type = some type →
      some type ∉ db.ipTypes endpoint.data.serverId) : OneOfEach (db.insertIp columns) := by
  intro serverId type single
  have before := bounded serverId type single
  rw [ipTypes_insertIp db columns stored hangs]
  by_cases own : endpoint.data.serverId = serverId
  · rw [if_pos own, List.count_append]
    by_cases typed : columns.type = some type
    · have none := List.count_eq_zero.mpr (own ▸ new type single typed)
      rw [none, typed, List.count_singleton_self]
    · rw [List.count_singleton, beq_eq_false_iff_ne.mpr typed]
      simpa using before
  · rw [if_neg own, List.append_nil]
    exact before

end OneOfEach

/-- A type that may be there only once is one that is not used yet. -/
theorem resolveIpType_new {prefixType : Option String} {used : List (Option String)}
    {type : String} (single : type ∈ ["be", "fe"])
    (resolved : resolveIpType prefixType used = type) :
    prefixType = some type ∧ some type ∉ used := by
  have notInt : ("int" : String) ≠ type := by
    rintro rfl
    exact absurd single (by decide)
  cases prefixType with
  | none => exact absurd resolved notInt
  | some own =>
    simp only [resolveIpType] at resolved
    split at resolved
    · rename_i free
      subst resolved
      rw [Bool.and_eq_true, Bool.not_eq_true', decide_eq_false_iff_not] at free
      exact ⟨rfl, free.2⟩
    · exact absurd resolved notInt

/-! ## Failures -/

/-- Any call may fail by transport, and a write may also be rejected. -/
def writeFaults : Faults := fun op outcome =>
  match outcome with
  | .ok => True
  | .fail error landed => error.isTransport = true ∨ (op.writes = true ∧ landed = false)

/-- The failures of writes are among all failures. -/
theorem writeFaults_any (op : CmdbOp) (outcome : Outcome) (permitted : writeFaults op outcome) :
    anyFaults op outcome := by
  cases outcome with
  | ok => trivial
  | fail error landed =>
    rcases permitted with transport | ⟨_, silent⟩
    · exact Or.inl transport
    · exact Or.inr silent

/-- A call that only reads fails by transport alone under these failures, so its
rejection never has to be considered. -/
theorem writeFaults_lossy {op : CmdbOp} (reads : op.writes = false) (outcome : Outcome)
    (permitted : writeFaults op outcome) : transportFaults op outcome := by
  cases outcome with
  | ok => trivial
  | fail error landed =>
    rcases permitted with transport | ⟨writes, _⟩
    · exact transport
    · rw [reads] at writes
      cases writes

/-! ## Attach -/

/-- The invariant of every state of a run: the store of the world bounds the
addresses of each type. The log and the script of the world play no part in it. -/
def Bounded (world : World) : Prop := OneOfEach world.db

section Attach

variable {permits : Faults} {handler : InstanceHandler} {state : FieldErrors} {world : World}
  {request : AttachRequest} {server : ServerView}

/-- Reading calls keep the invariant, for they leave the store alone. -/
theorem Bounded.reads {after : World} (bounded : Bounded world) (reads : world.Reads after) :
    Bounded after := by
  rw [Bounded, reads.db]
  exact bounded

/-- Any part of an action that inserts no IP keeps the invariant, wherever it
stops. The footprint supplies the calls and the step lemma above each of them. -/
theorem bounded_ensures {α : Type} {action : Run α}
    (only : action.Only (calls fun op => op.insertsIp = false)) (bounded : Bounded world) :
    action.Ensures (faulty permits) Bounded (fun _ _ after => Bounded after) state world := by
  apply calls_ensures only Bounded ?_ (fun _ held => held) bounded
  intro before held op other outcome permitted
  exact OneOfEach.next held op other outcome

/-- What an attach has read of its server holds until it inserts the IP. -/
structure Surveyed (request : AttachRequest) (server : ServerView) (world : World) : Prop where
  bounded : Bounded world
  host : ∃ row ∈ world.db.servers.rows, row.id = server.id ∧ hasUuid row request.hostUuid = true
  stored : ∀ view ∈ server.endpoints,
    ∃ endpoint ∈ world.db.endpointsOf server.id, endpoint.id = view.id
  read : ∀ type ∈ world.db.ipTypes server.id, type ∈ usedIpTypes server

/-- The view of a server, read under its uuid, surveys it: every type it has is
among the types of the view. Here the view and the store are still the same. -/
theorem surveyed_view (bounded : Bounded world) {row : Row Columns}
    (stored : row ∈ world.db.servers.rows) (own : hasUuid row request.hostUuid = true) :
    Surveyed request (world.db.serverView row) world := by
  refine ⟨bounded, ⟨row, stored, rfl, own⟩, ?_, ?_⟩
  · intro view member
    obtain ⟨endpoint, hangs, rfl⟩ := List.mem_map.mp member
    exact ⟨endpoint, hangs, rfl⟩
  · intro type member
    obtain ⟨ip, present, endpoint, hangs, same, rfl⟩ := (world.db.mem_ipTypes _ _).mp member
    have nested : ip ∈ world.db.ipsOf endpoint.id :=
      List.mem_filter.mpr ⟨present, decide_eq_true same.symm⟩
    apply List.mem_flatMap.mpr
    exact ⟨_, List.mem_map_of_mem hangs, List.mem_map_of_mem (List.mem_map_of_mem nested)⟩

/-- A survey stays true across reading calls. -/
theorem Surveyed.reads {after : World} (surveyed : Surveyed request server world)
    (reads : world.Reads after) : Surveyed request server after := by
  have bounded := surveyed.bounded.reads reads
  refine ⟨bounded, ?_, ?_, ?_⟩
  · rw [reads.db]
    exact surveyed.host
  · rw [reads.db]
    exact surveyed.stored
  · rw [reads.db]
    exact surveyed.read

/-- Up to then no call of the attach takes an endpoint or a server away. -/
theorem Surveyed.next (surveyed : Surveyed request server world) (op : CmdbOp)
    (attach : op.ofAttach = true) (other : op.insertsIp = false) (outcome : Outcome) :
    Surveyed request server (world.next op outcome) := by
  have fewer := ipTypes_next world op other outcome
  have bounded := OneOfEach.next surveyed.bounded op other outcome
  have servers : (world.next op outcome).db.servers = world.db.servers := by
    rw [World.next_db]
    rcases world.db.answer_db op outcome with same | took
    · rw [same]
    · rw [took]
      cases op with
      | endpointInsertOne columns => exact world.db.insertEndpoint_servers columns
      | _ => first | rfl | (cases attach; done) | cases other
  have endpoints : ∀ endpoint ∈ world.db.endpointsOf server.id,
      ∃ kept ∈ (world.next op outcome).db.endpointsOf server.id, kept.id = endpoint.id := by
    intro endpoint hangs
    rw [World.next_db]
    rcases world.db.answer_db op outcome with same | took
    · rw [same]
      exact ⟨endpoint, hangs, rfl⟩
    · rw [took]
      cases op with
      | endpointInsertOne columns =>
        refine ⟨endpoint, ?_, rfl⟩
        obtain ⟨present, own⟩ := List.mem_filter.mp hangs
        refine List.mem_filter.mpr ⟨?_, own⟩
        rw [Cmdb.effect, Cmdb.insertEndpoint]
        split
        · exact (world.db.endpoints.mem_insert _ _).mpr (Or.inl present)
        · exact present
      | endpointUpdate id updates =>
        rw [Cmdb.effect, world.db.endpointsOf_updateEndpoint]
        refine ⟨_, List.mem_map_of_mem hangs, ?_⟩
        split <;> rfl
      | _ => first | exact ⟨endpoint, hangs, rfl⟩ | (cases attach; done) | cases other
  refine ⟨bounded, ?_, ?_, ?_⟩
  · rw [servers]
    exact surveyed.host
  · intro view member
    obtain ⟨endpoint, hangs, same⟩ := surveyed.stored view member
    obtain ⟨kept, still, unmoved⟩ := endpoints endpoint hangs
    exact ⟨kept, still, unmoved.trans same⟩
  · intro type member
    exact surveyed.read type ((fewer server.id).subset member)

/-- The calls of an attach up to the insert of its IP. -/
theorem surveyed_ensures {α : Type} {action : Run α}
    (only : action.Only (calls fun op => op.ofAttach = true ∧ op.insertsIp = false))
    (surveyed : Surveyed request server world) :
    action.Ensures (faulty permits) Bounded (fun _ _ after => Surveyed request server after) state
      world := by
  apply calls_ensures only (Surveyed request server) ?_ (fun _ held => held.bounded) surveyed
  intro before held op calls outcome _
  exact held.next op calls.1 calls.2 outcome

/-- How the choice of an endpoint leaves the attach: the survey still holds, and
an endpoint that was picked is stored on the server. -/
def pickedExit (request : AttachRequest) (server : ServerView) (result : Except Exn (Option Nat))
    (_ : FieldErrors) (after : World) : Prop :=
  Surveyed request server after ∧ ∀ id, result = .ok (some id) →
    ∃ endpoint ∈ after.db.endpointsOf server.id, endpoint.id = id

/-- How the insert of an endpoint leaves the attach: the survey still holds, and
an endpoint it made, not one it found, is stored on the server. An endpoint that
was found already carries the address, and nothing is inserted on it. -/
def madeExit (request : AttachRequest) (server : ServerView)
    (result : Except Exn (Option (EndpointRef × Bool))) (_ : FieldErrors) (after : World) : Prop :=
  Surveyed request server after ∧ ∀ row, result = .ok (some (row, false)) →
    ∃ endpoint ∈ after.db.endpointsOf server.id, endpoint.id = row.id

/-- One attempt to insert the endpoint, whatever its outcome, leaves the attach
as the exit says. A new endpoint has no IPs, hence the survey survives it. -/
theorem endpointInsert_made (options : CallOptions) (surveyed : Surveyed request server world) :
    (cmdb (.endpointInsertOne (attachColumns request server)) >>= fun endpoint =>
        pure (endpoint, false) : Run (EndpointRef × Bool)).Ensures (faulty permits) Bounded
      (handler.opExit options (madeExit request server) (Surveyed request server) state)
      state world := by
  rw [Action.ensures_bind]
  apply cmdb_ensures
  intro outcome _
  have after := surveyed.next (.endpointInsertOne (attachColumns request server)) rfl rfl outcome
  refine ⟨after.bounded, ?_⟩
  obtain ⟨row, stored, own, _⟩ := surveyed.host
  have present : ∃ row ∈ world.db.servers.rows,
      row.id = (attachColumns request server).serverId := ⟨row, stored, own⟩
  cases outcome with
  | ok =>
    simp only [Cmdb.answer, admits_endpoint present, if_true, Except.mapError]
    refine ⟨rfl, after, ?_⟩
    rintro _ ⟨⟩
    have hangs := world.db.insertEndpoint_hangs (attachColumns request server) stored own.symm
    rw [own] at hangs
    exact ⟨_, hangs, rfl⟩
  | fail error landed =>
    refine ⟨rfl, replyExit_failure ?_⟩
    simp only [replyExit]
    split
    · exact ⟨after, after, by simp⟩
    · refine ⟨after, ?_⟩
      split <;> simp

/-- The selector after a lost insert only reads. What it returns as made was
found on the server under the name tried, and an IP it finds is reported as
found. -/
theorem attachEndpointSelector_made (name : String) (surveyed : Surveyed request server world) :
    (handler.attachEndpointSelector request.ipAddr request.hostUuid server.id name).Ensures
      (faulty permits) Bounded
      (selectorExit (madeExit request server) (Surveyed request server) (Surveyed request server)
        state) state world := by
  rw [attachEndpointSelector]
  have looks : (handler.findAttachedIp request.ipAddr request.hostUuid).Ensures (faulty permits)
      Bounded (fun _ final after => final = state ∧ world.Reads after) state world :=
    findAttachedIp_reads _ _ fun after reads => surveyed.bounded.reads reads
  refine looks.bind ?_ ?_
  · rintro existing final after ⟨rfl, reads⟩
    have held := surveyed.reads reads
    cases existing with
    | some row => exact ⟨rfl, held, by simp⟩
    | none =>
      refine (probe_ensures rfl (Surveyed request server) ?_).bind ?_ ?_
      · intro outcome _
        have further := held.next (.endpointSelectOne server.id (.name name)) rfl rfl outcome
        exact ⟨further.bounded, further⟩
      · rintro found last later ⟨rfl, same, known, answer⟩
        refine ⟨rfl, ?_⟩
        cases found with
        | none => exact known
        | some endpoint =>
          refine ⟨known, ?_⟩
          rintro _ ⟨⟩
          simp only at answer
          rw [same]
          exact probe_found answer.symm
      · rintro exc last later ⟨rfl, -, known, -⟩
        exact ⟨rfl, known, known, by simp⟩
  · rintro exc final after ⟨rfl, reads⟩
    have held := surveyed.reads reads
    exact ⟨rfl, held, held, by simp⟩

/-- Choosing an endpoint for an attach keeps the survey and ends with an
endpoint of the server. By cases: one of the view is taken over, or a new one is
inserted. -/
theorem attachEndpoint_chosen (surveyed : Surveyed request server world) :
    (handler.attachEndpoint request server).Ensures (faulty permits) Bounded
      (pickedExit request server) state world := by
  rw [attachEndpoint]
  cases chosen : chooseEndpoint request.mac server.endpoints with
  | some view =>
    refine (surveyed_ensures (reuseEndpoint_only ⟨rfl, rfl⟩) surveyed).bind ?_
      fun _ _ _ held => ⟨held, by simp⟩
    intro _ final after held
    refine ⟨held, ?_⟩
    rintro _ ⟨⟩
    exact held.stored view (chooseEndpoint_mem chosen)
  | none =>
    have made : (handler.insertAttachEndpoint request server).Ensures (faulty permits) Bounded
        (madeExit request server) state world := by
      rw [insertAttachEndpoint]
      apply cmdbCall_ensures (Surveyed request server) (Surveyed request server) surveyed
      · exact fun _ held => endpointInsert_made _ held
      · rintro _ ⟨⟩ current held
        exact attachEndpointSelector_made _ held
      · exact fun _ _ held => held
    refine made.bind ?_ fun _ _ _ held => ⟨held.1, by simp⟩
    rintro inserted final after ⟨held, hangs⟩
    cases inserted with
    | none => exact ⟨held, by simp⟩
    | some found =>
      obtain ⟨row, recovered⟩ := found
      cases recovered with
      | true => exact ⟨held, by simp⟩
      | false =>
        refine ⟨held, ?_⟩
        rintro _ ⟨⟩
        exact hangs row rfl

/-- The IP goes in at most once, under a type that is new on the server. -/
theorem insertAttachIp_bounded (within : ∀ op outcome, permits op outcome → writeFaults op outcome)
    (surveyed : Surveyed request server world) (netPrefix : Option NetworkPrefix)
    {endpoint : Row Endpoint} (hangs : endpoint ∈ world.db.endpointsOf server.id) :
    (handler.insertAttachIp request server netPrefix endpoint.id).Ensures (faulty permits) Bounded
      (fun _ _ after => Bounded after) state world := by
  obtain ⟨stored, own⟩ := List.mem_filter.mp hangs
  have onServer : endpoint.data.serverId = server.id := of_decide_eq_true own
  obtain ⟨host, present, same, found⟩ := surveyed.host
  generalize shape : attachIpColumns request server netPrefix endpoint.id = columns
  have address : columns.ip = request.ipAddr := by rw [← shape]; rfl
  have named : endpoint.id = columns.networkEndpointId := by rw [← shape]; rfl
  have inserted : OneOfEach (world.db.insertIp columns) := by
    apply OneOfEach.insertIp surveyed.bounded columns stored named
    intro type single typed
    rw [← shape] at typed
    obtain ⟨row, -, resolved⟩ := Option.map_eq_some_iff.mp typed
    rw [onServer]
    exact fun used => (resolveIpType_new single resolved).2 (surveyed.read _ used)
  have attached : (world.db.insertIp columns).attached request.ipAddr request.hostUuid ≠ [] := by
    have onHost : world.db.endpointOnHost request.hostUuid endpoint = true :=
      List.any_eq_true.mpr ⟨host, present, by simp [same, onServer, found]⟩
    have added := world.db.attached_insertIp_new columns request.hostUuid
      ⟨endpoint, stored, named, onHost⟩
    rw [address] at added
    rw [added]
    simp
  have bounded : ∀ current : World,
      (current.db = world.db ∨ current.db = world.db.insertIp columns) → Bounded current := by
    rintro current (unchanged | took)
    · rw [Bounded, unchanged]
      exact surveyed.bounded
    · rw [Bounded, took]
      exact inserted
  rw [insertAttachIp, shape]
  have called : (handler.cmdbCall
      { field := "ip.insert", raiseOnDataError := true, subject := some columns.subject }
      (cmdb (.ipInsertOne columns))
      (some (handler.attachIpSelector request.ipAddr request.hostUuid))).Ensures (faulty permits)
      Bounded (fun _ _ after => Bounded after) state world := by
    apply call_ensures (fun current => current.db = world.db)
      (fun current => current.db = world.db ∨ current.db = world.db.insertIp columns) rfl
    · intro current unchanged outcome _
      have after : (current.next (.ipInsertOne columns) outcome).db = world.db ∨
          (current.next (.ipInsertOne columns) outcome).db = world.db.insertIp columns := by
        rw [World.next_db, ← unchanged]
        exact current.db.answer_db _ outcome
      refine ⟨bounded _ after, ?_⟩
      cases (current.db.answer (.ipInsertOne columns) outcome).1 with
      | ok row => exact bounded _ after
      | error error =>
        simp only [replyExit]
        split
        · exact ⟨after, bounded _ after⟩
        · exact bounded _ after
    · rintro _ ⟨⟩ current around
      rw [attachIpSelector]
      refine (findAttachedIp_answers handler request.ipAddr request.hostUuid
        (fun outcome permitted => writeFaults_lossy rfl outcome (within _ outcome permitted))
        fun after reads => (bounded current around).reads reads).bind ?_ ?_
      · rintro row final after ⟨rfl, reads, truth⟩
        refine ⟨rfl, ?_⟩
        cases row with
        | some attachedIp => exact (bounded current around).reads reads
        | none =>
          refine reads.db.trans (around.resolve_right fun took => ?_)
          apply attached
          rw [← took]
          exact current.db.lookUp_none _ _ (truth none rfl).symm
      · rintro exc final after ⟨rfl, reads, -⟩
        have again : after.db = world.db ∨ after.db = world.db.insertIp columns := by
          rw [reads.db]
          exact around
        exact ⟨rfl, again, bounded after again⟩
    · intro absent
      cases absent
  exact called.bind (fun _ _ _ held => held) fun _ _ _ held => held

/-- The part of an attach after its view of the server keeps the bound. The type
of its IP is computed from the types of the view, which the survey says are all
there are. -/
theorem attachTo_bounded (within : ∀ op outcome, permits op outcome → writeFaults op outcome)
    (surveyed : Surveyed request server world) :
    (handler.attachTo request server).Ensures (faulty permits) Bounded
      (fun _ _ after => Bounded after) state world := by
  rw [attachTo]
  refine (surveyed_ensures (findAttachedIp_only ⟨rfl, rfl⟩) surveyed).bind ?_
    fun _ _ _ held => held.bounded
  intro existing final after held
  cases existing with
  | some row => exact held.bounded
  | none =>
    refine (surveyed_ensures (attachPrefix_only ⟨rfl, rfl⟩ fun _ => ⟨rfl, rfl⟩) held).bind ?_
      fun _ _ _ held => held.bounded
    intro netPrefix final later held
    refine (attachEndpoint_chosen held).bind ?_ fun _ _ _ exit => exit.1.bounded
    rintro endpointId final last ⟨held, hangs⟩
    cases endpointId with
    | none => exact held.bounded
    | some id =>
      obtain ⟨endpoint, member, rfl⟩ := hangs id rfl
      exact insertAttachIp_bounded within held netPrefix member

/-- An attach keeps the bound in every state, whatever its message holds, when
the failures are those of writes. A payload that does not parse ends before any
call. -/
theorem attachToInstances_bounded (message : Message)
    (within : ∀ op outcome, permits op outcome → writeFaults op outcome)
    (bounded : Bounded world) :
    (handler.attachToInstances message).Ensures (faulty permits) Bounded
      (fun _ _ after => Bounded after) state world := by
  rw [attachToInstances, Action.ensures_bind, Action.ensures_lift]
  cases handler.readAttach message with
  | error exc => exact bounded
  | ok read =>
    cases read with
    | none => exact bounded
    | some request =>
      simp only
      rw [Action.ensures_bind]
      apply readCall_ensures rfl
      · intro current outcome sinceStart _
        exact bounded.reads (sinceStart.trans (next_reads current _ rfl outcome))
      · intro after reads
        simp only [Cmdb.rows, Option.join_some]
        cases found : world.db.servers.rows.find? (fun server =>
            hasUuid server request.hostUuid) with
        | none => exact bounded.reads reads
        | some row =>
          have stored := List.mem_of_find?_eq_some found
          have own : hasUuid row request.hostUuid = true :=
            List.find?_some (p := fun server => hasUuid server request.hostUuid) found
          rw [Option.map_some, ← reads.db]
          rw [← reads.db] at stored
          exact attachTo_bounded within (surveyed_view (bounded.reads reads) stored own)
      · exact fun after error landed reads _ _ => bounded.reads reads
      · exact fun after error landed reads _ _ => bounded.reads reads

end Attach

end InstanceLifecycle
