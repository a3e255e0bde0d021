import InstanceLifecycle.Attach.ExactlyOnce
import InstanceLifecycle.Attach.Phases

/-!
# The endpoint an attach is working on

Between the choice of its endpoint and the insert of its IP an attach relies on the store:
the server it read is still there, its address is not, and the endpoint it chose or made is
stored. What it calls then succeeds, and it can rely on the store again; what others call
leaves it alone as long as they touch neither its address nor its endpoint.
-/

namespace InstanceLifecycle

open Interaction Store InstanceHandler

/-- This endpoint is stored, on this server. -/
def Cmdb.HostEndpoint (db : Cmdb) (host id : Nat) : Prop :=
  ∃ endpoint ∈ db.endpoints.rows, endpoint.id = id ∧ endpoint.data.serverId = host

/-- An update of any endpoint leaves an endpoint of the host where it is, since
it changes neither ids nor servers. -/
theorem hostEndpoint_update {db : Cmdb} {host id : Nat} (stored : db.HostEndpoint host id)
    (other : Nat) (updates : EndpointUpdate) :
    (db.updateEndpoint other updates).HostEndpoint host id := by
  obtain ⟨endpoint, there, same, hangs⟩ := stored
  refine ⟨_, (db.endpoints.mem_rewrite _ _ _).mpr ⟨endpoint, there, rfl⟩, ?_⟩
  split
  · exact ⟨same, hangs⟩
  · exact ⟨same, hangs⟩

namespace Phase

variable (request : AttachRequest)

/-- The endpoint that is to get the IP, as soon as it is known. -/
def pending : Phase → Option Nat
  | .read server | .clear server =>
      (chooseEndpoint request.mac server.endpoints).map EndpointView.id
  | .chosen _ id => some id
  | _ => none

/-- What an attach in a phase can rely on: the server it read is the host, and until its
address is there, its endpoint is stored. -/
def Holds (host : Nat) (db : Cmdb) (phase : Phase) : Prop :=
  match phase with
  | .idle => True
  | .absent => False
  | .read server => server.id = host ∧
      ∀ id, (Phase.read server).pending request = some id →
        db.attached request.ipAddr request.hostUuid = [] → db.HostEndpoint host id
  | .clear server => server.id = host ∧ db.attached request.ipAddr request.hostUuid = [] ∧
      ∀ id, (Phase.clear server).pending request = some id → db.HostEndpoint host id
  | .chosen server id => server.id = host ∧
      db.attached request.ipAddr request.hostUuid = [] ∧ db.HostEndpoint host id
  | .attached => db.attached request.ipAddr request.hostUuid ≠ []

variable {request}

/-- A call that leaves the address and the endpoint alone leaves the attach alone. -/
theorem Holds.frame {host : Nat} {db after : Cmdb} {phase : Phase}
    (held : phase.Holds request host db)
    (same : after.attached request.ipAddr request.hostUuid =
      db.attached request.ipAddr request.hostUuid)
    (kept : ∀ id, phase.pending request = some id →
      db.attached request.ipAddr request.hostUuid = [] → db.HostEndpoint host id →
        after.HostEndpoint host id) : phase.Holds request host after := by
  cases phase with
  | idle => trivial
  | absent => exact held
  | read server =>
    refine ⟨held.1, fun id known none => ?_⟩
    rw [same] at none
    exact kept id known none (held.2 id known none)
  | clear server =>
    obtain ⟨own, none, stored⟩ := held
    exact ⟨own, same.trans none, fun id known => kept id known none (stored id known)⟩
  | chosen server id =>
    obtain ⟨own, none, stored⟩ := held
    exact ⟨own, same.trans none, kept id rfl none stored⟩
  | attached =>
    rw [Holds, same]
    exact held

/-- The endpoint an IP may be inserted on is the pending one. -/
theorem hangs_pending {phase : Phase} {server : ServerView} {id : Nat}
    (allowed : phase.hangs request server id) :
    phase.pending request = some id ∧ (phase = .chosen server id ∨ phase = .clear server) := by
  rw [hangs] at allowed
  split at allowed
  · rename_i endpoint chosen
    obtain ⟨rfl, rfl | ⟨rfl, -⟩⟩ := allowed
    · exact ⟨rfl, Or.inl rfl⟩
    · exact ⟨by simp [pending, chosen], Or.inr rfl⟩
  · rw [allowed]
    exact ⟨rfl, Or.inl rfl⟩

/-- The endpoint to reuse is one of those that were read. -/
theorem pending_selected {db : Cmdb} {host : Row Columns} {id : Nat}
    (known : (Phase.read (db.serverView host)).pending request = some id) :
    db.HostEndpoint host.id id := by
  obtain ⟨view, chosen, rfl⟩ := Option.map_eq_some_iff.mp known
  obtain ⟨endpoint, there, rfl⟩ := List.mem_map.mp (chooseEndpoint_mem chosen)
  obtain ⟨stored, hangs⟩ := List.mem_filter.mp there
  exact ⟨endpoint, stored, rfl, of_decide_eq_true hangs⟩

/-- The call of an attach that can rely on the store succeeds, and the attach can rely on the
store afterwards. -/
theorem Holds.call {host : Row Columns} {db : Cmdb} {phase : Phase} {op : CmdbOp}
    (held : phase.Holds request host.id db)
    (located : db.servers.rows.find? (fun server => hasUuid server request.hostUuid) = some host)
    (allowed : phase.allows request (fun _ => True) op) :
    db.admits op = true ∧
      (phase.next ⟨.cmdb op, .ok (db.rows op)⟩).Holds request host.id (db.effect op) := by
  have stored := List.mem_of_find?_eq_some located
  cases op with
  | serverSelectOneByUuid uuid =>
    obtain ⟨rfl, rfl⟩ := allowed
    refine ⟨rfl, ?_⟩
    have read : db.rows (.serverSelectOneByUuid request.hostUuid) = some (db.serverView host) := by
      simp [Cmdb.rows, located]
    simp only [next, read]
    exact ⟨rfl, fun id known _ => pending_selected known⟩
  | ipSelectAttached address uuid =>
    obtain ⟨rfl, rfl⟩ := allowed
    refine ⟨rfl, ?_⟩
    cases found : db.rows (.ipSelectAttached request.ipAddr request.hostUuid) with
    | some row =>
      simp only [next]
      exact db.lookUp_some _ _ row found
    | none =>
      have none := db.lookUp_none _ _ found
      simp only [next]
      cases phase with
      | read server => exact ⟨held.1, none, fun id known => held.2 id known none⟩
      | _ => exact held
  | datacenterSelectOne region => exact ⟨rfl, held⟩
  | networkPrefixSelect dcName => exact ⟨rfl, held⟩
  | endpointUpdate id updates =>
    obtain ⟨server, endpoint, rfl, chosen, rfl, rfl⟩ := allowed
    obtain ⟨own, none, kept⟩ := held
    refine ⟨rfl, own, (db.attached_updateEndpoint _ _ _ _).trans none, ?_⟩
    exact hostEndpoint_update (kept _ (by simp [pending, chosen])) _ _
  | endpointInsertOne columns =>
    obtain ⟨server, rfl, unchosen, rfl⟩ := allowed
    obtain ⟨own, none, -⟩ := held
    have present : ∃ row ∈ db.servers.rows, row.id = (attachColumns request server).serverId :=
      ⟨host, stored, own.symm⟩
    refine ⟨admits_endpoint present, own, (db.attached_insertEndpoint _ _ _).trans none, ?_⟩
    exact ⟨_, db.insertEndpoint_stored _ present, rfl, own⟩
  | endpointSelectOne serverId key =>
    obtain ⟨server, rfl, unchosen, rfl, rfl⟩ := allowed
    refine ⟨rfl, ?_⟩
    cases found : db.rows (.endpointSelectOne server.id
        (.name (nextBondName (server.endpoints.map EndpointView.name)))) with
    | none => exact held
    | some row =>
      obtain ⟨endpoint, there, rfl⟩ := Option.map_eq_some_iff.mp found
      have asked := List.find?_some there
      simp only [Bool.and_eq_true, decide_eq_true_eq] at asked
      exact ⟨held.1, held.2.1, endpoint, List.mem_of_find?_eq_some there, rfl,
        asked.1.trans held.1⟩
  | ipInsertOne columns =>
    obtain ⟨server, netPrefix, id, -, hangs, rfl⟩ := allowed
    have placed : db.HostEndpoint host.id id := by
      obtain ⟨known, rfl | rfl⟩ := hangs_pending hangs
      · exact held.2.2
      · exact held.2.2 id known
    obtain ⟨endpoint, there, same, own⟩ := placed
    have onHost : db.endpointOnHost request.hostUuid endpoint = true := by
      refine List.any_eq_true.mpr ⟨host, stored, ?_⟩
      simp [own, List.find?_some located]
    refine ⟨admits_ip ⟨endpoint, there, same⟩, ?_⟩
    have inserted := db.attached_insertIp_new (attachIpColumns request server netPrefix id)
      request.hostUuid ⟨endpoint, there, same, onHost⟩
    have attached : (db.insertIp (attachIpColumns request server netPrefix id)).attached
        request.ipAddr request.hostUuid ≠ [] := by
      intro none
      rw [attachIpColumns] at inserted none
      rw [none] at inserted
      simp at inserted
    exact attached
  | _ => exact allowed.elim

end Phase

/-- A call that a phase of an attach allows changes no server, and attaches or
detaches no other address. By the call: of the two inserts, the one of the IP
has the address of the request. -/
theorem Cmdb.allows_leaves (db : Cmdb) {request : AttachRequest} {phase : Phase} {op : CmdbOp}
    {other : String} (apart : request.ipAddr ≠ other)
    (allowed : phase.allows request (fun _ => True) op) :
    (db.effect op).servers = db.servers ∧
      ∀ uuid, (db.effect op).attached other uuid = db.attached other uuid := by
  cases op with
  | endpointUpdate id updates => exact ⟨rfl, db.attached_updateEndpoint id updates other⟩
  | endpointInsertOne columns =>
    exact ⟨db.insertEndpoint_servers columns, db.attached_insertEndpoint columns other⟩
  | ipInsertOne columns =>
    obtain ⟨server, netPrefix, id, -, -, rfl⟩ := allowed
    refine ⟨db.insertIp_servers _, fun uuid => ?_⟩
    exact db.attached_insertIp_other (attachIpColumns request server netPrefix id) other uuid apart
  | _ => first | exact ⟨rfl, fun _ => rfl⟩ | exact allowed.elim

/-! ## Calls that succeed -/

/-- With its foreign keys in place a call succeeds. -/
theorem answer_admitted {db : Cmdb} {op : CmdbOp} (admitted : db.admits op = true) :
    db.answer op .ok = (.ok (db.rows op), db.effect op) := by
  rw [Cmdb.answer, if_pos admitted]

/-- A call that succeeds leaves no failed call. -/
theorem unfailed_called {before : Shared}
    (unfailed : ∀ side, (before.heard side).any Event.failed = false) (side : Side) {op : CmdbOp}
    (admitted : before.db.admits op = true) (other : Side) :
    ((before.called side op .ok).heard other).any Event.failed = false := by
  by_cases same : other = side
  · subst same
    rw [Shared.called, Shared.heard_move, List.any_append, unfailed other,
      answer_admitted admitted]
    rfl
  · rw [Shared.called, Shared.heard_move_other _ _ _ _ same]
    exact unfailed other

end InstanceLifecycle
