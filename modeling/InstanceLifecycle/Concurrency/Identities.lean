import InstanceLifecycle.Concurrency.Marks

/-!
# Where hosts come from

A server is inserted by a create, with the name and the id of its instance, and no update names
these two columns, unless a tag that counts does. So a row keeps its identity as long as it is
stored, and no message but a create brings one into the store.
-/

namespace InstanceLifecycle

open Interaction Store InstanceHandler

/-- An inserted server has an origin, and an updated one keeps its hostname and its uuid. -/
def CmdbOp.Identifies (origin : Value → Value → Prop) : CmdbOp → Prop
  | .serverInsertOne columns =>
      origin (Columns.write (fun _ => .null) columns "hostname")
        (Columns.write (fun _ => .null) columns "uuid")
  | .serverUpdate _ mutation => KeepsKeys mutation
  | _ => True

namespace Cmdb

/-- Every stored server has the hostname and the uuid it had at the start, or an origin. -/
def Identified (db start : Cmdb) (origin : Value → Value → Prop) : Prop :=
  ∀ server ∈ db.servers.rows,
    (∃ old ∈ start.servers.rows, old.id = server.id ∧
      server.data "hostname" = old.data "hostname" ∧ server.data "uuid" = old.data "uuid") ∨
    origin (server.data "hostname") (server.data "uuid")

/-- Each call keeps every server identified: an insert brings the names of a
create, an update leaves the key columns alone, and a delete only removes rows. -/
theorem Identified.effect {db start : Cmdb} {origin : Value → Value → Prop} {op : CmdbOp}
    (identified : db.Identified start origin) (identifies : op.Identifies origin) :
    (db.effect op).Identified start origin := by
  cases op with
  | serverInsertOne columns =>
    intro server stored
    rcases (db.servers.mem_insert _ server).mp stored with old | rfl
    · exact identified server old
    · exact Or.inr identifies
  | serverUpdate allOf mutation =>
    intro server stored
    obtain ⟨old, present, rfl⟩ := (db.servers.mem_rewrite _ _ _).mp stored
    have before := identified old present
    split
    · simp only [old.data.write_of_absent mutation "hostname" identifies.1,
        old.data.write_of_absent mutation "uuid" identifies.2]
      exact before
    · exact before
  | serverDelete id =>
    exact fun server stored => identified server ((db.servers.mem_keep _ server).mp stored).1
  | endpointInsertOne columns =>
    intro server stored
    rw [Cmdb.effect, db.insertEndpoint_servers] at stored
    exact identified server stored
  | ipInsertOne columns =>
    intro server stored
    rw [Cmdb.effect, db.insertIp_servers] at stored
    exact identified server stored
  | _ => exact identified

end Cmdb

end InstanceLifecycle
