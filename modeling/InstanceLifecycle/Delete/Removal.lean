import InstanceLifecycle.Cmdb.Part
import InstanceLifecycle.Create.Recreation

/-!
# What a removal leaves

The store without the servers of a condition, their endpoints, the IPs of these and their rails.
A removal takes the rails one by one and then their server, so what is left of it while it runs
depends on the servers that are still to go: a rail of one of them may be missing already, and a
server without rails may be gone.
-/

namespace InstanceLifecycle

open Store

namespace Cmdb

variable (db : Cmdb) (keys : List ServerKey)

/-- Does a stored server of the condition have this id? -/
def condemned (serverId : Nat) : Bool := db.ofHosts (fun server => !unmatched keys server) serverId

/-- The store without the servers of the condition and what hangs on them. -/
def remove : Cmdb := db.part (unmatched keys) (fun serverId => !db.condemned keys serverId)

/-- A stored server is condemned exactly if one of the keys matches it. -/
theorem condemned_stored {server : Row Columns} (stored : server ∈ db.servers.rows) :
    db.condemned keys server.id = !unmatched keys server :=
  db.servers.passes_stored _ stored

/-- A stored server of the condition is not among those that stay. -/
theorem ofHosts_of_condemned {serverId : Nat} (doomed : db.condemned keys serverId = true) :
    db.ofHosts (unmatched keys) serverId = false := by
  obtain ⟨server, stored, rfl, matched⟩ := (db.servers.passes_iff _ serverId).mp doomed
  rw [ofHosts, db.servers.passes_stored _ stored]
  simpa using matched

/-- Where no server is matched there is nothing to remove: every endpoint hangs
on a stored server and every IP on a stored endpoint, so none of them is
condemned either. -/
theorem remove_of_unmatched (free : ∀ server ∈ db.servers.rows, unmatched keys server = true) :
    db.remove keys = db := by
  have on : ∀ endpoint ∈ db.endpoints.rows, db.ofHosts (unmatched keys) endpoint.data.serverId = true := by
    intro endpoint stored
    obtain ⟨server, there, same⟩ := db.endpoint_server endpoint stored
    rw [← same, ofHosts, db.servers.passes_stored _ there]
    exact free server there
  have above : ∀ ip ∈ db.ips.rows,
      db.endpointOfHosts (unmatched keys) ip.data.networkEndpointId = true := by
    intro ip stored
    obtain ⟨endpoint, there, same⟩ := db.ip_endpoint ip stored
    rw [← same, db.endpointOfHosts_stored _ there]
    exact on endpoint there
  have none : ∀ serverId, db.condemned keys serverId = false := by
    intro serverId
    rw [condemned, ofHosts, Table.passes_false_iff]
    intro server stored _
    rw [free server stored]
    rfl
  refine eq_of_tables (db.servers.keep_all _ free) (db.endpoints.keep_all _ on)
    (db.ips.keep_all _ above) (db.rails.keep_all _ ?_) rfl
  exact fun rail _ => congrArg not (none rail.data.serverId)

/-- No server that a key matches is left after the removal. -/
theorem remove_unmatched : ∀ server ∈ (db.remove keys).servers.rows, unmatched keys server = true :=
  fun server stored => ((db.servers.mem_keep _ server).mp stored).2

/-- A rail of a server that goes may be gone before. -/
theorem remove_deleteRail {rail : Nat} (doomed : ∀ row ∈ db.rails.rows, row.id = rail →
    db.condemned keys row.data.serverId = true) :
    (db.deleteRail rail).remove keys = db.remove keys := by
  refine eq_of_tables rfl rfl rfl ?_ rfl
  refine db.rails.keep_keep_spared _ _ ?_
  intro row stored dropped
  change (!db.condemned keys row.data.serverId) = false
  rw [doomed row stored (by simpa using dropped)]
  rfl

/-- Deleting a server that is not stored is no call to the store at all. -/
theorem deleteServer_of_absent {id : Nat} (absent : ∀ server ∈ db.servers.rows, server.id ≠ id) :
    db.deleteServer id = db := by
  have spared : ∀ endpoint ∈ db.endpoints.rows, endpoint.data.serverId ≠ id := by
    intro endpoint stored hangs
    obtain ⟨server, there, same⟩ := db.endpoint_server endpoint stored
    exact absent server there (same.trans hangs)
  refine eq_of_tables (db.servers.keep_all _ ?_) (db.endpoints.keep_all _ ?_)
    (db.ips.keep_all _ ?_) rfl rfl
  · exact fun server stored => by simpa using absent server stored
  · exact fun endpoint stored => by simpa using spared endpoint stored
  · intro ip stored
    obtain ⟨endpoint, there, same⟩ := db.ip_endpoint ip stored
    exact List.any_eq_true.mpr ⟨endpoint, there, by simp [same, spared endpoint there]⟩

/-- A server that goes may be gone before, once its rails are. What hangs on it
would have gone with it, and the other rows are told apart by servers that are
still there. -/
theorem remove_deleteServer {id : Nat} (doomed : db.condemned keys id = true)
    (bare : ∀ rail ∈ db.rails.rows, rail.data.serverId ≠ id) :
    (db.deleteServer id).remove keys = db.remove keys := by
  have below : id < db.servers.next := db.servers.passes_below _ doomed
  have confined : db.Confined (unmatched keys) (fun _ => true) (.serverDelete id) := by
    refine ⟨(fun _ none => nomatch none), fun row named => ?_, rfl,
      (fun _ other => nomatch other), (fun _ _ other => nomatch other)⟩
    rw [List.mem_singleton.mp named]
    exact ⟨below, db.ofHosts_of_condemned keys doomed⟩
  have spares := confined.spares
  refine eq_of_tables (Table.eq_of_rows spares.servers rfl) (Table.eq_of_rows spares.endpoints rfl)
    (Table.eq_of_rows spares.ips rfl) ?_ rfl
  apply db.rails.keep_congr
  intro rail stored
  have other : rail.data.serverId ≠ id := bare rail stored
  refine congrArg not ?_
  change (db.servers.keep _).passes _ rail.data.serverId = _
  rw [db.servers.passes_keep_and]
  apply Table.passes_congr
  · intro server there same passed
    rw [Bool.and_eq_true] at passed
    exact ⟨server, there, same, passed.2⟩
  · intro server there same passed
    refine ⟨server, there, same, ?_⟩
    rw [Bool.and_eq_true]
    exact ⟨by simpa [same] using other, passed⟩

/-- A server may be deleted twice. -/
theorem deleteServer_twice (id : Nat) :
    (db.deleteServer id).deleteServer id = db.deleteServer id :=
  (db.deleteServer id).deleteServer_of_absent (deleteServer_absent db id)

/-! ## Two removals -/

/-- A server is matched by no key of two lists if it is matched by none of
either. -/
theorem unmatched_append (more : List ServerKey) (server : Row Columns) :
    unmatched (keys ++ more) server = (unmatched keys server && unmatched more server) := by
  simp [unmatched]

/-- Two removals are one of both conditions. A row is condemned by the second
exactly if it was left by the first and its server is matched by the further
keys. -/
theorem remove_remove (more : List ServerKey) :
    (db.remove keys).remove more = db.remove (keys ++ more) := by
  have kept : unmatched (keys ++ more) =
      fun server => unmatched keys server && unmatched more server :=
    funext (unmatched_append keys more)
  have doomed : ∀ serverId, db.condemned (keys ++ more) serverId =
      (db.condemned keys serverId || (db.remove keys).condemned more serverId) := by
    intro serverId
    rw [condemned, condemned, condemned, remove, ofHosts_part, ofHosts, ofHosts, ofHosts,
      ← db.servers.passes_or]
    refine congrArg (fun test => db.servers.passes test serverId) (funext fun server => ?_)
    rw [unmatched_append]
    cases unmatched keys server <;> rfl
  rw [remove, remove, part_part, remove, kept]
  congr 1
  funext serverId
  rw [doomed, Bool.not_or]
  rfl

end Cmdb

end InstanceLifecycle
