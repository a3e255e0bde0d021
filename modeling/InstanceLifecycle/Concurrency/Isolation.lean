import InstanceLifecycle.Concurrency.Reach
import InstanceLifecycle.Cmdb.Part

/-!
# Hosts no message names

A message reaches the rows its keys select, and from there the rows it is handed. A host that
none of its keys select is therefore never reached: its row, its endpoints, their IPs and its
rails stay as they are in every interleaving of any number of messages, whatever calls fail.
-/

namespace InstanceLifecycle

open Interaction Store InstanceHandler

namespace Cmdb

variable {db : Cmdb} {hosts : Row Columns → Bool} {own : Nat → Bool} {op : CmdbOp}

/-- A row that hangs on no listed host still hangs on none after a call that is
answered in any way, since the call leaves the listed hosts where they are. -/
theorem Apart.answer {row : RowRef} (apart : db.Apart hosts own row)
    (stable : db.Stable hosts op) (outcome : Outcome) :
    (db.answer op outcome).2.Apart hosts own row :=
  answer_keeps (fun db => db.Apart hosts own row) apart (apart.effect stable) outcome

/-- A confined call leaves the part of the hosts as it is, but for the counters
of ids, which may grow; a failed call changes nothing at all. -/
theorem Confined.answer_raises (confined : db.Confined hosts own op) (outcome : Outcome) :
    (db.part hosts own).Raised ((db.answer op outcome).2.part hosts own) :=
  answer_keeps (fun after => (db.part hosts own).Raised (after.part hosts own)) (.refl _)
    confined.raises outcome

/-- Whatever the reply of a confined call shows hangs on other servers than the
listed ones. A failed or refused call shows nothing. -/
theorem Confined.answer_handed (confined : db.Confined hosts own op)
    (labelled : db.Labelled hosts own) {outcome : Outcome} {row : RowRef}
    (shown : row ∈ Event.handedRows ⟨.cmdb op, (db.answer op outcome).1⟩) :
    (db.answer op outcome).2.Apart hosts own row := by
  cases outcome with
  | fail error landed => cases shown
  | ok =>
    cases admitted : db.admits op with
    | false => simp [Event.handedRows, Cmdb.answer, admitted] at shown
    | true =>
      simp only [Event.handedRows, Cmdb.answer, admitted, if_true] at shown
      exact confined.handed labelled admitted shown

/-- A call that reaches only rows that are apart, by keys that select none of the hosts. -/
theorem confined_of_reaches {keys : List ServerKey} {rows : List RowRef}
    (reaches : op.Reaches keys rows)
    (unselected : ∀ key ∈ keys, ∀ server ∈ db.servers.rows, key.holds server = true →
      hosts server = false)
    (apart : ∀ row ∈ rows, db.Apart hosts own row)
    (inserted : ∀ columns, op = .serverInsertOne columns →
      hosts ⟨db.servers.next, Columns.write (fun _ => .null) columns⟩ = false)
    (stable : db.Stable hosts op) : db.Confined hosts own op :=
  ⟨fun key named => unselected key (reaches.keys named),
    fun row named => apart row (reaches.rows named), reaches.conditioned, inserted, stable⟩

end Cmdb

/-! ## One host -/

/-- The server with this id, as a test of rows. -/
def serverNumbered (id : Nat) (row : Row Columns) : Bool := decide (row.id = id)

/-- The rows of one server: its own, its endpoints, their IPs and its rails. -/
def Cmdb.host (db : Cmdb) (id : Nat) : Cmdb :=
  db.part (serverNumbered id) (fun serverId => decide (serverId = id))

/-- Whether a server is the one with the given id can be told from its id. -/
theorem labelled_serverNumbered (db : Cmdb) (id : Nat) :
    db.Labelled (serverNumbered id) (fun serverId => decide (serverId = id)) :=
  fun _ _ _ _ _ => rfl

/-- No call changes the id of a server, so none changes whether it is the one
with the given id. -/
theorem stable_serverNumbered (db : Cmdb) (id : Nat) (op : CmdbOp) :
    db.Stable (serverNumbered id) op :=
  fun _ _ _ _ _ => rfl

/-- The rows of the host are as they were, and no task was handed one of them. -/
structure Untouched {ι : Type} (db : Cmdb) (id : Nat) (crowd : Crowd ι) : Prop where
  same : Cmdb.SameRows (crowd.db.host id) (db.host id)
  apart : ∀ task, ∀ row ∈ handed (crowd.heard task),
    crowd.db.Apart (serverNumbered id) (fun serverId => decide (serverId = id)) row

namespace Untouched

variable {ι : Type} {db : Cmdb} {server : Row Columns} {before : Crowd ι}

/-- At the start nothing has been called, so the host is untouched and no row of
it has been handed out. -/
theorem start (id : Nat) : Untouched db id (Crowd.start db : Crowd ι) := by
  refine ⟨.refl _, ?_⟩
  rintro task row handed
  cases handed

/-- The server is still stored, and it is the only one with its id. -/
theorem stored (untouched : Untouched db server.id before) (there : server ∈ db.servers.rows) :
    server ∈ before.db.servers.rows := by
  have kept : server ∈ (before.db.servers.keep (serverNumbered server.id)).rows := by
    have rows : (before.db.servers.keep _).rows = (db.servers.keep _).rows := untouched.same.servers
    rw [rows]
    exact (db.servers.mem_keep _ server).mpr ⟨there, decide_eq_true rfl⟩
  exact ((before.db.servers.mem_keep _ server).mp kept).1

/-- A call that reaches no further than its message leads stays away from the host. -/
theorem confined (untouched : Untouched db server.id before) (there : server ∈ db.servers.rows)
    {task : ι} {keys : List ServerKey} (unnamed : ∀ key ∈ keys, key.holds server = false)
    {op : CmdbOp} (reaches : op.Reaches keys (handed (before.heard task))) :
    before.db.Confined (serverNumbered server.id) (fun serverId => decide (serverId = server.id))
      op := by
  have stored := untouched.stored there
  apply Cmdb.confined_of_reaches reaches
  · intro key named other present holds
    rw [serverNumbered, decide_eq_false_iff_not]
    intro same
    rw [before.db.servers.row_unique present stored same, unnamed key named] at holds
    cases holds
  · exact untouched.apart task
  · intro columns _
    rw [serverNumbered, decide_eq_false_iff_not]
    exact (Nat.ne_of_lt (before.db.servers.serial server stored)).symm
  · exact stable_serverNumbered before.db server.id op

variable [DecidableEq ι]

/-- The step lemma: a call of one task, of which the others hear nothing. -/
theorem call (untouched : Untouched db server.id before) (there : server ∈ db.servers.rows)
    {task : ι} {keys : List ServerKey} (unnamed : ∀ key ∈ keys, key.holds server = false)
    {op : CmdbOp} (reaches : op.Reaches keys (handed (before.heard task))) (outcome : Outcome) :
    Untouched db server.id (before.move task ⟨.cmdb op, (before.db.answer op outcome).1⟩
      (before.db.answer op outcome).2) := by
  have confined := untouched.confined there unnamed reaches
  constructor
  · exact (confined.answer_raises outcome).rows.symm.trans untouched.same
  · apply before.forall_heard_move task fun _ heard => ∀ row ∈ handed heard,
      (before.db.answer op outcome).2.Apart _ _ row
    · exact fun other row shown => (untouched.apart other row shown).answer confined.stable outcome
    · intro row shown
      rw [handed_append, List.mem_append] at shown
      rcases shown with old | new
      · exact (untouched.apart task row old).answer confined.stable outcome
      · exact confined.answer_handed (labelled_serverNumbered before.db server.id) new

/-- An event that is no call leaves the host untouched and hands out nothing. -/
theorem recorded (untouched : Untouched db server.id before) (task : ι) {event : Event}
    (noCall : event.isCall = false) :
    Untouched db server.id (before.move task event before.db) := by
  refine ⟨untouched.same, before.forall_heard_move task (fun _ heard => ∀ row ∈ handed heard,
    before.db.Apart _ _ row) event before.db untouched.apart ?_⟩
  intro row shown
  rw [handed_append, handedRows_free noCall, List.append_nil] at shown
  exact untouched.apart task row shown

end Untouched

/-- The run lemma: while no delivery names the host, no task comes near it. What
a step preserves is that the rows of the host are the same and none of them has
been handed to a task; that every call is justified by its keys comes from the
footprints. -/
theorem untouched_run {ι : Type} [DecidableEq ι] {permits : Faults} {worker : MessageHandlerService}
    {deliveries : ι → Delivery} {state : FieldErrors} {db : Cmdb} {server : Row Columns}
    {last : Crowd ι} {rests : ι → Prog service (Except Exn Unit × FieldErrors)}
    (stored : server ∈ db.servers.rows)
    (unnamed : ∀ task, ∀ key ∈ worker.keysOf (deliveries task), key.holds server = false)
    (interleaved : Interleaved (crowding permits) (Crowd.start db)
      (deliveryTasks worker deliveries state) last rests) : Untouched db server.id last := by
  refine (crowd_justified (fun task => reachRule (worker.keysOf (deliveries task)))
    (Untouched db server.id) (fun _ _ _ _ _ step => step) ?_ (.start server.id)
    (fun task => worker.handleMessage_reaches (deliveries task) state db) interleaved).1
  intro task op before reply after untouched step reaches
  revert reaches
  apply crowding_keeps (fun event after =>
    reachRule (worker.keysOf (deliveries task)) (before.heard task) event →
      Untouched db server.id after) ?_ ?_ step
  · exact fun call outcome _ reaches => untouched.call stored (unnamed task) reaches outcome
  · exact fun event noCall _ => untouched.recorded task noCall

/-- In every state of every interleaving of any number of deliveries, under any failures: a
server that no delivery names keeps its columns, its endpoints, their IPs and its rails. -/
theorem unnamed_host_untouched {ι : Type} [DecidableEq ι] (worker : MessageHandlerService)
    (deliveries : ι → Delivery) (state : FieldErrors) (db : Cmdb) (server : Row Columns)
    (stored : server ∈ db.servers.rows)
    (unnamed : ∀ task, ∀ key ∈ worker.keysOf (deliveries task), key.holds server = false)
    (last : Crowd ι) (rests : ι → Prog service (Except Exn Unit × FieldErrors))
    (interleaved : Interleaved (crowding everyFault) (Crowd.start db)
      (deliveryTasks worker deliveries state) last rests) :
    Cmdb.SameRows (last.db.host server.id) (db.host server.id) :=
  (untouched_run stored unnamed interleaved).same

/-- The host `u1` with an address, and next to it the host `u2` with an endpoint. -/
def neighbours : Cmdb :=
  ((AsciiRuntime.occupied "10.0.0.9" "m9").insertServer
    (Dict.ofList [("hostname", .str "dc1-b2"), ("uuid", .str "u2")])).insertEndpoint
      ⟨1, none, some "bond0", none, some "m5"⟩

/-- A second server with another host name and another uuid, of which no message
below names either. -/
def neighbour : Row Columns :=
  ⟨1, Columns.write (fun _ => .null)
    (Dict.ofList [("hostname", .str "dc1-b2"), ("uuid", .str "u2")])⟩

/-- A create, a delete and an attach of `u1`, with lost replies, next to `u2`. -/
theorem unnamed_host_untouched_neighbour :
    Cmdb.SameRows ((play (Crowd.scripted contendedScript) contendedTurns
      (deliveryTasks AsciiRuntime.service contendedDeliveries {}) (Crowd.start neighbours)).2.db.host
        1) (neighbours.host 1) := by
  have stored : neighbour ∈ neighbours.servers.rows := List.mem_cons_of_mem _ List.mem_cons_self
  have unnamed : ∀ task, ∀ key ∈ AsciiRuntime.service.keysOf (contendedDeliveries task),
      key.holds neighbour = false := by
    intro task key named
    have keys : key = .hostname "dc1-b1" ∨ key = .uuid (some "u1") := by
      match task, named with
      | 0, named => exact (List.mem_cons.mp named).imp_right List.mem_singleton.mp
      | 1, named => exact Or.inr (List.mem_singleton.mp named)
      | 2, named => exact Or.inr (List.mem_singleton.mp named)
    rcases keys with rfl | rfl
    · decide
    · decide
  exact unnamed_host_untouched AsciiRuntime.service contendedDeliveries {} neighbours neighbour
    stored unnamed _ _ (play_interleaved
      (scripted_crowding (fun _ => trivial) fun _ _ _ _ => trivial) _ _ _)

end InstanceLifecycle
