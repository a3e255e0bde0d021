import InstanceLifecycle.Attach.ExactlyOnce
import InstanceLifecycle.Attach.Phases
import InstanceLifecycle.Concurrency.OwnRows
import InstanceLifecycle.Create.BondNames
import Mathlib.Data.List.Induction

/-!
# Two attaches that insert an endpoint

An attach inserts its endpoint under a bond number that the server it read does not use,
and after a lost reply looks the number up again. Until then the other attach can have
taken the number. An endpoint that either of them made keeps the mac it was made with, so
the row under the number is the attach's own exactly if it carries its mac.
-/

namespace InstanceLifecycle

open Interaction Store InstanceHandler

/-- The move stored a new endpoint under this id. A rejected or lost insert did
not. -/
def Move.makes (move : Move) (id : Nat) : Bool :=
  match move.event.op with
  | .cmdb (.endpointInsertOne columns) => decide (id = move.before.endpoints.next ∧
      (⟨id, columns⟩ : Row Endpoint) ∈ move.after.endpoints.rows)
  | _ => false

/-- That is: it was an insert, the id was the next one, and the row is stored
after it. -/
theorem Move.makes_iff (move : Move) (id : Nat) : move.makes id = true ↔
    ∃ columns, move.event.op = .cmdb (.endpointInsertOne columns) ∧
      id = move.before.endpoints.next ∧
        (⟨id, columns⟩ : Row Endpoint) ∈ move.after.endpoints.rows := by
  rw [Move.makes]
  split
  · rename_i columns inserts
    rw [inserts]
    simp
  · rename_i other
    constructor
    · exact fun absurdity => nomatch absurdity
    · rintro ⟨columns, inserts, -⟩
      exact absurd inserts (other columns)

/-- The side stored a new endpoint under this id at some point of the run, even
if it never learned of it. -/
def Shared.Made (shared : Shared) (side : Side) (id : Nat) : Prop :=
  ∃ move ∈ shared.movesOf side, move.makes id = true

/-- One move more makes what it makes, for its own side. -/
theorem made_move {shared : Shared} {side other : Side} {event : Event} {after : Cmdb} {id : Nat} :
    (shared.move side event after).Made other id ↔
      shared.Made other id ∨ other = side ∧ Move.makes ⟨side, event, shared.db, after⟩ id = true := by
  by_cases same : other = side
  · subst same
    simp [Shared.Made, Shared.movesOf_move, or_and_right, exists_or]
  · simp [Shared.Made, Shared.movesOf_move_other shared side event after same, same]

/-- An endpoint after a call: inserted by it, or there before. -/
theorem answer_endpoint {db : Cmdb} {op : CmdbOp} {outcome : Outcome} {endpoint : Row Endpoint}
    (stored : endpoint ∈ (db.answer op outcome).2.endpoints.rows) :
    (∃ columns, op = .endpointInsertOne columns ∧ endpoint = ⟨db.endpoints.next, columns⟩) ∨
      ∃ old ∈ db.endpoints.rows, old.id = endpoint.id ∧ (endpoint = old ∨
        ∃ updates, op = .endpointUpdate old.id updates ∧
          endpoint.data = updates.apply old.data) := by
  rcases db.answer_db op outcome with same | took
  · rw [same] at stored
    exact Or.inr ⟨endpoint, stored, rfl, Or.inl rfl⟩
  · rw [took] at stored
    exact db.effect_endpoint op stored

/-- No call gives an endpoint id back, whatever its outcome. -/
theorem answer_next (db : Cmdb) (op : CmdbOp) (outcome : Outcome) :
    db.endpoints.next ≤ (db.answer op outcome).2.endpoints.next :=
  Cmdb.answer_keeps (fun after => db.endpoints.next ≤ after.endpoints.next) (Nat.le_refl _)
    (db.effect_next op).2 outcome

/-- The re-select of an attach finds no endpoint but one with its mac. -/
def Cmdb.recoversOwn (db : Cmdb) (mac : Option String) : CmdbOp → Bool
  | .endpointSelectOne serverId key =>
      (db.endpoints.rows.find? (fun endpoint =>
        decide (endpoint.data.serverId = serverId) && key.holds endpoint)).all
        (fun endpoint => decide (endpoint.data.mac = mac))
  | _ => true

/-- The condition on the re-select of an attach, for a call of the service on
the shared store. -/
def recoversOwn (mac : Option String) (op : service.Op) (shared : Shared) : Bool :=
  match op with
  | .cmdb call => shared.db.recoversOwn mac call
  | _ => true

/-- All runs, under any failures, in which the re-selects are so. -/
def recovering (requests : Side → AttachRequest) (side : Side) : Env service Shared :=
  (racing everyFault side).meeting
    (fun op shared => recoversOwn (requests side).mac op shared = true)

/-- What is known of the endpoints while two attaches run: an endpoint made by a
side has its mac, and a view that was read agrees with this and lists all that
the host had then. -/
structure EndpointsKnown (requests : Side → AttachRequest) (shared : Shared) : Prop where
  macs : ∀ side id, shared.Made side id → id < shared.db.endpoints.next ∧
    ∀ endpoint ∈ shared.db.endpoints.rows, endpoint.id = id →
      endpoint.data.mac = (requests side).mac
  views : ∀ side server, (attachPhase (shared.heard side)).server = some server →
    ∀ view ∈ server.endpoints, view.id < shared.db.endpoints.next ∧
      ∀ other, shared.Made other view.id → view.mac = (requests other).mac
  listed : ∀ side server, (attachPhase (shared.heard side)).server = some server →
    ∀ endpoint ∈ shared.db.endpoints.rows, endpoint.data.serverId = server.id →
      (∃ view ∈ server.endpoints, view.name = endpoint.data.name) ∨
        ∃ other, shared.Made other endpoint.id
  handed : ∀ side id, HandedEndpoint (shared.heard side) id → shared.Made side id

section Step

variable {requests : Side → AttachRequest} {before : Shared} {side : Side} {op : CmdbOp}
  {outcome : Outcome}

/-- One call more makes an endpoint if it is an insert that took effect. -/
theorem made_called {other : Side} {id : Nat} :
    (before.called side op outcome).Made other id ↔ before.Made other id ∨ other = side ∧
      ∃ columns, op = .endpointInsertOne columns ∧ id = before.db.endpoints.next ∧
        (⟨id, columns⟩ : Row Endpoint) ∈ (before.db.answer op outcome).2.endpoints.rows := by
  rw [Shared.called, made_move, Move.makes_iff]
  simp

/-- A reused endpoint that has a mac keeps it. -/
theorem endpointUpdates_mac {request : AttachRequest} {view : EndpointView}
    (filled : truthy view.mac = true) : (endpointUpdates request view).mac = none := by
  simp [endpointUpdates, filled]

/-- After a call the endpoints made still carry the mac of their side, for an
update never overwrites a mac. -/
theorem EndpointsKnown.macs_called (known : EndpointsKnown requests before)
    (macs : ∀ side, truthy (requests side).mac = true)
    (allowed : (attachPhase (before.heard side)).allows (requests side) (fun _ => True) op)
    {other : Side} {id : Nat} (made : (before.called side op outcome).Made other id) :
    id < (before.db.answer op outcome).2.endpoints.next ∧
      ∀ endpoint ∈ (before.db.answer op outcome).2.endpoints.rows, endpoint.id = id →
        endpoint.data.mac = (requests other).mac := by
  rcases made_called.mp made with old | ⟨rfl, columns, rfl, rfl, new⟩
  · obtain ⟨below, carries⟩ := known.macs other id old
    refine ⟨Nat.lt_of_lt_of_le below (answer_next _ _ _), ?_⟩
    intro endpoint stored same
    rcases answer_endpoint stored with ⟨columns, rfl, rfl⟩ | ⟨row, there, sameId, change⟩
    · exact absurd same (Nat.ne_of_gt below)
    · have mac := carries row there (sameId.trans same)
      rcases change with rfl | ⟨updates, rfl, written⟩
      · exact mac
      · -- The update fills a mac only where the attach saw none.
        obtain ⟨server, view, phase, chosen, named, rfl⟩ := allowed
        have seen : view.mac = (requests other).mac := by
          have works : (attachPhase (before.heard side)).server = some server := by
            rw [phase]
            rfl
          apply (known.views side server works view (chooseEndpoint_mem chosen)).2 other
          rw [← named, sameId, same]
          exact old
        have kept : (endpointUpdates (requests side) view).mac = none :=
          endpointUpdates_mac (seen ▸ macs other)
        rw [written, EndpointUpdate.apply, kept, Option.none_or]
        exact mac
  · refine ⟨Table.serial _ _ new, ?_⟩
    intro endpoint stored same
    obtain ⟨server, phase, unchosen, rfl⟩ := allowed
    rw [Table.row_unique _ stored new same]
    simp [attachColumns, macs other]

/-- What an attach reads of the server is what is stored. -/
theorem selected_server {db : Cmdb} {uuid : Option String} {server : ServerView} {outcome : Outcome}
    (answered : (db.answer (.serverSelectOneByUuid uuid) outcome).1 = .ok (some server)) :
    ∃ row ∈ db.servers.rows, server = db.serverView row := by
  cases outcome with
  | fail error landed => cases answered
  | ok =>
    have found := Except.ok.inj answered
    obtain ⟨row, located, rfl⟩ := Option.map_eq_some_iff.mp found
    exact ⟨row, List.mem_of_find?_eq_some located, rfl⟩

/-- The server of a side after a call is the one it had, or was just read. -/
theorem server_called {other : Side} {server : ServerView}
    (works : (attachPhase ((before.called side op outcome).heard other)).server = some server) :
    (attachPhase (before.heard other)).server = some server ∨
      other = side ∧ (before.db.answer op outcome).2 = before.db ∧
        (∀ id, ¬ ∃ columns, op = .endpointInsertOne columns ∧ id = before.db.endpoints.next) ∧
        ∃ row ∈ before.db.servers.rows, server = before.db.serverView row := by
  by_cases same : other = side
  · subst same
    rw [Shared.called, Shared.heard_move, attachPhase_append] at works
    rcases Phase.next_server _ _ server works with old | ⟨uuid, event⟩
    · exact Or.inl old
    · obtain ⟨ops, replies⟩ := Event.mk.inj event
      cases ops
      have read := before.db.answer_read (.serverSelectOneByUuid uuid) rfl outcome
      exact Or.inr ⟨rfl, read, by simp, selected_server (eq_of_heq replies)⟩
  · rw [Shared.called, Shared.heard_move_other _ _ _ _ same] at works
    exact Or.inl works

/-- After a call the views still agree with it. A view that was just read shows
the store, and the others are as old as before. -/
theorem EndpointsKnown.views_called (known : EndpointsKnown requests before) {other : Side}
    {server : ServerView}
    (works : (attachPhase ((before.called side op outcome).heard other)).server = some server) :
    ∀ view ∈ server.endpoints, view.id < (before.db.answer op outcome).2.endpoints.next ∧
      ∀ maker, (before.called side op outcome).Made maker view.id →
        view.mac = (requests maker).mac := by
  intro view member
  rcases server_called works with old | ⟨rfl, same, noInsert, row, stored, rfl⟩
  · obtain ⟨below, seen⟩ := known.views other server old view member
    refine ⟨Nat.lt_of_lt_of_le below (answer_next _ _ _), ?_⟩
    intro maker made
    rcases made_called.mp made with before | ⟨rfl, columns, rfl, new, -⟩
    · exact seen maker before
    · omega
  · obtain ⟨endpoint, there, rfl⟩ := List.mem_map.mp member
    have present := (List.mem_filter.mp there).1
    rw [same]
    refine ⟨before.db.endpoints.serial endpoint present, ?_⟩
    intro maker made
    rcases made_called.mp made with old | ⟨rfl, columns, insert, new, -⟩
    · exact (known.macs maker _ old).2 endpoint present rfl
    · exact absurd ⟨columns, insert, new⟩ (noInsert _)

/-- After a call an endpoint of the host is in the view by its name, or it was
made meanwhile. -/
theorem EndpointsKnown.listed_called (known : EndpointsKnown requests before) {other : Side}
    {server : ServerView}
    (works : (attachPhase ((before.called side op outcome).heard other)).server = some server) :
    ∀ endpoint ∈ (before.db.answer op outcome).2.endpoints.rows,
      endpoint.data.serverId = server.id →
        (∃ view ∈ server.endpoints, view.name = endpoint.data.name) ∨
          ∃ maker, (before.called side op outcome).Made maker endpoint.id := by
  intro endpoint stored hangs
  rcases server_called works with old | ⟨rfl, same, -, row, -, rfl⟩
  · rcases answer_endpoint stored with ⟨columns, insert, rfl⟩ | ⟨row, there, sameId, change⟩
    · exact Or.inr ⟨side, made_called.mpr (Or.inr ⟨rfl, columns, insert, rfl, stored⟩)⟩
    · have columns : row.data.serverId = endpoint.data.serverId ∧
          row.data.name = endpoint.data.name := by
        rcases change with rfl | ⟨updates, -, written⟩
        · exact ⟨rfl, rfl⟩
        · rw [written]
          exact ⟨rfl, rfl⟩
      rcases known.listed other server old row there (columns.1.trans hangs) with
        ⟨view, member, named⟩ | ⟨maker, made⟩
      · exact Or.inl ⟨view, member, named.trans columns.2⟩
      · exact Or.inr ⟨maker, made_called.mpr (Or.inl (sameId ▸ made))⟩
  · rw [same] at stored
    refine Or.inl ⟨before.db.endpointView endpoint, List.mem_map_of_mem ?_, rfl⟩
    exact List.mem_filter.mpr ⟨stored, decide_eq_true hangs⟩

/-- The row under the number is one of the two new ones, and its mac tells which. -/
theorem EndpointsKnown.handed_called (known : EndpointsKnown requests before)
    (apart : (requests .left).mac ≠ (requests .right).mac)
    (allowed : (attachPhase (before.heard side)).allows (requests side) (fun _ => True) op)
    (recovers : before.db.recoversOwn (requests side).mac op = true) {id : Nat}
    (hands : Event.handsEndpoint ⟨.cmdb op, (before.db.answer op outcome).1⟩ id) :
    (before.called side op outcome).Made side id := by
  have distinct : ∀ {one other : Side},
      (requests one).mac = (requests other).mac → one = other := by
    intro one other same
    cases one <;> cases other <;> first | rfl | exact absurd same apart | exact absurd same.symm apart
  rcases hands with ⟨columns, name, handed⟩ | ⟨serverId, key, name, handed⟩
  · obtain ⟨ops, replies⟩ := Event.mk.inj handed
    cases ops
    obtain ⟨admitted, rfl, took⟩ := inserted_endpoint (eq_of_heq replies)
    refine made_called.mpr (Or.inr ⟨rfl, columns, rfl, rfl, ?_⟩)
    rw [took]
    exact before.db.insertEndpoint_stored columns admitted
  · obtain ⟨ops, replies⟩ := Event.mk.inj handed
    cases ops
    have answered := eq_of_heq replies
    cases outcome with
    | fail error landed => cases answered
    | ok =>
      have found := Except.ok.inj answered
      obtain ⟨endpoint, located, shown⟩ := Option.map_eq_some_iff.mp found
      have same : endpoint.id = id := congrArg EndpointRef.id shown
      have there := List.mem_of_find?_eq_some located
      have asked := List.find?_some located
      simp only [Bool.and_eq_true, decide_eq_true_eq] at asked
      obtain ⟨server, phase, unchosen, rfl, rfl⟩ := allowed
      have works : (attachPhase (before.heard side)).server = some server := by
        rw [phase]
        rfl
      have named : endpoint.data.name =
          some (nextBondName (server.endpoints.map EndpointView.name)) :=
        of_decide_eq_true asked.2
      rcases known.listed side server works endpoint there asked.1 with
        ⟨view, member, listed⟩ | ⟨maker, made⟩
      · -- The number is free on the server that was read.
        have taken := List.mem_map_of_mem (f := EndpointView.name) member
        rw [listed, named] at taken
        exact absurd taken (nextBondName_fresh _)
      · have own : endpoint.data.mac = (requests side).mac := by
          rw [Cmdb.recoversOwn, located] at recovers
          exact of_decide_eq_true recovers
        have mac := (known.macs maker _ made).2 endpoint there rfl
        rw [← distinct (mac.symm.trans own), ← same]
        exact made_called.mpr (Or.inl made)

/-- The step lemma for a call. The condition on the re-select enters for the
endpoint that is handed over by it. -/
theorem EndpointsKnown.call (known : EndpointsKnown requests before)
    (macs : ∀ side, truthy (requests side).mac = true)
    (apart : (requests .left).mac ≠ (requests .right).mac)
    (allowed : (attachPhase (before.heard side)).allows (requests side) (fun _ => True) op)
    (recovers : before.db.recoversOwn (requests side).mac op = true) :
    EndpointsKnown requests (before.called side op outcome) := by
  refine ⟨fun _ _ made => known.macs_called macs allowed made,
    fun _ _ works => known.views_called works, fun _ _ works => known.listed_called works, ?_⟩
  intro other id handed
  by_cases same : other = side
  · subst same
    rw [Shared.called, Shared.heard_move, handedEndpoint_append] at handed
    rcases handed with old | new
    · exact made_called.mpr (Or.inl (known.handed other id old))
    · exact known.handed_called apart allowed recovers new
  · rw [Shared.called, Shared.heard_move_other _ _ _ _ same] at handed
    exact made_called.mpr (Or.inl (known.handed other id handed))

end Step

section Recorded

variable {requests : Side → AttachRequest} {before after : Shared} {side : Side}

/-- An event that is no call leaves the server the attach works on, or starts anew. -/
theorem EndpointsKnown.recorded (known : EndpointsKnown requests before) {event : Event}
    (noCall : event.isCall = false) : EndpointsKnown requests (before.move side event before.db) := by
  have made : ∀ {other id}, (before.move side event before.db).Made other id ↔
      before.Made other id := by
    intro other id
    rw [made_move, Move.makes_iff]
    constructor
    · rintro (old | ⟨-, columns, insert, -⟩)
      · exact old
      · simp only at insert
        rw [Event.isCall, insert] at noCall
        cases noCall
    · exact Or.inl
  have works : ∀ {other server},
      (attachPhase ((before.move side event before.db).heard other)).server = some server →
        (attachPhase (before.heard other)).server = some server := by
    intro other server now
    by_cases same : other = side
    · subst same
      rw [Shared.heard_move, attachPhase_append] at now
      rcases Phase.next_server _ _ server now with old | ⟨uuid, rfl⟩
      · exact old
      · cases noCall
    · rw [Shared.heard_move_other _ _ _ _ same] at now
      exact now
  refine ⟨fun other id new => known.macs other id (made.mp new), ?_, ?_, ?_⟩
  · intro other server now view member
    obtain ⟨below, seen⟩ := known.views other server (works now) view member
    exact ⟨below, fun maker new => seen maker (made.mp new)⟩
  · intro other server now endpoint stored hangs
    rcases known.listed other server (works now) endpoint stored hangs with view | ⟨maker, old⟩
    · exact Or.inl view
    · exact Or.inr ⟨maker, made.mpr old⟩
  · intro other id handed
    by_cases same : other = side
    · subst same
      rw [Shared.heard_move, handedEndpoint_append] at handed
      rcases handed with old | ⟨columns, name, rfl⟩ | ⟨serverId, key, name, rfl⟩
      · exact made.mpr (known.handed other id old)
      · cases noCall
      · cases noCall
    · rw [Shared.heard_move_other _ _ _ _ same] at handed
      exact made.mpr (known.handed other id handed)

/-- The step lemma for an event of either side: a call keeps what is known of
both sides' endpoints if it recovers its own and follows the phases, and any
other event changes no store. -/
theorem EndpointsKnown.step (known : EndpointsKnown requests before)
    (macs : ∀ side, truthy (requests side).mac = true)
    (apart : (requests .left).mac ≠ (requests .right).mac) {op : ServiceOp} {reply : op.Reply}
    (step : recovering requests side op before reply after)
    (followed : Justified (attachRule (fun _ => True) (requests side)) (after.heard side)) :
    EndpointsKnown requests after := by
  obtain ⟨recovers, moved⟩ := step
  revert followed
  apply racing_keeps (fun _ after => Justified (attachRule (fun _ => True) (requests side))
    (after.heard side) → EndpointsKnown requests after) ?_ ?_ moved
  · rintro call outcome rfl - followed
    rw [Shared.called, Shared.heard_move] at followed
    exact known.call macs apart (justified_append.mp followed).2 recovers
  · exact fun event _ noCall _ => known.recorded noCall

end Recorded

/-! ## The IP of an inserted endpoint -/

/-- An attach settles on an endpoint by an update, an insert or a re-select. -/
theorem Phase.next_chosen (phase : Phase) (event : Event) {server : ServerView} {id : Nat}
    (now : phase.next event = .chosen server id) :
    phase = .chosen server id ∨ phase = .clear server ∧
      ((∃ updates rows, event = ⟨.cmdb (.endpointUpdate id updates), .ok rows⟩) ∨
        event.handsEndpoint id) := by
  have cleared : phase.cleared = .chosen server id → phase = .chosen server id := by
    intro same
    cases phase <;> first | exact same | cases same
  have placed : ∀ {other}, phase.placed other = .chosen server id →
      phase = .chosen server id ∨ phase = .clear server ∧ other = id := by
    intro other same
    cases phase <;> first | exact Or.inl same | (cases same; exact Or.inr ⟨rfl, rfl⟩)
  obtain ⟨op, reply⟩ := event
  cases op with
  | cmdb op =>
    cases op with
    | serverSelectOneByUuid uuid =>
      rcases reply with error | (_ | read)
      · exact Or.inl now
      · cases now
      · cases now
    | ipSelectAttached address uuid =>
      rcases reply with error | (_ | row)
      · exact Or.inl (cleared now)
      · exact Or.inl (cleared now)
      · cases now
    | endpointUpdate other updates =>
      rcases reply with error | rows
      · exact Or.inl now
      · rcases placed now with old | ⟨clear, rfl⟩
        · exact Or.inl old
        · exact Or.inr ⟨clear, Or.inl ⟨updates, rows, rfl⟩⟩
    | endpointInsertOne columns =>
      rcases reply with error | endpoint
      · exact Or.inl now
      · rcases placed now with old | ⟨clear, rfl⟩
        · exact Or.inl old
        · exact Or.inr ⟨clear, Or.inr (Or.inl ⟨columns, endpoint.name, rfl⟩)⟩
    | endpointSelectOne serverId key =>
      rcases reply with error | (_ | endpoint)
      · exact Or.inl now
      · exact Or.inl now
      · rcases placed now with old | ⟨clear, rfl⟩
        · exact Or.inl old
        · exact Or.inr ⟨clear, Or.inr (Or.inr ⟨serverId, key, endpoint.name, rfl⟩)⟩
    | ipInsertOne columns =>
      rcases reply with error | row
      · exact Or.inl now
      · cases now
    | _ => exact Or.inl now
  | started message => cases now
  | ack => exact Or.inl now
  | nack => exact Or.inl now

/-- With no endpoint to reuse, the attach settles on one that was handed to it. -/
theorem chosen_handed {request : AttachRequest} {prefixes : Option NetworkPrefix → Prop}
    {server : ServerView} {id : Nat}
    (unchosen : chooseEndpoint request.mac server.endpoints = none) (history : List Event)
    (followed : Justified (attachRule prefixes request) history)
    (settled : attachPhase history = .chosen server id) : HandedEndpoint history id := by
  induction history using List.reverseRecOn with
  | nil => cases settled
  | append_singleton earlier event ih =>
    obtain ⟨before, allowed⟩ := justified_append.mp followed
    rw [attachPhase_append] at settled
    apply handedEndpoint_append.mpr
    rcases Phase.next_chosen _ _ settled with old | ⟨clear, ⟨updates, rows, rfl⟩ | hands⟩
    · exact Or.inl (ih before old)
    · obtain ⟨other, view, phase, chosen, -⟩ := allowed
      rw [clear] at phase
      cases phase
      rw [unchosen] at chosen
      cases chosen
    · exact Or.inr hands

/-- The endpoints an attach was answered with were made by it, and where it found none to
reuse its IP goes to such an endpoint, which carries its mac. -/
structure AttachesOwn (request : AttachRequest) (side : Side) (shared : Shared) : Prop where
  made : ∀ id, HandedEndpoint (shared.heard side) id → shared.Made side id
  ips : ∀ earlier columns reply later,
    shared.heard side = earlier ++ ⟨.cmdb (.ipInsertOne columns), reply⟩ :: later →
      ∀ server id, attachPhase earlier = .chosen server id →
        chooseEndpoint request.mac server.endpoints = none →
          columns.networkEndpointId = id ∧ shared.Made side id ∧
            ∀ endpoint ∈ shared.db.endpoints.rows, endpoint.id = id →
              endpoint.data.mac = request.mac

/-- What is known gives the result for a side: the IP is inserted on an endpoint
of its own mac. -/
theorem EndpointsKnown.attachesOwn {requests : Side → AttachRequest} {shared : Shared} {side : Side}
    (known : EndpointsKnown requests shared)
    (followed : Justified (attachRule (fun _ => True) (requests side)) (shared.heard side)) :
    AttachesOwn (requests side) side shared := by
  refine ⟨known.handed side, ?_⟩
  intro earlier columns reply later parts server id settled unchosen
  have allowed := followed earlier _ later parts
  rw [parts] at followed
  obtain ⟨event, member, hands⟩ := chosen_handed unchosen earlier followed.before settled
  have made : shared.Made side id := by
    apply known.handed side id ⟨event, ?_, hands⟩
    rw [parts]
    exact List.mem_append_left _ member
  refine ⟨?_, made, fun endpoint stored same => (known.macs side id made).2 endpoint stored same⟩
  obtain ⟨other, netPrefix, endpointId, -, hangs, rfl⟩ := allowed
  rw [Phase.hangs] at hangs
  split at hangs
  · rename_i chosen
    rcases hangs.2 with phase | ⟨phase, -⟩
    · rw [settled] at phase
      cases phase
      rfl
    · rw [settled] at phase
      cases phase
  · rw [settled] at hangs
    cases hangs
    rfl

/-- In every state of every interleaving of two attaches with different macs in which no
re-select finds an endpoint with another mac than its own: the endpoint an insert was
answered with was made by the same attach, and the IP inserted next goes to it and so to an
endpoint with the mac of the message. -/
theorem attaches_own (worker : MessageHandlerService) (messages : Side → Message)
    (requests : Side → AttachRequest) (db : Cmdb)
    (attaches : ∀ side, (messages side).actionType = some "attach")
    (reads : ∀ side, worker.handler.readAttach (messages side) = .ok (some (requests side)))
    (macs : ∀ side, truthy (requests side).mac = true)
    (apart : (requests .left).mac ≠ (requests .right).mac) (state : FieldErrors) (last : Shared)
    (rests : Side → Prog service (Except Exn Unit × FieldErrors))
    (interleaved : Interleaved (recovering requests) (Shared.start db)
      (tasks worker (fun side => .ok (messages side)) state) last rests) (side : Side) :
    AttachesOwn (requests side) side last := by
  have nothing : EndpointsKnown requests (Shared.start db) := by
    refine ⟨?_, fun _ _ works => (by cases works), fun _ _ works => (by cases works), ?_⟩
    · rintro other id ⟨move, member, _⟩
      cases member
    · rintro other id ⟨event, member, _⟩
      cases member
  have free : ∀ side state (current : World), current.db = db →
      (worker.handler.attachPrefix (requests side)).Ensures (unsteady everyFault) (fun _ => True)
        (fun result _ _ => ∀ netPrefix, result = .ok netPrefix → True) state current :=
    fun _ _ _ _ => (Action.ensures_trivial _).mono fun _ _ _ _ _ _ => trivial
  have joined := tasks_justified (fun side => attachRule (fun _ => True) (requests side))
    (EndpointsKnown requests) (fun _ _ _ _ _ step => step.2)
    (fun side op before reply after known step _ followed =>
      known.step macs apart step followed) nothing
    (fun side => attach_follows (attaches side) (reads side) (free side)) interleaved
  exact joined.1.attachesOwn (joined.2 side)

/-! ## Runs -/

/-- Two attaches to the sample host, on different cards. -/
def rivalAttaches : Side → Message
  | .left => AsciiRuntime.attachMessage "10.0.0.7" "m7"
  | .right => AsciiRuntime.attachMessage "10.0.0.8" "m8"

/-- What is read from them. -/
def rivalRequests : Side → AttachRequest
  | .left => ⟨some "r1", some "u1", "10.0.0.7", some "m7", some "net"⟩
  | .right => ⟨some "r1", some "u1", "10.0.0.8", some "m8", some "net"⟩

/-- The call at which one of them is stopped. -/
def reselectsEndpoint : service.Op → Bool
  | .cmdb (.endpointSelectOne _ _) => true
  | _ => false

/-- The outcome of the insert of the endpoint by the left attach. -/
def attachScript (outcome : Outcome) : Side → List (Nat × Outcome)
  | .left => [(5, outcome)]
  | .right => []

/-- Both attaches on the sample host; the left one waits at its re-select for the right one. -/
def rivalAttachesEnd (outcome : Outcome) : Shared :=
  race (attachScript outcome) reselectsEndpoint
    (tasks AsciiRuntime.service (fun side => .ok (rivalAttaches side)) {})
    (Shared.start AsciiRuntime.registered)

/-- The reply of the left insert is lost; the right attach reads the new endpoint and takes
the next number. -/
theorem attaches_own_rivals :
    AttachesOwn (rivalRequests .left) .left (rivalAttachesEnd lostReply) ∧
      AttachesOwn (rivalRequests .right) .right (rivalAttachesEnd lostReply) := by
  have possible : ∀ side (op : service.Op) (before : Shared),
      recoversOwn (rivalRequests side).mac op before = true →
        recovering rivalRequests side op before
          (Shared.scripted (attachScript lostReply) side op before).1
          (Shared.scripted (attachScript lostReply) side op before).2 := by
    intro side op before own
    exact ⟨own, scripted_racing (fun _ => trivial) (fun _ _ _ _ => trivial) side op before⟩
  obtain ⟨values, interleaved⟩ := race_interleaved possible reselectsEndpoint
    (tasks AsciiRuntime.service (fun side => .ok (rivalAttaches side)) {})
    (Shared.start AsciiRuntime.registered) (by decide +kernel)
  have own := attaches_own AsciiRuntime.service rivalAttaches rivalRequests AsciiRuntime.registered
    (fun side => by cases side <;> rfl) (fun side => by cases side <;> rfl)
    (fun side => by cases side <;> decide) (by decide) {} _ _ interleaved
  exact ⟨own .left, own .right⟩

/-- The request of the left insert is lost, and the right attach takes the number before the
left one looks it up: the left attach is handed an endpoint it did not make, the only one
ever inserted, and its IP goes to the mac of the other message. -/
theorem lost_insert_adopts_endpoint :
    (∃ values : Side → Except Exn Unit × FieldErrors,
      Interleaved (racing transportFaults) (Shared.start AsciiRuntime.registered)
        (tasks AsciiRuntime.service (fun side => .ok (rivalAttaches side)) {})
        (rivalAttachesEnd lostRequest) (fun side => .done (values side))) ∧
      (rivalAttachesEnd lostRequest).db.endpoints.next = 1 ∧
      (rivalAttachesEnd lostRequest).db.endpoints.rows.map
        (fun endpoint => (endpoint.id, endpoint.data.mac)) = [(0, some "m8")] ∧
      (rivalAttachesEnd lostRequest).db.ips.rows.map
        (fun ip => (ip.data.ip, ip.data.networkEndpointId)) = [("10.0.0.8", 0), ("10.0.0.7", 0)] ∧
      ¬ AttachesOwn (rivalRequests .left) .left (rivalAttachesEnd lostRequest) := by
  have lost : ∀ side, ∀ entry ∈ attachScript lostRequest side, ∀ call,
      transportFaults call entry.2 := by
    intro side entry member call
    cases side with
    | left =>
      rw [List.mem_singleton.mp member]
      exact rfl
    | right => cases member
  have ran : raceMeets (attachScript lostRequest) (fun _ _ _ => true) reselectsEndpoint
      (tasks AsciiRuntime.service (fun side => .ok (rivalAttaches side)) {})
      (Shared.start AsciiRuntime.registered) = true := by decide +kernel
  have handed : ((rivalAttachesEnd lostRequest).heard .left)[7]? =
      some ⟨.cmdb (.endpointSelectOne 0 (.name "bond0")), .ok (some ⟨0, some "bond0"⟩)⟩ := by rfl
  refine ⟨?_, by decide +kernel, by decide +kernel, by decide +kernel, ?_⟩
  · exact race_interleaved
      (fun side op before _ => scripted_racing (fun _ => trivial) lost side op before) _ _ _ ran
  · intro own
    obtain ⟨move, member, makes⟩ := own.made 0
      ⟨_, List.mem_of_getElem? handed, Or.inr ⟨_, _, _, rfl⟩⟩
    have none : ((rivalAttachesEnd lostRequest).movesOf .left).any
        (fun move => move.makes 0) = false := by decide +kernel
    rw [List.any_eq_false] at none
    exact none move member makes

end InstanceLifecycle
