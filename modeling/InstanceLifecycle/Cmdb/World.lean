import InstanceLifecycle.Cmdb.State

/-!
# Faults

A call either succeeds, or fails with an error of the client, and a failing call
may still have taken effect: a transport error with the effect is a lost reply,
one without it a lost request. Which failures are possible is a parameter, so a
statement says which patterns of failures it covers by the faults it permits.

The world keeps the history of all calls with their replies. Replies of the
broker are arbitrary.
-/

namespace InstanceLifecycle

open Interaction Store

/-- What becomes of a call: it succeeds, or fails with or without having taken
effect. -/
inductive Outcome where
  | ok
  | fail (error : CallError) (landed : Bool)

/-- One call and its reply. -/
structure Event where
  op : ServiceOp
  reply : op.Reply

namespace Event

/-- A call of the CMDB. -/
def isCall (event : Event) : Bool :=
  match event.op with
  | .cmdb _ => true
  | _ => false

/-- A call that writes, whatever its reply. -/
def isWrite (event : Event) : Bool :=
  match event.op with
  | .cmdb op => op.writes
  | _ => false

/-- A call that does not. -/
def isRead (event : Event) : Bool :=
  match event.op with
  | .cmdb op => !op.writes
  | _ => false

/-- A read is no write. -/
theorem isWrite_of_isRead (event : Event) (reads : event.isRead = true) :
    event.isWrite = false := by
  obtain ⟨op, reply⟩ := event
  cases op <;> simp_all [isRead, isWrite]

/-- The start of a processing. -/
def isStart (event : Event) : Bool :=
  match event.op with
  | .started _ => true
  | _ => false

/-- An ack, accepted or not. -/
def isAck (event : Event) : Bool :=
  match event.op with
  | .ack => true
  | _ => false

/-- A nack, accepted or not. -/
def isNack (event : Event) : Bool :=
  match event.op with
  | .nack => true
  | _ => false

end Event

/-- The store and everything that was said to it and to the broker. -/
structure World where
  db : Cmdb
  history : List Event

/-- Since then there were only reads, and the store is as it was. -/
structure World.Reads (world after : World) : Prop where
  db : after.db = world.db
  events : ∃ added, after.history = world.history ++ added ∧
    ∀ event ∈ added, event.isRead = true

/-- Doing nothing reads nothing. -/
theorem World.Reads.refl (world : World) : world.Reads world :=
  ⟨rfl, [], by simp, by simp⟩

/-- Reads may follow each other. -/
theorem World.Reads.trans {world middle after : World} (first : world.Reads middle)
    (rest : middle.Reads after) : world.Reads after := by
  obtain ⟨added, grown, calls⟩ := first.events
  obtain ⟨more, further, moreCalls⟩ := rest.events
  refine ⟨rest.db.trans first.db, added ++ more, ?_, ?_⟩
  · rw [further, grown, List.append_assoc]
  · intro event member
    rcases List.mem_append.mp member with early | late
    · exact calls event early
    · exact moreCalls event late

/-- Has any delivery been acked? -/
def World.acked (world : World) : Bool := world.history.any Event.isAck

/-- Reads are no confirmations. -/
theorem World.Reads.acked {world after : World} (reads : world.Reads after) :
    after.acked = world.acked := by
  obtain ⟨added, grown, calls⟩ := reads.events
  have none : added.any Event.isAck = false := by
    rw [List.any_eq_false]
    rintro ⟨op, reply⟩ member
    have call := calls _ member
    cases op <;> simp_all [Event.isRead, Event.isAck]
  rw [World.acked, grown, List.any_append, none, Bool.or_false]
  rfl

/-- Reads are no writes. -/
theorem World.Reads.unwritten {world after : World} (reads : world.Reads after) :
    after.history.any Event.isWrite = world.history.any Event.isWrite := by
  obtain ⟨added, grown, calls⟩ := reads.events
  have none : added.any Event.isWrite = false := by
    rw [List.any_eq_false]
    intro event member
    rw [event.isWrite_of_isRead (calls event member)]
    exact Bool.false_ne_true
  rw [grown, List.any_append, none, Bool.or_false]

/-- The reply of one call and the store after it. A call that is not admitted is
answered by an error and changes nothing, since its effect is nothing. -/
def Cmdb.answer (db : Cmdb) (op : CmdbOp) : Outcome → Except CallError op.Rows × Cmdb
  | .ok =>
      (if db.admits op then .ok (db.rows op) else .error (.data "foreign key violation"),
        db.effect op)
  | .fail error landed => (.error error, if landed then db.effect op else db)

/-- The failures a run may meet, by the call that fails. -/
abbrev Faults := CmdbOp → Outcome → Prop

/-- Everything the world may do under the permitted failures: each event is
recorded with its reply, and only calls change the store. -/
def faulty (permits : Faults) : Env service World := fun op before reply after =>
  after.history = before.history ++ [⟨op, reply⟩] ∧
    match op, reply with
    | .cmdb call, reply => ∃ outcome, permits call outcome ∧
        before.db.answer call outcome = (reply, after.db)
    | .started _, _ => after.db = before.db
    | .ack, _ => after.db = before.db
    | .nack, _ => after.db = before.db

/-- Every run of the environment is a run under these failures. -/
def Within (env : Env service World) (permits : Faults) : Prop :=
  ∀ op before reply after, env op before reply after → faulty permits op before reply after

/-- The world does what it does. -/
theorem faulty_within (permits : Faults) : Within (faulty permits) permits :=
  fun _ _ _ _ step => step

/-! ## Patterns of failures -/

/-- No call fails. -/
def noFaults : Faults := fun _ outcome => outcome = .ok

/-- Transport failures only: the request or the reply of any call may be lost. -/
def transportFaults : Faults := fun _ outcome =>
  match outcome with
  | .ok => True
  | .fail error _ => error.isTransport = true

/-- Transport failures, and errors of the client that leave no effect. -/
def anyFaults : Faults := fun _ outcome =>
  match outcome with
  | .ok => True
  | .fail error landed => error.isTransport = true ∨ landed = false

/-- Every failure, with or without an effect, of any kind. -/
def everyFault : Faults := fun _ _ => True

/-- Where no call fails none fails other than by transport. -/
theorem noFaults_transport (op : CmdbOp) (outcome : Outcome) (none : noFaults op outcome) :
    transportFaults op outcome := by
  cases none
  trivial

/-- Failures of transport are among the failures of any kind. -/
theorem transport_any (op : CmdbOp) (outcome : Outcome) (transport : transportFaults op outcome) :
    anyFaults op outcome := by
  cases outcome with
  | ok => trivial
  | fail error landed => exact Or.inl transport

/-- Permitting fewer failures leaves fewer runs: every step under the fewer is a
step under the more, with the same outcome. -/
theorem faulty_mono {fewer permits : Faults}
    (within : ∀ op outcome, fewer op outcome → permits op outcome) :
    Within (faulty fewer) permits := by
  intro op before reply after step
  obtain ⟨recorded, answered⟩ := step
  refine ⟨recorded, ?_⟩
  cases op with
  | cmdb call =>
    obtain ⟨outcome, permitted, result⟩ := answered
    exact ⟨outcome, within call outcome permitted, result⟩
  | started message => exact answered
  | ack => exact answered
  | nack => exact answered

/-! ## Deterministic replies -/

/-- The world's answer to one call under a chosen outcome; the broker obeys. -/
def World.answer (outcome : Outcome) (op : service.Op) (world : World) : service.Reply op × World :=
  match op with
  | .cmdb call =>
      ((world.db.answer call outcome).1,
        ⟨(world.db.answer call outcome).2,
          world.history ++ [⟨.cmdb call, (world.db.answer call outcome).1⟩]⟩)
  | .started message => ((), ⟨world.db, world.history ++ [⟨.started message, ()⟩]⟩)
  | .ack => (.ok (), ⟨world.db, world.history ++ [⟨.ack, .ok ()⟩]⟩)
  | .nack => (.ok (), ⟨world.db, world.history ++ [⟨.nack, .ok ()⟩]⟩)

/-- Choose the outcome of a call by its position in the run; the rest succeeds. -/
def World.scripted (script : List (Nat × Outcome)) (op : service.Op) (world : World) :
    service.Reply op × World :=
  world.answer (((script.find? (fun entry =>
    decide (entry.1 = world.history.length))).map Prod.snd).getD .ok) op

/-- A fixed outcome is possible where it is permitted for every call. -/
theorem answer_possible {permits : Faults} (outcome : Outcome) (op : service.Op) (world : World)
    (permitted : ∀ call, permits call outcome) :
    faulty permits op world (world.answer outcome op).1 (world.answer outcome op).2 := by
  cases op with
  | cmdb call => exact ⟨rfl, outcome, permitted call, rfl⟩
  | started message => exact ⟨rfl, rfl⟩
  | ack => exact ⟨rfl, rfl⟩
  | nack => exact ⟨rfl, rfl⟩

/-- The run in which every call succeeds is one of those without failures. -/
theorem faultless_possible (op : service.Op) (world : World) :
    faulty noFaults op world (world.answer .ok op).1 (world.answer .ok op).2 :=
  answer_possible .ok op world fun _ => rfl

/-- A scripted run is a run under the failures its script uses. -/
theorem scripted_possible {permits : Faults} (script : List (Nat × Outcome))
    (succeeds : ∀ call, permits call .ok)
    (permitted : ∀ entry ∈ script, ∀ call, permits call entry.2) (op : service.Op)
    (world : World) :
    faulty permits op world (world.scripted script op).1 (world.scripted script op).2 := by
  apply answer_possible
  intro call
  cases found : script.find? (fun entry => decide (entry.1 = world.history.length)) with
  | none => exact succeeds call
  | some entry => exact permitted entry (List.mem_of_find?_eq_some found) call

end InstanceLifecycle
