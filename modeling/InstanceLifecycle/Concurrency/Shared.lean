import InstanceLifecycle.Interaction.Interleaving
import InstanceLifecycle.Service.Rules

/-!
# Two messages on one CMDB

The service runs every message as a task of its own, so the calls of two messages reach
the store in any order, each of them atomic. A move is one call of one side with the store
around it. What a side knows by itself is the list of its own calls with their replies:
between two of them the other side may have changed everything, so nothing is said here
about the replies it hears.
-/

namespace InstanceLifecycle

open Interaction

/-- The two messages that run at the same time. -/
inductive Side where
  | left
  | right
deriving DecidableEq

/-- One call of one side, with the store before and after it. -/
structure Move where
  side : Side
  event : Event
  before : Cmdb
  after : Cmdb

/-- The store they share, with all moves so far. -/
structure Shared where
  db : Cmdb
  moves : List Move

namespace Shared

variable (shared : Shared) (side : Side)

/-- The moves of one side, in their order. -/
def movesOf : List Move := shared.moves.filter (fun move => decide (move.side = side))

/-- The calls of one side with their replies, which is all that the side knows. -/
def heard : List Event := (shared.movesOf side).map Move.event

/-- What the store and its own calls are to one side. -/
def view : World := ⟨shared.db, shared.heard side⟩

/-- The state in which the two messages start. -/
def start (db : Cmdb) : Shared := ⟨db, []⟩

/-- Add a move of the side, with the store before and after it. -/
def move (event : Event) (after : Cmdb) : Shared :=
  ⟨after, shared.moves ++ [⟨side, event, shared.db, after⟩]⟩

/-- A move is the last of its own side. -/
theorem movesOf_move (event : Event) (after : Cmdb) :
    (shared.move side event after).movesOf side =
      shared.movesOf side ++ [⟨side, event, shared.db, after⟩] := by
  simp [movesOf, move]

/-- It is none of the other side. -/
theorem movesOf_move_other (event : Event) (after : Cmdb) {other : Side} (apart : other ≠ side) :
    (shared.move side event after).movesOf other = shared.movesOf other := by
  simp [movesOf, move, apart.symm]

/-- What the side has heard grows by the event. -/
theorem heard_move (event : Event) (after : Cmdb) :
    (shared.move side event after).heard side = shared.heard side ++ [event] := by
  rw [heard, movesOf_move, List.map_append]
  rfl

/-- What the other side has heard stays. -/
theorem heard_move_other (event : Event) (after : Cmdb) {other : Side} (apart : other ≠ side) :
    (shared.move side event after).heard other = shared.heard other := by
  rw [heard, movesOf_move_other shared side event after apart]
  rfl

end Shared

/-- Everything the shared store may do under the permitted failures when a side calls. -/
def racing (permits : Faults) (side : Side) : Env service Shared := fun op before reply after =>
  ∃ db, after = before.move side ⟨op, reply⟩ db ∧
    faulty permits op (before.view side) reply ⟨db, before.heard side ++ [⟨op, reply⟩]⟩

/-- A move of a call has the outcome of some permitted answer. -/
theorem racing_call {permits : Faults} {side : Side} {op : CmdbOp} {before after : Shared}
    {reply : Except CallError op.Rows} (step : racing permits side (.cmdb op) before reply after) :
    ∃ outcome, permits op outcome ∧ reply = (before.db.answer op outcome).1 ∧
      after = before.move side ⟨.cmdb op, reply⟩ (before.db.answer op outcome).2 := by
  obtain ⟨db, moved, -, outcome, permitted, result⟩ := step
  refine ⟨outcome, permitted, ?_, ?_⟩
  · exact (congrArg Prod.fst result).symm
  · rw [moved]
    congr 1
    exact (congrArg Prod.snd result).symm

/-- A move that is no call leaves the store alone. -/
theorem racing_recorded {permits : Faults} {side : Side} {op : ServiceOp} {before after : Shared}
    {reply : op.Reply} (noCall : Event.isCall ⟨op, reply⟩ = false)
    (step : racing permits side op before reply after) :
    after = before.move side ⟨op, reply⟩ before.db := by
  obtain ⟨db, moved, answered⟩ := step
  have recorded := congrArg World.db (faulty_recorded noCall answered)
  rw [moved]
  congr 1

/-- The state after a call with this outcome. -/
def Shared.called (before : Shared) (side : Side) (op : CmdbOp) (outcome : Outcome) : Shared :=
  before.move side ⟨.cmdb op, (before.db.answer op outcome).1⟩ (before.db.answer op outcome).2

/-- What holds after every permitted answer to a call, and after every event that is no call,
holds after every move. -/
theorem racing_keeps (held : ServiceOp → Shared → Prop) {permits : Faults} {side : Side}
    {before after : Shared} {op : ServiceOp} {reply : op.Reply}
    (called : ∀ call outcome, op = .cmdb call → permits call outcome →
      held op (before.called side call outcome))
    (recorded : ∀ event : Event, event.op = op → event.isCall = false →
      held op (before.move side event before.db))
    (step : racing permits side op before reply after) : held op after := by
  cases op with
  | cmdb call =>
    obtain ⟨outcome, permitted, rfl, rfl⟩ := racing_call step
    exact called call outcome rfl permitted
  | started message =>
    rw [racing_recorded rfl step]
    exact recorded ⟨.started message, reply⟩ rfl rfl
  | ack =>
    rw [racing_recorded rfl step]
    exact recorded ⟨.ack, reply⟩ rfl rfl
  | nack =>
    rw [racing_recorded rfl step]
    exact recorded ⟨.nack, reply⟩ rfl rfl

/-- Both deliveries as tasks of the service. -/
def tasks (worker : MessageHandlerService) (deliveries : Side → Delivery) (state : FieldErrors)
    (side : Side) : Prog service (Except Exn Unit × FieldErrors) :=
  worker.handleMessage (deliveries side) state

/-! ## Executed interleavings -/

/-- The call takes no effect and its caller cannot tell. -/
def lostRequest : Outcome := .fail (.transport "lost") false

/-- The call takes effect and its caller cannot tell. -/
def lostReply : Outcome := .fail (.transport "lost") true

section Race

variable (script : Side → List (Nat × Outcome))

/-- The replies of a script for each side; the position is among the calls of the side. -/
def Shared.scripted (side : Side) (op : service.Op) (shared : Shared) :
    service.Reply op × Shared :=
  (((shared.view side).scripted (script side) op).1,
    shared.move side ⟨op, ((shared.view side).scripted (script side) op).1⟩
      ((shared.view side).scripted (script side) op).2.db)

/-- The left side until a call to stop at, then the right side, then the rest of the left. -/
def race {α : Type} (stop : service.Op → Bool) (programs : Side → Prog service α)
    (shared : Shared) : Shared :=
  let pause := (programs .left).runUntil (Shared.scripted script .left) stop shared
  let between := (programs .right).runUntil (Shared.scripted script .right) (fun _ => false) pause.2
  (pause.1.runUntil (Shared.scripted script .left) (fun _ => false) between.2).2

/-- Do all calls of such an interleaving meet a test of the state they find? -/
def raceMeets {α : Type} (test : Side → service.Op → Shared → Bool) (stop : service.Op → Bool)
    (programs : Side → Prog service α) (shared : Shared) : Bool :=
  let pause := (programs .left).runUntil (Shared.scripted script .left) stop shared
  let between := (programs .right).runUntil (Shared.scripted script .right) (fun _ => false) pause.2
  (programs .left).meets (Shared.scripted script .left) (test .left) stop shared &&
    (programs .right).meets (Shared.scripted script .right) (test .right) (fun _ => false)
      pause.2 &&
    pause.1.meets (Shared.scripted script .left) (test .left) (fun _ => false) between.2

variable {script}

/-- Scripted replies are possible ones, if the script keeps to the failures
permitted. -/
theorem scripted_racing {permits : Faults} (succeeds : ∀ call, permits call .ok)
    (permitted : ∀ side, ∀ entry ∈ script side, ∀ call, permits call entry.2) (side : Side)
    (op : service.Op) (before : Shared) :
    racing permits side op before (Shared.scripted script side op before).1
      (Shared.scripted script side op before).2 := by
  refine ⟨_, rfl, ?_⟩
  have possible := scripted_possible (script side) succeeds (permitted side) op (before.view side)
  exact ⟨rfl, possible.2⟩

/-- An executed race in which both sides come to their end is an interleaving.
One side runs to the call where it is stopped, the other runs through, and then
the first goes on; each of the three stretches is a possible one. -/
theorem race_interleaved {α : Type} {env : Side → Env service Shared}
    {test : Side → service.Op → Shared → Bool}
    (possible : ∀ side op before, test side op before = true →
      env side op before (Shared.scripted script side op before).1
        (Shared.scripted script side op before).2)
    (stop : service.Op → Bool) (programs : Side → Prog service α) (shared : Shared)
    (meets : raceMeets script test stop programs shared = true) :
    ∃ values : Side → α, Interleaved env shared programs (race script stop programs shared)
      (fun side => .done (values side)) := by
  simp only [raceMeets, Bool.and_eq_true] at meets
  obtain ⟨⟨first, second⟩, third⟩ := meets
  have opens := Prog.runUntil_steps (possible .left) stop (programs .left) shared first
  obtain ⟨other, waits⟩ := Prog.runUntil_ends (possible .right) _ _ second
  obtain ⟨own, ends⟩ := Prog.runUntil_ends (possible .left) _ _ third
  refine ⟨fun side => if side = .left then own else other, ?_⟩
  have rests : (fun side => .done (if side = .left then own else other)) =
      Function.update (Function.update (Function.update programs .left
        ((programs .left).runUntil (Shared.scripted script .left) stop shared).1)
          .right (.done other)) .left (.done own) := by
    funext side
    cases side with
    | left => rfl
    | right => rfl
  rw [rests]
  exact ((Interleaved.stretch rfl opens).trans (Interleaved.stretch rfl waits)).trans
    (Interleaved.stretch rfl ends)

end Race

/-- Every call succeeds. -/
def faultless (_ : Side) : List (Nat × Outcome) := []

/-- Such replies are possible where no failure is permitted. -/
theorem faultless_racing (side : Side) (op : service.Op) (before : Shared) :
    racing noFaults side op before (Shared.scripted faultless side op before).1
      (Shared.scripted faultless side op before).2 := by
  have permitted : ∀ side, ∀ entry ∈ faultless side, ∀ call, noFaults call entry.2 := by
    intro side entry member
    cases member
  have succeeds : ∀ call, noFaults call .ok := fun _ => rfl
  exact scripted_racing succeeds permitted side op before

/-! ## What one side can rely on

The reference classes, which nobody writes. Around every other call the store may be any
store at all, so a side is left with the replies it has heard.
-/

/-- Every call is answered by some store with the same reference rows. The store of the
world stands for these rows and never changes; the history does. -/
def unsteady (permits : Faults) : Env service World := fun op before reply after =>
  after = before.record ⟨op, reply⟩ ∧
    match op, reply with
    | .cmdb call, reply => ∃ (db : Cmdb) (outcome : Outcome),
        db.reference = before.db.reference ∧ permits call outcome ∧
          reply = (db.answer call outcome).1
    | .started _, _ => True
    | .ack, _ => True
    | .nack, _ => True

/-- A world whose store changes between the calls still records them all. -/
theorem unsteady_records (permits : Faults) : Records (unsteady permits) :=
  fun _ _ _ _ _ step => step.1

/-- What the store was at the start, and the calls of one side. -/
def Shared.known (db : Cmdb) (side : Side) (shared : Shared) : World := ⟨db, shared.heard side⟩

/-- A move of a side looks to that side like a step in an unsteady world. -/
theorem racing_known {permits : Faults} {db : Cmdb} (side : Side) (op : ServiceOp)
    (before : Shared) (reply : op.Reply) (after : Shared)
    (reference : before.db.reference = db.reference)
    (step : racing permits side op before reply after) :
    unsteady permits op (before.known db side) reply (after.known db side) := by
  obtain ⟨middle, rfl, -, answered⟩ := step
  constructor
  · rw [Shared.known, before.heard_move side]
    rfl
  · cases op with
    | cmdb call =>
      obtain ⟨outcome, permitted, result⟩ := answered
      exact ⟨before.db, outcome, reference, permitted, (congrArg Prod.fst result).symm⟩
    | started message => trivial
    | ack => trivial
    | nack => trivial

/-- To the other side it looks like nothing. -/
theorem racing_unknown {permits : Faults} {db : Cmdb} (side other : Side) (op : ServiceOp)
    (before : Shared) (reply : op.Reply) (after : Shared) (apart : other ≠ side)
    (step : racing permits side op before reply after) :
    after.known db other = before.known db other := by
  obtain ⟨middle, rfl, _⟩ := step
  rw [Shared.known, before.heard_move_other side _ middle apart]
  rfl

/-- Nobody writes the reference classes. -/
theorem racing_reference {permits : Faults} (side : Side) (op : ServiceOp) (before : Shared)
    (reply : op.Reply) (after : Shared) (step : racing permits side op before reply after) :
    after.db.reference = before.db.reference := by
  apply racing_keeps (fun _ after => after.db.reference = before.db.reference) ?_ ?_ step
  · rintro call outcome rfl _
    exact before.db.answer_reference call outcome
  · exact fun _ _ _ => rfl

section Rules

variable {permits : Faults} {inv : World → Prop} {state : FieldErrors} {world : World}

/-- One call, whatever store answers it, as long as its reference classes are
the same. -/
theorem unsteady_cmdb {op : CmdbOp} {post : Except Exn op.Rows → FieldErrors → World → Prop}
    (answered : ∀ (db : Cmdb) outcome, db.reference = world.db.reference → permits op outcome →
      inv (world.record ⟨.cmdb op, (db.answer op outcome).1⟩) ∧
        post ((db.answer op outcome).1.mapError CallError.toExn) state
          (world.record ⟨.cmdb op, (db.answer op outcome).1⟩)) :
    (cmdb op).Ensures (unsteady permits) inv post state world := by
  rw [cmdb, Action.ensures_request]
  rintro reply after ⟨rfl, db, outcome, reference, permitted, rfl⟩
  exact answered db outcome reference permitted

/-- One call, whatever the reply. -/
theorem unsteady_reply {op : CmdbOp} {post : Except Exn op.Rows → FieldErrors → World → Prop}
    (answered : ∀ reply : Except CallError op.Rows, inv (world.record ⟨.cmdb op, reply⟩) ∧
      post (reply.mapError CallError.toExn) state (world.record ⟨.cmdb op, reply⟩)) :
    (cmdb op).Ensures (unsteady permits) inv post state world :=
  unsteady_cmdb fun _ _ _ _ => answered _

/-- What every allowed call keeps, a program of allowed calls keeps, whatever
the other tasks do to the store between its calls. Only the log is asked about,
so the store need not be known. -/
theorem unsteady_calls {α : Type} {allowed : CmdbOp → Prop} {action : Run α}
    (only : action.Only (calls allowed)) (held : World → Prop)
    (step : ∀ before, held before → ∀ op, allowed op → ∀ reply : Except CallError op.Rows,
      held (before.record ⟨.cmdb op, reply⟩))
    (implies : ∀ after, held after → inv after) (start : held world) :
    action.Ensures (unsteady permits) inv (fun _ _ after => held after) state world := by
  have kept : action.Ensures (unsteady permits) held (fun _ _ after => held after) state
      world := by
    apply only.ensures _ start
    rintro op permitted before reply after holds ⟨rfl, -⟩
    cases op with
    | cmdb op => exact step before holds op permitted reply
    | started message => exact permitted.elim
    | ack => exact permitted.elim
    | nack => exact permitted.elim
  exact kept.env_mono (fun _ _ _ _ same => same) implies

/-- The store of the view stands for the reference rows only. -/
theorem unsteady_frozen {α : Type} (action : Run α) :
    action.Ensures (unsteady permits) (fun _ => True) (fun _ _ after => after.db = world.db) state
      world := by
  have kept : action.Ensures (unsteady permits) (fun after => after.db = world.db)
      (fun _ _ after => after.db = world.db) state world := by
    refine action.only_any.ensures (fun op _ before reply after same step => ?_) rfl
    rw [step.1]
    exact same
  exact kept.env_mono (fun _ _ _ _ step => step) fun _ _ => trivial

/-- Processing a message confirms nothing, so the delivery is settled only after
it. -/
theorem processDelivery_unsettled (worker : MessageHandlerService) {message : Message}
    (only : (worker.handler.dispatch message).Only (calls fun _ => True))
    (unsettled : Unsettled world.history) :
    (worker.processDelivery (.ok message)).Ensures (unsteady permits) (fun _ => True)
      (fun _ _ after => Unsettled after.history) state world := by
  have silent : ∀ (current : World) (event : Event), event.isAck = false → event.isNack = false →
      Unsettled current.history → Unsettled (current.record event).history := by
    intro current event noAck noNack before
    simp only [Unsettled, World.record_history, List.any_append, before.1, before.2, List.any_cons,
      List.any_nil, noAck, noNack]
    decide
  apply MessageHandlerService.processDelivery_ensures (unsteady_records permits) trivial
  apply unsteady_calls only (fun after => Unsettled after.history) _ (fun _ _ => trivial)
  · exact silent world ⟨.started message, ()⟩ rfl rfl unsettled
  · exact fun before held op _ reply => silent before ⟨.cmdb op, reply⟩ rfl rfl held

/-- If the action of a message justifies its calls, so does the message: its attempts follow
one another, and the broker needs no justification. -/
theorem handleMessage_justified {rule : List Event → Event → Prop} {db : Cmdb}
    (free : ∀ history event, event.isCall = false → rule history event)
    (worker : MessageHandlerService) (message : Message)
    (dispatched : ∀ state world, world.db = db → Justified rule world.history →
      (worker.handler.dispatch message).Ensures (unsteady permits)
        (fun after => Justified rule after.history)
        (fun _ _ after => Justified rule after.history) state world) :
    (worker.handleMessage (.ok message)).Ensures (unsteady permits)
      (fun after => Justified rule after.history)
      (fun _ _ after => Justified rule after.history) state ⟨db, []⟩ := by
  have recorded : ∀ (event : Event) (world : World), event.isCall = false →
      Justified rule world.history → Justified rule (world.record event).history :=
    fun event world noCall held => justified_append.mpr ⟨held, free world.history event noCall⟩
  refine (MessageHandlerService.handleMessage_keeps (unsteady_records permits)
    (fun after => Justified rule after.history ∧ after.db = db) ?_ ?_
    ⟨justified_nil rule, rfl⟩).mono fun _ _ _ held => held.1
  · rintro state world ⟨held, same⟩
    have started := recorded ⟨.started message, ()⟩ world rfl held
    apply MessageHandlerService.processDelivery_ensures (unsteady_records permits) started
    have action := dispatched state (world.record ⟨.started message, ()⟩) same started
    refine ((action.and (unsteady_frozen _)).env_mono (fun _ _ _ _ step => step)
      fun _ kept => kept.1).mono ?_
    exact fun _ _ _ kept => ⟨kept.1, kept.2.trans same⟩
  · rintro event world noCall ⟨held, same⟩
    exact ⟨recorded event world noCall held, recorded event world noCall held, same⟩

end Rules

/-- The calls that read a reference class. -/
def CmdbOp.ofReference : CmdbOp → Bool
  | .resourceCloudSelectOne _ | .capTenantSelectOne _ | .datacenterSelectOne _
  | .networkPrefixSelect _ => true
  | _ => false

/-- An action that reads the reference classes only ends among other tasks as it
does alone, because nobody writes those classes. -/
theorem unsteady_reference {α : Type} {permits : Faults} {inv : World → Prop} {action : Run α}
    {post : Except Exn α → FieldErrors → World → Prop} {state : FieldErrors} {world : World}
    (only : action.Only (calls fun op => op.ofReference = true))
    (ensured : action.Ensures (faulty permits) inv post state world) :
    action.Ensures (unsteady permits) inv post state world := by
  apply only.env_mono ensured
  rintro op allowed before reply after ⟨rfl, answered⟩
  cases op with
  | cmdb call =>
    obtain ⟨db, outcome, reference, permitted, rfl⟩ := answered
    have reads : call.writes = false := by
      cases call <;> first | rfl | cases allowed
    have same : (before.db.answer call outcome).1 = (db.answer call outcome).1 := by
      cases outcome with
      | fail error landed => rfl
      | ok =>
        have rows : before.db.rows call = db.rows call := by
          cases call <;> first | (cases allowed; done) | simp only [Cmdb.rows, reference]
        have admitted : before.db.admits call = db.admits call := by
          cases call <;> first | rfl | cases allowed
        simp only [Cmdb.answer, rows, admitted]
    refine ⟨rfl, outcome, permitted, ?_⟩
    rw [← same]
    exact Prod.ext rfl (before.db.answer_read call reads outcome)
  | started message => exact allowed.elim
  | ack => exact allowed.elim
  | nack => exact allowed.elim

/-- If both messages justify their calls, a property of the store and the calls that every
justified call keeps holds in every state of their interleavings, and what is left of a
message still settles it as the message does alone. -/
theorem tasks_settled {permits : Faults} {env : Side → Env service Shared}
    {worker : MessageHandlerService} {deliveries : Side → Delivery} {state : FieldErrors}
    {db : Cmdb} {last : Shared} {rests : Side → Prog service (Except Exn Unit × FieldErrors)}
    (rule : Side → List Event → Event → Prop) (Global : Shared → Prop) (settled : Side → World → Prop)
    (within : ∀ side op before reply after, env side op before reply after →
      racing permits side op before reply after)
    (keeps : ∀ side op before reply after, Global before → env side op before reply after →
      (∀ side, Justified (rule side) (before.heard side)) →
        Justified (rule side) (after.heard side) → Global after)
    (start : Global (Shared.start db))
    (justifies : ∀ side, (worker.handleMessage (deliveries side)).Ensures (unsteady permits)
      (fun after => Justified (rule side) after.history) (fun _ _ after => settled side after)
      state ⟨db, []⟩)
    (interleaved : Interleaved env (Shared.start db) (tasks worker deliveries state) last rests) :
    (Global last ∧ ∀ side, Justified (rule side) (last.heard side)) ∧
      ∀ side value, rests side = .done value → settled side (last.known db side) := by
  have ensured : ∀ side, (tasks worker deliveries state side).Ensures (unsteady permits)
      (fun after => Justified (rule side) after.history) (fun _ after => settled side after)
      ((Shared.start db).known db side) := justifies
  have joined := interleaved.ensures
    (fun shared => shared.db.reference = db.reference ∧ Global shared)
    (fun side op before reply after kept step =>
      racing_known side op before reply after kept.1 (within _ _ _ _ _ step))
    (fun side other op before reply after apart step =>
      racing_unknown side other op before reply after apart (within _ _ _ _ _ step))
    (fun side op before reply after kept holds step justified =>
      ⟨(racing_reference side op before reply after (within _ _ _ _ _ step)).trans kept.1,
        keeps side op before reply after kept.2 step holds justified⟩)
    ⟨rfl, start⟩ (fun side => justified_nil (rule side)) ensured
  refine ⟨⟨joined.1.2, joined.2.1⟩, ?_⟩
  intro side value ended
  have rest := joined.2.2 side
  rw [ended] at rest
  exact rest

/-- The part of this that holds in every state, without what holds at the end. -/
theorem tasks_justified {permits : Faults} {env : Side → Env service Shared}
    {worker : MessageHandlerService} {deliveries : Side → Delivery} {state : FieldErrors}
    {db : Cmdb} {last : Shared} {rests : Side → Prog service (Except Exn Unit × FieldErrors)}
    (rule : Side → List Event → Event → Prop) (Global : Shared → Prop)
    (within : ∀ side op before reply after, env side op before reply after →
      racing permits side op before reply after)
    (keeps : ∀ side op before reply after, Global before → env side op before reply after →
      (∀ side, Justified (rule side) (before.heard side)) →
        Justified (rule side) (after.heard side) → Global after)
    (start : Global (Shared.start db))
    (justifies : ∀ side, (worker.handleMessage (deliveries side)).Ensures (unsteady permits)
      (fun after => Justified (rule side) after.history)
      (fun _ _ after => Justified (rule side) after.history) state ⟨db, []⟩)
    (interleaved : Interleaved env (Shared.start db) (tasks worker deliveries state) last rests) :
    Global last ∧ ∀ side, Justified (rule side) (last.heard side) :=
  (tasks_settled rule Global _ within keeps start justifies interleaved).1

end InstanceLifecycle
