import InstanceLifecycle.Concurrency.Shared

/-!
# Any number of messages on one CMDB

The service runs every delivery as a task of its own, as many at a time as the broker hands
out. The state is the store with what each task has heard: its own calls with their replies.
A task that justifies its calls from what it has heard does so in every interleaving, whatever
the others do to the store between two of its calls.
-/

namespace InstanceLifecycle

open Interaction

/-- The store, and the calls of every task with their replies. -/
structure Crowd (ι : Type) where
  db : Cmdb
  heard : ι → List Event

namespace Crowd

variable {ι : Type} [DecidableEq ι] (crowd : Crowd ι) (task : ι)

/-- The state in which no task has called yet. -/
def start (db : Cmdb) : Crowd ι := ⟨db, fun _ => []⟩

/-- What the store and its own calls are to one task. -/
def view : World := ⟨crowd.db, crowd.heard task⟩

/-- What the store was at the start, and the calls of one task. -/
def known (db : Cmdb) : World := ⟨db, crowd.heard task⟩

/-- Add a call of the task. -/
def move (event : Event) (after : Cmdb) : Crowd ι :=
  ⟨after, Function.update crowd.heard task (crowd.heard task ++ [event])⟩

/-- The store after a move is the one the move was given. -/
@[simp] theorem move_db (event : Event) (after : Cmdb) :
    (crowd.move task event after).db = after := rfl

/-- The caller has heard its earlier calls and, after them, the one it has just
made. -/
theorem heard_move (event : Event) (after : Cmdb) :
    (crowd.move task event after).heard task = crowd.heard task ++ [event] :=
  Function.update_self task _ crowd.heard

/-- A call of one task is not heard by another: its log is as it was. -/
theorem heard_move_other (event : Event) (after : Cmdb) {other : ι} (apart : other ≠ task) :
    (crowd.move task event after).heard other = crowd.heard other :=
  Function.update_of_ne apart _ crowd.heard

/-- What all tasks have heard after a call, of which only the caller heard something new. -/
theorem forall_heard_move (held : ι → List Event → Prop) (event : Event) (after : Cmdb)
    (before : ∀ other, held other (crowd.heard other))
    (now : held task (crowd.heard task ++ [event])) (other : ι) :
    held other ((crowd.move task event after).heard other) := by
  by_cases same : other = task
  · subst same
    rw [crowd.heard_move]
    exact now
  · rw [crowd.heard_move_other task event after same]
    exact before other

end Crowd

variable {ι : Type} [DecidableEq ι]

/-- Everything the store may do under the permitted failures when a task calls. -/
def crowding (permits : Faults) (task : ι) : Env service (Crowd ι) :=
  fun op before reply after =>
    ∃ db, after = before.move task ⟨op, reply⟩ db ∧
      faulty permits op (before.view task) reply ⟨db, before.heard task ++ [⟨op, reply⟩]⟩

section Moves

variable {permits : Faults} {task : ι} {before after : Crowd ι}

/-- A call has the outcome of some permitted answer. -/
theorem crowding_call {op : CmdbOp} {reply : Except CallError op.Rows}
    (step : crowding permits task (.cmdb op) before reply after) :
    ∃ outcome, permits op outcome ∧ reply = (before.db.answer op outcome).1 ∧
      after = before.move task ⟨.cmdb op, reply⟩ (before.db.answer op outcome).2 := by
  obtain ⟨db, moved, -, outcome, permitted, result⟩ := step
  have stored : (before.db.answer op outcome).2 = db := congrArg Prod.snd result
  refine ⟨outcome, permitted, (congrArg Prod.fst result).symm, ?_⟩
  rw [moved, stored]

/-- An event that is no call leaves the store alone. -/
theorem crowding_recorded {op : ServiceOp} {reply : op.Reply}
    (noCall : Event.isCall ⟨op, reply⟩ = false)
    (step : crowding permits task op before reply after) :
    after = before.move task ⟨op, reply⟩ before.db := by
  obtain ⟨db, moved, answered⟩ := step
  have recorded : db = before.db := congrArg World.db (faulty_recorded noCall answered)
  rw [moved, recorded]

/-- What holds after every permitted answer to a call, and after every event that is no call,
holds after every move. -/
theorem crowding_keeps (held : Event → Crowd ι → Prop) {op : ServiceOp} {reply : op.Reply}
    (called : ∀ call outcome, permits call outcome →
      held ⟨.cmdb call, (before.db.answer call outcome).1⟩
        (before.move task ⟨.cmdb call, (before.db.answer call outcome).1⟩
          (before.db.answer call outcome).2))
    (recorded : ∀ event : Event, event.isCall = false →
      held event (before.move task event before.db))
    (step : crowding permits task op before reply after) : held ⟨op, reply⟩ after := by
  cases op with
  | cmdb call =>
    obtain ⟨outcome, permitted, rfl, rfl⟩ := crowding_call step
    exact called call outcome permitted
  | started message =>
    rw [crowding_recorded rfl step]
    exact recorded ⟨.started message, reply⟩ rfl
  | ack =>
    rw [crowding_recorded rfl step]
    exact recorded ⟨.ack, reply⟩ rfl
  | nack =>
    rw [crowding_recorded rfl step]
    exact recorded ⟨.nack, reply⟩ rfl

/-- The caller hears its own call, and nobody else hears anything. -/
theorem crowding_heard {op : ServiceOp} {reply : op.Reply}
    (step : crowding permits task op before reply after) :
    after.heard task = before.heard task ++ [⟨op, reply⟩] ∧
      ∀ other, other ≠ task → after.heard other = before.heard other := by
  obtain ⟨db, rfl, -⟩ := step
  exact ⟨before.heard_move task _ db, fun _ apart => before.heard_move_other task _ db apart⟩

/-- Nobody writes the reference classes. -/
theorem crowding_reference {op : ServiceOp} {reply : op.Reply}
    (step : crowding permits task op before reply after) :
    after.db.reference = before.db.reference := by
  apply crowding_keeps (fun _ after => after.db.reference = before.db.reference) ?_ ?_ step
  · exact fun call outcome _ => before.db.answer_reference call outcome
  · exact fun _ _ => rfl

/-- A call is answered by some store with the reference rows of the start. -/
theorem crowding_known {db : Cmdb} {op : ServiceOp} {reply : op.Reply}
    (reference : before.db.reference = db.reference)
    (step : crowding permits task op before reply after) :
    unsteady permits op (before.known task db) reply (after.known task db) := by
  obtain ⟨middle, rfl, -, answered⟩ := step
  constructor
  · rw [Crowd.known, before.heard_move task]
    rfl
  · cases op with
    | cmdb call =>
      obtain ⟨outcome, permitted, result⟩ := answered
      exact ⟨before.db, outcome, reference, permitted, (congrArg Prod.fst result).symm⟩
    | started message => trivial
    | ack => trivial
    | nack => trivial

end Moves

/-! ## Executed interleavings -/

/-- The replies of a script for each task; the position is among the calls of the task. -/
def Crowd.scripted (script : ι → List (Nat × Outcome)) (task : ι) (op : service.Op)
    (crowd : Crowd ι) : service.Reply op × Crowd ι :=
  (((crowd.view task).scripted (script task) op).1,
    crowd.move task ⟨op, ((crowd.view task).scripted (script task) op).1⟩
      ((crowd.view task).scripted (script task) op).2.db)

/-- A scripted interleaving is a possible one: every answer of the scripts is
permitted, and so is the success that follows when a script has ended. -/
theorem scripted_crowding {permits : Faults} {script : ι → List (Nat × Outcome)}
    (succeeds : ∀ call, permits call .ok)
    (permitted : ∀ task, ∀ entry ∈ script task, ∀ call, permits call entry.2) (task : ι)
    (op : service.Op) (before : Crowd ι) :
    crowding permits task op before (Crowd.scripted script task op before).1
      (Crowd.scripted script task op before).2 := by
  have possible := scripted_possible (script task) succeeds (permitted task) op (before.view task)
  exact ⟨_, rfl, rfl, possible.2⟩

/-! ## Justified calls -/

section Tasks

variable {α : Type} {permits : Faults} {env : ι → Env service (Crowd ι)}
  {programs rests : ι → Prog service α} {post : ι → α → World → Prop} {db : Cmdb}
  {last : Crowd ι}

/-- What every program ensures by itself, whatever the store answers, it ensures among the
others, and so holds what every call keeps after which its caller has kept its own invariant. -/
theorem crowd_ensures {inv : ι → World → Prop} (Global : Crowd ι → Prop)
    (within : ∀ task op before reply after, env task op before reply after →
      crowding permits task op before reply after)
    (keeps : ∀ task op before (reply : ServiceOp.Reply op) after, Global before →
      env task op before reply after → inv task (after.known task db) → Global after)
    (start : Global (Crowd.start db)) (begins : ∀ task, inv task ⟨db, []⟩)
    (ensured : ∀ task, (programs task).Ensures (unsteady permits) (inv task) (post task) ⟨db, []⟩)
    (interleaved : Interleaved env (Crowd.start db) programs last rests) :
    Global last ∧ ∀ task, inv task (last.known task db) ∧
      (rests task).Ensures (unsteady permits) (inv task) (post task) (last.known task db) := by
  have ensured : ∀ task, (programs task).Ensures (unsteady permits) (inv task) (post task)
      ((Crowd.start db).known task db) := ensured
  have seen : ∀ task op before (reply : ServiceOp.Reply op) after,
      before.db.reference = db.reference ∧ Global before → env task op before reply after →
        unsteady permits op (before.known task db) reply (after.known task db) :=
    fun task op before reply after kept step => crowding_known kept.1 (within _ _ _ _ _ step)
  have unseen : ∀ task other op before (reply : ServiceOp.Reply op) after, other ≠ task →
      env task op before reply after → after.known other db = before.known other db := by
    intro task other op before reply after apart step
    simp only [Crowd.known, (crowding_heard (within _ _ _ _ _ step)).2 other apart]
  have joined := interleaved.ensures
    (fun crowd => crowd.db.reference = db.reference ∧ Global crowd) seen unseen
    (fun task op before reply after kept _ step now =>
      ⟨(crowding_reference (within _ _ _ _ _ step)).trans kept.1,
        keeps task op before reply after kept.2 step now⟩)
    ⟨rfl, start⟩ begins ensured
  exact ⟨joined.1.2, fun task => ⟨joined.2.1 task, joined.2.2 task⟩⟩

/-- If every program justifies its calls, a property of the state that every justified call
keeps holds in every state of their interleavings. -/
theorem crowd_justified (rule : ι → List Event → Event → Prop) (Global : Crowd ι → Prop)
    (within : ∀ task op before reply after, env task op before reply after →
      crowding permits task op before reply after)
    (keeps : ∀ task op before (reply : ServiceOp.Reply op) after, Global before →
      env task op before reply after → rule task (before.heard task) ⟨op, reply⟩ → Global after)
    (start : Global (Crowd.start db))
    (justifies : ∀ task, (programs task).Ensures (unsteady permits)
      (fun after => Justified (rule task) after.history) (post task) ⟨db, []⟩)
    (interleaved : Interleaved env (Crowd.start db) programs last rests) :
    Global last ∧ ∀ task, Justified (rule task) (last.heard task) := by
  have joined := crowd_ensures Global within ?_ start (fun task => justified_nil (rule task))
    justifies interleaved
  · exact ⟨joined.1, fun task => (joined.2 task).1⟩
  · intro task op before reply after kept step justified
    have grown : Justified (rule task) (before.heard task ++ [⟨op, reply⟩]) := by
      rw [← (crowding_heard (within _ _ _ _ _ step)).1]
      exact justified
    exact keeps task op before reply after kept step (justified_append.mp grown).2

end Tasks

/-- If a message justifies its calls, so does its delivery; an unreadable one makes none. -/
theorem MessageHandlerService.handleMessage_delivered {permits : Faults}
    {rule : List Event → Event → Prop} {db : Cmdb}
    (free : ∀ history event, event.isCall = false → rule history event)
    (worker : MessageHandlerService) (delivery : Delivery) (state : FieldErrors)
    (dispatched : ∀ message, delivery = .ok message → ∀ state world, world.db = db →
      Justified rule world.history → (worker.handler.dispatch message).Ensures (unsteady permits)
        (fun after => Justified rule after.history)
        (fun _ _ after => Justified rule after.history) state world) :
    (worker.handleMessage delivery).Ensures (unsteady permits)
      (fun after => Justified rule after.history)
      (fun _ _ after => Justified rule after.history) state ⟨db, []⟩ := by
  cases delivery with
  | ok message => exact handleMessage_justified free worker message (dispatched message rfl)
  | error exc =>
    apply handleMessage_keeps (unsteady_records permits)
    · exact fun _ _ held => held
    · intro event world noCall held
      have now := justified_append.mpr ⟨held, free world.history event noCall⟩
      exact ⟨now, now⟩
    · exact justified_nil _

/-! ## Calls that pass a test -/

/-- The call passes the test, whatever came before it. -/
def callRule (allowed : CmdbOp → Prop) (_ : List Event) (event : Event) : Prop :=
  ∀ op : CmdbOp, event.op = .cmdb op → allowed op

/-- The log of the task has passed the test so far: every CMDB call in it is
allowed. -/
abbrev Calling (allowed : CmdbOp → Prop) (world : World) : Prop :=
  Justified (callRule allowed) world.history

section Allowed

variable {permits : Faults} {allowed : CmdbOp → Prop}

/-- An event that is no CMDB call passes any rule about calls, since the rule
asks nothing of it. -/
theorem callRule_free (history : List Event) (event : Event) (noCall : event.isCall = false) :
    callRule allowed history event := by
  obtain ⟨op, reply⟩ := event
  rintro _ rfl
  cases noCall

/-- An allowed call added to a log that has passed leaves a log that passes,
whatever its reply is. -/
theorem Calling.record {world : World} (calling : Calling allowed world) {op : CmdbOp}
    (passes : allowed op) (reply : Except CallError op.Rows) :
    Calling allowed (world.record ⟨.cmdb op, reply⟩) := by
  refine justified_append.mpr ⟨calling, ?_⟩
  rintro _ ⟨⟩
  exact passes

/-- An action that makes only allowed calls keeps the log passing the test. It
is proved from the footprint, so nothing of the action's code is read. -/
theorem calling_calls {α : Type} {action : Run α} {state : FieldErrors} {world : World}
    (only : action.Only (calls allowed)) (calling : Calling allowed world) :
    action.Ensures (unsteady permits) (Calling allowed) (fun _ _ after => Calling allowed after)
      state world :=
  unsteady_calls only (Calling allowed) (fun _ before _ passes reply => before.record passes reply)
    (fun _ held => held) calling

/-- What the effect of every call that passes keeps holds of the store in every interleaving of
programs whose calls pass. -/
theorem crowd_calling {α : Type} {programs rests : ι → Prog service α}
    {post : ι → α → World → Prop} {db : Cmdb} {last : Crowd ι} {allowed : ι → CmdbOp → Prop}
    (held : Cmdb → Prop)
    (keeps : ∀ task before op, held before → allowed task op → held (before.effect op))
    (start : held db)
    (passes : ∀ task, (programs task).Ensures (unsteady permits) (Calling (allowed task))
      (post task) ⟨db, []⟩)
    (interleaved : Interleaved (crowding permits) (Crowd.start db) programs last rests) :
    held last.db := by
  have joined := crowd_justified (fun task => callRule (allowed task))
    (fun crowd => held crowd.db) (fun _ _ _ _ _ step => step) ?_ start passes interleaved
  · exact joined.1
  · intro task op before reply after now step ruled
    refine crowding_keeps (fun event crowd =>
      callRule (allowed task) (before.heard task) event → held crowd.db) ?_ ?_ step ruled
    · intro call outcome _ ruled
      exact Cmdb.answer_keeps held now (keeps task before.db call now (ruled call rfl)) outcome
    · exact fun _ _ _ => now

end Allowed

end InstanceLifecycle
