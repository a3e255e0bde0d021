import InstanceLifecycle.Service
import InstanceLifecycle.Cmdb.World

/-!
# Rules for calls against the faulty store

The engine's rule specialised to one CMDB call, with the outcome of each
invocation in place of the exception. A read leaves the store as it is; an update
or delete may be repeated from wherever its own effect leads; an insert needs the
selector in between.
-/

namespace InstanceLifecycle

open Interaction Store

/-- The world after one invocation with a chosen outcome. -/
def World.next (world : World) (op : CmdbOp) (outcome : Outcome) : World :=
  ⟨(world.db.answer op outcome).2,
    world.history ++ [⟨.cmdb op, (world.db.answer op outcome).1⟩]⟩

/-- Its store is the one that the outcome leaves. -/
@[simp] theorem World.next_db (world : World) (op : CmdbOp) (outcome : Outcome) :
    (world.next op outcome).db = (world.db.answer op outcome).2 := rfl

/-- Its history has the call with its reply at the end. -/
@[simp] theorem World.next_history (world : World) (op : CmdbOp) (outcome : Outcome) :
    (world.next op outcome).history =
      world.history ++ [⟨.cmdb op, (world.db.answer op outcome).1⟩] := rfl

/-- A call acks nothing. -/
@[simp] theorem World.next_acked (world : World) (op : CmdbOp) (outcome : Outcome) :
    (world.next op outcome).acked = world.acked := by
  simp [World.acked, Event.isAck]

/-- What a client raises is none of the handler's own exceptions. -/
theorem toExn_foreign (error : CallError) : error.toExn.isCmdbException = false := by
  cases error <;> rfl

/-- It is classified as transport exactly when it is so. -/
theorem classify_toExn (error : CallError) :
    classify error.toExn = .transport ↔ error.isTransport = true := by
  cases error <;> simp [CallError.toExn, classify, CallError.isTransport]

namespace Cmdb

/-- Whatever the outcome, the store is either as before or has the call's effect. -/
theorem answer_db (db : Cmdb) (op : CmdbOp) (outcome : Outcome) :
    (db.answer op outcome).2 = db ∨ (db.answer op outcome).2 = db.effect op := by
  cases outcome with
  | ok => exact Or.inr rfl
  | fail error landed =>
    cases landed with
    | true => exact Or.inr rfl
    | false => exact Or.inl rfl

/-- What holds with and without the effect holds whatever the outcome. -/
theorem answer_keeps (held : Cmdb → Prop) {db : Cmdb} {op : CmdbOp} (before : held db)
    (took : held (db.effect op)) (outcome : Outcome) : held (db.answer op outcome).2 := by
  rcases db.answer_db op outcome with same | effect
  · rw [same]
    exact before
  · rw [effect]
    exact took

/-- A read leaves the store alone, whatever its outcome. -/
theorem answer_read (db : Cmdb) (op : CmdbOp) (reads : op.writes = false) (outcome : Outcome) :
    (db.answer op outcome).2 = db := by
  rcases db.answer_db op outcome with same | effect
  · exact same
  · rw [effect, db.effect_of_read op reads]

/-- No call changes the reference classes. -/
theorem answer_reference (db : Cmdb) (op : CmdbOp) (outcome : Outcome) :
    (db.answer op outcome).2.reference = db.reference := by
  rcases db.answer_db op outcome with same | effect
  · rw [same]
  · rw [effect, db.effect_reference op]

end Cmdb

section Rules

variable {permits : Faults} {inv : World → Prop} {state : FieldErrors} {world : World}

/-- One call steps to the world of its outcome, which is how a step is taken
apart. -/
theorem faulty_next {op : CmdbOp} {reply : Except CallError op.Rows} {after : World}
    (step : faulty permits (.cmdb op) world reply after) :
    ∃ outcome, permits op outcome ∧ reply = (world.db.answer op outcome).1 ∧
      after = world.next op outcome := by
  obtain ⟨recorded, outcome, permitted, result⟩ := step
  refine ⟨outcome, permitted, by rw [result], ?_⟩
  obtain ⟨afterDb, afterHistory⟩ := after
  simp only at recorded
  simp only [World.next, result, recorded]

/-- The rule for a single invocation: one obligation for each permitted outcome. -/
theorem cmdb_ensures {op : CmdbOp} {post : Except Exn op.Rows → FieldErrors → World → Prop}
    (answered : ∀ outcome, permits op outcome → inv (world.next op outcome) ∧
      post ((world.db.answer op outcome).1.mapError CallError.toExn) state
        (world.next op outcome)) :
    (cmdb op).Ensures (faulty permits) inv post state world := by
  rw [cmdb, Action.ensures_request]
  intro reply after step
  obtain ⟨outcome, permitted, rfl, rfl⟩ := faulty_next step
  exact answered outcome permitted

/-- What ends a call at one invocation, by the reply of the store. -/
def replyExit (handler : InstanceHandler) (options : CallOptions) {ρ : Type}
    (post : Except Exn (Option ρ) → FieldErrors → World → Prop) (Amb : World → Prop)
    (state : FieldErrors) (after : World) : Except CallError ρ → Prop
  | .ok row => post (.ok (some row)) state after
  | .error error =>
      if error.isTransport = true then Amb after ∧ post (.error error.toExn) state after
      else post (if options.raiseOnDataError then
          .error (.cmdbException (handler.errorMessage options error.toExn))
        else .ok none) (handler.recorded options error.toExn state) after

variable {handler : InstanceHandler}

/-- Where the exit asked of a reply is met by an error, the exit asked of the
failure is met by its exception: the two classify the error alike. -/
theorem replyExit_failure {options : CallOptions} {ρ : Type}
    {post : Except Exn (Option ρ) → FieldErrors → World → Prop} {Amb : World → Prop}
    {after : World} {error : CallError}
    (exit : replyExit handler options post Amb state after (.error error)) :
    handler.failureExit options post Amb state error.toExn after := by
  simp only [replyExit] at exit
  simp only [InstanceHandler.failureExit, toExn_foreign]
  by_cases transport : error.isTransport = true
  · have kind := (classify_toExn error).mpr transport
    rw [if_pos transport] at exit
    simpa [kind] using exit
  · have kind : classify error.toExn ≠ .transport := fun same =>
      transport ((classify_toExn error).mp same)
    rw [if_neg transport] at exit
    simpa [kind] using exit

/-- One invocation leaves the call as the reply of the store says. It is the
rule for a single call, with the reply carried over to the exception that the
code sees. -/
theorem invocation_ensures {options : CallOptions} {op : CmdbOp} {Amb : World → Prop}
    {post : Except Exn (Option op.Rows) → FieldErrors → World → Prop}
    (invoked : ∀ outcome, permits op outcome → inv (world.next op outcome) ∧
      replyExit handler options post Amb state (world.next op outcome)
        (world.db.answer op outcome).1) :
    (cmdb op).Ensures (faulty permits) inv (handler.opExit options post Amb state) state
      world := by
  apply cmdb_ensures
  intro outcome permitted
  obtain ⟨kept, exit⟩ := invoked outcome permitted
  refine ⟨kept, rfl, ?_⟩
  cases reply : (world.db.answer op outcome).1 with
  | ok row =>
    rw [reply] at exit
    exact exit
  | error error =>
    rw [reply] at exit
    exact replyExit_failure exit

/-- The rule for one CMDB call with its selector. `Pre` holds before each
invocation and `Amb` after an ambiguous failure, from where the selector has to
lead back or end the call. -/
theorem call_ensures (Pre Amb : World → Prop) {options : CallOptions} {op : CmdbOp}
    {selector : Option (Run (Option op.Rows))}
    {post : Except Exn (Option op.Rows) → FieldErrors → World → Prop}
    (start : Pre world)
    (invoked : ∀ world, Pre world → ∀ outcome, permits op outcome →
      inv (world.next op outcome) ∧
        replyExit handler options post Amb state (world.next op outcome)
          (world.db.answer op outcome).1)
    (selected : ∀ reselection, selector = some reselection → ∀ world, Amb world →
      reselection.Ensures (faulty permits) inv (InstanceHandler.selectorExit post Pre Amb state)
        state world)
    (repeatable : selector = none → ∀ world, Amb world → Pre world) :
    (handler.cmdbCall options (cmdb op) selector).Ensures (faulty permits) inv post state
      world := by
  apply InstanceHandler.cmdbCall_ensures Pre Amb start ?_ selected repeatable
  intro world pre
  exact invocation_ensures (invoked world pre)

/-- A call without selector repeats from the condition it starts from. -/
theorem plainCall_ensures (Pre : World → Prop) {options : CallOptions} {op : CmdbOp}
    {post : Except Exn (Option op.Rows) → FieldErrors → World → Prop}
    (start : Pre world)
    (invoked : ∀ world, Pre world → ∀ outcome, permits op outcome →
      inv (world.next op outcome) ∧
        replyExit handler options post Pre state (world.next op outcome)
          (world.db.answer op outcome).1) :
    (handler.cmdbCall options (cmdb op)).Ensures (faulty permits) inv post state world :=
  call_ensures Pre Pre start invoked (fun _ absent => nomatch absent) (fun _ _ pre => pre)

/-- A reading invocation reads. -/
theorem next_reads (world : World) (op : CmdbOp) (reads : op.writes = false) (outcome : Outcome) :
    world.Reads (world.next op outcome) :=
  ⟨world.db.answer_read op reads outcome, _, rfl, by simp [Event.isRead, reads]⟩

/-- A read call: the store stays, and the call answers, is rejected, or is lost. -/
theorem readCall_ensures {options : CallOptions} {op : CmdbOp} (reads : op.writes = false)
    {post : Except Exn (Option op.Rows) → FieldErrors → World → Prop}
    (kept : ∀ (current : World) outcome, world.Reads current → permits op outcome →
      inv (current.next op outcome))
    (answered : ∀ after : World, world.Reads after →
      post (.ok (some (world.db.rows op))) state after)
    (rejected : ∀ (after : World) (error : CallError) (landed : Bool), world.Reads after →
      permits op (.fail error landed) → error.isTransport = false →
      post (if options.raiseOnDataError then
          .error (.cmdbException (handler.errorMessage options error.toExn))
        else .ok none) (handler.recorded options error.toExn state) after)
    (lost : ∀ (after : World) (error : CallError) (landed : Bool), world.Reads after →
      permits op (.fail error landed) → error.isTransport = true →
      post (.error error.toExn) state after) :
    (handler.cmdbCall options (cmdb op)).Ensures (faulty permits) inv post state world := by
  apply plainCall_ensures (fun current => world.Reads current) (.refl world)
  intro current sinceStart outcome permitted
  have stays : world.Reads (current.next op outcome) :=
    sinceStart.trans (next_reads current op reads outcome)
  refine ⟨kept current outcome sinceStart permitted, ?_⟩
  cases outcome with
  | ok =>
    have same := sinceStart.db
    have admitted : current.db.admits op = true := by
      cases op <;> first | rfl | simp [CmdbOp.writes] at reads
    have reply : (current.db.answer op .ok).1 = .ok (world.db.rows op) := by
      rw [same] at admitted
      simp [Cmdb.answer, admitted, same]
    rw [reply]
    exact answered _ stays
  | fail error landed =>
    simp only [Cmdb.answer, replyExit]
    split
    · rename_i transport
      exact ⟨stays, lost _ error landed stays permitted transport⟩
    · rename_i permanent
      exact rejected _ error landed stays permitted (by simpa using permanent)

/-- A read call that can only fail by transport answers what the store holds or
raises. -/
theorem transportRead_ensures {options : CallOptions} {op : CmdbOp} (reads : op.writes = false)
    (lossy : ∀ outcome, permits op outcome → transportFaults op outcome)
    {post : Except Exn (Option op.Rows) → FieldErrors → World → Prop}
    (kept : ∀ (current : World) outcome, world.Reads current → inv (current.next op outcome))
    (answered : ∀ after : World, world.Reads after →
      post (.ok (some (world.db.rows op))) state after)
    (lost : ∀ (after : World) (exc : Exn), world.Reads after → post (.error exc) state after) :
    (handler.cmdbCall options (cmdb op)).Ensures (faulty permits) inv post state world := by
  apply readCall_ensures reads (fun current outcome sinceStart _ =>
    kept current outcome sinceStart) answered
  · intro after error landed _ permitted permanent
    have transport : error.isTransport = true := lossy _ permitted
    rw [transport] at permanent
    cases permanent
  · exact fun after error _ sinceStart _ _ => lost after error.toExn sinceStart

/-- A repeatable call that no foreign key refuses and that can only fail by transport. -/
theorem transportCall_ensures (Pre : World → Prop) {options : CallOptions} {op : CmdbOp}
    (free : ∀ db : Cmdb, db.admits op = true)
    (lossy : ∀ outcome, permits op outcome → transportFaults op outcome)
    {post : Except Exn (Option op.Rows) → FieldErrors → World → Prop} (start : Pre world)
    (kept : ∀ current outcome, Pre current →
      inv (current.next op outcome) ∧ Pre (current.next op outcome))
    (answered : ∀ current : World, Pre current →
      post (.ok (some (current.db.rows op))) state (current.next op .ok))
    (lost : ∀ (after : World) (exc : Exn), Pre after → post (.error exc) state after) :
    (handler.cmdbCall options (cmdb op)).Ensures (faulty permits) inv post state world := by
  apply plainCall_ensures Pre start
  intro current pre outcome permitted
  obtain ⟨holds, again⟩ := kept current outcome pre
  refine ⟨holds, ?_⟩
  cases outcome with
  | ok =>
    simp only [Cmdb.answer, free current.db, if_true, replyExit]
    exact answered current pre
  | fail error landed =>
    have transport : error.isTransport = true := lossy _ permitted
    simp only [Cmdb.answer, replyExit, if_pos transport]
    exact ⟨again, lost _ _ again⟩

/-- How a truthful look into the store ends: with the answer, or with a failure. -/
def probeExit {α : Type} (ghost : World → Prop) (answer : α) (db : Cmdb) (state : FieldErrors)
    (result : Except Exn α) (final : FieldErrors) (after : World) : Prop :=
  final = state ∧ after.db = db ∧ ghost after ∧
    match result with
    | .ok found => found = answer
    | .error exc => exc.isCmdbException = false

/-- An insert whose selector reads the store. Around it the store is `start` or
`start` with the insert; the selector's answer is what `probe` finds there, and it
always finds an insert that took effect. `ghost` is known after every invocation. -/
theorem recoveredInsert_ensures {options : CallOptions} {op : CmdbOp}
    {selector : Run (Option op.Rows)}
    {post : Except Exn (Option op.Rows) → FieldErrors → World → Prop}
    (start : Cmdb) (ghost : World → Prop) (probe : Cmdb → Option op.Rows)
    (begins : world.db = start) (admitted : start.admits op = true)
    (within : ∀ outcome, permits op outcome → anyFaults op outcome)
    (detects : probe (start.effect op) ≠ none)
    (invoked : ∀ (current : World) outcome, current.db = start → permits op outcome →
      inv (current.next op outcome) ∧ ghost (current.next op outcome))
    (selects : ∀ current : World, (current.db = start ∨ current.db = start.effect op) →
      ghost current → selector.Ensures (faulty permits) inv
        (probeExit ghost (probe current.db) current.db state) state current)
    (landed : ∀ after : World, after.db = start.effect op →
      post (.ok (some (start.rows op))) state after)
    (recovered : ∀ (after : World) row, (after.db = start ∨ after.db = start.effect op) →
      probe after.db = some row → post (.ok (some row)) state after)
    (rejected : ∀ (after : World) (error : CallError), after.db = start →
      permits op (.fail error false) → error.isTransport = false →
      post (if options.raiseOnDataError then
          .error (.cmdbException (handler.errorMessage options error.toExn))
        else .ok none) (handler.recorded options error.toExn state) after)
    (lost : ∀ (after : World) (exc : Exn), (after.db = start ∨ after.db = start.effect op) →
      exc.isCmdbException = false → post (.error exc) state after) :
    (handler.cmdbCall options (cmdb op) (some selector)).Ensures (faulty permits) inv post state
      world := by
  apply call_ensures (fun current => current.db = start)
    (fun current => (current.db = start ∨ current.db = start.effect op) ∧ ghost current) begins
  · intro current same outcome permitted
    obtain ⟨kept, known⟩ := invoked current outcome same permitted
    refine ⟨kept, ?_⟩
    have possible := within outcome permitted
    cases outcome with
    | ok =>
      simp only [Cmdb.answer, same, admitted, if_true, replyExit]
      exact landed _ (by rw [World.next_db, same]; rfl)
    | fail error took =>
      simp only [Cmdb.answer, replyExit]
      split
      · have either : (current.next op (.fail error took)).db = start ∨
            (current.next op (.fail error took)).db = start.effect op := by
          rw [World.next_db, ← same]
          exact current.db.answer_db op (.fail error took)
        exact ⟨⟨either, known⟩, lost _ _ either (toExn_foreign error)⟩
      · rename_i permanent
        have silent : took = false := possible.resolve_left permanent
        subst silent
        exact rejected _ error same permitted (by simpa using permanent)
  · rintro _ ⟨⟩ current ⟨either, known⟩
    refine (selects current either known).mono ?_
    rintro result final after ⟨rfl, same, still, answer⟩
    have again : after.db = start ∨ after.db = start.effect op := same ▸ either
    refine ⟨rfl, ?_⟩
    cases result with
    | error exc => exact ⟨⟨again, still⟩, lost after exc again answer⟩
    | ok found =>
      simp only at answer
      rw [← same] at answer
      cases found with
      | some row => exact recovered after row again answer.symm
      | none =>
        rcases again with unchanged | took
        · exact unchanged
        · rw [took] at answer
          exact absurd answer.symm detects
  · intro absent
    cases absent

/-- A reading call answers what the store holds, or fails, and changes nothing
in either case. A read is admitted by every store. -/
theorem probe_ensures {op : CmdbOp} (reads : op.writes = false) (ghost : World → Prop)
    (kept : ∀ outcome, permits op outcome → inv (world.next op outcome) ∧
      ghost (world.next op outcome)) :
    (cmdb op).Ensures (faulty permits) inv
      (probeExit ghost (world.db.rows op) world.db state) state world := by
  apply cmdb_ensures
  intro outcome permitted
  obtain ⟨keptInv, known⟩ := kept outcome permitted
  refine ⟨keptInv, rfl, world.db.answer_read op reads outcome, known, ?_⟩
  cases outcome with
  | ok =>
    have admitted : world.db.admits op = true := by
      cases op <;> first | rfl | simp [CmdbOp.writes] at reads
    simp only [Cmdb.answer, admitted, if_true, Except.mapError]
  | fail error landed => exact toExn_foreign error

/-- With a budget of one attempt the selector is never asked, so only the
outcomes of one invocation are to be looked at. -/
theorem singleCall_ensures {options : CallOptions} {op : CmdbOp}
    {selector : Option (Run (Option op.Rows))}
    {post : Except Exn (Option op.Rows) → FieldErrors → World → Prop}
    (single : handler.budget options = 1)
    (invoked : ∀ outcome, permits op outcome → inv (world.next op outcome) ∧
      replyExit handler options post (fun _ => True) state (world.next op outcome)
        (world.db.answer op outcome).1) :
    (handler.cmdbCall options (cmdb op) selector).Ensures (faulty permits) inv post
      state world := by
  have operation : (cmdb op).Ensures (faulty permits) inv
      (handler.opExit options post (fun _ => True) state) state world :=
    invocation_ensures invoked
  have once : ∀ retry, (handler.invokeOp options true (cmdb op) retry).Ensures (faulty permits) inv
      post state world :=
    fun retry => InstanceHandler.invokeOp_ensures operation fun more => nomatch more
  rw [InstanceHandler.cmdbCall, single]
  cases selector with
  | none => exact once _
  | some selector => exact once _

/-- Where nothing fails a call is one invocation, and only a foreign key refuses it. -/
theorem faultlessCall_ensures {options : CallOptions} {op : CmdbOp}
    {selector : Option (Run (Option op.Rows))}
    {post : Except Exn (Option op.Rows) → FieldErrors → World → Prop}
    (kept : inv (world.next op .ok))
    (answered : world.db.admits op = true →
      post (.ok (some (world.db.rows op))) state (world.next op .ok))
    (refused : world.db.admits op = false → ∀ exc,
      post (if options.raiseOnDataError then
          .error (.cmdbException (handler.errorMessage options exc))
        else .ok none) (handler.recorded options exc state) (world.next op .ok)) :
    (handler.cmdbCall options (cmdb op) selector).Ensures (faulty noFaults) inv post state
      world := by
  apply call_ensures (fun current => current = world) (fun _ => False) rfl
  · rintro current rfl outcome rfl
    refine ⟨kept, ?_⟩
    by_cases admitted : current.db.admits op = true
    · simp only [Cmdb.answer, admitted, if_true, replyExit]
      exact answered admitted
    · simp only [Cmdb.answer, admitted, replyExit]
      exact refused (by simpa using admitted) _
  · exact fun _ _ _ impossible => impossible.elim
  · exact fun _ _ impossible => impossible.elim

end Rules

/-! ## Footprints -/

/-- Calls of the CMDB that pass a test, and nothing else. -/
def calls (allowed : CmdbOp → Prop) : ServiceOp → Prop
  | .cmdb op => allowed op
  | _ => False

/-- What every allowed call keeps, whatever its outcome, a program of allowed
calls keeps in every state and at its end. Only its footprint is needed. -/
theorem calls_ensures {α : Type} {permits : Faults} {inv : World → Prop}
    {allowed : CmdbOp → Prop} {action : Run α} {state : FieldErrors} {world : World}
    (only : action.Only (calls allowed)) (held : World → Prop)
    (step : ∀ before, held before → ∀ op, allowed op → ∀ outcome, permits op outcome →
      held (before.next op outcome))
    (implies : ∀ after, held after → inv after) (start : held world) :
    action.Ensures (faulty permits) inv (fun _ _ after => held after) state world := by
  have kept : action.Ensures (faulty permits) held (fun _ _ after => held after) state world := by
    apply only.ensures _ start
    intro op permitted before reply after holds moved
    cases op with
    | cmdb op =>
      obtain ⟨outcome, possible, _, rfl⟩ := faulty_next moved
      exact step before holds op permitted outcome possible
    | started message => exact permitted.elim
    | ack => exact permitted.elim
    | nack => exact permitted.elim
  exact kept.env_mono (fun _ _ _ _ same => same) implies

/-- A part of an action that only reads leaves the store alone. -/
theorem reads_ensures {α : Type} {permits : Faults} {inv : World → Prop} {action : Run α}
    (only : action.Only (calls fun op => op.writes = false)) {state : FieldErrors} {world : World}
    (kept : ∀ after, world.Reads after → inv after) :
    action.Ensures (faulty permits) inv (fun _ _ after => world.Reads after) state world := by
  apply calls_ensures only world.Reads _ kept (.refl world)
  intro before sinceStart op reads outcome _
  exact sinceStart.trans (next_reads before op reads outcome)

end InstanceLifecycle
