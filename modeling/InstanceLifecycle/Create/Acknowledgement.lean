import InstanceLifecycle.Handler.Footprints
import InstanceLifecycle.Service.Rules
import InstanceLifecycle.Handler.AsciiRuntime

/-!
# What an acked create has done

A create is acked when its last attempt ended normally. The events of that attempt
tell whether the insert or its selector handed back a row, and whether a call of
the re-creation was rejected for good. An attempt that meets such a rejection ends
normally and without a row; every other attempt without a row raises.
-/

namespace InstanceLifecycle

open Interaction Store

namespace Event

/-- The insert, or the selector that recovers it, handed back a server row. -/
def handsRow : Event → Bool
  | ⟨.cmdb (.serverInsertOne _), .ok _⟩ => true
  | ⟨.cmdb (.serverSelectOneByHostname _), .ok (some _)⟩ => true
  | _ => false

/-- Answered with an error that is not one of transport, so repeating the call
is of no use. -/
def rejected : Event → Bool
  | ⟨.cmdb _, .error error⟩ => !error.isTransport
  | _ => false

end Event

/-- The calls a re-creation cannot do without: the select of the rows to remove,
their deletes, and the insert. -/
def CmdbOp.recreates : CmdbOp → Bool
  | .serverSelect _ | .railsDelete _ | .serverDelete _ | .serverInsertOne _ => true
  | _ => false

/-- A call of the re-creation was rejected for good. Rejections of any other
call, and transport failures, do not count. -/
def Event.rejectsRecreation (event : Event) : Bool :=
  match event.op with
  | .cmdb op => op.recreates && event.rejected
  | _ => false

/-- The events since the processing last started. A message-level retry begins a
new attempt, and only the last one decides the confirmation. -/
def lastAttempt (history : List Event) : List Event :=
  (history.reverse.takeWhile (fun event => !event.isStart)).reverse

/-- An ack needs the row of the last attempt; without that row there is a nack. -/
def AckMeansRecreated (history : List Event) : Prop :=
  (history.any Event.isAck = true → (lastAttempt history).any Event.handsRow = true) ∧
    ((lastAttempt history).any Event.handsRow = false →
      history.any Event.isNack = true ∧ history.any Event.isAck = false)

/-- What follows a start and contains no other start is the last attempt. The
search goes backwards, so it stops at this start. -/
theorem lastAttempt_after (earlier tail : List Event) (start : Event)
    (starts : start.isStart = true) (within : ∀ event ∈ tail, event.isStart = false) :
    lastAttempt (earlier ++ start :: tail) = tail := by
  have shape : (earlier ++ start :: tail).reverse = tail.reverse ++ start :: earlier.reverse := by
    simp
  unfold lastAttempt
  rw [shape, List.takeWhile_append_of_pos]
  · simp [starts]
  · intro event member
    simp [within event (List.mem_reverse.mp member)]

/-! ## The calls of one attempt -/

/-- The calls since a point of the history, and what they have shown so far. -/
structure Tally (before : List Event) (hands rejects : Bool) (history : List Event) : Prop where
  calls : ∃ tail, history = before ++ tail ∧ (∀ event ∈ tail, event.isCall = true) ∧
    tail.any Event.handsRow = hands ∧ tail.any Event.rejectsRecreation = rejects

variable {permits : Faults} {state : FieldErrors} {world : World} {before : List Event}
  {hands rejects : Bool}

/-- At the start of an attempt nothing has been shown yet. -/
theorem Tally.start (before : List Event) : Tally before false false before :=
  ⟨[], by simp⟩

/-- One more event of a call updates both answers of the tally. -/
theorem Tally.step {history : List Event} (tally : Tally before hands rejects history)
    (event : Event) (call : event.isCall = true) :
    Tally before (hands || event.handsRow) (rejects || event.rejectsRecreation)
      (history ++ [event]) := by
  obtain ⟨tail, rfl, calls, handed, met⟩ := tally.calls
  refine ⟨tail ++ [event], by simp, ?_, by simp [handed], by simp [met]⟩
  intro other member
  rcases List.mem_append.mp member with old | new
  · exact calls other old
  · rw [List.mem_singleton.mp new]
    exact call

/-- A call that neither hands back a row nor belongs to the re-creation. -/
def CmdbOp.neutral : CmdbOp → Bool
  | .serverSelectOneByHostname _ => false
  | op => !op.recreates

/-- A neutral call leaves the tally as it was. It is neither the insert nor its
selector, so it hands back no row, and its rejection is not one of the
re-creation. -/
theorem Tally.neutral {history : List Event} (tally : Tally before hands rejects history)
    (op : CmdbOp) (neutral : op.neutral = true) (reply : Except CallError op.Rows) :
    Tally before hands rejects (history ++ [⟨.cmdb op, reply⟩]) := by
  have noRow : Event.handsRow ⟨.cmdb op, reply⟩ = false := by
    cases op <;> simp_all [CmdbOp.neutral, CmdbOp.recreates, Event.handsRow]
  have noReject : Event.rejectsRecreation ⟨.cmdb op, reply⟩ = false := by
    have outside : op.recreates = false := by
      cases op <;> simp_all [CmdbOp.neutral, CmdbOp.recreates]
    simp [Event.rejectsRecreation, outside]
  have stepped := tally.step ⟨.cmdb op, reply⟩ rfl
  rw [noRow, noReject, Bool.or_false, Bool.or_false] at stepped
  exact stepped

/-- A part of the action that issues neutral calls only leaves the tally alone. -/
theorem neutral_ensures {α : Type} {action : Run α}
    (only : action.Only (calls fun op => op.neutral = true))
    (tally : Tally before hands rejects world.history) :
    action.Ensures (faulty permits) (fun _ => True)
      (fun _ _ after => Tally before hands rejects after.history) state world :=
  calls_ensures only (fun after => Tally before hands rejects after.history)
    (fun _ held op neutral _ _ => held.neutral op neutral _) (fun _ _ => trivial) tally

/-! ## The re-creation -/

/-- How a step of the removal leaves the attempt: an own exception was a rejection. -/
def removalExit (before : List Event) {α : Type} (result : Except Exn α) (_ : FieldErrors)
    (after : World) : Prop :=
  match result with
  | .ok _ => Tally before false false after.history
  | .error exc => Tally before false exc.isCmdbException after.history

/-- How the re-creation leaves the attempt: with a row handed back, or with an
exception that is the handler's own exactly when a call was rejected for good.
It never ends without a row. -/
def recreationExit (before : List Event) (result : Except Exn (Option Nat)) (_ : FieldErrors)
    (after : World) : Prop :=
  match result with
  | .ok (some _) => Tally before true false after.history
  | .ok none => False
  | .error exc => Tally before false exc.isCmdbException after.history

/-- A failed call of the re-creation is a rejection unless transport failed. -/
theorem rejectsRecreation_error (op : CmdbOp) (error : CallError) (needed : op.recreates = true) :
    Event.rejectsRecreation ⟨.cmdb op, .error error⟩ = !error.isTransport := by
  simp [Event.rejectsRecreation, Event.rejected, needed]

/-- A failed call hands back no row. -/
theorem handsRow_error (op : CmdbOp) (error : CallError) :
    Event.handsRow ⟨.cmdb op, .error error⟩ = false := by
  cases op <;> rfl

/-- The tally after a failed call of the re-creation: still no row, and a
rejection unless the failure was one of transport. -/
theorem Tally.failed {history : List Event} (tally : Tally before false false history)
    (op : CmdbOp) (needed : op.recreates = true) (error : CallError) :
    Tally before false (!error.isTransport) (history ++ [⟨.cmdb op, .error error⟩]) := by
  have stepped := tally.step ⟨.cmdb op, .error error⟩ rfl
  rwa [handsRow_error, rejectsRecreation_error op error needed, Bool.false_or, Bool.false_or]
    at stepped

/-- A failed call that raises on data errors satisfies any exit that its
exception satisfies. By cases on the failure: transport leaves the tally
unmarked for another attempt, and a rejection marks it as the exception is
raised. -/
theorem replyExit_failed {handler : InstanceHandler} {options : CallOptions}
    (raises : options.raiseOnDataError = true) (op : CmdbOp) (needed : op.recreates = true)
    {history : List Event} (tally : Tally before false false history) (error : CallError)
    (db : Cmdb) {ρ : Type} {post : Except Exn (Option ρ) → FieldErrors → World → Prop}
    (raised : ∀ exc final (after : World), Tally before false exc.isCmdbException after.history →
      post (.error exc) final after) :
    replyExit handler options post (fun after => Tally before false false after.history) state
      ⟨db, history ++ [⟨.cmdb op, .error error⟩]⟩ (.error error) := by
  have failed := tally.failed op needed error
  simp only [replyExit, raises, if_true]
  by_cases transport : error.isTransport = true
  · rw [if_pos transport]
    rw [transport] at failed
    exact ⟨failed, raised _ _ _ (by rw [toExn_foreign]; exact failed)⟩
  · rw [if_neg transport]
    have permanent : error.isTransport = false := by simpa using transport
    rw [permanent] at failed
    exact raised _ _ _ failed

/-- A call of the removal leaves the attempt as the exit says. The rule of the
retry loop repeats it under the unmarked tally. -/
theorem removalCall_ensures {handler : InstanceHandler} {options : CallOptions}
    (raises : options.raiseOnDataError = true) (op : CmdbOp) (needed : op.recreates = true)
    (noInsert : ∀ rows, Event.handsRow ⟨.cmdb op, .ok rows⟩ = false)
    (tally : Tally before false false world.history) :
    (handler.cmdbCall options (cmdb op)).Ensures (faulty permits) (fun _ => True)
      (removalExit before) state world := by
  apply plainCall_ensures (fun current => Tally before false false current.history) tally
  intro current held outcome _
  refine ⟨trivial, ?_⟩
  unfold World.next
  cases (current.db.answer op outcome).1 with
  | ok rows =>
    have stepped := held.step ⟨.cmdb op, .ok rows⟩ rfl
    have clean : Event.rejectsRecreation ⟨.cmdb op, .ok rows⟩ = false := by
      simp [Event.rejectsRecreation, Event.rejected]
    rwa [noInsert rows, clean, Bool.or_false] at stepped
  | error error =>
    exact replyExit_failed raises op needed held error _ fun _ _ _ reached => reached

/-- Deleting rails leaves the attempt as the exit says, by induction on the
rails left. -/
theorem deleteRails_tally (handler : InstanceHandler) (rails : List Nat)
    (tally : Tally before false false world.history) :
    (handler.deleteRails rails).Ensures (faulty permits) (fun _ => True) (removalExit before)
      state world := by
  induction rails generalizing state world with
  | nil => exact tally
  | cons rail rest ih =>
    unfold InstanceHandler.deleteRails
    refine (removalCall_ensures rfl (.railsDelete rail) rfl (fun _ => rfl) tally).bind ?_ ?_
    · intro deleted middle after held
      exact ih held
    · intro exc middle after held
      exact held

/-- Deleting servers leaves the attempt as the exit says. By induction on the
servers; each deletes its rails first. -/
theorem deleteServers_tally (handler : InstanceHandler) (servers : List ServerItem)
    (tally : Tally before false false world.history) :
    (handler.deleteServers servers).Ensures (faulty permits) (fun _ => True) (removalExit before)
      state world := by
  induction servers generalizing state world with
  | nil => exact tally
  | cons server rest ih =>
    unfold InstanceHandler.deleteServers
    refine (deleteRails_tally handler server.rails tally).bind ?_ fun _ _ _ held => held
    intro rails middle after held
    refine (removalCall_ensures rfl (.serverDelete server.id) rfl (fun _ => rfl) held).bind ?_ ?_
    · intro deleted middle after held
      exact ih held
    · intro exc middle after held
      exact held

/-- The whole removal leaves the attempt as the exit says: the select, then the
deletes of what it found, or nothing when it found none. -/
theorem removeServer_tally (handler : InstanceHandler) (uuid hostname : Option String)
    (tally : Tally before false false world.history) :
    (handler.removeServer uuid hostname).Ensures (faulty permits) (fun _ => True)
      (removalExit before) state world := by
  unfold InstanceHandler.removeServer
  refine (removalCall_ensures rfl (.serverSelect _) rfl (fun _ => rfl) tally).bind ?_
    fun _ _ _ held => held
  intro servers middle after held
  cases servers.getD [] with
  | nil => exact held
  | cons server rest =>
    simp only
    refine (deleteServers_tally handler (server :: rest) held).bind ?_ fun _ _ _ held => held
    intro deleted middle after held
    exact held

/-- Without a rejection the re-creation raises or hands back a row. The insert
may be answered by its selector, and both of them count as handing the row back. -/
theorem recreateServerRow_tally (handler : InstanceHandler) (ctx : CreateContext)
    (tally : Tally before false false world.history) :
    (handler.recreateServerRow ctx).Ensures (faulty permits) (fun _ => True)
      (recreationExit before) state world := by
  unfold InstanceHandler.recreateServerRow
  refine (removeServer_tally handler _ _ tally).bind ?_ fun _ _ _ held => held
  intro removed middle after held
  apply call_ensures (fun current => Tally before false false current.history)
    (fun current => Tally before false false current.history) held
  · -- One invocation of the insert.
    intro current start outcome _
    refine ⟨trivial, ?_⟩
    unfold World.next
    cases (current.db.answer (.serverInsertOne (handler.serverColumns ctx)) outcome).1 with
    | ok row =>
      have stepped := start.step ⟨.cmdb (.serverInsertOne (handler.serverColumns ctx)), .ok row⟩ rfl
      simpa [replyExit, recreationExit, Event.handsRow, Event.rejectsRecreation, Event.rejected]
        using stepped
    | error error =>
      exact replyExit_failed rfl _ rfl start error _ fun _ _ _ reached => reached
  · -- The selector in front of a repeated insert.
    rintro _ ⟨⟩ current ambiguous
    apply cmdb_ensures
    intro outcome _
    refine ⟨trivial, rfl, ?_⟩
    unfold World.next
    have stepped := ambiguous.step ⟨.cmdb (.serverSelectOneByHostname ctx.hostname),
      (current.db.answer (.serverSelectOneByHostname ctx.hostname) outcome).1⟩ rfl
    cases reply : (current.db.answer (.serverSelectOneByHostname ctx.hostname) outcome).1 with
    | ok found =>
      rw [reply] at stepped
      cases found <;> simpa [Except.mapError, recreationExit, Event.handsRow,
        Event.rejectsRecreation, CmdbOp.recreates] using stepped
    | error error =>
      rw [reply] at stepped
      have same : Tally before false false (current.history ++
          [⟨.cmdb (.serverSelectOneByHostname ctx.hostname), .error error⟩]) := by
        simpa [Event.handsRow, Event.rejectsRecreation, CmdbOp.recreates] using stepped
      refine ⟨same, ?_⟩
      simp only [recreationExit, toExn_foreign]
      exact same
  · intro absent
    cases absent

/-! ## The attempt -/

/-- A normal end has either the row or a rejection; an exception has no rejection. -/
def createExit (before : List Event) (result : Except Exn Unit) (_ : FieldErrors)
    (after : World) : Prop :=
  match result with
  | .ok _ => ∃ hands, Tally before hands (!hands) after.history
  | .error _ => ∃ hands, Tally before hands false after.history

/-- The message lists a resource of type `instance`. The handler drops a create
without one before any call. -/
def hasInstance (message : Message) : Prop :=
  ∃ resources, message.resources = some resources ∧
    ∃ resource ∈ resources, resource.resourceType = some "instance"

/-- With such a resource listed the extraction returns one, the first of them. -/
theorem extractResource_instance (handler : InstanceHandler) (message : Message)
    (carried : hasInstance message) :
    ∃ resource, handler.extractResource message "instance" = .ok (some resource) := by
  obtain ⟨resources, listed, resource, member, typed⟩ := carried
  have kept : resource ∈ resources.filter (fun resource =>
      decide (resource.resourceType = some "instance")) := by
    simp [member, typed]
  obtain ⟨first, rest, found⟩ := List.exists_cons_of_ne_nil (List.ne_nil_of_mem kept)
  exact ⟨first, by simp [InstanceHandler.extractResource, InstanceHandler.extractResources,
    listed, found, Except.map]⟩

/-- A create that carries an instance is not dropped: building its context
raises or returns a context. -/
theorem buildCreateContext_some (handler : InstanceHandler) (message : Message)
    (carried : hasInstance message) :
    (handler.buildCreateContext message).Ensures (faulty permits) (fun _ => True)
      (fun result _ _ => result ≠ .ok none) state world := by
  obtain ⟨resource, found⟩ := extractResource_instance handler message carried
  unfold InstanceHandler.buildCreateContext
  rw [found, Action.ensures_bind, Action.ensures_lift]
  refine (Action.ensures_trivial _).bind ?_ (by simp)
  intro read middle after _
  refine (Action.ensures_trivial _).bind ?_ (by simp)
  intro hostNetworks middle after _
  refine (Action.ensures_trivial _).bind ?_ (by simp)
  intro resourceCloud middle after _
  refine (Action.ensures_trivial _).bind ?_ (by simp)
  intro tags middle after _
  refine (Action.ensures_trivial _).bind ?_ (by simp)
  intro resolved middle after _
  rw [Action.ensures_pure]
  simp

/-- A create leaves its attempt with the tally that its exit names. Up to the
re-creation and after it all calls are neutral, so only that phase counts. -/
theorem createInstances_tally (handler : InstanceHandler) (message : Message)
    (carried : hasInstance message) (tally : Tally before false false world.history) :
    (handler.createInstances message).Ensures (faulty permits) (fun _ => True)
      (createExit before) state world := by
  have reads : (handler.buildCreateContext message).Only (calls fun op => op.neutral = true) :=
    InstanceHandler.buildCreateContext_only (fun _ => rfl) fun _ => rfl
  unfold InstanceHandler.createInstances
  rw [Action.ensures_bind, Action.ensures_modify]
  refine ((buildCreateContext_some handler message carried).and
    (neutral_ensures reads tally)).env_mono (fun _ _ _ _ step => step) (fun _ _ => trivial)
    |>.bind ?_ fun _ _ _ held => ⟨false, held.2⟩
  rintro context middle after ⟨present, held⟩
  cases context with
  | none => exact (present rfl).elim
  | some ctx =>
    simp only
    rw [Action.ensures_bind, Action.ensures_attempt]
    refine (recreateServerRow_tally handler ctx held).mono ?_
    intro result final after recreated
    cases result with
    | error exc =>
      simp only [recreationExit] at recreated
      simp only
      split
      · rename_i own
        rw [own] at recreated
        exact ⟨false, recreated⟩
      · rename_i foreign
        rw [Bool.not_eq_true] at foreign
        rw [foreign] at recreated
        exact ⟨false, recreated⟩
    | ok row =>
      cases row with
      | none => exact recreated.elim
      | some newServerId =>
        -- The row is there: what follows issues neutral calls only.
        have rest : (do
            handler.writeCreateFields ctx
            handler.persistNetEndpoints ctx newServerId
            handler.setFinalState ctx : Run Unit).Only (calls fun op => op.neutral = true) := by
          refine Action.Only.bind (InstanceHandler.writeCreateFields_only fun _ _ =>
            ⟨rfl, fun _ _ => rfl⟩) fun _ => ?_
          refine Action.Only.bind (InstanceHandler.persistCards_only ?_) fun _ => ?_
          · intro op cards
            cases op <;> first | rfl | simp [CmdbOp.ofCards, CmdbOp.ofAddresses] at cards
          · exact InstanceHandler.setFinalState_only fun _ => rfl
        refine (neutral_ensures rest recreated).mono ?_
        intro result final after held
        cases result with
        | ok value => exact ⟨true, held⟩
        | error exc => exact ⟨true, held⟩

/-! ## The message -/

/-- The history before an attempt: nothing confirmed, nothing rejected. Earlier
attempts may have failed by transport, and that is all they did. -/
def quiet (history : List Event) : Prop :=
  history.any Event.isAck = false ∧ history.any Event.isNack = false ∧
    history.any Event.rejectsRecreation = false

/-- The history after an attempt, with its tally. What came before the start of
the attempt was quiet. -/
def attempted (hands rejects : Bool) (history : List Event) : Prop :=
  ∃ earlier message, quiet earlier ∧
    Tally (earlier ++ [⟨.started message, ()⟩]) hands rejects history

/-- Events that are all calls of the store confirm nothing and start nothing. -/
theorem quiet_tail {history : List Event} (calls : ∀ event ∈ history, event.isCall = true) :
    history.any Event.isAck = false ∧ history.any Event.isNack = false ∧
      ∀ event ∈ history, event.isStart = false := by
  have none : ∀ event ∈ history, event.isAck = false ∧ event.isNack = false ∧
      event.isStart = false := by
    rintro ⟨op, reply⟩ member
    have call := calls _ member
    cases op <;> simp_all [Event.isCall, Event.isAck, Event.isNack, Event.isStart]
  refine ⟨?_, ?_, fun event member => (none event member).2.2⟩
  · simpa using fun event member => (none event member).1
  · simpa using fun event member => (none event member).2.1

/-- What a finished attempt shows, with the confirmations after it. A
confirmation is no start and no call, so it changes neither the last attempt nor
the rejections. -/
theorem attempted_facts {history : List Event} (held : attempted hands rejects history)
    (confirmations : List Event)
    (broker : ∀ event ∈ confirmations, event.isAck = true ∨ event.isNack = true) :
    (lastAttempt (history ++ confirmations)).any Event.handsRow = hands ∧
      (history ++ confirmations).any Event.rejectsRecreation = rejects ∧
      history.any Event.isAck = false ∧ history.any Event.isNack = false := by
  obtain ⟨earlier, message, ⟨noAck, noNack, noReject⟩, tally⟩ := held
  obtain ⟨tail, rfl, calls, handed, met⟩ := tally.calls
  obtain ⟨tailAck, tailNack, tailStart⟩ := quiet_tail calls
  have brokerOnly : ∀ event ∈ confirmations, event.handsRow = false ∧
      event.rejectsRecreation = false ∧ event.isStart = false := by
    rintro ⟨op, reply⟩ member
    have confirmed := broker _ member
    cases op <;> simp_all [Event.isAck, Event.isNack, Event.handsRow, Event.rejectsRecreation,
      Event.isStart]
  have noHands : confirmations.any Event.handsRow = false := by
    simpa using fun event member => (brokerOnly event member).1
  have noneRejected : confirmations.any Event.rejectsRecreation = false := by
    simpa using fun event member => (brokerOnly event member).2.1
  have last : lastAttempt (earlier ++ [⟨.started message, ()⟩] ++ tail ++ confirmations) =
      tail ++ confirmations := by
    have shape : earlier ++ [(⟨.started message, ()⟩ : Event)] ++ tail ++ confirmations =
        earlier ++ ⟨.started message, ()⟩ :: (tail ++ confirmations) := by simp
    rw [shape]
    apply lastAttempt_after _ _ _ rfl
    intro event member
    rcases List.mem_append.mp member with inTail | confirmed
    · exact tailStart event inTail
    · exact (brokerOnly event confirmed).2.2
  refine ⟨?_, ?_, ?_, ?_⟩
  · rw [last, List.any_append, handed, noHands, Bool.or_false]
  · simp [List.any_append, noReject, met, noneRejected, Event.rejectsRecreation]
  · simp [List.any_append, noAck, tailAck, Event.isAck]
  · simp [List.any_append, noNack, tailNack, Event.isNack]

/-- An attempt without a rejection leaves the history quiet, and the message may
be tried again from there. -/
theorem attempted_quiet {history : List Event} (held : attempted hands false history) :
    quiet history := by
  obtain ⟨_, noReject, noAck, noNack⟩ := attempted_facts held [] (by simp)
  rw [List.append_nil] at noReject
  exact ⟨noAck, noNack, noReject⟩

/-- The last attempt ended normally and was confirmed, by acks only. It handed
back a row or was rejected, one of the two. -/
def acknowledged (history : List Event) : Prop :=
  ∃ hands attempt confirmations, history = attempt ++ confirmations ∧
    attempted hands (!hands) attempt ∧ confirmations ≠ [] ∧
    ∀ event ∈ confirmations, event.isAck = true

/-- The last attempt raised and the message was refused, by nacks only. -/
def refused (history : List Event) : Prop :=
  ∃ hands attempt confirmations, history = attempt ++ confirmations ∧
    attempted hands false attempt ∧ confirmations ≠ [] ∧
    ∀ event ∈ confirmations, event.isNack = true

/-- A test that all of some events pass is passed by one of them, if there are
any. -/
theorem any_of_all {test : Event → Bool} {events : List Event} (some : events ≠ [])
    (all : ∀ event ∈ events, test event = true) : events.any test = true := by
  obtain ⟨event, member⟩ := List.exists_mem_of_ne_nil events some
  exact List.any_eq_true.mpr ⟨event, member, all event member⟩

/-- After acks the row is there exactly when nothing was rejected: an attempt
that ends normally was either handed a row or met a rejection. -/
theorem acknowledged_iff {history : List Event} (settled : acknowledged history) :
    AckMeansRecreated history ↔ history.any Event.rejectsRecreation = false := by
  obtain ⟨hands, attempt, confirmations, rfl, ended, some, acks⟩ := settled
  obtain ⟨handed, met, noAck, noNack⟩ := attempted_facts ended confirmations
    fun event member => Or.inl (acks event member)
  have ackSeen := any_of_all some acks
  unfold AckMeansRecreated
  rw [handed, met, List.any_append, ackSeen]
  cases hands <;> simp

/-- After nacks both sides are true. An attempt that met a rejection would have
ended normally and been acked. -/
theorem refused_iff {history : List Event} (settled : refused history) :
    AckMeansRecreated history ↔ history.any Event.rejectsRecreation = false := by
  obtain ⟨hands, attempt, confirmations, rfl, ended, some, nacks⟩ := settled
  obtain ⟨handed, met, noAck, noNack⟩ := attempted_facts ended confirmations
    fun event member => Or.inr (nacks event member)
  have nackSeen := any_of_all some nacks
  have neverAcked : ∀ event ∈ confirmations, event.isAck = false := by
    rintro ⟨op, reply⟩ member
    have nack := nacks _ member
    cases op <;> simp_all [Event.isAck, Event.isNack]
  have none : confirmations.any Event.isAck = false := by
    simpa using neverAcked
  unfold AckMeansRecreated
  rw [handed, met, List.any_append, List.any_append, noAck, none, nackSeen]
  simp

/-- One attempt at a create starts from a quiet history and ends in one of three
ways: a transport error that leaves it quiet, a normal end, or an exception
without a rejection. -/
theorem processDelivery_attempted (service : MessageHandlerService) (message : Message)
    (create : message.actionType = some "create") (carried : hasInstance message)
    (state : FieldErrors) (world : World) (start : quiet world.history) :
    (service.processDelivery (.ok message)).Ensures (faulty permits) (fun _ => True)
      (attemptExit (fun after => quiet after.history)
        (fun after => ∃ hands, attempted hands (!hands) after.history)
        (fun after => ∃ hands, attempted hands false after.history)) state world := by
  apply MessageHandlerService.processDelivery_ensures (faulty_within _).records trivial
  rw [service.handler.dispatch_create create]
  have tally := Tally.start (world.history ++ [⟨.started message, ()⟩])
  refine (createInstances_tally service.handler message carried tally).mono ?_
  intro result final after held
  cases result with
  | ok value =>
    obtain ⟨hands, held⟩ := held
    exact ⟨hands, world.history, message, start, held⟩
  | error exc =>
    obtain ⟨hands, held⟩ := held
    have ended : attempted hands false after.history := ⟨world.history, message, start, held⟩
    exact ⟨⟨hands, ended⟩, fun _ => attempted_quiet ended⟩

/-- The whole handling of a create ends acknowledged or refused. The retry rule
of the service runs the attempts, and each of them begins quietly. -/
theorem handleMessage_settled (service : MessageHandlerService) (message : Message)
    (create : message.actionType = some "create") (carried : hasInstance message)
    (attempts : 0 < service.maxRetries) (confirms : 0 < service.ackRetries)
    (state : FieldErrors) (world : World) (start : quiet world.history) :
    (service.handleMessage (.ok message)).Ensures (faulty permits) (fun _ => True)
      (fun _ _ after => acknowledged after.history ∨ refused after.history) state world := by
  apply MessageHandlerService.handleMessage_ensures (faulty_within _).records
    (fun after => quiet after.history)
    (fun after => ∃ hands, attempted hands (!hands) after.history)
    (fun after => ∃ hands, attempted hands false after.history)
    (fun after => acknowledged after.history) (fun after => refused after.history)
    (fun none => by omega)
    (processDelivery_attempted service message create carried)
  · rintro reply world (⟨hands, ended⟩ | ⟨hands, attempt, confirmations, parts, ended, some, acks⟩)
    · exact ⟨trivial, hands, world.history, [⟨.ack, reply⟩], rfl, ended, by simp,
        by simp [Event.isAck]⟩
    · refine ⟨trivial, hands, attempt, confirmations ++ [⟨.ack, reply⟩], by simp [parts], ended,
        by simp, ?_⟩
      intro event member
      rcases List.mem_append.mp member with old | new
      · exact acks event old
      · rw [List.mem_singleton.mp new]
        rfl
  · rintro reply world (⟨hands, ended⟩ | ⟨hands, attempt, confirmations, parts, ended, some, nacks⟩)
    · exact ⟨trivial, hands, world.history, [⟨.nack, reply⟩], rfl, ended, by simp,
        by simp [Event.isNack]⟩
    · refine ⟨trivial, hands, attempt, confirmations ++ [⟨.nack, reply⟩], by simp [parts], ended,
        by simp, ?_⟩
      intro event member
      rcases List.mem_append.mp member with old | new
      · exact nacks event old
      · rw [List.mem_singleton.mp new]
        rfl
  · intro unconfirmed
    omega
  · exact start

/-- One create, processed alone under any failures: an ack means a re-created row,
and a row that could not be re-created means a nack, exactly when no call of the
re-creation was answered with an error other than a transport error. -/
theorem ack_means_recreated_iff (service : MessageHandlerService) (message : Message)
    (create : message.actionType = some "create") (carried : hasInstance message)
    (attempts : 0 < service.maxRetries) (confirms : 0 < service.ackRetries)
    (permits : Faults) (db : Cmdb) (state errors : FieldErrors) (result : Except Exn Unit)
    (last : World)
    (run : Prog.Ends (faulty permits) ⟨db, []⟩ (service.handleMessage (.ok message) state)
      (result, errors) last) :
    AckMeansRecreated last.history ↔ last.history.any Event.rejectsRecreation = false := by
  have start : quiet (⟨db, []⟩ : World).history := ⟨rfl, rfl, rfl⟩
  have settled := (handleMessage_settled service message create carried attempts confirms state
    ⟨db, []⟩ start).at_end run
  rcases settled with acked | nacked
  · exact acknowledged_iff acked
  · exact refused_iff nacked

/-- A create with one card, for a host that is not registered. -/
def sampleCreate : Message :=
  AsciiRuntime.createMessage "dc1-b1" []
    [("net", [AsciiRuntime.fixedAddress "10.0.0.7" "m1" 1])]

/-- The sample create carries its instance. -/
theorem sampleCreate_instance : hasInstance sampleCreate :=
  ⟨_, rfl, _, List.mem_cons_self, rfl⟩

/-- The insert of the server row, the fourth event, is rejected for good and has
no effect. -/
def rejectedInsert : List (Nat × Outcome) := [(3, .fail (.data "rejected") false)]

/-- The script stays within arbitrary faults. -/
theorem rejectedInsert_possible (op : service.Op) (world : World) :
    faulty anyFaults op world (world.scripted rejectedInsert op).1
      (world.scripted rejectedInsert op).2 :=
  scripted_possible _ (fun _ => trivial) (by simp [rejectedInsert, anyFaults]) op world

/-- The world after the sample create under these replies, starting from an
empty store and history. -/
def sampleCreateEnd (script : List (Nat × Outcome)) : World :=
  ((AsciiRuntime.service.handleMessage (.ok sampleCreate) {}).run (World.scripted script)
    ⟨Cmdb.empty AsciiRuntime.reference, []⟩).2

/-- The equivalence at the sample create with its insert rejected, where both
sides are false. -/
theorem ack_means_recreated_iff_rejected :
    AckMeansRecreated (sampleCreateEnd rejectedInsert).history ↔
      (sampleCreateEnd rejectedInsert).history.any Event.rejectsRecreation = false :=
  ack_means_recreated_iff AsciiRuntime.service sampleCreate rfl sampleCreate_instance (by decide)
    (by decide) anyFaults (Cmdb.empty AsciiRuntime.reference) {} _ _ _
    (Prog.run_ends rejectedInsert_possible _ _)

/-- The insert of the row is rejected for good, no row is stored, and the message is
acked all the same. -/
theorem rejected_insert_acked :
    Prog.Ends (faulty anyFaults) ⟨Cmdb.empty AsciiRuntime.reference, []⟩
        (AsciiRuntime.service.handleMessage (.ok sampleCreate) {}) (.ok (), {})
        (sampleCreateEnd rejectedInsert) ∧
      (sampleCreateEnd rejectedInsert).history.any Event.isAck = true ∧
      (sampleCreateEnd rejectedInsert).db.servers.rows = [] ∧
      ¬ AckMeansRecreated (sampleCreateEnd rejectedInsert).history := by
  have acked : (sampleCreateEnd rejectedInsert).history.any Event.isAck = true := by decide
  have noRow :
      (lastAttempt (sampleCreateEnd rejectedInsert).history).any Event.handsRow = false := by
    decide
  refine ⟨Prog.run_ends rejectedInsert_possible _ _, acked, rfl, ?_⟩
  intro held
  have handed := held.1 acked
  rw [noRow] at handed
  exact Bool.false_ne_true handed

end InstanceLifecycle
