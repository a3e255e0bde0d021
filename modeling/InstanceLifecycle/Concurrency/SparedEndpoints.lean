import InstanceLifecycle.Attach.Pending
import InstanceLifecycle.Handler.AsciiRuntime

/-!
# A detach beside an attach

A detach deletes the IP with its address and then every endpoint of the host without IPs.
An attach of another address makes or picks its endpoint first and gives it an IP by a later
call; in between its endpoint is one without IPs. If the second call of the detach always
finds this endpoint with an IP, or the address of the attach in place, both messages do what
they are for, in every interleaving.
-/

namespace InstanceLifecycle

open Interaction Store InstanceHandler

/-! ## What a detach calls -/

/-- The two calls of a detach, with the address and host of its message. -/
def CmdbOp.ofDetach (address : String) (uuid : Option String) : CmdbOp → Prop
  | .ipDelete gone host => gone = address ∧ host = uuid
  | .endpointDeleteWithoutIps host => host = uuid
  | _ => False

/-- Every call of the detach is one of the two. -/
def detachRule (address : String) (uuid : Option String) (_ : List Event) (event : Event) : Prop :=
  match event.op with
  | .cmdb op => op.ofDetach address uuid
  | _ => True

/-- The delete of the address succeeded. -/
def Event.detaches (address : String) (uuid : Option String) (event : Event) : Prop :=
  ∃ ids, event = ⟨.cmdb (.ipDelete address uuid), .ok ids⟩

/-- The address was deleted at some point. -/
def Detached (address : String) (uuid : Option String) (history : List Event) : Prop :=
  ∃ event ∈ history, event.detaches address uuid

/-- One event more may be that delete. -/
theorem detached_append {address : String} {uuid : Option String} {history : List Event}
    {event : Event} : Detached address uuid (history ++ [event]) ↔
      Detached address uuid history ∨ event.detaches address uuid := by
  simp [Detached, or_and_right, exists_or]

/-- How a detach that is confirmed leaves its calls: acked after it deleted its address,
nacked after a failed call. -/
def DetachSettled (address : String) (uuid : Option String) (world : World) : Prop :=
  Detached address uuid world.history ∧ Acked world.history ∨
    Failed world ∧ Nacked world.history

section Detach

variable {permits : Faults} {handler : InstanceHandler} {address : String} {uuid : Option String}
  {state : FieldErrors} {world : World}

/-- The calls so far are those of the detach. -/
def Detaching (address : String) (uuid : Option String) (world : World) : Prop :=
  Justified (detachRule address uuid) world.history

/-- A call of a detach succeeds, or the exception is raised after a failed call. -/
theorem detachCall_ends {options : CallOptions} {op : CmdbOp}
    (raises : options.raiseOnDataError = true)
    (allowed : op.ofDetach address uuid)
    (held : List Event → Prop) (monotone : ∀ history event, held history → held (history ++ [event]))
    (now : Detaching address uuid world ∧ held world.history) :
    (handler.cmdbCall options (cmdb op)).Ensures (unsteady permits) (Detaching address uuid)
      (fun result _ after => Detaching address uuid after ∧ held after.history ∧ match result with
        | .ok _ => ∃ rows, ⟨.cmdb op, .ok rows⟩ ∈ after.history
        | .error _ => Failed after) state world := by
  refine (InstanceHandler.cmdbCall_exits
    (fun after => Detaching address uuid after ∧ held after.history)
    (fun after => (Detaching address uuid after ∧ held after.history) ∧ Failed after)
    (fun _ after => (Detaching address uuid after ∧ held after.history) ∧
      ∃ rows, ⟨.cmdb op, .ok rows⟩ ∈ after.history) now ?_ (fun _ absent => by cases absent)
    fun _ _ held => held.1).mono ?_
  · intro current before
    apply unsteady_reply
    intro reply
    have after : Detaching address uuid (current.record ⟨.cmdb op, reply⟩) :=
      justified_append.mpr ⟨before.1, allowed⟩
    refine ⟨after, rfl, ?_⟩
    cases reply with
    | ok rows => exact ⟨⟨after, monotone _ _ before.2⟩, rows, by simp⟩
    | error error => exact ⟨⟨after, monotone _ _ before.2⟩, failed_error current op error⟩
  · rintro (exc | _ | rows) final after ⟨-, exit⟩
    · exact ⟨exit.1.1, exit.1.2, exit.2⟩
    · have silent : options.raiseOnDataError = false := exit.1
      rw [raises] at silent
      cases silent
    · exact ⟨exit.1.1, exit.1.2, exit.2⟩

/-- A detach makes its two calls and ends with the address deleted, or with a
failed call. -/
theorem detachFromInstances_ends {message : Message}
    (read : handler.readDetach message = .ok (some (address, uuid)))
    (now : Detaching address uuid world) :
    (handler.detachFromInstances message).Ensures (unsteady permits) (Detaching address uuid)
      (fun result _ after => Detaching address uuid after ∧ match result with
        | .ok _ => Detached address uuid after.history
        | .error _ => Failed after) state world := by
  have deletesIps : (CmdbOp.ipDelete address uuid).ofDetach address uuid := ⟨rfl, rfl⟩
  have deletesEndpoints : (CmdbOp.endpointDeleteWithoutIps uuid).ofDetach address uuid := rfl
  rw [detachFromInstances, Action.ensures_bind, Action.ensures_lift, read]
  simp only
  refine (detachCall_ends rfl deletesIps (fun _ => True) (fun _ _ _ => trivial)
    ⟨now, trivial⟩).bind ?_ fun _ _ _ exit => ⟨exit.1, exit.2.2⟩
  rintro _ middle after ⟨before, -, ids, deleted⟩
  have gone : Detached address uuid after.history := ⟨_, deleted, ids, rfl⟩
  refine (detachCall_ends rfl deletesEndpoints (Detached address uuid)
    (fun _ _ earlier => detached_append.mpr (Or.inl earlier)) ⟨before, gone⟩).bind ?_
    fun _ _ _ exit => ⟨exit.1, exit.2.2⟩
  rintro _ final last ⟨still, deleted, -⟩
  exact ⟨still, deleted⟩

end Detach

/-- With attempts and confirmations left to it, a detach is settled by how it ended. -/
theorem detach_settles {permits : Faults} {worker : MessageHandlerService} {message : Message}
    {address : String} {uuid : Option String} {db : Cmdb} {state : FieldErrors}
    (attempts : 0 < worker.maxRetries) (confirms : 0 < worker.ackRetries)
    (detach : message.actionType = some "detach")
    (read : worker.handler.readDetach message = .ok (some (address, uuid))) :
    (worker.handleMessage (.ok message)).Ensures (unsteady permits) (Detaching address uuid)
      (fun _ _ after => DetachSettled address uuid after) state ⟨db, []⟩ := by
  have only : (worker.handler.dispatch message).Only (calls fun _ => True) := by
    rw [worker.handler.dispatch_detach detach]
    exact detachFromInstances_only (fun _ _ => trivial) fun _ => trivial
  have recorded : ∀ (event : Event) (world : World), event.isCall = false →
      Detaching address uuid world → Detaching address uuid (world.record event) := by
    intro event world noCall before
    refine justified_append.mpr ⟨before, ?_⟩
    obtain ⟨op, reply⟩ := event
    cases op with
    | cmdb op => cases noCall
    | started message => trivial
    | ack => trivial
    | nack => trivial
  refine (MessageHandlerService.handleMessage_confirms (unsteady_records permits)
    (fun after => Detaching address uuid after ∧ Unsettled after.history)
    (fun after => Detaching address uuid after ∧ Detached address uuid after.history)
    (fun after => Detaching address uuid after ∧ Failed after) attempts confirms ?_ ?_
    (⟨justified_nil (detachRule address uuid), rfl, rfl⟩ :
      Detaching address uuid ⟨db, []⟩ ∧ Unsettled [])).mono ?_
  · rintro state world ⟨before, unsettled⟩
    have started := recorded ⟨.started message, ()⟩ world rfl before
    have ends : (worker.processDelivery (.ok message)).Ensures (unsteady permits)
        (Detaching address uuid) (fun result _ after => Detaching address uuid after ∧
          match result with
            | .ok _ => Detached address uuid after.history
            | .error _ => Failed after) state world := by
      apply MessageHandlerService.processDelivery_ensures (unsteady_records permits) started
      rw [worker.handler.dispatch_detach detach]
      exact detachFromInstances_ends read started
    refine ((ends.and (processDelivery_unsettled worker only unsettled)).env_mono
      (fun _ _ _ _ step => step) fun _ held => held.1).mono ?_
    rintro (exc | value) final after ⟨exit, silent⟩
    · exact ⟨⟨exit, silent⟩, fun _ => ⟨exit.1, silent⟩⟩
    · exact ⟨exit, silent⟩
  · intro event world noCall noStart
    constructor
    · rintro ⟨before, gone⟩
      have after := recorded event world noCall before
      exact ⟨after, after, detached_append.mpr (Or.inl gone)⟩
    · rintro ⟨before, failed⟩
      have after := recorded event world noCall before
      exact ⟨after, after, failed.record event⟩
  · rintro result final after (⟨good, acked⟩ | ⟨bad, nacked⟩)
    · exact Or.inl ⟨good.2, acked⟩
    · exact Or.inr ⟨bad.2, nacked⟩

/-! ## What a detach leaves alone -/

/-- The second call of a detach finds the pending endpoint of the attach with an IP, or the
address of the attach in place. -/
def Cmdb.spares (db : Cmdb) (request : AttachRequest) (phase : Phase) : CmdbOp → Bool
  | .endpointDeleteWithoutIps _ => !(db.attached request.ipAddr request.hostUuid).isEmpty ||
      (phase.pending request).all (fun id => !(db.ipsOf id).isEmpty)
  | _ => true

/-- The calls of a detach that spares the endpoint succeed, and the attach can still rely on
the store. -/
theorem detach_leaves {request : AttachRequest} {host : Nat} {db : Cmdb} {phase : Phase}
    {op : CmdbOp} {gone : String} (held : phase.Holds request host db)
    (apart : request.ipAddr ≠ gone) (allowed : op.ofDetach gone request.hostUuid)
    (spared : db.spares request phase op = true) :
    db.admits op = true ∧ (db.effect op).servers = db.servers ∧
      phase.Holds request host (db.effect op) ∧
        (db.attached gone request.hostUuid = [] →
          (db.effect op).attached gone request.hostUuid = []) := by
  cases op with
  | ipDelete address uuid =>
    obtain ⟨rfl, rfl⟩ := allowed
    refine ⟨rfl, rfl, ?_, fun _ => db.attached_deleteIps _ _⟩
    apply held.frame (db.attached_deleteIps_other _ _ _ _ apart.symm)
    exact fun id _ _ stored => stored
  | endpointDeleteWithoutIps uuid =>
    refine ⟨rfl, rfl, ?_, fun none => (db.attached_deleteEndpointsWithoutIps _ _ _).trans none⟩
    apply held.frame (db.attached_deleteEndpointsWithoutIps _ _ _)
    rintro id known none ⟨endpoint, there, rfl, hangs⟩
    rw [Cmdb.spares, none, known] at spared
    have used : db.hasIps endpoint = true := by
      cases ips : db.ipsOf endpoint.id with
      | nil => simp [ips] at spared
      | cons ip rest =>
        have member : ip ∈ db.ipsOf endpoint.id := ips ▸ List.mem_cons_self
        obtain ⟨stored, same⟩ := List.mem_filter.mp member
        exact List.any_eq_true.mpr ⟨ip, stored, same⟩
    refine ⟨endpoint, (db.endpoints.mem_keep _ endpoint).mpr ⟨there, ?_⟩, rfl, hangs⟩
    simp [Cmdb.withoutIpsOn, used]
  | _ => exact allowed.elim

/-! ## Both messages -/

/-- The condition on a call of either side, in the state it finds. -/
def spares (request : AttachRequest) (op : service.Op) (shared : Shared) : Bool :=
  match op with
  | .cmdb call => shared.db.spares request (attachPhase (shared.heard .left)) call
  | _ => true

/-- The runs without failing calls in which the detach spares the endpoint of the attach. -/
def sparing (request : AttachRequest) (side : Side) : Env service Shared :=
  (racing noFaults side).meeting (fun op shared => spares request op shared = true)

/-- What the calls of each side are made of: the left one attaches, the right one detaches. -/
def besideRule (request : AttachRequest) (gone : String) : Side → List Event → Event → Prop
  | .left => attachRule (fun _ => True) request
  | .right => detachRule gone request.hostUuid

/-- What is known while an attach and a detach run on one host. -/
structure Beside (request : AttachRequest) (gone : String) (host : Row Columns)
    (shared : Shared) : Prop where
  located : shared.db.servers.rows.find? (fun server => hasUuid server request.hostUuid) = some host
  unfailed : ∀ side, (shared.heard side).any Event.failed = false
  attach : (attachPhase (shared.heard .left)).Holds request host.id shared.db
  detached : Detached gone request.hostUuid (shared.heard .right) →
    shared.db.attached gone request.hostUuid = []

section Step

variable {request : AttachRequest} {gone : String} {host : Row Columns} {before : Shared}

/-- A call of the attach keeps what is known: it deletes nothing, and its
endpoint stays. -/
theorem Beside.attach_called (known : Beside request gone host before)
    (apart : request.ipAddr ≠ gone) {op : CmdbOp}
    (allowed : (attachPhase (before.heard .left)).allows request (fun _ => True) op) :
    Beside request gone host (before.called .left op .ok) := by
  obtain ⟨admitted, held⟩ := known.attach.call known.located allowed
  obtain ⟨servers, addresses⟩ := before.db.allows_leaves apart allowed
  constructor
  · have same : (before.called .left op .ok).db.servers = before.db.servers := servers
    rw [same]
    exact known.located
  · exact unfailed_called known.unfailed .left admitted
  · rw [Shared.called, Shared.heard_move, attachPhase_append, answer_admitted admitted]
    exact held
  · intro deleted
    rw [Shared.called, Shared.heard_move_other _ _ _ _ (by decide)] at deleted
    exact (addresses _).trans (known.detached deleted)

/-- A call of the detach keeps it too, if it spares the endpoint that the attach
has settled on. This is where the condition is used. -/
theorem Beside.detach_called (known : Beside request gone host before)
    (apart : request.ipAddr ≠ gone) {op : CmdbOp} (allowed : op.ofDetach gone request.hostUuid)
    (spared : before.db.spares request (attachPhase (before.heard .left)) op = true) :
    Beside request gone host (before.called .right op .ok) := by
  obtain ⟨admitted, servers, held, still⟩ := detach_leaves known.attach apart allowed spared
  constructor
  · have same : (before.called .right op .ok).db.servers = before.db.servers := servers
    rw [same]
    exact known.located
  · exact unfailed_called known.unfailed .right admitted
  · rw [Shared.called, Shared.heard_move_other _ _ _ _ (by decide)]
    exact held
  · intro deleted
    rw [Shared.called, Shared.heard_move, detached_append] at deleted
    rcases deleted with earlier | ⟨ids, event⟩
    · exact still (known.detached earlier)
    · obtain ⟨ops, -⟩ := Event.mk.inj event
      cases ops
      exact before.db.attached_deleteIps _ _

/-- An event that is no call leaves the store alone, and at most starts the attach anew. -/
theorem Beside.recorded (known : Beside request gone host before) (side : Side) {event : Event}
    (noCall : event.isCall = false) :
    Beside request gone host (before.move side event before.db) := by
  have heard : ∀ other, (before.move side event before.db).heard other = before.heard other ∨
      (before.move side event before.db).heard other = before.heard other ++ [event] := by
    intro other
    by_cases same : other = side
    · rw [same]
      exact Or.inr (before.heard_move side event before.db)
    · exact Or.inl (before.heard_move_other side event before.db same)
  constructor
  · exact known.located
  · intro other
    rcases heard other with same | grown
    · rw [same]
      exact known.unfailed other
    · obtain ⟨op, reply⟩ := event
      rw [grown, List.any_append, known.unfailed other]
      cases op with
      | cmdb op => cases noCall
      | _ => rfl
  · rcases heard .left with same | grown
    · rw [same]
      exact known.attach
    · obtain ⟨op, reply⟩ := event
      rw [grown, attachPhase_append]
      cases op with
      | cmdb op => cases noCall
      | started message => trivial
      | ack => exact known.attach
      | nack => exact known.attach
  · intro deleted
    rcases heard .right with same | grown
    · rw [same] at deleted
      exact known.detached deleted
    · rw [grown, detached_append] at deleted
      rcases deleted with earlier | ⟨ids, rfl⟩
      · exact known.detached earlier
      · cases noCall

/-- The step lemma for an event of either side: the attach's endpoint survives a
call of the attach because the phases allow it, and one of the detach because
its delete spares the endpoint. -/
theorem Beside.step (known : Beside request gone host before) (apart : request.ipAddr ≠ gone)
    {side : Side} {after : Shared} {op : ServiceOp} {reply : op.Reply}
    (step : sparing request side op before reply after)
    (followed : Justified (besideRule request gone side) (after.heard side)) :
    Beside request gone host after := by
  obtain ⟨spared, moved⟩ := step
  revert followed
  apply racing_keeps (fun _ after => Justified (besideRule request gone side) (after.heard side) →
    Beside request gone host after) ?_ ?_ moved
  · rintro call outcome rfl rfl followed
    rw [Shared.called, Shared.heard_move] at followed
    have allowed := (justified_append.mp followed).2
    cases side with
    | left => exact known.attach_called apart allowed
    | right => exact known.detach_called apart allowed spared
  · exact fun event _ noCall _ => known.recorded side noCall

end Step

/-- What both messages are for: each is acked, the one address is on an endpoint of the host,
and the other on none. -/
structure BothDone (address gone : String) (uuid : Option String) (shared : Shared) : Prop where
  acked : ∀ side, Acked (shared.heard side)
  attached : ∃ ip ∈ shared.db.ips.rows, ip.data.ip = address ∧
    ∃ endpoint ∈ shared.db.endpoints.rows, endpoint.id = ip.data.networkEndpointId ∧
      shared.db.endpointOnHost uuid endpoint = true
  detached : ∀ ip ∈ shared.db.ips.rows, ip.data.ip = gone →
    ∀ endpoint ∈ shared.db.endpoints.rows, endpoint.id = ip.data.networkEndpointId →
      shared.db.endpointOnHost uuid endpoint = false

/-- In every interleaving of an attach and a detach of another address on a registered host,
without failing calls, in which the second call of the detach finds the endpoint of the
attach with an IP, or the address of the attach in place: both messages do what they are
for. -/
theorem detach_spares_attach (worker : MessageHandlerService) (messages : Side → Message)
    (request : AttachRequest) (gone : String) (db : Cmdb) (attempts : 0 < worker.maxRetries)
    (confirms : 0 < worker.ackRetries) (attach : (messages .left).actionType = some "attach")
    (detach : (messages .right).actionType = some "detach")
    (attaches : worker.handler.readAttach (messages .left) = .ok (some request))
    (detaches : worker.handler.readDetach (messages .right) = .ok (some (gone, request.hostUuid)))
    (apart : request.ipAddr ≠ gone)
    (registered : ∃ server ∈ db.servers.rows, hasUuid server request.hostUuid = true)
    (state : FieldErrors) (last : Shared) (values : Side → Except Exn Unit × FieldErrors)
    (interleaved : Interleaved (sparing request) (Shared.start db)
      (tasks worker (fun side => .ok (messages side)) state) last
      (fun side => .done (values side))) :
    BothDone request.ipAddr gone request.hostUuid last := by
  obtain ⟨host, located⟩ : ∃ host,
      db.servers.rows.find? (fun server => hasUuid server request.hostUuid) = some host :=
    Option.isSome_iff_exists.mp (List.find?_isSome.mpr registered)
  have nothing : Beside request gone host (Shared.start db) := by
    refine ⟨located, fun _ => rfl, trivial, ?_⟩
    rintro ⟨event, member, -⟩
    cases member
  have free : ∀ state (current : World), current.db = db →
      (worker.handler.attachPrefix request).Ensures (unsteady noFaults) (fun _ => True)
        (fun result _ _ => ∀ netPrefix, result = .ok netPrefix → True) state current :=
    fun _ _ _ => (Action.ensures_trivial _).mono fun _ _ _ _ _ _ => trivial
  obtain ⟨⟨known, -⟩, ends⟩ := tasks_settled (besideRule request gone) (Beside request gone host)
    (fun side world => match side with
      | .left => AttachSettled (fun _ => True) request world
      | .right => DetachSettled gone request.hostUuid world)
    (fun _ _ _ _ _ step => step.2)
    (fun side op before reply after known step _ followed => known.step apart step followed)
    nothing
    (fun side => match side with
      | .left => attach_settles attempts confirms attach attaches free
      | .right => detach_settles attempts confirms detach detaches) interleaved
  have unfailed : ∀ side, ¬ Failed (last.known db side) := by
    intro side failed
    rw [Failed, Shared.known, known.unfailed side] at failed
    cases failed
  have attachEnds := (ends .left _ rfl).resolve_right fun nacked => unfailed .left nacked.1.2
  have detachEnds := (ends .right _ rfl).resolve_right fun nacked => unfailed .right nacked.1
  constructor
  · intro side
    cases side with
    | left => exact attachEnds.2
    | right => exact detachEnds.2
  · have held := known.attach
    have phase : attachPhase (last.heard .left) = .attached := by
      rcases attachEnds.1 with absent | attached
      · have missing : attachPhase (last.heard .left) = .absent := absent.phase
        rw [missing] at held
        exact held.elim
      · exact attached.phase
    rw [phase] at held
    obtain ⟨ip, member⟩ := List.exists_mem_of_ne_nil _ held
    obtain ⟨stored, test⟩ := List.mem_filter.mp member
    rw [Cmdb.attachedTo, Bool.and_eq_true, decide_eq_true_eq] at test
    obtain ⟨endpoint, there, hangs⟩ := List.any_eq_true.mp test.2
    rw [Bool.and_eq_true, decide_eq_true_eq] at hangs
    exact ⟨ip, stored, test.1, endpoint, there, hangs⟩
  · intro ip stored same endpoint there hangs
    have none := known.detached detachEnds.1
    by_contra onHost
    rw [Bool.not_eq_false] at onHost
    have reached : last.db.ipOnHost request.hostUuid ip = true :=
      List.any_eq_true.mpr ⟨endpoint, there, by simp [hangs, onHost]⟩
    have member : ip ∈ last.db.attached gone request.hostUuid :=
      List.mem_filter.mpr ⟨stored, by simp [Cmdb.attachedTo, same, reached]⟩
    rw [none] at member
    cases member

/-! ## Runs -/

/-- An attach to the sample host, and the detach of the address it has. -/
def besideMessages : Side → Message
  | .left => AsciiRuntime.attachMessage "10.0.0.7" "m7"
  | .right => AsciiRuntime.detachMessage "10.0.0.9"

/-- The request of the attach in the sample run. -/
def besideRequest : AttachRequest := ⟨some "r1", some "u1", "10.0.0.7", some "m7", some "net"⟩

/-- Both on the sample host; the attach waits at a call for the whole detach. -/
def besideEnd (stop : service.Op → Bool) : Shared :=
  race faultless stop
    (tasks AsciiRuntime.service (fun side => .ok (besideMessages side)) {})
    (Shared.start (AsciiRuntime.occupied "10.0.0.9" "m9"))

/-- The call at which the attach is stopped, with no endpoint yet. -/
def looksUpDatacenter : service.Op → Bool
  | .cmdb (.datacenterSelectOne _) => true
  | _ => false

/-- The call at which it has an endpoint without an IP. -/
def insertsIp : service.Op → Bool
  | .cmdb (.ipInsertOne _) => true
  | _ => false

/-- The detach comes while the attach has read the server and has no endpoint yet. -/
theorem detach_spares_sample :
    BothDone "10.0.0.7" "10.0.0.9" (some "u1") (besideEnd looksUpDatacenter) := by
  have possible : ∀ side (op : service.Op) (before : Shared),
      spares besideRequest op before = true →
        sparing besideRequest side op before (Shared.scripted faultless side op before).1
          (Shared.scripted faultless side op before).2 :=
    fun side op before spared => ⟨spared, faultless_racing side op before⟩
  obtain ⟨values, interleaved⟩ := race_interleaved possible looksUpDatacenter
    (tasks AsciiRuntime.service (fun side => .ok (besideMessages side)) {})
    (Shared.start (AsciiRuntime.occupied "10.0.0.9" "m9")) (by decide +kernel)
  exact detach_spares_attach AsciiRuntime.service besideMessages besideRequest "10.0.0.9" _
    (by decide) (by decide) rfl rfl rfl rfl (by decide) (by decide) {} _ _ interleaved

/-- The detach comes between the two inserts of the attach: it deletes the endpoint that has
no IP yet, the insert of the IP is refused, and the attach is nacked. -/
theorem detach_deletes_endpoint :
    (∃ values : Side → Except Exn Unit × FieldErrors,
      Interleaved (racing noFaults) (Shared.start (AsciiRuntime.occupied "10.0.0.9" "m9"))
        (tasks AsciiRuntime.service (fun side => .ok (besideMessages side)) {})
        (besideEnd insertsIp) (fun side => .done (values side))) ∧
      Nacked ((besideEnd insertsIp).heard .left) ∧ Acked ((besideEnd insertsIp).heard .right) ∧
      (besideEnd insertsIp).db.endpoints.rows = [] ∧ (besideEnd insertsIp).db.ips.rows = [] ∧
      ¬ BothDone "10.0.0.7" "10.0.0.9" (some "u1") (besideEnd insertsIp) := by
  have none : (besideEnd insertsIp).db.ips.rows = [] := by decide +kernel
  have ran : raceMeets faultless (fun _ _ _ => true) insertsIp
      (tasks AsciiRuntime.service (fun side => .ok (besideMessages side)) {})
      (Shared.start (AsciiRuntime.occupied "10.0.0.9" "m9")) = true := by decide +kernel
  refine ⟨?_, ⟨by decide +kernel, by decide +kernel⟩, ⟨by decide +kernel, by decide +kernel⟩,
    by decide +kernel, none, ?_⟩
  · exact race_interleaved (fun side op before _ => faultless_racing side op before) _ _ _ ran
  · rintro ⟨-, ⟨ip, stored, -⟩, -⟩
    rw [none] at stored
    cases stored

end InstanceLifecycle
