import InstanceLifecycle.Concurrency.Shared
import InstanceLifecycle.Handler.Footprints

/-!
# The phases of an attach

What an attach calls is a matter of how far its own calls have come: it reads the server,
looks the address up, finds itself an endpoint of the server it read, and inserts the IP
on it. The phase is computed from the calls and their replies, so it is known whatever
other messages do to the store in between. Every attempt starts anew, and a failing call
leaves the phase where it was, except that a look-up that failed counts as one without a
row.
-/

namespace InstanceLifecycle

open Interaction Store InstanceHandler

/-- How far the calls of an attach have come. The phase is read off the replies,
so that what the store was like does not enter. -/
inductive Phase where
  | idle
  | absent
  | read (server : ServerView)
  | clear (server : ServerView)
  | chosen (server : ServerView) (endpointId : Nat)
  | attached

namespace Phase

/-- After a look-up that found no row. In every phase but the first after the
read it changes nothing. -/
def cleared : Phase → Phase
  | .read server => .clear server
  | phase => phase

/-- After an answer that settles the endpoint. -/
def placed (endpointId : Nat) : Phase → Phase
  | .clear server => .chosen server endpointId
  | phase => phase

/-- After the server was read, with or without a row. -/
def found : Option ServerView → Phase
  | none => .absent
  | some server => .read server

/-- After one more event. A new start begins anew, and failed calls keep the
phase. -/
def next (phase : Phase) (event : Event) : Phase :=
  match event.op, event.reply with
  | .started _, _ => .idle
  | .cmdb (.serverSelectOneByUuid _), .ok server => found server
  | .cmdb (.ipSelectAttached _ _), .ok (some _) => .attached
  | .cmdb (.ipSelectAttached _ _), _ => phase.cleared
  | .cmdb (.endpointUpdate id _), .ok _ => phase.placed id
  | .cmdb (.endpointInsertOne _), .ok endpoint => phase.placed endpoint.id
  | .cmdb (.endpointSelectOne _ _), .ok (some endpoint) => phase.placed endpoint.id
  | .cmdb (.ipInsertOne _), .ok _ => .attached
  | _, _ => phase

variable (request : AttachRequest)

/-- May the IP now be inserted on this endpoint of the server that was read? -/
def hangs (phase : Phase) (server : ServerView) (endpointId : Nat) : Prop :=
  match chooseEndpoint request.mac server.endpoints with
  | some endpoint => endpointId = endpoint.id ∧ (phase = .chosen server endpointId ∨
      phase = .clear server ∧ endpointUpdates request endpoint = {})
  | none => phase = .chosen server endpointId

/-- The calls of an attach in a phase, with what they are made of. The prefix of the address
is left to a condition of its own. -/
def allows (prefixes : Option NetworkPrefix → Prop) (phase : Phase) : CmdbOp → Prop
  | .serverSelectOneByUuid uuid => uuid = request.hostUuid ∧ phase = .idle
  | .ipSelectAttached address uuid => address = request.ipAddr ∧ uuid = request.hostUuid
  | .datacenterSelectOne _ | .networkPrefixSelect _ => True
  | .endpointUpdate id updates => ∃ server endpoint, phase = .clear server ∧
      chooseEndpoint request.mac server.endpoints = some endpoint ∧ id = endpoint.id ∧
      updates = endpointUpdates request endpoint
  | .endpointInsertOne columns => ∃ server, phase = .clear server ∧
      chooseEndpoint request.mac server.endpoints = none ∧ columns = attachColumns request server
  | .endpointSelectOne serverId key => ∃ server, phase = .clear server ∧
      chooseEndpoint request.mac server.endpoints = none ∧ serverId = server.id ∧
      key = .name (nextBondName (server.endpoints.map EndpointView.name))
  | .ipInsertOne columns => ∃ server netPrefix endpointId, prefixes netPrefix ∧
      phase.hangs request server endpointId ∧
      columns = attachIpColumns request server netPrefix endpointId
  | _ => False

/-- The server the attach works on, from its read until its IP is there. -/
def server : Phase → Option ServerView
  | .read server => some server
  | .clear server => some server
  | .chosen server _ => some server
  | _ => none

/-- The server of a phase changes only where a server is read, and is then the
one read. By cases on the event, since each kind of call moves the phase in its
own way. -/
theorem next_server (phase : Phase) (event : Event) (server : ServerView)
    (works : (phase.next event).server = some server) : phase.server = some server ∨
      ∃ uuid, event = ⟨.cmdb (.serverSelectOneByUuid uuid), .ok (some server)⟩ := by
  have cleared : phase.cleared.server = phase.server := by
    cases phase <;> rfl
  have placed : ∀ id, (phase.placed id).server = phase.server := by
    intro id
    cases phase <;> rfl
  obtain ⟨op, reply⟩ := event
  cases op with
  | cmdb op =>
    cases op with
    | serverSelectOneByUuid uuid =>
      cases reply with
      | error error => exact Or.inl works
      | ok read =>
        cases read with
        | none => cases works
        | some read =>
          obtain rfl : read = server := Option.some.inj works
          exact Or.inr ⟨uuid, rfl⟩
    | ipSelectAttached address uuid =>
      cases reply with
      | error error => exact Or.inl (cleared ▸ works)
      | ok row =>
        cases row with
        | none => exact Or.inl (cleared ▸ works)
        | some row => cases works
    | endpointUpdate id updates =>
      cases reply with
      | error error => exact Or.inl works
      | ok rows => exact Or.inl (placed id ▸ works)
    | endpointInsertOne columns =>
      cases reply with
      | error error => exact Or.inl works
      | ok endpoint => exact Or.inl (placed endpoint.id ▸ works)
    | endpointSelectOne serverId key =>
      cases reply with
      | error error => exact Or.inl works
      | ok found =>
        cases found with
        | none => exact Or.inl works
        | some endpoint => exact Or.inl (placed endpoint.id ▸ works)
    | ipInsertOne columns =>
      cases reply with
      | error error => exact Or.inl works
      | ok row => cases works
    | _ => exact Or.inl works
  | started message => cases works
  | ack => exact Or.inl works
  | nack => exact Or.inl works

end Phase

/-- The phase after a history of calls, step by step. -/
def attachPhase (history : List Event) : Phase := history.foldl Phase.next .idle

/-- One event more is one step more. -/
@[simp] theorem attachPhase_append (history : List Event) (event : Event) :
    attachPhase (history ++ [event]) = (attachPhase history).next event := by
  simp [attachPhase]

/-- Every call of the attach is one of its phase; events of the broker are free. -/
def attachRule (prefixes : Option NetworkPrefix → Prop) (request : AttachRequest)
    (earlier : List Event) (event : Event) : Prop :=
  match event.op with
  | .cmdb op => (attachPhase earlier).allows request prefixes op
  | _ => True

/-- A call that was answered by an error, of whatever kind. -/
def Event.failed (event : Event) : Bool :=
  match event.op, event.reply with
  | .cmdb _, .error _ => true
  | _, _ => false

/-- Some call was answered by an error. An exception that leaves the attach
points back to one. -/
def Failed (world : World) : Prop := world.history.any Event.failed = true

/-- A failure stays on the record. -/
theorem Failed.record {world : World} (failed : Failed world) (event : Event) :
    Failed (world.record event) := by
  rw [Failed, World.record_history, List.any_append, Bool.or_eq_true]
  exact Or.inl failed

/-- A failed call puts one there. -/
theorem failed_error (world : World) (op : CmdbOp) (error : CallError) :
    Failed (world.record ⟨.cmdb op, .error error⟩) := by
  rw [Failed, World.record_history, List.any_append, Bool.or_eq_true]
  exact Or.inr rfl

/-- The calls so far followed the phases. This is the invariant of every state. -/
def Followed (prefixes : Option NetworkPrefix → Prop) (request : AttachRequest) (world : World) :
    Prop :=
  Justified (attachRule prefixes request) world.history

/-- The calls so far followed the phases up to this one. -/
structure AtPhase (prefixes : Option NetworkPrefix → Prop) (request : AttachRequest)
    (phase : Phase) (world : World) : Prop where
  followed : Followed prefixes request world
  phase : attachPhase world.history = phase

section Follow

variable {permits : Faults} {handler : InstanceHandler} {request : AttachRequest}
  {prefixes : Option NetworkPrefix → Prop} {phase : Phase} {server : ServerView}
  {state : FieldErrors} {world : World}

/-- A call that the phase allows may be made, and the reply leads to the next
phase. -/
theorem AtPhase.call (now : AtPhase prefixes request phase world) {op : CmdbOp}
    (allowed : phase.allows request prefixes op) (reply : Except CallError op.Rows) :
    AtPhase prefixes request (phase.next ⟨.cmdb op, reply⟩) (world.record ⟨.cmdb op, reply⟩) := by
  constructor
  · refine justified_append.mpr ⟨now.followed, ?_⟩
    rw [attachRule, now.phase]
    exact allowed
  · rw [World.record_history, attachPhase_append, now.phase]

/-- An event of the broker is allowed in every phase and leaves the phase as it
is, because a phase follows CMDB calls only. -/
theorem AtPhase.broker (now : AtPhase prefixes request phase world) (event : Event)
    (noCall : event.isCall = false) :
    AtPhase prefixes request (phase.next event) (world.record event) := by
  obtain ⟨op, reply⟩ := event
  constructor
  · refine justified_append.mpr ⟨now.followed, ?_⟩
    cases op with
    | cmdb op => cases noCall
    | started message => trivial
    | ack => trivial
    | nack => trivial
  · rw [World.record_history, attachPhase_append, now.phase]

/-- How a part of an attach ends: an exception is raised after a failed call only. -/
def partExit (prefixes : Option NetworkPrefix → Prop) (request : AttachRequest) {α : Type}
    (normal : α → World → Prop) (result : Except Exn α) (after : World) : Prop :=
  match result with
  | .ok value => normal value after
  | .error _ => Followed prefixes request after ∧ Failed after

/-- A call that keeps the phase, whatever its reply, with all of its retries. -/
theorem idleCall_follows {options : CallOptions} {op : CmdbOp}
    (allowed : phase.allows request prefixes op)
    (stays : ∀ reply : Except CallError op.Rows, phase.next ⟨.cmdb op, reply⟩ = phase)
    (now : AtPhase prefixes request phase world) :
    (handler.cmdbCall options (cmdb op)).Ensures (unsteady permits) (Followed prefixes request)
      (fun result _ after => partExit prefixes request
        (fun _ after => AtPhase prefixes request phase after) result after) state world := by
  refine (InstanceHandler.cmdbCall_exits (AtPhase prefixes request phase)
    (fun after => AtPhase prefixes request phase after ∧ Failed after)
    (fun _ after => AtPhase prefixes request phase after) now ?_ (fun _ absent => by cases absent)
    fun _ _ held => held.1).mono ?_
  · intro current held
    apply unsteady_reply
    intro reply
    have after := held.call allowed reply
    rw [stays] at after
    refine ⟨after.followed, rfl, ?_⟩
    cases reply with
    | ok rows => exact after
    | error error => exact ⟨after, failed_error current op error⟩
  · rintro (exc | _ | rows) final after ⟨-, exit⟩
    · exact ⟨exit.1.followed, exit.2⟩
    · exact exit.2.1
    · exact exit

/-- How a look-up of the address ends; without a row it leads to the cleared phase. -/
def lookUpEnd (prefixes : Option NetworkPrefix → Prop) (request : AttachRequest) (phase : Phase)
    {α : Type} (result : Except Exn (Option α)) (after : World) : Prop :=
  match result with
  | .ok (some _) => AtPhase prefixes request .attached after
  | .ok none => AtPhase prefixes request phase after
  | .error _ => AtPhase prefixes request phase after ∧ Failed after

/-- The look-up of the address is allowed in every phase. A row ends the attach,
none clears the server that was read. -/
theorem findAttachedIp_follows (now : AtPhase prefixes request phase world) :
    (handler.findAttachedIp request.ipAddr request.hostUuid).Ensures (unsteady permits)
      (Followed prefixes request) (fun result final after => final = state ∧
        lookUpEnd prefixes request phase.cleared result after) state world := by
  have again : phase.cleared.cleared = phase.cleared := by
    cases phase <;> rfl
  have call : (handler.cmdbCall { field := "ip.select_one" }
      (cmdb (.ipSelectAttached request.ipAddr request.hostUuid))).Ensures (unsteady permits)
      (Followed prefixes request) (fun result final after => final = state ∧
        lookUpEnd prefixes request phase.cleared (result.map Option.join) after) state world := by
    refine (InstanceHandler.cmdbCall_exits
      (fun after => ∃ before, before.cleared = phase.cleared ∧
        AtPhase prefixes request before after)
      (fun after => AtPhase prefixes request phase.cleared after ∧ Failed after)
      (fun row after => lookUpEnd prefixes request phase.cleared (.ok row) after)
      ⟨phase, rfl, now⟩ ?_ (fun _ absent => by cases absent)
      fun _ _ held => ⟨phase.cleared, again, held.1⟩).mono ?_
    · rintro current ⟨before, same, held⟩
      apply unsteady_reply
      intro reply
      have allowed : before.allows request prefixes
          (.ipSelectAttached request.ipAddr request.hostUuid) := ⟨rfl, rfl⟩
      have after := held.call allowed reply
      refine ⟨after.followed, rfl, ?_⟩
      cases reply with
      | error error =>
        simp only [Phase.next, same] at after
        exact ⟨after, failed_error current _ error⟩
      | ok row =>
        cases row with
        | some row => exact after
        | none =>
          simp only [Phase.next, same] at after
          exact after
    · rintro (exc | _ | row) final after ⟨silent, exit⟩
      · exact ⟨silent rfl, exit⟩
      · exact ⟨silent rfl, exit.2.1⟩
      · exact ⟨silent rfl, exit⟩
  rw [findAttachedIp]
  refine call.bind ?_ ?_
  · exact fun _ _ _ held => held
  · exact fun _ _ _ held => held

/-- The look-up of the prefix keeps the phase, for its calls are of reference
classes. -/
theorem attachPrefix_follows (now : AtPhase prefixes request phase world) :
    (handler.attachPrefix request).Ensures (unsteady permits) (Followed prefixes request)
      (fun result _ after => partExit prefixes request
        (fun _ after => AtPhase prefixes request phase after) result after) state world := by
  have regions : phase.allows request prefixes (.datacenterSelectOne request.regionCode) := trivial
  have networks : ∀ dcName, phase.allows request prefixes (.networkPrefixSelect dcName) :=
    fun _ => trivial
  rw [attachPrefix]
  refine (idleCall_follows regions (fun reply => by cases reply <;> rfl) now).bind ?_
    fun _ _ _ exit => exit
  intro dc middle after held
  cases dc.join with
  | none => exact held
  | some row =>
    simp only
    rw [getNetPrefixByIp]
    refine (idleCall_follows (networks row.name) (fun reply => by cases reply <;> rfl) held).bind ?_
      fun _ _ _ exit => exit
    intro vlans final last still
    cases vlans with
    | none => exact still
    | some rows => exact still

/-- The IP may be inserted on this endpoint: the phase has settled it, or left
it as chosen with nothing to fill. -/
def IpReady (prefixes : Option NetworkPrefix → Prop) (request : AttachRequest) (server : ServerView)
    (endpointId : Nat) (world : World) : Prop :=
  ∃ phase, AtPhase prefixes request phase world ∧ phase.hangs request server endpointId

/-- Filling the chosen endpoint makes it ready for the IP, with an update or
without one. -/
theorem reuseEndpoint_follows {endpoint : EndpointView}
    (chosen : chooseEndpoint request.mac server.endpoints = some endpoint)
    (now : AtPhase prefixes request (.clear server) world) :
    (handler.reuseEndpoint request endpoint).Ensures (unsteady permits) (Followed prefixes request)
      (fun result _ after => partExit prefixes request
        (fun _ after => IpReady prefixes request server endpoint.id after) result after) state
      world := by
  have allowed : (Phase.clear server).allows request prefixes
      (.endpointUpdate endpoint.id (endpointUpdates request endpoint)) :=
    ⟨server, endpoint, rfl, chosen, rfl, rfl⟩
  have hangs : ∀ phase : Phase, phase = .chosen server endpoint.id ∨
      phase = .clear server ∧ endpointUpdates request endpoint = {} →
        phase.hangs request server endpoint.id := by
    intro phase either
    rw [Phase.hangs, chosen]
    exact ⟨rfl, either⟩
  have empty : ∀ updates : EndpointUpdate, updates.mac = none → updates.notes = none →
      updates = {} := by
    rintro ⟨mac, notes⟩ rfl rfl
    rfl
  rw [reuseEndpoint]
  split
  · rename_i unfilled
    refine ⟨_, now, hangs _ (Or.inr ⟨rfl, ?_⟩)⟩
    rw [Bool.and_eq_true, Option.isNone_iff_eq_none, Option.isNone_iff_eq_none] at unfilled
    exact empty _ unfilled.1 unfilled.2
  · refine Action.Ensures.bind (?_ : Action.Ensures _ _ _ (fun result _ after =>
      partExit prefixes request (fun _ after => IpReady prefixes request server endpoint.id after)
        result after) state world) (fun _ _ _ held => held) fun _ _ _ exit => exit
    refine (InstanceHandler.cmdbCall_exits (AtPhase prefixes request (.clear server))
      (fun after => AtPhase prefixes request (.clear server) after ∧ Failed after)
      (fun _ after => IpReady prefixes request server endpoint.id after) now ?_
      (fun _ absent => by cases absent) fun _ _ held => held.1).mono ?_
    · intro current held
      apply unsteady_reply
      intro reply
      have after := held.call allowed reply
      refine ⟨after.followed, rfl, ?_⟩
      cases reply with
      | ok rows => exact ⟨_, after, hangs _ (Or.inl rfl)⟩
      | error error => exact ⟨after, failed_error current _ error⟩
    · rintro (exc | _ | rows) final after ⟨-, exit⟩
      · exact ⟨exit.1.followed, exit.2⟩
      · cases exit.1
      · exact exit

/-- The endpoint that was inserted, or where the address turned up. The flag of
the row tells which. -/
def insertedEnd (prefixes : Option NetworkPrefix → Prop) (request : AttachRequest)
    (server : ServerView) (row : EndpointRef × Bool) (after : World) : Prop :=
  match row with
  | (_, true) => AtPhase prefixes request .attached after
  | (endpoint, false) => AtPhase prefixes request (.chosen server endpoint.id) after

/-- The selector keeps to the cleared phase unless one of its probes finds a
row, and it leaves the accumulator alone. -/
theorem attachEndpointSelector_follows
    (unchosen : chooseEndpoint request.mac server.endpoints = none)
    (now : AtPhase prefixes request (.clear server) world) :
    (handler.attachEndpointSelector request.ipAddr request.hostUuid server.id
      (nextBondName (server.endpoints.map EndpointView.name))).Ensures (unsteady permits)
      (Followed prefixes request) (fun result final after => final = state ∧
        reselectExit (insertedEnd prefixes request server)
          (AtPhase prefixes request (.clear server))
          (fun after => AtPhase prefixes request (.clear server) after ∧ Failed after) result
          after) state world := by
  have allowed : (Phase.clear server).allows request prefixes (.endpointSelectOne server.id
      (.name (nextBondName (server.endpoints.map EndpointView.name)))) :=
    ⟨server, rfl, unchosen, rfl, rfl⟩
  rw [attachEndpointSelector]
  refine (findAttachedIp_follows now).bind ?_ fun _ _ _ exit => exit
  rintro existing middle looked ⟨rfl, held⟩
  cases existing with
  | some row => exact ⟨rfl, held⟩
  | none =>
    simp only
    rw [Action.ensures_bind]
    apply unsteady_reply
    intro reply
    have after := AtPhase.call held allowed reply
    refine ⟨after.followed, ?_⟩
    cases reply with
    | error error => exact ⟨rfl, after, failed_error looked _ error⟩
    | ok endpoint =>
      cases endpoint with
      | none => exact ⟨rfl, after⟩
      | some row => exact ⟨rfl, after⟩

/-- The insert of an endpoint ends with one settled or with the address found.
The loop runs in the cleared phase. -/
theorem insertAttachEndpoint_follows
    (unchosen : chooseEndpoint request.mac server.endpoints = none)
    (now : AtPhase prefixes request (.clear server) world) :
    (handler.insertAttachEndpoint request server).Ensures (unsteady permits)
      (Followed prefixes request) (fun result _ after => partExit prefixes request
        (fun inserted after => ∃ row, inserted = some row ∧
          insertedEnd prefixes request server row after) result after) state world := by
  have allowed : (Phase.clear server).allows request prefixes
      (.endpointInsertOne (attachColumns request server)) := ⟨server, rfl, unchosen, rfl⟩
  rw [insertAttachEndpoint]
  refine (InstanceHandler.cmdbCall_exits (AtPhase prefixes request (.clear server))
    (fun after => AtPhase prefixes request (.clear server) after ∧ Failed after)
    (insertedEnd prefixes request server) now ?_ ?_ fun _ _ held => held.1).mono ?_
  · intro current held
    rw [Action.ensures_bind]
    apply unsteady_reply
    intro reply
    have after := held.call allowed reply
    refine ⟨after.followed, ?_⟩
    cases reply with
    | ok endpoint => exact ⟨rfl, after⟩
    | error error => exact ⟨rfl, after, failed_error current _ error⟩
  · rintro _ ⟨⟩ current held
    exact attachEndpointSelector_follows unchosen held.1
  · rintro (exc | _ | row) final after ⟨-, exit⟩
    · exact ⟨exit.1.followed, exit.2⟩
    · cases exit.1
    · exact ⟨row, rfl, exit⟩

/-- How the choice of the endpoint ends: ready for the IP, or with the address
found. -/
def chosenEnd (prefixes : Option NetworkPrefix → Prop) (request : AttachRequest)
    (server : ServerView) (endpoint : Option Nat) (after : World) : Prop :=
  match endpoint with
  | some id => IpReady prefixes request server id after
  | none => AtPhase prefixes request .attached after

/-- The choice of an endpoint follows the phases. By cases: fill the one chosen,
or insert one. -/
theorem attachEndpoint_follows (now : AtPhase prefixes request (.clear server) world) :
    (handler.attachEndpoint request server).Ensures (unsteady permits) (Followed prefixes request)
      (fun result _ after => partExit prefixes request (chosenEnd prefixes request server) result
        after) state world := by
  rw [attachEndpoint]
  cases chosen : chooseEndpoint request.mac server.endpoints with
  | some endpoint =>
    refine (reuseEndpoint_follows chosen now).bind ?_ fun _ _ _ exit => exit
    exact fun _ _ _ ready => ready
  | none =>
    refine (insertAttachEndpoint_follows chosen now).bind ?_ fun _ _ _ exit => exit
    rintro _ middle after ⟨⟨endpoint, recovered⟩, rfl, held⟩
    cases recovered with
    | true => exact held
    | false =>
      refine ⟨_, held, ?_⟩
      rw [Phase.hangs, chosen]

/-- The insert of the IP ends with the address there. Its selector does not
leave the phase, since a chosen endpoint stays chosen. -/
theorem insertAttachIp_follows {netPrefix : Option NetworkPrefix} {endpointId : Nat}
    (known : prefixes netPrefix) (ready : IpReady prefixes request server endpointId world) :
    (handler.insertAttachIp request server netPrefix endpointId).Ensures (unsteady permits)
      (Followed prefixes request) (fun result _ after => partExit prefixes request
        (fun _ after => AtPhase prefixes request .attached after) result after) state world := by
  have cleared : ∀ phase : Phase, phase.hangs request server endpointId →
      phase.cleared = phase := by
    intro phase hangs
    rw [Phase.hangs] at hangs
    split at hangs
    · rcases hangs.2 with same | same
      · rw [same]
        rfl
      · rw [same.1]
        rfl
    · rw [hangs]
      rfl
  rw [insertAttachIp]
  refine Action.Ensures.bind (?_ : Action.Ensures _ _ _ (fun result _ after =>
    partExit prefixes request (fun _ after => AtPhase prefixes request .attached after) result
      after) state world) (fun _ _ _ held => held) fun _ _ _ exit => exit
  refine (InstanceHandler.cmdbCall_exits (IpReady prefixes request server endpointId)
    (fun after => IpReady prefixes request server endpointId after ∧ Failed after)
    (fun _ after => AtPhase prefixes request .attached after) ready ?_ ?_
    fun _ _ held => held.1).mono ?_
  · rintro current ⟨phase, held, hangs⟩
    have allowed : phase.allows request prefixes
        (.ipInsertOne (attachIpColumns request server netPrefix endpointId)) :=
      ⟨server, netPrefix, endpointId, known, hangs, rfl⟩
    apply unsteady_reply
    intro reply
    have after := held.call allowed reply
    refine ⟨after.followed, rfl, ?_⟩
    cases reply with
    | ok row => exact after
    | error error => exact ⟨⟨phase, after, hangs⟩, failed_error current _ error⟩
  · rintro _ ⟨⟩ current ⟨⟨phase, held, hangs⟩, _⟩
    rw [attachIpSelector]
    refine (findAttachedIp_follows held).bind ?_ ?_
    · rintro row middle after ⟨rfl, exit⟩
      rw [cleared phase hangs] at exit
      cases row with
      | none => exact ⟨rfl, phase, exit, hangs⟩
      | some row => exact ⟨rfl, exit⟩
    · rintro exc middle after ⟨rfl, exit⟩
      rw [cleared phase hangs] at exit
      exact ⟨rfl, ⟨phase, exit.1, hangs⟩, exit.2⟩
  · rintro (exc | _ | rows) final after ⟨-, exit⟩
    · obtain ⟨⟨phase, held, -⟩, failed⟩ := exit
      exact ⟨held.followed, failed⟩
    · cases exit.1
    · exact exit

/-- An attach that ends normally found no server, or its address is there. -/
def Finished (prefixes : Option NetworkPrefix → Prop) (request : AttachRequest) (world : World) :
    Prop :=
  AtPhase prefixes request .absent world ∨ AtPhase prefixes request .attached world

/-- An attach to the server it has read follows the phases to their end. -/
theorem attachTo_follows
    (prefixed : ∀ state (current : World), current.db = world.db →
      (handler.attachPrefix request).Ensures (unsteady permits) (fun _ => True)
        (fun result _ _ => ∀ netPrefix, result = .ok netPrefix → prefixes netPrefix) state current)
    (now : AtPhase prefixes request (.read server) world) :
    (handler.attachTo request server).Ensures (unsteady permits) (Followed prefixes request)
      (fun result _ after => partExit prefixes request
        (fun _ after => Finished prefixes request after) result after) state world := by
  rw [attachTo]
  refine (((findAttachedIp_follows now).and (unsteady_frozen _)).env_mono
    (fun _ _ _ _ step => step) fun _ held => held.1).bind ?_ ?_
  · rintro existing middle looked ⟨⟨rfl, held⟩, frozen⟩
    cases existing with
    | some row => exact Or.inr held
    | none =>
      refine (((attachPrefix_follows held).and (prefixed _ looked frozen)).env_mono
        (fun _ _ _ _ step => step) fun _ held => held.1).bind ?_ fun _ _ _ exit => exit.1
      rintro netPrefix final priced ⟨still, known⟩
      refine (attachEndpoint_follows still).bind ?_ fun _ _ _ exit => exit
      intro endpoint last placed exit
      cases endpoint with
      | none => exact Or.inr exit
      | some endpointId =>
        refine (insertAttachIp_follows (known netPrefix rfl) exit).mono ?_
        rintro (exc | value) ended after inserted
        · exact inserted
        · exact Or.inr inserted
  · rintro exc middle looked ⟨⟨rfl, exit⟩, _⟩
    exact ⟨exit.1.followed, exit.2⟩

/-- The action starts idle, reads its server and follows the phases from there. -/
theorem attachToInstances_follows {message : Message}
    (read : handler.readAttach message = .ok (some request))
    (prefixed : ∀ state (current : World), current.db = world.db →
      (handler.attachPrefix request).Ensures (unsteady permits) (fun _ => True)
        (fun result _ _ => ∀ netPrefix, result = .ok netPrefix → prefixes netPrefix) state current)
    (now : AtPhase prefixes request .idle world) :
    (handler.attachToInstances message).Ensures (unsteady permits) (Followed prefixes request)
      (fun result _ after => partExit prefixes request
        (fun _ after => Finished prefixes request after) result after) state world := by
  have allowed : (Phase.idle).allows request prefixes (.serverSelectOneByUuid request.hostUuid) :=
    ⟨rfl, rfl⟩
  have call : (handler.cmdbCall { field := "server.select_one", raiseOnDataError := true }
      (cmdb (.serverSelectOneByUuid request.hostUuid))).Ensures (unsteady permits)
      (Followed prefixes request) (fun result _ after => partExit prefixes request
        (fun server after => AtPhase prefixes request (.found server.join) after) result after)
      state world := by
    refine (InstanceHandler.cmdbCall_exits (AtPhase prefixes request .idle)
      (fun after => AtPhase prefixes request .idle after ∧ Failed after)
      (fun server after => AtPhase prefixes request (.found server) after) now ?_
      (fun _ absent => by cases absent) fun _ _ held => held.1).mono ?_
    · intro current held
      apply unsteady_reply
      intro reply
      have after := held.call allowed reply
      refine ⟨after.followed, rfl, ?_⟩
      cases reply with
      | ok server => exact after
      | error error => exact ⟨after, failed_error current _ error⟩
    · rintro (exc | _ | rows) final after ⟨-, exit⟩
      · exact ⟨exit.1.followed, exit.2⟩
      · cases exit.1
      · exact exit
  rw [attachToInstances, Action.ensures_bind, Action.ensures_lift, read]
  simp only
  refine ((call.and (unsteady_frozen _)).env_mono (fun _ _ _ _ step => step)
    fun _ held => held.1).bind ?_ fun _ _ _ exit => exit.1
  rintro found middle selected ⟨held, frozen⟩
  have now : AtPhase prefixes request (.found found.join) selected := held
  cases server : found.join with
  | none =>
    rw [server] at now
    exact Or.inl now
  | some server =>
    rw [server] at now
    exact attachTo_follows (fun state current same => prefixed state current (same.trans frozen))
      now

end Follow

/-- A finished attach followed the phases. -/
theorem Finished.followed {prefixes : Option NetworkPrefix → Prop} {request : AttachRequest}
    {world : World} (finished : Finished prefixes request world) :
    Followed prefixes request world :=
  finished.elim AtPhase.followed AtPhase.followed

/-- How an attach that is confirmed leaves its calls: acked after it ended normally, nacked
after a failed call. -/
def AttachSettled (prefixes : Option NetworkPrefix → Prop) (request : AttachRequest)
    (world : World) : Prop :=
  Finished prefixes request world ∧ Acked world.history ∨
    (Followed prefixes request world ∧ Failed world) ∧ Nacked world.history

section Message

variable {permits : Faults} {worker : MessageHandlerService} {message : Message}
  {request : AttachRequest} {prefixes : Option NetworkPrefix → Prop} {db : Cmdb}
  {state : FieldErrors}

/-- The calls of one attempt, from the start of its processing, which resets the
phase whatever came before. -/
theorem processAttach_follows (attach : message.actionType = some "attach")
    (read : worker.handler.readAttach message = .ok (some request))
    (prefixed : ∀ state (current : World), current.db = db →
      (worker.handler.attachPrefix request).Ensures (unsteady permits) (fun _ => True)
        (fun result _ _ => ∀ netPrefix, result = .ok netPrefix → prefixes netPrefix) state current)
    {world : World} (followed : Followed prefixes request world) (frozen : world.db = db) :
    (worker.processDelivery (.ok message)).Ensures (unsteady permits) (Followed prefixes request)
      (fun result _ after => partExit prefixes request
        (fun _ after => Finished prefixes request after) result after) state world := by
  have begun : AtPhase prefixes request (attachPhase world.history) world := ⟨followed, rfl⟩
  have started : AtPhase prefixes request .idle (world.record ⟨.started message, ()⟩) :=
    begun.broker ⟨.started message, ()⟩ rfl
  apply MessageHandlerService.processDelivery_ensures (unsteady_records permits) started.followed
  rw [worker.handler.dispatch_attach attach]
  exact attachToInstances_follows read (fun state current same => prefixed state current
    (same.trans frozen)) started

/-- An event of the broker keeps the phase, unless it starts the processing
anew. -/
theorem AtPhase.confirmed {phase : Phase} {world : World}
    (now : AtPhase prefixes request phase world) (event : Event) (noCall : event.isCall = false)
    (noStart : event.isStart = false) : AtPhase prefixes request phase (world.record event) := by
  have after := now.broker event noCall
  obtain ⟨op, reply⟩ := event
  cases op with
  | cmdb op => cases noCall
  | started message => cases noStart
  | ack => exact after
  | nack => exact after

/-- The calls of an attach follow the phases, whatever the replies. The prefixes
are those that the look-up could return in a store like the first. -/
theorem attach_follows (attach : message.actionType = some "attach")
    (read : worker.handler.readAttach message = .ok (some request))
    (prefixed : ∀ state (current : World), current.db = db →
      (worker.handler.attachPrefix request).Ensures (unsteady permits) (fun _ => True)
        (fun result _ _ => ∀ netPrefix, result = .ok netPrefix → prefixes netPrefix) state
        current) :
    (worker.handleMessage (.ok message)).Ensures (unsteady permits) (Followed prefixes request)
      (fun _ _ after => Followed prefixes request after) state ⟨db, []⟩ := by
  have kept : (worker.handleMessage (.ok message)).Ensures (unsteady permits)
      (Followed prefixes request)
      (fun _ _ after => Followed prefixes request after ∧ after.db = db) state ⟨db, []⟩ := by
    apply MessageHandlerService.handleMessage_keeps (unsteady_records permits)
    · rintro state world ⟨followed, frozen⟩
      refine (((processAttach_follows attach read prefixed followed frozen).and
        (unsteady_frozen _)).env_mono (fun _ _ _ _ step => step) fun _ held => held.1).mono ?_
      rintro (exc | value) final after ⟨exit, same⟩
      · exact ⟨exit.1, same.trans frozen⟩
      · exact ⟨exit.followed, same.trans frozen⟩
    · rintro event world noCall ⟨followed, frozen⟩
      have now : AtPhase prefixes request (attachPhase world.history) world := ⟨followed, rfl⟩
      have after := (now.broker event noCall).followed
      exact ⟨after, after, frozen⟩
    · exact ⟨justified_nil _, rfl⟩
  exact kept.mono fun _ _ _ held => held.1

/-- With attempts and confirmations left to it, an attach is settled by how it ended. -/
theorem attach_settles (attempts : 0 < worker.maxRetries) (confirms : 0 < worker.ackRetries)
    (attach : message.actionType = some "attach")
    (read : worker.handler.readAttach message = .ok (some request))
    (prefixed : ∀ state (current : World), current.db = db →
      (worker.handler.attachPrefix request).Ensures (unsteady permits) (fun _ => True)
        (fun result _ _ => ∀ netPrefix, result = .ok netPrefix → prefixes netPrefix) state
        current) :
    (worker.handleMessage (.ok message)).Ensures (unsteady permits) (Followed prefixes request)
      (fun _ _ after => AttachSettled prefixes request after) state ⟨db, []⟩ := by
  have only : (worker.handler.dispatch message).Only (calls fun _ => True) := by
    rw [worker.handler.dispatch_attach attach]
    exact attachToInstances_only fun _ _ => trivial
  apply MessageHandlerService.handleMessage_confirms (unsteady_records permits)
    (fun after => Followed prefixes request after ∧ after.db = db ∧ Unsettled after.history)
    (Finished prefixes request)
    (fun after => Followed prefixes request after ∧ Failed after) attempts confirms
  · rintro state world ⟨followed, frozen, unsettled⟩
    refine (((processAttach_follows attach read prefixed followed frozen).and
      ((unsteady_frozen _).and (processDelivery_unsettled worker only unsettled))).env_mono
        (fun _ _ _ _ step => step) fun _ held => held.1).mono ?_
    rintro (exc | value) final after ⟨exit, same, silent⟩
    · exact ⟨⟨exit, silent⟩, fun _ => ⟨exit.1, same.trans frozen, silent⟩⟩
    · exact ⟨exit, silent⟩
  · intro event world noCall noStart
    constructor
    · rintro (absent | attached)
      · have after := absent.confirmed event noCall noStart
        exact ⟨after.followed, Or.inl after⟩
      · have after := attached.confirmed event noCall noStart
        exact ⟨after.followed, Or.inr after⟩
    · rintro ⟨followed, failed⟩
      have now : AtPhase prefixes request (attachPhase world.history) world := ⟨followed, rfl⟩
      have after := (now.broker event noCall).followed
      exact ⟨after, after, failed.record event⟩
  · exact ⟨justified_nil _, rfl, rfl, rfl⟩

end Message

end InstanceLifecycle
