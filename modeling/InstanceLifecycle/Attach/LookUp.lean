import InstanceLifecycle.Cmdb.Rows
import InstanceLifecycle.Handler.AsciiRuntime
import InstanceLifecycle.Handler.Footprints
import InstanceLifecycle.Service.Rules

/-!
# The look-up in front of every insert of an attach

Every insert of an attach must follow a look-up of the attached IP that answered
that there is none: the first insert the check at the start, a repeated one its
selector. A look-up that is rejected for good comes back as the same `None`, so the
guarantee needs that the look-up fails by transport only.
-/

namespace InstanceLifecycle

open Interaction Store InstanceHandler

/-- Did a look-up of the attached IP answer, without error, that there is none? -/
def Event.lookUp : Event → Option Bool
  | ⟨.cmdb (.ipSelectAttached _ _), .ok none⟩ => some true
  | ⟨.cmdb (.ipSelectAttached _ _), _⟩ => some false
  | _ => none

/-- An invocation of one of the two inserts of an attach. -/
def Event.inserts (event : Event) : Bool :=
  match event.op with
  | .cmdb (.endpointInsertOne _) => true
  | .cmdb (.ipInsertOne _) => true
  | _ => false

/-- The most recent look-up completed and found no row. One that failed is not
clear, whatever an earlier one has said. -/
def lookUpClear (history : List Event) : Bool :=
  decide (history.reverse.findSome? Event.lookUp = some true)

/-- Every insert was issued with a clear look-up before it. Other calls may
stand between the two, but no look-up that found the row or failed. -/
def Guarded (history : List Event) : Prop :=
  ∀ earlier event later, history = earlier ++ event :: later → event.inserts = true →
    lookUpClear earlier = true

/-- An empty history has no inserts. -/
theorem guarded_nil : Guarded [] := by
  intro earlier event later parts
  simp at parts

/-- The step lemma: a log stays guarded when one more event comes that is no
insert or follows a clear look-up. By the position of the insert asked about,
which is old or the event just added. -/
theorem guarded_append {history : List Event} (guarded : Guarded history) (event : Event)
    (clear : event.inserts = true → lookUpClear history = true) : Guarded (history ++ [event]) := by
  intro earlier other later parts inserts
  rcases List.eq_nil_or_concat later with rfl | ⟨before, final, rfl⟩
  · obtain ⟨same, last⟩ := List.append_inj' parts rfl
    have equal : event = other := by simpa using last
    subst same equal
    exact clear inserts
  · have shape : history ++ [event] = (earlier ++ other :: before) ++ [final] := by
      simpa using parts
    obtain ⟨same, _⟩ := List.append_inj' shape rfl
    exact guarded earlier other before same inserts

/-- Only a look-up changes what the most recent look-up said. -/
theorem lookUpClear_append (history : List Event) (event : Event) (other : event.lookUp = none) :
    lookUpClear (history ++ [event]) = lookUpClear history := by
  simp [lookUpClear, other]

/-- After a look-up the most recent one is that one. -/
theorem lookUpClear_found (history : List Event) (event : Event) (answer : Bool)
    (looked : event.lookUp = some answer) : lookUpClear (history ++ [event]) = answer := by
  simp [lookUpClear, looked]

/-- Every failure, but a look-up of the attached IP fails by transport only. -/
def lookUpFaults : Faults := fun op outcome =>
  match op, outcome with
  | .ipSelectAttached _ _, .fail error _ => error.isTransport = true
  | _, _ => True

/-- What holds in every state: guarded inserts and a bounded number of rows. -/
structure Kept (address : String) (uuid : Option String) (bound : Nat) (world : World) : Prop where
  guarded : Guarded world.history
  few : (world.db.attached address uuid).length ≤ bound

/-- The look-up has just shown, and it is true, that no such IP is attached. -/
structure Clear (address : String) (uuid : Option String) (bound : Nat) (world : World) : Prop
    extends Kept address uuid bound world where
  clear : lookUpClear world.history = true
  free : world.db.attached address uuid = []

variable {address : String} {uuid : Option String} {bound : Nat} {state : FieldErrors}
  {world : World}

/-- An event that is no insert keeps the invariant. -/
theorem Kept.record (kept : Kept address uuid bound world) (event : Event)
    (harmless : event.inserts = false) : Kept address uuid bound (world.record event) :=
  ⟨guarded_append kept.guarded event (by simp [harmless]), kept.few⟩

/-- Calls that neither insert nor look up, and attach nothing. An update of an
endpoint is one of them. -/
def CmdbOp.steady : CmdbOp → Bool
  | .serverSelectOneByUuid _ | .datacenterSelectOne _ | .networkPrefixSelect _
  | .endpointUpdate _ _ | .endpointSelectOne _ _ => true
  | _ => false

/-- A steady call leaves the attached rows of the address as they are, whatever
its outcome. -/
theorem steady_attached (db : Cmdb) (op : CmdbOp) (steady : op.steady = true) (outcome : Outcome)
    (address : String) (uuid : Option String) :
    (db.answer op outcome).2.attached address uuid = db.attached address uuid := by
  have effect : (db.effect op).attached address uuid = db.attached address uuid := by
    cases op <;> first
      | rfl
      | exact db.attached_updateEndpoint _ _ _ _
      | simp [CmdbOp.steady] at steady
  rcases db.answer_db op outcome with same | landed
  · rw [same]
  · rw [landed, effect]

/-- So it keeps the invariant of every state. -/
theorem Kept.steady (kept : Kept address uuid bound world) (op : CmdbOp) (steady : op.steady = true)
    (outcome : Outcome) : Kept address uuid bound (world.next op outcome) := by
  refine ⟨guarded_append kept.guarded _ ?_, ?_⟩
  · cases op <;> simp_all [CmdbOp.steady, Event.inserts]
  · have same := steady_attached world.db op steady outcome address uuid
    exact same ▸ kept.few

/-- And what the look-up has shown stays true across it. -/
theorem Clear.steady (clear : Clear address uuid bound world) (op : CmdbOp)
    (steady : op.steady = true) (outcome : Outcome) :
    Clear address uuid bound (world.next op outcome) := by
  refine ⟨clear.toKept.steady op steady outcome, ?_, ?_⟩
  · have other : ∀ reply, Event.lookUp ⟨.cmdb op, reply⟩ = none := by
      cases op <;> simp_all [CmdbOp.steady, Event.lookUp]
    exact (lookUpClear_append _ _ (other _)).trans clear.clear
  · exact (steady_attached world.db op steady outcome address uuid).trans clear.free

/-- Steady calls keep the look-up clear, in any number and order. -/
theorem steady_ensures {α : Type} {permits : Faults} {action : Run α}
    (only : action.Only (calls fun op => op.steady = true))
    (clear : Clear address uuid bound world) :
    action.Ensures (faulty permits) (Kept address uuid bound)
      (fun _ _ after => Clear address uuid bound after) state world :=
  calls_ensures only (Clear address uuid bound)
    (fun _ held op steady outcome _ => held.steady op steady outcome) (fun _ held => held.toKept)
    clear

/-! ## The look-up -/

/-- How the look-up leaves the attach: clear, if it completed and found no row. -/
def lookUpExit (address : String) (uuid : Option String) (bound : Nat) (state : FieldErrors)
    {α : Type} (result : Except Exn (Option α)) (final : FieldErrors) (after : World) : Prop :=
  final = state ∧
    match result with
    | .ok none => Clear address uuid bound after
    | _ => Kept address uuid bound after

/-- The look-up tells whether the address hangs, because it is not rejected
here: it answers by the store or raises, and both keep the invariant. -/
theorem findAttachedIp_ensures (handler : InstanceHandler) (kept : Kept address uuid bound world) :
    (handler.findAttachedIp address uuid).Ensures (faulty lookUpFaults) (Kept address uuid bound)
      (lookUpExit address uuid bound state) state world := by
  unfold InstanceHandler.findAttachedIp
  refine Action.Ensures.bind (?_ : Action.Ensures _ _ _ (fun result final after =>
    final = state ∧
      match result with
      | .ok row => lookUpExit address uuid bound state (.ok row.join) final after
      | .error _ => Kept address uuid bound after) state world) ?_ ?_
  · apply plainCall_ensures (Kept address uuid bound) kept
    intro current held outcome permitted
    have reads : (current.db.answer (.ipSelectAttached address uuid) outcome).2 = current.db :=
      current.db.answer_read _ rfl outcome
    have after : Kept address uuid bound
        (current.next (.ipSelectAttached address uuid) outcome) := by
      refine ⟨guarded_append held.guarded _ (by simp [Event.inserts]), ?_⟩
      rw [World.next_db, reads]
      exact held.few
    refine ⟨after, ?_⟩
    cases outcome with
    | ok =>
      simp only [Cmdb.answer, Cmdb.admits, if_true, replyExit, lookUpExit, true_and]
      cases answer : current.db.rows (.ipSelectAttached address uuid) with
      | some row => exact after
      | none =>
        refine ⟨after, ?_, current.db.lookUp_none address uuid answer⟩
        apply lookUpClear_found
        simp [Cmdb.answer, Cmdb.admits, answer, Event.lookUp]
    | fail error landed =>
      have transport : error.isTransport = true := permitted
      simp only [Cmdb.answer, replyExit, transport, if_true]
      exact ⟨after, trivial, after⟩
  · rintro row final after ⟨_, exit⟩
    exact exit
  · rintro exc final after ⟨same, held⟩
    exact ⟨same, held⟩

/-! ## The inserts -/

/-- An endpoint insert needs the clear look-up and leaves it as it is. -/
theorem Clear.insertEndpoint (clear : Clear address uuid bound world) (columns : Endpoint)
    (outcome : Outcome) :
    Clear address uuid bound (world.next (.endpointInsertOne columns) outcome) := by
  have same : (world.next (.endpointInsertOne columns) outcome).db.attached address uuid =
      world.db.attached address uuid := by
    rcases world.db.answer_db (.endpointInsertOne columns) outcome with unchanged | landed
    · rw [World.next_db, unchanged]
    · rw [World.next_db, landed]
      exact world.db.attached_insertEndpoint columns address uuid
  refine ⟨⟨guarded_append clear.guarded _ fun _ => clear.clear, ?_⟩, ?_, ?_⟩
  · rw [same]
    exact clear.few
  · exact (lookUpClear_append _ _ rfl).trans clear.clear
  · rw [same]
    exact clear.free

/-- An IP insert after the clear look-up attaches at most one row. -/
theorem Clear.insertIp (positive : 1 ≤ bound) (clear : Clear address uuid bound world)
    (columns : Ip) (outcome : Outcome) :
    Kept address uuid bound (world.next (.ipInsertOne columns) outcome) := by
  refine ⟨guarded_append clear.guarded _ fun _ => clear.clear, ?_⟩
  rcases world.db.answer_db (.ipInsertOne columns) outcome with unchanged | landed
  · rw [World.next_db, unchanged]
    exact clear.few
  · have few := world.db.attached_insertIp columns address uuid
    rw [clear.free, List.length_nil] at few
    rw [World.next_db, landed]
    exact le_trans few positive

/-- What ends a call that keeps `Kept` and may be repeated from it. -/
theorem kept_exit {handler : InstanceHandler} {options : CallOptions} {ρ : Type}
    {post : Except Exn (Option ρ) → FieldErrors → World → Prop} {after : World}
    (kept : Kept address uuid bound after)
    (raised : ∀ exc final, post (.error exc) final after)
    (raises : options.raiseOnDataError = true) (error : CallError) :
    replyExit handler options post (Kept address uuid bound) state after (.error error) := by
  simp only [replyExit, raises, if_true]
  split
  · exact ⟨kept, raised _ _⟩
  · exact raised _ _

/-- How the endpoint insert leaves the attach: unless the IP itself turned up, the
look-up is still clear. -/
def endpointExit (address : String) (uuid : Option String) (bound : Nat)
    (result : Except Exn (Option (EndpointRef × Bool))) (_ : FieldErrors) (after : World) : Prop :=
  match result with
  | .ok (some (_, false)) => Clear address uuid bound after
  | _ => Kept address uuid bound after

/-- The selector begins with the look-up itself, so an attempt that follows it
is clear again. -/
theorem attachEndpointSelector_ensures (handler : InstanceHandler) (serverId : Nat) (name : String)
    (kept : Kept address uuid bound world) :
    (handler.attachEndpointSelector address uuid serverId name).Ensures (faulty lookUpFaults)
      (Kept address uuid bound)
      (InstanceHandler.selectorExit (endpointExit address uuid bound) (Clear address uuid bound)
        (Kept address uuid bound) state) state world := by
  unfold InstanceHandler.attachEndpointSelector
  refine (findAttachedIp_ensures handler kept).bind ?_ ?_
  · rintro existing final after ⟨rfl, exit⟩
    cases existing with
    | some row => exact ⟨rfl, exit⟩
    | none =>
      simp only
      rw [Action.ensures_bind]
      apply cmdb_ensures
      intro outcome _
      have clear := Clear.steady exit (.endpointSelectOne serverId (.name name)) rfl outcome
      refine ⟨clear.toKept, ?_⟩
      cases (after.db.answer (.endpointSelectOne serverId (.name name)) outcome).1 with
      | ok found => cases found <;> exact ⟨rfl, clear⟩
      | error error => exact ⟨rfl, clear.toKept, clear.toKept⟩
  · rintro exc final after ⟨rfl, exit⟩
    exact ⟨rfl, exit, exit⟩

/-- The insert of an endpoint is issued clear on every attempt, and leaves the
attach so unless the address turned up. -/
theorem insertAttachEndpoint_ensures (handler : InstanceHandler) (request : AttachRequest)
    (server : ServerView) (clear : Clear request.ipAddr request.hostUuid bound world) :
    (handler.insertAttachEndpoint request server).Ensures (faulty lookUpFaults)
      (Kept request.ipAddr request.hostUuid bound)
      (endpointExit request.ipAddr request.hostUuid bound) state world := by
  unfold InstanceHandler.insertAttachEndpoint
  apply InstanceHandler.cmdbCall_ensures (Clear request.ipAddr request.hostUuid bound)
    (Kept request.ipAddr request.hostUuid bound) clear
  · -- One invocation.
    intro current start
    rw [Action.ensures_bind]
    apply cmdb_ensures
    intro outcome _
    have after := start.insertEndpoint (attachColumns request server) outcome
    refine ⟨after.toKept, ?_⟩
    cases (current.db.answer (.endpointInsertOne (attachColumns request server)) outcome).1 with
    | ok endpoint => exact ⟨rfl, after⟩
    | error error =>
      exact ⟨rfl, replyExit_failure (kept_exit after.toKept (fun _ _ => after.toKept) rfl error)⟩
  · rintro _ ⟨⟩ current kept
    exact attachEndpointSelector_ensures handler server.id _ kept
  · intro absent
    cases absent

/-- The insert of the IP is issued clear on every attempt. It adds the one row
that the bound leaves room for, and the look-up between two attempts finds it. -/
theorem insertAttachIp_ensures (handler : InstanceHandler) (request : AttachRequest)
    (server : ServerView) (netPrefix : Option NetworkPrefix) (endpointId : Nat)
    (positive : 1 ≤ bound) (clear : Clear request.ipAddr request.hostUuid bound world) :
    (handler.insertAttachIp request server netPrefix endpointId).Ensures (faulty lookUpFaults)
      (Kept request.ipAddr request.hostUuid bound)
      (fun _ _ after => Kept request.ipAddr request.hostUuid bound after) state world := by
  unfold InstanceHandler.insertAttachIp
  refine Action.Ensures.bind (?_ : Action.Ensures _ _ _ (fun _ _ after =>
    Kept request.ipAddr request.hostUuid bound after) state world) ?_ ?_
  · apply call_ensures (Clear request.ipAddr request.hostUuid bound)
      (Kept request.ipAddr request.hostUuid bound) clear
    · intro current start outcome _
      have after := start.insertIp positive (attachIpColumns request server netPrefix endpointId)
        outcome
      refine ⟨after, ?_⟩
      cases (current.db.answer (.ipInsertOne
          (attachIpColumns request server netPrefix endpointId)) outcome).1 with
      | ok row => exact after
      | error error => exact kept_exit after (fun _ _ => after) rfl error
    · rintro _ ⟨⟩ current kept
      unfold InstanceHandler.attachIpSelector
      refine (findAttachedIp_ensures handler kept).bind ?_ ?_
      · rintro row final after ⟨rfl, exit⟩
        cases row <;> exact ⟨rfl, exit⟩
      · rintro exc final after ⟨rfl, exit⟩
        exact ⟨rfl, exit, exit⟩
    · intro absent
      cases absent
  · exact fun _ _ _ kept => kept
  · exact fun _ _ _ kept => kept

/-! ## The action -/

/-- How the choice of the endpoint leaves the attach: clear, unless the address
turned up or an exception was raised. -/
def chosenExit (address : String) (uuid : Option String) (bound : Nat)
    (result : Except Exn (Option Nat)) (_ : FieldErrors) (after : World) : Prop :=
  match result with
  | .ok (some _) => Clear address uuid bound after
  | _ => Kept address uuid bound after

/-- The choice of an endpoint keeps the look-up clear. By cases: an update is
steady, an insert is the lemma above. -/
theorem attachEndpoint_ensures (handler : InstanceHandler) (request : AttachRequest)
    (server : ServerView) (clear : Clear request.ipAddr request.hostUuid bound world) :
    (handler.attachEndpoint request server).Ensures (faulty lookUpFaults)
      (Kept request.ipAddr request.hostUuid bound)
      (chosenExit request.ipAddr request.hostUuid bound) state world := by
  unfold InstanceHandler.attachEndpoint
  cases chooseEndpoint request.mac server.endpoints with
  | some endpoint =>
    have reuse : (handler.reuseEndpoint request endpoint).Only (calls fun op => op.steady = true) :=
      InstanceHandler.reuseEndpoint_only rfl
    refine (steady_ensures reuse clear).bind ?_ ?_
    · exact fun _ _ _ held => held
    · exact fun _ _ _ held => held.toKept
  | none =>
    refine (insertAttachEndpoint_ensures handler request server clear).bind ?_ ?_
    · intro inserted final after exit
      cases inserted with
      | none => exact exit
      | some found =>
        obtain ⟨endpoint, recovered⟩ := found
        cases recovered <;> exact exit
    · exact fun _ _ _ exit => exit

/-- An attach to the server it has read looks the address up before its inserts
and stays within the bound. -/
theorem attachTo_ensures (handler : InstanceHandler) (request : AttachRequest)
    (server : ServerView) (positive : 1 ≤ bound)
    (kept : Kept request.ipAddr request.hostUuid bound world) :
    (handler.attachTo request server).Ensures (faulty lookUpFaults)
      (Kept request.ipAddr request.hostUuid bound)
      (fun _ _ after => Kept request.ipAddr request.hostUuid bound after) state world := by
  have prefixReads : (handler.attachPrefix request).Only (calls fun op => op.steady = true) :=
    InstanceHandler.attachPrefix_only rfl fun _ => rfl
  unfold InstanceHandler.attachTo
  refine (findAttachedIp_ensures handler kept).bind ?_ fun _ _ _ exit => exit.2
  rintro existing final after ⟨rfl, exit⟩
  cases existing with
  | some row => exact exit
  | none =>
    refine (steady_ensures prefixReads exit).bind ?_ fun _ _ _ held => held.toKept
    intro netPrefix final after clear
    refine (attachEndpoint_ensures handler request server clear).bind ?_ fun _ _ _ exit => exit
    intro endpoint final after exit
    cases endpoint with
    | none => exact exit
    | some endpointId =>
      exact insertAttachIp_ensures handler request server netPrefix endpointId positive exit

/-- The action keeps the invariant if the request read from its message is about
this address. -/
theorem attachToInstances_ensures (handler : InstanceHandler) (message : Message)
    (positive : 1 ≤ bound)
    (about : ∀ request, handler.readAttach message = .ok (some request) →
      request.ipAddr = address ∧ request.hostUuid = uuid)
    (kept : Kept address uuid bound world) :
    (handler.attachToInstances message).Ensures (faulty lookUpFaults) (Kept address uuid bound)
      (fun _ _ after => Kept address uuid bound after) state world := by
  unfold InstanceHandler.attachToInstances
  rw [Action.ensures_bind, Action.ensures_lift]
  cases read : handler.readAttach message with
  | error exc => exact kept
  | ok found =>
    cases found with
    | none => exact kept
    | some request =>
      obtain ⟨rfl, rfl⟩ := about request read
      have serverReads :
          (handler.cmdbCall { field := "server.select_one", raiseOnDataError := true }
            (cmdb (.serverSelectOneByUuid request.hostUuid))).Only
            (calls fun op => op.steady = true) :=
        InstanceHandler.plainCall_only rfl
      refine (calls_ensures serverReads (Kept request.ipAddr request.hostUuid bound)
        (fun _ held op steady outcome _ => held.steady op steady outcome) (fun _ held => held)
        kept).bind ?_ fun _ _ _ held => held
      intro server final after held
      cases server.join with
      | none => exact held
      | some server => exact attachTo_ensures handler request server positive held

/-- Redeliveries of one attach, one after the other. By the rule for several
deliveries, each of which keeps the invariant. -/
theorem redelivered_ensures (worker : MessageHandlerService) (message : Message)
    (attach : message.actionType = some "attach") (deliveries : Nat) (positive : 1 ≤ bound)
    (about : ∀ request, worker.handler.readAttach message = .ok (some request) →
      request.ipAddr = address ∧ request.hostUuid = uuid)
    (kept : Kept address uuid bound world) :
    (worker.handleAll (List.replicate deliveries (.ok message))).Ensures (faulty lookUpFaults)
      (Kept address uuid bound) (fun _ _ after => Kept address uuid bound after) state world := by
  apply MessageHandlerService.handleAll_ensures (Kept address uuid bound) _ ?_ kept
  intro delivery member state world held
  obtain rfl := List.eq_of_mem_replicate member
  apply MessageHandlerService.handleMessage_keeps (faulty_within _).records
    (Kept address uuid bound) ?_ ?_ held
  · intro state world held
    have started : Kept address uuid bound (world.record ⟨.started message, ()⟩) :=
      held.record _ rfl
    apply MessageHandlerService.processDelivery_ensures (faulty_within _).records started
    rw [worker.handler.dispatch_attach attach]
    exact attachToInstances_ensures worker.handler message positive about started
  · intro event world broker held
    have harmless : event.inserts = false := by
      obtain ⟨op, reply⟩ := event
      cases op <;> simp_all [Event.isCall, Event.inserts]
    exact ⟨held.record event harmless, held.record event harmless⟩

/-- In every state of every run over redeliveries of one attach whose look-ups of
the attached IP fail by transport only: each insert was issued after a look-up that
completed and found no row, and the message never brings its address to a second
row. -/
theorem attach_inserts_after_lookUp (worker : MessageHandlerService) (message : Message)
    (attach : message.actionType = some "attach") (deliveries : Nat) (db : Cmdb)
    (state : FieldErrors) (last : World) (rest : Prog service (Except Exn Unit × FieldErrors))
    (run : Prog.Steps (faulty lookUpFaults) ⟨db, []⟩
      (worker.handleAll (List.replicate deliveries (.ok message)) state) last rest) :
    Guarded last.history ∧ ∀ request, worker.handler.readAttach message = .ok (some request) →
      (last.db.attached request.ipAddr request.hostUuid).length ≤
        max 1 (db.attached request.ipAddr request.hostUuid).length := by
  have always : ∀ address uuid, (∀ request,
      worker.handler.readAttach message = .ok (some request) →
        request.ipAddr = address ∧ request.hostUuid = uuid) →
      Kept address uuid (max 1 (db.attached address uuid).length) last := by
    intro address uuid about
    have kept : Kept address uuid (max 1 (db.attached address uuid).length) ⟨db, []⟩ :=
      ⟨guarded_nil, le_max_right _ _⟩
    exact (redelivered_ensures worker message attach deliveries (le_max_left _ _) about
      kept).always kept run
  constructor
  · cases read : worker.handler.readAttach message with
    | error exc => exact (always "" none (by simp [read])).guarded
    | ok found =>
      cases found with
      | none => exact (always "" none (by simp [read])).guarded
      | some request =>
        refine (always request.ipAddr request.hostUuid ?_).guarded
        intro other same
        rw [read] at same
        cases same
        exact ⟨rfl, rfl⟩
  · intro request read
    refine (always request.ipAddr request.hostUuid ?_).few
    intro other same
    rw [read] at same
    cases same
    exact ⟨rfl, rfl⟩

/-- The attach of one address, delivered twice to a host without it. -/
def sampleAttach : Message := AsciiRuntime.attachMessage "10.0.0.9" "m9"

/-- The sample attach, delivered twice under this script. -/
def sampleAttachEnd (script : List (Nat × Outcome)) : World :=
  ((AsciiRuntime.service.handleAll (List.replicate 2 (.ok sampleAttach)) {}).run
    (World.scripted script) ⟨AsciiRuntime.registered, []⟩).2

/-- The look-up of the second delivery is answered with a bare `KeyError`. -/
def rejectedLookUp : List (Nat × Outcome) := [(10, .fail (.key "data") false)]

/-- The sample attach delivered twice without failures: the second delivery
inserts nothing. -/
theorem attach_inserts_after_lookUp_twice :
    Guarded (sampleAttachEnd []).history ∧
      ∀ request, AsciiRuntime.handler.readAttach sampleAttach = .ok (some request) →
        ((sampleAttachEnd []).db.attached request.ipAddr request.hostUuid).length ≤
          max 1 (AsciiRuntime.registered.attached request.ipAddr request.hostUuid).length :=
  attach_inserts_after_lookUp AsciiRuntime.service sampleAttach rfl 2 AsciiRuntime.registered {} _ _
    (Prog.run_ends (scripted_possible [] (by intro call; cases call <;> trivial) (by simp)) _ _)

/-- The rejected look-up is taken for an absent row: the second delivery inserts the
IP again, and both deliveries are acked. -/
theorem rejected_lookUp_duplicates :
    Prog.Ends (faulty anyFaults) ⟨AsciiRuntime.registered, []⟩
        (AsciiRuntime.service.handleAll (List.replicate 2 (.ok sampleAttach)) {}) (.ok (), {})
        (sampleAttachEnd rejectedLookUp) ∧
      AsciiRuntime.registered.attached "10.0.0.9" (some "u1") = [] ∧
      ((sampleAttachEnd rejectedLookUp).db.attached "10.0.0.9" (some "u1")).length = 2 ∧
      ¬ Guarded (sampleAttachEnd rejectedLookUp).history := by
  refine ⟨Prog.run_ends (scripted_possible rejectedLookUp (fun _ => trivial)
    (by simp [rejectedLookUp, anyFaults])) _ _, by decide, by decide, ?_⟩
  intro guarded
  have parts : (sampleAttachEnd rejectedLookUp).history =
      (sampleAttachEnd rejectedLookUp).history.take 13 ++
        (sampleAttachEnd rejectedLookUp).history.get ⟨13, by decide⟩ ::
          (sampleAttachEnd rejectedLookUp).history.drop 14 := by
    rw [List.get_eq_getElem, List.getElem_cons_drop, List.take_append_drop]
  have clear := guarded _ _ _ parts (by decide)
  have unclear : lookUpClear ((sampleAttachEnd rejectedLookUp).history.take 13) = false := by decide
  rw [unclear] at clear
  exact Bool.false_ne_true clear

end InstanceLifecycle
