import InstanceLifecycle.Attach.Phases

/-!
# When an attach starts over

An attach is processed again, and the endpoint of an insert is looked up, after a failed call
only. An attach none of whose calls fail therefore makes each of its calls once.
-/

namespace InstanceLifecycle

open Interaction Store InstanceHandler

/-- The look-up of an endpoint whose insert is in doubt. -/
def CmdbOp.reselects : CmdbOp → Bool
  | .endpointSelectOne _ _ => true
  | _ => false

/-- The event starts an attempt, or looks up an endpoint. -/
def Event.resumes (event : Event) : Bool :=
  match event.op with
  | .started _ => true
  | .cmdb op => op.reselects
  | _ => false

/-- Such an event is the first one, or comes after a failed call. -/
def resumeRule (earlier : List Event) (event : Event) : Prop :=
  event.resumes = true → earlier = [] ∨ earlier.any Event.failed = true

/-- Every such event comes first or after a failed call. -/
def Calm (world : World) : Prop := Justified resumeRule world.history

section Calls

variable {permits : Faults} {handler : InstanceHandler} {request : AttachRequest}
  {server : ServerView} {state : FieldErrors} {world : World}

/-- Any other event keeps this. -/
theorem Calm.record (calm : Calm world) (event : Event) (goesOn : event.resumes = false) :
    Calm (world.record event) := by
  refine justified_append.mpr ⟨calm, ?_⟩
  intro resumes
  rw [goesOn] at resumes
  cases resumes

/-- Such an event keeps it at the beginning or after a failure. -/
theorem Calm.resume (calm : Calm world) (event : Event)
    (after : world.history = [] ∨ Failed world) : Calm (world.record event) :=
  justified_append.mpr ⟨calm, fun _ => after⟩

/-- A part of an action that looks up no endpoint keeps it. -/
theorem calm_calls {α : Type} {action : Run α}
    (only : action.Only (calls fun op => op.reselects = false)) (calm : Calm world) :
    action.Ensures (unsteady permits) Calm (fun _ _ after => Calm after) state world := by
  apply unsteady_calls only Calm _ (fun _ held => held) calm
  exact fun before held op other reply => held.record ⟨.cmdb op, reply⟩ other

/-- The search of an attached IP keeps it, and a failure stays on record. -/
theorem findAttachedIp_calm {address : String} {uuid : Option String} (calm : Calm world)
    (failed : Failed world) :
    (handler.findAttachedIp address uuid).Ensures (unsteady permits) Calm
      (fun _ final after => final = state ∧ Calm after ∧ Failed after) state world := by
  have call : (handler.cmdbCall { field := "ip.select_one" }
      (cmdb (.ipSelectAttached address uuid))).Ensures (unsteady permits) Calm
      (fun _ final after => final = state ∧ Calm after ∧ Failed after) state world := by
    refine (InstanceHandler.cmdbCall_exits (fun after => Calm after ∧ Failed after)
      (fun after => Calm after ∧ Failed after) (fun _ after => Calm after ∧ Failed after)
      ⟨calm, failed⟩ ?_ (fun _ absent => by cases absent) fun _ _ held => held).mono ?_
    · intro current held
      apply unsteady_reply
      intro reply
      have after := held.1.record ⟨.cmdb (.ipSelectAttached address uuid), reply⟩ rfl
      have still := held.2.record ⟨.cmdb (.ipSelectAttached address uuid), reply⟩
      refine ⟨after, rfl, ?_⟩
      cases reply with
      | ok row => exact ⟨after, still⟩
      | error error => exact ⟨after, still⟩
    · rintro (exc | _ | row) final after ⟨silent, exit⟩
      · exact ⟨silent rfl, exit⟩
      · exact ⟨silent rfl, exit.2⟩
      · exact ⟨silent rfl, exit⟩
  rw [findAttachedIp]
  exact call.bind (fun _ _ _ held => held) fun _ _ _ held => held

/-- The insert of an endpoint keeps it: its selector runs after a failed attempt
only. -/
theorem insertAttachEndpoint_calm (calm : Calm world) :
    (handler.insertAttachEndpoint request server).Ensures (unsteady permits) Calm
      (fun _ _ after => Calm after) state world := by
  rw [insertAttachEndpoint]
  refine (InstanceHandler.cmdbCall_exits Calm (fun after => Calm after ∧ Failed after)
    (fun _ after => Calm after) calm ?_ ?_ fun _ _ held => held.1).mono ?_
  · intro current held
    rw [Action.ensures_bind]
    apply unsteady_reply
    intro reply
    have after := held.record
      ⟨.cmdb (.endpointInsertOne (attachColumns request server)), reply⟩ rfl
    refine ⟨after, ?_⟩
    cases reply with
    | ok endpoint => exact ⟨rfl, after⟩
    | error error => exact ⟨rfl, after, failed_error current _ error⟩
  · rintro _ ⟨⟩ current ⟨held, failed⟩
    rw [attachEndpointSelector]
    refine (findAttachedIp_calm held failed).bind ?_ fun _ _ _ exit => exit
    rintro existing middle looked ⟨rfl, still, earlier⟩
    cases existing with
    | some row => exact ⟨rfl, still⟩
    | none =>
      simp only
      rw [Action.ensures_bind]
      apply unsteady_reply
      intro reply
      have after := still.resume ⟨.cmdb (.endpointSelectOne server.id
        (.name (nextBondName (server.endpoints.map EndpointView.name)))), reply⟩ (Or.inr earlier)
      refine ⟨after, ?_⟩
      cases reply with
      | error error => exact ⟨rfl, after, failed_error looked _ error⟩
      | ok endpoint =>
        cases endpoint with
        | none => exact ⟨rfl, after⟩
        | some row => exact ⟨rfl, after⟩
  · rintro (exc | _ | row) final after ⟨-, exit⟩
    · exact exit.1
    · exact exit.2.1
    · exact exit

/-- Choosing the endpoint and filling or inserting it re-selects nothing while
every call is answered. A chosen endpoint needs no insert, and the insert has
its own lemma. -/
theorem attachEndpoint_calm (calm : Calm world) :
    (handler.attachEndpoint request server).Ensures (unsteady permits) Calm
      (fun _ _ after => Calm after) state world := by
  rw [attachEndpoint]
  cases chooseEndpoint request.mac server.endpoints with
  | some endpoint =>
    exact calm_calls (Action.Only.bind (reuseEndpoint_only rfl) fun _ => Action.only_pure _) calm
  | none =>
    refine (insertAttachEndpoint_calm calm).bind ?_ fun _ _ _ held => held
    intro inserted middle after held
    cases inserted with
    | none => exact held
    | some found => exact held

/-- An attach re-selects nothing while every call is answered. All of its calls
but the inserts have no re-select at all, and each insert is calm. -/
theorem attachToInstances_calm {message : Message} (calm : Calm world) :
    (handler.attachToInstances message).Ensures (unsteady permits) Calm
      (fun _ _ after => Calm after) state world := by
  rw [attachToInstances, Action.ensures_bind, Action.ensures_lift]
  cases handler.readAttach message with
  | error exc => exact calm
  | ok read =>
    cases read with
    | none => exact calm
    | some request =>
      have selects : calls (fun op : CmdbOp => op.reselects = false)
          (.cmdb (.serverSelectOneByUuid request.hostUuid)) := rfl
      refine (calm_calls (plainCall_only selects) calm).bind ?_ fun _ _ _ held => held
      intro found middle selected held
      cases found.join with
      | none => exact held
      | some server =>
        simp only
        rw [attachTo]
        refine (calm_calls (findAttachedIp_only rfl) held).bind ?_ fun _ _ _ held => held
        intro existing final looked still
        cases existing with
        | some row => exact still
        | none =>
          refine (calm_calls (attachPrefix_only rfl fun _ => rfl) still).bind ?_
            fun _ _ _ held => held
          intro netPrefix ended priced kept
          refine (attachEndpoint_calm kept).bind ?_ fun _ _ _ held => held
          intro endpoint last placed exit
          cases endpoint with
          | none => exact exit
          | some endpointId =>
            exact calm_calls (insertAttachIp_only (fun _ => rfl) fun _ _ => rfl) exit

end Calls

/-- The calls of an attach, with a failed one before everything that starts over. -/
def calmRule (prefixes : Option NetworkPrefix → Prop) (request : AttachRequest)
    (earlier : List Event) (event : Event) : Prop :=
  attachRule prefixes request earlier event ∧ resumeRule earlier event

section Message

variable {permits : Faults} {worker : MessageHandlerService} {message : Message}
  {request : AttachRequest} {prefixes : Option NetworkPrefix → Prop} {db : Cmdb}
  {state : FieldErrors}

/-- Both rules together are the rule of a calm attach. -/
theorem justified_calm {history : List Event} : Justified (calmRule prefixes request) history ↔
    Justified (attachRule prefixes request) history ∧ Justified resumeRule history := by
  constructor
  · intro both
    exact ⟨fun earlier event later parts => (both earlier event later parts).1,
      fun earlier event later parts => (both earlier event later parts).2⟩
  · rintro ⟨follows, calm⟩ earlier event later parts
    exact ⟨follows earlier event later parts, calm earlier event later parts⟩

/-- What holds before an attempt: it is the first one, or comes after a failed call. -/
structure BeforeAttempt (prefixes : Option NetworkPrefix → Prop) (request : AttachRequest)
    (db : Cmdb) (world : World) : Prop where
  followed : Followed prefixes request world
  calm : Calm world
  frozen : world.db = db
  resumes : world.history = [] ∨ Failed world

/-- An attach starts over after a failed call only, for its attempts end
normally unless one failed. -/
theorem attach_calm (attach : message.actionType = some "attach")
    (read : worker.handler.readAttach message = .ok (some request))
    (prefixed : ∀ state (current : World), current.db = db →
      (worker.handler.attachPrefix request).Ensures (unsteady permits) (fun _ => True)
        (fun result _ _ => ∀ netPrefix, result = .ok netPrefix → prefixes netPrefix) state
        current) :
    (worker.handleMessage (.ok message)).Ensures (unsteady permits) Calm
      (fun _ _ after => Calm after) state ⟨db, []⟩ := by
  have processed : ∀ state world, BeforeAttempt prefixes request db world →
      (worker.processDelivery (.ok message)).Ensures (unsteady permits) Calm
        (fun _ _ after => Calm after) state world := by
    intro state world before
    have started := before.calm.resume ⟨.started message, ()⟩ before.resumes
    apply MessageHandlerService.processDelivery_ensures (unsteady_records permits) started
    rw [worker.handler.dispatch_attach attach]
    exact attachToInstances_calm started
  have confirmed : ∀ (event : Event) (world : World), event.resumes = false →
      Calm world ∨ Calm world → Calm (world.record event) ∧ Calm (world.record event) := by
    rintro event world goesOn (calm | calm)
    · exact ⟨calm.record event goesOn, calm.record event goesOn⟩
    · exact ⟨calm.record event goesOn, calm.record event goesOn⟩
  refine (MessageHandlerService.handleMessage_ensures (unsteady_records permits)
    (BeforeAttempt prefixes request db) Calm Calm Calm Calm (fun _ _ before => before.calm) ?_
    (fun reply world => confirmed ⟨.ack, reply⟩ world rfl)
    (fun reply world => confirmed ⟨.nack, reply⟩ world rfl) (fun _ _ => ⟨id, id⟩)
    (⟨justified_nil _, justified_nil _, rfl, Or.inl rfl⟩ :
      BeforeAttempt prefixes request db ⟨db, []⟩)).mono ?_
  · intro state world before
    refine (((processAttach_follows attach read prefixed before.followed before.frozen).and
      ((unsteady_frozen _).and (processed state world before))).env_mono
        (fun _ _ _ _ step => step) fun _ held => held.2.2).mono ?_
    rintro (exc | value) final after ⟨exit, same, calm⟩
    · exact ⟨calm, fun _ => ⟨exit.1, calm, same.trans before.frozen, Or.inr exit.2⟩⟩
    · exact calm
  · exact fun _ _ _ held => held.elim id id

/-- An attach that starts over after a failed call only is settled by how it ended. -/
theorem attach_settles_calm (attempts : 0 < worker.maxRetries) (confirms : 0 < worker.ackRetries)
    (attach : message.actionType = some "attach")
    (read : worker.handler.readAttach message = .ok (some request))
    (prefixed : ∀ state (current : World), current.db = db →
      (worker.handler.attachPrefix request).Ensures (unsteady permits) (fun _ => True)
        (fun result _ _ => ∀ netPrefix, result = .ok netPrefix → prefixes netPrefix) state
        current) :
    (worker.handleMessage (.ok message)).Ensures (unsteady permits)
      (fun after => Justified (calmRule prefixes request) after.history)
      (fun _ _ after => AttachSettled prefixes request after) state ⟨db, []⟩ := by
  refine (((attach_settles attempts confirms attach read prefixed).and
    (attach_calm attach read prefixed)).env_mono (fun _ _ _ _ step => step)
      fun _ held => justified_calm.mpr held).mono ?_
  exact fun _ _ _ held => held.1

end Message

end InstanceLifecycle
