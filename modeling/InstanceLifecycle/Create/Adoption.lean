import InstanceLifecycle.Create.HostRow
import InstanceLifecycle.Service.Rules

/-!
# The row a create adopts

When the reply to the insert of its row is lost, a create goes on with whatever
row its look-up by hostname hands back. For a message that names its host this
is the row it has inserted, since the removal in front has cleared the hostname.
An empty hostname is left out of the removal's condition, so there the row may
be somebody else's. What is then asked of the row is a condition on the answered
look-up, in the store as it is at that step, and on the message under way.
-/

namespace InstanceLifecycle

open Interaction Store InstanceHandler

/-- The message a `started` event reports; other events report none. -/
def Event.begun (event : Event) : Option Message :=
  match event.op with
  | .started message => some message
  | _ => none

/-- The message that is being processed: the last one that was started. Calls
and confirmations do not change it. -/
def World.underway (world : World) : Option Message :=
  (world.history.filterMap Event.begun).getLast?

/-- A call belongs to the message under way. -/
theorem World.underway_next (world : World) (op : CmdbOp) (outcome : Outcome) :
    (world.next op outcome).underway = world.underway := by
  simp [underway, World.next, Event.begun]

/-- A started message is under way from this event on. -/
theorem World.underway_started (world : World) (message : Message) :
    (world.record ⟨.started message, ()⟩).underway = some message := by
  simp [underway, Event.begun]

/-- Reads are calls, so they leave the message under way. -/
theorem World.Reads.underway {world after : World} (reads : world.Reads after) :
    after.underway = world.underway := by
  obtain ⟨added, grown, calls⟩ := reads.events
  have none : added.filterMap Event.begun = [] := by
    rw [List.filterMap_eq_nil_iff]
    rintro ⟨op, reply⟩ member
    have call := calls _ member
    cases op with
    | started message => cases call
    | _ => rfl
  rw [World.underway, grown, List.filterMap_append, none, List.append_nil, World.underway]

/-- The answered look-up of a create without a hostname: the row it hands back
meets the condition of the message under way. Every other step passes. -/
def adopts (meets : Message → Cmdb → Nat → Prop) (op : service.Op) (before : World)
    (reply : service.Reply op) : Prop :=
  match op, reply with
  | .cmdb (.serverSelectOneByHostname hostname), .ok (some id) =>
      hostname = "" → ∀ message, before.underway = some message → meets message before.db id
  | _, _ => True

/-- The runs under these failures in which every row that a create adopts meets
the condition. -/
def adopting (permits : Faults) (meets : Message → Cmdb → Nat → Prop) : Env service World :=
  fun op before reply after => adopts meets op before reply ∧ faulty permits op before reply after

/-- An operation that looks up no empty hostname adopts nothing. -/
theorem adopts_other {meets : Message → Cmdb → Nat → Prop} {op : service.Op}
    (other : op ≠ .cmdb (.serverSelectOneByHostname "")) (before : World)
    (reply : service.Reply op) : adopts meets op before reply := by
  unfold adopts
  split
  · rintro rfl
    exact absurd rfl other
  · trivial

/-- Does the operation look up the empty hostname? -/
def adoptsNameless : service.Op → Bool
  | .cmdb (.serverSelectOneByHostname hostname) => decide (hostname = "")
  | _ => false

/-- A call that adopts no nameless row is not the re-select under the empty host
name. -/
theorem adoptsNameless_false {op : service.Op} (other : (!adoptsNameless op) = true) :
    op ≠ .cmdb (.serverSelectOneByHostname "") := by
  rintro rfl
  cases other

section Adoption

variable {permits : Faults} {meets : Message → Cmdb → Nat → Prop} {handler : InstanceHandler}
  {message : Message} {ctx : CreateContext} {state : FieldErrors} {world : World}

/-- The row is stored, and it has no endpoints yet or its adoption met the
condition of the message. -/
structure Adopted (meets : Message → Cmdb → Nat → Prop) (message : Message) (hostname : String)
    (id : Nat) (db : Cmdb) : Prop where
  stored : ∃ server ∈ db.servers.rows, server.id = id
  spared : db.endpointsOf id = [] ∨ (hostname = "" → meets message db id)

/-- A part of an action that only calls leaves its message under way. -/
theorem calls_underway {α : Type} {allowed : CmdbOp → Prop} {action : Run α}
    (only : action.Only (calls allowed)) (underway : world.underway = some message) :
    action.Ensures (adopting permits meets) (fun _ => True)
      (fun _ _ after => after.underway = some message) state world := by
  have kept : action.Ensures (faulty permits) (fun _ => True)
      (fun _ _ after => after.underway = some message) state world :=
    calls_ensures only (fun current => current.underway = some message)
      (fun before held op _ outcome _ => (before.underway_next op outcome).trans held)
      (fun _ _ => trivial) underway
  exact kept.env_mono (fun _ _ _ _ step => step.2) fun _ held => held

/-- An answered insert hands back a fresh row. It has no endpoints, since every
stored endpoint names a server that was stored before. -/
theorem insertRow_adopted (underway : world.underway = some message) :
    (cmdb (.serverInsertOne (handler.serverColumns ctx))).Ensures (adopting permits meets)
      (fun _ => True) (fun result final after => final = state ∧ after.underway = some message ∧
        ∀ id, result = .ok id → Adopted meets message ctx.hostname id after.db) state world := by
  have answered : (cmdb (.serverInsertOne (handler.serverColumns ctx))).Ensures (faulty permits)
      (fun _ => True) (fun result final after => final = state ∧ after.underway = some message ∧
        ∀ id, result = .ok id → Adopted meets message ctx.hostname id after.db) state world := by
    apply cmdb_ensures
    intro outcome _
    refine ⟨trivial, rfl, (world.underway_next _ outcome).trans underway, ?_⟩
    intro id handed
    cases outcome with
    | fail error landed => cases handed
    | ok =>
      have fresh : world.db.servers.next = id := Except.ok.inj handed
      rw [← fresh, World.next_db]
      constructor
      · exact ⟨_, (world.db.servers.mem_insert _ _).mpr (Or.inr rfl), rfl⟩
      · exact Or.inl (endpointsOf_inserted world.db _)
  exact answered.env_mono (fun _ _ _ _ step => step.2) fun _ held => held

/-- An answered look-up hands back a stored row, and the condition holds of it
where the hostname is empty. The look-up itself changes nothing. -/
theorem lookUpRow_adopted (underway : world.underway = some message) :
    (cmdb (.serverSelectOneByHostname ctx.hostname)).Ensures (adopting permits meets)
      (fun _ => True) (fun result final after => final = state ∧ after.underway = some message ∧
        ∀ id, result = .ok (some id) → Adopted meets message ctx.hostname id after.db)
      state world := by
  rw [cmdb, Action.ensures_request]
  rintro reply after ⟨adopted, step⟩
  obtain ⟨outcome, _, rfl, rfl⟩ := faulty_next step
  refine ⟨trivial, rfl, (world.underway_next _ outcome).trans underway, ?_⟩
  intro id handed
  cases outcome with
  | fail error landed => cases handed
  | ok =>
    have found : world.db.rows (.serverSelectOneByHostname ctx.hostname) = some id :=
      Except.ok.inj handed
    rw [World.next_db, world.db.answer_read (.serverSelectOneByHostname ctx.hostname) rfl]
    constructor
    · obtain ⟨server, located, own⟩ := Option.map_eq_some_iff.mp found
      exact ⟨server, List.mem_of_find?_eq_some located, own⟩
    · have answer : (world.db.answer (.serverSelectOneByHostname ctx.hostname) .ok).1 =
          .ok (some id) := by
        rw [← found]
        rfl
      rw [answer] at adopted
      exact Or.inr fun nameless => adopted nameless message underway

/-- The row a create goes on with: fresh, or adopted as the condition says. The
removal in front and the lost invocations of the insert leave the message under
way, and nothing else is needed of them. -/
theorem recreateServerRow_adopted (underway : world.underway = some message) :
    (handler.recreateServerRow ctx).Ensures (adopting permits meets) (fun _ => True)
      (fun result _ after => after.underway = some message ∧ ∀ id, result = .ok (some id) →
        Adopted meets message ctx.hostname id after.db) state world := by
  have removal : (handler.removeServer (some ctx.instanceId) (some ctx.hostname)).Only
      (calls fun _ => True) :=
    removeServer_only trivial (fun _ => trivial) fun _ => trivial
  rw [recreateServerRow]
  refine (calls_underway removal underway).bind ?_ fun _ _ _ held => ⟨held, by simp⟩
  intro _ middle removed held
  apply cmdbCall_found (fun current : World => current.underway = some message)
    (fun id (current : World) => Adopted meets message ctx.hostname id current.db) held
  · exact fun current held => insertRow_adopted held
  · rintro _ ⟨⟩ current held
    exact lookUpRow_adopted held

variable {before after : Cmdb} {id : Nat}

/-- Where the message names its host the removal leaves no row for the look-up
but the inserted one, so the condition is only needed for an empty hostname. -/
theorem Adopted.free (adopted : Adopted meets message ctx.hostname id after)
    (exit : recreatedExit handler ctx before (.ok (some id)) after) :
    after.endpointsOf id = [] ∨ meets message after id := by
  by_cases nameless : ctx.hostname = ""
  · exact adopted.spared.imp_right fun met => met nameless
  · obtain ⟨base, _, ⟨rfl, rfl⟩ | ⟨_, row, stranger, _⟩⟩ := recreated_row exit
    · exact Or.inl (endpointsOf_inserted base _)
    · rw [stranger_named nameless] at stranger
      cases stranger

/-- The reference rows are those in front of the removal. -/
theorem recreated_reference (exit : recreatedExit handler ctx before (.ok (some id)) after) :
    after.reference = before.reference := by
  obtain ⟨base, cleared, ⟨rfl, _⟩ | ⟨rfl | rfl, _⟩⟩ := exit
  · exact cleared.1.reference
  · exact cleared.1.reference
  · exact cleared.1.reference

/-- A create keeps what its parts keep under the failures alone, if what follows
the recreation of the row keeps it on a fresh row and on an adopted one that
meets the condition. -/
theorem createInstances_adopting {inv : World → Prop} (underway : world.underway = some message)
    (read : ∀ after, world.Reads after → inv after)
    (recreates : ∀ ctx errors built, world.Reads built →
      (handler.recreateServerRow ctx).Ensures (faulty permits) inv
        (fun result _ after => recreatedExit handler ctx built.db result after.db ∧ inv after)
        errors built)
    (completes : ∀ content, readCreate handler message = .ok (some content) →
      ∀ id errors after, inv after → after.db.reference = world.db.reference →
        (∃ server ∈ after.db.servers.rows, server.id = id) →
        (after.db.endpointsOf id = [] ∨ meets message after.db id) →
        (completeCreate handler (content.context handler message world.db) id).Ensures
          (faulty permits) inv (fun _ _ last => inv last) errors after) :
    (handler.createInstances message).Ensures (adopting permits meets) inv
      (fun _ _ after => inv after) state world := by
  have context : ∀ state, (handler.buildCreateContext message).Ensures (adopting permits meets) inv
      (contextExit permits handler message state world) state world := by
    intro state
    have built : (handler.buildCreateContext message).Ensures (faulty permits) inv
        (contextExit permits handler message state world) state world :=
      buildCreateContext_ensures read
    exact built.env_mono (fun _ _ _ _ step => step.2) fun _ held => held
  rw [createInstances, Action.ensures_bind, Action.ensures_modify]
  simp only
  refine (context _).bind ?_ fun _ _ _ held => read _ held.1
  rintro found middle built ⟨reads, exit⟩
  cases found with
  | none => exact read built reads
  | some ctx =>
    obtain ⟨content, parsed, rfl, rfl⟩ := exit
    have recreated : ∀ errors, (handler.recreateServerRow
        (content.context handler message world.db)).Ensures (adopting permits meets) inv
        (fun result _ after => (recreatedExit handler (content.context handler message world.db)
          built.db result after.db ∧ inv after) ∧ after.underway = some message ∧
            ∀ id, result = .ok (some id) → Adopted meets message content.hostname id after.db)
        errors built := by
      intro errors
      have rows := (recreates (content.context handler message world.db) errors built
        reads).env_mono (fun _ _ _ _ (step : adopting permits meets _ _ _ _) => step.2)
        fun _ kept => kept
      exact (rows.and (recreateServerRow_adopted (reads.underway.trans underway))).env_mono
        (fun _ _ _ _ step => step) fun _ kept => kept.1
    simp only
    rw [Action.ensures_bind, Action.ensures_attempt]
    refine (recreated _).mono ?_
    rintro (exc | id) final after ⟨⟨row, now⟩, -, adopted⟩
    · simp only
      split
      · exact now
      · exact now
    · cases id with
      | none => exact row.elim
      | some newServerId =>
        have own := adopted newServerId rfl
        have reference : after.db.reference = world.db.reference :=
          (recreated_reference row).trans (by rw [reads.db])
        exact (completes content parsed newServerId final after now reference own.stored
          (own.free row)).env_mono (fun _ _ _ _ step => step.2) fun _ kept => kept

end Adoption

end InstanceLifecycle
