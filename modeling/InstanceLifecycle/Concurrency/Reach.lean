import InstanceLifecycle.Concurrency.Crowd
import InstanceLifecycle.Cmdb.References
import InstanceLifecycle.Create.Context
import InstanceLifecycle.Create.ServerRow
import InstanceLifecycle.Attach.ExactlyOnce

/-!
# What a message can reach

Some calls name servers by a uuid or a hostname, and these come from the message. All others
name rows by their ids, and the ids come from replies the message has heard. So a message
reaches nothing that its own keys do not lead to, whatever is answered: this is proved from its
calls alone, before anything is said about the store.
-/

namespace InstanceLifecycle

open Interaction Store InstanceHandler

namespace CmdbOp

/-- The call uses no other keys and no other rows than these. -/
structure Reaches (op : CmdbOp) (keys : List ServerKey) (rows : List RowRef) : Prop where
  keys : op.serverKeys ⊆ keys
  rows : op.namedRows ⊆ rows
  conditioned : op.conditioned = true

variable {op : CmdbOp} {keys : List ServerKey} {rows more : List RowRef}

/-- More rows at hand allow what fewer did. -/
theorem Reaches.mono (reaches : op.Reaches keys rows) (within : rows ⊆ more) :
    op.Reaches keys more :=
  ⟨reaches.keys, List.Subset.trans reaches.rows within, reaches.conditioned⟩

/-- A call that selects servers by one of the keys, and names no row. -/
theorem Reaches.keyed {key : ServerKey} (named : key ∈ keys) (single : op.serverKeys = [key])
    (free : op.namedRows = []) (conditioned : op.conditioned = true) : op.Reaches keys rows := by
  refine ⟨?_, ?_, conditioned⟩
  · rw [single]
    exact List.cons_subset.mpr ⟨named, List.nil_subset keys⟩
  · rw [free]
    exact List.nil_subset rows

/-- A call that names one of the rows, and no key. Deletes by id and inserts
with a foreign key are of this kind. -/
theorem Reaches.named {row : RowRef} (known : row ∈ rows) (single : op.namedRows = [row])
    (free : op.serverKeys = []) (conditioned : op.conditioned = true) : op.Reaches keys rows := by
  refine ⟨?_, ?_, conditioned⟩
  · rw [free]
    exact List.nil_subset keys
  · rw [single]
    exact List.cons_subset.mpr ⟨known, List.nil_subset rows⟩

/-- A call that names nothing may be made with no rows at hand, as the look-ups
of reference classes are. -/
theorem Reaches.free (keyless : op.serverKeys = []) (rowless : op.namedRows = [])
    (conditioned : op.conditioned = true) : op.Reaches keys rows := by
  refine ⟨?_, ?_, conditioned⟩
  · rw [keyless]
    exact List.nil_subset keys
  · rw [rowless]
    exact List.nil_subset rows

end CmdbOp

/-- The rows an event hands to the message. A failed call hands out none. -/
def Event.handedRows (event : Event) : List RowRef :=
  match event.op, event.reply with
  | .cmdb op, .ok rows => op.handedRows rows
  | _, _ => []

/-- The rows a message was handed so far, the earliest first. -/
def handed (history : List Event) : List RowRef := history.flatMap Event.handedRows

/-- One event more hands out its own rows at the end. -/
theorem handed_append (history : List Event) (event : Event) :
    handed (history ++ [event]) = handed history ++ event.handedRows := by
  simp [handed]

/-- Only calls hand out rows; the events of starting and confirming do not. -/
theorem handedRows_free {event : Event} (noCall : event.isCall = false) :
    event.handedRows = [] := by
  obtain ⟨op, reply⟩ := event
  cases op with
  | cmdb op => cases noCall
  | started message => rfl
  | ack => rfl
  | nack => rfl

/-- A call reaches what its message names and what the message was handed. -/
def reachRule (keys : List ServerKey) (earlier : List Event) (event : Event) : Prop :=
  match event.op with
  | .cmdb op => op.Reaches keys (handed earlier)
  | _ => True

/-- Every call so far used keys of these alone, and rows it had been handed by
then. -/
def Reaching (keys : List ServerKey) (world : World) : Prop :=
  Justified (reachRule keys) world.history

/-- The calls so far reach no further, and these rows were handed to the message. -/
structure Reached (keys : List ServerKey) (rows : List RowRef) (world : World) : Prop where
  reaching : Reaching keys world
  handed : rows ⊆ handed world.history

namespace Reached

variable {keys : List ServerKey} {rows more : List RowRef} {world : World}

/-- A call within reach is recorded, and no row at hand is lost by it. -/
theorem record (holds : Reached keys rows world) {op : CmdbOp} (reaches : op.Reaches keys rows)
    (reply : Except CallError op.Rows) : Reached keys rows (world.record ⟨.cmdb op, reply⟩) := by
  constructor
  · exact justified_append.mpr ⟨holds.reaching, reaches.mono holds.handed⟩
  · rw [World.record_history, handed_append]
    exact List.subset_append_of_subset_left _ holds.handed

/-- An answer hands out its rows: after it they are at hand too. -/
theorem answered (holds : Reached keys rows world) {op : CmdbOp} (reaches : op.Reaches keys rows)
    (answer : op.Rows) :
    Reached keys (rows ++ op.handedRows answer) (world.record ⟨.cmdb op, .ok answer⟩) := by
  refine ⟨(holds.record reaches (.ok answer)).reaching, ?_⟩
  rw [World.record_history, handed_append]
  exact List.append_subset.mpr ⟨List.subset_append_of_subset_left _ holds.handed,
    List.subset_append_right _ _⟩

/-- A message may be taken to know less than it does. -/
theorem fewer (holds : Reached keys more world) (within : rows ⊆ more) : Reached keys rows world :=
  ⟨holds.reaching, List.Subset.trans within holds.handed⟩

end Reached

section Calls

variable {permits : Faults} {handler : InstanceHandler} {keys : List ServerKey}
  {rows : List RowRef} {state : FieldErrors} {world : World}

/-- A part of an action whose calls reach no further than the rows at hand when
it starts. The footprint is given for these rows, so no answer within the part
is needed. -/
theorem reaching_calls {α : Type} {action : Run α}
    (only : action.Only (calls fun op => op.Reaches keys rows)) (holds : Reached keys rows world) :
    action.Ensures (unsteady permits) (Reaching keys) (fun _ _ after => Reached keys rows after)
      state world := by
  apply unsteady_calls only (Reached keys rows) _ (fun _ held => held.reaching) holds
  exact fun before held op reaches reply => held.record reaches reply

/-- One call, and what its answer hands out. The postcondition offers the longer
list for the parts that go on with the answer. -/
theorem cmdb_reached {op : CmdbOp} (reaches : op.Reaches keys rows) (holds : Reached keys rows world) :
    (cmdb op).Ensures (unsteady permits) (Reaching keys)
      (fun result final after => final = state ∧ Reached keys rows after ∧
        ∀ answer, result = .ok answer → Reached keys (rows ++ op.handedRows answer) after)
      state world := by
  apply unsteady_reply
  intro reply
  have still := holds.record reaches reply
  refine ⟨still.reaching, rfl, still, ?_⟩
  intro answer answered
  cases reply with
  | error error => cases answered
  | ok given =>
    cases answered
    exact holds.answered reaches answer

/-- A call without selector, and what its answer hands out. Failed attempts hand
out nothing, and the attempt that ended the loop is the one whose rows are
known. -/
theorem call_reached {options : CallOptions} {op : CmdbOp} (reaches : op.Reaches keys rows)
    (holds : Reached keys rows world) :
    (handler.cmdbCall options (cmdb op)).Ensures (unsteady permits) (Reaching keys)
      (fun result _ after => Reached keys rows after ∧
        ∀ answer, result = .ok (some answer) → Reached keys (rows ++ op.handedRows answer) after)
      state world :=
  cmdbCall_found (Reached keys rows) (fun answer => Reached keys (rows ++ op.handedRows answer)) holds
    (fun _ held => cmdb_reached reaches held) fun _ absent => by cases absent

/-- A call whose selector is one call, where either of them hands out a row. -/
theorem reselected_reached {ρ : Type} {options : CallOptions} {op : Run ρ}
    {selector : Run (Option ρ)} (row : ρ → RowRef) (holds : Reached keys rows world)
    (invoked : ∀ state world, Reached keys rows world → op.Ensures (unsteady permits)
      (Reaching keys) (fun result final after => final = state ∧ Reached keys rows after ∧
        ∀ answer, result = .ok answer → Reached keys (rows ++ [row answer]) after) state world)
    (selected : ∀ state world, Reached keys rows world → selector.Ensures (unsteady permits)
      (Reaching keys) (fun result final after => final = state ∧ Reached keys rows after ∧
        ∀ answer, result = .ok (some answer) → Reached keys (rows ++ [row answer]) after)
      state world) :
    (handler.cmdbCall options op (some selector)).Ensures (unsteady permits) (Reaching keys)
      (fun result _ after => Reached keys rows after ∧
        ∀ answer, result = .ok (some answer) → Reached keys (rows ++ [row answer]) after)
      state world := by
  apply cmdbCall_found (Reached keys rows) (fun answer => Reached keys (rows ++ [row answer])) holds
  · exact fun world held => invoked state world held
  · rintro _ ⟨⟩ world held
    exact selected state world held

/-! ## Delete and resize -/

/-- Deleting rails stays within reach if their ids are at hand, by induction on
the rails. -/
theorem deleteRails_reaches (rails : List Nat)
    (known : ∀ rail ∈ rails, RowRef.rail rail ∈ rows) :
    (handler.deleteRails rails).Only (calls fun op => op.Reaches keys rows) := by
  induction rails with
  | nil => exact Action.only_pure _
  | cons rail rest ih =>
    have first : (CmdbOp.railsDelete rail).Reaches keys rows :=
      .named (known rail List.mem_cons_self) rfl rfl rfl
    exact Action.Only.bind (plainCall_only first) fun _ =>
      ih fun other member => known other (List.mem_cons_of_mem rail member)

/-- Deleting servers stays within reach if their ids and their rails' are at
hand. By induction on the servers. -/
theorem deleteServers_reaches (servers : List ServerItem)
    (known : ∀ server ∈ servers,
      .server server.id ∈ rows ∧ ∀ rail ∈ server.rails, RowRef.rail rail ∈ rows) :
    (handler.deleteServers servers).Only (calls fun op => op.Reaches keys rows) := by
  induction servers with
  | nil => exact Action.only_pure _
  | cons server rest ih =>
    obtain ⟨own, rails⟩ := known server List.mem_cons_self
    have first : (CmdbOp.serverDelete server.id).Reaches keys rows := .named own rfl rfl rfl
    apply Action.Only.bind (deleteRails_reaches server.rails rails)
    intro _
    exact Action.Only.bind (plainCall_only first) fun _ =>
      ih fun other member => known other (List.mem_cons_of_mem server member)

/-- The servers and rails that a removal deletes are those its select shows. The
select names the keys of the removal, and every delete after it names a row that
has been handed out. -/
theorem removeServer_reached {uuid hostname : Option String}
    (named : removalKeys uuid hostname ⊆ keys) (holds : Reached keys rows world) :
    (handler.removeServer uuid hostname).Ensures (unsteady permits) (Reaching keys)
      (fun _ _ after => Reached keys rows after) state world := by
  have selects : (CmdbOp.serverSelect (removalKeys uuid hostname)).Reaches keys rows :=
    ⟨named, List.nil_subset rows, rfl⟩
  rw [removeServer]
  refine (call_reached selects holds).bind ?_ fun _ _ _ held => held.1
  rintro found middle selected ⟨held, shown⟩
  cases found with
  | none => exact held
  | some items =>
    have listed := shown items rfl
    generalize more : rows ++ (CmdbOp.serverSelect (removalKeys uuid hostname)).handedRows items =
      reached at listed
    have few : rows ⊆ reached := more ▸ List.subset_append_left _ _
    have known : ∀ server ∈ items, .server server.id ∈ reached ∧
        ∀ rail ∈ server.rails, RowRef.rail rail ∈ reached := by
      intro server member
      rw [← more]
      constructor
      · exact List.mem_append_right _ (List.mem_flatMap.mpr ⟨server, member, List.mem_cons_self⟩)
      · intro rail own
        exact List.mem_append_right _ (List.mem_flatMap.mpr ⟨server, member,
          List.mem_cons_of_mem _ (List.mem_map_of_mem own)⟩)
    simp only [Option.getD_some]
    cases items with
    | nil => exact held
    | cons item rest =>
      exact (reaching_calls (deleteServers_reaches (item :: rest) known) listed).bind
        (fun _ _ _ held => held.fewer few) fun _ _ _ held => held.fewer few

/-! ## Create -/

/-- A create reads its context from the reference rows, which nobody writes, and then does what
holds of the recreation of the row and of what follows for every readable content. -/
theorem createInstances_unsteady {message : Message} {inv holds : World → Prop}
    (given : Nat → World → Prop)
    (reads : ∀ state, (handler.buildCreateContext message).Ensures (unsteady permits) inv
      (fun _ _ after => holds after) state world)
    (recreates : ∀ content, readCreate handler message = .ok (some content) →
      ∀ state before, holds before →
        (handler.recreateServerRow (content.context handler message world.db)).Ensures
          (unsteady permits) inv (fun result _ after => holds after ∧
            ∀ id, result = .ok (some id) → given id after) state before)
    (completes : ∀ content, readCreate handler message = .ok (some content) →
      ∀ id state before, given id before →
        (completeCreate handler (content.context handler message world.db) id).Ensures
          (unsteady permits) inv (fun _ _ after => holds after) state before) :
    (handler.createInstances message).Ensures (unsteady permits) inv
      (fun _ _ after => holds after) state world := by
  have context : ∀ state, (handler.buildCreateContext message).Ensures (unsteady permits) inv
      (fun result final after => contextExit permits handler message state world
        result final after ∧ holds after) state world := by
    intro state
    have built : (handler.buildCreateContext message).Ensures (faulty permits) (fun _ => True)
        (contextExit permits handler message state world) state world :=
      buildCreateContext_ensures fun _ _ => trivial
    have steady := unsteady_reference (buildCreateContext_only (fun _ => rfl) fun _ => rfl) built
    exact (steady.and (reads state)).env_mono (fun _ _ _ _ step => step) fun _ held => held.2
  rw [createInstances, Action.ensures_bind, Action.ensures_modify]
  simp only
  refine (context _).bind ?_ fun _ _ _ held => held.2
  rintro found middle built ⟨⟨-, exit⟩, held⟩
  cases found with
  | none => exact held
  | some ctx =>
    obtain ⟨content, read, rfl, rfl⟩ := exit
    simp only
    rw [Action.ensures_bind, Action.ensures_attempt]
    refine (recreates content read _ built held).mono ?_
    rintro (exc | id) final after ⟨now, handed⟩
    · simp only
      split
      · exact now
      · exact now
    · cases id with
      | none => exact now
      | some newServerId => exact completes content read newServerId final after (handed newServerId rfl)

/-- The row a create goes on with was handed to it, by the insert or by the
re-select under its hostname. -/
theorem recreateServerRow_reached {ctx : CreateContext} (own : ServerKey.hostname ctx.hostname ∈ keys)
    (named : removalKeys (some ctx.instanceId) (some ctx.hostname) ⊆ keys)
    (holds : Reached keys rows world) :
    (handler.recreateServerRow ctx).Ensures (unsteady permits) (Reaching keys)
      (fun result _ after => Reached keys rows after ∧
        ∀ id, result = .ok (some id) → Reached keys (rows ++ [.server id]) after) state world := by
  have inserts : (CmdbOp.serverInsertOne (handler.serverColumns ctx)).Reaches keys rows :=
    .free rfl rfl rfl
  have selects : (CmdbOp.serverSelectOneByHostname ctx.hostname).Reaches keys rows :=
    .keyed own rfl rfl rfl
  rw [recreateServerRow]
  refine (removeServer_reached named holds).bind ?_ fun _ _ _ held => ⟨held, by simp⟩
  intro _ middle removed held
  apply reselected_reached RowRef.server held
  · exact fun state world held => cmdb_reached inserts held
  · intro state world held
    refine (cmdb_reached selects held).mono ?_
    exact fun _ _ _ looked => ⟨looked.1, looked.2.1, fun id found => looked.2.2 (some id) found⟩

/-- The row of a card was handed to the create, by the insert or by its
selector. -/
theorem insertCard_reached {serverId : Nat} {takenNames : List String} {card : HostNetwork}
    (own : .server serverId ∈ rows) (holds : Reached keys rows world) :
    (handler.insertCard serverId takenNames card).Ensures (unsteady permits) (Reaching keys)
      (fun result _ after => Reached keys rows after ∧ ∀ endpoint : EndpointRef,
        result = .ok (some endpoint) → Reached keys (rows ++ [.endpoint endpoint.id]) after)
      state world := by
  have inserts : (CmdbOp.endpointInsertOne (cardColumns serverId takenNames card)).Reaches
      keys rows := .named own rfl rfl rfl
  have selects : (CmdbOp.endpointSelectOne serverId (endpointKey takenNames card)).Reaches
      keys rows := .named own rfl rfl rfl
  rw [insertCard]
  apply reselected_reached (fun endpoint : EndpointRef => .endpoint endpoint.id) holds
  · exact fun state world held => cmdb_reached inserts held
  · intro state world held
    refine (cmdb_reached selects held).mono ?_
    exact fun _ _ _ looked => ⟨looked.1, looked.2.1, fun row found => looked.2.2 (some row) found⟩

/-- The loop over the cards stays within reach. By induction on the cards; the
endpoint of a card is at hand only while its addresses are written. -/
theorem persistCards_reached {ctx : CreateContext} {serverId : Nat} (cards : List HostNetwork)
    (takenNames : List String) (used : List (Option String)) (own : .server serverId ∈ rows)
    (holds : Reached keys rows world) :
    (handler.persistCards ctx serverId takenNames used cards).Ensures (unsteady permits)
      (Reaching keys) (fun _ _ after => Reached keys rows after) state world := by
  induction cards generalizing takenNames used state world with
  | nil => exact holds
  | cons card rest ih =>
    rw [persistCards]
    refine (insertCard_reached own holds).bind ?_ fun _ _ _ held => held.1
    rintro endpoint middle inserted ⟨held, handed⟩
    cases endpoint with
    | none => exact ih _ _ held
    | some row =>
      have known : .endpoint row.id ∈ rows ++ [.endpoint row.id] :=
        List.mem_append_right rows (List.mem_singleton_self _)
      have few : rows ⊆ rows ++ [.endpoint row.id] := List.subset_append_left _ _
      have addresses : (handler.persistAddresses ctx row.id used card.addresses).Only
          (calls fun op => op.Reaches keys (rows ++ [.endpoint row.id])) := by
        apply persistAddresses_only
        · exact .free rfl rfl rfl
        · rintro columns hangs
          exact .named (hangs.symm ▸ known) rfl rfl rfl
        · exact fun _ _ => .named known rfl rfl rfl
      refine (reaching_calls addresses (handed row rfl)).bind ?_ fun _ _ _ held => held.fewer few
      exact fun _ _ _ held => ih _ _ (held.fewer few)

/-- The keys a create names: its hostname and its uuid. -/
def CreateContent.hostKeys (content : CreateContent) : List ServerKey :=
  [.hostname content.hostname, .uuid (some content.instanceId)]

/-- The keys of the removal are among those the create names. An empty one is
left out, so there may be fewer. -/
theorem removalKeys_hostKeys (content : CreateContent) :
    removalKeys (some content.instanceId) (some content.hostname) ⊆ content.hostKeys := by
  intro key member
  rw [removalKeys, List.mem_append] at member
  rcases member with uuid | hostname
  · split at uuid
    · exact List.mem_cons_of_mem _ uuid
    · cases uuid
  · split at hostname
    · exact List.mem_cons.mpr (Or.inl (List.mem_singleton.mp hostname))
    · cases hostname

/-- What a create does after its row is back stays within reach: the updates
name the keys of its host, and the endpoints the row it was handed. -/
theorem completeCreate_reached {content : CreateContent} {message : Message} {db : Cmdb}
    {serverId : Nat} (named : content.hostKeys ⊆ keys) (own : .server serverId ∈ rows)
    (holds : Reached keys rows world) :
    (completeCreate handler (content.context handler message db) serverId).Ensures
      (unsteady permits) (Reaching keys) (fun _ _ after => Reached keys rows after) state world := by
  have updates : ∀ mutation, (CmdbOp.serverUpdate
      (createWhere (content.context handler message db)) mutation).Reaches keys rows :=
    fun _ => ⟨named, List.nil_subset rows, rfl⟩
  rw [completeCreate]
  refine (reaching_calls (writeCreateFields_only fun _ _ => ⟨updates _, fun _ _ => updates _⟩)
    holds).bind ?_ fun _ _ _ held => held
  intro _ middle filled held
  refine (persistCards_reached _ _ _ own held).bind ?_ fun _ _ _ held => held
  exact fun _ _ _ held => reaching_calls (setFinalState_only fun _ => updates _) held

/-- A create stays within the keys it names, if its payload can be read at all.
The rows it goes on with are those of its own re-creation. -/
theorem createInstances_reached {message : Message}
    (named : ∀ content, readCreate handler message = .ok (some content) →
      content.hostKeys ⊆ keys) (holds : Reached keys rows world) :
    (handler.createInstances message).Ensures (unsteady permits) (Reaching keys)
      (fun _ _ after => Reached keys rows after) state world := by
  refine createInstances_unsteady (fun id => Reached keys (rows ++ [.server id]))
    (fun state => ?_) ?_ ?_
  · exact reaching_calls (buildCreateContext_only (fun _ => .free rfl rfl rfl)
      fun _ => .free rfl rfl rfl) holds
  · intro content read state before held
    have own := named content read
    exact recreateServerRow_reached (own List.mem_cons_self)
      (List.Subset.trans (removalKeys_hostKeys content) own) held
  · intro content read id state before held
    have few : rows ⊆ rows ++ [.server id] := List.subset_append_left _ _
    have known : .server id ∈ rows ++ [.server id] :=
      List.mem_append_right rows (List.mem_singleton_self _)
    exact (completeCreate_reached (named content read) known held).mono
      fun _ _ _ held => held.fewer few

/-! ## Attach -/

/-- The search of an attached IP names the uuid, and the IP it finds hands out
its endpoint. -/
theorem findAttachedIp_reached {address : String} {uuid : Option String} (own : .uuid uuid ∈ keys)
    (holds : Reached keys rows world) :
    (handler.findAttachedIp address uuid).Ensures (unsteady permits) (Reaching keys)
      (fun result _ after => Reached keys rows after ∧ ∀ ip : AttachedIp, result = .ok (some ip) →
        Reached keys (rows ++ [.endpoint ip.networkEndpoint.id]) after) state world := by
  have selects : (CmdbOp.ipSelectAttached address uuid).Reaches keys rows := .keyed own rfl rfl rfl
  rw [findAttachedIp]
  refine (call_reached selects holds).bind ?_ fun _ _ _ held => ⟨held.1, by simp⟩
  rintro found middle selected ⟨held, shown⟩
  refine ⟨held, ?_⟩
  rintro ip joined
  cases found with
  | none => cases joined
  | some row =>
    cases row with
    | none => cases joined
    | some ip =>
      cases joined
      exact shown (some ip) rfl

/-- The same for its use as a selector, which in addition has to leave the
accumulator alone. -/
theorem findAttachedIp_selects {address : String} {uuid : Option String} (own : .uuid uuid ∈ keys)
    (holds : Reached keys rows world) :
    (handler.findAttachedIp address uuid).Ensures (unsteady permits) (Reaching keys)
      (fun result final after => final = state ∧ Reached keys rows after ∧ ∀ ip : AttachedIp,
        result = .ok (some ip) → Reached keys (rows ++ [.endpoint ip.networkEndpoint.id]) after)
      state world := by
  have silent : (handler.findAttachedIp address uuid).Keeps (fun final => final = state) := by
    rw [findAttachedIp]
    refine (cmdbCall_keeps (Action.keeps_request _ _) (fun _ absent => by cases absent) ?_).bind
      fun _ => Action.keeps_pure _
    intro exc final same
    rw [recorded]
    exact same
  exact (((findAttachedIp_reached own holds).and (silent.ensures rfl)).env_mono
    (fun _ _ _ _ step => step) fun _ kept => kept.1).mono fun _ _ _ exit => ⟨exit.2, exit.1⟩

/-- The endpoint an attach goes on with was handed to it: inserted, found under
the name tried, or nested in an IP that was found. -/
theorem insertAttachEndpoint_reached {request : AttachRequest} {server : ServerView}
    (named : .uuid request.hostUuid ∈ keys) (own : .server server.id ∈ rows)
    (holds : Reached keys rows world) :
    (handler.insertAttachEndpoint request server).Ensures (unsteady permits) (Reaching keys)
      (fun result _ after => Reached keys rows after ∧ ∀ found : EndpointRef × Bool,
        result = .ok (some found) → Reached keys (rows ++ [.endpoint found.1.id]) after)
      state world := by
  have inserts : (CmdbOp.endpointInsertOne (attachColumns request server)).Reaches keys rows :=
    .named own rfl rfl rfl
  have selects : ∀ name, (CmdbOp.endpointSelectOne server.id (.name name)).Reaches keys rows :=
    fun _ => .named own rfl rfl rfl
  rw [insertAttachEndpoint]
  apply reselected_reached (fun found : EndpointRef × Bool => .endpoint found.1.id) holds
  · intro state world held
    refine (cmdb_reached inserts held).bind ?_ fun _ _ _ held => ⟨held.1, held.2.1, by simp⟩
    rintro endpoint final after ⟨same, still, handed⟩
    refine ⟨same, still, ?_⟩
    rintro _ ⟨⟩
    exact handed endpoint rfl
  · intro state world held
    rw [attachEndpointSelector]
    refine (findAttachedIp_selects named held).bind ?_ fun _ _ _ held => ⟨held.1, held.2.1, by simp⟩
    rintro existing final after ⟨rfl, still, handed⟩
    cases existing with
    | some ip =>
      refine ⟨rfl, still, ?_⟩
      rintro _ ⟨⟩
      exact handed ip rfl
    | none =>
      refine (cmdb_reached (selects _) still).bind ?_ fun _ _ _ held => ⟨held.1, held.2.1, by simp⟩
      rintro found final after ⟨same, further, shown⟩
      refine ⟨same, further, ?_⟩
      rintro located answered
      cases found with
      | none => cases answered
      | some endpoint =>
        cases answered
        exact shown (some endpoint) rfl

/-- The endpoint that an attach chooses is at hand, as one of the server's view
or as one just inserted. -/
theorem attachEndpoint_reached {request : AttachRequest} {server : ServerView}
    (named : .uuid request.hostUuid ∈ keys) (own : .server server.id ∈ rows)
    (endpoints : ∀ endpoint ∈ server.endpoints, .endpoint endpoint.id ∈ rows)
    (holds : Reached keys rows world) :
    (handler.attachEndpoint request server).Ensures (unsteady permits) (Reaching keys)
      (fun result _ after => Reached keys rows after ∧ ∀ id, result = .ok (some id) →
        Reached keys (rows ++ [.endpoint id]) after) state world := by
  rw [attachEndpoint]
  cases chosen : chooseEndpoint request.mac server.endpoints with
  | some endpoint =>
    have known : .endpoint endpoint.id ∈ rows := endpoints endpoint (chooseEndpoint_mem chosen)
    have updates : (CmdbOp.endpointUpdate endpoint.id (endpointUpdates request endpoint)).Reaches
        keys rows := .named known rfl rfl rfl
    refine (reaching_calls (reuseEndpoint_only updates) holds).bind ?_
      fun _ _ _ held => ⟨held, by simp⟩
    intro _ final after held
    refine ⟨held, ?_⟩
    rintro _ ⟨⟩
    exact ⟨held.reaching, List.append_subset.mpr ⟨held.handed,
      List.cons_subset.mpr ⟨held.handed known, List.nil_subset _⟩⟩⟩
  | none =>
    refine (insertAttachEndpoint_reached named own holds).bind ?_ fun _ _ _ held => ⟨held.1, by simp⟩
    rintro found final after ⟨held, handed⟩
    cases found with
    | none => exact ⟨held, by simp⟩
    | some inserted =>
      obtain ⟨endpoint, recovered⟩ := inserted
      refine ⟨held, ?_⟩
      intro id chosen
      cases recovered with
      | true => cases chosen
      | false =>
        cases chosen
        exact handed (endpoint, false) rfl

/-- The insert of an IP names the endpoint at hand, and its selector names the
uuid. -/
theorem insertAttachIp_reaches {request : AttachRequest} {server : ServerView}
    {netPrefix : Option NetworkPrefix} {endpointId : Nat} (named : .uuid request.hostUuid ∈ keys)
    (known : .endpoint endpointId ∈ rows) :
    (handler.insertAttachIp request server netPrefix endpointId).Only
      (calls fun op => op.Reaches keys rows) := by
  have inserts : (CmdbOp.ipInsertOne
      (attachIpColumns request server netPrefix endpointId)).Reaches keys rows :=
    .named known rfl rfl rfl
  have selects : (CmdbOp.ipSelectAttached request.ipAddr request.hostUuid).Reaches keys rows :=
    .keyed named rfl rfl rfl
  unfold insertAttachIp
  refine Action.Only.bind (call_only inserts ?_) fun _ => Action.only_pure _
  rintro _ ⟨⟩
  exact Action.Only.bind (findAttachedIp_only selects) fun _ => Action.only_pure _

/-- An attach stays within reach once its server and the endpoints of the view
are at hand. -/
theorem attachTo_reached {request : AttachRequest} {server : ServerView}
    (named : .uuid request.hostUuid ∈ keys) (own : .server server.id ∈ rows)
    (endpoints : ∀ endpoint ∈ server.endpoints, .endpoint endpoint.id ∈ rows)
    (holds : Reached keys rows world) :
    (handler.attachTo request server).Ensures (unsteady permits) (Reaching keys)
      (fun _ _ after => Reached keys rows after) state world := by
  rw [attachTo]
  refine (findAttachedIp_reached named holds).bind ?_ fun _ _ _ held => held.1
  rintro existing middle looked ⟨held, -⟩
  cases existing with
  | some ip => exact held
  | none =>
    have reads : (handler.attachPrefix request).Only (calls fun op => op.Reaches keys rows) :=
      attachPrefix_only (.free rfl rfl rfl) fun _ => .free rfl rfl rfl
    refine (reaching_calls reads held).bind ?_ fun _ _ _ held => held
    intro netPrefix final after held
    refine (attachEndpoint_reached named own endpoints held).bind ?_ fun _ _ _ held => held.1
    rintro endpointId last placed ⟨held, handed⟩
    cases endpointId with
    | none => exact held
    | some id =>
      have few : rows ⊆ rows ++ [.endpoint id] := List.subset_append_left _ _
      have known : .endpoint id ∈ rows ++ [.endpoint id] :=
        List.mem_append_right rows (List.mem_singleton_self _)
      exact (reaching_calls (insertAttachIp_reaches named known) (handed id rfl)).mono
        fun _ _ _ held => held.fewer few

/-- An attach names the uuid of its host and is handed the view of the server by
it; from there on it stays within reach. -/
theorem attachToInstances_reached {message : Message}
    (named : ∀ request, handler.readAttach message = .ok (some request) →
      .uuid request.hostUuid ∈ keys) (holds : Reached keys rows world) :
    (handler.attachToInstances message).Ensures (unsteady permits) (Reaching keys)
      (fun _ _ after => Reached keys rows after) state world := by
  rw [attachToInstances, Action.ensures_bind, Action.ensures_lift]
  cases read : handler.readAttach message with
  | error exc => exact holds
  | ok found =>
    cases found with
    | none => exact holds
    | some request =>
      have own := named request read
      have selects : (CmdbOp.serverSelectOneByUuid request.hostUuid).Reaches keys rows :=
        .keyed own rfl rfl rfl
      refine (call_reached selects holds).bind ?_ fun _ _ _ held => held.1
      rintro server middle selected ⟨held, shown⟩
      cases server with
      | none => exact held
      | some row =>
        cases row with
        | none => exact held
        | some view =>
          have listed := shown (some view) rfl
          generalize more : rows ++
            (CmdbOp.serverSelectOneByUuid request.hostUuid).handedRows (some view) = reached at listed
          have few : rows ⊆ reached := more ▸ List.subset_append_left _ _
          have server : .server view.id ∈ reached := by
            rw [← more]
            exact List.mem_append_right _ (List.mem_flatMap.mpr
              ⟨view, List.mem_singleton_self view, List.mem_cons_self⟩)
          have endpoints : ∀ endpoint ∈ view.endpoints, .endpoint endpoint.id ∈ reached := by
            intro endpoint member
            rw [← more]
            exact List.mem_append_right _ (List.mem_flatMap.mpr ⟨view, List.mem_singleton_self view,
              List.mem_cons_of_mem _ (List.mem_map_of_mem member)⟩)
          exact (attachTo_reached own server endpoints listed).mono fun _ _ _ held => held.fewer few

/-! ## The message -/

/-- The server the instance resource of a message names, if it has one with an
id. -/
def InstanceHandler.instanceKeys (handler : InstanceHandler) (message : Message) :
    List ServerKey :=
  match handler.extractResource message "instance" with
  | .ok (some resource) =>
      match resource.resourceId.item "resource_id" with
      | .ok uuid => [.uuid uuid]
      | .error _ => []
  | _ => []

/-- The keys of servers a message names: a create by the name and the id of its instance, every
other action by the id of the resource. -/
def InstanceHandler.hostKeys (handler : InstanceHandler) (message : Message) : List ServerKey :=
  match message.actionType with
  | some "create" =>
      match readCreate handler message with
      | .ok (some content) => content.hostKeys
      | _ => []
  | _ => handler.instanceKeys message

/-- A resource that was extracted and carries an id gives its uuid as the one
key. -/
theorem instanceKeys_named {message : Message} {resource : Resource} {uuid : Option String}
    (extracted : handler.extractResource message "instance" = .ok (some resource))
    (identified : resource.resourceId.item "resource_id" = .ok uuid) :
    handler.instanceKeys message = [.uuid uuid] := by
  rw [instanceKeys, extracted]
  simp only [identified]

/-- The host of a detach is that of its instance resource. Reading the message
succeeds only when every field has been found, so the steps of the reading are
undone one by one. -/
theorem readDetach_named {message : Message} {address : String} {uuid : Option String}
    (read : handler.readDetach message = .ok (some (address, uuid))) :
    ∃ resource, handler.extractResource message "instance" = .ok (some resource) ∧
      resource.resourceId.item "resource_id" = .ok uuid := by
  obtain ⟨inst, extracted, read⟩ := bind_returned read
  cases named : message.actionData.get.bind ActionData.ipAddress with
  | none =>
    rw [named] at read
    cases read
  | some ipAddr =>
    rw [named] at read
    cases inst with
    | none => cases read
    | some resource =>
      obtain ⟨hostUuid, identified, read⟩ := bind_returned read
      obtain ⟨hostname, searched, read⟩ := bind_returned read
      cases read
      exact ⟨resource, extracted, identified⟩

/-- The host of an attach is that of its instance resource, by the same steps as
for a detach. -/
theorem readAttach_named {message : Message} {request : AttachRequest}
    (read : handler.readAttach message = .ok (some request)) :
    ∃ resource, handler.extractResource message "instance" = .ok (some resource) ∧
      resource.resourceId.item "resource_id" = .ok request.hostUuid := by
  obtain ⟨inst, extracted, read⟩ := bind_returned read
  obtain ⟨port, ported, read⟩ := bind_returned read
  obtain ⟨network, networked, read⟩ := bind_returned read
  cases inst with
  | none => cases read
  | some resource =>
    cases port with
    | none => cases read
    | some port =>
      obtain ⟨regionCode, located, read⟩ := bind_returned read
      obtain ⟨hostUuid, identified, read⟩ := bind_returned read
      obtain ⟨ipAddr, addressed, read⟩ := bind_returned read
      cases read
      exact ⟨resource, extracted, identified⟩

/-- A delete names the uuid of its host, and deletes rows that the select under
it handed out. -/
theorem deleteInstances_reached {message : Message} (named : handler.instanceKeys message ⊆ keys)
    (holds : Reached keys rows world) :
    (handler.deleteInstances message).Ensures (unsteady permits) (Reaching keys)
      (fun _ _ after => Reached keys rows after) state world := by
  rw [deleteInstances, Action.ensures_bind, Action.ensures_lift]
  cases extracted : handler.extractResource message "instance" with
  | error exc => exact holds
  | ok found =>
    cases found with
    | none => exact holds
    | some resource =>
      simp only
      rw [Action.ensures_bind, Action.ensures_lift]
      cases identified : resource.resourceId.item "resource_id" with
      | error exc => exact holds
      | ok uuid =>
        rw [instanceKeys_named extracted identified] at named
        have selects : removalKeys uuid (some "") ⊆ [.uuid uuid] := by
          cases uuid with
          | none => exact List.nil_subset _
          | some value =>
            by_cases empty : value = ""
            · simp [removalKeys, empty]
            · simp [removalKeys, empty]
        refine (removeServer_reached (List.Subset.trans selects named) holds).bind ?_
          fun _ _ _ held => held
        exact fun _ _ _ held => held

/-- A resize names the uuid of its host in the condition of both updates. -/
theorem resizeInstances_reached {message : Message} (named : handler.instanceKeys message ⊆ keys)
    (holds : Reached keys rows world) :
    (handler.resizeInstances message).Ensures (unsteady permits) (Reaching keys)
      (fun _ _ after => Reached keys rows after) state world := by
  rw [resizeInstances, Action.ensures_bind, Action.ensures_lift]
  cases extracted : handler.extractResource message "instance" with
  | error exc => exact holds
  | ok found =>
    cases found with
    | none => exact holds
    | some resource =>
      simp only
      rw [Action.ensures_bind, Action.ensures_lift]
      cases resource.searchFieldItem with
      | error exc => exact holds
      | ok hostname =>
        simp only
        rw [Action.ensures_bind, Action.ensures_lift]
        cases identified : resource.resourceId.item "resource_id" with
        | error exc => exact holds
        | ok uuid =>
          rw [instanceKeys_named extracted identified] at named
          have updates : ∀ mutation, (CmdbOp.serverUpdate [.uuid uuid] mutation).Reaches keys rows :=
            fun _ => ⟨named, List.nil_subset rows, rfl⟩
          have update : ∀ mutation options, (handler.updateServer mutation [.uuid uuid] options).Only
              (calls fun op => op.Reaches keys rows) :=
            fun mutation _ => updateServer_only (updates mutation)
          simp only
          rw [Action.ensures_bind, Action.ensures_lift]
          cases resizePrice message with
          | error exc => exact holds
          | ok price =>
            cases price with
            | none =>
              cases resizeFlavor message with
              | none => exact holds
              | some flavorName =>
                exact reaching_calls (Action.Only.bind (update _ _) fun _ => Action.only_pure _) holds
            | some price =>
              refine (reaching_calls (update _ _) holds).bind ?_ fun _ _ _ held => held
              intro _ middle paid held
              cases resizeFlavor message with
              | none => exact held
              | some flavorName =>
                exact reaching_calls (Action.Only.bind (update _ _) fun _ => Action.only_pure _) held

/-- A detach names the uuid of its host in the condition of both deletes. -/
theorem detachFromInstances_reached {message : Message}
    (named : handler.instanceKeys message ⊆ keys) (holds : Reached keys rows world) :
    (handler.detachFromInstances message).Ensures (unsteady permits) (Reaching keys)
      (fun _ _ after => Reached keys rows after) state world := by
  rw [detachFromInstances, Action.ensures_bind, Action.ensures_lift]
  cases read : handler.readDetach message with
  | error exc => exact holds
  | ok found =>
    cases found with
    | none => exact holds
    | some detached =>
      obtain ⟨address, uuid⟩ := detached
      obtain ⟨resource, extracted, identified⟩ := readDetach_named read
      rw [instanceKeys_named extracted identified, List.cons_subset] at named
      have ips : (CmdbOp.ipDelete address uuid).Reaches keys rows := .keyed named.1 rfl rfl rfl
      have endpoints : (CmdbOp.endpointDeleteWithoutIps uuid).Reaches keys rows :=
        .keyed named.1 rfl rfl rfl
      refine (call_reached ips holds).bind ?_ fun _ _ _ held => held.1
      rintro _ middle detached ⟨held, -⟩
      refine (call_reached endpoints held).bind ?_ fun _ _ _ held => held.1
      exact fun _ _ _ held => held.1

/-- The host of every action but create is that of the instance resource. -/
theorem hostKeys_other {message : Message} (other : message.actionType ≠ some "create") :
    handler.hostKeys message = handler.instanceKeys message := by
  rw [hostKeys]
  split
  · contradiction
  · rfl

/-- Every action stays within the keys of the host that its message names. By
cases on the action. -/
theorem dispatch_reached {message : Message} (named : handler.hostKeys message ⊆ keys)
    (holds : Reached keys rows world) :
    (handler.dispatch message).Ensures (unsteady permits) (Reaching keys)
      (fun _ _ after => Reached keys rows after) state world := by
  by_cases create : message.actionType = some "create"
  · rw [dispatch_create handler create]
    apply createInstances_reached _ holds
    intro content read
    rw [hostKeys, create, read] at named
    exact named
  · rw [hostKeys_other create] at named
    have attached : ∀ request, handler.readAttach message = .ok (some request) →
        .uuid request.hostUuid ∈ keys := by
      intro request read
      obtain ⟨resource, extracted, identified⟩ := readAttach_named read
      exact named (instanceKeys_named extracted identified ▸ List.mem_singleton_self _)
    rw [dispatch]
    split
    · contradiction
    · exact deleteInstances_reached named holds
    · exact resizeInstances_reached named holds
    · exact attachToInstances_reached attached holds
    · exact detachFromInstances_reached named holds
    · exact holds

end Calls

/-! ## Every delivery -/

namespace MessageHandlerService

variable (worker : MessageHandlerService)

/-- The keys of servers a delivery names; an unreadable one names none. -/
def keysOf : Delivery → List ServerKey
  | .ok message => worker.handler.hostKeys message
  | .error _ => []

/-- Whatever is answered, the calls of a delivery reach no further than its keys lead. -/
theorem handleMessage_reaches {permits : Faults} (delivery : Delivery) (state : FieldErrors)
    (db : Cmdb) :
    (worker.handleMessage delivery).Ensures (unsteady permits) (Reaching (worker.keysOf delivery))
      (fun _ _ after => Reaching (worker.keysOf delivery) after) state ⟨db, []⟩ := by
  apply handleMessage_delivered
  · rintro history ⟨op, reply⟩ noCall
    cases op with
    | cmdb op => cases noCall
    | started message => trivial
    | ack => trivial
    | nack => trivial
  · rintro message rfl state world _ reaching
    exact (dispatch_reached (List.Subset.refl _) ⟨reaching, List.nil_subset _⟩).mono
      fun _ _ _ held => held.reaching

end MessageHandlerService

/-- The deliveries as tasks of the service, each starting from its own copy of
the accumulator. -/
def deliveryTasks {ι : Type} (worker : MessageHandlerService) (deliveries : ι → Delivery)
    (state : FieldErrors) (task : ι) : Prog service (Except Exn Unit × FieldErrors) :=
  worker.handleMessage (deliveries task) state

/-- In every state of every interleaving of any deliveries, under any failures: every call of a
task selects servers by the keys of its own message only, and names no row but one that an
earlier reply to the same task has shown. -/
theorem calls_within_reach {ι : Type} [DecidableEq ι] (worker : MessageHandlerService)
    (deliveries : ι → Delivery) (state : FieldErrors) (db : Cmdb) (last : Crowd ι)
    (rests : ι → Prog service (Except Exn Unit × FieldErrors))
    (interleaved : Interleaved (crowding everyFault) (Crowd.start db)
      (deliveryTasks worker deliveries state) last rests)
    (task : ι) (earlier later : List Event) (op : CmdbOp) (reply : Except CallError op.Rows)
    (called : last.heard task = earlier ++ ⟨.cmdb op, reply⟩ :: later) :
    op.Reaches (worker.keysOf (deliveries task)) (handed earlier) := by
  have joined := crowd_justified (fun task => reachRule (worker.keysOf (deliveries task)))
    (fun _ => True) (fun _ _ _ _ _ step => step) (fun _ _ _ _ _ _ _ _ => trivial) trivial
    (fun task => worker.handleMessage_reaches (deliveries task) state db) interleaved
  exact joined.2 task earlier _ later called

/-- A create of the host `u1`, its delete and an attach to it, the last two with lost replies. -/
def contendedDeliveries : Fin 3 → Delivery
  | 0 => .ok (AsciiRuntime.createMessage "dc1-b1" []
      [("net", [AsciiRuntime.fixedAddress "10.0.0.7" "m1" 1])])
  | 1 => .ok (AsciiRuntime.deleteMessage "u1")
  | 2 => .ok (AsciiRuntime.attachMessage "10.0.0.8" "m2")

/-- The second delivery loses the reply of a delete, the third a whole request. -/
def contendedScript : Fin 3 → List (Nat × Outcome)
  | 0 => []
  | 1 => [(2, lostReply)]
  | 2 => [(1, lostRequest)]

/-- The attach reads the old row, the delete takes it away, the create makes a new one. -/
def contendedTurns : List (Fin 3) :=
  List.replicate 3 2 ++ List.replicate 3 1 ++ List.replicate 9 0 ++ List.replicate 2 1

/-- Three deliveries for one host, interleaved call by call and under these
failures. -/
def contendedEnd : (Fin 3 → Prog service (Except Exn Unit × FieldErrors)) × Crowd (Fin 3) :=
  play (Crowd.scripted contendedScript) contendedTurns
    (deliveryTasks AsciiRuntime.service contendedDeliveries {})
    (Crowd.start (AsciiRuntime.occupied "10.0.0.9" "m9"))

/-- Played in turns they are one of the interleavings under arbitrary faults. -/
theorem contended_interleaved :
    Interleaved (crowding everyFault) (Crowd.start (AsciiRuntime.occupied "10.0.0.9" "m9"))
      (deliveryTasks AsciiRuntime.service contendedDeliveries {}) contendedEnd.2 contendedEnd.1 :=
  play_interleaved (scripted_crowding (fun _ => trivial) fun _ _ _ _ => trivial) _ _ _

/-- The repeated delete of the row, whose first reply was lost: the row it names
was handed out by the select before it. -/
theorem calls_within_reach_contended :
    (CmdbOp.serverDelete 0).Reaches [.uuid (some "u1")]
      (handed ((contendedEnd.2.heard 1).take 3)) :=
  calls_within_reach AsciiRuntime.service contendedDeliveries {} _ _ _ contended_interleaved 1
    ((contendedEnd.2.heard 1).take 3) ((contendedEnd.2.heard 1).drop 4) (.serverDelete 0) (.ok [])
    (by rfl)

end InstanceLifecycle
