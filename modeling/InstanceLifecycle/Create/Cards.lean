import InstanceLifecycle.Cmdb.Rows
import InstanceLifecycle.Create.HostNetworks
import InstanceLifecycle.Handler.CallRules
import InstanceLifecycle.Handler.Footprints

/-!
# Writing the cards of a new server

Every card has one payload. The names in the payloads are pairwise distinct: a real
card owns the number of its order, and a placeholder takes a name that is free among
all of these and the placeholders before it. The insert of a card and the insert of
an address are recovered inserts; their exits are stated against the store in which
the call starts.
-/

namespace InstanceLifecycle

open Interaction Store InstanceHandler

/-! ## Names -/

/-- The names the cards get, in their order. -/
def cardNames (takenNames : List String) : List HostNetwork → List String
  | [] => []
  | card :: rest => endpointName takenNames card :: cardNames (takeName takenNames card) rest

/-- What the cards write, in their order. -/
def cardPayloads (serverId : Nat) (takenNames : List String) : List HostNetwork → List Endpoint
  | [] => []
  | card :: rest =>
      cardColumns serverId takenNames card ::
        cardPayloads serverId (takeName takenNames card) rest

/-- The names that the inserts of the cards send are the names chosen for the
cards, in order. -/
theorem cardPayloads_names (serverId : Nat) (takenNames : List String)
    (cards : List HostNetwork) :
    (cardPayloads serverId takenNames cards).map Endpoint.name =
      (cardNames takenNames cards).map some := by
  induction cards generalizing takenNames with
  | nil => rfl
  | cons card rest ih => rw [cardPayloads, cardNames, List.map_cons, List.map_cons, ih]; rfl

/-- A placeholder takes the bond name chosen for it. -/
theorem takeName_placeholder (takenNames : List String) {card : HostNetwork}
    (placeholder : card.placeholder = true) :
    takeName takenNames card = takenNames ++ [endpointName takenNames card] := by
  simp [takeName, placeholder]

/-- A real card has its own name and takes no bond name. -/
theorem takeName_real (takenNames : List String) {card : HostNetwork}
    (real : ¬ card.placeholder = true) : takeName takenNames card = takenNames := by
  simp [takeName, real]

/-- The name chosen for a placeholder is not among those taken, by the freshness
of the next bond name. -/
theorem placeholder_fresh (takenNames : List String) (card : HostNetwork)
    (placeholder : card.placeholder = true) : endpointName takenNames card ∉ takenNames := by
  intro taken
  have fresh := nextBondName_fresh (takenNames.map some)
  rw [endpointName, if_pos placeholder] at taken
  exact fresh (List.mem_map_of_mem taken)

/-- Distinct names, by the cards: a name that was taken before is a real card's own. -/
theorem cardNames_apart (takenNames : List String) (cards : List HostNetwork)
    (distinct : (realNames cards).Nodup)
    (owned : ∀ name ∈ realNames cards, name ∈ takenNames) :
    (cardNames takenNames cards).Nodup ∧
      ∀ name ∈ cardNames takenNames cards, name ∈ takenNames → name ∈ realNames cards := by
  induction cards generalizing takenNames with
  | nil => simp [cardNames]
  | cons card rest ih =>
    by_cases placeholder : card.placeholder = true
    · have shorter : realNames (card :: rest) = realNames rest := by
        simp [realNames, placeholder]
      have fresh := placeholder_fresh takenNames card placeholder
      have taken := takeName_placeholder takenNames placeholder
      rw [shorter] at distinct owned
      obtain ⟨apart, known⟩ := ih (takeName takenNames card) distinct fun name member => by
        rw [taken]
        exact List.mem_append_left _ (owned name member)
      rw [cardNames, shorter]
      constructor
      · refine List.nodup_cons.mpr ⟨?_, apart⟩
        intro again
        have real := known _ again (by rw [taken]; simp)
        exact fresh (owned _ real)
      · intro name member before
        rcases List.mem_cons.mp member with rfl | later
        · exact absurd before fresh
        · refine known name later ?_
          rw [taken]
          exact List.mem_append_left _ before
    · have own : realNames (card :: rest) = endpointName takenNames card :: realNames rest := by
        simp [realNames, placeholder, endpointName]
      have taken := takeName_real takenNames placeholder
      rw [own] at distinct owned
      obtain ⟨absent, tail⟩ := List.nodup_cons.mp distinct
      obtain ⟨apart, known⟩ := ih takenNames tail fun name member =>
        owned name (List.mem_cons_of_mem _ member)
      rw [cardNames, own, taken]
      constructor
      · refine List.nodup_cons.mpr ⟨?_, apart⟩
        intro again
        exact absent (known _ again (owned _ List.mem_cons_self))
      · intro name member before
        rcases List.mem_cons.mp member with rfl | later
        · exact List.mem_cons_self
        · exact List.mem_cons_of_mem _ (known name later before)

/-- The names of the cards of one message are pairwise distinct. -/
theorem cardNames_distinct (cards : List HostNetwork) (increasing : Increasing cards) :
    (cardNames (realNames cards) cards).Nodup :=
  (cardNames_apart (realNames cards) cards (realNames_distinct cards increasing)
    fun _ member => member).1

/-! ## The insert of a card -/

/-- A card's key holds of its own payload. -/
theorem endpointKey_holds (serverId id : Nat) (takenNames : List String) (card : HostNetwork) :
    (endpointKey takenNames card).holds ⟨id, cardColumns serverId takenNames card⟩ = true := by
  unfold endpointKey
  split
  · exact decide_eq_true rfl
  · exact decide_eq_true rfl

section Calls

variable {permits : Faults} {inv : World → Prop} {state : FieldErrors} {world : World}
  {handler : InstanceHandler}

/-- The exits of the insert of one card, against the store in which it starts. -/
theorem insertCard_ensures {serverId : Nat} {takenNames : List String} {card : HostNetwork}
    {post : Except Exn (Option EndpointRef) → FieldErrors → World → Prop} (start : Cmdb)
    (ghost : World → Prop) (begins : world.db = start)
    (present : ∃ server ∈ start.servers.rows, server.id = serverId)
    (within : ∀ op outcome, permits op outcome → anyFaults op outcome)
    (invoked : ∀ (current : World) outcome, current.db = start →
      inv (current.next (.endpointInsertOne (cardColumns serverId takenNames card)) outcome) ∧
        ghost (current.next (.endpointInsertOne (cardColumns serverId takenNames card)) outcome))
    (probed : ∀ (current : World) outcome, (current.db = start ∨
        current.db = start.insertEndpoint (cardColumns serverId takenNames card)) →
      ghost current →
      inv (current.next (.endpointSelectOne serverId (endpointKey takenNames card)) outcome) ∧
        ghost (current.next (.endpointSelectOne serverId (endpointKey takenNames card)) outcome))
    (landed : ∀ after : World,
      after.db = start.insertEndpoint (cardColumns serverId takenNames card) →
      post (.ok (some ⟨start.endpoints.next, some (endpointName takenNames card)⟩)) state after)
    (recovered : ∀ (after : World) row, (after.db = start ∨
        after.db = start.insertEndpoint (cardColumns serverId takenNames card)) →
      after.db.rows (.endpointSelectOne serverId (endpointKey takenNames card)) = some row →
      post (.ok (some row)) state after)
    (rejected : ∀ (after : World) (exc : Exn), after.db = start →
      (∃ outcome, permits (.endpointInsertOne (cardColumns serverId takenNames card)) outcome ∧
        ∃ error, outcome = .fail error false ∧ error.isTransport = false) →
      post (.ok none) (handler.recorded
        { field := "network_endpoint", errors := true,
          subject := some (cardColumns serverId takenNames card).subject } exc state) after)
    (lost : ∀ (after : World) (exc : Exn), (after.db = start ∨
        after.db = start.insertEndpoint (cardColumns serverId takenNames card)) →
      exc.isCmdbException = false → post (.error exc) state after) :
    (handler.insertCard serverId takenNames card).Ensures (faulty permits) inv post state
      world := by
  unfold insertCard
  apply recoveredInsert_ensures start ghost
    (fun db => db.rows (.endpointSelectOne serverId (endpointKey takenNames card))) begins
    (admits_endpoint present) (within _)
  · exact endpointSelect_detects start (cardColumns serverId takenNames card) _ present
      (endpointKey_holds serverId _ takenNames card)
  · exact fun current outcome same _ => invoked current outcome same
  · intro current either known
    exact probe_ensures rfl ghost fun outcome _ => probed current outcome either known
  · exact landed
  · exact recovered
  · intro after error unchanged permitted permanent
    exact rejected after error.toExn unchanged ⟨_, permitted, error, rfl, permanent⟩
  · exact lost

/-- The look-up of a prefix changes nothing, and what it answers with is the
prefix that the reference rows give for the address. A transport failure that
outlasts the attempts raises. -/
theorem getNetPrefixByIp_answers (ipAddr dcName : String) (errors : Bool)
    (lossy : ∀ outcome, permits (.networkPrefixSelect dcName) outcome →
      transportFaults (.networkPrefixSelect dcName) outcome)
    (kept : ∀ (current : World) outcome, world.Reads current →
      inv (current.next (.networkPrefixSelect dcName) outcome)) :
    (handler.getNetPrefixByIp ipAddr dcName errors).Ensures (faulty permits) inv
      (fun result final after => final = state ∧ world.Reads after ∧
        ∀ row, result = .ok row →
          row =
            ipInNetPrefixes handler.runtime ipAddr (world.db.rows (.networkPrefixSelect dcName)))
      state world := by
  rw [getNetPrefixByIp, Action.ensures_bind]
  apply transportRead_ensures rfl lossy kept
  · intro after reads
    refine ⟨rfl, reads, ?_⟩
    rintro row ⟨⟩
    rfl
  · intro after exc reads
    exact ⟨rfl, reads, by simp⟩

/-- The exits of the insert of one address, against the store in which it starts. -/
theorem insertIp_ensures {options : CallOptions} {columns : Ip} {prefixId : Nat}
    {post : Except Exn (Option Nat) → FieldErrors → World → Prop} (start : Cmdb)
    (begins : world.db = start)
    (present : ∃ endpoint ∈ start.endpoints.rows, endpoint.id = columns.networkEndpointId)
    (prefixed : columns.prefixId = some prefixId)
    (within : ∀ op outcome, permits op outcome → anyFaults op outcome)
    (invoked : ∀ (current : World) outcome, current.db = start →
      inv (current.next (.ipInsertOne columns) outcome))
    (probed : ∀ (current : World) outcome,
      (current.db = start ∨ current.db = start.insertIp columns) →
      inv (current.next (.ipSelectOne columns.ip columns.networkEndpointId prefixId) outcome))
    (landed : ∀ after : World, after.db = start.insertIp columns →
      post (.ok (some start.ips.next)) state after)
    (recovered : ∀ (after : World) row,
      (after.db = start ∨ after.db = start.insertIp columns) →
      after.db.rows (.ipSelectOne columns.ip columns.networkEndpointId prefixId) = some row →
      post (.ok (some row)) state after)
    (rejected : ∀ (after : World) (exc : Exn), after.db = start →
      (∃ outcome, permits (.ipInsertOne columns) outcome ∧
        ∃ error, outcome = .fail error false ∧ error.isTransport = false) →
      post (if options.raiseOnDataError then
          .error (.cmdbException (handler.errorMessage options exc))
        else .ok none) (handler.recorded options exc state) after)
    (lost : ∀ (after : World) (exc : Exn),
      (after.db = start ∨ after.db = start.insertIp columns) → post (.error exc) state after) :
    (handler.cmdbCall options (cmdb (.ipInsertOne columns))
      (some (ipSelector columns.ip columns.networkEndpointId prefixId))).Ensures (faulty permits)
      inv post state world := by
  apply recoveredInsert_ensures start (fun _ => True)
    (fun db => db.rows (.ipSelectOne columns.ip columns.networkEndpointId prefixId)) begins
    (admits_ip present) (within _)
  · intro missed
    rw [Cmdb.effect, Cmdb.insertIp, dif_pos present] at missed
    simp only [Cmdb.rows, Option.map_eq_none_iff, List.find?_eq_none] at missed
    have absent := missed ⟨start.ips.next, columns⟩ (by simp [Table.insert])
    simp [prefixed] at absent
  · exact fun current outcome same _ => ⟨invoked current outcome same, trivial⟩
  · intro current either _
    exact probe_ensures rfl _ fun outcome _ => ⟨probed current outcome either, trivial⟩
  · exact landed
  · exact recovered
  · intro after error unchanged permitted permanent
    exact rejected after error.toExn unchanged ⟨_, permitted, error, rfl, permanent⟩
  · exact fun after exc either _ => lost after exc either

end Calls

end InstanceLifecycle
