import InstanceLifecycle.Create.CardRecovery

/-!
# What the cards of a create come to

The plan is what a create is for: the endpoints of a host and their addresses as a
function of the cards and the prefixes of the datacenter, without calls, failures or row
ids. A run under transport failures that ends normally leaves exactly the planned
endpoints and has recorded exactly the planned failures, provided no card lists an
address twice and no placeholder shares its mac with an earlier card.
-/

namespace InstanceLifecycle

open Interaction Store InstanceHandler

/-! ## Rows without ids -/

/-- An IP without its id and its endpoint's. -/
structure IpImage where
  ip : String
  type : Option String
  prefixId : Option Nat
deriving DecidableEq

/-- An endpoint without its id and its server's, with its IPs. -/
structure EndpointImage where
  name : Option String
  mac : Option String
  notes : Option String
  ips : List IpImage
deriving DecidableEq

/-- What is left of an IP row. -/
def ipImage (ip : Row Ip) : IpImage := ⟨ip.data.ip, ip.data.type, ip.data.prefixId⟩

/-- The IPs of an endpoint without their ids. -/
def Cmdb.ipImages (db : Cmdb) (endpointId : Nat) : List IpImage :=
  (db.ipsOf endpointId).map ipImage

/-- What is left of an endpoint row, with what is left of its IPs. -/
def Cmdb.endpointImage (db : Cmdb) (endpoint : Row Endpoint) : EndpointImage :=
  ⟨endpoint.data.name, endpoint.data.mac, endpoint.data.notes, db.ipImages endpoint.id⟩

/-- The endpoints of a server without their ids, in the order of their table. -/
def Cmdb.endpointImages (db : Cmdb) (serverId : Nat) : List EndpointImage :=
  (db.endpointsOf serverId).map db.endpointImage

/-! ## The plan -/

/-- What the addresses of a card add, the types used after them, and the failures. -/
structure PlannedAddresses where
  ips : List IpImage
  used : List (Option String)
  errors : FieldErrors

/-- The IPs of a card, computed from the prefixes alone, with the types used and
the failures after them. It follows the loop of the handler without its calls. -/
def plannedAddresses (handler : InstanceHandler) (prefixes : List NetworkPrefix)
    (used : List (Option String)) (errors : FieldErrors) : List String → PlannedAddresses
  | [] => ⟨[], used, errors⟩
  | addr :: rest =>
      match ipInNetPrefixes handler.runtime addr prefixes with
      | none => plannedAddresses handler prefixes used
          (errors.add "network_prefix" ("network_prefix for ip " ++
            handler.runtime.repr (.str addr) ++ " not found. Skipping ip creation")) rest
      | some netPrefix =>
          let ipType := resolveIpType netPrefix.type used
          let tail := plannedAddresses handler prefixes (used ++ [some ipType]) errors rest
          { tail with ips := ⟨addr, some ipType, some netPrefix.id⟩ :: tail.ips }

/-- The endpoints of the cards and the failures after them. -/
structure PlannedCards where
  endpoints : List EndpointImage
  errors : FieldErrors

/-- The endpoints of the cards, computed from the prefixes alone. The names
taken and the types used are handed on as in the handler. -/
def plannedCards (handler : InstanceHandler) (prefixes : List NetworkPrefix)
    (takenNames : List String) (used : List (Option String)) (errors : FieldErrors) :
    List HostNetwork → PlannedCards
  | [] => ⟨[], errors⟩
  | card :: rest =>
      let addresses := plannedAddresses handler prefixes used errors card.addresses
      let tail := plannedCards handler prefixes (takeName takenNames card) addresses.used
        addresses.errors rest
      { tail with endpoints :=
          ⟨some (endpointName takenNames card), card.mac, card.name, addresses.ips⟩ ::
            tail.endpoints }

/-! ## The addresses of a card -/

/-- The endpoint gained these addresses and nothing else changed. Ids are not
part of it, so a lost reply leaves no trace. -/
structure Gained (before after : Cmdb) (endpointId : Nat) (added : List IpImage) : Prop where
  endpoints : after.endpoints = before.endpoints
  servers : after.servers = before.servers
  reference : after.reference = before.reference
  others : ∀ id, id ≠ endpointId → after.ipsOf id = before.ipsOf id
  own : after.ipImages endpointId = before.ipImages endpointId ++ added

namespace Gained

variable {before middle after : Cmdb} {endpointId : Nat} {added more : List IpImage}

/-- Nothing was gained. -/
theorem refl (db : Cmdb) (endpointId : Nat) : Gained db db endpointId [] :=
  ⟨rfl, rfl, rfl, fun _ _ => rfl, (List.append_nil _).symm⟩

/-- Gains add up, in their order. -/
theorem trans (first : Gained before middle endpointId added)
    (rest : Gained middle after endpointId more) :
    Gained before after endpointId (added ++ more) := by
  refine ⟨rest.endpoints.trans first.endpoints, rest.servers.trans first.servers,
    rest.reference.trans first.reference, ?_, ?_⟩
  · exact fun id other => (rest.others id other).trans (first.others id other)
  · rw [rest.own, first.own, List.append_assoc]

/-- An admitted insert gains its one IP. -/
theorem insertIp (db : Cmdb) (columns : Ip)
    (present : ∃ endpoint ∈ db.endpoints.rows, endpoint.id = columns.networkEndpointId) :
    Gained db (db.insertIp columns) columns.networkEndpointId
      [⟨columns.ip, columns.type, columns.prefixId⟩] := by
  have rows := fun id => db.ipsOf_insertIp columns id present
  refine ⟨db.insertIp_endpoints columns, db.insertIp_servers columns,
    db.effect_reference (.ipInsertOne columns), ?_, ?_⟩
  · intro id other
    rw [rows id, if_neg fun same => other same.symm, List.append_nil]
  · rw [Cmdb.ipImages, Cmdb.ipImages, rows columns.networkEndpointId, if_pos rfl, List.map_append]
    rfl

end Gained

section Cards

variable {handler : InstanceHandler} {ctx : CreateContext} {state : FieldErrors} {world : World}
  {serverId endpointId : Nat}

/-- An address that is new to the endpoint is inserted once, whatever is lost on
the way. A re-select that finds the address finds the insert's own row, as there
was no other. -/
theorem insertAddress_exact {options : CallOptions} {columns : Ip} {prefixId : Nat}
    (prefixed : columns.prefixId = some prefixId)
    (present : ∃ endpoint ∈ world.db.endpoints.rows, endpoint.id = columns.networkEndpointId)
    (fresh : ∀ ip ∈ world.db.ipsOf columns.networkEndpointId, ip.data.ip ≠ columns.ip) :
    (handler.cmdbCall options (cmdb (.ipInsertOne columns))
      (some (ipSelector columns.ip columns.networkEndpointId prefixId))).Ensures
      (faulty transportFaults) (fun _ => True)
      (fun result final after => ∀ row, result = .ok row →
        final = state ∧ after.db = world.db.insertIp columns) state world := by
  apply insertIp_ensures world.db rfl present prefixed transport_any
  · exact fun _ _ _ => trivial
  · exact fun _ _ _ => trivial
  · exact fun after took row _ => ⟨rfl, took⟩
  · intro after row either found _ _
    rcases either with unchanged | took
    · obtain ⟨ip, stored, same⟩ := ipSelect_found found
      rw [unchanged] at stored
      exact absurd same (fresh ip stored)
    · exact ⟨rfl, took⟩
  · exact fun after exc _ rejection => transport_absurd rejection
  · exact fun after exc _ row impossible => nomatch impossible

/-- A normal end leaves the planned addresses, types and failures. -/
def addressesPlanned (before : Cmdb) (endpointId : Nat) (plan : PlannedAddresses)
    (result : Except Exn (List (Option String))) (final : FieldErrors) (after : World) : Prop :=
  match result with
  | .ok used => used = plan.used ∧ final = plan.errors ∧
      Gained before after.db endpointId plan.ips
  | .error _ => True

/-- A card's addresses end up as planned, under transport failures. By induction
on the addresses; none of them is on the endpoint yet, so the selector of each
finds its own row or none. -/
theorem persistAddresses_planned (prefixes : List NetworkPrefix) (addresses : List String)
    (used : List (Option String)) (reference : Reference)
    (known : world.db.reference = reference)
    (read : ∀ db : Cmdb, db.reference = reference →
      db.rows (.networkPrefixSelect ctx.dcName) = prefixes)
    (present : ∃ endpoint ∈ world.db.endpoints.rows, endpoint.id = endpointId)
    (distinct : addresses.Nodup)
    (fresh : ∀ addr ∈ addresses, ∀ ip ∈ world.db.ipsOf endpointId, ip.data.ip ≠ addr) :
    (handler.persistAddresses ctx endpointId used addresses).Ensures (faulty transportFaults)
      (fun _ => True)
      (addressesPlanned world.db endpointId
        (plannedAddresses handler prefixes used state addresses)) state world := by
  induction addresses generalizing used state world with
  | nil => exact ⟨rfl, rfl, .refl world.db endpointId⟩
  | cons addr rest ih =>
    obtain ⟨absent, further⟩ := List.nodup_cons.mp distinct
    have later : ∀ other ∈ rest, ∀ ip ∈ world.db.ipsOf endpointId, ip.data.ip ≠ other :=
      fun other member => fresh other (List.mem_cons_of_mem addr member)
    rw [persistAddresses, plannedAddresses]
    refine (getNetPrefixByIp_answers addr ctx.dcName true (fun _ permitted => permitted)
      fun _ _ _ => trivial).bind ?_
      fun _ _ _ _ => trivial
    rintro netPrefix final after ⟨rfl, reads, found⟩
    have located := found netPrefix rfl
    rw [read world.db known] at located
    subst located
    cases row : ipInNetPrefixes handler.runtime addr prefixes with
    | none =>
      simp only
      rw [Action.ensures_bind, Action.ensures_modify, ← reads.db]
      rw [← reads.db] at known present later
      exact ih used known present further later
    | some netPrefix =>
      simp only
      rw [← reads.db] at known present fresh later ⊢
      generalize shape : (⟨some addr, addr, some importerName, some providerName, endpointId,
        some netPrefix.id, some (resolveIpType netPrefix.type used)⟩ : Ip) = columns
      have address : columns.ip = addr := by rw [← shape]
      have hangs : columns.networkEndpointId = endpointId := by rw [← shape]
      have prefixed : columns.prefixId = some netPrefix.id := by rw [← shape]
      have typed : columns.type = some (resolveIpType netPrefix.type used) := by rw [← shape]
      subst hangs address
      refine (insertAddress_exact prefixed present (fresh _ List.mem_cons_self)).bind ?_
        fun _ _ _ _ => trivial
      rintro inserted middle last stored
      obtain ⟨rfl, took⟩ := stored inserted rfl
      have gained := Gained.insertIp after.db columns present
      rw [← took] at gained
      refine (ih _ ?_ ?_ further ?_).mono ?_
      · rw [gained.reference]
        exact known
      · rw [gained.endpoints]
        exact present
      · intro other member ip hanging
        rw [took, after.db.ipsOf_insertIp columns _ present, if_pos rfl] at hanging
        rcases List.mem_append.mp hanging with old | new
        · exact later other member ip old
        · rw [List.mem_singleton.mp new]
          exact fun same => absent (same ▸ member)
      · rintro (exc | final) errors latest planned
        · trivial
        · obtain ⟨types, recorded, rest⟩ := planned
          refine ⟨types, recorded, ?_⟩
          have both := gained.trans rest
          rw [typed, prefixed] at both
          exact both

/-! ## The cards -/

/-- Endpoints whose IPs are the same look the same. -/
theorem endpointImages_frame {before after : Cmdb} {rows : List (Row Endpoint)}
    (same : ∀ endpoint ∈ rows, after.ipsOf endpoint.id = before.ipsOf endpoint.id) :
    rows.map after.endpointImage = rows.map before.endpointImage := by
  apply List.map_congr_left
  intro endpoint member
  rw [Cmdb.endpointImage, Cmdb.endpointImage, Cmdb.ipImages, Cmdb.ipImages, same endpoint member]

/-- The payloads and the images a server has, as the loop over the cards
maintains them. -/
structure Holding (db : Cmdb) (serverId : Nat) (payloads : List Endpoint)
    (images : List EndpointImage) : Prop where
  present : ∃ server ∈ db.servers.rows, server.id = serverId
  payloads : (db.endpointsOf serverId).map Row.data = payloads
  images : db.endpointImages serverId = images

/-- A card adds its endpoint with its addresses, at the end of both lists. -/
theorem Holding.card {before after : Cmdb} {payloads : List Endpoint}
    {images : List EndpointImage} (holding : Holding before serverId payloads images)
    (columns : Endpoint) (hangs : columns.serverId = serverId) {added : List IpImage}
    (gained : Gained (before.insertEndpoint columns) after before.endpoints.next added) :
    Holding after serverId (payloads ++ [columns])
      (images ++ [⟨columns.name, columns.mac, columns.notes, added⟩]) := by
  subst hangs
  have rows : after.endpointsOf columns.serverId =
      before.endpointsOf columns.serverId ++ [⟨before.endpoints.next, columns⟩] := by
    rw [← before.endpointsOf_insertEndpoint columns holding.present, Cmdb.endpointsOf,
      Cmdb.endpointsOf, gained.endpoints]
  refine ⟨?_, ?_, ?_⟩
  · rw [gained.servers, before.insertEndpoint_servers]
    exact holding.present
  · rw [rows, List.map_append, holding.payloads]
    rfl
  · have older : ∀ endpoint ∈ before.endpointsOf columns.serverId,
        after.ipsOf endpoint.id = before.ipsOf endpoint.id := by
      intro endpoint member
      have below := before.endpoints.serial endpoint (List.mem_filter.mp member).1
      rw [gained.others endpoint.id (by omega), before.ipsOf_insertEndpoint]
    have new : after.ipImages before.endpoints.next = added := by
      rw [gained.own, Cmdb.ipImages, before.ipsOf_insertEndpoint, before.ipsOf_next]
      rfl
    rw [Cmdb.endpointImages, rows, List.map_append, endpointImages_frame older]
    have kept : (before.endpointsOf columns.serverId).map before.endpointImage = images :=
      holding.images
    rw [kept, List.map_singleton, Cmdb.endpointImage, new]

/-- A normal end leaves the planned endpoints behind those that were there. -/
def cardsPlanned (serverId : Nat) (payloads : List Endpoint) (images : List EndpointImage)
    (plan : PlannedCards) (result : Except Exn Unit) (final : FieldErrors) (after : World) :
    Prop :=
  match result with
  | .ok _ => final = plan.errors ∧ Holding after.db serverId payloads (images ++ plan.endpoints)
  | .error _ => True

/-- The cards end up as planned, under transport failures. By induction on the
cards; the names and the macs of placeholders are distinct, so each selector
finds its own row or none. -/
theorem persistCards_planned (prefixes : List NetworkPrefix) (cards : List HostNetwork)
    (takenNames : List String) (used : List (Option String)) (reference : Reference)
    (known : world.db.reference = reference)
    (read : ∀ db : Cmdb, db.reference = reference →
      db.rows (.networkPrefixSelect ctx.dcName) = prefixes)
    {payloads : List Endpoint} {images : List EndpointImage}
    (holding : Holding world.db serverId payloads images)
    (apart : (payloads.map Endpoint.name ++ (cardNames takenNames cards).map some).Nodup)
    (own : OwnMacs cards)
    (earlier : ∀ card ∈ cards, card.placeholder = true →
      ∀ payload ∈ payloads, payload.mac ≠ card.mac)
    (distinct : ∀ card ∈ cards, card.addresses.Nodup) :
    (handler.persistCards ctx serverId takenNames used cards).Ensures (faulty transportFaults)
      (fun _ => True)
      (cardsPlanned serverId (payloads ++ cardPayloads serverId takenNames cards) images
        (plannedCards handler prefixes takenNames used state cards)) state world := by
  induction cards generalizing takenNames used payloads images state world with
  | nil =>
    rw [cardPayloads, List.append_nil]
    refine ⟨rfl, ?_⟩
    rw [plannedCards, List.append_nil]
    exact holding
  | cons card rest ih =>
    have unclaimed : Unclaimed world.db serverId (endpointKey takenNames card) :=
      next_unclaimed holding.payloads apart (earlier card List.mem_cons_self)
    have inserted : (handler.insertCard serverId takenNames card).Ensures (faulty transportFaults)
        (fun _ => True) (ownExit world.db (cardColumns serverId takenNames card) state) state
        world :=
      (insertCard_own takenNames card world.db rfl holding.present (Or.inr unclaimed)).env_mono
        (fun _ _ _ _ step => step) fun _ _ => trivial
    rw [persistCards]
    refine inserted.bind ?_ fun _ _ _ _ => trivial
    rintro endpoint final after ⟨rfl, exit⟩
    cases endpoint with
    | none => exact exit.elim
    | some endpoint =>
      obtain ⟨fresh, took⟩ := exit
      simp only
      have referenceNow : after.db.reference = reference := by
        rw [took]
        exact (world.db.effect_reference (.endpointInsertOne _)).trans known
      have stored : ∃ row ∈ after.db.endpoints.rows, row.id = endpoint.id := by
        rw [took]
        exact ⟨_, world.db.insertEndpoint_stored _ holding.present, fresh.symm⟩
      have none : after.db.ipsOf endpoint.id = [] := by
        rw [took, fresh, world.db.ipsOf_insertEndpoint, world.db.ipsOf_next]
      refine (persistAddresses_planned prefixes card.addresses used reference referenceNow read
        stored (distinct card List.mem_cons_self) (by simp [none])).bind ?_ fun _ _ _ _ => trivial
      rintro types last later ⟨rfl, rfl, gained⟩
      have knownLater : later.db.reference = reference := gained.reference.trans referenceNow
      rw [took, fresh] at gained
      have held := holding.card (cardColumns serverId takenNames card) rfl gained
      obtain ⟨ownMac, further⟩ := List.pairwise_cons.mp own
      refine (ih (takeName takenNames card) _ knownLater held ?_ further ?_
        fun other member => distinct other (List.mem_cons_of_mem card member)).mono ?_
      · have names : (payloads ++ [cardColumns serverId takenNames card]).map Endpoint.name ++
            (cardNames (takeName takenNames card) rest).map some =
            payloads.map Endpoint.name ++ (cardNames takenNames (card :: rest)).map some := by
          simp [cardNames, cardColumns]
        rw [names]
        exact apart
      · intro other member placeholder payload processed
        rcases List.mem_append.mp processed with old | new
        · exact earlier other (List.mem_cons_of_mem card member) placeholder payload old
        · rw [List.mem_singleton.mp new]
          exact ownMac other member placeholder
      · rintro (exc | value) errors latest planned
        · trivial
        · obtain ⟨recorded, complete⟩ := planned
          refine ⟨recorded, ?_⟩
          rw [List.append_assoc, List.append_assoc] at complete
          exact complete

end Cards

end InstanceLifecycle
