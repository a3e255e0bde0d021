import InstanceLifecycle.Create.Cards
import InstanceLifecycle.Handler.AsciiRuntime

/-!
# Recovery inside one create

A selector that looks for the endpoint of a card finds a row by its name or, for a
placeholder, by its mac. The names are distinct, so a name finds the card's own row.
A mac finds the first row that carries it, which is the card's own unless an earlier
card has the same mac. Under that condition, or when no insert is ever repeated,
every card ends up with its own endpoint and its own addresses.
-/

namespace InstanceLifecycle

open Interaction Store InstanceHandler

/-! ## What a recovery hands back -/

/-- The payload of an endpoint insert, whatever its reply. -/
def Event.insertedEndpoint : Event → Option Endpoint
  | ⟨.cmdb (.endpointInsertOne columns), _⟩ => some columns
  | _ => none

/-- The payload of the most recent endpoint insert, the one a re-select is
about. -/
def lastInsert (history : List Event) : Option Endpoint :=
  history.reverse.findSome? Event.insertedEndpoint

/-- A selector that has just found a row found the row the last insert stored. -/
def RecoversOwn (world : World) : Prop :=
  ∀ earlier serverId key row,
    world.history = earlier ++ [⟨.cmdb (.endpointSelectOne serverId key), .ok (some row)⟩] →
    ∃ columns, lastInsert earlier = some columns ∧ ⟨row.id, columns⟩ ∈ world.db.endpoints.rows

/-- No placeholder shares its mac with an earlier card, so its selector can find
no other row. -/
def OwnMacs (cards : List HostNetwork) : Prop :=
  cards.Pairwise (fun earlier card => card.placeholder = true → earlier.mac ≠ card.mac)

/-- Other events leave it. -/
theorem lastInsert_append (history : List Event) (event : Event)
    (other : event.insertedEndpoint = none) :
    lastInsert (history ++ [event]) = lastInsert history := by
  simp [lastInsert, other]

/-- An insert replaces it. -/
theorem lastInsert_insert (history : List Event) (columns : Endpoint)
    (reply : Except CallError EndpointRef) :
    lastInsert (history ++ [⟨.cmdb (.endpointInsertOne columns), reply⟩]) = some columns := by
  rw [lastInsert, List.reverse_append]
  rfl

/-- Only an endpoint look-up recovers anything. -/
theorem recoversOwn_next (world : World) (op : CmdbOp) (outcome : Outcome)
    (other : ∀ serverId key, op ≠ .endpointSelectOne serverId key) :
    RecoversOwn (world.next op outcome) := by
  intro earlier serverId key row parts
  rw [World.next_history] at parts
  obtain ⟨_, last⟩ := List.append_inj' parts rfl
  have ops := congrArg Event.op (List.head_eq_of_cons_eq last)
  cases ops
  exact absurd rfl (other serverId key)

/-- No stored endpoint of the server matches the key. -/
def Unclaimed (db : Cmdb) (serverId : Nat) (key : EndpointKey) : Prop :=
  ∀ endpoint ∈ db.endpointsOf serverId, key.holds endpoint = false

/-- An unclaimed key finds the inserted row and nothing else. By whether the
insert took effect. -/
theorem probe_own {start db : Cmdb} (columns : Endpoint) {key : EndpointKey} {row : EndpointRef}
    (present : ∃ server ∈ start.servers.rows, server.id = columns.serverId)
    (unclaimed : Unclaimed start columns.serverId key)
    (either : db = start ∨ db = start.insertEndpoint columns)
    (found : db.rows (.endpointSelectOne columns.serverId key) = some row) :
    db = start.insertEndpoint columns ∧ row = ⟨start.endpoints.next, columns.name⟩ := by
  simp only [Cmdb.rows, Option.map_eq_some_iff] at found
  obtain ⟨endpoint, located, rfl⟩ := found
  have stored := List.mem_of_find?_eq_some located
  have matched := List.find?_some located
  rw [Bool.and_eq_true, decide_eq_true_eq] at matched
  have notOld : endpoint ∉ start.endpoints.rows := by
    intro old
    have free := unclaimed endpoint (List.mem_filter.mpr ⟨old, decide_eq_true matched.1⟩)
    rw [matched.2] at free
    cases free
  rcases either with rfl | rfl
  · exact absurd stored notOld
  · refine ⟨rfl, ?_⟩
    rw [Cmdb.insertEndpoint, dif_pos present] at stored
    rcases (start.endpoints.mem_insert columns endpoint).mp stored with old | rfl
    · exact absurd old notOld
    · rfl

section Cards

variable {handler : InstanceHandler} {state : FieldErrors} {world : World} {serverId : Nat}

/-- How the insert of a card ends when it recovers its own row only. -/
def ownExit (start : Cmdb) (columns : Endpoint) (state : FieldErrors)
    (result : Except Exn (Option EndpointRef)) (final : FieldErrors) (after : World) : Prop :=
  final = state ∧
    match result with
    | .ok (some row) => row.id = start.endpoints.next ∧ after.db = start.insertEndpoint columns
    | .ok none => False
    | .error _ => True

/-- A failure that is not one of transport is not permitted. -/
theorem transport_absurd {op : CmdbOp} {goal : Prop}
    (rejection : ∃ outcome, transportFaults op outcome ∧
      ∃ error, outcome = .fail error false ∧ error.isTransport = false) : goal := by
  obtain ⟨_, permitted, error, rfl, permanent⟩ := rejection
  have transport : error.isTransport = true := permitted
  rw [transport] at permanent
  cases permanent

/-- The insert of a card under an unclaimed key recovers its own row or none. -/
theorem insertCard_unclaimed (takenNames : List String) (card : HostNetwork) (start : Cmdb)
    (begins : world.db = start)
    (present : ∃ server ∈ start.servers.rows, server.id = serverId)
    (unclaimed : Unclaimed start serverId (endpointKey takenNames card)) :
    (handler.insertCard serverId takenNames card).Ensures (faulty transportFaults) RecoversOwn
      (ownExit start (cardColumns serverId takenNames card) state) state world := by
  apply insertCard_ensures start
    (fun current => lastInsert current.history = some (cardColumns serverId takenNames card))
    begins present transport_any
  · intro current outcome _
    refine ⟨recoversOwn_next _ _ _ (by simp), ?_⟩
    exact lastInsert_insert _ _ _
  · intro current outcome either known
    constructor
    · intro earlier otherServer otherKey row parts
      rw [World.next_history] at parts
      obtain ⟨rfl, last⟩ := List.append_inj' parts rfl
      have same := List.head_eq_of_cons_eq last
      refine ⟨_, known, ?_⟩
      rw [World.next_db, current.db.answer_read _ rfl outcome]
      obtain ⟨ops, replies⟩ := Event.mk.inj same
      cases ops
      have found := eq_of_heq replies
      cases outcome with
      | fail error landed => cases found
      | ok =>
        have located : current.db.rows (.endpointSelectOne serverId (endpointKey takenNames card)) =
            some row := Except.ok.inj found
        obtain ⟨took, rfl⟩ := probe_own (cardColumns serverId takenNames card) present
          unclaimed either located
        rw [took]
        exact start.insertEndpoint_stored _ present
    · exact (lastInsert_append _ _ rfl).trans known
  · exact fun after took => ⟨rfl, rfl, took⟩
  · intro after row either found
    obtain ⟨took, rfl⟩ := probe_own (cardColumns serverId takenNames card) present
      unclaimed either found
    exact ⟨rfl, rfl, took⟩
  · exact fun after exc _ rejection => transport_absurd rejection
  · exact fun after exc _ _ => ⟨rfl, trivial⟩

/-- The insert of a card whose key is unclaimed, or of which there is one attempt. -/
theorem insertCard_own (takenNames : List String) (card : HostNetwork) (start : Cmdb)
    (begins : world.db = start)
    (present : ∃ server ∈ start.servers.rows, server.id = serverId)
    (unclaimed : handler.cmdbTransportAttempts ≤ 1 ∨
      Unclaimed start serverId (endpointKey takenNames card)) :
    (handler.insertCard serverId takenNames card).Ensures (faulty transportFaults) RecoversOwn
      (ownExit start (cardColumns serverId takenNames card) state) state world := by
  rcases unclaimed with single | unclaimed
  · apply singleCall_ensures
    · simp only [InstanceHandler.budget, Option.getD_none]
      omega
    · intro outcome permitted
      refine ⟨recoversOwn_next _ _ _ (by simp), ?_⟩
      cases outcome with
      | ok =>
        have admitted : start.admits (.endpointInsertOne (cardColumns serverId takenNames card)) =
            true := admits_endpoint present
        simp only [Cmdb.answer, begins, admitted, if_true, replyExit]
        refine ⟨rfl, rfl, ?_⟩
        rw [World.next_db, begins]
        rfl
      | fail error landed =>
        have transport : error.isTransport = true := permitted
        simp only [Cmdb.answer, replyExit, transport, if_true]
        exact ⟨trivial, rfl, trivial⟩
  · exact insertCard_unclaimed takenNames card start begins present unclaimed

/-! ## The addresses of a card -/

/-- The addresses of one endpoint so far; everything else is as before. -/
structure Filled (before after : Cmdb) (endpointId : Nat) (addresses covered : List String)
    (clean : Prop) : Prop where
  endpoints : after.endpoints = before.endpoints
  servers : after.servers = before.servers
  others : ∀ id, id ≠ endpointId → after.ipsOf id = before.ipsOf id
  own : ∀ ip ∈ after.ipsOf endpointId, ip.data.ip ∈ addresses
  all : clean → ∀ addr ∈ covered, ∃ ip ∈ after.ipsOf endpointId, ip.data.ip = addr

namespace Filled

variable {before after : Cmdb} {endpointId : Nat} {addresses covered : List String}
  {clean : Prop}

/-- Less may be known of a run that recorded failures. -/
theorem weaken {less : Prop} (filled : Filled before after endpointId addresses covered clean)
    (implied : less → clean) : Filled before after endpointId addresses covered less :=
  ⟨filled.endpoints, filled.servers, filled.others, filled.own, fun held =>
    filled.all (implied held)⟩

/-- An address is covered once its row is there. -/
theorem cover (filled : Filled before after endpointId addresses covered clean) (addr : String)
    (there : clean → ∃ ip ∈ after.ipsOf endpointId, ip.data.ip = addr) :
    Filled before after endpointId addresses (covered ++ [addr]) clean := by
  refine ⟨filled.endpoints, filled.servers, filled.others, filled.own, ?_⟩
  intro held other member
  rcases List.mem_append.mp member with old | new
  · exact filled.all held other old
  · rw [List.mem_singleton.mp new]
    exact there held

/-- An IP of the list on this endpoint may be added. The other endpoints and the
servers are as they were, and the new row's address is one of those asked for.
-/
theorem insertIp (filled : Filled before after endpointId addresses covered clean) (columns : Ip)
    (hangs : columns.networkEndpointId = endpointId) (listed : columns.ip ∈ addresses)
    (present : ∃ endpoint ∈ after.endpoints.rows, endpoint.id = columns.networkEndpointId) :
    Filled before (after.insertIp columns) endpointId addresses covered clean := by
  have rows := fun id => after.ipsOf_insertIp columns id present
  refine ⟨?_, ?_, ?_, ?_, ?_⟩
  · rw [after.insertIp_endpoints]
    exact filled.endpoints
  · rw [after.insertIp_servers]
    exact filled.servers
  · intro id other
    have apart : columns.networkEndpointId ≠ id := fun same => other (same.symm.trans hangs)
    rw [rows id, if_neg apart, List.append_nil]
    exact filled.others id other
  · intro ip member
    rw [rows endpointId, if_pos hangs] at member
    rcases List.mem_append.mp member with old | new
    · exact filled.own ip old
    · rw [List.mem_singleton.mp new]
      exact listed
  · intro held addr member
    obtain ⟨ip, stored, same⟩ := filled.all held addr member
    refine ⟨ip, ?_, same⟩
    rw [rows endpointId]
    exact List.mem_append_left _ stored

/-- A new endpoint has no addresses yet. -/
theorem inserted (db : Cmdb) (columns : Endpoint) (addresses : List String) (clean : Prop) :
    Filled (db.insertEndpoint columns) (db.insertEndpoint columns) db.endpoints.next addresses []
      clean := by
  refine ⟨rfl, rfl, fun _ _ => rfl, ?_, by simp⟩
  rw [db.ipsOf_insertEndpoint, db.ipsOf_next]
  simp

end Filled

/-- A row that an IP look-up found hangs where it was looked for. -/
theorem ipSelect_found {db : Cmdb} {addr : String} {endpointId prefixId id : Nat}
    (found : db.rows (.ipSelectOne addr endpointId prefixId) = some id) :
    ∃ ip ∈ db.ipsOf endpointId, ip.data.ip = addr := by
  simp only [Cmdb.rows, Option.map_eq_some_iff] at found
  obtain ⟨ip, located, _⟩ := found
  have matched := List.find?_some located
  simp only [Bool.and_eq_true, decide_eq_true_eq] at matched
  exact ⟨ip, List.mem_filter.mpr ⟨List.mem_of_find?_eq_some located,
    decide_eq_true matched.1.2⟩, matched.1.1⟩

/-- How the addresses of a card leave the store; `count` is the number of failures
recorded before the cards. -/
def addressesExit (before : Cmdb) (endpointId : Nat) (addresses covered : List String)
    (count : Nat) (state : FieldErrors) {α : Type} (result : Except Exn α) (final : FieldErrors)
    (after : World) : Prop :=
  match result with
  | .ok _ => state.entries.length ≤ final.entries.length ∧
      Filled before after.db endpointId addresses covered (final.entries.length = count)
  | .error _ => True

/-- The insert of one address covers it, unless a failure has been recorded. A
re-select finds only IPs of this endpoint, so a recovered row has the address as
well. -/
theorem insertAddress_covers {options : CallOptions} {columns : Ip} {prefixId count : Nat}
    {before : Cmdb} {addresses covered : List String}
    (prefixed : columns.prefixId = some prefixId) (listed : columns.ip ∈ addresses)
    (stored : ∃ endpoint ∈ before.endpoints.rows, endpoint.id = columns.networkEndpointId)
    (filled : Filled before world.db columns.networkEndpointId addresses covered
      (state.entries.length = count)) :
    (handler.cmdbCall options (cmdb (.ipInsertOne columns))
      (some (ipSelector columns.ip columns.networkEndpointId prefixId))).Ensures
      (faulty transportFaults) RecoversOwn
      (addressesExit before columns.networkEndpointId addresses (covered ++ [columns.ip]) count
        state) state world := by
  have present : ∃ endpoint ∈ world.db.endpoints.rows,
      endpoint.id = columns.networkEndpointId := by
    rw [filled.endpoints]
    exact stored
  have inserted := filled.insertIp columns rfl listed present
  apply insertIp_ensures world.db rfl present prefixed transport_any
  · exact fun current outcome _ => recoversOwn_next _ _ _ (by simp)
  · exact fun current outcome _ => recoversOwn_next _ _ _ (by simp)
  · intro after took
    refine ⟨Nat.le_refl _, ?_⟩
    rw [took]
    refine inserted.cover _ fun _ => ⟨⟨world.db.ips.next, columns⟩, ?_, rfl⟩
    rw [world.db.ipsOf_insertIp columns _ present, if_pos rfl]
    exact List.mem_append_right _ (List.mem_singleton.mpr rfl)
  · intro after row either found
    refine ⟨Nat.le_refl _, ?_⟩
    have there := ipSelect_found found
    rcases either with unchanged | took
    · rw [unchanged] at there ⊢
      exact filled.cover _ fun _ => there
    · rw [took] at there ⊢
      exact inserted.cover _ fun _ => there
  · exact fun after exc _ rejection => transport_absurd rejection
  · exact fun after exc _ => trivial

/-- The addresses of a card are covered one by one. By induction on the rest of
them, with those covered so far generalised. -/
theorem persistAddresses_own (ctx : CreateContext) (endpointId count : Nat) (before : Cmdb)
    (addresses covered rest : List String) (used : List (Option String))
    (stored : ∃ endpoint ∈ before.endpoints.rows, endpoint.id = endpointId)
    (listed : ∀ addr ∈ rest, addr ∈ addresses) (grown : count ≤ state.entries.length)
    (filled : Filled before world.db endpointId addresses covered
      (state.entries.length = count)) :
    (handler.persistAddresses ctx endpointId used rest).Ensures (faulty transportFaults)
      RecoversOwn (addressesExit before endpointId addresses (covered ++ rest) count state) state
      world := by
  induction rest generalizing covered used state world with
  | nil =>
    rw [List.append_nil]
    exact ⟨Nat.le_refl _, filled⟩
  | cons addr rest ih =>
    have further : ∀ addr ∈ rest, addr ∈ addresses := fun other member =>
      listed other (List.mem_cons_of_mem addr member)
    have parts : covered ++ addr :: rest = covered ++ [addr] ++ rest := by simp
    rw [parts, persistAddresses]
    refine (getNetPrefixByIp_answers addr ctx.dcName true (fun _ permitted => permitted)
      fun current outcome _ => recoversOwn_next _ _ _ (by simp)).bind ?_ fun _ _ _ _ => trivial
    rintro netPrefix final after ⟨rfl, reads, _⟩
    have here : Filled before after.db endpointId addresses covered
        (final.entries.length = count) := by
      rw [reads.db]
      exact filled
    cases netPrefix with
    | none =>
      -- The address is skipped with a failure, so the run is no longer clean.
      simp only
      rw [Action.ensures_bind, Action.ensures_modify]
      refine (ih (covered ++ [addr]) used further ?_ ?_).mono ?_
      · simp only [FieldErrors.add, List.length_append, List.length_singleton]
        omega
      · have dirty : ∀ message, ¬ (final.add "network_prefix" message).entries.length = count := by
          intro message
          simp only [FieldErrors.add, List.length_append, List.length_singleton]
          omega
        exact (here.weaken fun same => absurd same (dirty _)).cover addr
          fun same => absurd same (dirty _)
      · intro result last after exit
        cases result with
        | error exc => trivial
        | ok used =>
          obtain ⟨longer, filled⟩ := exit
          refine ⟨?_, filled⟩
          simp only [FieldErrors.add, List.length_append, List.length_singleton] at longer
          omega
    | some netPrefix =>
      simp only
      refine Action.Ensures.bind (?_ : Action.Ensures _ _ _ (addressesExit before endpointId
        addresses (covered ++ [addr]) count final) final after) ?_ fun _ _ _ _ => trivial
      · exact insertAddress_covers rfl (listed addr List.mem_cons_self) stored here
      · rintro row middle later ⟨longer, filledNow⟩
        refine (ih (covered ++ [addr]) _ further (by omega) filledNow).mono ?_
        intro result last latest exit
        cases result with
        | error exc => trivial
        | ok used =>
          obtain ⟨more, filled⟩ := exit
          exact ⟨by omega, filled⟩

/-! ## The cards -/

/-- One endpoint per card with its payload, carrying addresses of that card only, and
all of them while no failure was recorded. -/
structure CardWritten (db : Cmdb) (clean : Prop) (endpoint : Row Endpoint)
    (entry : HostNetwork × Endpoint) : Prop where
  payload : endpoint.data = entry.2
  own : ∀ ip ∈ db.ipsOf endpoint.id, ip.data.ip ∈ entry.1.addresses
  all : clean → ∀ addr ∈ entry.1.addresses, ∃ ip ∈ db.ipsOf endpoint.id, ip.data.ip = addr

/-- A card stays written when other endpoints get their IPs. -/
theorem CardWritten.frame {before after : Cmdb} {clean less : Prop} {endpoint : Row Endpoint}
    {entry : HostNetwork × Endpoint} (written : CardWritten before clean endpoint entry)
    (same : after.ipsOf endpoint.id = before.ipsOf endpoint.id) (implied : less → clean) :
    CardWritten after less endpoint entry := by
  refine ⟨written.payload, ?_, fun held => ?_⟩
  · rw [same]
    exact written.own
  · rw [same]
    exact written.all (implied held)

/-- Related elements stay related where the left side is a member. -/
theorem forall₂_imp_mem {α β : Type} {relation other : α → β → Prop} {left : List α}
    {right : List β} (all : List.Forall₂ relation left right)
    (implied : ∀ x ∈ left, ∀ y, relation x y → other x y) : List.Forall₂ other left right := by
  induction all with
  | nil => exact .nil
  | cons head _ ih =>
    refine .cons (implied _ List.mem_cons_self _ head) (ih ?_)
    exact fun x member => implied x (List.mem_cons_of_mem _ member)

/-- The payloads on the server are those of the cards so far. -/
theorem CardWritten.payloads {db : Cmdb} {clean : Prop} {rows : List (Row Endpoint)}
    {done : List (HostNetwork × Endpoint)}
    (written : List.Forall₂ (CardWritten db clean) rows done) :
    rows.map Row.data = done.map Prod.snd := by
  induction written with
  | nil => rfl
  | cons head _ ih => rw [List.map_cons, List.map_cons, head.payload, ih]

/-- A card whose endpoint was inserted and filled joins the cards before it. -/
theorem CardWritten.appended {db later : Cmdb} {clean less : Prop} {card : HostNetwork}
    {columns : Endpoint} {done : List (HostNetwork × Endpoint)}
    (present : ∃ server ∈ db.servers.rows, server.id = columns.serverId)
    (written : List.Forall₂ (CardWritten db clean) (db.endpointsOf columns.serverId) done)
    (filled : Filled (db.insertEndpoint columns) later db.endpoints.next card.addresses
      card.addresses less) (implied : less → clean) :
    List.Forall₂ (CardWritten later less) (later.endpointsOf columns.serverId)
      (done ++ [(card, columns)]) := by
  have rows : later.endpointsOf columns.serverId =
      db.endpointsOf columns.serverId ++ [⟨db.endpoints.next, columns⟩] := by
    rw [← db.endpointsOf_insertEndpoint columns present, Cmdb.endpointsOf, Cmdb.endpointsOf,
      filled.endpoints]
  rw [rows]
  refine List.rel_append (forall₂_imp_mem written ?_) (.cons ?_ .nil)
  · -- The new endpoint has a later id, so nothing below the old ones changed.
    intro row member entry held
    have below := db.endpoints.serial row (List.mem_filter.mp member).1
    refine held.frame ?_ implied
    rw [filled.others row.id (by omega), db.ipsOf_insertEndpoint]
  · exact ⟨rfl, filled.own, filled.all⟩

/-- The key of the next card is unclaimed by the cards before it. -/
theorem next_unclaimed {db : Cmdb} {done : List Endpoint} {takenNames : List String}
    {card : HostNetwork} {rest : List HostNetwork}
    (stored : (db.endpointsOf serverId).map Row.data = done)
    (apart : (done.map Endpoint.name ++ (cardNames takenNames (card :: rest)).map some).Nodup)
    (own : card.placeholder = true → ∀ payload ∈ done, payload.mac ≠ card.mac) :
    Unclaimed db serverId (endpointKey takenNames card) := by
  intro endpoint member
  have processed : endpoint.data ∈ done := stored ▸ List.mem_map_of_mem member
  unfold endpointKey
  by_cases placeholder : card.placeholder = true
  · rw [if_pos placeholder]
    simp only [EndpointKey.holds, decide_eq_false_iff_not]
    exact own placeholder endpoint.data processed
  · rw [if_neg placeholder]
    simp only [EndpointKey.holds, decide_eq_false_iff_not]
    intro same
    have before : some (endpointName takenNames card) ∈ done.map Endpoint.name :=
      same ▸ List.mem_map_of_mem processed
    have after : some (endpointName takenNames card) ∈
        (cardNames takenNames (card :: rest)).map some := by
      simp [cardNames]
    exact List.disjoint_of_nodup_append apart before after

/-- How the cards leave the store: one endpoint per card, in their order, with
its addresses. -/
def cardsExit (serverId count : Nat) (done : List (HostNetwork × Endpoint)) {α : Type}
    (result : Except Exn α) (final : FieldErrors) (after : World) : Prop :=
  match result with
  | .ok _ => List.Forall₂ (CardWritten after.db (final.entries.length = count))
      (after.db.endpointsOf serverId) done
  | .error _ => True

/-- Each card adds its own endpoint to those written before. By induction on the
cards; names and macs of placeholders keep the keys unclaimed. -/
theorem persistCards_own (ctx : CreateContext) (count : Nat) (cards : List HostNetwork)
    (done : List (HostNetwork × Endpoint)) (takenNames : List String)
    (used : List (Option String))
    (present : ∃ server ∈ world.db.servers.rows, server.id = serverId)
    (written : List.Forall₂ (CardWritten world.db (state.entries.length = count))
      (world.db.endpointsOf serverId) done)
    (macs : ∀ entry ∈ done, entry.2.mac = entry.1.mac)
    (apart : (done.map (fun entry => entry.2.name) ++
      (cardNames takenNames cards).map some).Nodup)
    (own : handler.cmdbTransportAttempts ≤ 1 ∨ OwnMacs (done.map Prod.fst ++ cards))
    (grown : count ≤ state.entries.length) :
    (handler.persistCards ctx serverId takenNames used cards).Ensures (faulty transportFaults)
      RecoversOwn
      (cardsExit serverId count (done ++ cards.zip (cardPayloads serverId takenNames cards)))
      state world := by
  induction cards generalizing done takenNames used state world with
  | nil =>
    rw [List.zip_nil_left, List.append_nil]
    exact written
  | cons card rest ih =>
    have unclaimed : handler.cmdbTransportAttempts ≤ 1 ∨
        Unclaimed world.db serverId (endpointKey takenNames card) := by
      have named : ((done.map Prod.snd).map Endpoint.name ++
          (cardNames takenNames (card :: rest)).map some).Nodup := by
        rw [List.map_map]
        exact apart
      refine own.imp id fun apartMacs => ?_
      apply next_unclaimed (CardWritten.payloads written) named
      intro placeholder payload member
      obtain ⟨entry, processed, rfl⟩ := List.mem_map.mp member
      rw [macs entry processed]
      exact (List.pairwise_append.mp apartMacs).2.2 entry.1 (List.mem_map_of_mem processed) card
        List.mem_cons_self placeholder
    have further : done ++ (card :: rest).zip (cardPayloads serverId takenNames (card :: rest)) =
        done ++ [(card, cardColumns serverId takenNames card)] ++
          rest.zip (cardPayloads serverId (takeName takenNames card) rest) := by
      simp [cardPayloads]
    rw [further, persistCards]
    refine (insertCard_own takenNames card world.db rfl present unclaimed).bind ?_
      fun _ _ _ _ => trivial
    rintro endpoint final after ⟨rfl, exit⟩
    cases endpoint with
    | none => exact exit.elim
    | some endpoint =>
      obtain ⟨fresh, took⟩ := exit
      simp only
      have stored : ∃ row ∈ (world.db.insertEndpoint
          (cardColumns serverId takenNames card)).endpoints.rows, row.id = endpoint.id :=
        ⟨_, world.db.insertEndpoint_stored _ present, fresh.symm⟩
      have filled : Filled (world.db.insertEndpoint (cardColumns serverId takenNames card))
          after.db endpoint.id card.addresses [] (final.entries.length = count) := by
        rw [took, fresh]
        exact Filled.inserted _ _ _ _
      refine (persistAddresses_own ctx endpoint.id count _ card.addresses [] card.addresses used
        stored (fun _ member => member) grown filled).bind ?_ fun _ _ _ _ => trivial
      rintro used last later ⟨longer, complete⟩
      rw [List.nil_append] at complete
      apply ih
      · rw [complete.servers, world.db.insertEndpoint_servers]
        exact present
      · rw [fresh] at complete
        exact CardWritten.appended present written
          complete (by omega)
      · intro entry member
        rcases List.mem_append.mp member with old | new
        · exact macs entry old
        · rw [List.mem_singleton.mp new]
          rfl
      · have names : (done ++ [(card, cardColumns serverId takenNames card)]).map
            (fun entry => entry.2.name) ++ (cardNames (takeName takenNames card) rest).map some =
            done.map (fun entry => entry.2.name) ++
              (cardNames takenNames (card :: rest)).map some := by
          simp [cardNames, cardColumns]
        rw [names]
        exact apart
      · have cardsSoFar : (done ++ [(card, cardColumns serverId takenNames card)]).map Prod.fst ++
            rest = done.map Prod.fst ++ card :: rest := by
          simp
        rw [cardsSoFar]
        exact own
      · omega

end Cards

/-! ## The endpoints of one create -/

/-- Every row an endpoint look-up hands back is the one its own insert stored, and a
run that ends without a failure leaves one endpoint per card with its addresses. -/
theorem cards_recover_own (handler : InstanceHandler) (ctx : CreateContext)
    (addresses : List (String × List AddressEntry)) (ports : List (Option ResourceBody))
    (built : buildHostNetworks addresses ports = .ok ctx.hostNetworks) (serverId : Nat) (db : Cmdb)
    (present : ∃ server ∈ db.servers.rows, server.id = serverId)
    (fresh : db.endpointsOf serverId = [])
    (own : handler.cmdbTransportAttempts ≤ 1 ∨ OwnMacs ctx.hostNetworks) (state : FieldErrors) :
    (cardPayloads serverId (realNames ctx.hostNetworks) ctx.hostNetworks).Nodup ∧
      (∀ last rest, Prog.Steps (faulty transportFaults) ⟨db, []⟩
        (handler.persistNetEndpoints ctx serverId state) last rest → RecoversOwn last) ∧
      ∀ last, Prog.Ends (faulty transportFaults) ⟨db, []⟩
        (handler.persistNetEndpoints ctx serverId state) (.ok (), state) last →
        List.Forall₂ (CardWritten last.db True) (last.db.endpointsOf serverId)
          (ctx.hostNetworks.zip
            (cardPayloads serverId (realNames ctx.hostNetworks) ctx.hostNetworks)) := by
  have distinct : (cardNames (realNames ctx.hostNetworks) ctx.hostNetworks).Nodup :=
    cardNames_distinct ctx.hostNetworks (buildHostNetworks_increasing addresses ports _ built)
  have named : ((cardNames (realNames ctx.hostNetworks) ctx.hostNetworks).map some).Nodup :=
    distinct.map (Option.some_injective String)
  have ensured : (handler.persistNetEndpoints ctx serverId).Ensures (faulty transportFaults)
      RecoversOwn (cardsExit serverId state.entries.length
        (ctx.hostNetworks.zip
          (cardPayloads serverId (realNames ctx.hostNetworks) ctx.hostNetworks))) state
      ⟨db, []⟩ := by
    have written : List.Forall₂ (CardWritten db (state.entries.length = state.entries.length))
        (db.endpointsOf serverId) [] := by
      rw [fresh]
      exact .nil
    exact persistCards_own ctx state.entries.length ctx.hostNetworks [] _ [] present written
      (by simp) named own (Nat.le_refl _)
  have start : RecoversOwn ⟨db, []⟩ := by
    intro earlier serverId key row parts
    exact absurd parts (by simp)
  refine ⟨?_, fun last rest run => ensured.always start run, fun last run => ?_⟩
  · have names : ((cardPayloads serverId (realNames ctx.hostNetworks) ctx.hostNetworks).map
        Endpoint.name).Nodup := by
      rw [cardPayloads_names]
      exact named
    exact names.of_map _
  · have complete := ensured.at_end run
    exact complete.imp fun endpoint entry written => written.frame rfl fun _ => rfl

/-- The context of a create of the sample host with these cards. -/
def sampleContext (cards : List HostNetwork) : CreateContext where
  message := AsciiRuntime.createMessage "dc1-b1" [] []
  instanceData := {}
  hostNetworks := cards
  hostname := "dc1-b1"
  dcName := "DC1"
  instanceId := "u1"
  regionId := some "r1"
  projectId := some "p1"
  cmdbTags := .empty
  resourceCloud := none
  capTenant := none
  readyState := .str defaultReadyState

/-- Two cards under one order number; the second becomes a placeholder. -/
def clashingCards (mac : String) : List HostNetwork :=
  [{ addresses := ["10.0.0.7"], name := some "a", mac := some "m1", order := 1 },
    { addresses := ["10.0.0.9"], name := some "c", mac := some "m2", order := 2 },
    { addresses := ["10.0.0.8"], name := some "b", mac := some mac, order := 1,
      placeholder := true }]

/-- The cards as the message reports them, with two networks under one number. -/
def clashingNetworks (mac : String) : List (String × List AddressEntry) :=
  [("a", [AsciiRuntime.fixedAddress "10.0.0.7" "m1" 1]),
    ("b", [AsciiRuntime.fixedAddress "10.0.0.8" mac 1]),
    ("c", [AsciiRuntime.fixedAddress "10.0.0.9" "m2" 2])]

/-- The request of the placeholder's insert, the seventh call, is lost. -/
def lostPlaceholder : List (Nat × Outcome) := [(6, .fail (.transport "lost") false)]

/-- The script loses a reply of transport. -/
theorem lostPlaceholder_possible (op : service.Op) (world : World) :
    faulty transportFaults op world (world.scripted lostPlaceholder op).1
      (world.scripted lostPlaceholder op).2 :=
  scripted_possible _ (fun _ => trivial)
    (by simp [lostPlaceholder, transportFaults, CallError.isTransport]) op world

/-- The world after the cards of a host with this placeholder. -/
def clashingEnd (mac : String) : World :=
  ((AsciiRuntime.handler.persistNetEndpoints (sampleContext (clashingCards mac)) 0 {}).run
    (World.scripted lostPlaceholder) ⟨AsciiRuntime.registered, []⟩).2

/-- With a mac of its own the placeholder's insert is repeated. -/
theorem cards_recover_own_lost :
    List.Forall₂ (CardWritten (clashingEnd "m3").db True) ((clashingEnd "m3").db.endpointsOf 0)
      ((clashingCards "m3").zip
        (cardPayloads 0 (realNames (clashingCards "m3")) (clashingCards "m3"))) := by
  have own : OwnMacs (clashingCards "m3") := by
    simp [OwnMacs, clashingCards]
  exact (cards_recover_own AsciiRuntime.handler (sampleContext (clashingCards "m3"))
    (clashingNetworks "m3") [] rfl 0 AsciiRuntime.registered ⟨_, List.mem_cons_self, rfl⟩ rfl
    (Or.inr own) {}).2.2 _ (Prog.run_ends lostPlaceholder_possible _ _)

/-- With the mac of an earlier card the placeholder is given that card's endpoint: no
failure is recorded and the host has two endpoints for three cards. -/
theorem placeholder_adopts_other :
    buildHostNetworks (clashingNetworks "m2") [] = .ok (clashingCards "m2") ∧
      Prog.Ends (faulty transportFaults) ⟨AsciiRuntime.registered, []⟩
        (AsciiRuntime.handler.persistNetEndpoints (sampleContext (clashingCards "m2")) 0 {})
        (.ok (), {}) (clashingEnd "m2") ∧
      (clashingEnd "m2").history[7]? = some
        ⟨.cmdb (.endpointSelectOne 0 (.mac (some "m2"))), .ok (some ⟨1, some "bond1"⟩)⟩ ∧
      ((clashingEnd "m2").db.endpointsOf 0).length = 2 ∧ (clashingCards "m2").length = 3 :=
  ⟨rfl, Prog.run_ends lostPlaceholder_possible _ _, rfl, rfl, rfl⟩

end InstanceLifecycle
