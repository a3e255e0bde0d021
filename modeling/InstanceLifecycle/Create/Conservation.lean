import InstanceLifecycle.Create.HostNetworks

/-!
# Where the addresses of a message go

Every fixed address of the message stands on one address card, as often as the message
names it: reading a network, merging it into the holder of its order number, setting it
aside and numbering it move addresses and drop none. A port brings the addresses that no
card carries yet, and is left out if there are none.
-/

namespace InstanceLifecycle

open Store

/-- The address of an entry that counts. Only fixed entries do. -/
def AddressEntry.fixedAddress (entry : AddressEntry) : Option String :=
  if entry.extIpsType = some "fixed" then entry.addr else none

/-- The fixed addresses of a network, in their order and with repetitions. -/
def networkAddresses (entries : List AddressEntry) : List String :=
  entries.filterMap AddressEntry.fixedAddress

/-- The fixed addresses of a message, network by network. -/
def fixedAddresses (addresses : List (String × List AddressEntry)) : List String :=
  addresses.flatMap (fun network => networkAddresses network.2)

/-- The addresses of some cards, card by card. -/
def cardAddresses (cards : List HostNetwork) : List String :=
  cards.flatMap (fun card => card.addresses)

/-! ## Reading a network -/

/-- Reading an entry appends its address if it is a fixed one, and nothing
otherwise; an entry without an address is refused. -/
theorem readEntry_addresses {reading next : Reading} {entry : AddressEntry}
    (read : readEntry reading entry = .ok next) :
    next.card.addresses = reading.card.addresses ++ entry.fixedAddress.toList := by
  rw [readEntry] at read
  rw [AddressEntry.fixedAddress]
  split at read
  · rename_i fixed
    rw [if_pos fixed]
    cases given : entry.addr with
    | none =>
      rw [given] at read
      cases read
    | some addr =>
      rw [given] at read
      cases read
      rfl
  · rename_i other
    cases read
    simp [other]

/-- The card of a network has the fixed addresses of the network. By induction
from the first entry on. -/
theorem readCard_addresses {network : String × List AddressEntry} {reading : Reading}
    (read : readCard network.1 network.2 = .ok reading) :
    reading.card.addresses = networkAddresses network.2 := by
  refine foldlM_prefix (fun earlier state => state.card.addresses = networkAddresses earlier)
    network.2 ?_ _ reading rfl read
  intro earlier state entry next _ held stepped
  rw [readEntry_addresses stepped, held, networkAddresses, networkAddresses,
    List.filterMap_append]
  cases given : entry.fixedAddress <;> simp [given]

/-! ## Placing a card -/

/-- Setting a key brings its value, or exchanges the one that was there for a
longer one. Up to the order, the values together grow by what was added, which
the induction over the entries carries past the others. -/
theorem setEntry_values {κ ν α : Type} [DecidableEq κ] (weight : ν → List α) (key : κ) (value : ν)
    (entries : List (κ × ν)) (distinct : (entries.map Prod.fst).Nodup) (more : List α)
    (grows : ∀ old, (key, old) ∈ entries → weight value = weight old ++ more)
    (brings : key ∉ entries.map Prod.fst → weight value = more) :
    (((setEntry key value entries).map Prod.snd).flatMap weight).Perm
      ((entries.map Prod.snd).flatMap weight ++ more) := by
  induction entries with
  | nil => simp [setEntry, brings (by simp)]
  | cons entry rest ih =>
    rw [List.map_cons, List.nodup_cons] at distinct
    rw [setEntry]
    split
    · rename_i same
      have grown := grows entry.2 (by rw [← same]; exact List.mem_cons_self)
      simp only [List.map_cons, List.flatMap_cons, grown, List.append_assoc]
      exact List.Perm.append_left _ List.perm_append_comm
    · rename_i other
      have later := ih distinct.2 (fun old member => grows old (List.mem_cons_of_mem entry member))
        fun absent => brings (by simp [absent, Ne.symm other])
      simp only [List.map_cons, List.flatMap_cons, List.append_assoc]
      exact later.append_left _

/-- All addresses on the cards read so far, whichever of the three groups the
cards are in. -/
def Grouped.addresses (grouped : Grouped) : List String :=
  cardAddresses grouped.byOrder.values ++ cardAddresses grouped.placeholders ++
    grouped.unordered.flatMap Card.addresses

/-- The card under a number gains addresses, or brings them as the first one. -/
theorem addresses_set (grouped : Grouped) (order : Int) (card : HostNetwork) (more : List String)
    (grows : ∀ old, grouped.byOrder.get? order = some old →
      card.addresses = old.addresses ++ more)
    (brings : grouped.byOrder.get? order = none → card.addresses = more) :
    (Grouped.addresses { grouped with byOrder := grouped.byOrder.set order card }).Perm
      (grouped.addresses ++ more) := by
  have values := setEntry_values (fun card : HostNetwork => card.addresses) order card
    grouped.byOrder.entries grouped.byOrder.distinct more
    (fun old member => grows old ((grouped.byOrder.get?_eq_some_iff order old).mpr member))
    fun absent => brings (by
      have missing := absent
      rw [← Dict.keys, Dict.mem_keys_iff] at missing
      simpa using missing)
  have moved := (values.append_right (cardAddresses grouped.placeholders)).append_right
    (grouped.unordered.flatMap Card.addresses)
  refine moved.trans ?_
  simp only [Grouped.addresses, cardAddresses, Dict.values, List.append_assoc]
  have swapped : (more ++ (cardAddresses grouped.placeholders ++
      grouped.unordered.flatMap Card.addresses)).Perm ((cardAddresses grouped.placeholders ++
      grouped.unordered.flatMap Card.addresses) ++ more) :=
    List.perm_append_comm
  rw [List.append_assoc] at swapped
  exact swapped.append_left _

/-- Placing a card moves its addresses and no others. By cases on where it is
placed; a merge appends them to the card that held the number. -/
theorem Places.addresses {grouped next : Grouped} {reading : Reading}
    (placed : Places grouped reading next) :
    next.addresses.Perm (grouped.addresses ++ reading.card.addresses) := by
  cases placed with
  | waits => simp [Grouped.addresses]
  | holds order _ free =>
    apply addresses_set grouped order
    · intro old present
      rw [free] at present
      cases present
    · exact fun _ => rfl
  | aside =>
    simp only [Grouped.addresses, cardAddresses, List.flatMap_append, List.append_assoc]
    refine List.Perm.append_left _ (List.Perm.append_left _ ?_)
    simpa using List.perm_append_comm
  | merges order clash _ found =>
    apply addresses_set grouped order
    · intro old present
      rw [found] at present
      cases present
      rfl
    · intro absent
      rw [found] at absent
      cases absent

/-- So the cards read have the fixed addresses of the message, as a multiset. -/
theorem groupAddresses_addresses {addresses : List (String × List AddressEntry)}
    {grouped : Grouped} (read : groupAddresses addresses = .ok grouped) :
    grouped.addresses.Perm (fixedAddresses addresses) := by
  refine foldlM_prefix (fun earlier state => state.addresses.Perm (fixedAddresses earlier))
    addresses ?_ _ grouped (List.Perm.refl _) read
  intro earlier state network next _ held stepped
  obtain ⟨reading, card, placed⟩ := placed_reading stepped
  have step := placed.addresses
  rw [readCard_addresses card] at step
  have joined : fixedAddresses (earlier ++ [network]) =
      fixedAddresses earlier ++ networkAddresses network.2 := by
    simp [fixedAddresses]
  rw [joined]
  exact step.trans (held.append_right _)

/-! ## Numbering -/

/-- The cards of the addresses are marked as such. -/
structure FromAddresses (grouped : Grouped) : Prop where
  held : ∀ entry ∈ grouped.byOrder.entries, entry.2.source = .address
  aside : ∀ card ∈ grouped.placeholders, card.source = .address

/-- A card from an address may be put under any number. -/
theorem fromAddresses_set {grouped : Grouped} (sourced : FromAddresses grouped) (order : Int)
    {card : HostNetwork} (source : card.source = .address) :
    FromAddresses { grouped with byOrder := grouped.byOrder.set order card } := by
  refine ⟨?_, sourced.aside⟩
  intro entry member
  rcases mem_setEntry _ _ _ entry member with rfl | old
  · exact source
  · exact sourced.held entry old

/-- Placing a card keeps the marks, by cases on where it is placed. -/
theorem Places.fromAddresses {grouped next : Grouped} {reading : Reading}
    (placed : Places grouped reading next) (sourced : FromAddresses grouped) :
    FromAddresses next := by
  cases placed with
  | waits => exact ⟨sourced.held, sourced.aside⟩
  | holds order => exact fromAddresses_set sourced order rfl
  | aside =>
    refine ⟨sourced.held, ?_⟩
    intro card member
    rcases List.mem_append.mp member with old | new
    · exact sourced.aside card old
    · rw [List.mem_singleton.mp new]
  | merges order clash _ found =>
    have stored := (grouped.byOrder.get?_eq_some_iff order clash).mp found
    have source : clash.source = .address := sourced.held _ stored
    exact fromAddresses_set sourced order source

/-- All cards read from the networks are marked as from addresses. -/
theorem groupAddresses_fromAddresses {addresses : List (String × List AddressEntry)}
    {grouped : Grouped} (read : groupAddresses addresses = .ok grouped) :
    FromAddresses grouped := by
  refine foldlM_keeps FromAddresses addresses ?_ _ grouped ⟨?_, ?_⟩ read
  · intro state sourced network _ next stepped
    obtain ⟨reading, -, placed⟩ := placed_reading stepped
    exact placed.fromAddresses sourced
  · simp [Dict.empty]
  · simp

/-- Numbering changes no address, and every numbered card counts as one from the
addresses of the message. By induction on the cards, with the counter running
along. -/
theorem numberCards_addresses (counter : Int) (cards : List Card) :
    cardAddresses (numberCards counter cards) = cards.flatMap Card.addresses ∧
      ∀ card ∈ numberCards counter cards, card.source = .address := by
  induction cards generalizing counter with
  | nil => simp [numberCards, cardAddresses]
  | cons first rest ih =>
    obtain ⟨same, sourced⟩ := ih (counter + 1)
    rw [numberCards]
    constructor
    · rw [cardAddresses, List.flatMap_cons, List.flatMap_cons]
      exact congrArg (first.addresses ++ ·) same
    · intro card member
      rcases List.mem_cons.mp member with rfl | later
      · rfl
      · exact sourced card later

/-- Sorting and numbering the cards keep all addresses. -/
theorem numberAddressCards_addresses (grouped : Grouped) :
    (cardAddresses (numberAddressCards grouped).cards).Perm grouped.addresses := by
  have sorted := List.perm_insertionSort
    (fun left right : HostNetwork => left.order ≤ right.order) grouped.byOrder.values
  have values := sorted.flatMap_right (fun card : HostNetwork => card.addresses)
  have parts : cardAddresses (numberAddressCards grouped).cards =
      cardAddresses (orderedCards grouped) ++ grouped.unordered.flatMap Card.addresses := by
    rw [← (numberCards_addresses (maxOrder (orderedCards grouped)) grouped.unordered).1]
    exact List.flatMap_append
  rw [parts, orderedCards, cardAddresses, List.flatMap_append]
  exact (values.append_right _).append_right _

/-- And they keep the marks. -/
theorem numberAddressCards_source (grouped : Grouped) (sourced : FromAddresses grouped) :
    ∀ card ∈ (numberAddressCards grouped).cards, card.source = .address := by
  intro card member
  rcases List.mem_append.mp member with ordered | unordered
  · rcases List.mem_append.mp ordered with held | aside
    · have value := (List.perm_insertionSort _ grouped.byOrder.values).mem_iff.mp held
      obtain ⟨entry, stored, rfl⟩ := List.mem_map.mp value
      exact sourced.held entry stored
    · exact sourced.aside card aside
  · exact (numberCards_addresses _ grouped.unordered).2 card unordered

/-! ## Ports -/

/-- Two cards of which one is a port card have no address in common. -/
def PortApart (left right : HostNetwork) : Prop :=
  left.source = .port ∨ right.source = .port → ∀ address ∈ left.addresses,
    address ∉ right.addresses

/-- What holds of the numbering whatever ports were added: the addresses taken
are those on the cards, a card of a port has some, and none of its addresses is
on an earlier card. -/
structure PortsPlaced (numbering : Numbering) : Prop where
  taken : ∀ address, address ∈ numbering.taken ↔ address ∈ cardAddresses numbering.cards
  nonempty : ∀ card ∈ numbering.cards, card.source = .port → card.addresses ≠ []
  apart : numbering.cards.Pairwise PortApart

/-- Before the ports there is no card of a port, so it holds. -/
theorem portsPlaced_start (grouped : Grouped) (sourced : FromAddresses grouped) :
    PortsPlaced (numberAddressCards grouped) := by
  have source := numberAddressCards_source grouped sourced
  constructor
  · exact fun address => Iff.rfl
  · intro card member port
    rw [source card member] at port
    cases port
  · apply List.pairwise_of_forall_mem_list
    rintro left leftMember right rightMember (port | port)
    · rw [source left leftMember] at port
      cases port
    · rw [source right rightMember] at port
      cases port

/-- A card of a port is none of the address cards. -/
theorem addressCards_append (cards : List HostNetwork) (card : HostNetwork)
    (port : card.source = .port) :
    (cards ++ [card]).filter (fun card => decide (card.source = .address)) =
      cards.filter (fun card => decide (card.source = .address)) := by
  simp [List.filter_append, port]

/-- A port keeps the numbering in order and the address cards as they are, and its
addresses are taken afterwards. -/
theorem addPort_placed {numbering next : Numbering} {port : Option ResourceBody}
    (placed : PortsPlaced numbering) (added : addPort numbering port = .ok next) :
    PortsPlaced next ∧
      next.cards.filter (fun card => decide (card.source = .address)) =
        numbering.cards.filter (fun card => decide (card.source = .address)) ∧
      (∀ address ∈ numbering.taken, address ∈ next.taken) ∧
      ∃ body, port = some body ∧ ∀ address ∈ portAddresses body, address ∈ next.taken := by
  obtain ⟨body, fresh, rfl, filtered, ⟨empty, rfl⟩ | ⟨filled, mac, rfl⟩⟩ := addPort_cases added
  · refine ⟨placed, rfl, fun _ held => held, body, rfl, ?_⟩
    intro address listed
    by_contra missing
    have member : address ∈ fresh := by
      rw [filtered]
      exact List.mem_filter.mpr ⟨listed, by simpa using missing⟩
    rw [empty] at member
    cases member
  · refine ⟨⟨?_, ?_, ?_⟩, addressCards_append _ _ rfl, ?_, body, rfl, ?_⟩
    · intro address
      simp only [cardAddresses, List.flatMap_append, List.mem_append, List.flatMap_singleton]
      rw [placed.taken address]
      rfl
    · intro card member port
      rcases List.mem_append.mp member with old | new
      · exact placed.nonempty card old port
      · rw [List.mem_singleton.mp new]
        exact filled
    · refine List.pairwise_append.mpr ⟨placed.apart, List.pairwise_singleton _ _, ?_⟩
      intro left old right new _ address onLeft
      rw [List.mem_singleton.mp new]
      have held : address ∈ numbering.taken :=
        (placed.taken address).mpr (List.mem_flatMap.mpr ⟨left, old, onLeft⟩)
      intro member
      rw [filtered] at member
      exact of_decide_eq_true (List.mem_filter.mp member).2 held
    · exact fun address held => List.mem_append.mpr (Or.inl held)
    · intro address listed
      by_cases held : address ∈ numbering.taken
      · exact List.mem_append.mpr (Or.inl held)
      · refine List.mem_append.mpr (Or.inr ?_)
        rw [filtered]
        exact List.mem_filter.mpr ⟨listed, by simpa using held⟩

/-- The loop over the ports keeps it, leaves the address cards alone and takes
every address of the ports it has passed. -/
theorem addPorts_placed {ports : List (Option ResourceBody)} {start final : Numbering}
    (placed : PortsPlaced start) (folded : ports.foldlM addPort start = .ok final) :
    PortsPlaced final ∧
      final.cards.filter (fun card => decide (card.source = .address)) =
        start.cards.filter (fun card => decide (card.source = .address)) ∧
      ∀ port ∈ ports, ∃ body, port = some body ∧
        ∀ address ∈ portAddresses body, address ∈ final.taken := by
  refine foldlM_prefix (fun earlier state => PortsPlaced state ∧
    state.cards.filter (fun card => decide (card.source = .address)) =
      start.cards.filter (fun card => decide (card.source = .address)) ∧
    ∀ port ∈ earlier, ∃ body, port = some body ∧
      ∀ address ∈ portAddresses body, address ∈ state.taken) ports ?_ start final ?_ folded
  · rintro earlier state port next _ ⟨here, same, ported⟩ stepped
    obtain ⟨there, cards, grows, own⟩ := addPort_placed here stepped
    refine ⟨there, cards.trans same, ?_⟩
    intro other member
    rcases List.mem_append.mp member with old | new
    · obtain ⟨body, given, takes⟩ := ported other old
      exact ⟨body, given, fun address listed => grows address (takes address listed)⟩
    · exact List.mem_singleton.mp new ▸ own
  · exact ⟨placed, rfl, by simp⟩

/-! ## All cards -/

/-- The address cards carry the fixed addresses of the message as often as it names them,
every address of a port is on a card, and a port card has addresses that no other card has. -/
structure Conserves (addresses : List (String × List AddressEntry))
    (ports : List (Option ResourceBody)) (cards : List HostNetwork) : Prop where
  fixed : (cardAddresses (cards.filter (fun card => decide (card.source = .address)))).Perm
    (fixedAddresses addresses)
  ported : ∀ port ∈ ports, ∃ body, port = some body ∧
    ∀ address ∈ portAddresses body, ∃ card ∈ cards, address ∈ card.addresses
  nonempty : ∀ card ∈ cards, card.source = .port → card.addresses ≠ []
  apart : cards.Pairwise PortApart

/-- Reading the cards of a message neither loses nor repeats addresses: the
networks' addresses are grouped, then numbered, and each port adds those that no
card carries yet. -/
theorem host_networks_conserve (addresses : List (String × List AddressEntry))
    (ports : List (Option ResourceBody)) (cards : List HostNetwork)
    (built : buildHostNetworks addresses ports = .ok cards) :
    Conserves addresses ports cards := by
  obtain ⟨grouped, numbering, read, folded, rfl⟩ := buildHostNetworks_runs built
  have sourced := groupAddresses_fromAddresses read
  obtain ⟨placed, cards, ported⟩ := addPorts_placed (portsPlaced_start grouped sourced) folded
  constructor
  · have all : (numberAddressCards grouped).cards.filter
        (fun card => decide (card.source = .address)) = (numberAddressCards grouped).cards :=
      List.filter_eq_self.mpr fun card member =>
        decide_eq_true (numberAddressCards_source grouped sourced card member)
    rw [cards, all]
    exact (numberAddressCards_addresses grouped).trans (groupAddresses_addresses read)
  · intro port member
    obtain ⟨body, given, takes⟩ := ported port member
    refine ⟨body, given, ?_⟩
    intro address listed
    exact List.mem_flatMap.mp ((placed.taken address).mp (takes address listed))
  · exact placed.nonempty
  · exact placed.apart

/-- Three networks under one number, of which the second is set aside and the third is
merged, one network without a number, and a port that shares an address with the first. -/
def mixedNetworks : List (String × List AddressEntry) :=
  [("n1", [⟨some "fixed", some "10.0.0.1", .value "m1", .value 1⟩,
      ⟨some "floating", some "10.0.0.9", .absent, .absent⟩]),
    ("n2", [⟨some "fixed", some "10.0.0.2", .value "m2", .value 1⟩]),
    ("n3", [⟨some "fixed", some "10.0.0.1", .absent, .value 1⟩]),
    ("n4", [⟨some "fixed", some "10.0.0.4", .absent, .null⟩])]

/-- A port with one address that is taken and one that is new. -/
def mixedPorts : List (Option ResourceBody) :=
  [some { macAddress := .value "m5", fixedIps := .value [⟨some "10.0.0.1"⟩, ⟨some "10.0.0.5"⟩] }]

/-- The cards that come of the networks and that port. -/
def mixedCards : List HostNetwork :=
  [{ addresses := ["10.0.0.1", "10.0.0.1"], name := some "n1", mac := some "m1", order := 1 },
    { addresses := ["10.0.0.2"], name := some "n2", mac := some "m2", order := 1,
      placeholder := true },
    { addresses := ["10.0.0.4"], name := some "n4", order := 2 },
    { addresses := ["10.0.0.5"], mac := some "m5", order := 3, source := .port }]

/-- The conservation for that message, whose networks share numbers and repeat
an address. -/
theorem host_networks_conserve_mixed : Conserves mixedNetworks mixedPorts mixedCards :=
  host_networks_conserve mixedNetworks mixedPorts mixedCards rfl

end InstanceLifecycle
