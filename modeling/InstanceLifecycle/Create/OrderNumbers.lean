import InstanceLifecycle.Create.Conservation
import InstanceLifecycle.Handler.Create

/-!
# Who holds an order number

The real cards come in three runs: those under a number that a network reported, those of
the networks without one, and those of the ports. A placeholder shares its number with one
card of the first run. That card has a mac of its own from the moment the placeholder is set
aside, so no later merge can give it another.
-/

namespace InstanceLifecycle

open Store InstanceHandler

/-! ## The number of a network -/

/-- The entry counts and says what the number is, be it null. -/
def AddressEntry.numbered (entry : AddressEntry) : Bool :=
  decide (entry.extIpsType = some "fixed") && entry.macAddrOrderNum.present

/-- The number a network reports is that of the last entry to say one. -/
def reportedOrder (network : String × List AddressEntry) : Option Int :=
  (network.2.filter AddressEntry.numbered).getLast?.bind (fun entry => entry.macAddrOrderNum.get)

/-- A network keeps its name and reports the number it is placed by. -/
theorem readCard_reported {network : String × List AddressEntry} {reading : Reading}
    (read : readCard network.1 network.2 = .ok reading) :
    reading.order = reportedOrder network ∧ reading.card.name = some network.1 := by
  refine foldlM_prefix (fun earlier state => state.order = reportedOrder (network.1, earlier) ∧
    state.card.name = some network.1) network.2 ?_ _ reading ⟨rfl, rfl⟩ read
  rintro earlier state entry next _ ⟨order, name⟩ stepped
  rw [readEntry] at stepped
  by_cases fixed : entry.extIpsType = some "fixed"
  · rw [if_pos fixed] at stepped
    cases given : entry.addr with
    | none =>
      rw [given] at stepped
      cases stepped
    | some addr =>
      rw [given] at stepped
      cases stepped
      refine ⟨?_, name⟩
      cases said : entry.macAddrOrderNum.present with
      | true => simp [reportedOrder, AddressEntry.numbered, fixed, said]
      | false => simpa [reportedOrder, AddressEntry.numbered, fixed, said] using order
  · rw [if_neg fixed] at stepped
    cases stepped
    exact ⟨by simpa [reportedOrder, AddressEntry.numbered, fixed] using order, name⟩

/-! ## Networks with a number and without -/

/-- The networks so far that report no number. -/
def unnumbered (addresses : List (String × List AddressEntry)) : List String :=
  (addresses.filter (fun network => (reportedOrder network).isNone)).map Prod.fst

/-- The numbers held are those reported; the other networks wait in their order. -/
structure Sorted (addresses : List (String × List AddressEntry)) (grouped : Grouped) : Prop where
  reported : ∀ order, order ∈ grouped.byOrder.keys ↔ order ∈ addresses.filterMap reportedOrder
  waiting : grouped.unordered.map Card.name = (unnumbered addresses).map some

section Step

variable {earlier : List (String × List AddressEntry)} {grouped next : Grouped}
  {network : String × List AddressEntry} {reading : Reading}

/-- The number of one more network is held, and no network more waits. -/
theorem Sorted.number (sorted : Sorted earlier grouped) {number : Int}
    (order : reportedOrder network = some number) :
    (∀ other, other ∈ (earlier ++ [network]).filterMap reportedOrder ↔
      other = number ∨ other ∈ grouped.byOrder.keys) ∧
    unnumbered (earlier ++ [network]) = unnumbered earlier := by
  constructor
  · intro other
    rw [List.filterMap_append, List.mem_append, ← sorted.reported other, or_comm]
    simp [order]
  · simp [unnumbered, order]

/-- A network with a number joins the counted ones, and those that wait are as
they were. -/
theorem Sorted.set (sorted : Sorted earlier grouped) {number : Int}
    (order : reportedOrder network = some number) (card : HostNetwork) :
    Sorted (earlier ++ [network])
      { grouped with byOrder := grouped.byOrder.set number card } := by
  obtain ⟨counted, left⟩ := sorted.number order
  refine ⟨?_, left ▸ sorted.waiting⟩
  intro other
  rw [counted, Dict.mem_keys_set]

/-- One step of the loop puts the network just read where its number says, so
the networks read by now stay sorted. -/
theorem Places.sorted (placed : Places grouped reading next)
    (read : readCard network.1 network.2 = .ok reading) (sorted : Sorted earlier grouped) :
    Sorted (earlier ++ [network]) next := by
  obtain ⟨order, name⟩ := readCard_reported read
  cases placed with
  | waits unordered =>
    rw [unordered] at order
    constructor
    · intro number
      rw [sorted.reported number, List.filterMap_append]
      simp [← order]
    · rw [unnumbered, List.filter_append, List.map_append, List.map_append, List.map_append,
        sorted.waiting]
      simp [← order, name, unnumbered]
  | holds number ordered => exact sorted.set (order.symm.trans ordered) _
  | aside number clash ordered found =>
    obtain ⟨counted, left⟩ := sorted.number (order.symm.trans ordered)
    have stored := (grouped.byOrder.get?_eq_some_iff number clash).mp found
    have present : number ∈ grouped.byOrder.keys := List.mem_map_of_mem stored
    refine ⟨?_, left ▸ sorted.waiting⟩
    intro other
    rw [counted]
    constructor
    · exact Or.inr
    · rintro (rfl | held)
      · exact present
      · exact held
  | merges number clash ordered => exact sorted.set (order.symm.trans ordered) _

end Step

/-- The loop over the networks sorts them: those with a number by it, the others
in the order of the message. The induction is on the part of the list that has
been read. -/
theorem groupAddresses_sorted {addresses : List (String × List AddressEntry)} {grouped : Grouped}
    (read : groupAddresses addresses = .ok grouped) : Sorted addresses grouped := by
  refine foldlM_prefix Sorted addresses ?_ _ grouped ⟨by simp [Dict.empty, Dict.keys], rfl⟩ read
  intro earlier state network next _ sorted stepped
  obtain ⟨reading, card, placed⟩ := placed_reading stepped
  exact placed.sorted card sorted

/-! ## Placeholders -/

/-- The number of the card is held by a card of another mac. -/
structure HeldBy (byOrder : Dict Int HostNetwork) (card holder : HostNetwork) : Prop where
  own : truthy card.mac = true
  held : byOrder.get? card.order = some holder
  known : truthy holder.mac = true
  other : holder.mac ≠ card.mac

/-- Every card set aside has its holder. -/
def Accompanied (grouped : Grouped) : Prop :=
  ∀ card ∈ grouped.placeholders, ∃ holder, HeldBy grouped.byOrder card holder

/-- What is written under a number keeps the companions of the placeholders if
it keeps a mac that stood there, since a placeholder is told from its holder by
the mac alone. -/
theorem accompanied_set {grouped : Grouped} (accompanied : Accompanied grouped) (number : Int)
    (value : HostNetwork)
    (keeps : ∀ holder, grouped.byOrder.get? number = some holder → truthy holder.mac = true →
      value.mac = holder.mac) :
    Accompanied { grouped with byOrder := grouped.byOrder.set number value } := by
  intro card member
  obtain ⟨holder, own, held, known, other⟩ := accompanied card member
  by_cases same : card.order = number
  · rw [same] at held
    have mac := keeps holder held known
    refine ⟨value, own, ?_, mac ▸ known, mac ▸ other⟩
    rw [Dict.get?_set, if_pos same]
  · refine ⟨holder, own, ?_, known, other⟩
    rw [Dict.get?_set, if_neg same]
    exact held

/-- One step of the loop keeps the companions of every placeholder: a card
changes its number for another only when a card with that number is there. -/
theorem Places.accompanied {grouped next : Grouped} {reading : Reading}
    (placed : Places grouped reading next) (accompanied : Accompanied grouped) :
    Accompanied next := by
  cases placed with
  | waits => exact accompanied
  | holds number _ free =>
    apply accompanied_set accompanied
    intro holder held
    rw [free] at held
    cases held
  | aside number clash _ found clashing =>
    rw [clashes, Bool.and_eq_true, Bool.and_eq_true, decide_eq_true_eq] at clashing
    obtain ⟨⟨known, own⟩, other⟩ := clashing
    intro card member
    rcases List.mem_append.mp member with old | new
    · exact accompanied card old
    · rw [List.mem_singleton.mp new]
      exact ⟨clash, own, found, known, other⟩
  | merges number clash _ found =>
    apply accompanied_set accompanied
    intro holder held known
    cases found.symm.trans held
    exact if_pos known

/-- Every placeholder that the loop leaves shares its number with a card that is
held, from the empty grouping by one step for each network. -/
theorem groupAddresses_accompanied {addresses : List (String × List AddressEntry)}
    {grouped : Grouped} (read : groupAddresses addresses = .ok grouped) :
    Accompanied grouped := by
  refine foldlM_keeps Accompanied addresses ?_ _ grouped ?_ read
  · intro state accompanied network _ next stepped
    obtain ⟨reading, -, placed⟩ := placed_reading stepped
    exact placed.accompanied accompanied
  · intro card member
    cases member

/-! ## The cards of a message -/

/-- The cards kept under a number, sorted by it. -/
def heldCards (grouped : Grouped) : List HostNetwork :=
  grouped.byOrder.values.insertionSort (fun left right => left.order ≤ right.order)

/-- Sorting the held cards by their number neither adds nor drops one. -/
theorem mem_heldCards {grouped : Grouped} {card : HostNetwork} :
    card ∈ heldCards grouped ↔ card ∈ grouped.byOrder.values :=
  (List.perm_insertionSort _ grouped.byOrder.values).mem_iff

/-- The networks without a number, numbered. -/
def laterCards (grouped : Grouped) : List HostNetwork :=
  numberCards (maxOrder (orderedCards grouped)) grouped.unordered

/-- Numbering the cards that wait leaves their names alone. -/
theorem numberCards_names (counter : Int) (cards : List Card) :
    (numberCards counter cards).map (fun card => card.name) = cards.map Card.name := by
  induction cards generalizing counter with
  | nil => rfl
  | cons first rest ih =>
    rw [numberCards, List.map_cons, List.map_cons, ih]

/-- The real cards come in three runs, those with a number of their own, those
numbered after them and those of ports; every placeholder comes from the
grouping. Read off from the steps of the code. -/
theorem buildHostNetworks_parts {addresses : List (String × List AddressEntry)}
    {ports : List (Option ResourceBody)} {cards : List HostNetwork}
    (built : buildHostNetworks addresses ports = .ok cards) :
    ∃ grouped fromPorts, groupAddresses addresses = .ok grouped ∧
      cards.filter (fun card => !card.placeholder) =
        heldCards grouped ++ laterCards grouped ++ fromPorts ∧
      (∀ card ∈ fromPorts, card.source = .port) ∧
      ∀ card ∈ cards, card.placeholder = true → card ∈ grouped.placeholders := by
  obtain ⟨grouped, numbering, read, folded, rfl⟩ := buildHostNetworks_runs built
  obtain ⟨fromPorts, cards, above⟩ := addPorts_append folded
  have keyed := groupAddresses_keyed addresses grouped read
  have later : ∀ card ∈ laterCards grouped, card.placeholder = false := fun card member =>
    ((numberCards_continue _ grouped.unordered).2 card member).1
  refine ⟨grouped, fromPorts, read, ?_, fun card member => (above card member).1, ?_⟩
  · have realLater : (laterCards grouped).filter (fun card => !card.placeholder) =
        laterCards grouped :=
      List.filter_eq_self.mpr fun card member => by simp [later card member]
    have realPorts : fromPorts.filter (fun card => !card.placeholder) = fromPorts :=
      List.filter_eq_self.mpr fun card member => by simp [(above card member).2.1]
    have parts : (numberAddressCards grouped).cards = orderedCards grouped ++ laterCards grouped :=
      rfl
    rw [cards, parts, List.filter_append, List.filter_append, realPorts, realLater,
      orderedCards_real grouped keyed, heldCards]
  · intro card member aside
    rw [cards] at member
    rcases List.mem_append.mp member with numbered | fromPort
    · rcases List.mem_append.mp numbered with ordered | waiting
      · rcases List.mem_append.mp ordered with held | placeholder
        · obtain ⟨entry, stored, rfl⟩ := List.mem_map.mp (mem_heldCards.mp held)
          rw [keyed.real entry stored] at aside
          cases aside
        · exact placeholder
      · rw [later card waiting] at aside
        cases aside
    · rw [(above card fromPort).2.1] at aside
      cases aside

/-- The real cards under one number. -/
def holders (cards : List HostNetwork) (order : Int) : List HostNetwork :=
  cards.filter (fun other => decide (other.order = order) && !other.placeholder)

/-- A real card holds its number alone. -/
theorem holders_alone {cards : List HostNetwork} (increasing : Increasing cards)
    {holder : HostNetwork} (real : holder ∈ cards.filter (fun card => !card.placeholder)) :
    holders cards holder.order = [holder] := by
  have distinct : ((cards.filter (fun card => !card.placeholder)).map HostNetwork.order).Nodup :=
    List.pairwise_map.mpr (increasing.imp ne_of_lt)
  rw [holders, ← List.filter_filter]
  exact filter_own_key HostNetwork.order distinct real

/-- A real card is named after its number, whatever names are taken. The numbers
increase, and equal names would print equal numbers. -/
theorem realName_apart {cards : List HostNetwork} (increasing : Increasing cards) :
    (cards.filter (fun card => !card.placeholder)).Pairwise (fun left right =>
      ∀ taken later, endpointName taken left ≠ endpointName later right) := by
  have named : ∀ card ∈ cards.filter (fun card => !card.placeholder), ∀ taken,
      endpointName taken card = "bond" ++ toString (card.order - 1) := by
    intro card member taken
    have real : card.placeholder = false := by simpa using (List.mem_filter.mp member).2
    simp [endpointName, real]
  refine List.Pairwise.imp_of_mem ?_ increasing
  intro left right leftReal rightReal less taken later same
  rw [named left leftReal, named right rightReal] at same
  have equal := orderName_injective same
  omega

/-- Real cards stand in three runs by increasing numbers, and a placeholder shares its number
with one of them. -/
structure OrderNumbers (addresses : List (String × List AddressEntry))
    (cards : List HostNetwork) : Prop where
  increasing : Increasing cards
  runs : ∃ reported waiting fromPorts,
    cards.filter (fun card => !card.placeholder) = reported ++ waiting ++ fromPorts ∧
      (∀ order, order ∈ reported.map HostNetwork.order ↔
        order ∈ addresses.filterMap reportedOrder) ∧
      waiting.map (fun card => card.name) = (unnumbered addresses).map some ∧
      (∀ card ∈ reported ++ waiting, card.source = .address) ∧
      ∀ card ∈ fromPorts, card.source = .port
  names : (cards.filter (fun card => !card.placeholder)).Pairwise (fun left right =>
    ∀ taken later, endpointName taken left ≠ endpointName later right)
  shared : ∀ card ∈ cards, card.placeholder = true → truthy card.mac = true ∧
    ∃ holder, holders cards card.order = [holder] ∧ truthy holder.mac = true ∧
      holder.mac ≠ card.mac

/-- The order numbers of the cards of a message. The three runs of real cards
are numbered by the message, then from the highest on, and every placeholder
shares its number with a real card that has another mac. -/
theorem host_networks_numbered (addresses : List (String × List AddressEntry))
    (ports : List (Option ResourceBody)) (cards : List HostNetwork)
    (built : buildHostNetworks addresses ports = .ok cards) : OrderNumbers addresses cards := by
  have increasing := buildHostNetworks_increasing addresses ports cards built
  obtain ⟨grouped, fromPorts, read, parts, ported, aside⟩ := buildHostNetworks_parts built
  have keyed := groupAddresses_keyed addresses grouped read
  have sorted := groupAddresses_sorted read
  have sourced := groupAddresses_fromAddresses read
  refine ⟨increasing, ⟨heldCards grouped, laterCards grouped, fromPorts, parts, ?_, ?_, ?_, ported⟩,
    realName_apart increasing, ?_⟩
  · intro order
    rw [← sorted.reported order, ← keyed_numbers keyed, List.mem_map, List.mem_map]
    simp only [mem_heldCards]
  · rw [laterCards, numberCards_names, sorted.waiting]
  · intro card member
    apply numberAddressCards_source grouped sourced
    rcases List.mem_append.mp member with held | waiting
    · exact List.mem_append_left _ (List.mem_append_left _ held)
    · exact List.mem_append_right _ waiting
  · intro card member placeholder
    obtain ⟨holder, own, held, known, other⟩ :=
      groupAddresses_accompanied read card (aside card member placeholder)
    have stored := (grouped.byOrder.get?_eq_some_iff card.order holder).mp held
    have number : holder.order = card.order := keyed.orders _ stored
    have real : holder ∈ cards.filter (fun card => !card.placeholder) := by
      have value : holder ∈ heldCards grouped :=
        mem_heldCards.mpr (List.mem_map.mpr ⟨_, stored, rfl⟩)
      rw [parts, List.append_assoc]
      exact List.mem_append_left _ value
    exact ⟨own, holder, number ▸ holders_alone increasing real, known, other⟩

/-- Networks with numbers and without, two of them under one number: the result
above at a concrete message. -/
theorem host_networks_numbered_mixed : OrderNumbers mixedNetworks mixedCards :=
  host_networks_numbered mixedNetworks mixedPorts mixedCards rfl

/-- The first network has no mac when the second is merged into it. From then on it has one,
and the third is set aside. -/
example : (buildHostNetworks
    [("n1", [⟨some "fixed", some "10.0.0.1", .absent, .value (-2)⟩]),
      ("n2", [⟨some "fixed", some "10.0.0.2", .value "m2", .value (-2)⟩]),
      ("n3", [⟨some "fixed", some "10.0.0.3", .value "m3", .value (-2)⟩]),
      ("n4", [⟨some "fixed", some "10.0.0.4", .absent, .absent⟩])] []).map
        (List.map (fun card => (card.order, card.mac, card.placeholder))) =
    .ok [(-2, some "m2", false), (-2, some "m3", true), (-1, none, false)] := by
  rfl

end InstanceLifecycle
