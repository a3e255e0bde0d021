import InstanceLifecycle.Create.Conservation
import InstanceLifecycle.Handler.AsciiRuntime
import Mathlib.Data.List.Flatten

/-!
# The same card seen twice

Under one order number the first network with a mac decides: later ones with another mac are
set aside one by one, and all the rest are merged. So two networks of one card end up on one
card unless they were both set aside.
-/

namespace InstanceLifecycle

open Store

/-- The order number and the mac of a network, by its first fixed entry. -/
def networkKey (network : String × List AddressEntry) : Option (Int × String) :=
  (network.2.find? (fun entry => entry.extIpsType = some "fixed")).bind (fun entry =>
    entry.macAddrOrderNum.get.bind (fun order =>
      entry.macAddr.get.map (fun mac => (order, mac))))

/-- All fixed entries of the network carry one mac and one order number. -/
def OneMac (network : String × List AddressEntry) : Prop :=
  ∀ entry ∈ network.2, entry.extIpsType = some "fixed" → ∃ order mac,
    networkKey network = some (order, mac) ∧ entry.macAddr = .value mac ∧
      entry.macAddrOrderNum = .value order

/-! ## Networks under one number -/

/-- A network as it counts under its order number: its mac and its addresses. -/
abbrev Sighting := String × List String

/-- The first mac that is not empty: the one the holder of the number ends up
with. -/
def holderMac (seen : List Sighting) : Option String :=
  (seen.map Prod.fst).find? (fun mac => mac ≠ "")

/-- Is the network merged into the holder of the number? -/
def fits (holder : Option String) (sighting : Sighting) : Bool :=
  decide (sighting.1 = "") || decide (holder = some sighting.1)

/-- The addresses of the holder, once all networks are placed. -/
def mergedAddresses (seen : List Sighting) : List String :=
  (seen.filter (fits (holderMac seen))).flatMap Prod.snd

/-- The macs of the networks set aside, with repetitions. -/
def asideMacs (seen : List Sighting) : List String :=
  (seen.filter (fun sighting => !fits (holderMac seen) sighting)).map Prod.fst

/-- One network more gives the holder its mac, if it has none yet. -/
theorem holderMac_append (seen : List Sighting) (sighting : Sighting) :
    holderMac (seen ++ [sighting]) =
      (holderMac seen).or (if sighting.1 = "" then none else some sighting.1) := by
  rw [holderMac, List.map_append, List.find?_append, holderMac]
  by_cases empty : sighting.1 = ""
  · simp [empty]
  · simp [empty]

/-- A later network changes nothing for the earlier ones: it becomes the holder only if none
of them has a mac. -/
theorem fits_append {seen : List Sighting} (later : Sighting) {sighting : Sighting}
    (member : sighting ∈ seen) :
    fits (holderMac (seen ++ [later])) sighting = fits (holderMac seen) sighting := by
  rw [holderMac_append]
  cases holder : holderMac seen with
  | some mac => rfl
  | none =>
    rw [holderMac, List.find?_eq_none] at holder
    have empty := holder sighting.1 (List.mem_map_of_mem member)
    simp only [ne_eq, decide_not, Bool.not_eq_true', decide_eq_false_iff_not, not_not] at empty
    simp [fits, empty]

/-- The new network fits if no other has a mac, or it has none, or it has that of the holder. -/
theorem fits_new (seen : List Sighting) (sighting : Sighting) :
    fits (holderMac (seen ++ [sighting])) sighting =
      ((holderMac seen).isNone || fits (holderMac seen) sighting) := by
  rw [holderMac_append]
  by_cases empty : sighting.1 = ""
  · simp [fits, empty]
  · cases holder : holderMac seen with
    | none => simp [fits, empty]
    | some mac => simp [fits]

/-- One network more is merged if it fits, or if the holder has no mac yet. -/
theorem mergedAddresses_append (seen : List Sighting) (sighting : Sighting) :
    mergedAddresses (seen ++ [sighting]) = mergedAddresses seen ++
      if (holderMac seen).isNone || fits (holderMac seen) sighting then sighting.2 else [] := by
  have same : seen.filter (fits (holderMac (seen ++ [sighting]))) =
      seen.filter (fits (holderMac seen)) :=
    List.filter_congr fun other member => fits_append sighting member
  rw [mergedAddresses, List.filter_append, same, List.flatMap_append, List.filter_singleton,
    fits_new, mergedAddresses]
  cases (holderMac seen).isNone || fits (holderMac seen) sighting <;> simp

/-- Otherwise it is set aside. -/
theorem asideMacs_append (seen : List Sighting) (sighting : Sighting) :
    asideMacs (seen ++ [sighting]) = asideMacs seen ++
      if (holderMac seen).isNone || fits (holderMac seen) sighting then [] else [sighting.1] := by
  have same : seen.filter (fun other => !fits (holderMac (seen ++ [sighting])) other) =
      seen.filter (fun other => !fits (holderMac seen) other) := by
    apply List.filter_congr
    intro other member
    rw [fits_append sighting member]
  rw [asideMacs, List.filter_append, same, List.map_append, List.filter_singleton, fits_new,
    asideMacs]
  cases (holderMac seen).isNone || fits (holderMac seen) sighting <;> simp

/-- What is set aside is not the holder. -/
theorem asideMacs_other {seen : List Sighting} {mac : String} (aside : mac ∈ asideMacs seen) :
    mac ≠ "" ∧ holderMac seen ≠ some mac := by
  obtain ⟨sighting, member, rfl⟩ := List.mem_map.mp aside
  have apart := (List.mem_filter.mp member).2
  simp only [fits, Bool.not_eq_true', Bool.or_eq_false_iff, decide_eq_false_iff_not] at apart
  exact apart

/-- The networks under an order number, in the order of the message. -/
def sightings (order : Int) (addresses : List (String × List AddressEntry)) : List Sighting :=
  addresses.filterMap (fun network => (networkKey network).bind (fun key =>
    if key.1 = order then some (key.2, networkAddresses network.2) else none))

/-- One network more is seen under its own number. -/
theorem sightings_append (order : Int) (addresses : List (String × List AddressEntry))
    (network : String × List AddressEntry) :
    sightings order (addresses ++ [network]) = sightings order addresses ++
      ((networkKey network).bind (fun key =>
        if key.1 = order then some (key.2, networkAddresses network.2) else none)).toList := by
  rw [sightings, List.filterMap_append, sightings]
  cases counted : (networkKey network).bind (fun key =>
      if key.1 = order then some (key.2, networkAddresses network.2) else none) <;> simp [counted]

/-! ## Reading and placing -/

/-- What has been read of a network whose fixed entries carry one key. -/
def ReadAs (network : String × List AddressEntry) (earlier : List AddressEntry)
    (reading : Reading) : Prop :=
  if earlier.any (fun entry => entry.extIpsType = some "fixed") then
    ∃ order mac, networkKey network = some (order, mac) ∧ reading.order = some order ∧
      reading.card.mac = some mac
  else reading.order = none

/-- The card of a network carries its number and its mac, if the network reports
one mac. -/
theorem readCard_key {network : String × List AddressEntry} {reading : Reading}
    (uniform : OneMac network) (read : readCard network.1 network.2 = .ok reading) :
    match networkKey network with
    | none => reading.order = none
    | some key => reading.order = some key.1 ∧ reading.card.mac = some key.2 := by
  have start : ReadAs network [] ⟨{ addresses := [], name := some network.1 }, none⟩ := by
    simp [ReadAs]
  have held : ReadAs network network.2 reading := by
    refine foldlM_prefix (ReadAs network) network.2 ?_ _ reading start read
    intro earlier state entry next member held stepped
    rw [ReadAs, List.any_append, List.any_cons, List.any_nil, Bool.or_false]
    rw [readEntry] at stepped
    by_cases fixed : entry.extIpsType = some "fixed"
    · obtain ⟨order, mac, key, macAddr, orderNum⟩ := uniform entry member fixed
      rw [if_pos fixed] at stepped
      cases given : entry.addr with
      | none =>
        rw [given] at stepped
        cases stepped
      | some addr =>
        rw [given] at stepped
        cases stepped
        rw [if_pos (by simp [fixed])]
        refine ⟨order, mac, key, ?_, ?_⟩
        · simp [orderNum, Slot.present, Slot.get]
        · simp [macAddr, Slot.present, Slot.get]
    · rw [if_neg fixed] at stepped
      cases stepped
      simpa [fixed, ReadAs] using held
  cases key : networkKey network with
  | none =>
    rw [ReadAs] at held
    split at held
    · obtain ⟨order, mac, named, -⟩ := held
      rw [key] at named
      cases named
    · exact held
  | some pair =>
    obtain ⟨entry, found, -⟩ := Option.bind_eq_some_iff.mp key
    have fixed := List.find?_some found
    have counted : network.2.any (fun entry => entry.extIpsType = some "fixed") = true :=
      List.any_eq_true.mpr ⟨entry, List.mem_of_find?_eq_some found, fixed⟩
    rw [ReadAs, if_pos counted] at held
    obtain ⟨order, mac, named, hasOrder, hasMac⟩ := held
    rw [key] at named
    cases named
    exact ⟨hasOrder, hasMac⟩

/-- What the networks under an order number have left: the holder with what was
merged, and the placeholders. -/
structure PlacedUnder (grouped : Grouped) (order : Int) (seen : List Sighting) : Prop where
  held : match grouped.byOrder.get? order with
    | none => seen = []
    | some holder => seen ≠ [] ∧ holder.addresses = mergedAddresses seen ∧
        holderMac seen = if truthy holder.mac then holder.mac else none
  aside : (grouped.placeholders.filter (fun card => decide (card.order = order))).map
    (fun card => card.mac) = (asideMacs seen).map some

/-- A network clashes with the holder exactly if it does not fit it. By the macs
of the two: one that is unknown or empty fits, and two known ones have to agree.
-/
theorem clashes_fits {seen : List Sighting} {clash : HostNetwork} {card : Card} {mac : String}
    (holder : holderMac seen = if truthy clash.mac then clash.mac else none)
    (own : card.mac = some mac) :
    clashes clash card =
      !((holderMac seen).isNone || fits (holderMac seen) (mac, card.addresses)) := by
  rw [clashes, holder, own]
  cases known : clash.mac with
  | none => simp [truthy]
  | some held =>
    by_cases empty : held = ""
    · simp [truthy, empty]
    · by_cases missing : mac = ""
      · simp [truthy, empty, missing, fits]
      · simp [truthy, empty, missing, fits]

section Step

variable {grouped next : Grouped} {reading : Reading} {order number : Int} {mac : String}
  {seen : List Sighting}

/-- A card under another number changes nothing. -/
theorem PlacedUnder.set (under : PlacedUnder grouped order seen) (apart : order ≠ number)
    (card : HostNetwork) :
    PlacedUnder { grouped with byOrder := grouped.byOrder.set number card } order seen := by
  refine ⟨?_, under.aside⟩
  have held := under.held
  simp only [Dict.get?_set, if_neg apart]
  exact held

/-- What is known under one number stays when a network with another number is
placed. By the placement, none of which touches an entry under a further key. -/
theorem Places.under_other (placed : Places grouped reading next)
    (under : PlacedUnder grouped order seen) (other : reading.order ≠ some order) :
    PlacedUnder next order seen := by
  have apart : ∀ number, reading.order = some number → order ≠ number := by
    rintro number ordered rfl
    exact other ordered
  cases placed with
  | waits => exact ⟨under.held, under.aside⟩
  | holds number ordered => exact under.set (apart number ordered) _
  | aside number clash ordered =>
    refine ⟨under.held, ?_⟩
    rw [List.filter_append, List.filter_singleton]
    simp [(apart number ordered).symm, under.aside]
  | merges number clash ordered => exact under.set (apart number ordered) _

/-- A network with this number becomes the next sighting under it. By the
placement: it is the holder where the number was free, joins the holder it fits,
and is set aside otherwise. -/
theorem Places.under_own (placed : Places grouped reading next)
    (under : PlacedUnder grouped order seen) (ordered : reading.order = some order)
    (own : reading.card.mac = some mac) :
    PlacedUnder next order (seen ++ [(mac, reading.card.addresses)]) := by
  obtain ⟨held, aside⟩ := under
  cases placed with
  | waits unordered =>
    rw [unordered] at ordered
    cases ordered
  | holds number given free =>
    cases given.symm.trans ordered
    rw [free] at held
    subst held
    constructor
    · simp only [Dict.get?_set, if_true]
      refine ⟨by simp, by simp [mergedAddresses, holderMac, fits], ?_⟩
      rw [holderMac_append, own]
      by_cases empty : mac = ""
      · simp [holderMac, truthy, empty]
      · simp [holderMac, truthy, empty]
    · rw [aside, asideMacs_append]
      simp [holderMac]
  | aside number clash given found clashing =>
    cases given.symm.trans ordered
    rw [found] at held
    obtain ⟨-, addresses, holder⟩ := held
    have same := clashes_fits holder own
    rw [clashing, eq_comm, Bool.not_eq_true'] at same
    have filled : (holderMac seen).isNone = false := (Bool.or_eq_false_iff.mp same).1
    constructor
    · simp only [found]
      refine ⟨by simp, ?_, ?_⟩
      · rw [mergedAddresses_append, same, addresses]
        simp
      · rw [holderMac_append, ← holder]
        cases known : holderMac seen with
        | none =>
          rw [known] at filled
          cases filled
        | some held => rfl
    · rw [asideMacs_append, same, List.filter_append, List.map_append, aside]
      simp [own]
  | merges number clash given found fitting =>
    cases given.symm.trans ordered
    rw [found] at held
    obtain ⟨-, addresses, holder⟩ := held
    have same := clashes_fits holder own
    rw [fitting, eq_comm, Bool.not_eq_false'] at same
    constructor
    · simp only [Dict.get?_set, if_true]
      refine ⟨by simp, ?_, ?_⟩
      · rw [mergedAddresses_append, same, mergeCards, addresses]
        simp
      · rw [holderMac_append, holder, mergeCards, own]
        by_cases known : truthy clash.mac = true
        · obtain ⟨text, named, -⟩ := (truthy_iff _).mp known
          simp [named, named ▸ known]
        · have missing : truthy clash.mac = false := by simpa using known
          have filled : truthy (some mac) = decide (mac ≠ "") := rfl
          by_cases empty : mac = ""
          · have blank : truthy (some "") = false := rfl
            simp [missing, empty, blank]
          · simp [missing, filled, empty]
    · rw [asideMacs_append, same, aside]
      simp

end Step

/-- After all networks the cards under a number are those of its sightings. By
induction from the first network on. -/
theorem groupAddresses_under {addresses : List (String × List AddressEntry)} {grouped : Grouped}
    (uniform : ∀ network ∈ addresses, OneMac network)
    (read : groupAddresses addresses = .ok grouped) (order : Int) :
    PlacedUnder grouped order (sightings order addresses) := by
  have start : PlacedUnder ⟨.empty, [], []⟩ order (sightings order []) := ⟨rfl, rfl⟩
  refine foldlM_prefix (fun earlier state => PlacedUnder state order (sightings order earlier))
    addresses ?_ _ grouped start read
  intro earlier state network next member under stepped
  obtain ⟨reading, card, placed⟩ := placed_reading stepped
  have keyed := readCard_key (uniform network member) card
  rw [sightings_append]
  cases key : networkKey network with
  | none =>
    rw [key] at keyed
    have unordered : reading.order = none := keyed
    simp only [Option.bind_none, Option.toList_none, List.append_nil]
    exact placed.under_other under (by simp [unordered])
  | some pair =>
    rw [key] at keyed
    rw [← readCard_addresses card]
    by_cases same : pair.1 = order
    · simp only [Option.bind_some, if_pos same, Option.toList_some]
      exact placed.under_own under (same ▸ keyed.1) keyed.2
    · simp only [Option.bind_some, if_neg same, Option.toList_none, List.append_nil]
      exact placed.under_other under (by simpa [keyed.1] using same)

/-! ## Order number and mac -/

/-- What tells cards apart. -/
def cardKey (card : HostNetwork) : Int × Option String := (card.order, card.mac)

/-- The cards read off the addresses, and the later ones with numbers of their own. -/
theorem buildHostNetworks_later {addresses : List (String × List AddressEntry)}
    {ports : List (Option ResourceBody)} {cards : List HostNetwork}
    (built : buildHostNetworks addresses ports = .ok cards) :
    ∃ grouped later, groupAddresses addresses = .ok grouped ∧
      cards = orderedCards grouped ++ later ∧
      later.Pairwise (fun left right => left.order < right.order) ∧
      ∀ card ∈ later, ∀ other ∈ orderedCards grouped, other.order < card.order := by
  have increasing := buildHostNetworks_increasing addresses ports cards built
  obtain ⟨grouped, numbering, read, folded, rfl⟩ := buildHostNetworks_runs built
  obtain ⟨fromPorts, added, above⟩ := addPorts_append folded
  have bound := maxOrder_bound (orderedCards grouped)
  have within := (numberCards_continue (maxOrder (orderedCards grouped)) grouped.unordered).2
  let later := numberCards (maxOrder (orderedCards grouped)) grouped.unordered ++ fromPorts
  have cards : numbering.cards = orderedCards grouped ++ later := by
    rw [added, numberAddressCards, List.append_assoc]
  have high : ∀ card ∈ later,
      card.placeholder = false ∧ maxOrder (orderedCards grouped) < card.order := by
    intro card member
    rcases List.mem_append.mp member with unordered | fromPort
    · exact ⟨(within card unordered).1, (within card unordered).2.1⟩
    · obtain ⟨-, real, beyond⟩ := above card fromPort
      have counter : (numberAddressCards grouped).counter =
        maxOrder (orderedCards grouped) + grouped.unordered.length := rfl
      exact ⟨real, by omega⟩
  have real : later.filter (fun card => !card.placeholder) = later :=
    List.filter_eq_self.mpr fun card member => by simp [(high card member).1]
  rw [Increasing, cards, List.filter_append, real] at increasing
  refine ⟨grouped, later, read, cards, (List.pairwise_append.mp increasing).2.1, ?_⟩
  intro card member other ordered
  exact lt_of_le_of_lt (bound other ordered) (high card member).2

/-- Pairs are distinct if, under every first component, the second components
are distinct. Two equal pairs are a sublist of two under their common first
component. -/
theorem nodup_pairs_iff {α β γ : Type} [DecidableEq β] (first : α → β) (second : α → γ)
    (items : List α) :
    (items.map (fun item => (first item, second item))).Nodup ↔
      ∀ key, ((items.filter (fun item => decide (first item = key))).map second).Nodup := by
  simp only [List.Nodup, List.pairwise_map, List.pairwise_filter, decide_eq_true_eq]
  constructor
  · intro distinct key
    refine distinct.imp ?_
    rintro left right apart rfl same equal
    exact apart (by rw [same, equal])
  · intro each
    rw [List.pairwise_iff_forall_sublist]
    intro left right both equal
    obtain ⟨keys, seconds⟩ := Prod.mk.inj equal
    exact List.pairwise_iff_forall_sublist.mp (each (first left)) both rfl keys.symm seconds

section Distinct

variable {addresses : List (String × List AddressEntry)} {grouped : Grouped}

/-- Holders have numbers of their own. -/
theorem holders_distinct (keyed : Keyed grouped) :
    (grouped.byOrder.values.map cardKey).Nodup := by
  have orders : (grouped.byOrder.values.map cardKey).map Prod.fst = grouped.byOrder.keys := by
    rw [← keyed_numbers keyed, List.map_map]
    rfl
  apply List.Nodup.of_map Prod.fst
  rw [orders]
  exact grouped.byOrder.distinct

/-- A card set aside has another mac than the holder of its number. -/
theorem aside_apart (keyed : Keyed grouped)
    (placed : ∀ order, PlacedUnder grouped order (sightings order addresses))
    {holder card : HostNetwork} (held : holder ∈ grouped.byOrder.values)
    (aside : card ∈ grouped.placeholders) : cardKey holder ≠ cardKey card := by
  intro same
  obtain ⟨entry, stored, rfl⟩ := List.mem_map.mp held
  obtain ⟨orders, macs⟩ := Prod.mk.inj same
  have kept : grouped.byOrder.get? card.order = some entry.2 := by
    rw [← orders, keyed.orders entry stored]
    exact (grouped.byOrder.get?_eq_some_iff _ _).mpr stored
  have under := placed card.order
  have first := under.held
  rw [kept] at first
  have member : card.mac ∈ (asideMacs (sightings card.order addresses)).map some := by
    rw [← under.aside]
    exact List.mem_map_of_mem (List.mem_filter.mpr ⟨aside, decide_eq_true rfl⟩)
  obtain ⟨mac, listed, named⟩ := List.mem_map.mp member
  obtain ⟨filled, other⟩ := asideMacs_other listed
  have known : entry.2.mac = some mac := macs.trans named.symm
  apply other
  rw [first.2.2, known]
  simp [truthy, filled]

/-- All cards are told apart exactly when no number has one mac set aside twice.
Holders, placeholders and later cards differ anyway. -/
theorem cards_distinct_iff (keyed : Keyed grouped)
    (placed : ∀ order, PlacedUnder grouped order (sightings order addresses))
    {later : List HostNetwork}
    (ascending : later.Pairwise (fun left right => left.order < right.order))
    (above : ∀ card ∈ later, ∀ other ∈ orderedCards grouped, other.order < card.order) :
    ((orderedCards grouped ++ later).map cardKey).Nodup ↔
      ∀ order, (asideMacs (sightings order addresses)).Nodup := by
  have asides : (grouped.placeholders.map cardKey).Nodup ↔
      ∀ order, (asideMacs (sightings order addresses)).Nodup := by
    rw [show cardKey = fun card => (card.order, card.mac) from rfl, nodup_pairs_iff]
    apply forall_congr'
    intro order
    rw [(placed order).aside, List.nodup_map_iff (Option.some_injective String)]
  rw [← asides]
  constructor
  · intro distinct
    refine distinct.sublist ((List.Sublist.trans ?_ (List.sublist_append_left _ _)).map cardKey)
    exact List.sublist_append_right _ _
  · intro distinct
    have sorted := List.perm_insertionSort
      (fun left right : HostNetwork => left.order ≤ right.order) grouped.byOrder.values
    have ordered : ((orderedCards grouped).map cardKey).Nodup := by
      rw [orderedCards, List.map_append]
      refine List.nodup_append.mpr ⟨?_, distinct, ?_⟩
      · exact (sorted.map cardKey).nodup_iff.mpr (holders_distinct keyed)
      · intro key held other aside same
        obtain ⟨holder, member, rfl⟩ := List.mem_map.mp held
        obtain ⟨card, listed, rfl⟩ := List.mem_map.mp aside
        exact aside_apart keyed placed (sorted.mem_iff.mp member) listed same
    rw [List.map_append]
    refine List.nodup_append.mpr ⟨ordered, ?_, ?_⟩
    · refine List.pairwise_map.mpr (ascending.imp ?_)
      intro left right less same
      have equal := (Prod.mk.inj same).1
      omega
    · intro key early other late same
      obtain ⟨left, member, rfl⟩ := List.mem_map.mp early
      obtain ⟨right, listed, rfl⟩ := List.mem_map.mp late
      have less := above right listed left member
      have equal := (Prod.mk.inj same).1
      omega

/-- Two networks with one number and one mac are both merged, if the macs set aside under
the number are distinct. -/
theorem sightings_fit {order : Int} {mac : String} {left right : List String}
    (distinct : (asideMacs (sightings order addresses)).Nodup)
    (both : [(mac, left), (mac, right)].Sublist (sightings order addresses)) :
    fits (holderMac (sightings order addresses)) (mac, left) = true := by
  by_contra apart
  have aside : ∀ more, fits (holderMac (sightings order addresses)) (mac, more) = false := by
    intro more
    simpa [fits] using apart
  have twice := (both.filter (fun sighting =>
    !fits (holderMac (sightings order addresses)) sighting)).map Prod.fst
  rw [List.filter_eq_self.mpr (by simp [aside])] at twice
  have single := distinct.sublist twice
  simp at single

/-- Two networks of one number and mac are on one card, if no mac is set aside
twice. -/
theorem networks_together (keyed : Keyed grouped) {order : Int} {mac : String}
    {left right : String × List AddressEntry}
    (placed : PlacedUnder grouped order (sightings order addresses))
    (distinct : (asideMacs (sightings order addresses)).Nodup)
    (both : [left, right].Sublist addresses) (leftKey : networkKey left = some (order, mac))
    (rightKey : networkKey right = some (order, mac)) :
    ∃ card ∈ grouped.byOrder.values, card.order = order ∧ (mac ≠ "" → card.mac = some mac) ∧
      (networkAddresses left.2 ++ networkAddresses right.2).Sublist card.addresses := by
  have seen : [(mac, networkAddresses left.2), (mac, networkAddresses right.2)].Sublist
      (sightings order addresses) := by
    have mapped := both.filterMap (fun network => (networkKey network).bind (fun key =>
      if key.1 = order then some (key.2, networkAddresses network.2) else none))
    rw [sightings]
    simpa [leftKey, rightKey] using mapped
  have fit := sightings_fit distinct seen
  have held := placed.held
  cases found : grouped.byOrder.get? order with
  | none =>
    rw [found] at held
    rw [held] at seen
    cases seen
  | some holder =>
    rw [found] at held
    obtain ⟨-, merged, holderIs⟩ := held
    have stored := (grouped.byOrder.get?_eq_some_iff order holder).mp found
    refine ⟨holder, List.mem_map_of_mem stored, keyed.orders _ stored, ?_, ?_⟩
    · intro filled
      have same : holderMac (sightings order addresses) = some mac := by
        simpa [fits, filled] using fit
      rw [holderIs] at same
      split at same
      · exact same
      · cases same
    · have all := (seen.filter (fits (holderMac (sightings order addresses)))).flatMap Prod.snd
      rw [List.filter_eq_self.mpr] at all
      · rw [merged]
        simpa [mergedAddresses] using all
      · intro sighting member
        simp only [List.mem_cons, List.not_mem_nil, or_false] at member
        rcases member with rfl | rfl
        · exact fit
        · exact fit

end Distinct

/-- Networks with one number and one mac end up on one card, and no two cards have both the
same number and the same mac. -/
structure OneCardEach (addresses : List (String × List AddressEntry)) (cards : List HostNetwork) :
    Prop where
  together : addresses.Pairwise (fun left right => ∀ order mac,
    networkKey left = some (order, mac) → networkKey right = some (order, mac) →
      ∃ card ∈ cards, card.order = order ∧ (mac ≠ "" → card.mac = some mac) ∧
        (networkAddresses left.2 ++ networkAddresses right.2).Sublist card.addresses)
  distinct : (cards.map cardKey).Nodup

/-- The same card seen twice is one card exactly when under every number no mac is set
aside twice. -/
theorem same_card_iff (addresses : List (String × List AddressEntry))
    (ports : List (Option ResourceBody)) (cards : List HostNetwork)
    (uniform : ∀ network ∈ addresses, OneMac network)
    (built : buildHostNetworks addresses ports = .ok cards) :
    OneCardEach addresses cards ↔ ∀ order, (asideMacs (sightings order addresses)).Nodup := by
  obtain ⟨grouped, later, read, rfl, ascending, above⟩ := buildHostNetworks_later built
  have keyed := groupAddresses_keyed addresses grouped read
  have placed := groupAddresses_under uniform read
  have distinct := cards_distinct_iff keyed placed ascending above
  constructor
  · exact fun each => distinct.mp each.distinct
  · intro asides
    refine ⟨List.pairwise_iff_forall_sublist.mpr ?_, distinct.mpr asides⟩
    intro left right both order mac leftKey rightKey
    obtain ⟨card, held, rest⟩ :=
      networks_together keyed (placed order) (asides order) both leftKey rightKey
    refine ⟨card, ?_, rest⟩
    have sorted := (List.perm_insertionSort
      (fun left right : HostNetwork => left.order ≤ right.order) _).mem_iff.mpr held
    exact List.mem_append.mpr (Or.inl (List.mem_append.mpr (Or.inl sorted)))

/-- Three networks under one number; the second clashes with the first. -/
def sharedNetworks (mac : String) : List (String × List AddressEntry) :=
  [("n1", [AsciiRuntime.fixedAddress "10.0.0.1" "m1" 1]),
    ("n2", [AsciiRuntime.fixedAddress "10.0.0.2" "m2" 1]),
    ("n3", [AsciiRuntime.fixedAddress "10.0.0.3" mac 1])]

/-- The sample networks report one mac each. -/
theorem sharedNetworks_oneMac (mac : String) : ∀ network ∈ sharedNetworks mac, OneMac network := by
  intro network member entry listed _
  simp only [sharedNetworks, List.mem_cons, List.not_mem_nil, or_false] at member
  rcases member with rfl | rfl | rfl
  · exact ⟨1, "m1", rfl, by rw [List.mem_singleton.mp listed]; exact ⟨rfl, rfl⟩⟩
  · exact ⟨1, "m2", rfl, by rw [List.mem_singleton.mp listed]; exact ⟨rfl, rfl⟩⟩
  · exact ⟨1, mac, rfl, by rw [List.mem_singleton.mp listed]; exact ⟨rfl, rfl⟩⟩

/-- Three networks under one number with the macs `m1`, `m2` and `m1`: the third
joins the first, so each mac has one card. -/
theorem same_card_between :
    OneCardEach (sharedNetworks "m1")
      [{ addresses := ["10.0.0.1", "10.0.0.3"], name := some "n1", mac := some "m1", order := 1 },
        { addresses := ["10.0.0.2"], name := some "n2", mac := some "m2", order := 1,
          placeholder := true }] := by
  refine (same_card_iff (sharedNetworks "m1") [] _ (sharedNetworks_oneMac "m1") rfl).mpr ?_
  intro order
  by_cases same : 1 = order
  · subst same
    decide
  · have none : sightings order (sharedNetworks "m1") = [] := by
      simp [sightings, sharedNetworks, networkKey, AsciiRuntime.fixedAddress, Slot.get, same]
    rw [none]
    decide

/-- The third network has the mac of the second, which was set aside: it is set aside too, and
two cards have the number 1 and the mac `m2`. -/
theorem same_card_twice :
    (∀ network ∈ sharedNetworks "m2", OneMac network) ∧
      buildHostNetworks (sharedNetworks "m2") [] = .ok
        [{ addresses := ["10.0.0.1"], name := some "n1", mac := some "m1", order := 1 },
          { addresses := ["10.0.0.2"], name := some "n2", mac := some "m2", order := 1,
            placeholder := true },
          { addresses := ["10.0.0.3"], name := some "n3", mac := some "m2", order := 1,
            placeholder := true }] ∧
      ¬ OneCardEach (sharedNetworks "m2")
        [{ addresses := ["10.0.0.1"], name := some "n1", mac := some "m1", order := 1 },
          { addresses := ["10.0.0.2"], name := some "n2", mac := some "m2", order := 1,
            placeholder := true },
          { addresses := ["10.0.0.3"], name := some "n3", mac := some "m2", order := 1,
            placeholder := true }] := by
  refine ⟨sharedNetworks_oneMac "m2", rfl, ?_⟩
  intro each
  exact absurd each.distinct (by decide)

end InstanceLifecycle
