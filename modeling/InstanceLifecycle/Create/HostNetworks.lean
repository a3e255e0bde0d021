import InstanceLifecycle.Create.BondNames

/-!
# Order numbers of the cards

The real cards of a message stand in strictly increasing order: those that reported
a number sorted by it, then the unordered ones and the ports, which continue the
numbering. Placeholders stand between them and have no number of their own.
-/

namespace InstanceLifecycle

open Store

/-- What is known of the items read so far, by induction on the items still to come. -/
theorem foldlM_prefix {σ α : Type} {step : σ → α → Except Exn σ} (Inv : List α → σ → Prop)
    (items : List α)
    (kept : ∀ earlier state item next, item ∈ items → Inv earlier state →
      step state item = .ok next → Inv (earlier ++ [item]) next)
    (start final : σ) (holds : Inv [] start) (folded : items.foldlM step start = .ok final) :
    Inv items final := by
  have run : ∀ (rest earlier : List α) (state : σ), (∀ item ∈ rest, item ∈ items) →
      Inv earlier state → rest.foldlM step state = .ok final → Inv (earlier ++ rest) final := by
    intro rest
    induction rest with
    | nil =>
      intro earlier state _ held folded
      cases folded
      rwa [List.append_nil]
    | cons item rest ih =>
      intro earlier state within held folded
      rw [List.foldlM_cons] at folded
      obtain ⟨next, stepped, folded⟩ := bind_returned folded
      have following := kept earlier state item next (within item List.mem_cons_self) held stepped
      rw [List.append_cons]
      exact ih _ next (fun other member => within other (List.mem_cons_of_mem item member))
        following folded
  exact run items [] start (fun _ member => member) holds folded

/-- What every step of a loop that may raise keeps, the loop keeps. -/
theorem foldlM_keeps {σ α : Type} {step : σ → α → Except Exn σ} (Inv : σ → Prop)
    (items : List α)
    (kept : ∀ state, Inv state → ∀ item ∈ items, ∀ next, step state item = .ok next → Inv next)
    (start final : σ) (holds : Inv start) (folded : items.foldlM step start = .ok final) :
    Inv final :=
  foldlM_prefix (fun _ => Inv) items
    (fun _ state item next member held stepped => kept state held item member next stepped)
    start final holds folded

/-- Real cards stand in strictly increasing order. -/
def Increasing (cards : List HostNetwork) : Prop :=
  (cards.filter (fun card => !card.placeholder)).Pairwise
    (fun left right => left.order < right.order)

/-! ## Cards by order number -/

/-- A card is kept under its own order number, and only real ones are. -/
structure Keyed (grouped : Grouped) : Prop where
  orders : ∀ entry ∈ grouped.byOrder.entries, entry.2.order = entry.1
  real : ∀ entry ∈ grouped.byOrder.entries, entry.2.placeholder = false
  marked : ∀ card ∈ grouped.placeholders, card.placeholder = true

/-- Holding a real card under its own number keeps the grouping keyed. An entry
after it is the new one or an old one. -/
theorem keyed_set (grouped : Grouped) (keyed : Keyed grouped) (card : HostNetwork)
    (real : card.placeholder = false) :
    Keyed { grouped with byOrder := grouped.byOrder.set card.order card } := by
  refine ⟨?_, ?_, keyed.marked⟩
  · intro entry member
    rcases mem_setEntry _ _ _ entry member with rfl | old
    · rfl
    · exact keyed.orders entry old
  · intro entry member
    rcases mem_setEntry _ _ _ entry member with rfl | old
    · exact real
    · exact keyed.real entry old

/-- What a network can do to the cards so far. -/
inductive Places (grouped : Grouped) (reading : Reading) : Grouped → Prop
  | waits (unordered : reading.order = none) :
      Places grouped reading { grouped with unordered := grouped.unordered ++ [reading.card] }
  | holds (order : Int) (ordered : reading.order = some order)
      (free : grouped.byOrder.get? order = none) :
      Places grouped reading { grouped with
        byOrder := grouped.byOrder.set order { reading.card with order := order } }
  | aside (order : Int) (clash : HostNetwork) (ordered : reading.order = some order)
      (found : grouped.byOrder.get? order = some clash)
      (clashing : clashes clash reading.card = true) :
      Places grouped reading { grouped with
        placeholders := grouped.placeholders ++
          [{ reading.card with order := order, placeholder := true }] }
  | merges (order : Int) (clash : HostNetwork) (ordered : reading.order = some order)
      (found : grouped.byOrder.get? order = some clash)
      (fitting : clashes clash reading.card = false) :
      Places grouped reading { grouped with
        byOrder := grouped.byOrder.set order (mergeCards clash reading.card) }

/-- The code's placement is one of the four: a card waits without a number, is
held under a free one, is set aside from the holder it clashes with, or is
merged into its holder. -/
theorem placeCard_places (grouped : Grouped) (reading : Reading) :
    Places grouped reading (placeCard grouped reading) := by
  rw [placeCard]
  cases ordered : reading.order with
  | none => exact .waits ordered
  | some order =>
    simp only
    cases found : grouped.byOrder.get? order with
    | none => exact .holds order ordered found
    | some clash =>
      simp only
      split
      · rename_i clashing
        exact .aside order clash ordered found clashing
      · rename_i fitting
        exact .merges order clash ordered found (Bool.not_eq_true _ ▸ fitting)

/-- A network is read and its card placed. -/
theorem placed_reading {grouped next : Grouped} {network : String × List AddressEntry}
    (stepped : (readCard network.1 network.2).map (placeCard grouped) = .ok next) :
    ∃ reading, readCard network.1 network.2 = .ok reading ∧ Places grouped reading next := by
  cases card : readCard network.1 network.2 with
  | error exc =>
    rw [card] at stepped
    cases stepped
  | ok reading =>
    rw [card] at stepped
    cases stepped
    exact ⟨reading, rfl, placeCard_places grouped reading⟩

/-- Every placement keeps the grouping keyed, each case by the entry it changes. -/
theorem Places.keyed {grouped next : Grouped} {reading : Reading}
    (placed : Places grouped reading next) (keyed : Keyed grouped) : Keyed next := by
  cases placed with
  | waits => exact ⟨keyed.orders, keyed.real, keyed.marked⟩
  | holds order => exact keyed_set grouped keyed { reading.card with order := order } rfl
  | aside =>
    refine ⟨keyed.orders, keyed.real, ?_⟩
    intro card member
    rcases List.mem_append.mp member with old | new
    · exact keyed.marked card old
    · rw [List.mem_singleton.mp new]
  | merges order clash _ found =>
    have stored := (grouped.byOrder.get?_eq_some_iff order clash).mp found
    have same : (mergeCards clash reading.card).order = order := keyed.orders _ stored
    have merged := keyed_set grouped keyed (mergeCards clash reading.card) (keyed.real _ stored)
    rwa [same] at merged

/-- The loop leaves a keyed grouping: each held card under its own number and
real, and each placeholder marked as one. -/
theorem groupAddresses_keyed (addresses : List (String × List AddressEntry)) (grouped : Grouped)
    (read : groupAddresses addresses = .ok grouped) : Keyed grouped := by
  refine foldlM_keeps Keyed addresses ?_ _ grouped ⟨?_, ?_, ?_⟩ read
  · intro state keyed network _ next stepped
    obtain ⟨reading, -, placed⟩ := placed_reading stepped
    exact placed.keyed keyed
  · simp [Dict.empty]
  · simp [Dict.empty]
  · simp

/-- The real cards are those held under a number, in the order of the numbers;
the placeholders stand after them and are all marked. -/
theorem orderedCards_real (grouped : Grouped) (keyed : Keyed grouped) :
    (orderedCards grouped).filter (fun card => !card.placeholder) =
      grouped.byOrder.values.insertionSort (fun left right => left.order ≤ right.order) := by
  have real : ∀ card ∈ grouped.byOrder.values.insertionSort
      (fun left right => left.order ≤ right.order), (!card.placeholder) = true := by
    intro card member
    have value := (List.perm_insertionSort _ grouped.byOrder.values).mem_iff.mp member
    obtain ⟨entry, stored, rfl⟩ := List.mem_map.mp value
    simp [keyed.real entry stored]
  have noneReal : ∀ card ∈ grouped.placeholders, ¬ (!card.placeholder) = true := by
    intro card member
    simp [keyed.marked card member]
  rw [orderedCards, List.filter_append, List.filter_eq_nil_iff.mpr noneReal, List.append_nil]
  exact List.filter_eq_self.mpr real

/-- The cards kept under a number carry it. -/
theorem keyed_numbers {grouped : Grouped} (keyed : Keyed grouped) :
    grouped.byOrder.values.map HostNetwork.order = grouped.byOrder.keys := by
  simp only [Dict.values, Dict.keys, List.map_map]
  exact List.map_congr_left fun entry stored => keyed.orders entry stored

/-- The cards held under numbers increase: sorting puts them in order, and no
two have the same number because each is held under its own, which is a key. -/
theorem orderedCards_increasing (grouped : Grouped) (keyed : Keyed grouped) :
    Increasing (orderedCards grouped) := by
  let sorted := grouped.byOrder.values.insertionSort (fun left right => left.order ≤ right.order)
  have permuted : sorted.Perm grouped.byOrder.values :=
    List.perm_insertionSort _ grouped.byOrder.values
  have distinct : (sorted.map HostNetwork.order).Nodup := by
    rw [(permuted.map HostNetwork.order).nodup_iff, keyed_numbers keyed]
    exact grouped.byOrder.distinct
  have total : Std.Total (fun left right : HostNetwork => left.order ≤ right.order) :=
    ⟨fun left right => le_total left.order right.order⟩
  have transitive : IsTrans HostNetwork (fun left right => left.order ≤ right.order) :=
    ⟨fun _ _ _ first rest => le_trans first rest⟩
  have ascending : sorted.Pairwise (fun left right => left.order ≤ right.order) :=
    List.pairwise_insertionSort _ grouped.byOrder.values
  rw [Increasing, orderedCards_real grouped keyed]
  have apart : sorted.Pairwise (fun left right => left.order ≠ right.order) :=
    List.pairwise_map.mp distinct
  exact (ascending.and apart).imp fun both => lt_of_le_of_ne both.1 both.2

/-- No card has a number above the highest one, by induction over the fold that
finds it. -/
theorem maxOrder_bound (cards : List HostNetwork) :
    ∀ card ∈ cards, card.order ≤ maxOrder cards := by
  have rises : ∀ (rest : List HostNetwork) (highest : Int),
      highest ≤ rest.foldl (fun highest other => max highest other.order) highest ∧
        ∀ card ∈ rest,
          card.order ≤ rest.foldl (fun highest other => max highest other.order) highest := by
    intro rest
    induction rest with
    | nil => simp
    | cons first rest ih =>
      intro highest
      obtain ⟨above, covers⟩ := ih (max highest first.order)
      rw [List.foldl_cons]
      refine ⟨le_trans (le_max_left _ _) above, ?_⟩
      intro card member
      rcases List.mem_cons.mp member with rfl | later
      · exact le_trans (le_max_right _ _) above
      · exact covers card later
  cases cards with
  | nil => simp
  | cons first rest =>
    obtain ⟨above, covers⟩ := rises rest first.order
    intro card member
    rcases List.mem_cons.mp member with rfl | later
    · exact above
    · exact covers card later

/-- Cards without a number get the numbers after the counter, in their order,
and are real. By induction on the cards, with the counter one higher for each.
-/
theorem numberCards_continue (counter : Int) (cards : List Card) :
    (numberCards counter cards).Pairwise (fun left right => left.order < right.order) ∧
      ∀ card ∈ numberCards counter cards, card.placeholder = false ∧ counter < card.order ∧
        card.order ≤ counter + cards.length := by
  induction cards generalizing counter with
  | nil => simp [numberCards]
  | cons first rest ih =>
    obtain ⟨increasing, within⟩ := ih (counter + 1)
    rw [numberCards]
    constructor
    · refine List.pairwise_cons.mpr ⟨?_, increasing⟩
      intro card member
      exact (within card member).2.1
    · intro card member
      rw [List.length_cons]
      rcases List.mem_cons.mp member with rfl | later
      · refine ⟨rfl, ?_, ?_⟩ <;> push_cast <;> omega
      · obtain ⟨real, above, below⟩ := within card later
        refine ⟨real, ?_, ?_⟩
        · omega
        · push_cast
          omega

/-! ## Ports -/

/-- The addresses of a port. -/
def portAddresses (port : ResourceBody) : List String :=
  (port.fixedIps.get.getD []).filterMap FixedIp.ipAddress

/-- The fresh addresses of a port are those that no card carries, in the order
of the port. An entry without an address is refused, so there are no others; by
induction on the entries. -/
theorem freshAddresses_filter {taken : List String} {fixedIps : List FixedIp}
    {fresh : List String} (read : freshAddresses taken fixedIps = .ok fresh) :
    fresh = (fixedIps.filterMap FixedIp.ipAddress).filter (fun address => address ∉ taken) := by
  induction fixedIps generalizing fresh with
  | nil =>
    cases read
    rfl
  | cons fixedIp rest ih =>
    rw [freshAddresses] at read
    cases given : fixedIp.ipAddress with
    | none =>
      rw [given] at read
      cases read
    | some address =>
      rw [given] at read
      cases tail : freshAddresses taken rest with
      | error exc =>
        rw [tail] at read
        cases read
      | ok later =>
        rw [tail] at read
        cases read
        rw [List.filterMap_cons, given, List.filter_cons, ← ih tail]
        by_cases held : address ∈ taken
        · simp [held]
        · simp [held]

/-- What a port does to the numbering: nothing where all its addresses are on
cards already, and else one card more, under the next number, with those that
are not. -/
theorem addPort_cases {numbering next : Numbering} {port : Option ResourceBody}
    (added : addPort numbering port = .ok next) :
    ∃ body fresh, port = some body ∧
      fresh = (portAddresses body).filter (fun address => address ∉ numbering.taken) ∧
        ((fresh = [] ∧ next = numbering) ∨ (fresh ≠ [] ∧ ∃ mac, next = {
          cards := numbering.cards ++ [{
            addresses := fresh, mac := mac, order := numbering.counter + 1, source := .port }]
          counter := numbering.counter + 1
          taken := numbering.taken ++ fresh })) := by
  cases port with
  | none => cases added
  | some body =>
    obtain ⟨fixedIps, listed, added⟩ := bind_returned added
    obtain ⟨fresh, read, added⟩ := bind_returned added
    have given : body.fixedIps.get.getD [] = fixedIps := by
      rw [fixedIpsOf] at listed
      cases slot : body.fixedIps with
      | absent =>
        rw [slot] at listed
        cases listed
        rfl
      | null =>
        rw [slot] at listed
        cases listed
      | value stored =>
        rw [slot] at listed
        cases listed
        rfl
    have filtered := freshAddresses_filter read
    rw [← given] at filtered
    refine ⟨body, fresh, rfl, filtered, ?_⟩
    split at added
    · rename_i empty
      cases added
      exact Or.inl ⟨List.isEmpty_iff.mp empty, rfl⟩
    · rename_i filled
      obtain ⟨mac, _, added⟩ := bind_returned added
      cases added
      exact Or.inr ⟨fun none => filled (List.isEmpty_iff.mpr none), mac, rfl⟩

/-- The numbering goes on above every card so far. -/
structure Numbered (numbering : Numbering) : Prop where
  increasing : Increasing numbering.cards
  below : ∀ card ∈ numbering.cards, card.order ≤ numbering.counter

/-- Appending real cards that are all above a bound to cards that are all below
it keeps the order, by comparing each pair across the two lists. -/
theorem increasing_append (cards more : List HostNetwork) (first : Increasing cards)
    (rest : more.Pairwise (fun left right => left.order < right.order))
    (real : ∀ card ∈ more, card.placeholder = false) (bound : Int)
    (below : ∀ card ∈ cards, card.order ≤ bound) (above : ∀ card ∈ more, bound < card.order) :
    Increasing (cards ++ more) := by
  have kept : more.filter (fun card => !card.placeholder) = more :=
    List.filter_eq_self.mpr fun card member => by simp [real card member]
  rw [Increasing, List.filter_append, kept]
  refine List.pairwise_append.mpr ⟨first, rest, ?_⟩
  intro left leftMember right rightMember
  have low := below left (List.mem_filter.mp leftMember).1
  have high := above right rightMember
  omega

/-- The cards that have no number of their own are numbered on from the highest,
so all cards of the message carry distinct numbers within the counter. -/
theorem numberAddressCards_numbered (grouped : Grouped) (keyed : Keyed grouped) :
    Numbered (numberAddressCards grouped) := by
  obtain ⟨continued, within⟩ :=
    numberCards_continue (maxOrder (orderedCards grouped)) grouped.unordered
  have bound := maxOrder_bound (orderedCards grouped)
  constructor
  · exact increasing_append _ _ (orderedCards_increasing grouped keyed) continued
      (fun card member => (within card member).1) _ bound
      (fun card member => (within card member).2.1)
  · intro card member
    rcases List.mem_append.mp member with ordered | unordered
    · have low := bound card ordered
      simp only [numberAddressCards]
      omega
    · exact (within card unordered).2.2

/-- One port keeps the numbering: its card is already there, or a new one takes
the next number. -/
theorem addPort_numbered (numbering : Numbering) (numbered : Numbered numbering)
    (port : Option ResourceBody) (next : Numbering) (added : addPort numbering port = .ok next) :
    Numbered next := by
  obtain ⟨_, _, _, _, ⟨-, rfl⟩ | ⟨-, _, rfl⟩⟩ := addPort_cases added
  · exact numbered
  · constructor
    · refine increasing_append _ _ numbered.increasing (List.pairwise_singleton _ _)
        (by simp) numbering.counter numbered.below ?_
      intro card member
      rw [List.mem_singleton.mp member]
      exact Int.lt_succ numbering.counter
    · intro card member
      rcases List.mem_append.mp member with old | new
      · have low := numbered.below card old
        simp only
        omega
      · rw [List.mem_singleton.mp new]

/-- The ports bring real cards above the counter, behind the cards there are. -/
theorem addPorts_append {ports : List (Option ResourceBody)} {start final : Numbering}
    (folded : ports.foldlM addPort start = .ok final) :
    ∃ fromPorts, final.cards = start.cards ++ fromPorts ∧
      ∀ card ∈ fromPorts, card.source = .port ∧ card.placeholder = false ∧
        start.counter < card.order := by
  suffices held : start.counter ≤ final.counter ∧ ∃ fromPorts,
      final.cards = start.cards ++ fromPorts ∧ ∀ card ∈ fromPorts,
        card.source = .port ∧ card.placeholder = false ∧ start.counter < card.order from held.2
  refine foldlM_keeps (fun state : Numbering => start.counter ≤ state.counter ∧ ∃ fromPorts,
    state.cards = start.cards ++ fromPorts ∧ ∀ card ∈ fromPorts,
      card.source = .port ∧ card.placeholder = false ∧ start.counter < card.order)
    ports ?_ start final ⟨le_refl _, [], by simp⟩ folded
  rintro state ⟨above, fromPorts, cards, inside⟩ port _ next added
  obtain ⟨_, _, _, _, ⟨-, rfl⟩ | ⟨-, mac, rfl⟩⟩ := addPort_cases added
  · exact ⟨above, fromPorts, cards, inside⟩
  · have higher : start.counter < state.counter + 1 := by omega
    refine ⟨le_of_lt higher, fromPorts ++ [_], by rw [cards, List.append_assoc], ?_⟩
    intro card member
    rcases List.mem_append.mp member with old | new
    · exact inside card old
    · rw [List.mem_singleton.mp new]
      exact ⟨rfl, rfl, higher⟩

/-- The networks are grouped and numbered, and the ports are added. -/
theorem buildHostNetworks_runs {addresses : List (String × List AddressEntry)}
    {ports : List (Option ResourceBody)} {cards : List HostNetwork}
    (built : buildHostNetworks addresses ports = .ok cards) :
    ∃ grouped numbering, groupAddresses addresses = .ok grouped ∧
      ports.foldlM addPort (numberAddressCards grouped) = .ok numbering ∧
      cards = numbering.cards := by
  obtain ⟨grouped, read, built⟩ := bind_returned built
  obtain ⟨numbering, folded, built⟩ := bind_returned built
  cases built
  exact ⟨grouped, numbering, read, folded, rfl⟩

/-- Real cards of a message carry strictly increasing order numbers. -/
theorem buildHostNetworks_increasing (addresses : List (String × List AddressEntry))
    (ports : List (Option ResourceBody)) (cards : List HostNetwork)
    (built : buildHostNetworks addresses ports = .ok cards) : Increasing cards := by
  obtain ⟨grouped, numbering, read, folded, rfl⟩ := buildHostNetworks_runs built
  have numbered : Numbered numbering :=
    foldlM_keeps Numbered ports
      (fun state held port _ next stepped => addPort_numbered state held port next stepped)
      _ numbering (numberAddressCards_numbered grouped (groupAddresses_keyed _ _ read)) folded
  exact numbered.increasing

/-- The names of the real cards are pairwise distinct. -/
theorem realNames_distinct (cards : List HostNetwork) (increasing : Increasing cards) :
    ((cards.filter (fun card => !card.placeholder)).map
      (fun card => "bond" ++ toString (card.order - 1))).Nodup := by
  refine List.pairwise_map.mpr (increasing.imp ?_)
  intro left right less same
  have equal := orderName_injective same
  omega

end InstanceLifecycle
