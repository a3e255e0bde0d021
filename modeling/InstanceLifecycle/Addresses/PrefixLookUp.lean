import InstanceLifecycle.Handler.AsciiRuntime

/-!
# The prefix of an address

The look-up answers with the first row whose network parses and contains the address. Rows that
do not parse are passed over, so they may stand anywhere. Networks that do not overlap leave at
most one row to be found, in whatever order the rows come.
-/

namespace InstanceLifecycle

/-! ## A search with at most one match -/

variable {α : Type} {matching : α → Bool}

/-- No two items match. -/
def Exclusive (matching : α → Bool) (items : List α) : Prop :=
  items.Pairwise (fun one other => ¬ (matching one = true ∧ matching other = true))

/-- A test that no two items of the list pass together selects nothing or a
single item. -/
theorem exclusive_few {items : List α} (exclusive : Exclusive matching items) :
    items.filter matching = [] ∨ ∃ item, items.filter matching = [item] := by
  have kept := exclusive.filter matching
  have both : ∀ item ∈ items.filter matching, matching item = true :=
    fun item member => (List.mem_filter.mp member).2
  cases found : items.filter matching with
  | nil => exact Or.inl rfl
  | cons first rest =>
    cases rest with
    | nil => exact Or.inr ⟨first, rfl⟩
    | cons second rest =>
      rw [found] at kept both
      have apart := (List.pairwise_cons.mp kept).1 second List.mem_cons_self
      exact absurd ⟨both first List.mem_cons_self, both second (by simp)⟩ apart

/-- What the search finds is the first of the matches, and a single one is the first in every
order. -/
theorem find?_perm {left right : List α} (permuted : left.Perm right)
    (exclusive : Exclusive matching right) : left.find? matching = right.find? matching := by
  have matched : (left.filter matching).Perm (right.filter matching) := permuted.filter matching
  rw [← List.head?_filter, ← List.head?_filter]
  rcases exclusive_few exclusive with none | ⟨item, one⟩
  · rw [none] at matched ⊢
    rw [List.perm_nil.mp matched]
  · rw [one] at matched ⊢
    rw [List.perm_singleton.mp matched]

/-! ## Rows -/

variable {runtime : Runtime} {ip : String} {netPrefixes : List NetworkPrefix}

/-- The network of the row parses. -/
def parses (runtime : Runtime) (row : NetworkPrefix) : Bool :=
  (runtime.ipNetwork row.network).isSome

/-- The network of the row parses and contains the address. -/
def Holds (runtime : Runtime) (ip : String) (row : NetworkPrefix) : Prop :=
  ∃ address network, runtime.ipAddress ip = some address ∧
    runtime.ipNetwork row.network = some network ∧ network.contains address = true

/-- The code's test says that the address parses, the network parses, and the
network contains the address. -/
theorem networkHolds_iff {row : NetworkPrefix} :
    networkHolds runtime ip row = true ↔ Holds runtime ip row := by
  rw [networkHolds, Holds]
  cases runtime.ipAddress ip with
  | none => simp
  | some address => cases runtime.ipNetwork row.network <;> simp

/-- A network that holds an address parses. -/
theorem parses_of_holds {row : NetworkPrefix} (holds : networkHolds runtime ip row = true) :
    parses runtime row = true := by
  obtain ⟨address, network, -, parsed, -⟩ := networkHolds_iff.mp holds
  rw [parses, parsed]
  rfl

/-- Only the rows that parse count. -/
theorem ipInNetPrefixes_parsed (netPrefixes : List NetworkPrefix) :
    ipInNetPrefixes runtime ip (netPrefixes.filter (parses runtime)) =
      ipInNetPrefixes runtime ip netPrefixes := by
  rw [ipInNetPrefixes, ipInNetPrefixes, List.find?_filter]
  congr 1
  funext row
  by_cases holds : networkHolds runtime ip row = true
  · simp [holds, parses_of_holds holds]
  · simp [holds]

/-- No address is in both networks. -/
def Network.Disjoint (left right : Network) : Prop :=
  ∀ address, ¬ (left.contains address = true ∧ right.contains address = true)

/-- The networks that parse do not overlap. -/
def NoOverlap (runtime : Runtime) (netPrefixes : List NetworkPrefix) : Prop :=
  (netPrefixes.filterMap (fun row => runtime.ipNetwork row.network)).Pairwise Network.Disjoint

/-- Among networks no two of which overlap, an address is held by one at most. -/
theorem noOverlap_exclusive (clear : NoOverlap runtime netPrefixes) :
    Exclusive (networkHolds runtime ip) netPrefixes := by
  refine (List.pairwise_filterMap.mp clear).imp ?_
  rintro one other disjoint ⟨inOne, inOther⟩
  obtain ⟨address, network, known, parsed, contained⟩ := networkHolds_iff.mp inOne
  obtain ⟨again, another, same, parsedToo, containedToo⟩ := networkHolds_iff.mp inOther
  cases known.symm.trans same
  exact disjoint network parsed another parsedToo address ⟨contained, containedToo⟩

/-- How the look-up depends on the rows. -/
structure LooksUp (runtime : Runtime) (ip : String) (netPrefixes : List NetworkPrefix) :
    Prop where
  first : ∀ row, ipInNetPrefixes runtime ip netPrefixes = some row ↔
    ∃ earlier later, netPrefixes = earlier ++ row :: later ∧ Holds runtime ip row ∧
      ∀ other ∈ earlier, ¬ Holds runtime ip other
  missing : ipInNetPrefixes runtime ip netPrefixes = none ↔
    ∀ row ∈ netPrefixes, ¬ Holds runtime ip row
  unparsed : ∀ others : List NetworkPrefix,
    others.filter (parses runtime) = netPrefixes.filter (parses runtime) →
      ipInNetPrefixes runtime ip others = ipInNetPrefixes runtime ip netPrefixes
  unordered : NoOverlap runtime netPrefixes → ∀ others : List NetworkPrefix,
    others.Perm netPrefixes →
      ipInNetPrefixes runtime ip others = ipInNetPrefixes runtime ip netPrefixes

/-- The look-up finds the first row that parses and contains the address, whatever other rows
there are; their order matters only where networks overlap. -/
theorem prefix_look_up (runtime : Runtime) (ip : String) (netPrefixes : List NetworkPrefix) :
    LooksUp runtime ip netPrefixes := by
  constructor
  · intro row
    rw [ipInNetPrefixes, List.find?_eq_some_iff_append, networkHolds_iff]
    constructor
    · rintro ⟨holds, earlier, later, parts, before⟩
      refine ⟨earlier, later, parts, holds, ?_⟩
      intro other member
      rw [← networkHolds_iff]
      simpa using before other member
    · rintro ⟨earlier, later, parts, holds, before⟩
      refine ⟨holds, earlier, later, parts, ?_⟩
      intro other member
      simpa [← networkHolds_iff] using before other member
  · rw [ipInNetPrefixes, List.find?_eq_none]
    exact forall₂_congr fun row _ => not_congr networkHolds_iff
  · intro others same
    rw [← ipInNetPrefixes_parsed others, same, ipInNetPrefixes_parsed]
  · intro clear others permuted
    exact find?_perm permuted (noOverlap_exclusive clear)

/-- Null, text that is no network, set host bits and a number in front of the row. -/
example : (ipInNetPrefixes AsciiRuntime.runtime "10.0.0.7"
    [⟨1, .null, none, "DC1"⟩, ⟨2, .str "10.0.0", none, "DC1"⟩, ⟨3, .str "10.0.0.1/24", none, "DC1"⟩,
      ⟨4, .str "10.0.0.0/24", some "be", "DC1"⟩]).map NetworkPrefix.id = some 4 := by
  decide

end InstanceLifecycle
