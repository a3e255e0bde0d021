import InstanceLifecycle.Handler.Models
import Mathlib.Data.List.Sort

/-!
# Pure helpers over the message

`buildHostNetworks` follows the source's four collections: cards by order number,
placeholders, unordered cards, ports. A card that shares an order number is
merged into the holder of the number or set aside as a placeholder; ports are
deduplicated against every address already on a card.
-/

namespace InstanceLifecycle

open Store

/-- The three classes of failures; only the first is retried. -/
inductive Kind where
  | transport
  | data
  | unknown
deriving DecidableEq

/-- The class of an exception. Whatever is neither of transport nor of the
CMDB's own is unknown, and as permanent as an error of the data. -/
def classify : Exn → Kind
  | .requestException _ => .transport
  | .cmdbError _ => .data
  | _ => .unknown

/-- The datacenter name: the prefix of the hostname before the first dash, in
upper case. -/
def getDcName (runtime : Runtime) (hostname : String) : String :=
  runtime.upper (splitHead '-' hostname)

/-- `re.search(r'^\w+-b', hostname)`: some non-empty start of word characters is
followed by `-b`. -/
def matchesBaremetal (runtime : Runtime) (hostname : String) : Bool :=
  (List.range hostname.toList.length).any (fun count =>
    (hostname.toList.take (count + 1)).all runtime.isWord &&
      ['-', 'b'].isPrefixOf (hostname.toList.drop (count + 1)))

/-- `bm` or `cvm`, by that test on the hostname. -/
def getInstancesType (runtime : Runtime) (hostname : String) : String :=
  if matchesBaremetal runtime hostname then "bm" else "cvm"

/-- Clear `action_data`, whose content may carry secrets. -/
def removeSensitiveData (message : Message) : Message := { message with actionData := .null }

/-! ## Bond names -/

/-- The zeros of the decimal digits `\d` matches; each starts a run of ten. -/
def decimalZeros : List Nat :=
  [0x30, 0x660, 0x6f0, 0x7c0, 0x966, 0x9e6, 0xa66, 0xae6, 0xb66, 0xbe6, 0xc66, 0xce6, 0xd66,
    0xde6, 0xe50, 0xed0, 0xf20, 0x1040, 0x1090, 0x17e0, 0x1810, 0x1946, 0x19d0, 0x1a80, 0x1a90,
    0x1b50, 0x1bb0, 0x1c40, 0x1c50, 0xa620, 0xa8d0, 0xa900, 0xa9d0, 0xa9f0, 0xaa50, 0xabf0,
    0xff10, 0x104a0, 0x10d30, 0x11066, 0x110f0, 0x11136, 0x111d0, 0x112f0, 0x11450, 0x114d0,
    0x11650, 0x116c0, 0x11730, 0x118e0, 0x11950, 0x11c50, 0x11d50, 0x11da0, 0x11f50, 0x16a60,
    0x16ac0, 0x16b50, 0x1d7ce, 0x1d7d8, 0x1d7e2, 0x1d7ec, 0x1d7f6, 0x1e140, 0x1e2f0, 0x1e4f0,
    0x1e950, 0x1fbf0]

/-- The value of a decimal digit of any script, which is what `\d` matches and
`int` reads. -/
def decimalValue (c : Char) : Option Nat :=
  (decimalZeros.find? (fun start => decide (start ≤ c.toNat) && decide (c.toNat < start + 10))).map
    (fun start => c.toNat - start)

/-- The rest of `(\d+)$` after a first digit; `$` also matches before a last newline. -/
def readDecimals (read : Nat) : List Char → Option Nat
  | [] => some read
  | c :: rest =>
      match decimalValue c with
      | some digit => readDecimals (10 * read + digit) rest
      | none => if c = '\n' && rest.isEmpty then some read else none

/-- `BOND_NAME_RE.match(name)` and the number of its group. The interpreter's
`int()` raises on more than `maxStrDigits` digits; here the number is read
whatever its length. -/
def bondNumber (name : String) : Option Nat :=
  match name.toList with
  | 'b' :: 'o' :: 'n' :: 'd' :: c :: rest =>
      match decimalValue c with
      | some digit => readDecimals digit rest
      | none => none
  | _ => none

/-- The numbers `next_bond_name` finds taken. Names of another form, and absent
ones, are passed over. -/
def takenNumbers (existingNames : List (Option String)) : List Nat :=
  existingNames.filterMap (fun name => bondNumber (name.getD ""))

/-- `while number in taken: number += 1`, for at most `fuel` tests. -/
def firstFree (taken : List Nat) : Nat → Nat → Option Nat
  | 0, _ => none
  | fuel + 1, number => if number ∈ taken then firstFree taken fuel (number + 1) else some number

/-- The numbers at and above the counter bound the remaining increments: every
test that finds its number taken removes one of them. -/
theorem firstFree_completes (taken : List Nat) (fuel number : Nat)
    (enough : (taken.filter (fun held => decide (number ≤ held))).length < fuel) :
    ∃ free, firstFree taken fuel number = some free ∧ free ∉ taken ∧ number ≤ free ∧
      ∀ smaller, number ≤ smaller → smaller < free → smaller ∈ taken := by
  induction fuel generalizing number with
  | zero => omega
  | succ fuel ih =>
    by_cases held : number ∈ taken
    · have fewer : (taken.filter (fun other => decide (number + 1 ≤ other))).length <
          (taken.filter (fun other => decide (number ≤ other))).length := by
        have narrowed : taken.filter (fun other => decide (number + 1 ≤ other)) =
            (taken.filter (fun other => decide (number ≤ other))).filter
              (fun other => decide (number + 1 ≤ other)) := by
          rw [List.filter_filter]
          apply List.filter_congr
          intro other _
          by_cases above : number + 1 ≤ other
          · have also : number ≤ other := by omega
            simp [above, also]
          · simp [above]
        rw [narrowed]
        apply List.length_filter_lt_length_iff_exists.mpr
        exact ⟨number, by simp [held], by simp⟩
      obtain ⟨free, found, isFree, above, below⟩ := ih (number + 1) (by omega)
      refine ⟨free, by simp [firstFree, held, found], isFree, by omega, ?_⟩
      intro smaller from_number less
      by_cases first : smaller = number
      · exact first ▸ held
      · exact below smaller (by omega) less
    · exact ⟨number, by simp [firstFree, held], held, Nat.le_refl _, by omega⟩

/-- One more step than there are taken numbers is enough for the loop, as each
failed step uses up one of them. -/
theorem firstFree_enough (taken : List Nat) :
    (firstFree taken (taken.length + 1) 0).isSome = true := by
  obtain ⟨free, found, _⟩ := firstFree_completes taken (taken.length + 1) 0
    (Nat.lt_succ_of_le (List.length_filter_le _ _))
  simp [found]

/-- The lowest free number; the loop of the source always reaches it. -/
def lowestFree (taken : List Nat) : Nat :=
  (firstFree taken (taken.length + 1) 0).get (firstFree_enough taken)

/-- The number found is free, and every smaller one is taken. -/
theorem lowestFree_least (taken : List Nat) :
    lowestFree taken ∉ taken ∧ ∀ smaller, smaller < lowestFree taken → smaller ∈ taken := by
  obtain ⟨free, found, isFree, _, below⟩ := firstFree_completes taken (taken.length + 1) 0
    (Nat.lt_succ_of_le (List.length_filter_le _ _))
  have same : lowestFree taken = free := by simp [lowestFree, found]
  rw [same]
  exact ⟨isFree, fun smaller less => below smaller (Nat.zero_le _) less⟩

/-- The lowest free `bondN` among the names of a server's endpoints. -/
def nextBondName (existingNames : List (Option String)) : String :=
  "bond" ++ toString (lowestFree (takenNumbers existingNames))

/-! ## Addresses -/

/-- `be`, `fe` or `int`; the caller owns the set of used types. -/
def resolveIpType (prefixType : Option String) (used : List (Option String)) : String :=
  match prefixType with
  | some type => if (type = "be" || type = "fe") && !decide (some type ∈ used) then type else "int"
  | none => "int"

/-- Does the row's network parse and contain the address? An error is no match. -/
def networkHolds (runtime : Runtime) (ip : String) (row : NetworkPrefix) : Bool :=
  match runtime.ipAddress ip, runtime.ipNetwork row.network with
  | some address, some network => network.contains address
  | _, _ => false

/-- The first prefix whose network contains the address. -/
def ipInNetPrefixes (runtime : Runtime) (ip : String) (netPrefixes : List NetworkPrefix) :
    Option NetworkPrefix :=
  netPrefixes.find? (networkHolds runtime ip)

/-! ## Cards -/

/-- A card being read together with the order number it reported, if any. -/
structure Reading where
  card : Card
  order : Option Int

/-- One address entry of a network. Only `fixed` ones count; of these the
address is required, while mac and order number are taken over when the keys are
present. -/
def readEntry (reading : Reading) (entry : AddressEntry) : Except Exn Reading :=
  if entry.extIpsType = some "fixed" then
    match entry.addr with
    | none => .error (.keyError "addr")
    | some addr =>
        .ok {
          card := { reading.card with
            addresses := reading.card.addresses ++ [addr]
            mac := if entry.macAddr.present then entry.macAddr.get else reading.card.mac }
          order := if entry.macAddrOrderNum.present then entry.macAddrOrderNum.get
            else reading.order }
  else .ok reading

/-- The card of one network, before its order number is looked at. -/
def readCard (netName : String) (entries : List AddressEntry) : Except Exn Reading :=
  entries.foldlM readEntry ⟨{ addresses := [], name := some netName }, none⟩

/-- Cards by order number, cards without one, and cards whose number is held. -/
structure Grouped where
  byOrder : Dict Int HostNetwork
  unordered : List Card
  placeholders : List HostNetwork

/-- Two known, different macs under one order number. An empty mac counts as
unknown. -/
def clashes (clash : HostNetwork) (card : Card) : Bool :=
  truthy clash.mac && truthy card.mac && decide (clash.mac ≠ card.mac)

/-- The same card seen twice: one mac, or one of them unknown. -/
def mergeCards (clash : HostNetwork) (card : Card) : HostNetwork :=
  { clash with
    addresses := clash.addresses ++ card.addresses
    mac := if truthy clash.mac then clash.mac else card.mac }

/-- Put a card where it belongs: with those without order, under its own number,
into the card that holds the number, or among the placeholders. The comparison
is with the first holder of the number alone. -/
def placeCard (grouped : Grouped) (reading : Reading) : Grouped :=
  match reading.order with
  | none => { grouped with unordered := grouped.unordered ++ [reading.card] }
  | some order =>
      match grouped.byOrder.get? order with
      | none =>
          { grouped with
            byOrder := grouped.byOrder.set order { reading.card with order := order } }
      | some clash =>
          if clashes clash reading.card then
            { grouped with
              placeholders := grouped.placeholders ++
                [{ reading.card with order := order, placeholder := true }] }
          else { grouped with byOrder := grouped.byOrder.set order (mergeCards clash reading.card) }

/-- All networks of the message, in the order they are listed. -/
def groupAddresses (addresses : List (String × List AddressEntry)) : Except Exn Grouped :=
  addresses.foldlM (fun grouped network =>
    (readCard network.1 network.2).map (placeCard grouped)) ⟨.empty, [], []⟩

/-- Cards sorted by order number, then the placeholders in the order they were
found. -/
def orderedCards (grouped : Grouped) : List HostNetwork :=
  grouped.byOrder.values.insertionSort (fun left right => left.order ≤ right.order) ++
    grouped.placeholders

/-- `max((c.order for c in cards), default=0)`, from which the numbering
continues. -/
def maxOrder : List HostNetwork → Int
  | [] => 0
  | card :: rest => rest.foldl (fun highest other => max highest other.order) card.order

/-- Unordered cards continue the numbering, one number each. -/
def numberCards (counter : Int) : List Card → List HostNetwork
  | [] => []
  | card :: rest => { card with order := counter + 1 } :: numberCards (counter + 1) rest

/-- The cards so far, the last number given, and every address on a card. -/
structure Numbering where
  cards : List HostNetwork
  counter : Int
  taken : List String

/-- The addresses of a port that no card has yet. One without its key raises. -/
def freshAddresses (taken : List String) : List FixedIp → Except Exn (List String)
  | [] => .ok []
  | fixedIp :: rest =>
      match fixedIp.ipAddress with
      | none => .error (.keyError "ip_address")
      | some address => (freshAddresses taken rest).map (fun fresh =>
          if address ∈ taken then fresh else address :: fresh)

/-- `port.get('fixed_ips', [])`; a null cannot be iterated, an absent key is an
empty list. -/
def fixedIpsOf (port : ResourceBody) : Except Exn (List FixedIp) :=
  match port.fixedIps with
  | .absent => .ok []
  | .null => noneError "iteration"
  | .value fixedIps => .ok fixedIps

/-- A port with fresh addresses becomes a card of its own, under the next
number. Only then is its mac read, and its addresses count as taken for the
ports that follow. -/
def addPort (numbering : Numbering) : Option ResourceBody → Except Exn Numbering
  | none => noneError "get"
  | some port => do
      let fixedIps ← fixedIpsOf port
      let fresh ← freshAddresses numbering.taken fixedIps
      if fresh.isEmpty then .ok numbering
      else
        let mac ← port.macAddress.item "mac_address"
        .ok {
          cards := numbering.cards ++ [{
            addresses := fresh, mac := mac, order := numbering.counter + 1, source := .port }]
          counter := numbering.counter + 1
          taken := numbering.taken ++ fresh }

/-- The numbering before the ports: every address card has its order, and the
addresses of all are taken. -/
def numberAddressCards (grouped : Grouped) : Numbering :=
  let cards := orderedCards grouped ++
    numberCards (maxOrder (orderedCards grouped)) grouped.unordered
  { cards := cards
    counter := maxOrder (orderedCards grouped) + grouped.unordered.length
    taken := cards.flatMap (fun card => card.addresses) }

/-- One card per network interface, from the addresses and the ports of the
message. The addresses come first and the ports add what they lack. -/
def buildHostNetworks (addresses : List (String × List AddressEntry))
    (ports : List (Option ResourceBody)) : Except Exn (List HostNetwork) := do
  let grouped ← groupAddresses addresses
  let numbering ← ports.foldlM addPort (numberAddressCards grouped)
  .ok numbering.cards

end InstanceLifecycle
