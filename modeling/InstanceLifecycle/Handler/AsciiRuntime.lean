import InstanceLifecycle.Service
import InstanceLifecycle.Cmdb.World

/-!
# An ASCII interpreter

A concrete `Runtime` for evaluating the model: text in ASCII without quotes or
escapes, and IPv4 addresses and networks in dotted decimal. On such input its
functions answer as the interpreter's do. With it come a service, the reference rows
of one datacenter and the messages of one host, to run the model on.
-/

namespace InstanceLifecycle.AsciiRuntime

/-- Split at every occurrence of a separator. -/
def splitAll (sep : Char) : List Char → List (List Char)
  | [] => [[]]
  | c :: rest =>
      match splitAll sep rest with
      | [] => [[c]]
      | first :: others => if c = sep then [] :: first :: others else (c :: first) :: others

/-- A decimal without leading zeros below a bound. -/
def readNumber (bound : Nat) (digits : List Char) : Option Nat :=
  if digits.isEmpty || !digits.all Char.isDigit || (digits.head? = some '0' && digits.length ≠ 1)
  then none
  else
    let value := digits.foldl (fun read c => 10 * read + (c.toNat - '0'.toNat)) 0
    if value < bound then some value else none

/-- A dotted quad as an address of version 4; anything else is refused. -/
def readAddress (text : List Char) : Option Address :=
  match (splitAll '.' text).map (readNumber 256) with
  | [some a, some b, some c, some d] => some ⟨4, ((a * 256 + b) * 256 + c) * 256 + d⟩
  | _ => none

/-- Host bits must be zero; no prefix length means a single address. -/
def readNetwork (text : List Char) : Option Network :=
  match splitAll '/' text with
  | [address] => (readAddress address).map (fun base => ⟨4, base.value, 0⟩)
  | [address, length] =>
      match readAddress address, readNumber 33 length with
      | some base, some length =>
          if base.value % 2 ^ (32 - length) = 0 then some ⟨4, base.value, 32 - length⟩ else none
      | _, _ => none
  | _ => none

/-- A network is read from text; nothing else is one. -/
def readNetworkValue : Value → Option Network
  | .str text => readNetwork text.toList
  | _ => none

mutual
/-- `repr` of a value whose texts need no escapes. -/
def reprValue : Value → String
  | .null => "None"
  | .bool true => "True"
  | .bool false => "False"
  | .int value => toString value
  | .str text => "'" ++ text ++ "'"
  | .list items => "[" ++ ", ".intercalate (reprItems items) ++ "]"
  | .dict entries => "\x7b" ++ ", ".intercalate (reprEntries entries) ++ "\x7d"

/-- `repr` of each item of a list. -/
def reprItems : List Value → List String
  | [] => []
  | item :: rest => reprValue item :: reprItems rest

/-- `repr` of each entry of a dict, key and value. -/
def reprEntries : List (String × Value) → List String
  | [] => []
  | (key, value) :: rest => ("'" ++ key ++ "': " ++ reprValue value) :: reprEntries rest
end

/-- The library functions on ASCII texts, so that runs of the handler can be
evaluated. -/
def runtime : Runtime where
  upper := fun text => String.ofList (text.toList.map Char.toUpper)
  isWord := fun c => c.isAlphanum || c = '_'
  repr := reprValue
  dumps := fun message => "\x7b\"id\": \"" ++ message.id.getD "" ++ "\"\x7d"
  ipAddress := fun text => readAddress text.toList
  ipNetwork := readNetworkValue

/-- A handler with this interpreter and the references of the sample schema. -/
def handler : InstanceHandler where
  runtime := runtime
  serverRefs := ["dc", "tenant", "owner", "responsible", "flavor", "cost_center"]
  serverUpdateName := "Repository.update"

/-- A service over this runtime with three attempts at each message. -/
def service : MessageHandlerService where
  handler := handler
  maxRetries := 3

/-- One datacenter with a backend and a frontend prefix, and one cloud project. -/
def reference : Reference where
  resourceClouds := [⟨"p1", some (.int 5), .null, none⟩]
  capTenants := [⟨"blue", .int 8, .int 9⟩]
  datacenters := [⟨"DC1", ["r1"]⟩]
  networkPrefixes := [⟨1, .str "10.0.0.0/24", some "be", "DC1"⟩,
    ⟨2, .str "10.0.1.0/24", some "fe", "DC1"⟩]

/-- A fixed address of a card with a known mac and order number. -/
def fixedAddress (address mac : String) (order : Int) : AddressEntry where
  extIpsType := some "fixed"
  addr := some address
  macAddr := .value mac
  macAddrOrderNum := .value order

/-- A create of the host `u1` under a name, with these tags and networks. -/
def createMessage (name : String) (tags : List (String × Value))
    (networks : List (String × List AddressEntry)) : Message where
  actionType := some "create"
  id := some "c1"
  projectId := some "p1"
  regionId := .value "r1"
  resources := some [{
    resourceType := some "instance"
    resourceBody := .value {
      name := .value name
      id := .value "u1"
      metadata := .value (Store.Dict.ofList tags)
      addresses := .value networks
      flavor := .value ⟨.value "small"⟩ } }]

/-- The attach of an address, on a card with this mac, to the host `u1`. -/
def attachMessage (address mac : String) : Message where
  actionType := some "attach"
  id := some "a1"
  regionId := .value "r1"
  resources := some [
    { resourceType := some "instance", resourceId := .value "u1" },
    { resourceType := some "port", searchField := some address,
      resourceBody := .value { macAddress := .value mac } },
    { resourceType := some "network", searchField := some "net" }]

/-- The detach of an address from the host `u1`. -/
def detachMessage (address : String) : Message where
  actionType := some "detach"
  id := some "d1"
  resources := some [{
    resourceType := some "instance"
    resourceId := .value "u1"
    searchField := some "dc1-b1" }]
  actionData := .value { ipAddress := some address }

/-- The delete of a host. -/
def deleteMessage (uuid : String) : Message where
  actionType := some "delete"
  id := some "x1"
  resources := some [{ resourceType := some "instance", resourceId := .value uuid }]

/-- The resize of the host `u1` to a flavor and a price. -/
def resizeMessage (flavor : String) (price : Int) : Message where
  actionType := some "resize"
  id := some "s1"
  regionId := .value "r1"
  resources := some [{
    resourceType := some "instance"
    resourceId := .value "u1"
    searchField := some "dc1-b1" }]
  totalPrice := .value (Store.Dict.ofList [("price_per_month", .int price)])
  actionData := .value { flavorId := some flavor }

/-- The CMDB with the host `u1` registered, without endpoints. -/
def registered : Cmdb :=
  (Cmdb.empty reference).insertServer
    (Store.Dict.ofList [("hostname", .str "dc1-b1"), ("uuid", .str "u1"), ("state", .str "ready")])

/-- The same with one endpoint that carries this address on a card with this mac. -/
def occupied (address mac : String) : Cmdb :=
  (registered.insertEndpoint ⟨0, none, some "bond0", none, some mac⟩).insertIp
    ⟨none, address, none, none, 0, none, none⟩

example : (runtime.ipNetwork (.str "10.0.0.0/24")).map
    (fun network => (runtime.ipAddress "10.0.0.7").map network.contains) = some (some true) := by
  decide

end InstanceLifecycle.AsciiRuntime
