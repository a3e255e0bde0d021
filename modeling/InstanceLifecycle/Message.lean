import InstanceLifecycle.Python
import InstanceLifecycle.Store.Dict

/-!
# Lifecycle messages

The keys the handlers read, each under the name the message carries it by. A
resource body is one record for instances and ports alike, since both are
dictionaries the code looks keys up in. Keys nothing reads are left out. A field
that is an `Option` is either absent or carries a value of its type; where the
code tells a null apart, the field is a `Slot`.
-/

namespace InstanceLifecycle

open Store

/-- One entry of `addresses[network]`. -/
structure AddressEntry where
  extIpsType : Option String
  addr : Option String
  macAddr : Slot String
  macAddrOrderNum : Slot Int

/-- One entry of a port's `fixed_ips`. -/
structure FixedIp where
  ipAddress : Option String

/-- The flavor of an instance, of which the handler reads the original name. -/
structure Flavor where
  originalName : Slot String

/-- `resourceBody`: an instance or a port, with the fields that the handler
reads of either. -/
structure ResourceBody where
  name : Slot String := .absent
  id : Slot String := .absent
  metadata : Slot (Dict String Value) := .absent
  addresses : Slot (List (String × List AddressEntry)) := .absent
  flavor : Slot Flavor := .absent
  macAddress : Slot String := .absent
  fixedIps : Slot (List FixedIp) := .absent

/-- One resource of a message, with its type, its id and its body. -/
structure Resource where
  resourceType : Option String
  resourceId : Slot String := .absent
  searchField : Option String := none
  resourceBody : Slot ResourceBody := .absent

/-- The data of an action: the flavor of a resize, the address of an attach or a
detach. -/
structure ActionData where
  flavorId : Option String := none
  ipAddress : Option String := none

/-- A message as the handler reads it. A slot tells a key that is missing from a
key whose value is None, where the code does. -/
structure Message where
  actionType : Option String
  id : Option String := none
  projectId : Option String := none
  regionId : Slot String := .absent
  resources : Option (List Resource) := none
  totalPrice : Slot (Dict String Value) := .absent
  actionData : Slot ActionData := .absent

end InstanceLifecycle
