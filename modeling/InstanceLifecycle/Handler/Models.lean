import InstanceLifecycle.Cmdb.Interface
import Mathlib.Algebra.Group.Nat.Defs

/-!
# Handler models

The records the handlers pass around, and what the interpreter and the class
attributes contribute: the text functions whose tables are not the service's, the
`ipaddress` parsers, the retry budget, and the reference columns of `server` that
introspection reports.
-/

namespace InstanceLifecycle

open Interaction Store

/-- A parsed address: IP version and numeric value, which is what `ip_address`
returns of use here. -/
structure Address where
  version : Nat
  value : Nat

/-- A parsed network: IP version, base address and number of host bits. -/
structure Network where
  version : Nat
  base : Nat
  hostBits : Nat

/-- `address in network`; another version is never contained. The host bits are
cut off before the comparison. -/
def Network.contains (network : Network) (address : Address) : Bool :=
  decide (address.version = network.version) &&
    decide (address.value / 2 ^ network.hostBits = network.base / 2 ^ network.hostBits)

/-- Functions of the interpreter the service calls and takes as they are. The
parsers answer `none` where `ipaddress` raises. -/
structure Runtime where
  upper : String → String
  isWord : Char → Bool
  repr : Value → String
  dumps : Message → String
  ipAddress : String → Option Address
  ipNetwork : Value → Option Network

/-- The settings of the handler; the qualified name of `server.update` comes from the
client library. -/
structure InstanceHandler where
  runtime : Runtime
  cmdbTransportAttempts : Int := 5
  serverRefs : List String
  serverUpdateName : String

/-- The importer written to every row, by which the rows of the service are told
from others. -/
def importerName : String := "[K8S]instance_handler_v2"
/-- The owner and responsible person where nothing else names one. -/
def defaultResponsibleName : String := "example-team"
/-- The cost center where nothing else names one. -/
def defaultCostCenterCc : String := "CC00000"
/-- The tag of a node of a cluster. -/
def k8sNodeTag : String := "provisioner.example-org/clusterID"
/-- The tag that names a cap tenant, without its prefix. -/
def capTenantTag : String := "cap_tenant.name"
/-- The provider written to every IP. -/
def providerName : String := "ExampleCloud"
/-- The state of a server whose create recorded a failure. -/
def errorState : String := "error"
/-- The state of a server whose create recorded none, unless a tag names
another. -/
def defaultReadyState : String := "ready"

/-- The heads of tags that an ordinary machine may set. -/
def cmdbFieldsWhitelist : List String :=
  ["state", "responsible", "owner", "role", "project", "task"]

/-- The lookup key of a referenced class; `default` covers the classes not named. -/
def cmdbDefaultClassKey (className : String) : String :=
  (([("owner", "name"), ("responsible", "name"), ("datacenter", "name"), ("tenant", "tenant"),
    ("rails", "code"), ("cost_center", "cc"), ("default", "name")].lookup className).getD "name")

/-! ## Failures of single fields -/

/-- One recorded failure: its field, its message, and what it is to affect. -/
structure ErrorEntry where
  field : String
  message : String
  markStateError : Bool
  includeInStatusDetails : Bool

/-- Accumulator for per-field failures, in the order they were recorded. -/
structure FieldErrors where
  entries : List ErrorEntry := []

namespace FieldErrors

/-- Record a failure. By default it marks the state and its message is meant for
the details. -/
def add (errors : FieldErrors) (field message : String) (markStateError : Bool := true)
    (includeInStatusDetails : Bool := true) : FieldErrors :=
  ⟨errors.entries ++ [⟨field, message, markStateError, includeInStatusDetails⟩]⟩

/-- Was any state-error failure recorded? A message meant for the details alone
does not count. -/
def failed (errors : FieldErrors) : Bool := errors.entries.any ErrorEntry.markStateError

/-- The messages meant for the details, one per line. -/
def statusDetails (errors : FieldErrors) : String :=
  "\n".intercalate ((errors.entries.filter ErrorEntry.includeInStatusDetails).map
    ErrorEntry.message)

end FieldErrors

/-! ## Cards and contexts -/

/-- A network card while the message is read; `None` is its order until numbered. -/
structure Card where
  addresses : List String
  name : Option String := none
  mac : Option String := none

/-- Where a card came from, an address or a port. -/
inductive Source where
  | address
  | port
deriving DecidableEq

/-- One network card of the host being created, with its order number. -/
structure HostNetwork extends Card where
  order : Int
  source : Source := .address
  placeholder : Bool := false

/-- Everything `create_instances` parsed out of one message, with the rows it
looked up meanwhile. -/
structure CreateContext where
  message : Message
  instanceData : ResourceBody
  hostNetworks : List HostNetwork
  hostname : String
  dcName : String
  instanceId : String
  regionId : Option String
  projectId : Option String
  cmdbTags : Dict String Value
  resourceCloud : Option ResourceCloud
  capTenant : Option CapTenant
  readyState : Value

/-- One server field: what to write, and what failing to write it means. -/
structure FieldStep where
  name : String
  resolve : InstanceHandler → CreateContext → Except Exn (Option Mutation)
  markStateError : Bool := true
  includeInStatusDetails : Bool := true

/-- One resolved field write, ready to batch and ready to replay. -/
structure FieldWrite where
  field : String
  mutation : Mutation
  markStateError : Bool := true
  includeInStatusDetails : Bool := true

/-- What the handler code runs in: the service interface, the accumulator of
field failures as local state, and exceptions. -/
abbrev Run (α : Type) := Action service FieldErrors Exn α

/-- Issue one CMDB call; its error is raised as an exception. -/
def cmdb (op : CmdbOp) : Run op.Rows :=
  Action.request (S := service) (.cmdb op)
    (fun (reply : Except CallError op.Rows) => reply.mapError CallError.toExn)

end InstanceLifecycle
