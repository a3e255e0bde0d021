import InstanceLifecycle.Handler.InsertOnce
import InstanceLifecycle.Handler.CallBudget
import InstanceLifecycle.Handler.CallExits
import InstanceLifecycle.Service.Settlement
import InstanceLifecycle.Create.Acknowledgement
import InstanceLifecycle.Cmdb.Rows
import InstanceLifecycle.Attach.LookUp
import InstanceLifecycle.Attach.ExactlyOnce
import InstanceLifecycle.Create.BondNames
import InstanceLifecycle.Create.HostNetworks
import InstanceLifecycle.Create.Cards
import InstanceLifecycle.Create.CardRecovery
import InstanceLifecycle.Create.Context
import InstanceLifecycle.Create.ContentFailure
import InstanceLifecycle.Create.ServerRow
import InstanceLifecycle.Create.TagColumns
import InstanceLifecycle.Create.WhitelistedTags
import InstanceLifecycle.Create.Recreation
import InstanceLifecycle.Create.FinalState
import InstanceLifecycle.Create.Plan
import InstanceLifecycle.Create.Convergence
import InstanceLifecycle.Endpoints.Names
import InstanceLifecycle.Create.Adoption
import InstanceLifecycle.Endpoints.DistinctNames
import InstanceLifecycle.Servers.DistinctKeys
import InstanceLifecycle.Addresses.Types
import InstanceLifecycle.Addresses.AtMostOne
import InstanceLifecycle.Interaction.Interleaving
import InstanceLifecycle.Concurrency.Shared
import InstanceLifecycle.Concurrency.OwnRows
import InstanceLifecycle.Attach.Phases
import InstanceLifecycle.Concurrency.OwnEndpoints
import InstanceLifecycle.Concurrency.SparedEndpoints
import InstanceLifecycle.Store.Contents
import InstanceLifecycle.Store.Weaving
import InstanceLifecycle.Store.Parts
import InstanceLifecycle.Attach.Plan
import InstanceLifecycle.Attach.Restarts
import InstanceLifecycle.Concurrency.Serial
import InstanceLifecycle.Concurrency.Crowd
import InstanceLifecycle.Concurrency.Reach
import InstanceLifecycle.Create.Conservation
import InstanceLifecycle.Create.SameCard
import InstanceLifecycle.Create.Ladders
import InstanceLifecycle.Create.Replay
import InstanceLifecycle.Create.StatusDetails
import InstanceLifecycle.Attach.Placement
import InstanceLifecycle.Detach.Frame
import InstanceLifecycle.Detach.Undo
import InstanceLifecycle.Create.Accounted
import InstanceLifecycle.Addresses.AsStored
import InstanceLifecycle.Endpoints.FreeNames
import InstanceLifecycle.Create.TagClaims
import InstanceLifecycle.Addresses.PrefixLookUp
import InstanceLifecycle.Create.OrderNumbers
import InstanceLifecycle.Store.Absorption
import InstanceLifecycle.Detach.Redelivery
import InstanceLifecycle.Concurrency.Isolation
import InstanceLifecycle.Concurrency.Marks
import InstanceLifecycle.Cmdb.PartAnswers
import InstanceLifecycle.Concurrency.Independence
import InstanceLifecycle.Messaging.Broker
import InstanceLifecycle.Service.Consumer
import InstanceLifecycle.Service.AtLeastOnce
import InstanceLifecycle.Service.Shutdown
import InstanceLifecycle.Service.Redelivered
import InstanceLifecycle.Delete.Removal
import InstanceLifecycle.Delete.Deletion
import InstanceLifecycle.Resize.Updates
import InstanceLifecycle.Attach.Resumption
import InstanceLifecycle.Service.Exactness
import InstanceLifecycle.Service.Effects
import InstanceLifecycle.Config.Integers
import InstanceLifecycle.Config.Settings
import InstanceLifecycle.Config.Startup
import InstanceLifecycle.Service.Recovery
import InstanceLifecycle.Create.Published
import InstanceLifecycle.Service.Lifecycle
import InstanceLifecycle.Store.Inventory
import InstanceLifecycle.Service.Inventory
import InstanceLifecycle.Concurrency.Identities
import InstanceLifecycle.Concurrency.Origins
import InstanceLifecycle.Service.Origins
