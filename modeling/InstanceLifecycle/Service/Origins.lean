import InstanceLifecycle.Concurrency.Identities
import InstanceLifecycle.Concurrency.Origins
import InstanceLifecycle.Service.Consumer

/-!
# What the store holds

Over the whole service: an IP that is stored was stored when the service started, or a published
message asks for it, and a host that is stored was stored when the service started, or a published
message creates it.
-/

namespace InstanceLifecycle

open Interaction Store InstanceHandler

/-- In every state of every run of the service: a stored IP was there at the start, or it is the
address on a card of a published create or of a published attach, with the first prefix of the
datacenter whose network holds it and a type that this prefix gives. Only an attach stores an
address without prefix and type. -/
theorem stored_addresses_asked (worker : MessageHandlerService) (state : FieldErrors)
    (permits : Faults) (prefetch : Nat) (db : Cmdb) (published : List Delivery)
    (consumer : Consumer) (run : consumer.Reaches worker state permits prefetch db published)
    (ip : Row Ip) (stored : ip ∈ consumer.crowd.db.ips.rows) :
    ip ∈ db.ips.rows ∨
      ∃ message, .ok message ∈ published ∧ ip.data.Asked worker.handler message db := by
  have sourced := sourced_run (Consumer.interleaved run consumer.continues_deliveries)
  rcases sourced ip stored with old | ⟨task, message, delivered, asked⟩
  · exact Or.inl old
  · exact Or.inr ⟨message, Consumer.deliveries_published run delivered, asked⟩

/-- A create of the host `u1` and an attach to it. -/
def twoAddresses : List Delivery :=
  [.ok (AsciiRuntime.createMessage "dc1-b1" []
      [("net", [AsciiRuntime.fixedAddress "10.0.0.7" "m1" 1])]),
    .ok (AsciiRuntime.attachMessage "10.0.1.8" "m2")]

/-- Both are delivered; the attach comes in between when the create has made its row. -/
def twoAddressed : Consumer :=
  Consumer.work (fun _ => []) (List.replicate 8 0 ++ List.replicate 9 1 ++ List.replicate 9 0)
    (((Consumer.start AsciiRuntime.registered twoAddresses).receive AsciiRuntime.service).receive
      AsciiRuntime.service)

/-- The service reaches the state in which the create and the attach have run,
each call answered at once. -/
theorem twoAddressed_reaches :
    twoAddressed.Reaches AsciiRuntime.service {} everyFault 10 AsciiRuntime.registered
      twoAddresses := by
  apply Consumer.work_reaches (fun _ => trivial) fun _ _ _ _ => trivial
  · rintro ⟨⟩
  · intro task member
    refine ⟨Nat.zero_le task, ?_⟩
    change task < 2
    simp only [List.mem_append, List.mem_replicate] at member
    omega
  · apply Consumer.receive_reaches _ rfl (by decide)
    exact Consumer.receive_reaches .refl rfl (by decide)

/-- The address of the attach, which comes first. -/
def attachedRow : Row Ip :=
  ⟨0, ⟨none, "10.0.1.8", some importerName, some providerName, 1, some 2, some "fe"⟩⟩

/-- After the create and the attach, the IP that the attach inserted is one of
those asked for. -/
theorem stored_addresses_asked_two :
    attachedRow ∈ AsciiRuntime.registered.ips.rows ∨ ∃ message, .ok message ∈ twoAddresses ∧
      attachedRow.data.Asked AsciiRuntime.handler message AsciiRuntime.registered :=
  stored_addresses_asked AsciiRuntime.service {} everyFault 10 AsciiRuntime.registered twoAddresses
    twoAddressed twoAddressed_reaches attachedRow (by decide +kernel)

end InstanceLifecycle
