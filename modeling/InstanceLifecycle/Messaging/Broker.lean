import Mathlib.Data.List.Perm.Basic

/-!
# A queue with acknowledgements

Messages wait in a queue, are handed out under tags, and leave the queue when their delivery is
settled: acked, or rejected into the dead letters. A delivery that is lost goes back to the queue.
None of this creates or loses a message, and a tag is settled at most once.
-/

namespace Messaging

/-- The messages of a queue, by what became of them. -/
structure Broker (μ : Type) where
  waiting : List μ
  unacked : List (Nat × μ)
  acked : List (Nat × μ)
  dead : List (Nat × μ)

/-- What a consumer says about a delivery. -/
inductive Verdict where
  | acked
  | rejected
deriving DecidableEq

namespace Broker

variable {μ : Type} (broker : Broker μ) (tag : Nat)

/-- All published messages wait. -/
def publish (published : List μ) : Broker μ := ⟨published, [], [], []⟩

/-- Deliveries that are settled. -/
def settled : List (Nat × μ) := broker.acked ++ broker.dead

/-- Every message, wherever it is. -/
def contents : List μ := broker.waiting ++ (broker.unacked ++ broker.settled).map Prod.snd

/-- Hand out one message, with the others still waiting. -/
def deliver (message : μ) (others : List μ) : Broker μ :=
  { broker with waiting := others, unacked := broker.unacked ++ [(tag, message)] }

/-- Settle the delivery with this tag; an unknown tag settles nothing. -/
def settle (verdict : Verdict) : Broker μ :=
  let chosen := broker.unacked.filter (fun entry => decide (entry.1 = tag))
  let others := broker.unacked.filter (fun entry => !decide (entry.1 = tag))
  match verdict with
  | .acked => { broker with unacked := others, acked := broker.acked ++ chosen }
  | .rejected => { broker with unacked := others, dead := broker.dead ++ chosen }

/-- Put all open deliveries back. -/
def requeue : Broker μ :=
  { broker with waiting := broker.waiting ++ broker.unacked.map Prod.snd, unacked := [] }

/-! ## Nothing is created or lost -/

/-- At first the broker holds exactly the messages published. -/
theorem contents_publish (published : List μ) : (publish published).contents = published := by
  simp [publish, contents, settled]

/-- A delivery moves a message from the queue to those that wait for their
confirmation, so the contents stay the same up to their order. -/
theorem contents_deliver {message : μ} {others : List μ}
    (queued : broker.waiting.Perm (message :: others)) :
    (broker.deliver tag message others).contents.Perm broker.contents := by
  have front : (broker.deliver tag message others).contents.Perm
      (message :: others ++ (broker.unacked ++ broker.settled).map Prod.snd) := by
    simp only [contents, deliver, settled, List.map_append, List.map_cons,
      List.append_assoc, List.cons_append, List.nil_append]
    refine List.Perm.trans ?_ List.perm_middle
    exact List.Perm.append_left others List.perm_middle
  exact front.trans (queued.symm.append_right _)

/-- The unconfirmed deliveries are those with another tag together with those
with this one. -/
theorem unacked_split : (broker.unacked.filter (fun entry => !decide (entry.1 = tag)) ++
    broker.unacked.filter (fun entry => decide (entry.1 = tag))).Perm broker.unacked :=
  List.perm_append_comm.trans (List.filter_append_perm _ _)

/-- A confirmation leaves the deliveries made the same, up to their order. By
the verdict, which says where the chosen one goes. -/
theorem settle_deliveries (verdict : Verdict) :
    ((broker.settle tag verdict).unacked ++ (broker.settle tag verdict).settled).Perm
      (broker.unacked ++ broker.settled) := by
  refine List.Perm.trans ?_ ((broker.unacked_split tag).append_right broker.settled)
  cases verdict with
  | acked =>
    simp only [settle, settled, List.append_assoc]
    exact List.Perm.append_left _ (List.perm_append_comm_assoc _ _ _)
  | rejected =>
    simp only [settle, settled, List.append_assoc]
    refine List.Perm.append_left _ ?_
    rw [← List.append_assoc]
    exact List.perm_append_comm

/-- A confirmation moves what it confirms to one side or the other, so nothing
is created or lost by it. -/
theorem contents_settle (verdict : Verdict) :
    (broker.settle tag verdict).contents.Perm broker.contents := by
  have waiting : (broker.settle tag verdict).waiting = broker.waiting := by
    cases verdict <;> rfl
  rw [contents, contents, waiting]
  exact ((broker.settle_deliveries tag verdict).map Prod.snd).append_left _

/-- Closing the channel puts the unconfirmed deliveries back into the queue,
with the contents as they were. -/
theorem contents_requeue : broker.requeue.contents.Perm broker.contents := by
  simp only [requeue, contents, settled, List.map_append, List.append_assoc, List.nil_append]
  exact List.Perm.refl _

/-! ## Settled deliveries -/

/-- After a confirmation, the deliveries that still wait are the earlier ones
under other tags. -/
theorem mem_settle_unacked (verdict : Verdict) (entry : Nat × μ) :
    entry ∈ (broker.settle tag verdict).unacked ↔ entry ∈ broker.unacked ∧ entry.1 ≠ tag := by
  cases verdict with
  | acked => simp [settle]
  | rejected => simp [settle]

/-- Settling acks at most the delivery with the tag. -/
theorem mem_settle_acked (verdict : Verdict) (entry : Nat × μ) :
    entry ∈ (broker.settle tag verdict).acked ↔ entry ∈ broker.acked ∨
      verdict = .acked ∧ entry ∈ broker.unacked ∧ entry.1 = tag := by
  cases verdict with
  | acked => simp [settle]
  | rejected => simp [settle]

/-- A message is among the dead letters after a confirmation if it was there
before, or if it carries the tag and the confirmation is a rejection. -/
theorem mem_settle_dead (verdict : Verdict) (entry : Nat × μ) :
    entry ∈ (broker.settle tag verdict).dead ↔ entry ∈ broker.dead ∨
      verdict = .rejected ∧ entry ∈ broker.unacked ∧ entry.1 = tag := by
  cases verdict with
  | acked => simp [settle]
  | rejected => simp [settle]

/-- Settling opens no delivery. -/
theorem settle_unacked_length (verdict : Verdict) :
    (broker.settle tag verdict).unacked.length ≤ broker.unacked.length := by
  cases verdict with
  | acked => exact List.length_filter_le _ _
  | rejected => exact List.length_filter_le _ _

end Broker

end Messaging
