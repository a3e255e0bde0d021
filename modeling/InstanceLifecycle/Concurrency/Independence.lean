import InstanceLifecycle.Concurrency.Isolation
import InstanceLifecycle.Concurrency.Marks
import InstanceLifecycle.Cmdb.PartAnswers

/-!
# Messages about other hosts

If some of the messages name hosts that the others do not name, then all they hear, and all they
do to their hosts, they could have heard and done without the others: their calls are a run of
their own on the rows of their hosts. Only the ids of new rows may be higher, since the others
take ids as well.

Every task has hosts to stay away from, which are those of the other side. The invariant says
that it has not come near them: its keys select none of them and it was handed no row of theirs.
-/

namespace InstanceLifecycle

open Interaction Store InstanceHandler

namespace Cmdb

/-- The hosts a task of this side stays away from: those of the other side. -/
def away (hosts : Row Columns → Bool) : Bool → Row Columns → Bool
  | true => others hosts
  | false => hosts

/-- The server ids whose rails a task of this side stays away from. -/
def awayRails (own : Nat → Bool) : Bool → Nat → Bool
  | true => fun id => !own id
  | false => own

variable {db : Cmdb} {hosts : Row Columns → Bool} {own : Nat → Bool}

/-- A side may come near the hosts of its own. -/
theorem away_false_iff (side : Bool) (server : Row Columns) :
    away hosts side server = false ↔ hosts server = side := by
  cases side with
  | true => simp [away]
  | false => rfl

/-- The rails are told apart for either side. -/
theorem Labelled.away (labelled : db.Labelled hosts own) (side : Bool) :
    db.Labelled (Cmdb.away hosts side) (awayRails own side) := by
  cases side with
  | true => exact fun server stored rail there hangs =>
      congrArg (!·) (labelled server stored rail there hangs)
  | false => exact labelled

/-- A call that moves no server across the test moves none for either side. -/
theorem Stable.away {op : CmdbOp} (stable : db.Stable hosts op) (side : Bool) :
    db.Stable (Cmdb.away hosts side) op := by
  cases side with
  | true => exact fun allOf mutation update server stored =>
      congrArg (!·) (stable allOf mutation update server stored)
  | false => exact stable

end Cmdb

section Sides

variable {ι : Type} (worker : MessageHandlerService) (deliveries : ι → Delivery)
  (mine : ι → Bool) (db : Cmdb)

open Classical in
/-- Is the server named by a message of this side? The test is on its keys and
needs no choice of a message. -/
noncomputable def namedHosts (server : Row Columns) : Bool :=
  decide (∃ task, mine task = true ∧ ∃ key ∈ worker.keysOf (deliveries task),
    key.holds server = true)

/-- The rows of the servers that messages of this side name. -/
noncomputable def Cmdb.namedPart : Cmdb :=
  db.part (namedHosts worker deliveries mine) (db.ofHosts (namedHosts worker deliveries mine))

/-- The two sides name different hosts: they have no key in common, and no server
stored at the start has keys of both. The rails of the start refer to server ids
that are already given, so a new row gets none of them, and no tag that counts
renames a host. -/
structure Divided : Prop where
  keys : ∀ task other, mine task ≠ mine other → ∀ key ∈ worker.keysOf (deliveries task),
    key ∉ worker.keysOf (deliveries other)
  servers : ∀ task other, mine task ≠ mine other → ∀ server ∈ db.servers.rows,
    ∀ key ∈ worker.keysOf (deliveries task), key.holds server = true →
      ∀ named ∈ worker.keysOf (deliveries other), named.holds server = false
  rails : ∀ rail ∈ db.rails.rows, rail.data.serverId < db.servers.next
  tags : ∀ task, worker.TagsAside db (deliveries task)

variable {worker deliveries mine db}

/-- A server is named by the side when a key of one of its messages selects it. -/
theorem namedHosts_iff (server : Row Columns) :
    namedHosts worker deliveries mine server = true ↔
      ∃ task, mine task = true ∧ ∃ key ∈ worker.keysOf (deliveries task),
        key.holds server = true := by
  simp [namedHosts]

/-- What no key notices does not change the side of a server. -/
theorem namedHosts_write (server : Row Columns) {mutation : Mutation} (keeps : KeepsKeys mutation) :
    namedHosts worker deliveries mine ⟨server.id, server.data.write mutation⟩ =
      namedHosts worker deliveries mine server := by
  rw [Bool.eq_iff_iff, namedHosts_iff, namedHosts_iff]
  simp only [ServerKey.holds_write _ server keeps]

variable (divided : Divided worker deliveries mine db)

include divided

/-- A key of a message puts a stored server on the side of the message. -/
theorem Divided.namedHosts_stored {server : Row Columns} (stored : server ∈ db.servers.rows)
    {task : ι} {key : ServerKey} (named : key ∈ worker.keysOf (deliveries task))
    (holds : key.holds server = true) : namedHosts worker deliveries mine server = mine task := by
  cases side : mine task with
  | true => exact (namedHosts_iff server).mpr ⟨task, side, key, named, holds⟩
  | false =>
    rw [Bool.eq_false_iff, ne_eq, namedHosts_iff]
    rintro ⟨other, own, key', named', holds'⟩
    have none := divided.servers task other (by simp [side, own]) server stored key named holds key'
      named'
    rw [holds'] at none
    cases none

/-- A new server is on the side of its message. It has a key of that message,
and none of the other side's. -/
theorem Divided.namedHosts_inserted {task : ι} {columns : Mutation}
    (marks : (CmdbOp.serverInsertOne columns).Marks (worker.keysOf (deliveries task))) (id : Nat) :
    namedHosts worker deliveries mine ⟨id, Columns.write (fun _ => .null) columns⟩ = mine task := by
  obtain ⟨some_key, answers⟩ := marks
  cases side : mine task with
  | true =>
    obtain ⟨key, named⟩ := List.exists_mem_of_ne_nil _ some_key
    exact (namedHosts_iff _).mpr ⟨task, side, key, named, (answers id key).mpr named⟩
  | false =>
    rw [Bool.eq_false_iff, ne_eq, namedHosts_iff]
    rintro ⟨other, own, key, named, holds⟩
    exact divided.keys other task (by simp [side, own]) key named ((answers id key).mp holds)

omit divided in
/-- A call that leaves the keys of its hosts alone moves no server to the other
side. -/
theorem stable_namedHosts {task : ι} {current : Cmdb} {op : CmdbOp}
    (marks : op.Marks (worker.keysOf (deliveries task))) :
    current.Stable (namedHosts worker deliveries mine) op := by
  rintro allOf mutation rfl server _
  exact namedHosts_write server marks

end Sides

/-! ## The invariant -/

/-- No task has come near the hosts of the other side. -/
structure Parted {ι : Type} (worker : MessageHandlerService) (deliveries : ι → Delivery)
    (mine : ι → Bool) (db : Cmdb) (crowd : Crowd ι) : Prop where
  next : db.servers.next ≤ crowd.db.servers.next
  rails : ∀ rail ∈ crowd.db.rails.rows, rail ∈ db.rails.rows
  old : ∀ server ∈ crowd.db.servers.rows, server.id < db.servers.next →
    ∃ before ∈ db.servers.rows, before.id = server.id ∧
      namedHosts worker deliveries mine before = namedHosts worker deliveries mine server
  selected : ∀ task, ∀ key ∈ worker.keysOf (deliveries task), ∀ server ∈ crowd.db.servers.rows,
    key.holds server = true → namedHosts worker deliveries mine server = mine task
  apart : ∀ task, ∀ row ∈ handed (crowd.heard task),
    crowd.db.Apart (Cmdb.away (namedHosts worker deliveries mine) (mine task))
      (Cmdb.awayRails (db.ofHosts (namedHosts worker deliveries mine)) (mine task)) row

namespace Parted

variable {ι : Type} {worker : MessageHandlerService} {deliveries : ι → Delivery}
  {mine : ι → Bool} {db : Cmdb} {before : Crowd ι} {task : ι} {op : CmdbOp}

/-- At the start no task has come near anything. -/
theorem start (divided : Divided worker deliveries mine db) :
    Parted worker deliveries mine db (Crowd.start db : Crowd ι) where
  next := Nat.le_refl _
  rails := fun _ stored => stored
  old := fun server stored _ => ⟨server, stored, rfl, rfl⟩
  selected := fun _ _ named _ stored holds => divided.namedHosts_stored stored named holds
  apart := fun _ _ handed => nomatch handed

variable (divided : Divided worker deliveries mine db)
  (parted : Parted worker deliveries mine db before)

include divided parted

/-- A server with rails is an old one, and its rails are told apart by the old one. -/
theorem labelled : before.db.Labelled (namedHosts worker deliveries mine)
    (db.ofHosts (namedHosts worker deliveries mine)) := by
  intro server stored rail there hangs
  have below := divided.rails rail (parted.rails rail there)
  obtain ⟨old, known, same, side⟩ := parted.old server stored (hangs ▸ below)
  rw [← same, Cmdb.ofHosts, db.servers.passes_stored _ known]
  exact side

/-- A call that its message justifies stays away from the hosts of the other
side. The rows it may name are its own keys' and those it has been handed, and
the sides share neither. -/
theorem confined (reaches : op.Reaches (worker.keysOf (deliveries task)) (handed (before.heard task)))
    (marks : op.Marks (worker.keysOf (deliveries task))) :
    before.db.Confined (Cmdb.away (namedHosts worker deliveries mine) (mine task))
      (Cmdb.awayRails (db.ofHosts (namedHosts worker deliveries mine)) (mine task)) op := by
  apply Cmdb.confined_of_reaches reaches
  · intro key named server stored holds
    rw [Cmdb.away_false_iff]
    exact parted.selected task key named server stored holds
  · exact parted.apart task
  · rintro columns rfl
    rw [Cmdb.away_false_iff]
    exact divided.namedHosts_inserted marks _
  · exact (stable_namedHosts marks).away (mine task)

/-- The servers of an effect, old and new: each key of a message selects servers
of its side only. -/
theorem selected_effect (marks : op.Marks (worker.keysOf (deliveries task))) {other : ι}
    {key : ServerKey} (named : key ∈ worker.keysOf (deliveries other)) {server : Row Columns}
    (stored : server ∈ (before.db.effect op).servers.rows) (holds : key.holds server = true) :
    namedHosts worker deliveries mine server = mine other := by
  rcases before.db.effect_server op stored with ⟨columns, rfl, rfl⟩ | ⟨old, there, same, change⟩
  · rw [divided.namedHosts_inserted marks]
    by_contra apart
    exact divided.keys other task (Ne.symm apart) key named ((marks.2 _ key).mp holds)
  · rcases change with rfl | ⟨allOf, mutation, rfl, written⟩
    · exact parted.selected other key named server there holds
    · have shape : server = ⟨old.id, old.data.write mutation⟩ := by
        rw [same, ← written]
      rw [shape, ServerKey.holds_write key old marks] at holds
      rw [shape, namedHosts_write old marks]
      exact parted.selected other key named old there holds

omit divided in
/-- A server that is older than the run is on the side it was on at the start. -/
theorem old_effect (marks : op.Marks (worker.keysOf (deliveries task))) {server : Row Columns}
    (stored : server ∈ (before.db.effect op).servers.rows) (below : server.id < db.servers.next) :
    ∃ old ∈ db.servers.rows, old.id = server.id ∧
      namedHosts worker deliveries mine old = namedHosts worker deliveries mine server := by
  have next := parted.next
  rcases before.db.effect_server op stored with ⟨columns, rfl, rfl⟩ | ⟨kept, there, same, change⟩
  · exact absurd below (Nat.not_lt.mpr next)
  · obtain ⟨old, known, named, side⟩ := parted.old kept there (same ▸ below)
    refine ⟨old, known, named.trans same, side.trans ?_⟩
    rcases change with rfl | ⟨allOf, mutation, rfl, written⟩
    · rfl
    · have shape : server = ⟨kept.id, kept.data.write mutation⟩ := by
        rw [same, ← written]
      rw [shape, namedHosts_write kept marks]

variable [DecidableEq ι]

/-- The step lemma: a call of one task, of which the others hear nothing. -/
theorem call (reaches : op.Reaches (worker.keysOf (deliveries task)) (handed (before.heard task)))
    (marks : op.Marks (worker.keysOf (deliveries task))) (outcome : Outcome) :
    Parted worker deliveries mine db (before.move task ⟨.cmdb op, (before.db.answer op outcome).1⟩
      (before.db.answer op outcome).2) := by
  have confined := parted.confined divided reaches marks
  have stable : before.db.Stable (namedHosts worker deliveries mine) op := stable_namedHosts marks
  constructor
  · exact Cmdb.answer_keeps (fun after => db.servers.next ≤ after.servers.next) parted.next
      (Nat.le_trans parted.next (before.db.effect_next op).1) outcome
  · exact Cmdb.answer_keeps (fun after => ∀ rail ∈ after.rails.rows, rail ∈ db.rails.rows) parted.rails
      (fun rail stored => parted.rails rail (before.db.effect_rail op stored)) outcome
  · apply Cmdb.answer_keeps (fun after => ∀ server ∈ after.servers.rows, server.id < db.servers.next →
      ∃ old ∈ db.servers.rows, old.id = server.id ∧ namedHosts worker deliveries mine old =
        namedHosts worker deliveries mine server) parted.old
    exact fun server stored below => parted.old_effect marks stored below
  · apply Cmdb.answer_keeps (fun after => ∀ other, ∀ key ∈ worker.keysOf (deliveries other),
      ∀ server ∈ after.servers.rows, key.holds server = true →
        namedHosts worker deliveries mine server = mine other) parted.selected
    exact fun other key named server stored holds =>
      parted.selected_effect divided marks named stored holds
  · apply before.forall_heard_move task fun other heard => ∀ row ∈ handed heard,
      (before.db.answer op outcome).2.Apart _ _ row
    · exact fun other row shown => (parted.apart other row shown).answer (stable.away _) outcome
    · intro row shown
      rw [handed_append, List.mem_append] at shown
      rcases shown with old | new
      · exact (parted.apart task row old).answer (stable.away _) outcome
      · exact confined.answer_handed ((parted.labelled divided).away _) new

omit divided in
/-- An event that is no call changes nothing. -/
theorem recorded (task : ι) {event : Event} (noCall : event.isCall = false) :
    Parted worker deliveries mine db (before.move task event before.db) := by
  refine ⟨parted.next, parted.rails, parted.old, parted.selected, before.forall_heard_move task
    (fun other heard => ∀ row ∈ handed heard, before.db.Apart _ _ row) event before.db parted.apart
      ?_⟩
  intro row shown
  rw [handed_append, handedRows_free noCall, List.append_nil] at shown
  exact parted.apart task row shown

end Parted

/-! ## The run of one side -/

variable {ι : Type} [DecidableEq ι] {permits : Faults} {worker : MessageHandlerService}
  {deliveries : ι → Delivery} {mine : ι → Bool} {db : Cmdb} {state : FieldErrors}
  {last : Crowd ι} {rests : ι → Prog service (Except Exn Unit × FieldErrors)}

/-- A call justifies itself by what its task was handed, and marks what it writes. -/
def ownRule (keys : List ServerKey) (earlier : List Event) (event : Event) : Prop :=
  reachRule keys earlier event ∧ markRule keys event

/-- Both rules together are the rule of one task. -/
theorem justified_own {keys : List ServerKey} {history : List Event}
    (reaching : Justified (reachRule keys) history)
    (marking : Justified (fun _ event => markRule keys event) history) :
    Justified (ownRule keys) history :=
  fun earlier event later parts =>
    ⟨reaching earlier event later parts, marking earlier event later parts⟩

/-- A delivery reaches rows of its own hosts and marks what it writes, in every
state. -/
theorem handleMessage_own {delivery : Delivery} (tags : worker.TagsAside db delivery) :
    (worker.handleMessage delivery).Ensures (unsteady permits)
      (fun after => Justified (ownRule (worker.keysOf delivery)) after.history)
      (fun _ _ after => Justified (ownRule (worker.keysOf delivery)) after.history)
      state ⟨db, []⟩ := by
  refine (((worker.handleMessage_reaches delivery state db).and
    (worker.handleMessage_marks delivery state db tags)).env_mono
      (fun _ _ _ _ step => step) ?_).mono ?_
  · exact fun _ held => justified_own held.1 held.2
  · exact fun _ _ _ held => justified_own held.1 held.2

/-- The run lemma: in every state the sides are parted, and every call is justified. -/
theorem parted_run (divided : Divided worker deliveries mine db)
    (interleaved : Interleaved (crowding permits) (Crowd.start db)
      (deliveryTasks worker deliveries state) last rests) :
    Parted worker deliveries mine db last ∧
      ∀ task, Justified (ownRule (worker.keysOf (deliveries task))) (last.heard task) := by
  refine crowd_justified (fun task => ownRule (worker.keysOf (deliveries task)))
    (Parted worker deliveries mine db) (fun _ _ _ _ _ step => step) ?_ (.start divided)
    (fun task => handleMessage_own (divided.tags task)) interleaved
  intro task op before reply after parted step justified
  revert justified
  apply crowding_keeps (fun event after => ownRule (worker.keysOf (deliveries task))
    (before.heard task) event → Parted worker deliveries mine db after) ?_ ?_ step
  · exact fun call outcome _ justified => parted.call divided justified.1 justified.2 outcome
  · exact fun event noCall _ => parted.recorded task noCall

/-- The calls of the crowd on a store whose next ids may be higher. -/
def gapped (permits : Faults) (task : ι) : Env service (Crowd ι) :=
  fun op before reply after => ∃ store, before.db.Raised store ∧
    crowding permits task op ⟨store, before.heard⟩ reply after

/-- The crowd without the others: its store is the part of one side, up to the next ids, and the
tasks of that side have heard the same. -/
def Alone (hosts : Row Columns → Bool) (own : Nat → Bool) (mine : ι → Bool)
    (crowd alone : Crowd ι) : Prop :=
  alone.db.Raised (crowd.db.part hosts own) ∧
    ∀ task, mine task = true → alone.heard task = crowd.heard task

section Alone

variable {hosts : Row Columns → Bool} {own : Nat → Bool} {before alone : Crowd ι} {task : ι}

/-- One more event of a task of the side, heard by that task in both crowds. -/
theorem Alone.move (near : Alone hosts own mine before alone) (event : Event) (after : Cmdb) :
    Alone hosts own mine (before.move task event after)
      (alone.move task event (after.part hosts own)) := by
  refine ⟨.refl _, fun other side => ?_⟩
  by_cases same : other = task
  · subst same
    rw [Crowd.heard_move, Crowd.heard_move, near.2 other side]
  · rw [Crowd.heard_move_other _ _ _ _ same, Crowd.heard_move_other _ _ _ _ same,
      near.2 other side]

/-- The step lemma for a task of the side: its part answers in the same way. -/
theorem Alone.call (near : Alone hosts own mine before alone) {op : CmdbOp}
    (keeps : before.db.KeepsTo hosts own op) (labelled : before.db.Labelled hosts own)
    {outcome : Outcome} (permitted : permits op outcome) :
    ∃ moved, gapped permits task (.cmdb op) alone (before.db.answer op outcome).1 moved ∧
      Alone hosts own mine (before.move task ⟨.cmdb op, (before.db.answer op outcome).1⟩
        (before.db.answer op outcome).2) moved := by
  have answered := Cmdb.KeepsTo.answer keeps labelled outcome
  exact ⟨_, ⟨before.db.part hosts own, near.1, _, rfl, rfl, outcome, permitted, answered⟩,
    near.move _ _⟩

/-- An event that is no call is the same in both. -/
theorem Alone.recorded (near : Alone hosts own mine before alone) {op : ServiceOp}
    {reply : op.Reply} (noCall : Event.isCall ⟨op, reply⟩ = false) :
    ∃ moved, gapped permits task op alone reply moved ∧
      Alone hosts own mine (before.move task ⟨op, reply⟩ before.db) moved := by
  refine ⟨_, ⟨before.db.part hosts own, near.1, _, rfl, rfl, ?_⟩, near.move _ _⟩
  cases op with
  | cmdb op => cases noCall
  | started message => rfl
  | ack => rfl
  | nack => rfl

/-- The step lemma for the other tasks: the part only loses ids. -/
theorem Alone.pass (near : Alone hosts own mine before alone) (other : mine task = false)
    {event : Event} {after : Cmdb} (raised : (before.db.part hosts own).Raised (after.part hosts own)) :
    Alone hosts own mine (before.move task event after) alone := by
  refine ⟨near.1.trans raised, ?_⟩
  intro third side
  have apart : third ≠ task := by
    rintro rfl
    rw [other] at side
    cases side
  rw [Crowd.heard_move_other _ _ _ _ apart, near.2 third side]

end Alone

/-- Whatever the messages of the other side do: the messages of one side hear what they could
hear alone, on the rows of their own hosts, and leave these rows as they would leave them alone.
Only ids may be skipped. -/
theorem messages_independent (worker : MessageHandlerService) (deliveries : ι → Delivery)
    (mine : ι → Bool) (db : Cmdb) (divided : Divided worker deliveries mine db)
    (state : FieldErrors) (last : Crowd ι)
    (rests : ι → Prog service (Except Exn Unit × FieldErrors))
    (interleaved : Interleaved (crowding permits) (Crowd.start db)
      (deliveryTasks worker deliveries state) last rests) :
    ∃ alone, Interleaved (gapped permits) (Crowd.start (db.namedPart worker deliveries mine))
        (deliveryTasks worker deliveries state) alone
        (onlyOf mine rests (deliveryTasks worker deliveries state)) ∧
      alone.db.Raised (last.db.part (namedHosts worker deliveries mine)
        (db.ofHosts (namedHosts worker deliveries mine))) ∧
      ∀ task, mine task = true → alone.heard task = last.heard task := by
  have start : Alone (namedHosts worker deliveries mine)
      (db.ofHosts (namedHosts worker deliveries mine)) mine (Crowd.start db)
      (Crowd.start (db.namedPart worker deliveries mine)) := ⟨.refl _, fun _ _ => rfl⟩
  refine Interleaved.project _ ?_ start interleaved
  intro task op before reply after current next alone earlier turn step near
  have parted := (parted_run divided earlier).1
  have justified := (parted_run divided (earlier.trans (.call turn step (.refl _ _)))).2 task
  rw [(crowding_heard step).1] at justified
  have own := (justified_append.mp justified).2
  revert own
  apply crowding_keeps (fun event after => ownRule (worker.keysOf (deliveries task))
    (before.heard task) event → if mine task then ∃ moved, gapped permits task event.op alone
      event.reply moved ∧ Alone _ _ mine after moved else Alone _ _ mine after alone) ?_ ?_ step
  · intro call outcome permitted own
    have confined := parted.confined divided own.1 own.2
    cases side : mine task with
    | true =>
      rw [side] at confined
      exact near.call confined (parted.labelled divided) permitted
    | false =>
      rw [side] at confined
      exact near.pass side (confined.answer_raises outcome)
  · intro event noCall _
    cases side : mine task with
    | true => exact near.recorded noCall
    | false => exact near.pass side (.refl _)

/-- A create of the host `u1`, and a delete of the host `u2` next to it. -/
def twoHosts : Bool → Delivery
  | true => .ok (AsciiRuntime.createMessage "dc1-b1" []
      [("net", [AsciiRuntime.fixedAddress "10.0.0.7" "m1" 1])])
  | false => .ok (AsciiRuntime.deleteMessage "u2")

/-- Two deliveries for different hosts, interleaved call by call, each losing
one reply. -/
def twoHostsEnd : (Bool → Prog service (Except Exn Unit × FieldErrors)) × Crowd Bool :=
  play (Crowd.scripted fun _ => [(2, lostReply)])
    [false, true, false, true, true, false, true, true, true, false, true]
    (deliveryTasks AsciiRuntime.service twoHosts {}) (Crowd.start neighbours)

/-- No server of the two has keys of both messages. -/
theorem twoHosts_apart (server : Row Columns) (stored : server ∈ neighbours.servers.rows) :
    ServerKey.holds server (.uuid (some "u2")) = false ∨
      ServerKey.holds server (.hostname "dc1-b1") = false ∧
        ServerKey.holds server (.uuid (some "u1")) = false := by
  rcases List.mem_cons.mp stored with rfl | rest
  · exact Or.inl (by decide)
  · rw [List.mem_singleton.mp rest]
    exact Or.inr (by decide)

/-- The two messages divide the store of two hosts, by cases on the tasks: their
keys differ, and every stored server carries keys of one of them only. -/
theorem twoHosts_divided : Divided AsciiRuntime.service twoHosts id neighbours := by
  have first : AsciiRuntime.service.keysOf (twoHosts true) =
      [.hostname "dc1-b1", .uuid (some "u1")] := rfl
  have second : AsciiRuntime.service.keysOf (twoHosts false) = [.uuid (some "u2")] := rfl
  constructor
  · intro task other apart
    cases task <;> cases other
    · exact absurd rfl apart
    · simp [first, second]
    · simp [first, second]
    · exact absurd rfl apart
  · intro task other apart server stored key named holds key' named'
    have either := twoHosts_apart server stored
    cases task <;> cases other
    · exact absurd rfl apart
    · rw [second, List.mem_singleton] at named
      subst named
      rw [first, List.mem_cons, List.mem_singleton] at named'
      have none := either.resolve_left (by simp [holds])
      rcases named' with rfl | rfl
      · exact none.1
      · exact none.2
    · rw [second, List.mem_singleton] at named'
      subst named'
      rw [first, List.mem_cons, List.mem_singleton] at named
      refine either.resolve_right fun none => ?_
      rcases named with rfl | rfl
      · simp [none.1] at holds
      · simp [none.2] at holds
    · exact absurd rfl apart
  · exact fun rail stored => nomatch stored
  · intro task
    cases task with
    | true =>
      intro content read
      obtain rfl := Option.some.inj (Except.ok.inj read)
      intro _ key member
      cases member
    | false =>
      intro content read
      cases read

/-- The create runs among the calls of the delete as it would alone. -/
theorem messages_independent_twoHosts :
    ∃ alone, Interleaved (gapped everyFault)
        (Crowd.start (neighbours.namedPart AsciiRuntime.service twoHosts id))
        (deliveryTasks AsciiRuntime.service twoHosts {}) alone
        (onlyOf id twoHostsEnd.1 (deliveryTasks AsciiRuntime.service twoHosts {})) ∧
      alone.db.Raised (twoHostsEnd.2.db.part (namedHosts AsciiRuntime.service twoHosts id)
        (neighbours.ofHosts (namedHosts AsciiRuntime.service twoHosts id))) ∧
      ∀ task, id task = true → alone.heard task = twoHostsEnd.2.heard task :=
  messages_independent AsciiRuntime.service twoHosts id neighbours twoHosts_divided {} _ _
    (play_interleaved (scripted_crowding (fun _ => trivial) fun _ _ _ _ => trivial) _ _ _)

end InstanceLifecycle
