import InstanceLifecycle.Addresses.Types
import InstanceLifecycle.Create.CardRecovery
import InstanceLifecycle.Interaction.Interleaving
import Mathlib.Data.List.Induction

/-!
# Types by what is stored and by what was tried

A create types its addresses by a running set that takes in the type of every insert, an
attach by the rows it reads back. The two differ once the first insert of a type that may be
there only once was rejected: its type counts as used, and nothing carries it. As long as no
other address of this type follows, that makes no difference.
-/

namespace InstanceLifecycle

open Interaction Store InstanceHandler

/-! ## Logs of typed inserts -/

/-- An insert of an address: the type of its prefix, the type it was given, and whether the
row is stored. -/
structure TypedInsert where
  prefixType : Option String
  type : Option String
  stored : Bool
deriving DecidableEq

/-- The types of all inserts, rejected ones included. This is what the loop of a
create counts as used. -/
def triedTypes (log : List TypedInsert) : List (Option String) := log.map TypedInsert.type

/-- The types of the inserts that were kept, which is what a later attach will
see. -/
def storedTypes (log : List TypedInsert) : List (Option String) :=
  (log.filter TypedInsert.stored).map TypedInsert.type

/-- The type follows from the types tried before, as the code computes it. -/
def TypedByTried (earlier : List TypedInsert) (entry : TypedInsert) : Prop :=
  entry.type = some (resolveIpType entry.prefixType (triedTypes earlier))

/-- The type follows from the types stored before, as it would be computed from
the rows. -/
def TypedByStored (earlier : List TypedInsert) (entry : TypedInsert) : Prop :=
  entry.type = some (resolveIpType entry.prefixType (storedTypes earlier))

/-- The first insert for a prefix of this type, kept or not. Its fate decides
whether the two computations part. -/
def firstOf (type : String) (log : List TypedInsert) : Option TypedInsert :=
  log.find? (fun entry => decide (entry.prefixType = some type))

/-- The first insert for a `be` or `fe` prefix before this one was not rejected. -/
def FirstKept (earlier : List TypedInsert) (entry : TypedInsert) : Prop :=
  ∀ type ∈ ["be", "fe"], entry.prefixType = some type → ∀ first ∈ firstOf type earlier,
    first.stored = true

instance (earlier : List TypedInsert) (entry : TypedInsert) : Decidable (FirstKept earlier entry) :=
  inferInstanceAs (Decidable (∀ type ∈ ["be", "fe"], entry.prefixType = some type →
    ∀ first ∈ firstOf type earlier, first.stored = true))

/-- Every address has the type the stored ones leave it, and of the stored addresses with a `be`
or `fe` prefix exactly one has the type of the prefix. -/
structure TypedAsStored (log : List TypedInsert) : Prop where
  types : Justified TypedByStored log
  single : ∀ type ∈ ["be", "fe"],
    (∃ entry ∈ log, entry.stored = true ∧ entry.prefixType = some type) →
      (storedTypes log).count (some type) = 1

section Logs

variable {log : List TypedInsert} {entry : TypedInsert} {type : String}

/-- One insert more has its type at the end. -/
theorem triedTypes_append : triedTypes (log ++ [entry]) = triedTypes log ++ [entry.type] := by
  simp [triedTypes]

/-- One insert more has its type at the end if it was kept. -/
theorem storedTypes_append : storedTypes (log ++ [entry]) =
    storedTypes log ++ if entry.stored then [entry.type] else [] := by
  cases kept : entry.stored <;> simp [storedTypes, kept]

/-- The first insert stays the first, and a new one is it only if there was
none. -/
theorem firstOf_append : firstOf type (log ++ [entry]) =
    (firstOf type log).or (if entry.prefixType = some type then some entry else none) := by
  rw [firstOf, List.find?_append, firstOf]
  by_cases own : entry.prefixType = some type <;> simp [own]

/-- A type that may be there only once is given to the first address that may have it. -/
theorem resolveIpType_single (single : type ∈ ["be", "fe"]) {prefixType : Option String}
    {used : List (Option String)} :
    resolveIpType prefixType used = type ↔ prefixType = some type ∧ some type ∉ used := by
  constructor
  · exact resolveIpType_new single
  · rintro ⟨rfl, free⟩
    have one : type = "be" ∨ type = "fe" := by simpa using single
    simp [resolveIpType, one, free]

/-- Two sets of used types that agree on the type of the prefix give one type. -/
theorem resolveIpType_congr {prefixType : Option String} {used other : List (Option String)}
    (agree : ∀ type ∈ ["be", "fe"], prefixType = some type →
      (some type ∈ used ↔ some type ∈ other)) :
    resolveIpType prefixType used = resolveIpType prefixType other := by
  cases prefixType with
  | none => rfl
  | some own =>
    by_cases single : own ∈ ["be", "fe"]
    · have same : some own ∈ used ↔ some own ∈ other := agree own single rfl
      simp only [resolveIpType, same]
    · have other : ¬ (own = "be" ∨ own = "fe") := by simpa using single
      simp [resolveIpType, other]

/-- What was tried and what is stored of a type, by the first insert for it. -/
structure ByFirst (type : String) (log : List TypedInsert) : Prop where
  tried : some type ∈ triedTypes log ↔ (firstOf type log).isSome = true
  stored : some type ∈ storedTypes log ↔
    ∃ first, firstOf type log = some first ∧ first.stored = true
  few : (storedTypes log).count (some type) ≤ 1

/-- By induction on the inserts: only the first one for the type is given it. -/
theorem byFirst (single : type ∈ ["be", "fe"]) (given : Justified TypedByTried log) :
    ByFirst type log := by
  induction log using List.reverseRecOn with
  | nil =>
    constructor
    · simp [triedTypes, firstOf]
    · simp [storedTypes, firstOf]
    · simp [storedTypes]
  | append_singleton earlier entry ih =>
    obtain ⟨before, typed⟩ := justified_append.mp given
    obtain ⟨tried, stored, few⟩ := ih before
    have own : entry.type = some type ↔
        entry.prefixType = some type ∧ firstOf type earlier = none := by
      rw [typed, Option.some.injEq, resolveIpType_single single, tried]
      simp
    have more : ∀ types : List (Option String), some type ∈ types ++ [entry.type] ↔
        some type ∈ types ∨ entry.type = some type := by simp [eq_comm]
    cases found : firstOf type earlier with
    | some first =>
      have first_of : firstOf type (earlier ++ [entry]) = some first := by
        rw [firstOf_append, found]
        rfl
      have other : entry.type ≠ some type := by
        intro given
        have none := (own.mp given).2
        rw [found] at none
        cases none
      rw [found] at tried stored
      constructor
      · rw [triedTypes_append, more, tried, first_of]
        simp
      · rw [storedTypes_append, first_of, ← stored]
        cases entry.stored <;> simp [other.symm]
      · rw [storedTypes_append, List.count_append]
        cases entry.stored <;> simpa [other] using few
    | none =>
      rw [found] at tried stored
      have unstored : some type ∉ storedTypes earlier := by simp [stored]
      have zero := List.count_eq_zero.mpr unstored
      have first_of : firstOf type (earlier ++ [entry]) =
          if entry.prefixType = some type then some entry else none := by
        rw [firstOf_append, found]
        rfl
      by_cases same : entry.prefixType = some type
      · have given : entry.type = some type := own.mpr ⟨same, found⟩
        rw [if_pos same] at first_of
        constructor
        · rw [triedTypes_append, more, first_of]
          simp [given]
        · rw [storedTypes_append, first_of]
          cases kept : entry.stored <;> simp [kept, given, unstored]
        · rw [storedTypes_append, List.count_append, zero, given]
          cases entry.stored <;> simp
      · have other : entry.type ≠ some type := fun given => same (own.mp given).1
        rw [if_neg same] at first_of
        constructor
        · rw [triedTypes_append, more, tried, first_of]
          simp [other]
        · rw [storedTypes_append, first_of]
          cases entry.stored <;> simp [other.symm, unstored]
        · rw [storedTypes_append, List.count_append, zero]
          cases entry.stored <;> simp [other]

/-- At each insert the two sets give one type just if the first insert for it was kept. -/
theorem typedByStored_iff (given : Justified TypedByTried log) (typed : TypedByTried log entry) :
    TypedByStored log entry ↔ FirstKept log entry := by
  rw [TypedByTried] at typed
  constructor
  · intro asStored type single own first found
    rw [TypedByStored, typed, Option.some.injEq] at asStored
    obtain ⟨tried, stored, -⟩ := byFirst single given
    have used : some type ∈ triedTypes log := tried.mpr (Option.isSome_of_mem found)
    by_contra rejected
    have free : some type ∉ storedTypes log := by
      rw [stored]
      rintro ⟨other, same, kept⟩
      rw [found] at same
      cases same
      exact rejected kept
    have new := (resolveIpType_single single).mpr ⟨own, free⟩
    rw [← asStored, resolveIpType_single single] at new
    exact new.2 used
  · intro kept
    rw [TypedByStored, typed, Option.some.injEq]
    apply resolveIpType_congr
    intro type single own
    obtain ⟨tried, stored, -⟩ := byFirst single given
    rw [tried, stored]
    constructor
    · intro some
      obtain ⟨first, found⟩ := Option.isSome_iff_exists.mp some
      exact ⟨first, found, kept type single own first found⟩
    · rintro ⟨first, found, -⟩
      simp [found]

/-- For a log typed by what was tried, being typed by what was stored is the
same as never typing behind a rejected first. By induction from the end of the
log. -/
theorem justified_typedByStored_iff (given : Justified TypedByTried log) :
    Justified TypedByStored log ↔ Justified FirstKept log := by
  induction log using List.reverseRecOn with
  | nil => exact iff_of_true (justified_nil _) (justified_nil _)
  | append_singleton earlier entry ih =>
    obtain ⟨before, typed⟩ := justified_append.mp given
    rw [justified_append, justified_append, ih before, typedByStored_iff before typed]

/-- The first address with such a prefix is stored if any is, and it has the type. -/
theorem single_of_kept (given : Justified TypedByTried log) (kept : Justified FirstKept log)
    (single : type ∈ ["be", "fe"])
    (present : ∃ entry ∈ log, entry.stored = true ∧ entry.prefixType = some type) :
    (storedTypes log).count (some type) = 1 := by
  obtain ⟨-, stored, few⟩ := byFirst single given
  obtain ⟨entry, member, isStored, own⟩ := present
  obtain ⟨earlier, later, rfl⟩ := List.append_of_mem member
  have first : ∃ first, firstOf type (earlier ++ entry :: later) = some first ∧
      first.stored = true := by
    rw [firstOf, List.find?_append]
    cases found : firstOf type earlier with
    | some first =>
      rw [firstOf] at found
      exact ⟨first, by simp [found], kept earlier entry later rfl type single own first found⟩
    | none =>
      rw [firstOf] at found
      exact ⟨entry, by simp [found, own], isStored⟩
  have once := List.count_pos_iff.mpr (stored.mpr first)
  omega

/-- The types are as the stored rows say exactly when no address follows the rejected first one
of its type. -/
theorem typedAsStored_iff (given : Justified TypedByTried log) :
    TypedAsStored log ↔ Justified FirstKept log := by
  constructor
  · exact fun asStored => (justified_typedByStored_iff given).mp asStored.types
  · intro kept
    constructor
    · exact (justified_typedByStored_iff given).mpr kept
    · exact fun type single present => single_of_kept given kept single present

end Logs

/-! ## The inserts of a run -/

/-- The type of the prefix that contains the address, if there is one and it has
a type. -/
def prefixTypeOf (handler : InstanceHandler) (prefixes : List NetworkPrefix) (addr : String) :
    Option String :=
  (ipInNetPrefixes handler.runtime addr prefixes).bind NetworkPrefix.type

/-- The insert of an IP as an entry of the log, with the type of its prefix
beside the type it was given. -/
def Event.typedInsert (prefixType : String → Option String) : Event → Option TypedInsert
  | ⟨.cmdb (.ipInsertOne columns), .ok _⟩ => some ⟨prefixType columns.ip, columns.type, true⟩
  | ⟨.cmdb (.ipInsertOne columns), .error _⟩ => some ⟨prefixType columns.ip, columns.type, false⟩
  | _ => none

/-- The inserts among some events, in their order. -/
def insertLog (prefixType : String → Option String) (events : List Event) : List TypedInsert :=
  events.filterMap (Event.typedInsert prefixType)

/-- Inserts may be rejected for good, without an effect; nothing else fails. -/
def rejections : Faults := fun op outcome =>
  match outcome with
  | .ok => True
  | .fail error landed => error.isTransport = false ∧ landed = false ∧ match op with
      | .endpointInsertOne _ | .ipInsertOne _ => True
      | _ => False

section Runs

variable {handler : InstanceHandler} {ctx : CreateContext} {state : FieldErrors} {world : World}
  {inv : World → Prop}

/-- Under rejections a call is one invocation, answered or swallowed. Nothing
fails by transport, so no attempt is repeated and no selector runs. -/
theorem rejectableCall_ensures {options : CallOptions} {op : CmdbOp}
    {selector : Option (Run (Option op.Rows))}
    {post : Except Exn (Option op.Rows) → FieldErrors → World → Prop}
    (swallowed : options.raiseOnDataError = false)
    (kept : ∀ outcome, rejections op outcome → inv (world.next op outcome))
    (answered : ∀ outcome row, rejections op outcome →
      (world.db.answer op outcome).1 = .ok row →
        post (.ok (some row)) state (world.next op outcome))
    (refused : ∀ outcome error final, rejections op outcome →
      (world.db.answer op outcome).1 = .error error →
        post (.ok none) final (world.next op outcome)) :
    (handler.cmdbCall options (cmdb op) selector).Ensures (faulty rejections) inv post state
      world := by
  apply call_ensures (fun current => current = world) (fun _ => False) rfl
  · rintro current rfl outcome permitted
    refine ⟨kept outcome permitted, ?_⟩
    cases reply : (current.db.answer op outcome).1 with
    | ok row => exact answered outcome row permitted reply
    | error error =>
      have permanent : error.isTransport = false := by
        cases outcome with
        | fail other landed =>
          cases reply
          exact permitted.1
        | ok =>
          simp only [Cmdb.answer] at reply
          split at reply <;> cases reply
          rfl
      simp only [replyExit, permanent, swallowed, Bool.false_eq_true, if_false]
      exact refused outcome error _ permitted reply
  · exact fun _ _ _ impossible => impossible.elim
  · exact fun _ _ impossible => impossible.elim

/-- The inserts since a point of the history: typed by what was tried, and stored on the
server as logged. -/
structure Typing (prefixType : String → Option String) (serverId : Nat) (before : World)
    (log : List TypedInsert) (world : World) : Prop where
  reference : world.db.reference = before.db.reference
  logged : ∃ events, world.history = before.history ++ events ∧ insertLog prefixType events = log
  given : Justified TypedByTried log
  stored : world.db.ipTypes serverId = storedTypes log

/-- There is a log like this. It is the form of the invariant, as a state does
not name its log. -/
def Typed (prefixType : String → Option String) (serverId : Nat) (before world : World) : Prop :=
  ∃ log, Typing prefixType serverId before log world

namespace Typing

variable {prefixType : String → Option String} {serverId : Nat} {before : World}
  {log : List TypedInsert}

/-- A state with this log has one. -/
theorem typed (typing : Typing prefixType serverId before log world) :
    Typed prefixType serverId before world := ⟨log, typing⟩

/-- Reading logs no insert and leaves the stored types alone. The events that a
read adds to the history are all silent, so the log of the inserts stops where
it did. -/
theorem reads {after : World} (typing : Typing prefixType serverId before log world)
    (reads : world.Reads after) : Typing prefixType serverId before log after := by
  obtain ⟨events, since, same⟩ := typing.logged
  obtain ⟨added, more, silent⟩ := reads.events
  refine ⟨by rw [reads.db, typing.reference], ⟨events ++ added, ?_, ?_⟩, typing.given, ?_⟩
  · rw [more, since, List.append_assoc]
  · have none : insertLog prefixType added = [] := by
      rw [insertLog, List.filterMap_eq_nil_iff]
      intro event member
      have isRead := silent event member
      obtain ⟨op, reply⟩ := event
      cases op with
      | cmdb op => cases op <;> first | rfl | cases isRead
      | _ => rfl
    rw [insertLog, List.filterMap_append]
    change insertLog prefixType events ++ insertLog prefixType added = log
    rw [none, List.append_nil, same]
  · rw [reads.db, typing.stored]

/-- The insert of an endpoint logs no address either, and the endpoint it stores
has no IPs, so the types of the server are those from before. -/
theorem endpoint (typing : Typing prefixType serverId before log world) (columns : Endpoint)
    (outcome : Outcome) :
    Typing prefixType serverId before log (world.next (.endpointInsertOne columns) outcome) := by
  obtain ⟨events, since, same⟩ := typing.logged
  have took : (world.db.effect (.endpointInsertOne columns)).ipTypes serverId =
      world.db.ipTypes serverId := ipTypes_insertEndpoint world.db columns serverId
  have kept : (world.next (.endpointInsertOne columns) outcome).db.ipTypes serverId =
      world.db.ipTypes serverId :=
    Cmdb.answer_keeps (fun after => after.ipTypes serverId = world.db.ipTypes serverId) rfl took
      outcome
  refine ⟨?_, ⟨events ++ [⟨.cmdb (.endpointInsertOne columns),
    (world.db.answer (.endpointInsertOne columns) outcome).1⟩], ?_, ?_⟩, typing.given, ?_⟩
  · rw [World.next_db, Cmdb.answer_reference, typing.reference]
  · rw [World.next_history, since, List.append_assoc]
  · rw [← same, insertLog, List.filterMap_append]
    exact List.append_nil _
  · rw [kept, typing.stored]

/-- The insert of an address logs it, rejected or not, and it is among the
stored types exactly when it was kept. -/
theorem insertIp (typing : Typing prefixType serverId before log world) {columns : Ip}
    (hangs : ∃ endpoint ∈ world.db.endpointsOf serverId, endpoint.id = columns.networkEndpointId)
    (type : columns.type = some (resolveIpType (prefixType columns.ip) (triedTypes log)))
    (outcome : Outcome) (permitted : rejections (.ipInsertOne columns) outcome) :
    ∃ stored, Typing prefixType serverId before
      (log ++ [⟨prefixType columns.ip, columns.type, stored⟩])
      (world.next (.ipInsertOne columns) outcome) := by
  obtain ⟨events, since, same⟩ := typing.logged
  obtain ⟨endpoint, member, own⟩ := hangs
  obtain ⟨present, server⟩ := List.mem_filter.mp member
  have reference : (world.next (.ipInsertOne columns) outcome).db.reference =
      before.db.reference := by
    rw [World.next_db, Cmdb.answer_reference, typing.reference]
  have given : ∀ stored, Justified TypedByTried
      (log ++ [⟨prefixType columns.ip, columns.type, stored⟩]) :=
    fun stored => justified_append.mpr ⟨typing.given, type⟩
  have history : ∀ reply, (world.db.answer (.ipInsertOne columns) outcome).1 = reply →
      (world.next (.ipInsertOne columns) outcome).history =
        before.history ++ (events ++ [⟨.cmdb (.ipInsertOne columns), reply⟩]) := by
    rintro reply rfl
    rw [World.next_history, since, List.append_assoc]
  cases outcome with
  | ok =>
    have admitted : world.db.admits (.ipInsertOne columns) = true :=
      admits_ip ⟨endpoint, present, own⟩
    refine ⟨true, reference, ⟨_, history (.ok world.db.ips.next) ?_, ?_⟩, given true, ?_⟩
    · simp only [Cmdb.answer, admitted, if_true]
      rfl
    · rw [insertLog, List.filterMap_append, ← same]
      rfl
    · have added := ipTypes_insertIp world.db columns present own serverId
      rw [if_pos (of_decide_eq_true server)] at added
      rw [storedTypes_append, ← typing.stored]
      exact added
  | fail error landed =>
    obtain ⟨-, rfl, -⟩ := permitted
    refine ⟨false, reference, ⟨_, history (.error error) rfl, ?_⟩, given false, ?_⟩
    · rw [insertLog, List.filterMap_append, ← same]
      rfl
    · rw [storedTypes_append, ← typing.stored]
      exact (List.append_nil _).symm

end Typing

/-- What the addresses of the create are typed by: the prefixes of its
datacenter. -/
def createPrefixType (handler : InstanceHandler) (ctx : CreateContext) (world : World) :
    String → Option String :=
  prefixTypeOf handler (world.db.rows (.networkPrefixSelect ctx.dcName))

variable {before : World} {serverId : Nat} {log : List TypedInsert}

/-- The insert of one address, kept or rejected, leads to a log with one entry
more. A rejection is swallowed, so the loop goes on in both cases. -/
theorem insertAddress_typed {prefixType : String → Option String} {options : CallOptions}
    {columns : Ip} {selector : Option (Run (Option Nat))}
    {post : Except Exn (Option Nat) → FieldErrors → World → Prop}
    (swallowed : options.raiseOnDataError = false)
    (typing : Typing prefixType serverId before log world)
    (hangs : ∃ endpoint ∈ world.db.endpointsOf serverId, endpoint.id = columns.networkEndpointId)
    (type : columns.type = some (resolveIpType (prefixType columns.ip) (triedTypes log)))
    (onward : ∀ row final after stored, Typing prefixType serverId before
      (log ++ [⟨prefixType columns.ip, columns.type, stored⟩]) after →
      (∃ endpoint ∈ after.db.endpointsOf serverId, endpoint.id = columns.networkEndpointId) →
      post (.ok row) final after) :
    (handler.cmdbCall options (cmdb (.ipInsertOne columns)) selector).Ensures (faulty rejections)
      (Typed prefixType serverId before) post state world := by
  have still : ∀ outcome, ∃ endpoint ∈
      (world.next (.ipInsertOne columns) outcome).db.endpointsOf serverId,
        endpoint.id = columns.networkEndpointId := by
    intro outcome
    refine Cmdb.answer_keeps (fun last => ∃ endpoint ∈ last.endpointsOf serverId,
      endpoint.id = columns.networkEndpointId) hangs ?_ outcome
    change ∃ endpoint ∈ (world.db.insertIp columns).endpointsOf serverId, _
    rw [Cmdb.endpointsOf, Cmdb.insertIp_endpoints]
    exact hangs
  apply rejectableCall_ensures swallowed
  · intro outcome permitted
    obtain ⟨stored, later⟩ := typing.insertIp hangs type outcome permitted
    exact later.typed
  · intro outcome row permitted _
    obtain ⟨stored, later⟩ := typing.insertIp hangs type outcome permitted
    exact onward _ _ _ stored later (still outcome)
  · intro outcome error final permitted _
    obtain ⟨stored, later⟩ := typing.insertIp hangs type outcome permitted
    exact onward _ _ _ stored later (still outcome)

/-- The addresses of a card extend the log, and the types used at the end are
those tried. By induction on the addresses. -/
theorem persistAddresses_typed {endpointId : Nat} (addresses : List String)
    (typing : Typing (createPrefixType handler ctx before) serverId before log world)
    (hangs : ∃ endpoint ∈ world.db.endpointsOf serverId, endpoint.id = endpointId) :
    (handler.persistAddresses ctx endpointId (triedTypes log) addresses).Ensures (faulty rejections)
      (Typed (createPrefixType handler ctx before) serverId before) (fun result _ after =>
        ∃ log, Typing (createPrefixType handler ctx before) serverId before log after ∧
          ∀ types, result = .ok types → types = triedTypes log) state world := by
  induction addresses generalizing log state world with
  | nil =>
    refine ⟨log, typing, ?_⟩
    rintro types ⟨⟩
    rfl
  | cons addr rest ih =>
    rw [persistAddresses]
    refine (getNetPrefixByIp_answers addr ctx.dcName true ?_ ?_).bind ?_ ?_
    · intro outcome permitted
      cases outcome with
      | ok => trivial
      | fail error landed => exact permitted.2.2.elim
    · exact fun current outcome reads =>
        (typing.reads (reads.trans (next_reads current _ rfl outcome))).typed
    · rintro found final after ⟨rfl, reads, answer⟩
      have now := typing.reads reads
      have still : ∃ endpoint ∈ after.db.endpointsOf serverId, endpoint.id = endpointId := by
        rw [reads.db]
        exact hangs
      cases found with
      | none => exact ih now still
      | some netPrefix =>
        have located := answer _ rfl
        simp only
        generalize shape : (⟨some addr, addr, some importerName, some providerName, endpointId,
          some netPrefix.id, some (resolveIpType netPrefix.type (triedTypes log))⟩ : Ip) = columns
        have hung : columns.networkEndpointId = endpointId := by rw [← shape]
        have given : columns.type = some (resolveIpType netPrefix.type (triedTypes log)) := by
          rw [← shape]
        have typed : columns.type =
            some (resolveIpType (createPrefixType handler ctx before columns.ip)
              (triedTypes log)) := by
          have address : columns.ip = addr := by rw [← shape]
          have same : before.db.rows (.networkPrefixSelect ctx.dcName) =
              world.db.rows (.networkPrefixSelect ctx.dcName) := by
            simp only [Cmdb.rows, typing.reference]
          rw [given, createPrefixType, prefixTypeOf, address, same, ← located]
          rfl
        rw [← hung] at still
        rw [Action.ensures_bind]
        apply insertAddress_typed rfl now still typed
        intro row state last stored typing hangs
        have more : triedTypes log ++ [some (resolveIpType netPrefix.type (triedTypes log))] =
            triedTypes (log ++ [⟨createPrefixType handler ctx before columns.ip, columns.type,
              stored⟩]) := by
          rw [triedTypes_append, given]
        rw [more]
        rw [hung] at hangs
        exact ih typing hangs
    · rintro exc middle after ⟨rfl, reads, -⟩
      exact ⟨log, typing.reads reads, by simp⟩

/-- The call for a card's endpoint keeps the typing, and an endpoint that it
hands back is one of the server. Without lost replies there is no re-select, so
it is the row of the insert itself. -/
theorem insertCard_typed {prefixType : String → Option String} {takenNames : List String}
    {card : HostNetwork} (typing : Typing prefixType serverId before log world) :
    (handler.insertCard serverId takenNames card).Ensures (faulty rejections)
      (Typed prefixType serverId before) (fun result _ after =>
        Typing prefixType serverId before log after ∧ ∀ endpoint, result = .ok (some endpoint) →
          ∃ row ∈ after.db.endpointsOf serverId, row.id = endpoint.id) state world := by
  apply rejectableCall_ensures rfl
  · exact fun outcome _ => (typing.endpoint _ outcome).typed
  · intro outcome row permitted answered
    refine ⟨typing.endpoint _ outcome, ?_⟩
    rintro endpoint ⟨⟩
    cases outcome with
    | fail error landed => cases answered
    | ok =>
      simp only [Cmdb.answer] at answered
      split at answered
      · rename_i admitted
        cases answered
        obtain ⟨server, stored, own⟩ := List.any_eq_true.mp admitted
        have same : server.id = serverId := of_decide_eq_true own
        have hangs := world.db.insertEndpoint_hangs (cardColumns serverId takenNames card) stored
          same.symm
        rw [same] at hangs
        exact ⟨_, hangs, rfl⟩
      · cases answered
  · exact fun outcome error final permitted _ => ⟨typing.endpoint _ outcome, by simp⟩

/-- The cards extend the log, by induction on them; the types used are handed
from card to card. -/
theorem persistCards_typed (cards : List HostNetwork) (takenNames : List String)
    (typing : Typing (createPrefixType handler ctx before) serverId before log world) :
    (handler.persistCards ctx serverId takenNames (triedTypes log) cards).Ensures
      (faulty rejections) (Typed (createPrefixType handler ctx before) serverId before)
      (fun _ _ after => Typed (createPrefixType handler ctx before) serverId before after) state
      world := by
  induction cards generalizing takenNames log state world with
  | nil => exact typing.typed
  | cons card rest ih =>
    rw [persistCards]
    refine (insertCard_typed typing).bind ?_ fun _ _ _ held => held.1.typed
    rintro endpoint final after ⟨now, hangs⟩
    cases endpoint with
    | none => exact ih _ now
    | some row =>
      refine (persistAddresses_typed card.addresses now (hangs row rfl)).bind ?_ ?_
      · rintro types middle last ⟨log, typing, tried⟩
        rw [tried types rfl]
        exact ih _ typing
      · rintro exc middle last ⟨log, typing, -⟩
        exact typing.typed

end Runs

/-- An attach reads the types of the stored rows: its computation gives the same
type from its view and from the store. -/
theorem usedIpTypes_stored (db : Cmdb) (host : Row Columns) (prefixType : Option String) :
    resolveIpType prefixType (usedIpTypes (db.serverView host)) =
      resolveIpType prefixType (db.ipTypes host.id) := by
  apply resolveIpType_congr
  intro type _ _
  rw [Cmdb.mem_ipTypes, usedIpTypes, List.mem_flatMap]
  constructor
  · rintro ⟨view, member, typed⟩
    obtain ⟨endpoint, hangs, rfl⟩ := List.mem_map.mp member
    obtain ⟨ipView, nested, same⟩ := List.mem_map.mp typed
    obtain ⟨ip, listed, rfl⟩ := List.mem_map.mp nested
    obtain ⟨stored, own⟩ := List.mem_filter.mp listed
    exact ⟨ip, stored, endpoint, hangs, (of_decide_eq_true own).symm, same⟩
  · rintro ⟨ip, stored, endpoint, hangs, own, same⟩
    have nested : ip ∈ db.ipsOf endpoint.id :=
      List.mem_filter.mpr ⟨stored, decide_eq_true own.symm⟩
    refine ⟨_, List.mem_map_of_mem hangs, ?_⟩
    rw [← same]
    exact List.mem_map_of_mem (List.mem_map_of_mem nested)

/-- In every state of the cards of a create on a new server, whatever inserts are rejected: the
addresses are typed as by the stored rows, which an attach reads, exactly when no address of a
type follows the rejected first one. -/
theorem create_types_iff (handler : InstanceHandler) (ctx : CreateContext) (serverId : Nat)
    (state : FieldErrors) (world last : World) (new : world.db.endpointsOf serverId = [])
    (rest : Prog service (Except Exn Unit × FieldErrors))
    (run : Prog.Steps (faulty rejections) world (handler.persistNetEndpoints ctx serverId state)
      last rest) :
    ∃ events, last.history = world.history ++ events ∧
      last.db.ipTypes serverId =
        storedTypes (insertLog (createPrefixType handler ctx world) events) ∧
      (∀ host prefixType, host.id = serverId →
        resolveIpType prefixType (usedIpTypes (last.db.serverView host)) = resolveIpType prefixType
          (storedTypes (insertLog (createPrefixType handler ctx world) events))) ∧
      (TypedAsStored (insertLog (createPrefixType handler ctx world) events) ↔
        Justified FirstKept (insertLog (createPrefixType handler ctx world) events)) := by
  have empty : world.db.ipTypes serverId = [] := by
    rw [List.eq_nil_iff_forall_not_mem]
    intro type member
    obtain ⟨ip, -, endpoint, hangs, -⟩ := (world.db.mem_ipTypes serverId type).mp member
    rw [new] at hangs
    cases hangs
  have start : Typing (createPrefixType handler ctx world) serverId world [] world :=
    ⟨rfl, ⟨[], by simp, rfl⟩, justified_nil _, empty⟩
  obtain ⟨log, -, ⟨events, since, rfl⟩, given, stored⟩ :=
    (persistCards_typed ctx.hostNetworks (realNames ctx.hostNetworks) start).always start.typed run
  refine ⟨events, since, stored, ?_, typedAsStored_iff given⟩
  rintro host prefixType rfl
  rw [usedIpTypes_stored, stored]

/-- The insert of this address is rejected, and everything else is answered. -/
def rejecting (addr : String) : service.Op → Outcome
  | .cmdb (.ipInsertOne columns) =>
      if columns.ip = addr then .fail (.data "rejected") false else .ok
  | _ => .ok

/-- A store that rejects one address and answers everything else stays within
the rejections considered. By the call, of which only the IP insert matters. -/
theorem rejecting_possible (addr : String) (op : service.Op) (world : World) :
    faulty rejections op world (world.answer (rejecting addr op) op).1
      (world.answer (rejecting addr op) op).2 := by
  cases op with
  | cmdb op =>
    refine ⟨rfl, rejecting addr (.cmdb op), ?_, rfl⟩
    cases op with
    | ipInsertOne columns =>
      simp only [rejecting]
      split
      · exact ⟨rfl, rfl, trivial⟩
      · trivial
    | _ => trivial
  | started message => exact ⟨rfl, rfl⟩
  | ack => exact ⟨rfl, rfl⟩
  | nack => exact ⟨rfl, rfl⟩

/-- The sample cards, with three addresses of one `be` prefix, where the insert
of one of them is rejected. -/
def rejectedRun (addr : String) : (Except Exn Unit × FieldErrors) × World :=
  (AsciiRuntime.handler.persistNetEndpoints (sampleContext (clashingCards "m3")) 0 {}).run
    (fun op world => world.answer (rejecting addr op) op) ⟨AsciiRuntime.registered, []⟩

/-- It is one of the runs of the loop over the cards. -/
theorem rejectedRun_ends (addr : String) :
    Prog.Ends (faulty rejections) ⟨AsciiRuntime.registered, []⟩
      (AsciiRuntime.handler.persistNetEndpoints (sampleContext (clashingCards "m3")) 0 {})
      (rejectedRun addr).1 (rejectedRun addr).2 :=
  Prog.run_ends (rejecting_possible addr) _ _

/-- The inserts of that run. -/
def rejectedLog (addr : String) : List TypedInsert :=
  insertLog (createPrefixType AsciiRuntime.handler (sampleContext (clashingCards "m3"))
    ⟨AsciiRuntime.registered, []⟩) (rejectedRun addr).2.history

/-- The insert of the second address is rejected: the first was kept, so the
types are those of the stored rows. -/
theorem create_types_second : TypedAsStored (rejectedLog "10.0.0.9") := by
  obtain ⟨events, since, -, -, asStored⟩ := create_types_iff AsciiRuntime.handler
    (sampleContext (clashingCards "m3")) 0 {} ⟨AsciiRuntime.registered, []⟩ _ rfl _
    (rejectedRun_ends "10.0.0.9")
  have same : (rejectedRun "10.0.0.9").2.history = events := since
  rw [← same] at asStored
  apply asStored.mpr
  have log : rejectedLog "10.0.0.9" = [] ++ [⟨some "be", some "be", true⟩] ++
      [⟨some "be", some "int", false⟩] ++ [⟨some "be", some "int", true⟩] := by decide
  rw [rejectedLog] at log
  rw [log, justified_append, justified_append, justified_append]
  exact ⟨⟨⟨justified_nil _, by decide⟩, by decide⟩, by decide⟩

/-- The insert of the first address is rejected: no other one takes its type. -/
theorem create_types_first :
    Prog.Ends (faulty rejections) ⟨AsciiRuntime.registered, []⟩
        (AsciiRuntime.handler.persistNetEndpoints (sampleContext (clashingCards "m3")) 0 {})
        (rejectedRun "10.0.0.7").1 (rejectedRun "10.0.0.7").2 ∧
      (rejectedRun "10.0.0.7").2.db.ipTypes 0 = [some "int", some "int"] ∧
      ¬ TypedAsStored (rejectedLog "10.0.0.7") := by
  refine ⟨rejectedRun_ends "10.0.0.7", by decide, ?_⟩
  intro asStored
  have second := asStored.types [⟨some "be", some "be", false⟩] ⟨some "be", some "int", true⟩
    [⟨some "be", some "int", true⟩] (by decide)
  have resolved : some "int" = some (resolveIpType (some "be") []) := second
  exact absurd resolved (by decide)

end InstanceLifecycle
